import HhctrlMgmt.Scheduling.LocalTime
import Mathlib.Algebra.Ring.Divisibility.Basic
import Mathlib.Algebra.Ring.Int.Defs
import Mathlib.Order.Bounds.Basic

namespace HhctrlMgmt.Scheduling

open Datetime

-- Where the marked numbers recur with a period, one of them is the first from now on
-- exactly if it is within a period from now.
theorem isLeast_periodic_iff {marked : Int → Prop} {period now start candidate : Int} (hperiod : 0 < period)
    (hmarked : ∀ x, now ≤ x → x ≤ now + 2 * period → (marked x ↔ period ∣ x - start))
    (hcandidate : period ∣ candidate - start) (hnear : candidate ≤ now + 2 * period) :
    IsLeast {x | now ≤ x ∧ marked x} candidate ↔ now ≤ candidate ∧ candidate < now + period := by
  constructor
  · rintro ⟨⟨hnow, -⟩, hleast⟩
    refine ⟨hnow, ?_⟩
    by_contra hfar
    have hearlier : period ∣ candidate - period - start := by
      have hsub : candidate - period - start = candidate - start - period := by omega
      rw [hsub]
      exact Int.dvd_sub hcandidate (Int.dvd_refl period)
    have hmark : marked (candidate - period) := (hmarked _ (by omega) (by omega)).mpr hearlier
    have hle := hleast ⟨by omega, hmark⟩
    omega
  · rintro ⟨hnow, hwithin⟩
    refine ⟨⟨hnow, (hmarked candidate hnow hnear).mpr hcandidate⟩, ?_⟩
    rintro x ⟨hx, hmark⟩
    by_contra hbefore
    have hdvd : period ∣ candidate - x := by
      have hsub : candidate - x = (candidate - start) - (x - start) := by omega
      rw [hsub]
      exact Int.dvd_sub hcandidate ((hmarked x hx (by omega)).mp hmark)
    have hle := Int.le_of_dvd (by omega) hdvd
    omega

-- Around the time point a zone keeps its offset, in seconds, and no offset of it is
-- more than a day.
structure SteadyAround (zone : Zone) (offset now : Int) : Prop where
  bounded : ∀ second, -secondsPerDay ≤ zone.offset second ∧ zone.offset second ≤ secondsPerDay
  constant : ∀ second, now - 3 * nanosecondsPerDay ≤ second * nanosecondsPerSecond →
    second * nanosecondsPerSecond ≤ now + 3 * nanosecondsPerDay → zone.offset second = offset

-- The time of day in UTC.
def utcTime (timepoint : Timepoint) : Int :=
  timepoint % nanosecondsPerDay

theorem utcTime_spec (now : Int) :
    now = utcDay now * nanosecondsPerDay + utcTime now ∧ 0 ≤ utcTime now ∧ utcTime now < nanosecondsPerDay :=
  ⟨(Int.ediv_mul_add_emod now nanosecondsPerDay).symm, Int.emod_nonneg now (by decide),
    Int.emod_lt_of_pos now (by decide)⟩

section Steady

variable {zone : Zone} {offset now : Int} (hsteady : SteadyAround zone offset now)

include hsteady

-- An instant within two days of the date has the offset.
theorem offset_steady {second : Int} (hlow : (utcDay now - 1) * secondsPerDay ≤ second)
    (hhigh : second ≤ (utcDay now + 3) * secondsPerDay) : zone.offset second = offset := by
  have hspec := utcTime_spec now
  have hconstant := hsteady.constant second
  simp only [nanosecondsPerDay, nanosecondsPerSecond, secondsPerDay] at *
  exact hconstant (by omega) (by omega)

theorem offset_bounds : -secondsPerDay ≤ offset ∧ offset ≤ secondsPerDay := by
  have hlimits := hsteady.bounded (utcDay now * secondsPerDay)
  have hsame : zone.offset (utcDay now * secondsPerDay) = offset := by
    apply offset_steady hsteady
    · simp only [secondsPerDay]
      omega
    · simp only [secondsPerDay]
      omega
  rw [hsame] at hlimits
  exact hlimits

theorem toSys_steady {timeOfDay : Int} (hnonneg : 0 ≤ timeOfDay) (hbounded : timeOfDay < secondsPerDay) :
    zone.toSys (utcDay now * secondsPerDay + timeOfDay) = .ok (utcDay now * secondsPerDay + timeOfDay - offset) := by
  have hoffset := offset_bounds hsteady
  -- an instant that shows the local time is at most a day from it
  have hnear : ∀ second, second + zone.offset second = utcDay now * secondsPerDay + timeOfDay →
      zone.offset second = offset := by
    intro second hshows
    have hlimits := hsteady.bounded second
    apply offset_steady hsteady
    · simp only [secondsPerDay] at *
      omega
    · simp only [secondsPerDay] at *
      omega
  have hown : zone.offset (utcDay now * secondsPerDay + timeOfDay - offset) = offset := by
    apply offset_steady hsteady
    · simp only [secondsPerDay] at *
      omega
    · simp only [secondsPerDay] at *
      omega
  rw [zone.toSys_ok]
  refine ⟨by omega, fun other hother => ?_⟩
  have hsame := hnear other hother
  omega

-- From now on, for two days, the clocks show the time of day at the instants that are
-- some days from the parsed one.
theorem reads_steady {timeOfDay x : Int} (hnonneg : 0 ≤ timeOfDay) (hbounded : timeOfDay < secondsPerDay)
    (hlow : now - nanosecondsPerDay ≤ x) (hhigh : x ≤ now + 2 * nanosecondsPerDay) :
    zone.Reads timeOfDay x ↔
      nanosecondsPerDay ∣ x - (utcDay now * secondsPerDay + timeOfDay - offset) * nanosecondsPerSecond := by
  have hoffset : zone.offset (x / nanosecondsPerSecond) = offset := by
    have hspec := utcTime_spec now
    apply offset_steady hsteady
    · simp only [nanosecondsPerDay, nanosecondsPerSecond, secondsPerDay] at *
      omega
    · simp only [nanosecondsPerDay, nanosecondsPerSecond, secondsPerDay] at *
      omega
  have hparsed : x - (utcDay now * secondsPerDay + timeOfDay - offset) * nanosecondsPerSecond =
      (zone.clock x - timeOfDay * nanosecondsPerSecond) - utcDay now * nanosecondsPerDay := by
    rw [Zone.clock, hoffset]
    simp only [nanosecondsPerDay, nanosecondsPerSecond, secondsPerDay]
    omega
  rw [Zone.reads_iff hnonneg hbounded, hparsed]
  exact (dvd_sub_left (Int.dvd_mul_left _ _)).symm

end Steady

-- Going on by a day from a past instant leads to the next day, or not that far.
theorem within_day_iff {now start time lift day : Int} (hnow : now = start + time) :
    (now ≤ (if now > start + lift then start + lift + 1 * day else start + lift) ∧
        (if now > start + lift then start + lift + 1 * day else start + lift) < now + day) ↔
      time - day ≤ lift ∧ lift < time + day := by
  by_cases hpast : now > start + lift
  · rw [if_pos hpast]
    omega
  · rw [if_neg hpast]
    omega

-- The first expiry of a task of every day is the next time at which the local clocks
-- show its time of day, exactly if the parsed instant is less than a day before or after now.
theorem firstExpiry_next_iff {Id : Type} (L : DateLibrary) (nameGenerator : Bytes → Id) (id : Id) (owner time : Bytes)
    (zone : Zone) (timeOfDay offset now : Int) (hdenotes : Denotes L time timeOfDay zone now)
    (hsteady : SteadyAround zone offset now) :
    ∃ task, Task.create (L.environment nameGenerator) id owner (.daysAt 1 time) now = .ok task ∧
      ((IsLeast {x | now ≤ x ∧ zone.Reads timeOfDay x} task.expiry ∧
          now ≤ task.expiry ∧ task.expiry ≤ now + nanosecondsPerDay) ↔
        utcTime now - nanosecondsPerDay ≤ (timeOfDay - offset) * nanosecondsPerSecond ∧
          (timeOfDay - offset) * nanosecondsPerSecond < utcTime now + nanosecondsPerDay) := by
  have hparse := parseTime_denotes hdenotes (toSys_steady hsteady hdenotes.nonneg hdenotes.bounded)
  refine ⟨_, create_daysAt (E := L.environment nameGenerator) hparse id owner 1, ?_⟩
  obtain ⟨hday, hstart, -⟩ := utcTime_spec now
  have hparsed : (utcDay now * secondsPerDay + timeOfDay - offset) * nanosecondsPerSecond =
      utcDay now * nanosecondsPerDay + (timeOfDay - offset) * nanosecondsPerSecond := by
    simp only [nanosecondsPerDay, nanosecondsPerSecond, secondsPerDay]
    omega
  have hreads : ∀ x, now ≤ x → x ≤ now + 2 * nanosecondsPerDay → (zone.Reads timeOfDay x ↔
      nanosecondsPerDay ∣ x - (utcDay now * nanosecondsPerDay + (timeOfDay - offset) * nanosecondsPerSecond)) := by
    intro x hlow hhigh
    rw [← hparsed]
    exact reads_steady hsteady hdenotes.nonneg hdenotes.bounded (by rw [nanosecondsPerDay_eq]; omega) hhigh
  rw [hparsed]
  generalize hlift : (timeOfDay - offset) * nanosecondsPerSecond = lift at hreads ⊢
  have hnear : lift ≤ 2 * nanosecondsPerDay := by
    obtain ⟨hwest, -⟩ := offset_bounds hsteady
    have hbounded := hdenotes.bounded
    simp only [nanosecondsPerDay, nanosecondsPerSecond, secondsPerDay] at *
    omega
  generalize utcDay now * nanosecondsPerDay = start at hday hreads ⊢
  rw [← within_day_iff hday]
  generalize hexpiry : (if now > start + lift then start + lift + 1 * nanosecondsPerDay else start + lift) = expiry
  have hdays : nanosecondsPerDay ∣ expiry - (start + lift) := by
    by_cases hpast : now > start + lift
    · rw [if_pos hpast] at hexpiry
      exact ⟨1, by omega⟩
    · rw [if_neg hpast] at hexpiry
      exact ⟨0, by omega⟩
  have hfar : expiry ≤ now + 2 * nanosecondsPerDay := by
    have hlength := nanosecondsPerDay_eq
    by_cases hpast : now > start + lift
    · rw [if_pos hpast] at hexpiry
      omega
    · rw [if_neg hpast] at hexpiry
      omega
  have hleast := isLeast_periodic_iff (by decide) hreads hdays hfar
  constructor
  · rintro ⟨hnext, -, -⟩
    exact hleast.mp hnext
  · intro hwithin
    exact ⟨hleast.mpr hwithin, hwithin.1, Int.le_of_lt hwithin.2⟩

section Samples

-- An hour east of UTC.
def gmtMinusOne : Zone := Zone.fixed 3600

-- The date library on the first day of the epoch.
def firstDay : DateLibrary where
  formatDate _ := ascii "1970-01-01"
  parse text :=
    if text = ascii "1970-01-01 00:30:00 Etc/GMT-1" then some (1800, ascii "Etc/GMT-1") else none
  locateZone name :=
    if name = ascii "Etc/GMT-1" then .ok gmtMinusOne
    else .error (.runtimeError "not found in timezone database")

def halfPastMidnight : Bytes := ascii "00:30:00 Etc/GMT-1"

theorem halfPastMidnight_denotes (now : Int) (hday : utcDay now = 0) :
    Denotes firstDay halfPastMidnight 1800 gmtMinusOne now := by
  refine ⟨by decide, by decide, ascii "Etc/GMT-1", ?_, rfl⟩
  rw [hday]
  rfl

theorem gmtMinusOne_steady (now : Int) : SteadyAround gmtMinusOne 3600 now := by
  refine ⟨fun _ => ?_, fun _ _ _ => rfl⟩
  show -secondsPerDay ≤ 3600 ∧ 3600 ≤ secondsPerDay
  decide

-- From noon, in UTC, the task first expires half an hour before midnight.
def noonSecond : Int := 43200 * nanosecondsPerSecond

theorem firstExpiry_next_noon :
    ∃ task, Task.create (firstDay.environment id) (ascii "lamp") (ascii "lamp") (.daysAt 1 halfPastMidnight) noonSecond =
        .ok task ∧
      ((IsLeast {x | noonSecond ≤ x ∧ gmtMinusOne.Reads 1800 x} task.expiry ∧
          noonSecond ≤ task.expiry ∧ task.expiry ≤ noonSecond + nanosecondsPerDay) ↔
        utcTime noonSecond - nanosecondsPerDay ≤ (1800 - 3600) * nanosecondsPerSecond ∧
          (1800 - 3600) * nanosecondsPerSecond < utcTime noonSecond + nanosecondsPerDay) :=
  firstExpiry_next_iff firstDay id (ascii "lamp") (ascii "lamp") halfPastMidnight gmtMinusOne 1800 3600 noonSecond
    (halfPastMidnight_denotes noonSecond rfl) (gmtMinusOne_steady noonSecond)

-- A quarter before midnight, in UTC: it is past midnight on the local clocks.
def lateSecond : Int := 85500 * nanosecondsPerSecond

-- The first expiry is past.
theorem firstExpiry_past :
    Denotes firstDay halfPastMidnight 1800 gmtMinusOne lateSecond ∧ SteadyAround gmtMinusOne 3600 lateSecond ∧
      ∃ task, Task.create (firstDay.environment id) (ascii "lamp") (ascii "lamp") (.daysAt 1 halfPastMidnight) lateSecond =
        .ok task ∧ task.expiry < lateSecond ∧
        ¬IsLeast {x | lateSecond ≤ x ∧ gmtMinusOne.Reads 1800 x} task.expiry := by
  refine ⟨halfPastMidnight_denotes lateSecond rfl, gmtMinusOne_steady lateSecond, _, rfl, by decide +kernel, ?_⟩
  rintro ⟨⟨hlate, -⟩, -⟩
  revert hlate
  decide +kernel

end Samples

end HhctrlMgmt.Scheduling
