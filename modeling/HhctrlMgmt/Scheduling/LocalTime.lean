import HhctrlMgmt.Scheduling.Scheduler

namespace HhctrlMgmt.Scheduling

namespace Datetime

def nanosecondsPerSecond : Int := 1000000000

def secondsPerDay : Int := 24 * 60 * 60

def nanosecondsPerDay : Int := secondsPerDay * nanosecondsPerSecond

theorem nanosecondsPerDay_eq : nanosecondsPerDay = 86400000000000 := rfl

-- A zone of the tz database: its offset from UTC at each second since the epoch, and
-- the conversion of local times. One that does not exist or is ambiguous throws.
structure Zone where
  offset : Int → Int
  toSys : Int → Except Exn Int
  toSys_ok : ∀ localTime sys, toSys localTime = .ok sys ↔
    sys + offset sys = localTime ∧ ∀ other, other + offset other = localTime → other = sys

-- A zone that never changes its offset.
def Zone.fixed (offset : Int) : Zone where
  offset _ := offset
  toSys localTime := .ok (localTime - offset)
  toSys_ok localTime sys := by
    rw [Except.ok.injEq]
    constructor
    · intro hsys
      exact ⟨by omega, fun other hother => by omega⟩
    · rintro ⟨hsys, -⟩
      omega

-- What parse_time takes from the date library: the printing of a UTC date, the reading
-- of a local time and the name of a zone by DatetimeFmt, and the tz database.
structure DateLibrary where
  formatDate : Timepoint → Bytes
  parse : Bytes → Option (Int × Bytes)
  locateZone : Bytes → Except Exn Zone

-- The date is that of the time point in UTC, the time that of a local clock.
def parseTime (L : DateLibrary) (time : Bytes) (baseTimepoint : Timepoint) : Except Exn Timepoint :=
  match L.parse (L.formatDate baseTimepoint ++ ascii " " ++ time) with
  | none => .error (.invalidArgument "Cannot parse datetime due to invalid format.")
  | some (localTime, tmz) => do
    let zone ← L.locateZone tmz
    let sys ← zone.toSys localTime
    return sys * nanosecondsPerSecond

def DateLibrary.environment {Id : Type} (L : DateLibrary) (nameGenerator : Bytes → Id) : Environment Id :=
  ⟨nameGenerator, parseTime L⟩

-- The days since the epoch.
def utcDay (timepoint : Timepoint) : Int :=
  timepoint / nanosecondsPerDay

-- The time string names a second of the day in a zone: so it is read after the date of
-- the time point.
structure Denotes (L : DateLibrary) (time : Bytes) (timeOfDay : Int) (zone : Zone) (baseTimepoint : Timepoint) : Prop where
  nonneg : 0 ≤ timeOfDay
  bounded : timeOfDay < secondsPerDay
  read : ∃ tmz, L.parse (L.formatDate baseTimepoint ++ ascii " " ++ time) =
    some (utcDay baseTimepoint * secondsPerDay + timeOfDay, tmz) ∧ L.locateZone tmz = .ok zone

namespace Zone

-- What the local clocks show, in nanoseconds.
def clock (zone : Zone) (timepoint : Timepoint) : Int :=
  timepoint + zone.offset (timepoint / nanosecondsPerSecond) * nanosecondsPerSecond

def Reads (zone : Zone) (timeOfDay : Int) (timepoint : Timepoint) : Prop :=
  zone.clock timepoint % nanosecondsPerDay = timeOfDay * nanosecondsPerSecond

def day (zone : Zone) (timepoint : Timepoint) : Int :=
  zone.clock timepoint / nanosecondsPerDay

theorem clock_second (zone : Zone) (second : Int) :
    zone.clock (second * nanosecondsPerSecond) = (second + zone.offset second) * nanosecondsPerSecond := by
  have hsecond : second * nanosecondsPerSecond / nanosecondsPerSecond = second :=
    Int.mul_ediv_cancel second (by decide)
  rw [clock, hsecond, Int.add_mul]

-- A clock shows the time of day where it shows it and the start of some day.
theorem reads_iff {zone : Zone} {timeOfDay : Int} {timepoint : Timepoint} (hnonneg : 0 ≤ timeOfDay)
    (hbounded : timeOfDay < secondsPerDay) :
    zone.Reads timeOfDay timepoint ↔ nanosecondsPerDay ∣ zone.clock timepoint - timeOfDay * nanosecondsPerSecond := by
  have hsmall : timeOfDay * nanosecondsPerSecond % nanosecondsPerDay = timeOfDay * nanosecondsPerSecond := by
    apply Int.emod_eq_of_lt
    · exact Int.mul_nonneg hnonneg (by decide)
    · exact Int.mul_lt_mul_of_pos_right hbounded (by decide)
  unfold Reads
  constructor
  · intro hreads
    apply Int.dvd_of_emod_eq_zero
    rw [← Int.emod_eq_emod_iff_emod_sub_eq_zero, hreads, hsmall]
  · intro hdvd
    rw [← hsmall]
    exact Int.emod_eq_emod_iff_emod_sub_eq_zero.mpr (Int.emod_eq_zero_of_dvd hdvd)

theorem day_second (zone : Zone) (second : Int) :
    zone.day (second * nanosecondsPerSecond) = (second + zone.offset second) / secondsPerDay := by
  rw [day, clock_second]
  exact Int.mul_ediv_mul_of_pos_left _ _ (by decide)

theorem reads_second {zone : Zone} {timeOfDay second : Int} (hnonneg : 0 ≤ timeOfDay)
    (hbounded : timeOfDay < secondsPerDay) :
    zone.Reads timeOfDay (second * nanosecondsPerSecond) ↔ secondsPerDay ∣ second + zone.offset second - timeOfDay := by
  rw [reads_iff hnonneg hbounded, clock_second, ← Int.sub_mul]
  exact Int.mul_dvd_mul_iff_right (by decide)

end Zone

-- Where the time of day exists on the date and is unambiguous, parseTime gives the
-- instant at which the clocks show it.
theorem parseTime_denotes {L : DateLibrary} {time : Bytes} {timeOfDay : Int} {zone : Zone} {now : Timepoint} {sys : Int}
    (hdenotes : Denotes L time timeOfDay zone now)
    (hsys : zone.toSys (utcDay now * secondsPerDay + timeOfDay) = .ok sys) :
    parseTime L time now = .ok (sys * nanosecondsPerSecond) := by
  obtain ⟨tmz, hread, hzone⟩ := hdenotes.read
  unfold parseTime
  rw [hread]
  dsimp only
  rw [hzone]
  show (zone.toSys _ >>= _) = _
  rw [hsys]
  rfl

theorem days_nanoseconds : DurationUnit.days.nanoseconds = nanosecondsPerDay := rfl

-- A task whose time of day is past on the date first expires some days later.
theorem create_daysAt {Id : Type} {E : Environment Id} {time : Bytes} {now parsed : Timepoint}
    (hparse : E.parseTime time now = .ok parsed) (id : Id) (owner : Bytes) (days : Int) :
    Task.create E id owner (.daysAt days time) now = .ok ⟨id, owner, .daysAt days time,
      if now > parsed then parsed + days * nanosecondsPerDay else parsed, false⟩ := by
  unfold Task.create Task.firstExpiry EverydayAtTask.configureExpiry
  dsimp only
  rw [hparse, ← days_nanoseconds]
  by_cases hpast : now > parsed
  · rw [if_pos hpast]
    show Except.map _ (if _ then _ else _) = _
    rw [if_pos hpast]
    rfl
  · rw [if_neg hpast]
    show Except.map _ (if _ then _ else _) = _
    rw [if_neg hpast]
    rfl

end Datetime

section Samples

open Datetime

-- The start of summer time of 2024 in UTC.
def summerStart : Int := 1711846800

-- An hour east of UTC, and two hours in summer: the local times between are skipped.
def warsaw : Zone where
  offset second := if second < summerStart then 3600 else 7200
  toSys localTime :=
    if localTime < summerStart + 3600 then .ok (localTime - 3600)
    else if localTime < summerStart + 7200 then .error (.runtimeError "is in a gap")
    else .ok (localTime - 7200)
  toSys_ok localTime sys := by
    by_cases hwinter : localTime < summerStart + 3600
    · rw [if_pos hwinter, Except.ok.injEq]
      constructor
      · intro hsys
        refine ⟨by split_ifs <;> omega, fun other hother => ?_⟩
        split_ifs at hother <;> omega
      · rintro ⟨hsys, -⟩
        split_ifs at hsys <;> omega
    · rw [if_neg hwinter]
      by_cases hgap : localTime < summerStart + 7200
      · rw [if_pos hgap]
        constructor
        · intro hsys
          cases hsys
        · rintro ⟨hsys, -⟩
          split_ifs at hsys <;> omega
      · rw [if_neg hgap, Except.ok.injEq]
        constructor
        · intro hsys
          refine ⟨by split_ifs <;> omega, fun other hother => ?_⟩
          split_ifs at hother <;> omega
        · rintro ⟨hsys, -⟩
          split_ifs at hsys <;> omega

end Samples

end HhctrlMgmt.Scheduling
