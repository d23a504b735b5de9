import HhctrlMgmt.Scheduling.LocalTime

namespace HhctrlMgmt.Scheduling

open Datetime

variable {Id : Type}

-- A task, the time since which its timer waits, and the times at which its handler has
-- been called.
structure Service (Id : Type) where
  task : Task Id
  armed : Timepoint
  fired : List Timepoint

namespace Service

-- The timer fires at its expiry, or at once where that is past.
def firing (service : Service Id) : Timepoint :=
  max service.armed service.task.expiry

-- The wait ends with an error, or the handler throws or returns.
inductive Step : Service Id → Service Id → Prop
  | failed (service : Service Id) (hwaiting : service.task.waiting = true) :
      Step service { service with task := service.task.complete .failed }
  | threw (service : Service Id) (hwaiting : service.task.waiting = true) :
      Step service { service with task := service.task.complete .threw, fired := service.fired ++ [service.firing] }
  | handled (service : Service Id) (returned : Timepoint) (hwaiting : service.task.waiting = true)
      (hreturned : service.firing ≤ returned) :
      Step service ⟨service.task.complete (.handled returned), returned, service.fired ++ [service.firing]⟩

-- Each step is one of the scheduler that the task is active in.
theorem Step.expires [DecidableEq Id] {before after : Service Id} (hstep : Step before after)
    (scheduler : Scheduler Id) (index : Nat) (htask : scheduler.activeTasks[index]? = some before.task) :
    ∃ fired result, scheduler.expire index fired result = some ⟨scheduler.activeTasks.set index after.task⟩ := by
  have hdue : before.task.expiry ≤ before.firing := Int.le_max_right _ _
  cases hstep with
  | failed hwaiting =>
      refine ⟨before.firing, .failed, ?_⟩
      simp [Scheduler.expire, htask, hwaiting]
  | threw hwaiting =>
      refine ⟨before.firing, .threw, ?_⟩
      simp [Scheduler.expire, htask, hwaiting, hdue]
  | handled returned hwaiting _ =>
      refine ⟨before.firing, .handled returned, ?_⟩
      simp [Scheduler.expire, htask, hwaiting, hdue]

-- What an activated task leads to through allowed states.
inductive Reach (allowed : Service Id → Prop) (task : Task Id) : Service Id → Prop
  | activated (armed : Timepoint) (hallowed : allowed ⟨task.activate, armed, []⟩) :
      Reach allowed task ⟨task.activate, armed, []⟩
  | step (before after : Service Id) (hreach : Reach allowed task before) (hstep : Step before after)
      (hallowed : allowed after) : Reach allowed task after

-- The timer does not wait for a time that is past.
def Punctual (service : Service Id) : Prop :=
  service.task.waiting = true → service.armed ≤ service.task.expiry

-- Every call of the handler is at the time of day on the local clocks, each so many
-- days after the one before it.
structure KeepsLocalTime (zone : Zone) (timeOfDay days : Int) (service : Service Id) : Prop where
  reads : ∀ x ∈ service.fired, zone.Reads timeOfDay x
  apart : ∀ n x y, service.fired[n]? = some x → service.fired[n + 1]? = some y → zone.day y = zone.day x + days

section Schedule

variable {days : Int} {time : Bytes} {task : Task Id} {service : Service Id}

def scheduled (start days : Int) (n : Nat) : Int :=
  start + n * (days * nanosecondsPerDay)

-- A task that has always been punctual has been called at its first expiry, and each
-- time that many days later.
structure OnSchedule (start days : Int) (time : Bytes) (service : Service Id) : Prop where
  duration : service.task.duration = .daysAt days time
  fired : service.fired = (List.range service.fired.length).map (scheduled start days)
  expiry : service.task.waiting = true →
    service.task.expiry = scheduled start days service.fired.length

theorem scheduled_succ (start days : Int) (n : Nat) :
    scheduled start days (n + 1) = scheduled start days n + days * nanosecondsPerDay := by
  simp only [scheduled, Int.natCast_add, Int.add_mul, Int.natCast_one, Int.one_mul, Int.add_assoc]

theorem OnSchedule.calls {start : Int} {fired : List Timepoint} {next : Timepoint}
    (hfired : fired = (List.range fired.length).map (scheduled start days))
    (hnext : next = scheduled start days fired.length) :
    fired ++ [next] = (List.range (fired ++ [next]).length).map (scheduled start days) := by
  rw [List.length_append, List.length_singleton, List.range_succ, List.map_append, ← hfired, hnext]
  rfl

theorem onSchedule_step {start : Int} {after : Service Id} (hschedule : OnSchedule start days time service)
    (hpunctual : service.Punctual) (hstep : Step service after) : OnSchedule start days time after := by
  have hfiring : service.task.waiting = true →
      service.firing = scheduled start days service.fired.length := by
    intro hwaiting
    rw [firing, Int.max_eq_right (hpunctual hwaiting)]
    exact hschedule.expiry hwaiting
  cases hstep with
  | failed hwaiting => exact ⟨hschedule.duration, hschedule.fired, fun h => absurd h Bool.false_ne_true⟩
  | threw hwaiting =>
      exact ⟨hschedule.duration, OnSchedule.calls hschedule.fired (hfiring hwaiting),
        fun h => absurd h Bool.false_ne_true⟩
  | handled returned hwaiting hreturned =>
      refine ⟨hschedule.duration, OnSchedule.calls hschedule.fired (hfiring hwaiting), fun _ => ?_⟩
      have hnext : service.task.nextExpiry returned = service.task.expiry + days * nanosecondsPerDay := by
        rw [Task.nextExpiry, hschedule.duration]
        rfl
      show service.task.nextExpiry returned = _
      rw [hnext, hschedule.expiry hwaiting, List.length_append, List.length_singleton, scheduled_succ]

end Schedule

-- The second of a call.
def secondOf (first days : Int) (n : Nat) : Int :=
  first + n * (days * secondsPerDay)

-- At the times at which the task is called the zone has the same offset, which is that
-- of the parsed instant up to whole days.
structure SameOffset (zone : Zone) (parsed first days : Int) (count : Nat) : Prop where
  constant : ∀ n, n < count → zone.offset (secondOf first days n) = zone.offset first
  start : 0 < count → secondsPerDay ∣ zone.offset first - zone.offset parsed

section Offsets

variable {zone : Zone} {timeOfDay parsed first days date : Int}

theorem scheduled_second (first days : Int) (n : Nat) :
    scheduled (first * nanosecondsPerSecond) days n = secondOf first days n * nanosecondsPerSecond := by
  rw [scheduled, secondOf, nanosecondsPerDay, Int.add_mul, Int.mul_assoc, Int.mul_assoc, ← Int.mul_assoc days]

theorem secondOf_succ (first days : Int) (n : Nat) :
    secondOf first days (n + 1) = secondOf first days n + days * secondsPerDay := by
  simp only [secondOf, Int.natCast_add, Int.add_mul, Int.natCast_one, Int.one_mul, Int.add_assoc]

theorem secondOf_days (hfirst : secondsPerDay ∣ first - parsed) (n : Nat) :
    secondsPerDay ∣ secondOf first days n - parsed := by
  have hsplit : secondOf first days n - parsed = (first - parsed) + n * days * secondsPerDay := by
    rw [secondOf, Int.mul_assoc]
    omega
  rw [hsplit]
  exact Int.dvd_add hfirst (Int.dvd_mul_left _ _)

-- At a whole number of days from the parsed instant the clocks show the time of day for
-- the same offset, up to whole days.
theorem reads_iff_offset {second : Int} (hnonneg : 0 ≤ timeOfDay) (hbounded : timeOfDay < secondsPerDay)
    (hparsed : parsed + zone.offset parsed = date * secondsPerDay + timeOfDay)
    (hdays : secondsPerDay ∣ second - parsed) :
    zone.Reads timeOfDay (second * nanosecondsPerSecond) ↔ secondsPerDay ∣ zone.offset second - zone.offset parsed := by
  rw [Zone.reads_second hnonneg hbounded]
  simp only [secondsPerDay] at *
  omega

-- Where both show it, they are so many days apart for one offset only.
theorem apart_iff_offset {second : Int} (hnonneg : 0 ≤ timeOfDay) (hbounded : timeOfDay < secondsPerDay)
    (hreads : zone.Reads timeOfDay (second * nanosecondsPerSecond))
    (hnext : zone.Reads timeOfDay ((second + days * secondsPerDay) * nanosecondsPerSecond)) :
    zone.day ((second + days * secondsPerDay) * nanosecondsPerSecond) =
      zone.day (second * nanosecondsPerSecond) + days ↔
      zone.offset (second + days * secondsPerDay) = zone.offset second := by
  rw [Zone.reads_second hnonneg hbounded] at hreads hnext
  rw [Zone.day_second, Zone.day_second]
  generalize zone.offset (second + days * secondsPerDay) = later at hnext ⊢
  simp only [secondsPerDay] at *
  omega

theorem keepsLocalTime_iff {service : Service Id} (hnonneg : 0 ≤ timeOfDay) (hbounded : timeOfDay < secondsPerDay)
    (hparsed : parsed + zone.offset parsed = date * secondsPerDay + timeOfDay) (hfirst : secondsPerDay ∣ first - parsed)
    (hfired : service.fired =
      (List.range service.fired.length).map (scheduled (first * nanosecondsPerSecond) days)) :
    KeepsLocalTime zone timeOfDay days service ↔ SameOffset zone parsed first days service.fired.length := by
  have hcall : ∀ n, n < service.fired.length →
      service.fired[n]? = some (secondOf first days n * nanosecondsPerSecond) := by
    intro n hn
    rw [hfired, List.getElem?_map, List.getElem?_range hn, Option.map_some, scheduled_second]
  have hreads : ∀ n, zone.Reads timeOfDay (secondOf first days n * nanosecondsPerSecond) ↔
      secondsPerDay ∣ zone.offset (secondOf first days n) - zone.offset parsed := fun n =>
    reads_iff_offset hnonneg hbounded hparsed (secondOf_days hfirst n)
  have hstart : secondOf first days 0 = first := by
    rw [secondOf, Int.natCast_zero, Int.zero_mul, Int.add_zero]
  constructor
  · intro hkeeps
    have hall : ∀ n, n < service.fired.length → zone.Reads timeOfDay (secondOf first days n * nanosecondsPerSecond) :=
      fun n hn => hkeeps.reads _ (List.mem_of_getElem? (hcall n hn))
    refine ⟨fun n hn => ?_, fun hsome => ?_⟩
    · induction n with
      | zero => rw [hstart]
      | succ n ih =>
          have hbefore : n < service.fired.length := by omega
          rw [← ih hbefore, secondOf_succ]
          apply (apart_iff_offset hnonneg hbounded (hall n hbefore) _).mp
          · rw [← secondOf_succ]
            exact hkeeps.apart n _ _ (hcall n hbefore) (hcall (n + 1) hn)
          · rw [← secondOf_succ]
            exact hall (n + 1) hn
    · have hread := (hreads 0).mp (hall 0 hsome)
      rw [hstart] at hread
      exact hread
  · intro hsame
    have hall : ∀ n, n < service.fired.length →
        zone.Reads timeOfDay (secondOf first days n * nanosecondsPerSecond) := by
      intro n hn
      rw [hreads, hsame.constant n hn]
      exact hsame.start (by omega)
    refine ⟨fun x hx => ?_, fun n x y hx hy => ?_⟩
    · obtain ⟨n, hn, rfl⟩ := List.mem_iff_getElem.mp hx
      have hvalue := hcall n hn
      rw [List.getElem?_eq_getElem hn, Option.some.injEq] at hvalue
      rw [hvalue]
      exact hall n hn
    · obtain ⟨hn, -⟩ := List.getElem?_eq_some_iff.mp hy
      have hbefore : n < service.fired.length := by omega
      rw [hcall n hbefore, Option.some.injEq] at hx
      rw [hcall (n + 1) hn, Option.some.injEq] at hy
      rw [← hx, ← hy, secondOf_succ]
      apply (apart_iff_offset hnonneg hbounded (hall n hbefore) _).mpr
      · rw [← secondOf_succ]
        exact (hsame.constant (n + 1) hn).trans (hsame.constant n hbefore).symm
      · rw [← secondOf_succ]
        exact hall (n + 1) hn

end Offsets

-- A task whose time of day is past on the UTC date of now starts some days later.
def firstSecond (parsed days now : Int) : Int :=
  if now > parsed * nanosecondsPerSecond then parsed + days * secondsPerDay else parsed

theorem firstSecond_days (parsed days now : Int) : secondsPerDay ∣ firstSecond parsed days now - parsed := by
  unfold firstSecond
  by_cases hpast : now > parsed * nanosecondsPerSecond
  · rw [if_pos hpast]
    exact ⟨days, by rw [Int.mul_comm]; omega⟩
  · rw [if_neg hpast]
    exact ⟨0, by omega⟩

theorem reach_onSchedule {parsed days now : Int} {time owner : Bytes} {id : Id} {service : Service Id}
    (hreach : Reach Punctual
      ⟨id, owner, .daysAt days time, firstSecond parsed days now * nanosecondsPerSecond, false⟩ service) :
    OnSchedule (firstSecond parsed days now * nanosecondsPerSecond) days time service ∧ service.Punctual := by
  induction hreach with
  | activated armed hallowed =>
      refine ⟨⟨rfl, rfl, fun _ => ?_⟩, hallowed⟩
      show firstSecond parsed days now * nanosecondsPerSecond = _
      rw [scheduled, List.length_nil, Int.natCast_zero, Int.zero_mul, Int.add_zero]
  | step before after _ hstep hallowed ih => exact ⟨onSchedule_step ih.1 ih.2 hstep, hallowed⟩

end Service

-- A task that has always been punctual keeps its local time exactly if the zone has one
-- offset at its calls, that of the parsed instant.
theorem everydayAt_keeps_iff (L : DateLibrary) (nameGenerator : Bytes → Id) (id : Id) (owner time : Bytes) (zone : Zone)
    (timeOfDay days now parsed : Int) (hdenotes : Denotes L time timeOfDay zone now)
    (hparsed : zone.toSys (utcDay now * secondsPerDay + timeOfDay) = .ok parsed) :
    ∃ task, Task.create (L.environment nameGenerator) id owner (.daysAt days time) now = .ok task ∧
      ∀ service, Service.Reach Service.Punctual task service →
        (service.KeepsLocalTime zone timeOfDay days ↔
          Service.SameOffset zone parsed (Service.firstSecond parsed days now) days service.fired.length) := by
  refine ⟨_, create_daysAt (E := L.environment nameGenerator) (parseTime_denotes hdenotes hparsed) id owner days, ?_⟩
  intro service hreach
  have hexpiry : (if now > parsed * nanosecondsPerSecond then parsed * nanosecondsPerSecond + days * nanosecondsPerDay
      else parsed * nanosecondsPerSecond) = Service.firstSecond parsed days now * nanosecondsPerSecond := by
    unfold Service.firstSecond
    by_cases hpast : now > parsed * nanosecondsPerSecond
    · rw [if_pos hpast, if_pos hpast, Int.add_mul, Int.mul_assoc]
      rfl
    · rw [if_neg hpast, if_neg hpast]
  rw [hexpiry] at hreach
  have hshows := ((zone.toSys_ok _ _).mp hparsed).1
  exact Service.keepsLocalTime_iff hdenotes.nonneg hdenotes.bounded hshows (Service.firstSecond_days parsed days now)
    (Service.reach_onSchedule hreach).1.fired

section Samples

-- The date library on the day before.
def dayBefore : DateLibrary where
  formatDate _ := ascii "2024-03-30"
  parse text :=
    if text = ascii "2024-03-30 12:00:00 Europe/Warsaw" then some (19812 * secondsPerDay + 43200, ascii "Europe/Warsaw")
    else none
  locateZone name :=
    if name = ascii "Europe/Warsaw" then .ok warsaw else .error (.runtimeError "not found in timezone database")

def localNoon : Bytes := ascii "12:00:00 Europe/Warsaw"

-- An hour before the noon of that day.
def beforeNoon : Int := (19812 * secondsPerDay + 36000) * nanosecondsPerSecond

theorem localNoon_denotes : Denotes dayBefore localNoon 43200 warsaw beforeNoon :=
  ⟨by decide, by decide, ascii "Europe/Warsaw", rfl, rfl⟩

def noonUtc : Int := 19812 * secondsPerDay + 39600

theorem everydayAt_keeps_warsaw :
    ∃ task, Task.create (dayBefore.environment id) (ascii "lamp") (ascii "lamp") (.daysAt 1 localNoon) beforeNoon = .ok task ∧
      ∀ service, Service.Reach Service.Punctual task service →
        (service.KeepsLocalTime warsaw 43200 1 ↔
          Service.SameOffset warsaw noonUtc (Service.firstSecond noonUtc 1 beforeNoon) 1 service.fired.length) :=
  everydayAt_keeps_iff dayBefore id (ascii "lamp") (ascii "lamp") localNoon warsaw 43200 1 beforeNoon noonUtc
    localNoon_denotes rfl

def lampTask : Task Bytes :=
  ⟨ascii "lamp", ascii "lamp", .daysAt 1 localNoon, noonUtc * nanosecondsPerSecond, false⟩

theorem warsaw_noon (day : Int) : ∃ sys, warsaw.toSys (day * secondsPerDay + 43200) = .ok sys := by
  have hsummer : summerStart = 19813 * secondsPerDay + 3600 := rfl
  by_cases hwinter : day * secondsPerDay + 43200 < summerStart + 3600
  · exact ⟨_, if_pos hwinter⟩
  · have hgap : ¬day * secondsPerDay + 43200 < summerStart + 7200 := by
      simp only [secondsPerDay] at *
      omega
    exact ⟨_, (if_neg hwinter).trans (if_neg hgap)⟩

-- The task after so many calls of its handler, each of which takes a second.
def lampCalls : Nat → Service Bytes
  | 0 => ⟨lampTask.activate, beforeNoon, []⟩
  | calls + 1 =>
    let before := lampCalls calls
    let returned := before.firing + nanosecondsPerSecond
    ⟨before.task.complete (.handled returned), returned, before.fired ++ [before.firing]⟩

-- Noon exists on every day, and the second call is at one o'clock.
theorem everydayAt_summer :
    (∀ day, ∃ sys, warsaw.toSys (day * secondsPerDay + 43200) = .ok sys) ∧
      Task.create (dayBefore.environment id) (ascii "lamp") (ascii "lamp") (.daysAt 1 localNoon) beforeNoon = .ok lampTask ∧
      Service.Reach Service.Punctual lampTask (lampCalls 2) ∧ ¬(lampCalls 2).KeepsLocalTime warsaw 43200 1 := by
  refine ⟨warsaw_noon, rfl, ?_, fun hkeeps => ?_⟩
  · apply Service.Reach.step (lampCalls 1)
    · apply Service.Reach.step (lampCalls 0)
      · exact .activated beforeNoon fun _ => by decide +kernel
      · exact .handled _ _ rfl (by decide +kernel)
      · exact fun _ => by decide +kernel
    · exact .handled _ _ rfl (by decide +kernel)
    · exact fun _ => by decide +kernel
  · have hsecond : (noonUtc + secondsPerDay) * nanosecondsPerSecond ∈ (lampCalls 2).fired := by decide +kernel
    have hreads := hkeeps.reads _ hsecond
    revert hreads
    unfold Zone.Reads
    decide +kernel

end Samples

end HhctrlMgmt.Scheduling
