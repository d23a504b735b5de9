import HhctrlMgmt.Scheduling.TaskStore
import Mathlib.Data.List.Basic
import Mathlib.Tactic.SplitIfs

namespace HhctrlMgmt.Scheduling

-- A time point of the system clock, in nanoseconds since the epoch.
abbrev Timepoint := Int

-- What the scheduler takes from libraries: boost's generator of uuids from names,
-- and the reading of a time of day relative to a time point.
structure Environment (Id : Type) where
  nameGenerator : Bytes → Id
  parseTime : Bytes → Timepoint → Except Exn Timepoint

namespace Datetime

-- Precision_t
def nanosecondsPerMillisecond : Int := 1000000

def fromTimestamp (sinceEpoch : Int) : Timepoint :=
  sinceEpoch * nanosecondsPerMillisecond

-- time_point_cast rounds towards zero.
def toTimestamp (timepoint : Timepoint) : Int :=
  timepoint.tdiv nanosecondsPerMillisecond

theorem toTimestamp_fromTimestamp (timestamp : Int) : toTimestamp (fromTimestamp timestamp) = timestamp :=
  Int.mul_tdiv_cancel timestamp (by decide)

end Datetime

open Datetime

inductive Execution where
  | relaxed
  | strict
deriving DecidableEq, Repr

inductive DurationUnit where
  | milliseconds
  | seconds
  | minutes
  | hours
  | days
deriving DecidableEq, Repr

namespace DurationUnit

def name : DurationUnit → String
  | milliseconds => "milliseconds"
  | seconds => "seconds"
  | minutes => "minutes"
  | hours => "hours"
  | days => "days"

def nanoseconds : DurationUnit → Int
  | milliseconds => 1000000
  | seconds => 1000 * 1000000
  | minutes => 60 * 1000 * 1000000
  | hours => 60 * 60 * 1000 * 1000000
  | days => 24 * 60 * 60 * 1000 * 1000000

end DurationUnit

-- The argument of every: a std::chrono duration, or DaysAt.
inductive Duration where
  | interval (unit : DurationUnit) (count : Int)
  | daysAt (days : Int) (time : Bytes)
deriving DecidableEq, Repr

def durationToStr : Duration → Bytes
  | .interval unit count => ascii (unit.name ++ "_" ++ toString count)
  | .daysAt days time => ascii ("days_" ++ toString days ++ "_AtTime_t_") ++ time

-- GenericRepeatedTask and EverydayAtTask, told apart by their duration. `waiting`
-- says that the timer has an async_wait. The handler is left to the surroundings.
structure Task (Id : Type) where
  id : Id
  owner : Bytes
  duration : Duration
  expiry : Timepoint
  waiting : Bool
deriving DecidableEq

-- How an async_wait ends: with an error code, or with a call of the handler, which
-- throws, or returns at the given time.
inductive WaitResult where
  | failed
  | threw
  | handled (now : Timepoint)
deriving DecidableEq, Repr

variable {Id Store : Type} [DecidableEq Id] (E : Environment Id) (tasksStore : ITaskStore Id Store)

namespace GenericRepeatedTask

def configureExpiry (unit : DurationUnit) (count : Int) (now : Timepoint) : Timepoint :=
  now + count * unit.nanoseconds

end GenericRepeatedTask

namespace EverydayAtTask

def configureExpiry (days : Int) (time : Bytes) (now : Timepoint) : Except Exn Timepoint := do
  let expiry ← E.parseTime time now
  if now > expiry then
    return expiry + days * DurationUnit.days.nanoseconds
  return expiry

end EverydayAtTask

namespace Task

-- What the constructor of a task sets its timer to.
def firstExpiry (duration : Duration) (now : Timepoint) : Except Exn Timepoint :=
  match duration with
  | .interval unit count => .ok (GenericRepeatedTask.configureExpiry unit count now)
  | .daysAt days time => EverydayAtTask.configureExpiry E days time now

def create (id : Id) (owner : Bytes) (duration : Duration) (now : Timepoint) : Except Exn (Task Id) :=
  (firstExpiry E duration now).map fun expiry => ⟨id, owner, duration, expiry, false⟩

def setExpiry (timepoint : Timepoint) (task : Task Id) : Task Id :=
  { task with expiry := timepoint }

def activate (task : Task Id) : Task Id :=
  { task with waiting := true }

-- The expiry that a task sets after its handler has returned.
def nextExpiry (now : Timepoint) (task : Task Id) : Timepoint :=
  match task.duration with
  | .interval unit count => GenericRepeatedTask.configureExpiry unit count now
  | .daysAt days _ => task.expiry + days * DurationUnit.days.nanoseconds

-- The callback of async_wait.
def complete (result : WaitResult) (task : Task Id) : Task Id :=
  match result with
  | .failed => { task with waiting := false }
  | .threw => { task with waiting := false }
  | .handled now => ({ task with waiting := false }.setExpiry (task.nextExpiry now)).activate

end Task

structure Scheduler (Id : Type) where
  activeTasks : List (Task Id)

-- What a call changes stays changed if it throws.
abbrev SchedulerM (Id Store α : Type) := EStateM Exn (Scheduler Id × Store) α

namespace Scheduler

def isTaskActive (id : Id) (scheduler : Scheduler Id) : Bool :=
  scheduler.activeTasks.any fun task => id = task.id

def activateTask (task : Task Id) (scheduler : Scheduler Id) : Scheduler Id :=
  ⟨scheduler.activeTasks ++ [task.activate]⟩

-- A call of an operation that changes the store.
def onStore (operation : Store → Except Exn Store) : SchedulerM Id Store Unit := do
  let (scheduler, store) ← get
  match operation store with
  | .ok after => set (scheduler, after)
  | .error thrown => throw thrown

def findInStore (id : Id) : SchedulerM Id Store (Option (TaskEntity Id)) := do
  let (_, store) ← get
  match tasksStore.find id store with
  | .ok found => return found
  | .error thrown => throw thrown

def entity (task : Task Id) : TaskEntity Id :=
  ⟨task.id, task.owner, toTimestamp task.expiry⟩

def addTaskToStore (task : Task Id) : SchedulerM Id Store Unit :=
  onStore (tasksStore.add (entity task))

-- What setting the saved expiry makes of the task.
def resume (existing : TaskEntity Id) (task : Task Id) : Task Id :=
  task.setExpiry (fromTimestamp existing.timestamp)

def processStrictPolicyTask (task : Task Id) : SchedulerM Id Store (Task Id) := do
  match ← findInStore tasksStore task.id with
  | some existing =>
    let task := resume existing task
    onStore (tasksStore.remove task.id)
    addTaskToStore tasksStore task
    return task
  | none =>
    addTaskToStore tasksStore task
    return task

def duplicated : Exn :=
  .runtimeError "Cannot add the task. The same task has been already configured."

def addTask (task : Task Id) (policy : Execution) : SchedulerM Id Store Unit := do
  let (scheduler, _) ← get
  if scheduler.isTaskActive task.id then
    throw duplicated
  let task ← if policy = .strict then processStrictPolicyTask tasksStore task else pure task
  modify fun (scheduler, store) => (scheduler.activateTask task, store)

def generateId (owner : Bytes) (duration : Duration) : Id :=
  E.nameGenerator (owner ++ durationToStr duration)

-- The shorter overloads of every pass a default owner and Execution::Relaxed.
def every (owner : Bytes) (policy : Execution) (duration : Duration) (now : Timepoint) : SchedulerM Id Store Id := do
  let taskId := generateId E owner duration
  match Task.create E taskId owner duration now with
  | .error thrown => throw thrown
  | .ok task =>
    addTask tasksStore task policy
    return taskId

-- The timer of an active task ends its wait: at any time with an error code, and
-- otherwise not before the task has expired.
def expire (index : Nat) (fired : Timepoint) (result : WaitResult) (scheduler : Scheduler Id) :
    Option (Scheduler Id) := do
  let task ← scheduler.activeTasks[index]?
  if task.waiting ∧ (result = .failed ∨ task.expiry ≤ fired) then
    return ⟨scheduler.activeTasks.set index (task.complete result)⟩
  none

end Scheduler

section Adding

variable {E tasksStore}

-- How a call of addTask ends, and what it leaves. A strict task that is saved is
-- removed from the store before it is added again.
inductive AddTask (tasksStore : ITaskStore Id Store) (task : Task Id) (policy : Execution) (scheduler : Scheduler Id)
    (store : Store) : EStateM.Result Exn (Scheduler Id × Store) Unit → Prop
  | duplicate (hactive : scheduler.isTaskActive task.id = true) :
      AddTask tasksStore task policy scheduler store (.error Scheduler.duplicated (scheduler, store))
  | relaxed (hinactive : scheduler.isTaskActive task.id = false) (hpolicy : policy = .relaxed) :
      AddTask tasksStore task policy scheduler store (.ok () (scheduler.activateTask task, store))
  | notSearched (thrown : Exn) (hinactive : scheduler.isTaskActive task.id = false) (hpolicy : policy = .strict)
      (hfind : tasksStore.find task.id store = .error thrown) :
      AddTask tasksStore task policy scheduler store (.error thrown (scheduler, store))
  | notRemoved (existing : TaskEntity Id) (thrown : Exn) (hinactive : scheduler.isTaskActive task.id = false)
      (hpolicy : policy = .strict) (hfind : tasksStore.find task.id store = .ok (some existing))
      (hremove : tasksStore.remove task.id store = .error thrown) :
      AddTask tasksStore task policy scheduler store (.error thrown (scheduler, store))
  | notRestored (existing : TaskEntity Id) (removed : Store) (thrown : Exn)
      (hinactive : scheduler.isTaskActive task.id = false) (hpolicy : policy = .strict)
      (hfind : tasksStore.find task.id store = .ok (some existing))
      (hremove : tasksStore.remove task.id store = .ok removed)
      (hadd : tasksStore.add (Scheduler.entity (Scheduler.resume existing task)) removed = .error thrown) :
      AddTask tasksStore task policy scheduler store (.error thrown (scheduler, removed))
  | resumed (existing : TaskEntity Id) (removed saved : Store) (hinactive : scheduler.isTaskActive task.id = false)
      (hpolicy : policy = .strict) (hfind : tasksStore.find task.id store = .ok (some existing))
      (hremove : tasksStore.remove task.id store = .ok removed)
      (hadd : tasksStore.add (Scheduler.entity (Scheduler.resume existing task)) removed = .ok saved) :
      AddTask tasksStore task policy scheduler store
        (.ok () (scheduler.activateTask (Scheduler.resume existing task), saved))
  | notSaved (thrown : Exn) (hinactive : scheduler.isTaskActive task.id = false) (hpolicy : policy = .strict)
      (hfind : tasksStore.find task.id store = .ok none)
      (hadd : tasksStore.add (Scheduler.entity task) store = .error thrown) :
      AddTask tasksStore task policy scheduler store (.error thrown (scheduler, store))
  | saved (saved : Store) (hinactive : scheduler.isTaskActive task.id = false) (hpolicy : policy = .strict)
      (hfind : tasksStore.find task.id store = .ok none)
      (hadd : tasksStore.add (Scheduler.entity task) store = .ok saved) :
      AddTask tasksStore task policy scheduler store (.ok () (scheduler.activateTask task, saved))

theorem processStrictPolicyTask_found (task : Task Id) (scheduler : Scheduler Id) (store : Store)
    (existing : TaskEntity Id) (hfind : tasksStore.find task.id store = .ok (some existing)) :
    (Scheduler.processStrictPolicyTask tasksStore task).run (scheduler, store) =
      match tasksStore.remove task.id store with
      | .error thrown => .error thrown (scheduler, store)
      | .ok removed =>
        match tasksStore.add (Scheduler.entity (Scheduler.resume existing task)) removed with
        | .error thrown => .error thrown (scheduler, removed)
        | .ok saved => .ok (Scheduler.resume existing task) (scheduler, saved) := by
  have hid : (Scheduler.resume existing task).id = task.id := rfl
  unfold Scheduler.processStrictPolicyTask Scheduler.findInStore Scheduler.addTaskToStore Scheduler.onStore
  simp only [EStateM.run_bind, EStateM.run_get, hfind, EStateM.run_pure, hid]
  cases tasksStore.remove task.id store with
  | error thrown => simp
  | ok removed =>
      simp only [EStateM.run_set]
      cases tasksStore.add (Scheduler.entity (Scheduler.resume existing task)) removed <;> simp

theorem processStrictPolicyTask_fresh (task : Task Id) (scheduler : Scheduler Id) (store : Store)
    (hfind : tasksStore.find task.id store = .ok none) :
    (Scheduler.processStrictPolicyTask tasksStore task).run (scheduler, store) =
      match tasksStore.add (Scheduler.entity task) store with
      | .error thrown => .error thrown (scheduler, store)
      | .ok saved => .ok task (scheduler, saved) := by
  unfold Scheduler.processStrictPolicyTask Scheduler.findInStore Scheduler.addTaskToStore Scheduler.onStore
  simp only [EStateM.run_bind, EStateM.run_get, hfind, EStateM.run_pure]
  cases tasksStore.add (Scheduler.entity task) store <;> simp

theorem processStrictPolicyTask_failed (task : Task Id) (scheduler : Scheduler Id) (store : Store) (thrown : Exn)
    (hfind : tasksStore.find task.id store = .error thrown) :
    (Scheduler.processStrictPolicyTask tasksStore task).run (scheduler, store) = .error thrown (scheduler, store) := by
  unfold Scheduler.processStrictPolicyTask Scheduler.findInStore
  simp only [EStateM.run_bind, EStateM.run_get, hfind]
  rfl

theorem addTask_run (task : Task Id) (policy : Execution) (scheduler : Scheduler Id) (store : Store) :
    AddTask tasksStore task policy scheduler store
      ((Scheduler.addTask tasksStore task policy).run (scheduler, store)) := by
  unfold Scheduler.addTask
  simp only [EStateM.run_bind, EStateM.run_get]
  cases hactive : scheduler.isTaskActive task.id with
  | true => exact .duplicate hactive
  | false =>
      simp only [Bool.false_eq_true, if_false]
      cases policy with
      | relaxed => exact .relaxed hactive rfl
      | strict =>
          simp only [if_true, EStateM.run_bind]
          cases hfind : tasksStore.find task.id store with
          | error thrown =>
              rw [processStrictPolicyTask_failed task scheduler store thrown hfind]
              exact .notSearched thrown hactive rfl hfind
          | ok found =>
              cases found with
              | none =>
                  rw [processStrictPolicyTask_fresh task scheduler store hfind]
                  cases hadd : tasksStore.add (Scheduler.entity task) store with
                  | error thrown => exact .notSaved thrown hactive rfl hfind hadd
                  | ok saved => exact .saved saved hactive rfl hfind hadd
              | some existing =>
                  rw [processStrictPolicyTask_found task scheduler store existing hfind]
                  cases hremove : tasksStore.remove task.id store with
                  | error thrown => exact .notRemoved existing thrown hactive rfl hfind hremove
                  | ok removed =>
                      dsimp only
                      cases hadd : tasksStore.add (Scheduler.entity (Scheduler.resume existing task)) removed with
                      | error thrown => exact .notRestored existing removed thrown hactive rfl hfind hremove hadd
                      | ok saved => exact .resumed existing removed saved hactive rfl hfind hremove hadd

omit [DecidableEq Id] in
theorem create_eq {id : Id} {owner : Bytes} {duration : Duration} {now : Timepoint} {task : Task Id}
    (hcreate : Task.create E id owner duration now = .ok task) : task.id = id ∧ task.owner = owner := by
  unfold Task.create at hcreate
  cases hexpiry : Task.firstExpiry E duration now with
  | error thrown =>
      rw [hexpiry] at hcreate
      cases hcreate
  | ok expiry =>
      rw [hexpiry] at hcreate
      cases hcreate
      exact ⟨rfl, rfl⟩

-- A task that cannot be constructed is not added.
theorem every_run (owner : Bytes) (policy : Execution) (duration : Duration) (now : Timepoint)
    (point : Scheduler Id × Store) :
    (Scheduler.every E tasksStore owner policy duration now).run point =
      match Task.create E (Scheduler.generateId E owner duration) owner duration now with
      | .error thrown => .error thrown point
      | .ok task =>
        match (Scheduler.addTask tasksStore task policy).run point with
        | .error thrown later => .error thrown later
        | .ok _ later => .ok (Scheduler.generateId E owner duration) later := by
  unfold Scheduler.every
  cases hcreate : Task.create E (Scheduler.generateId E owner duration) owner duration now with
  | error thrown =>
      simp only [hcreate]
      rfl
  | ok task =>
      simp only [hcreate, EStateM.run_bind]
      cases (Scheduler.addTask tasksStore task policy).run point <;> rfl

-- What a successful call of every has done: `added` is the active task that it has
-- made of `task`.
structure Added (tasksStore : ITaskStore Id Store) (task added : Task Id) (policy : Execution)
    (before after : Scheduler Id × Store) : Prop where
  inactive : before.1.isTaskActive task.id = false
  id : added.id = task.id
  owner : added.owner = task.owner
  tasks : after.1.activeTasks = before.1.activeTasks ++ [added]
  relaxed : policy = .relaxed → after.2 = before.2
  strict : policy = .strict → tasksStore.content after.2 =
    Function.update (tasksStore.content before.2) task.id (some ⟨task.id, task.owner, toTimestamp added.expiry⟩)
  resumed : policy = .strict → ∀ existing, tasksStore.content before.2 task.id = some existing →
    added.expiry = fromTimestamp existing.timestamp

theorem isTaskActive_iff (id : Id) (scheduler : Scheduler Id) :
    scheduler.isTaskActive id = true ↔ id ∈ scheduler.activeTasks.map Task.id := by
  simp only [Scheduler.isTaskActive, List.any_eq_true, List.mem_map, decide_eq_true_eq, @eq_comm _ id]

theorem Added.fresh {task added : Task Id} {policy : Execution} {before after : Scheduler Id × Store}
    (hadded : Added tasksStore task added policy before after) (other : Task Id)
    (hother : other ∈ before.1.activeTasks) : other.id ≠ task.id := by
  intro heq
  have hactive := (isTaskActive_iff task.id before.1).mpr (heq ▸ List.mem_map_of_mem hother)
  exact absurd (hactive.symm.trans hadded.inactive) nofun

theorem Added.others {task added : Task Id} {policy : Execution} {before after : Scheduler Id × Store}
    (hadded : Added tasksStore task added policy before after) (id : Id) (hid : id ≠ task.id) :
    tasksStore.content after.2 id = tasksStore.content before.2 id := by
  cases policy with
  | relaxed => rw [hadded.relaxed rfl]
  | strict => rw [hadded.strict rfl, Function.update_of_ne hid]

theorem addTask_ok (task : Task Id) (policy : Execution) (scheduler : Scheduler Id) (store : Store)
    (after : Scheduler Id × Store)
    (hadd : (Scheduler.addTask tasksStore task policy).run (scheduler, store) = .ok () after) :
    ∃ added, Added tasksStore task added policy (scheduler, store) after := by
  have hrun : AddTask tasksStore task policy scheduler store _ := addTask_run task policy scheduler store
  rw [hadd] at hrun
  cases hrun with
  | relaxed hinactive hpolicy =>
      refine ⟨task.activate, hinactive, rfl, rfl, rfl, fun _ => rfl, fun hstrict => ?_, fun hstrict => ?_⟩
      · exact absurd (hpolicy.symm.trans hstrict) nofun
      · exact absurd (hpolicy.symm.trans hstrict) nofun
  | resumed existing removed saved hinactive hpolicy hfind hremove hadded =>
      refine ⟨(Scheduler.resume existing task).activate, hinactive, rfl, rfl, rfl, fun hrelaxed => ?_, fun _ => ?_,
        fun _ other hother => ?_⟩
      · exact absurd (hpolicy.symm.trans hrelaxed) nofun
      · rw [tasksStore.add_content _ _ _ hadded, tasksStore.remove_content _ _ _ hremove]
        exact Function.update_idem _ _ _
      · have hexisting := (tasksStore.find_content _ _ _ hfind).trans hother
        cases hexisting
        rfl
  | saved saved hinactive hpolicy hfind hadded =>
      refine ⟨task.activate, hinactive, rfl, rfl, rfl, fun hrelaxed => ?_, fun _ => ?_, fun _ other hother => ?_⟩
      · exact absurd (hpolicy.symm.trans hrelaxed) nofun
      · exact tasksStore.add_content _ _ _ hadded
      · exact absurd ((tasksStore.find_content _ _ _ hfind).trans hother) nofun

theorem every_ok (owner : Bytes) (policy : Execution) (duration : Duration) (now : Timepoint) (taskId : Id)
    (scheduler : Scheduler Id) (store : Store) (after : Scheduler Id × Store)
    (hevery : (Scheduler.every E tasksStore owner policy duration now).run (scheduler, store) = .ok taskId after) :
    taskId = Scheduler.generateId E owner duration ∧ ∃ task added, task.id = taskId ∧ task.owner = owner ∧
      Added tasksStore task added policy (scheduler, store) after := by
  rw [every_run] at hevery
  cases hcreate : Task.create E (Scheduler.generateId E owner duration) owner duration now with
  | error thrown => simp [hcreate] at hevery
  | ok task =>
      simp only [hcreate] at hevery
      cases hadd : (Scheduler.addTask tasksStore task policy).run (scheduler, store) with
      | error thrown later => simp [hadd] at hevery
      | ok _ later =>
          simp only [hadd, EStateM.Result.ok.injEq] at hevery
          obtain ⟨rfl, rfl⟩ := hevery
          obtain ⟨added, hadded⟩ := addTask_ok task policy scheduler store later hadd
          obtain ⟨hid, howner⟩ := create_eq hcreate
          exact ⟨rfl, task, added, hid, howner, hadded⟩

end Adding

namespace Task

omit [DecidableEq Id]

@[simp] theorem complete_id (result : WaitResult) (task : Task Id) : (task.complete result).id = task.id := by
  cases result <;> rfl

@[simp] theorem complete_failed_expiry (task : Task Id) : (task.complete .failed).expiry = task.expiry := rfl

@[simp] theorem complete_threw_expiry (task : Task Id) : (task.complete .threw).expiry = task.expiry := rfl

@[simp] theorem complete_handled_expiry (now : Timepoint) (task : Task Id) :
    (task.complete (.handled now)).expiry = task.nextExpiry now := rfl

end Task

end HhctrlMgmt.Scheduling
