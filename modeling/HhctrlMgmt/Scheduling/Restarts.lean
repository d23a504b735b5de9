import HhctrlMgmt.Scheduling.LocalTime

namespace HhctrlMgmt.Scheduling

open Datetime

variable {Id Store : Type} [DecidableEq Id] (E : Environment Id) (tasksStore : ITaskStore Id Store)

-- What a call or a restart leaves, whether the call returns or throws. A new process
-- starts with a new scheduler over the same store.
inductive Restarted (E : Environment Id) (tasksStore : ITaskStore Id Store) : Scheduler Id × Store → Prop
  | start (store : Store) : Restarted E tasksStore (⟨[]⟩, store)
  | returned (before later : Scheduler Id × Store) (owner : Bytes) (policy : Execution) (duration : Duration)
      (now : Timepoint) (taskId : Id) (hreach : Restarted E tasksStore before)
      (hreturned : (Scheduler.every E tasksStore owner policy duration now).run before = .ok taskId later) :
      Restarted E tasksStore later
  | threw (before later : Scheduler Id × Store) (owner : Bytes) (policy : Execution) (duration : Duration)
      (now : Timepoint) (thrown : Exn) (hreach : Restarted E tasksStore before)
      (hthrew : (Scheduler.every E tasksStore owner policy duration now).run before = .error thrown later) :
      Restarted E tasksStore later
  | restart (before : Scheduler Id × Store) (hreach : Restarted E tasksStore before) :
      Restarted E tasksStore (⟨[]⟩, before.2)

def DistinctIds (scheduler : Scheduler Id) : Prop :=
  (scheduler.activeTasks.map Task.id).Nodup

-- What adding a task has to do: it throws exactly for an active id, and then changes
-- nothing; otherwise the task becomes active, with the expiry that has been saved for
-- it if it is strict.
structure Adds (task : Task Id) (policy : Execution) (before : Scheduler Id × Store)
    (result : EStateM.Result Exn (Scheduler Id × Store) Id) : Prop where
  duplicate : before.1.isTaskActive task.id = true ↔ ∃ later, result = .error Scheduler.duplicated later
  throws : ∀ thrown later, result = .error thrown later → thrown = Scheduler.duplicated ∧ later = before
  returns : ∀ taskId later, result = .ok taskId later →
    ∃ added, taskId = task.id ∧ added.id = task.id ∧ later.1.activeTasks = before.1.activeTasks ++ [added] ∧
      (policy = .strict → ∃ entity, tasksStore.content later.2 task.id = some entity ∧
        entity.timestamp = toTimestamp added.expiry ∧
        ∀ existing, tasksStore.content before.2 task.id = some existing →
          entity.timestamp = existing.timestamp ∧ added.expiry = fromTimestamp existing.timestamp)
  relaxed : ∀ taskId later, result = .ok taskId later → policy = .relaxed → later.2 = before.2
  others : ∀ taskId later, result = .ok taskId later → ∀ id, id ≠ task.id →
    tasksStore.content later.2 id = tasksStore.content before.2 id

-- A call whose task can be constructed does what it has to. Any other call throws,
-- and changes nothing.
def EveryAdds (owner : Bytes) (policy : Execution) (duration : Duration) (now : Timepoint)
    (before : Scheduler Id × Store) : Prop :=
  match Task.create E (Scheduler.generateId E owner duration) owner duration now with
  | .ok task => Adds tasksStore task policy before ((Scheduler.every E tasksStore owner policy duration now).run before)
  | .error thrown => (Scheduler.every E tasksStore owner policy duration now).run before = .error thrown before

section Calls

variable {E tasksStore}

-- A store that does not fail lets a task be added unless its id is active.
theorem addTask_throws (hreliable : tasksStore.Reliable) (task : Task Id) (policy : Execution)
    (scheduler : Scheduler Id) (store : Store) (thrown : Exn) (later : Scheduler Id × Store)
    (hthrows : (Scheduler.addTask tasksStore task policy).run (scheduler, store) = .error thrown later) :
    scheduler.isTaskActive task.id = true ∧ thrown = Scheduler.duplicated ∧ later = (scheduler, store) := by
  have hrun : AddTask tasksStore task policy scheduler store _ := addTask_run task policy scheduler store
  rw [hthrows] at hrun
  cases hrun with
  | duplicate hactive => exact ⟨hactive, rfl, rfl⟩
  | notSearched _ _ _ hfind =>
      obtain ⟨found, hfound⟩ := hreliable.find task.id store
      cases hfound.symm.trans hfind
  | notRemoved existing _ _ _ hfind hremove =>
      have hpresent : tasksStore.content store task.id ≠ none := by
        rw [← tasksStore.find_content task.id store _ hfind]
        exact Option.some_ne_none existing
      obtain ⟨removed, hremoved⟩ := hreliable.remove task.id store hpresent
      cases hremoved.symm.trans hremove
  | notRestored existing removed _ _ _ hfind hremove hadd =>
      have hfree : tasksStore.content removed task.id = none := by
        rw [tasksStore.remove_content task.id store removed hremove, Function.update_self]
      obtain ⟨saved, hsaved⟩ := hreliable.add (Scheduler.entity (Scheduler.resume existing task)) removed hfree
      cases hsaved.symm.trans hadd
  | notSaved _ _ _ hfind hadd =>
      have hfree : tasksStore.content store task.id = none := (tasksStore.find_content task.id store _ hfind).symm
      obtain ⟨saved, hsaved⟩ := hreliable.add (Scheduler.entity task) store hfree
      cases hsaved.symm.trans hadd

-- The saved expiry is resumed, and saved again as it was.
theorem Added.strict_entry {task added : Task Id} {policy : Execution} {before after : Scheduler Id × Store}
    (hadded : Added tasksStore task added policy before after) (hstrict : policy = .strict) :
    ∃ entity, tasksStore.content after.2 task.id = some entity ∧ entity.timestamp = toTimestamp added.expiry ∧
      ∀ existing, tasksStore.content before.2 task.id = some existing →
        entity.timestamp = existing.timestamp ∧ added.expiry = fromTimestamp existing.timestamp := by
  refine ⟨⟨task.id, task.owner, toTimestamp added.expiry⟩, ?_, rfl, fun existing hexisting => ?_⟩
  · rw [hadded.strict hstrict, Function.update_self]
  · have hexpiry := hadded.resumed hstrict existing hexisting
    refine ⟨?_, hexpiry⟩
    rw [hexpiry, toTimestamp_fromTimestamp]

theorem every_adds (hreliable : tasksStore.Reliable) (owner : Bytes) (policy : Execution) (duration : Duration)
    (now : Timepoint) (before : Scheduler Id × Store) : EveryAdds E tasksStore owner policy duration now before := by
  obtain ⟨scheduler, store⟩ := before
  unfold EveryAdds
  rw [every_run]
  cases hcreate : Task.create E (Scheduler.generateId E owner duration) owner duration now with
  | error thrown => rfl
  | ok task =>
      obtain ⟨hid, -⟩ := create_eq hcreate
      dsimp only
      cases hadd : (Scheduler.addTask tasksStore task policy).run (scheduler, store) with
      | error thrown later =>
          obtain ⟨hactive, rfl, rfl⟩ := addTask_throws hreliable task policy scheduler store thrown later hadd
          refine ⟨iff_of_true hactive ⟨_, rfl⟩, ?_, nofun, nofun, nofun⟩
          rintro _ _ ⟨⟩
          exact ⟨rfl, rfl⟩
      | ok _ later =>
          obtain ⟨added, hadded⟩ := addTask_ok task policy scheduler store later hadd
          have hinactive : ¬scheduler.isTaskActive task.id = true := by
            rw [hadded.inactive]
            exact Bool.false_ne_true
          refine ⟨iff_of_false hinactive nofun, nofun, ?_, ?_, ?_⟩
          · rintro _ _ ⟨⟩
            exact ⟨added, hid.symm, hadded.id, hadded.tasks, hadded.strict_entry⟩
          · rintro _ _ ⟨⟩
            exact hadded.relaxed
          · rintro _ _ ⟨⟩
            exact hadded.others

theorem distinctIds_added {task added : Task Id} {policy : Execution} {before after : Scheduler Id × Store}
    (hadded : Added tasksStore task added policy before after) (hdistinct : DistinctIds before.1) :
    DistinctIds after.1 := by
  have hnew : added.id ∉ before.1.activeTasks.map Task.id := by
    rw [hadded.id, ← isTaskActive_iff, hadded.inactive]
    exact Bool.false_ne_true
  unfold DistinctIds at hdistinct ⊢
  rw [hadded.tasks, List.map_append, List.map_singleton]
  rw [← List.concat_eq_append]
  exact hdistinct.concat hnew

-- A call that throws leaves the active tasks as they were, whatever the store does.
theorem every_error_scheduler (owner : Bytes) (policy : Execution) (duration : Duration) (now : Timepoint)
    (before later : Scheduler Id × Store) (thrown : Exn)
    (hthrew : (Scheduler.every E tasksStore owner policy duration now).run before = .error thrown later) :
    later.1 = before.1 := by
  obtain ⟨scheduler, store⟩ := before
  rw [every_run] at hthrew
  cases hcreate : Task.create E (Scheduler.generateId E owner duration) owner duration now with
  | error _ =>
      simp only [hcreate] at hthrew
      cases hthrew
      rfl
  | ok task =>
      simp only [hcreate] at hthrew
      have hrun : AddTask tasksStore task policy scheduler store _ := addTask_run task policy scheduler store
      generalize (Scheduler.addTask tasksStore task policy).run (scheduler, store) = result at hrun hthrew
      cases hrun <;> cases hthrew <;> rfl

theorem Restarted.distinctIds {point : Scheduler Id × Store} (hreach : Restarted E tasksStore point) :
    DistinctIds point.1 := by
  induction hreach with
  | start store => exact List.nodup_nil
  | returned before later owner policy duration now taskId _ hreturned ih =>
      obtain ⟨-, task, added, -, -, hadded⟩ :=
        every_ok owner policy duration now taskId before.1 before.2 later hreturned
      exact distinctIds_added hadded ih
  | threw before later owner policy duration now thrown _ hthrew ih =>
      rw [every_error_scheduler owner policy duration now before later thrown hthrew]
      exact ih
  | restart before _ _ => exact List.nodup_nil

end Calls

-- Over any calls and restarts the active ids are distinct, and every call does what it
-- has to.
theorem every_restarted (hreliable : tasksStore.Reliable) (point : Scheduler Id × Store)
    (hreach : Restarted E tasksStore point) :
    DistinctIds point.1 ∧
      ∀ owner policy duration now, EveryAdds E tasksStore owner policy duration now point :=
  ⟨hreach.distinctIds, fun owner policy duration now => every_adds hreliable owner policy duration now point⟩

section Samples

-- The date library on two days; on the second one the clocks go forward at two.
def lastWeekend : DateLibrary where
  formatDate now :=
    if utcDay now = 19812 then ascii "2024-03-30" else if utcDay now = 19813 then ascii "2024-03-31" else []
  parse text :=
    if text = ascii "2024-03-30 02:30:00 Europe/Warsaw" then some (19812 * secondsPerDay + 9000, ascii "Europe/Warsaw")
    else if text = ascii "2024-03-31 02:30:00 Europe/Warsaw" then
      some (19813 * secondsPerDay + 9000, ascii "Europe/Warsaw")
    else none
  locateZone name :=
    if name = ascii "Europe/Warsaw" then .ok warsaw else .error (.runtimeError "not found in timezone database")

def clocksEnvironment : Environment Bytes := lastWeekend.environment id

def everyNight : Duration := .daysAt 1 (ascii "02:30:00 Europe/Warsaw")

-- Half past two of the first day is half past one in UTC.
def nightTask : Task Bytes :=
  ⟨ascii "door" ++ durationToStr everyNight, ascii "door", everyNight,
    (19812 * secondsPerDay + 5400) * nanosecondsPerSecond, true⟩

def nightPoint : Scheduler Bytes × TaskMap Bytes := (⟨[nightTask]⟩, ⟨[], List.nodup_nil⟩)

theorem nightPoint_reach : Restarted clocksEnvironment TaskMap.store nightPoint :=
  .returned _ _ (ascii "door") .relaxed everyNight (19812 * nanosecondsPerDay) nightTask.id
    (.start ⟨[], List.nodup_nil⟩) rfl

theorem every_restarted_night :
    DistinctIds nightPoint.1 ∧
      ∀ owner policy duration now, EveryAdds clocksEnvironment TaskMap.store owner policy duration now nightPoint :=
  every_restarted clocksEnvironment TaskMap.store TaskMap.store_reliable nightPoint nightPoint_reach

-- The id is active, and the call does not throw for duplication: the task is
-- constructed before its id is looked for.
theorem every_not_duplicate :
    ∃ point later thrown, Restarted clocksEnvironment TaskMap.store point ∧
      point.1.isTaskActive (Scheduler.generateId clocksEnvironment (ascii "door") everyNight) = true ∧
      (Scheduler.every clocksEnvironment TaskMap.store (ascii "door") .relaxed everyNight
        (19813 * nanosecondsPerDay)).run point = .error thrown later ∧ thrown ≠ Scheduler.duplicated :=
  ⟨nightPoint, nightPoint, .runtimeError "is in a gap", nightPoint_reach, by decide +kernel, rfl,
    by decide +kernel⟩

end Samples

end HhctrlMgmt.Scheduling
