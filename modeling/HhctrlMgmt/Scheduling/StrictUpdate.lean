import HhctrlMgmt.Scheduling.Scheduler

namespace HhctrlMgmt.Scheduling

variable {Id Store : Type} [DecidableEq Id] (E : Environment Id) (tasksStore : ITaskStore Id Store)

-- A call that throws leaves the active tasks and the content of the store alone.
def LeavesAlone (before : Scheduler Id × Store) : EStateM.Result Exn (Scheduler Id × Store) Id → Prop
  | .error _ later => later.1 = before.1 ∧ tasksStore.content later.2 = tasksStore.content before.2
  | .ok _ _ => True

-- The saved entry of the task is found and removed, and cannot be added again.
def NotRestored (task : Task Id) (scheduler : Scheduler Id) (store : Store) : Prop :=
  scheduler.isTaskActive task.id = false ∧ ∃ existing removed thrown,
    tasksStore.find task.id store = .ok (some existing) ∧ tasksStore.remove task.id store = .ok removed ∧
      tasksStore.add (Scheduler.entity (Scheduler.resume existing task)) removed = .error thrown

section Atomicity

variable {tasksStore}

theorem content_remove_ne (id : Id) (store removed : Store) (existing : TaskEntity Id)
    (hfind : tasksStore.find id store = .ok (some existing)) (hremove : tasksStore.remove id store = .ok removed) :
    tasksStore.content removed ≠ tasksStore.content store := by
  intro heq
  have hbefore : tasksStore.content store id = some existing := (tasksStore.find_content id store _ hfind).symm
  have hafter : tasksStore.content removed id = none := by
    rw [tasksStore.remove_content id store removed hremove, Function.update_self]
  rw [heq, hbefore] at hafter
  exact Option.some_ne_none existing hafter

-- Every failure of addTask but the one of adding the entry again comes before the
-- first change.
theorem addTask_strict_leaves_iff (task : Task Id) (scheduler : Scheduler Id) (store : Store) :
    (∀ thrown later, (Scheduler.addTask tasksStore task .strict).run (scheduler, store) = .error thrown later →
      later.1 = scheduler ∧ tasksStore.content later.2 = tasksStore.content store) ↔
      ¬NotRestored tasksStore task scheduler store := by
  have hrun : AddTask tasksStore task .strict scheduler store _ := addTask_run task .strict scheduler store
  constructor
  · rintro hleaves ⟨hinactive, existing, removed, thrown, hfind, hremove, hadd⟩
    have hthrows : (Scheduler.addTask tasksStore task .strict).run (scheduler, store) =
        .error thrown (scheduler, removed) := by
      generalize (Scheduler.addTask tasksStore task .strict).run (scheduler, store) = result at hrun
      cases hrun with
      | duplicate hactive => exact absurd (hactive.symm.trans hinactive) nofun
      | relaxed _ hpolicy => cases hpolicy
      | notSearched _ _ _ hfailed => cases hfind.symm.trans hfailed
      | notRemoved _ _ _ _ _ hfailed => cases hremove.symm.trans hfailed
      | notRestored other removed' thrown' _ _ hfind' hremove' hadd' =>
          cases hfind.symm.trans hfind'
          cases hremove.symm.trans hremove'
          cases hadd.symm.trans hadd'
          rfl
      | resumed other removed' saved _ _ hfind' hremove' hadd' =>
          cases hfind.symm.trans hfind'
          cases hremove.symm.trans hremove'
          cases hadd.symm.trans hadd'
      | notSaved _ _ _ hnone _ => cases hfind.symm.trans hnone
      | saved _ _ _ hnone _ => cases hfind.symm.trans hnone
    obtain ⟨-, hcontent⟩ := hleaves thrown _ hthrows
    exact content_remove_ne task.id store removed existing hfind hremove hcontent
  · intro hrestored thrown later hthrows
    rw [hthrows] at hrun
    cases hrun with
    | duplicate hactive => exact ⟨rfl, rfl⟩
    | notSearched _ _ _ _ => exact ⟨rfl, rfl⟩
    | notRemoved _ _ _ _ _ _ => exact ⟨rfl, rfl⟩
    | notSaved _ _ _ _ _ => exact ⟨rfl, rfl⟩
    | notRestored existing removed _ hinactive _ hfind hremove hadd =>
        exact absurd ⟨hinactive, existing, removed, thrown, hfind, hremove, hadd⟩ hrestored

end Atomicity

-- A strict task is added completely or not at all exactly if the store does not
-- fail to take back an entry that has been removed from it.
theorem every_strict_atomic_iff (owner : Bytes) (duration : Duration) (now : Timepoint) (scheduler : Scheduler Id)
    (store : Store) :
    LeavesAlone tasksStore (scheduler, store)
        ((Scheduler.every E tasksStore owner .strict duration now).run (scheduler, store)) ↔
      ∀ task, Task.create E (Scheduler.generateId E owner duration) owner duration now = .ok task →
        ¬NotRestored tasksStore task scheduler store := by
  rw [every_run]
  cases hcreate : Task.create E (Scheduler.generateId E owner duration) owner duration now with
  | error thrown => exact ⟨fun _ => nofun, fun _ => ⟨rfl, rfl⟩⟩
  | ok task =>
      have hleaves := @addTask_strict_leaves_iff _ _ _ tasksStore task scheduler store
      dsimp only
      cases hadd : (Scheduler.addTask tasksStore task .strict).run (scheduler, store) with
      | error thrown later =>
          rw [hadd] at hleaves
          constructor
          · rintro halone _ ⟨⟩
            exact hleaves.mp fun _ _ heq => by cases heq; exact halone
          · intro hrestored
            exact hleaves.mpr (hrestored task rfl) thrown later rfl
      | ok _ later =>
          rw [hadd] at hleaves
          refine iff_of_true trivial ?_
          rintro _ ⟨⟩
          exact hleaves.mp nofun

section Samples

-- Names are ids, and no time of day can be read.
def namesEnvironment : Environment Bytes where
  nameGenerator := id
  parseTime _ _ := .error (.invalidArgument "Cannot parse datetime due to invalid format.")

-- A store from which can be read and removed, and to which nothing can be written.
def fullStore : ITaskStore Bytes (TaskMap Bytes) :=
  { TaskMap.store with
    add := fun _ _ => .error (.runtimeError "Error while writing to file.")
    add_content := nofun }

def everyMinute : Duration := .interval .minutes 1

def savedDoor : TaskMap Bytes :=
  ⟨[⟨Scheduler.generateId namesEnvironment (ascii "door") everyMinute, ascii "door", 30000⟩], List.nodup_singleton _⟩

-- The call throws, and the expiry that was saved is gone.
theorem every_strict_loses_entry :
    ¬LeavesAlone fullStore (⟨[]⟩, savedDoor)
      ((Scheduler.every namesEnvironment fullStore (ascii "door") .strict everyMinute 0).run (⟨[]⟩, savedDoor)) := by
  rintro ⟨-, hcontent⟩
  have hdoor := congrFun hcontent (Scheduler.generateId namesEnvironment (ascii "door") everyMinute)
  revert hdoor
  decide +kernel

end Samples

end HhctrlMgmt.Scheduling
