import HhctrlMgmt.Scheduling.Scheduler

namespace HhctrlMgmt.Scheduling

open Datetime

variable {Id Store : Type} [DecidableEq Id] (E : Environment Id) (tasksStore : ITaskStore Id Store)

-- A scheduler, its store, and the ids that have been added with Execution::Strict.
structure Run (Id Store : Type) where
  scheduler : Scheduler Id
  store : Store
  strict : List Id

inductive Event where
  | every (owner : Bytes) (policy : Execution) (duration : Duration) (now : Timepoint)
  | expire (index : Nat) (fired : Timepoint) (result : WaitResult)

namespace Run

-- A call of every that throws, and not because the store fails, has changed
-- nothing.
def step (run : Run Id Store) : Event → Option (Run Id Store)
  | .every owner policy duration now =>
    match (Scheduler.every E tasksStore owner policy duration now).run (run.scheduler, run.store) with
    | .error _ _ => none
    | .ok taskId (scheduler, store) =>
      some ⟨scheduler, store, if policy = .strict then taskId :: run.strict else run.strict⟩
  | .expire index fired result =>
    (run.scheduler.expire index fired result).map fun scheduler => { run with scheduler := scheduler }

-- The runs from a new scheduler, on any store, whose steps are allowed.
inductive Reach (allowed : Run Id Store → Event → Prop) : Run Id Store → Prop where
  | start (store : Store) : Reach allowed ⟨⟨[]⟩, store, []⟩
  | step (before after : Run Id Store) (event : Event) (hreach : Reach allowed before)
      (hallowed : allowed before event) (hstep : before.step E tasksStore event = some after) :
      Reach allowed after

-- Each active strict task has an entry with its expiry.
def Current (run : Run Id Store) : Prop :=
  ∀ task ∈ run.scheduler.activeTasks, task.id ∈ run.strict →
    ∃ entity, tasksStore.content run.store task.id = some entity ∧ entity.timestamp = toTimestamp task.expiry

-- The timer of a strict task does not move on to another timestamp.
def KeepsTimestamp (run : Run Id Store) : Event → Prop
  | .every _ _ _ _ => True
  | .expire _ _ .failed => True
  | .expire _ _ .threw => True
  | .expire index _ (.handled now) =>
    ∀ task, run.scheduler.activeTasks[index]? = some task → task.id ∈ run.strict →
      match task.duration with
      | .interval unit count => toTimestamp (now + count * unit.nanoseconds) = toTimestamp task.expiry
      | .daysAt days _ => days = 0

end Run

-- A step of some days is none of less than a millisecond.
theorem toTimestamp_add_days (expiry days : Int) :
    toTimestamp (expiry + days * DurationUnit.days.nanoseconds) = toTimestamp expiry ↔ days = 0 := by
  have hsign : Int.sign 1000000 = 1 := rfl
  simp only [toTimestamp, nanosecondsPerMillisecond, DurationUnit.nanoseconds, Int.tdiv_eq_ediv, hsign]
  constructor
  · intro heq
    split_ifs at heq <;> omega
  · rintro rfl
    simp

omit [DecidableEq Id] in
-- The timestamp of a task whose handler has returned.
theorem nextExpiry_timestamp (now : Timepoint) (task : Task Id) :
    toTimestamp (task.nextExpiry now) = toTimestamp task.expiry ↔
      match task.duration with
      | .interval unit count => toTimestamp (now + count * unit.nanoseconds) = toTimestamp task.expiry
      | .daysAt days _ => days = 0 := by
  unfold Task.nextExpiry
  cases task.duration with
  | interval unit count => exact Iff.rfl
  | daysAt days time => exact toTimestamp_add_days task.expiry days

namespace Run

section Invariant

variable {E tasksStore}

-- The strict tasks are active, and their entries are current.
structure Saved (tasksStore : ITaskStore Id Store) (run : Run Id Store) : Prop where
  active : ∀ id ∈ run.strict, ∃ task ∈ run.scheduler.activeTasks, task.id = id
  current : run.Current tasksStore

theorem step_every (before after : Run Id Store) (owner : Bytes) (policy : Execution) (duration : Duration)
    (now : Timepoint) (hstep : before.step E tasksStore (.every owner policy duration now) = some after) :
    ∃ task added, Added tasksStore task added policy (before.scheduler, before.store)
        (after.scheduler, after.store) ∧
      after.strict = if policy = .strict then task.id :: before.strict else before.strict := by
  unfold step at hstep
  dsimp only at hstep
  split at hstep
  · cases hstep
  · rename_i taskId scheduler store hevery
    cases hstep
    obtain ⟨-, task, added, rfl, -, hadded⟩ := every_ok owner policy duration now taskId _ _ _ hevery
    exact ⟨task, added, hadded, rfl⟩

theorem step_expire (before after : Run Id Store) (index : Nat) (fired : Timepoint) (result : WaitResult)
    (hstep : before.step E tasksStore (.expire index fired result) = some after) :
    ∃ task, before.scheduler.activeTasks[index]? = some task ∧
      after.scheduler.activeTasks = before.scheduler.activeTasks.set index (task.complete result) ∧
      after.store = before.store ∧ after.strict = before.strict := by
  obtain ⟨scheduler, hexpire, rfl⟩ := Option.map_eq_some_iff.mp hstep
  obtain ⟨task, htask, hexpire⟩ := Option.bind_eq_some_iff.mp hexpire
  split at hexpire
  · cases hexpire
    exact ⟨task, htask, rfl, rfl, rfl⟩
  · cases hexpire

-- Adding a task keeps the entries of the others, and saves its own if it is strict.
theorem saved_every (before after : Run Id Store) (task added : Task Id) (policy : Execution)
    (hadded : Added tasksStore task added policy (before.scheduler, before.store)
      (after.scheduler, after.store))
    (hstrict : after.strict = if policy = .strict then task.id :: before.strict else before.strict)
    (hsaved : before.Saved tasksStore) : after.Saved tasksStore := by
  have htasks : after.scheduler.activeTasks = before.scheduler.activeTasks ++ [added] := hadded.tasks
  have hnew : task.id ∉ before.strict := by
    intro hmem
    obtain ⟨other, hother, hid⟩ := hsaved.active task.id hmem
    exact hadded.fresh other hother hid
  refine ⟨fun id hid => ?_, fun other hother hmem => ?_⟩
  · rw [htasks]
    by_cases hown : id = task.id
    · exact ⟨added, by simp, hadded.id.trans hown.symm⟩
    · have hold : id ∈ before.strict := by
        rw [hstrict] at hid
        split_ifs at hid
        · exact (List.mem_cons.mp hid).resolve_left hown
        · exact hid
      obtain ⟨other, hother, heq⟩ := hsaved.active id hold
      exact ⟨other, List.mem_append_left _ hother, heq⟩
  · rw [htasks] at hother
    rcases List.mem_append.mp hother with hold | hlast
    · have hne : other.id ≠ task.id := hadded.fresh other hold
      have hmem' : other.id ∈ before.strict := by
        rw [hstrict] at hmem
        split_ifs at hmem
        · exact (List.mem_cons.mp hmem).resolve_left hne
        · exact hmem
      obtain ⟨entity, hfind, htimestamp⟩ := hsaved.current other hold hmem'
      exact ⟨entity, (hadded.others other.id hne).trans hfind, htimestamp⟩
    · obtain rfl : other = added := List.mem_singleton.mp hlast
      by_cases hpolicy : policy = .strict
      · have hentry : tasksStore.content after.store = _ := hadded.strict hpolicy
        rw [hentry, hadded.id, Function.update_self]
        exact ⟨_, rfl, rfl⟩
      · rw [hstrict, if_neg hpolicy, hadded.id] at hmem
        exact absurd hmem hnew

omit [DecidableEq Id] in
theorem active_expire (before after : Run Id Store) (index : Nat) (task : Task Id) (result : WaitResult)
    (htask : before.scheduler.activeTasks[index]? = some task)
    (htasks : after.scheduler.activeTasks = before.scheduler.activeTasks.set index (task.complete result))
    (hstrict : after.strict = before.strict)
    (hactive : ∀ id ∈ before.strict, ∃ task ∈ before.scheduler.activeTasks, task.id = id) :
    ∀ id ∈ after.strict, ∃ task ∈ after.scheduler.activeTasks, task.id = id := by
  intro id hid
  rw [hstrict] at hid
  obtain ⟨hindex, hget⟩ := List.getElem?_eq_some_iff.mp htask
  have hids : after.scheduler.activeTasks.map Task.id = before.scheduler.activeTasks.map Task.id := by
    have hbound : index < (before.scheduler.activeTasks.map Task.id).length := by simpa using hindex
    have hown : (task.complete result).id = (before.scheduler.activeTasks.map Task.id)[index] := by
      simp [hget]
    rw [htasks, List.map_set, hown]
    exact List.set_getElem_self _
  obtain ⟨other, hother, heq⟩ := hactive id hid
  have hmem : id ∈ after.scheduler.activeTasks.map Task.id := by
    rw [hids, ← heq]
    exact List.mem_map_of_mem hother
  exact List.mem_map.mp hmem

-- Where a task's wait ends, the entries stay current exactly if its timestamp, in
-- case it is strict, does not change.
theorem current_expire (before after : Run Id Store) (index : Nat) (task : Task Id) (result : WaitResult)
    (htask : before.scheduler.activeTasks[index]? = some task)
    (htasks : after.scheduler.activeTasks = before.scheduler.activeTasks.set index (task.complete result))
    (hstore : after.store = before.store) (hstrict : after.strict = before.strict)
    (hcurrent : before.Current tasksStore) :
    after.Current tasksStore ↔
      (task.id ∈ before.strict → toTimestamp (task.complete result).expiry = toTimestamp task.expiry) := by
  obtain ⟨hindex, hget⟩ := List.getElem?_eq_some_iff.mp htask
  have hmem : task ∈ before.scheduler.activeTasks := hget ▸ List.getElem_mem hindex
  constructor
  · intro hafter htaskStrict
    have hcompleted : task.complete result ∈ after.scheduler.activeTasks := by
      rw [htasks]
      exact List.mem_set hindex (task.complete result)
    obtain ⟨entity, hfind, htimestamp⟩ := hafter _ hcompleted (by rw [hstrict]; simpa using htaskStrict)
    obtain ⟨saved, hsaved, hold⟩ := hcurrent task hmem htaskStrict
    rw [hstore, Task.complete_id, hsaved] at hfind
    cases hfind
    exact htimestamp.symm.trans hold
  · intro hkeeps other hother hotherStrict
    rw [htasks] at hother
    rw [hstrict] at hotherStrict
    rw [hstore]
    rcases List.mem_or_eq_of_mem_set hother with hold | rfl
    · exact hcurrent other hold hotherStrict
    · rw [Task.complete_id] at hotherStrict ⊢
      obtain ⟨saved, hsaved, hold⟩ := hcurrent task hmem hotherStrict
      exact ⟨saved, hsaved, hold.trans (hkeeps hotherStrict).symm⟩

omit [DecidableEq Id] in
theorem keepsTimestamp_iff (before : Run Id Store) (index : Nat) (fired : Timepoint) (task : Task Id)
    (result : WaitResult) (htask : before.scheduler.activeTasks[index]? = some task) :
    before.KeepsTimestamp (.expire index fired result) ↔
      (task.id ∈ before.strict → toTimestamp (task.complete result).expiry = toTimestamp task.expiry) := by
  cases result with
  | failed => exact ⟨fun _ _ => rfl, fun _ => trivial⟩
  | threw => exact ⟨fun _ _ => rfl, fun _ => trivial⟩
  | handled now =>
      rw [Task.complete_handled_expiry, nextExpiry_timestamp]
      simp only [KeepsTimestamp, htask, Option.some.injEq]
      exact ⟨fun h hmem => h task rfl hmem, fun h _ heq hmem => by subst heq; exact h hmem⟩

theorem saved_step (before after : Run Id Store) (event : Event)
    (hstep : before.step E tasksStore event = some after) (hsaved : before.Saved tasksStore) :
    (∀ id ∈ after.strict, ∃ task ∈ after.scheduler.activeTasks, task.id = id) ∧
      (after.Current tasksStore ↔ before.KeepsTimestamp event) := by
  cases event with
  | every owner policy duration now =>
      obtain ⟨task, added, hadded, hstrict⟩ := step_every before after owner policy duration now hstep
      have hafter := saved_every before after task added policy hadded hstrict hsaved
      exact ⟨hafter.active, fun _ => trivial, fun _ => hafter.current⟩
  | expire index fired result =>
      obtain ⟨task, htask, htasks, hstore, hstrict⟩ := step_expire before after index fired result hstep
      refine ⟨active_expire before after index task result htask htasks hstrict hsaved.active, ?_⟩
      rw [keepsTimestamp_iff before index fired task result htask]
      exact current_expire before after index task result htask htasks hstore hstrict hsaved.current

theorem saved_reach (run : Run Id Store) (hreach : Reach E tasksStore KeepsTimestamp run) :
    run.Saved tasksStore := by
  induction hreach with
  | start store => exact ⟨nofun, nofun⟩
  | step before after event _ hallowed hstep ih =>
      obtain ⟨hactive, hcurrent⟩ := saved_step before after event hstep ih
      exact ⟨hactive, hcurrent.mpr hallowed⟩

end Invariant

-- As long as no timer of a strict task moves on to another timestamp, the saved
-- expiries are current, and the first step that does so leaves a stale one.
theorem current_iff_keepsTimestamp (run : Run Id Store) (hreach : Reach E tasksStore KeepsTimestamp run) :
    run.Current tasksStore ∧
      ∀ event next, run.step E tasksStore event = some next →
        (next.Current tasksStore ↔ run.KeepsTimestamp event) := by
  have hsaved := saved_reach run hreach
  exact ⟨hsaved.current, fun event next hstep => (saved_step run next event hstep hsaved).2⟩

section Samples

-- Noon of the day, the only time of day that is asked for here; names are ids.
def noonEnvironment : Environment Bytes where
  nameGenerator := id
  parseTime _ now := .ok (now / DurationUnit.days.nanoseconds * DurationUnit.days.nanoseconds +
    12 * DurationUnit.hours.nanoseconds)

def noon : Timepoint := 12 * DurationUnit.hours.nanoseconds

def everyNoon : Duration := .daysAt 1 (ascii "12:00:00 UTC")

def doorTask (expiry : Timepoint) : Task Bytes :=
  ⟨ascii "door" ++ durationToStr everyNoon, ascii "door", everyNoon, expiry, true⟩

def doorRun (expiry : Timepoint) : Run Bytes (TaskMap Bytes) where
  scheduler := ⟨[doorTask expiry]⟩
  store := ⟨[⟨(doorTask noon).id, ascii "door", toTimestamp noon⟩], List.nodup_singleton _⟩
  strict := [(doorTask noon).id]

theorem doorRun_reach (allowed : Run Bytes (TaskMap Bytes) → Event → Prop)
    (hallowed : allowed ⟨⟨[]⟩, ⟨[], List.nodup_nil⟩, []⟩ (.every (ascii "door") .strict everyNoon 0)) :
    Reach noonEnvironment TaskMap.store allowed (doorRun noon) :=
  .step _ _ _ (.start ⟨[], List.nodup_nil⟩) hallowed rfl

-- A strict task that expires every day at noon: its entry is current until then.
theorem current_iff_keepsTimestamp_door :
    (doorRun noon).Current TaskMap.store ∧
      ∀ event next, (doorRun noon).step noonEnvironment TaskMap.store event = some next →
        (next.Current TaskMap.store ↔ (doorRun noon).KeepsTimestamp event) :=
  current_iff_keepsTimestamp noonEnvironment TaskMap.store (doorRun noon) (doorRun_reach _ trivial)

-- The task fires at noon and waits for the next noon. Its entry is that of the
-- first one.
theorem fired_task_not_current :
    ∃ run, Reach noonEnvironment TaskMap.store (fun _ _ => True) run ∧ ¬run.Current TaskMap.store := by
  refine ⟨doorRun (noon + DurationUnit.days.nanoseconds),
    .step _ _ (.expire 0 noon (.handled noon)) (doorRun_reach _ trivial) trivial rfl, fun hcurrent => ?_⟩
  obtain ⟨entity, hfind, htimestamp⟩ := hcurrent (doorTask (noon + DurationUnit.days.nanoseconds))
    (List.mem_singleton.mpr rfl) (List.mem_singleton.mpr rfl)
  cases hfind
  exact absurd htimestamp (by decide)

end Samples

end Run

end HhctrlMgmt.Scheduling
