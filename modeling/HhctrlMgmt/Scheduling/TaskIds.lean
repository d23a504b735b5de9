import HhctrlMgmt.Common.Text
import HhctrlMgmt.Scheduling.Restarts
import HhctrlMgmt.Scheduling.StrictUpdate

namespace HhctrlMgmt.Scheduling

open Common

section Text

-- What durationToStr prints of a duration before its time string.
def timeMark (days : Int) : Bytes :=
  ascii "days" ++ 95 :: (decimal days ++ 95 :: (ascii "AtTime" ++ 95 :: (ascii "t" ++ [95])))

def label : Duration → Bytes
  | .interval unit count => ascii unit.name ++ 95 :: decimal count
  | .daysAt days _ => timeMark days

def timeOf : Duration → Bytes
  | .interval _ _ => []
  | .daysAt _ time => time

theorem ascii_timeMark (days : Int) : ascii ("days_" ++ toString days ++ "_AtTime_t_") = timeMark days := by
  rw [ascii_append, ascii_append, List.append_assoc]
  rfl

theorem durationToStr_eq (duration : Duration) : durationToStr duration = label duration ++ timeOf duration := by
  cases duration with
  | interval unit count =>
      show ascii (unit.name ++ "_" ++ toString count) = _
      rw [ascii_append, ascii_append, List.append_assoc]
      exact (List.append_nil _).symm
  | daysAt days time =>
      show ascii ("days_" ++ toString days ++ "_AtTime_t_") ++ time = timeMark days ++ time
      rw [ascii_timeMark]

theorem underscore_notMem_name (unit : DurationUnit) : 95 ∉ ascii unit.name := by
  cases unit <;> decide

theorem getLast_name (unit : DurationUnit) : (ascii unit.name).getLast? = some 115 := by
  cases unit <;> rfl

-- One of the units is written like the end of another one.
theorem name_suffix {unit other : DurationUnit} (h : ascii unit.name <:+ ascii other.name) :
    unit = other ∨ unit = .seconds ∧ other = .milliseconds := by
  revert h
  cases unit <;> cases other <;> decide

theorem label_ne_underscore (duration : Duration) (rest : Bytes) : label duration ≠ 95 :: rest := by
  intro heq
  have hfirst := congrArg List.head? heq
  revert hfirst
  cases duration with
  | interval unit count => cases unit <;> exact fun hfirst => absurd (Option.some.inj hfirst) (by decide)
  | daysAt days time => exact fun hfirst => absurd (Option.some.inj hfirst) (by decide)

theorem label_ne_nil (duration : Duration) : label duration ≠ [] := by
  cases duration with
  | interval unit count => exact List.append_ne_nil_of_right_ne_nil _ (List.cons_ne_nil _ _)
  | daysAt days time => exact List.append_ne_nil_of_right_ne_nil _ (List.cons_ne_nil _ _)

theorem t_notMem_decimal (value : Int) : 116 ∉ decimal value := by
  intro hmem
  have hrange := mem_decimal value 116 hmem
  have h116 : (116 : UInt8).toNat = 116 := rfl
  omega

-- The letters "t_" stand in what is printed before a time string only at its end.
theorem label_t {duration : Duration} {front rest : Bytes} (heq : label duration = front ++ 116 :: 95 :: rest) :
    rest = [] ∧ ∃ days time, duration = .daysAt days time := by
  have hlast : (front ++ [116]).getLast? = some 116 := List.getLast?_concat
  have hsplit : (front ++ [116]) ++ 95 :: rest = label duration := by
    rw [heq, List.append_assoc]
    rfl
  generalize front ++ [116] = text at hlast hsplit
  cases duration with
  | interval unit count =>
      rcases append_mark_cases (underscore_notMem_name unit) hsplit with ⟨rfl, -⟩ | ⟨more, rfl, hcount⟩
      · rw [getLast_name] at hlast
        exact absurd (Option.some.inj hlast) (by decide)
      · have hmem : 95 ∈ decimal count := hcount ▸ List.mem_append_right more List.mem_cons_self
        exact absurd hmem (underscore_notMem_decimal count)
  | daysAt days time =>
      refine ⟨?_, days, time, rfl⟩
      -- the first underscore, and each next one
      rcases append_mark_cases (by decide) hsplit with ⟨rfl, -⟩ | ⟨first, rfl, hfirst⟩
      · exact absurd (Option.some.inj hlast) (by decide)
      have hlast := getLast_append_mark (by decide) hlast
      rcases append_mark_cases (underscore_notMem_decimal days) hfirst.symm with ⟨rfl, -⟩ | ⟨second, rfl, hsecond⟩
      · exact absurd (List.mem_of_getLast? hlast) (t_notMem_decimal days)
      have hlast := getLast_append_mark (by decide) hlast
      rcases append_mark_cases (by decide) hsecond.symm with ⟨rfl, -⟩ | ⟨third, rfl, hthird⟩
      · exact absurd (Option.some.inj hlast) (by decide)
      rcases append_mark_cases (by decide) hthird.symm with ⟨-, hrest⟩ | ⟨fourth, -, hfourth⟩
      · exact hrest
      · exact absurd hfourth.symm (List.append_ne_nil_of_right_ne_nil fourth (List.cons_ne_nil 95 rest))

theorem timeMark_inj {owner other : Bytes} {days otherDays : Int}
    (heq : owner ++ timeMark days = other ++ timeMark otherDays) :
    owner = other ∧ days = otherDays := by
  have hend : ∀ (owner : Bytes) (days : Int), owner ++ timeMark days =
      ((owner ++ ascii "days") ++ 95 :: decimal days) ++ ascii "_AtTime_t_" := by
    intro owner days
    simp only [timeMark, List.append_assoc, List.cons_append]
    rfl
  rw [hend, hend] at heq
  obtain ⟨hwords, hdays⟩ := append_last_mark_inj (underscore_notMem_decimal days) (underscore_notMem_decimal otherDays)
    (List.append_cancel_right heq)
  exact ⟨List.append_cancel_right hwords, decimal_injective hdays⟩

end Text

-- An owner and a duration whose name starts like that of another unit.
def Prefixed (owner : Bytes) (duration : Duration) (other : Bytes) (otherDuration : Duration) : Prop :=
  ∃ count, duration = .interval .milliseconds count ∧ otherDuration = .interval .seconds count ∧
    other = owner ++ ascii "milli"

-- A time string that ends like another duration, whose owner is named like the rest.
def Swallows (owner : Bytes) (duration : Duration) (other : Bytes) (otherDuration : Duration) : Prop :=
  ∃ days rest, duration = .daysAt days (rest ++ durationToStr otherDuration) ∧
    other = owner ++ ascii ("days_" ++ toString days ++ "_AtTime_t_") ++ rest

def Collide (owner : Bytes) (duration : Duration) (other : Bytes) (otherDuration : Duration) : Prop :=
  Prefixed owner duration other otherDuration ∨ Prefixed other otherDuration owner duration ∨
    Swallows owner duration other otherDuration ∨ Swallows other otherDuration owner duration

section Collisions

variable {owner other : Bytes} {duration otherDuration : Duration}

theorem interval_collisions {unit otherUnit : DurationUnit} {count otherCount : Int}
    (heq : owner ++ durationToStr (.interval unit count) = other ++ durationToStr (.interval otherUnit otherCount)) :
    (owner = other ∧ Duration.interval unit count = .interval otherUnit otherCount) ∨
      Prefixed owner (.interval unit count) other (.interval otherUnit otherCount) ∨
      Prefixed other (.interval otherUnit otherCount) owner (.interval unit count) := by
  have hsplit : (owner ++ ascii unit.name) ++ 95 :: decimal count =
      (other ++ ascii otherUnit.name) ++ 95 :: decimal otherCount := by
    simpa only [durationToStr_eq, label, timeOf, List.append_nil, List.append_assoc] using heq
  obtain ⟨hnames, hcounts⟩ :=
    append_last_mark_inj (underscore_notMem_decimal count) (underscore_notMem_decimal otherCount) hsplit
  obtain rfl := decimal_injective hcounts
  have hmilli : ascii DurationUnit.milliseconds.name = ascii "milli" ++ ascii DurationUnit.seconds.name := by decide
  have hends : ascii unit.name <:+ ascii otherUnit.name ∨ ascii otherUnit.name <:+ ascii unit.name :=
    List.suffix_or_suffix_of_suffix ⟨owner, hnames⟩ ⟨other, rfl⟩
  rcases hends with hend | hend
  · rcases name_suffix hend with rfl | ⟨rfl, rfl⟩
    · exact .inl ⟨List.append_cancel_right hnames, rfl⟩
    · rw [hmilli, ← List.append_assoc] at hnames
      exact .inr (.inr ⟨count, rfl, rfl, List.append_cancel_right hnames⟩)
  · rcases name_suffix hend with rfl | ⟨rfl, rfl⟩
    · exact .inl ⟨List.append_cancel_right hnames, rfl⟩
    · rw [hmilli, ← List.append_assoc] at hnames
      exact .inr (.inl ⟨count, rfl, rfl, (List.append_cancel_right hnames).symm⟩)

-- How a text that ends with "t_" can be taken apart.
theorem t_suffix_cases {front other inner : Bytes} (heq : front ++ [116, 95] = other ++ inner) :
    inner = [] ∨ inner = [95] ∨ ∃ more, inner = more ++ [116, 95] := by
  rcases List.append_eq_append_iff.mp heq with ⟨more, -, hinner⟩ | ⟨more, -, rfl⟩
  · rcases List.cons_eq_append_iff.mp hinner with ⟨-, rfl⟩ | ⟨more, -, hinner⟩
    · exact .inr (.inr ⟨[], rfl⟩)
    · rcases List.cons_eq_append_iff.mp hinner with ⟨-, rfl⟩ | ⟨more, -, hinner⟩
      · exact .inr (.inl rfl)
      · exact .inl (List.append_eq_nil_iff.mp hinner.symm).2
  · exact .inr (.inr ⟨more, rfl⟩)

-- What is printed before a time string ends before another duration begins, or is the
-- end of what is printed before another time string.
theorem timeMark_boundary {days : Int} {between : Bytes}
    (heq : (owner ++ timeMark days) ++ between = other ++ label duration) :
    (∃ rest, other = owner ++ timeMark days ++ rest ∧ between = rest ++ label duration) ∨
      between = [] ∧ ∃ otherDays time, duration = .daysAt otherDays time := by
  rcases List.append_eq_append_iff.mp heq with ⟨rest, hother, hbetween⟩ | ⟨inner, hmark, hlabel⟩
  · exact .inl ⟨rest, hother, hbetween⟩
  have hend : owner ++ timeMark days =
      (owner ++ (ascii "days" ++ 95 :: (decimal days ++ 95 :: (ascii "AtTime" ++ [95])))) ++ [116, 95] := by
    simp only [timeMark, List.append_assoc, List.cons_append]
    rfl
  rcases t_suffix_cases (hend.symm.trans hmark) with rfl | rfl | ⟨front, rfl⟩
  · rw [List.append_nil] at hmark
    exact .inl ⟨[], hmark.symm.trans (List.append_nil _).symm, hlabel.symm⟩
  · exact absurd hlabel (label_ne_underscore duration between)
  · rw [List.append_assoc] at hlabel
    exact .inr (label_t hlabel)

theorem daysAt_collisions {days : Int} {time between : Bytes}
    (htime : time = between ++ timeOf otherDuration)
    (heq : (owner ++ timeMark days) ++ between = other ++ label otherDuration) :
    (owner = other ∧ Duration.daysAt days time = otherDuration) ∨
      Swallows owner (.daysAt days time) other otherDuration := by
  rcases timeMark_boundary heq with ⟨rest, rfl, rfl⟩ | ⟨rfl, otherDays, otherTime, rfl⟩
  · rw [List.append_assoc, ← durationToStr_eq] at htime
    refine .inr ⟨days, rest, ?_, ?_⟩
    · rw [htime]
    · rw [ascii_timeMark]
  · rw [List.append_nil] at heq
    obtain ⟨hown, rfl⟩ := timeMark_inj heq
    refine .inl ⟨hown, ?_⟩
    rw [htime]
    rfl

-- Where the text before one time string reaches as far as that before the other.
theorem collisions_before {between : Bytes} (htime : timeOf duration = between ++ timeOf otherDuration)
    (heq : (owner ++ label duration) ++ between = other ++ label otherDuration) :
    (owner = other ∧ duration = otherDuration) ∨ Collide owner duration other otherDuration := by
  cases duration with
  | daysAt days time =>
      rcases daysAt_collisions htime heq with hsame | hswallows
      · exact .inl hsame
      · exact .inr (.inr (.inr (.inl hswallows)))
  | interval unit count =>
      obtain ⟨rfl, -⟩ := List.append_eq_nil_iff.mp htime.symm
      rw [List.append_nil] at heq
      cases otherDuration with
      | interval otherUnit otherCount =>
          have htexts : owner ++ durationToStr (.interval unit count) =
              other ++ durationToStr (.interval otherUnit otherCount) := by
            simp only [durationToStr_eq, timeOf, List.append_nil]
            exact heq
          rcases interval_collisions htexts with hsame | hprefixed | hprefixed
          · exact .inl hsame
          · exact .inr (.inl hprefixed)
          · exact .inr (.inr (.inl hprefixed))
      | daysAt days time =>
          have hreach : (other ++ timeMark days) ++ [] = owner ++ label (.interval unit count) := by
            rw [List.append_nil]
            exact heq.symm
          rcases timeMark_boundary hreach with ⟨rest, -, hnil⟩ | ⟨-, otherDays, otherTime, hinterval⟩
          · exact absurd (List.append_eq_nil_iff.mp hnil.symm).2 (label_ne_nil _)
          · cases hinterval

theorem Collide.symm (h : Collide owner duration other otherDuration) : Collide other otherDuration owner duration := by
  rcases h with h | h | h | h
  · exact .inr (.inl h)
  · exact .inl h
  · exact .inr (.inr (.inr h))
  · exact .inr (.inr (.inl h))

-- Two texts are the same only for the same owner and duration, or for a collision.
theorem collisions (heq : owner ++ durationToStr duration = other ++ durationToStr otherDuration) :
    (owner = other ∧ duration = otherDuration) ∨ Collide owner duration other otherDuration := by
  rw [durationToStr_eq, durationToStr_eq, ← List.append_assoc, ← List.append_assoc] at heq
  rcases List.append_eq_append_iff.mp heq with ⟨between, hlabels, htime⟩ | ⟨between, hlabels, htime⟩
  · exact collisions_before htime hlabels.symm
  · rcases collisions_before htime hlabels.symm with ⟨howner, hduration⟩ | hcollide
    · exact .inl ⟨howner.symm, hduration.symm⟩
    · exact .inr hcollide.symm

theorem Prefixed.text (h : Prefixed owner duration other otherDuration) :
    owner ++ durationToStr duration = other ++ durationToStr otherDuration ∧ duration ≠ otherDuration := by
  obtain ⟨count, rfl, rfl, rfl⟩ := h
  refine ⟨?_, fun heq => by cases heq⟩
  rw [durationToStr_eq, durationToStr_eq, List.append_assoc]
  rfl

theorem Swallows.text (h : Swallows owner duration other otherDuration) :
    owner ++ durationToStr duration = other ++ durationToStr otherDuration ∧ owner ≠ other := by
  obtain ⟨days, rest, rfl, rfl⟩ := h
  constructor
  · show owner ++ (_ ++ (rest ++ _)) = _
    simp only [List.append_assoc]
  · intro heq
    have hlength := congrArg List.length heq
    rw [ascii_timeMark, List.length_append, List.length_append] at hlength
    have hmark : 0 < (timeMark days).length := List.length_pos_of_ne_nil (label_ne_nil (.daysAt days []))
    omega

theorem Collide.text (h : Collide owner duration other otherDuration) :
    owner ++ durationToStr duration = other ++ durationToStr otherDuration ∧
      ¬(owner = other ∧ duration = otherDuration) := by
  rcases h with h | h | h | h
  · exact ⟨h.text.1, fun hsame => h.text.2 hsame.2⟩
  · exact ⟨h.text.1.symm, fun hsame => h.text.2 hsame.2.symm⟩
  · exact ⟨h.text.1, fun hsame => h.text.2 hsame.1⟩
  · exact ⟨h.text.1.symm, fun hsame => h.text.2 hsame.1.symm⟩

end Collisions

variable {Id Store : Type} [DecidableEq Id]

-- What calls of every, whether they return or throw, and the ends of waits lead to.
inductive Operated (E : Environment Id) (tasksStore : ITaskStore Id Store) : Scheduler Id × Store → Prop
  | start (store : Store) : Operated E tasksStore (⟨[]⟩, store)
  | returned (before later : Scheduler Id × Store) (owner : Bytes) (policy : Execution) (duration : Duration)
      (now : Timepoint) (taskId : Id) (hreach : Operated E tasksStore before)
      (hreturned : (Scheduler.every E tasksStore owner policy duration now).run before = .ok taskId later) :
      Operated E tasksStore later
  | threw (before later : Scheduler Id × Store) (owner : Bytes) (policy : Execution) (duration : Duration)
      (now : Timepoint) (thrown : Exn) (hreach : Operated E tasksStore before)
      (hthrew : (Scheduler.every E tasksStore owner policy duration now).run before = .error thrown later) :
      Operated E tasksStore later
  | expired (before : Scheduler Id × Store) (later : Scheduler Id) (index : Nat) (fired : Timepoint) (result : WaitResult)
      (hreach : Operated E tasksStore before) (hexpire : before.1.expire index fired result = some later) :
      Operated E tasksStore (later, before.2)

section Identified

variable {E : Environment Id} {tasksStore : ITaskStore Id Store}

-- Each active task has the id of its owner and its duration.
def Identified (E : Environment Id) (scheduler : Scheduler Id) : Prop :=
  ∀ task ∈ scheduler.activeTasks, task.id = Scheduler.generateId E task.owner task.duration

omit [DecidableEq Id] in
theorem create_duration {id : Id} {owner : Bytes} {duration : Duration} {now : Timepoint} {task : Task Id}
    (hcreate : Task.create E id owner duration now = .ok task) : task.duration = duration := by
  unfold Task.create at hcreate
  cases hexpiry : Task.firstExpiry E duration now with
  | error thrown =>
      rw [hexpiry] at hcreate
      cases hcreate
  | ok expiry =>
      rw [hexpiry] at hcreate
      cases hcreate
      rfl

theorem addTask_appends {task : Task Id} {policy : Execution} {scheduler : Scheduler Id} {store : Store}
    {later : Scheduler Id × Store}
    (hadd : (Scheduler.addTask tasksStore task policy).run (scheduler, store) = .ok () later) :
    ∃ added, later.1.activeTasks = scheduler.activeTasks ++ [added] ∧ added.id = task.id ∧ added.owner = task.owner ∧
      added.duration = task.duration := by
  have hrun : AddTask tasksStore task policy scheduler store _ := addTask_run task policy scheduler store
  rw [hadd] at hrun
  cases hrun with
  | relaxed _ _ => exact ⟨task.activate, rfl, rfl, rfl, rfl⟩
  | resumed existing _ _ _ _ _ _ _ => exact ⟨(Scheduler.resume existing task).activate, rfl, rfl, rfl, rfl⟩
  | saved _ _ _ _ _ => exact ⟨task.activate, rfl, rfl, rfl, rfl⟩

theorem identified_every {before later : Scheduler Id × Store} {owner : Bytes} {policy : Execution}
    {duration : Duration} {now : Timepoint} {taskId : Id} (hidentified : Identified E before.1)
    (hreturned : (Scheduler.every E tasksStore owner policy duration now).run before = .ok taskId later) :
    Identified E later.1 := by
  rw [every_run] at hreturned
  cases hcreate : Task.create E (Scheduler.generateId E owner duration) owner duration now with
  | error thrown =>
      rw [hcreate] at hreturned
      cases hreturned
  | ok task =>
      rw [hcreate] at hreturned
      dsimp only at hreturned
      cases hadd : (Scheduler.addTask tasksStore task policy).run before with
      | error thrown other =>
          rw [hadd] at hreturned
          cases hreturned
      | ok _ other =>
          rw [hadd] at hreturned
          cases hreturned
          obtain ⟨added, htasks, hid, howner, hduration⟩ := addTask_appends hadd
          obtain ⟨hcreated, hown⟩ := create_eq hcreate
          intro each heach
          rw [htasks] at heach
          rcases List.mem_append.mp heach with hold | hnew
          · exact hidentified each hold
          · obtain rfl := List.mem_singleton.mp hnew
            rw [hid, hcreated, howner, hown, hduration, create_duration hcreate]

omit [DecidableEq Id] in
theorem identified_expire {before later : Scheduler Id} {index : Nat} {fired : Timepoint} {result : WaitResult}
    (hidentified : Identified E before) (hexpire : before.expire index fired result = some later) :
    Identified E later := by
  obtain ⟨task, htask, hexpire⟩ := Option.bind_eq_some_iff.mp hexpire
  split at hexpire
  · cases hexpire
    intro each heach
    rcases List.mem_or_eq_of_mem_set heach with hold | rfl
    · exact hidentified each hold
    · have hold := hidentified task (List.mem_of_getElem? htask)
      cases result <;> exact hold
  · cases hexpire

theorem Operated.identified {point : Scheduler Id × Store} (hreach : Operated E tasksStore point) :
    Identified E point.1 := by
  induction hreach with
  | start store => exact fun task hmem => absurd hmem List.not_mem_nil
  | returned before later owner policy duration now taskId _ hreturned ih => exact identified_every ih hreturned
  | threw before later owner policy duration now thrown _ hthrew ih =>
      rw [every_error_scheduler owner policy duration now before later thrown hthrew]
      exact ih
  | expired before later index fired result _ hexpire ih => exact identified_expire ih hexpire

theorem every_active {owner : Bytes} {policy : Execution} {duration : Duration} {now : Timepoint} {added task : Task Id}
    {point : Scheduler Id × Store}
    (hcreate : Task.create E (Scheduler.generateId E owner duration) owner duration now = .ok added)
    (hmem : task ∈ point.1.activeTasks) (hid : task.id = added.id) :
    (Scheduler.every E tasksStore owner policy duration now).run point = .error Scheduler.duplicated point := by
  have hactive : point.1.isTaskActive added.id = true :=
    (isTaskActive_iff added.id point.1).mpr (hid ▸ List.mem_map_of_mem hmem)
  have hthrows : (Scheduler.addTask tasksStore added policy).run point = .error Scheduler.duplicated point := by
    unfold Scheduler.addTask
    simp only [EStateM.run_bind, EStateM.run_get, hactive, if_true]
    rfl
  rw [every_run, hcreate]
  dsimp only
  rw [hthrows]

end Identified

-- The texts of the ids tell apart all owners and durations but the collisions, and so a
-- call of every throws for another task exactly where the two collide.
theorem task_ids_identify_iff (E : Environment Id) (tasksStore : ITaskStore Id Store)
    (hname : Function.Injective E.nameGenerator) :
    (∀ owner duration other otherDuration,
      (Scheduler.generateId E owner duration = Scheduler.generateId E other otherDuration →
        owner = other ∧ duration = otherDuration) ↔ ¬Collide owner duration other otherDuration) ∧
    ∀ point, Operated E tasksStore point → ∀ owner policy duration now added,
      Task.create E (Scheduler.generateId E owner duration) owner duration now = .ok added →
      ∀ task ∈ point.1.activeTasks,
        (task.id = added.id →
          (Scheduler.every E tasksStore owner policy duration now).run point = .error Scheduler.duplicated point) ∧
        ((task.id = added.id → task.owner = owner ∧ task.duration = duration) ↔
          ¬Collide task.owner task.duration owner duration) := by
  have hids : ∀ owner duration other otherDuration,
      (Scheduler.generateId E owner duration = Scheduler.generateId E other otherDuration →
        owner = other ∧ duration = otherDuration) ↔ ¬Collide owner duration other otherDuration := by
    intro owner duration other otherDuration
    constructor
    · intro hsame hcollide
      exact hcollide.text.2 (hsame (congrArg E.nameGenerator hcollide.text.1))
    · intro hfree hid
      exact (collisions (hname hid)).resolve_right hfree
  refine ⟨hids, fun point hreach owner policy duration now added hcreate task hmem => ⟨every_active hcreate hmem, ?_⟩⟩
  rw [hreach.identified task hmem, (create_eq hcreate).1]
  exact hids task.owner task.duration owner duration

section Samples

def fiveMilliseconds : Duration := .interval .milliseconds 5

def fiveSeconds : Duration := .interval .seconds 5

def fanTask : Task Bytes :=
  ⟨ascii "fan" ++ durationToStr fiveMilliseconds, ascii "fan", fiveMilliseconds,
    5 * DurationUnit.milliseconds.nanoseconds, true⟩

def fanPoint : Scheduler Bytes × TaskMap Bytes := (⟨[fanTask]⟩, ⟨[], List.nodup_nil⟩)

theorem fanPoint_reach : Operated namesEnvironment TaskMap.store fanPoint :=
  .returned _ _ (ascii "fan") .relaxed fiveMilliseconds 0 fanTask.id (.start ⟨[], List.nodup_nil⟩) rfl

-- A fan that is served every five seconds beside one that is every five milliseconds.
def fanSeconds : Task Bytes :=
  ⟨ascii "fan" ++ durationToStr fiveSeconds, ascii "fan", fiveSeconds, 5 * DurationUnit.seconds.nanoseconds, false⟩

theorem task_ids_identify_fan :
    ((Scheduler.generateId namesEnvironment (ascii "fan") fiveMilliseconds =
          Scheduler.generateId namesEnvironment (ascii "fan") fiveSeconds →
        ascii "fan" = ascii "fan" ∧ fiveMilliseconds = fiveSeconds) ↔
      ¬Collide (ascii "fan") fiveMilliseconds (ascii "fan") fiveSeconds) ∧
    (fanTask.id = fanSeconds.id →
      (Scheduler.every namesEnvironment TaskMap.store (ascii "fan") .relaxed fiveSeconds 0).run fanPoint =
        .error Scheduler.duplicated fanPoint) ∧
    ((fanTask.id = fanSeconds.id → fanTask.owner = ascii "fan" ∧ fanTask.duration = fiveSeconds) ↔
      ¬Collide fanTask.owner fanTask.duration (ascii "fan") fiveSeconds) :=
  ⟨(task_ids_identify_iff namesEnvironment TaskMap.store Function.injective_id).1 _ _ _ _,
    (task_ids_identify_iff namesEnvironment TaskMap.store Function.injective_id).2 fanPoint fanPoint_reach
      (ascii "fan") .relaxed fiveSeconds 0 fanSeconds rfl fanTask (List.mem_singleton.mpr rfl)⟩

-- Two owners and two durations have one id, and the second task is rejected.
theorem task_ids_collide :
    Scheduler.generateId namesEnvironment (ascii "fan") fiveMilliseconds =
        Scheduler.generateId namesEnvironment (ascii "fanmilli") fiveSeconds ∧
      ¬(ascii "fan" = ascii "fanmilli" ∧ fiveMilliseconds = fiveSeconds) ∧
      Operated namesEnvironment TaskMap.store fanPoint ∧
      (∀ task ∈ fanPoint.1.activeTasks, task.owner ≠ ascii "fanmilli" ∧ task.duration ≠ fiveSeconds) ∧
      (Scheduler.every namesEnvironment TaskMap.store (ascii "fanmilli") .relaxed fiveSeconds 0).run fanPoint =
        .error Scheduler.duplicated fanPoint := by
  refine ⟨by decide +kernel, by decide +kernel, fanPoint_reach, fun task htask => ?_, rfl⟩
  obtain rfl := List.mem_singleton.mp htask
  decide +kernel

end Samples

end HhctrlMgmt.Scheduling
