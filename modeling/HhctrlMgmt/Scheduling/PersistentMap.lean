import HhctrlMgmt.Scheduling.FileTaskStore

namespace HhctrlMgmt.Scheduling

open Common Coroutine

variable {Id : Type} {C : Codec Id}

-- The texts of lists of valid tasks with distinct ids are read back, in whatever
-- pieces. For boost a task is valid if its owner is UTF-8 and its timestamp fits.
structure Codec.Lossless (C : Codec Id) (valid : TaskEntity Id → Prop) : Prop where
  toString : ∀ task, valid task → C.stringGenerator (C.toString task.id) = some task.id
  failed : ∀ tasks (pieces : List Bytes), (∀ task ∈ tasks, valid task) → (tasks.map TaskEntity.id).Nodup →
    pieces.flatten = C.serialize (tasksToJson C tasks) → C.failed (pieces.foldl C.write C.start) = false
  finish : ∀ tasks (pieces : List Bytes), (∀ task ∈ tasks, valid task) → (tasks.map TaskEntity.id).Nodup →
    pieces.flatten = C.serialize (tasksToJson C tasks) →
    C.finish (pieces.foldl C.write C.start) = some (tasksToJson C tasks)

section Serialization

variable {valid : TaskEntity Id → Prop} (hlossless : C.Lossless valid)

include hlossless

theorem fromJson_toJson (task : TaskEntity Id) (hvalid : valid task) : fromJson C (toJson C task) = .ok task := by
  have hid := hlossless.toString task hvalid
  have hgenerated : generateUuid C (C.toString task.id) = .ok task.id := by
    simp only [generateUuid, hid]
  have hobject (key : String) (value : Json)
      (hlookup : Object.lookup [(ascii "id", .string (C.toString task.id)), (ascii "owner", .string task.owner),
        (ascii "timestamp", .int64 task.timestamp)] (ascii key) = some value) :
      objectAt C [(ascii "id", .string (C.toString task.id)), (ascii "owner", .string task.owner),
        (ascii "timestamp", .int64 task.timestamp)] key = .ok value := by
    simp only [objectAt, hlookup]
  simp only [fromJson, toJson, asObject, hobject "id" _ rfl, hobject "owner" _ rfl, hobject "timestamp" _ rfl,
    toBytes, toInt64, Json.toNumber_int64, hgenerated, bind, Except.bind, pure, Except.pure]

theorem tasksFromJson_tasksToJson (tasks : List (TaskEntity Id)) (hvalid : ∀ task ∈ tasks, valid task) :
    tasksFromJson C (tasksToJson C tasks) = .ok tasks := by
  induction tasks with
  | nil => rfl
  | cons task tasks ih =>
      have hfirst := fromJson_toJson hlossless task (hvalid task List.mem_cons_self)
      have hrest := ih fun other hother => hvalid other (List.mem_cons_of_mem _ hother)
      simp only [tasksToJson, tasksFromJson, List.map_cons, List.mapM_cons, hfirst] at hrest ⊢
      rw [hrest]
      rfl

end Serialization

namespace FileTaskStore

-- The tasks that a store may hold.
structure Storable (valid : TaskEntity Id → Prop) (tasks : List (TaskEntity Id)) : Prop where
  valid : ∀ task ∈ tasks, valid task
  distinct : (tasks.map TaskEntity.id).Nodup

-- The file, read in whatever pieces, parses to the tasks.
def ParsesTo (C : Codec Id) (file : Option Bytes) (tasks : List (TaskEntity Id)) : Prop :=
  ∃ text, file = some text ∧ ∀ pieces : List Bytes, pieces.flatten = text →
    C.failed (pieces.foldl C.write C.start) = false ∧
      ∃ value, C.finish (pieces.foldl C.write C.start) = some value ∧ tasksFromJson C value = .ok tasks

theorem parsesTo_text {valid : TaskEntity Id → Prop} (hlossless : C.Lossless valid) {tasks : List (TaskEntity Id)}
    (hstorable : Storable valid tasks) : ParsesTo C (some (C.serialize (tasksToJson C tasks))) tasks :=
  ⟨_, rfl, fun pieces hpieces => ⟨hlossless.failed tasks pieces hstorable.valid hstorable.distinct hpieces, _,
    hlossless.finish tasks pieces hstorable.valid hstorable.distinct hpieces,
    tasksFromJson_tasksToJson hlossless tasks hstorable.valid⟩⟩

section Healthy

-- The pieces that the loop reads make up the file. It only runs out of fuel if it
-- may not make a read more than there are full buffers.
theorem wp_readLoop_healthy (fuel : Nat) (parser : C.Parser) (start point : Disk × FileTaskStore Id) :
    wp (Contract.alone fun _ => True)
      (Post.of (fun result later => later.1.file = point.1.file ∧ later.2 = point.2 ∧
          ∃ pieces : List Bytes, pieces.flatten = point.1.rest ∧ result = pieces.foldl C.write parser)
        (fun _ _ => False) fun _ => fuel * bufferSize ≤ point.1.rest.length)
      (W := Disk.healthyWorld Id) (readLoop C fuel parser) start point := by
  induction fuel generalizing parser start point with
  | zero =>
      have hzero : 0 * bufferSize ≤ point.1.rest.length := by omega
      exact hzero
  | succ fuel ih =>
      simp only [readLoop, readBuffer, Coro.bind_eq, Coro.pure_eq, Coro.bind]
      rw [wp_await_alone]
      refine ⟨trivial, fun read hread => ?_⟩
      have hnext : read = point.1.nextRead := hread
      by_cases hlast : point.1.rest.length < bufferSize
      · have heof : read.eof = true := by
          rw [hnext]
          exact decide_eq_true hlast
        have hchunk : read.chunk = point.1.rest := by
          rw [hnext]
          exact List.take_of_length_le (Nat.le_of_lt hlast)
        have hdisk : (point.1.answer .read read).file = point.1.file := by
          simp only [Disk.answer]
          split_ifs <;> rfl
        simp only [heof, if_true]
        exact ⟨hdisk, rfl, [read.chunk], by simp [hchunk], rfl⟩
      · have heof : read.eof = false := by
          rw [hnext]
          exact decide_eq_false hlast
        have hchunk : read.chunk = point.1.rest.take bufferSize := by
          rw [hnext]
          rfl
        have hfull : read.chunk ≠ [] := by
          intro hempty
          have := congrArg List.length (hchunk.symm.trans hempty)
          simp [bufferSize] at this hlast
          simp [this] at hlast
        have hdisk : point.1.answer .read read = { point.1 with rest := point.1.rest.drop bufferSize } := by
          simp [Disk.answer, hfull]
        simp only [heof, Bool.false_eq_true, if_false, hdisk]
        refine wp_mono (ih _ _ _) (fun result _ later hret => ?_) (fun _ _ _ hthrow => hthrow)
          fun _ _ hspin => ?_
        · obtain ⟨hfile, hstore, pieces, hpieces, hresult⟩ := hret
          refine ⟨hfile, hstore, read.chunk :: pieces, ?_, hresult⟩
          rw [List.flatten_cons, hpieces, hchunk, List.take_append_drop]
        · have hrest : fuel * bufferSize ≤ point.1.rest.length - bufferSize := by
            simpa [Post.of] using hspin
          have : (fuel + 1) * bufferSize = fuel * bufferSize + bufferSize := Nat.succ_mul fuel bufferSize
          simp only [Post.of]
          omega

-- A file that parses to the tasks is loaded, given a read for every full buffer and
-- one more.
theorem wp_load_healthy (fuel : Nat) (tasks : List (TaskEntity Id)) (text : Bytes)
    (start point : Disk × FileTaskStore Id) (hfile : point.1.file = some text)
    (hparses : ParsesTo C (some text) tasks) :
    wp (Contract.alone fun _ => True)
      (Post.of (fun _ later => later.1.file = some text ∧ later.2.cachedTasks = tasks) (fun _ _ => False)
        fun _ => fuel * bufferSize ≤ text.length)
      (W := Disk.healthyWorld Id) (load C fuel) start point := by
  simp only [load, openIn, Coro.bind_eq, Coro.bind]
  rw [wp_await_alone]
  refine ⟨trivial, fun opened hopened => ?_⟩
  have hsome : opened = true := by
    have hanswer : opened = point.1.file.isSome := hopened
    rw [hanswer, hfile]
    rfl
  subst hsome
  have hrest : (point.1.answer .openIn true).rest = text := by
    simp only [Disk.answer, if_true, hfile, Option.getD_some]
  refine wp_call (wp_readLoop_healthy fuel C.start _ _) (fun parser _ later hread => ?_)
    (fun _ _ _ hthrow => hthrow.elim) fun _ _ hspin => hrest ▸ hspin
  obtain ⟨hlater, -, pieces, hpieces, rfl⟩ := hread
  obtain ⟨_, htext, hpiecewise⟩ := hparses
  cases htext
  obtain ⟨hfailed, value, hfinish, htasks⟩ := hpiecewise pieces (hpieces.trans hrest)
  simp only [hfailed, hfinish, htasks, Bool.false_eq_true, if_false]
  exact ⟨hlater.trans hfile, rfl⟩

theorem wp_storeLoad_healthy {valid : TaskEntity Id → Prop} (hlossless : C.Lossless valid) (fuel : Nat)
    (start point : Disk × FileTaskStore Id) (hstorable : Storable valid point.2.cachedTasks) :
    wp (Contract.alone fun _ => True)
      (Post.of
        (fun _ later => later.1.file = some (C.serialize (tasksToJson C point.2.cachedTasks)) ∧
          later.2.cachedTasks = point.2.cachedTasks)
        (fun _ _ => False)
        fun _ => fuel * bufferSize ≤ (C.serialize (tasksToJson C point.2.cachedTasks)).length)
      (W := Disk.healthyWorld Id) ((store C).bind fun _ => load C fuel) start point := by
  simp only [store, openOut, writeText, Coro.bind_eq, Coro.pure_eq, Coro.state, Coro.bind]
  rw [wp_await_alone]
  refine ⟨trivial, fun opened hopened => ?_⟩
  obtain rfl : opened = true := hopened
  simp only [Bool.not_true, Bool.false_eq_true, if_false, Coro.bind, wp_get]
  rw [wp_await_alone]
  refine ⟨trivial, fun written hwritten => ?_⟩
  have hall : written = (C.serialize (tasksToJson C point.2.cachedTasks)).length := hwritten
  have hfile : ((point.1.answer .openOut true).answer (.write (C.serialize (tasksToJson C point.2.cachedTasks)))
      written).file = some (C.serialize (tasksToJson C point.2.cachedTasks)) := by
    simp [Disk.answer, hall]
  exact wp_load_healthy fuel _ _ _ _ hfile (parsesTo_text hlossless hstorable)

end Healthy

section Map

variable [DecidableEq Id]

-- What is asked of a store: an operation, or that a new store on the same path takes
-- its place.
inductive Event (Id : Type) where
  | request (request : Request Id)
  | restart

-- The owner and the timestamp under each id.
abbrev Content (Id : Type) := Id → Option (Bytes × Int)

namespace Content

-- What a map makes of an event.
def after (content : Content Id) : Event Id → Content Id
  | .request (.add entity) =>
    if content entity.id = none then Function.update content entity.id (some (entity.owner, entity.timestamp))
    else content
  | .request (.remove id) => Function.update content id none
  | .restart => content

-- How a map answers it.
def outcome (content : Content Id) : Event Id → Outcome fileSig Unit
  | .request (.add entity) =>
    if content entity.id = none then .ret () else .throw (.runtimeError "ITask already exist.")
  | .request (.remove id) =>
    if content id = none then .throw (.runtimeError "ITask does not exist") else .ret ()
  | .restart => .ret ()

-- What the events, the latest first, make of the empty map.
def afterAll : List (Event Id) → Content Id
  | [] => fun _ => none
  | event :: events => (afterAll events).after event

def entity (content : Content Id) (id : Id) : Option (TaskEntity Id) :=
  (content id).map fun entry => ⟨id, entry.1, entry.2⟩

end Content

-- A list of tasks that represents the map.
structure Represents (valid : TaskEntity Id → Prop) (content : Content Id) (tasks : List (TaskEntity Id)) : Prop
    extends Storable valid tasks where
  find : ∀ id, Cache.find id tasks = content.entity id

variable {valid : TaskEntity Id → Prop}

def Event.Valid (valid : TaskEntity Id → Prop) : Event Id → Prop
  | .request (.add entity) => valid entity
  | _ => True

theorem Represents.find_eq_none_iff {content : Content Id} {tasks : List (TaskEntity Id)}
    (h : Represents valid content tasks) (id : Id) : Cache.find id tasks = none ↔ content id = none := by
  rw [h.find id]
  exact Option.map_eq_none_iff

theorem represents_nil : Represents valid (fun _ : Id => none) [] :=
  ⟨⟨nofun, List.nodup_nil⟩, fun _ => rfl⟩

theorem represents_add {content : Content Id} {tasks added : List (TaskEntity Id)} (entity : TaskEntity Id)
    (hvalid : valid entity) (h : Represents valid content tasks) (hadd : Cache.add entity tasks = .ok added) :
    Represents valid (content.after (.request (.add entity))) added := by
  have hdistinct := TaskMap.nodup_add entity tasks added hadd h.distinct
  obtain ⟨hfresh, rfl⟩ := (Cache.add_ok_iff entity tasks added).mp hadd
  have hnone : content entity.id = none := (h.find_eq_none_iff entity.id).mp hfresh
  have hafter : content.after (.request (.add entity)) =
      Function.update content entity.id (some (entity.owner, entity.timestamp)) := if_pos hnone
  rw [hafter]
  refine ⟨⟨fun task htask => ?_, hdistinct⟩, fun id => ?_⟩
  · rcases List.mem_append.mp htask with hold | hnew
    · exact h.valid task hold
    · rw [List.mem_singleton.mp hnew]
      exact hvalid
  · rw [Cache.find_append entity tasks hfresh id]
    by_cases hid : id = entity.id
    · subst hid
      simp [Content.entity]
    · simp [Content.entity, Function.update_of_ne hid, h.find id]

theorem represents_remove {content : Content Id} {tasks removed : List (TaskEntity Id)} (id : Id)
    (h : Represents valid content tasks) (hremove : Cache.remove id tasks = .ok removed) :
    Represents valid (content.after (.request (.remove id))) removed := by
  have hdistinct := TaskMap.nodup_remove id tasks removed hremove h.distinct
  obtain ⟨-, rfl⟩ := (Cache.remove_ok_iff id tasks removed).mp hremove
  refine ⟨⟨fun task htask => h.valid task (List.mem_of_mem_eraseP htask), hdistinct⟩, fun other => ?_⟩
  rw [Cache.find_eraseP id tasks h.distinct other]
  by_cases hother : other = id
  · subst hother
    simp [Content.after, Content.entity]
  · simp [Content.after, Content.entity, Function.update_of_ne hother, h.find other]

-- What a request makes of the cached tasks is what the map says.
theorem request_ok {content : Content Id} {tasks changed : List (TaskEntity Id)} (request : Request Id)
    (hvalid : Event.Valid valid (.request request)) (h : Represents valid content tasks)
    (happly : request.apply tasks = .ok changed) :
    content.outcome (.request request) = .ret () ∧ Represents valid (content.after (.request request)) changed := by
  cases request with
  | add entity =>
      have hfresh := ((Cache.add_ok_iff entity tasks changed).mp happly).1
      exact ⟨if_pos ((h.find_eq_none_iff entity.id).mp hfresh), represents_add entity hvalid h happly⟩
  | remove id =>
      have hpresent := ((Cache.remove_ok_iff id tasks changed).mp happly).1
      exact ⟨if_neg fun hnone => hpresent ((h.find_eq_none_iff id).mpr hnone), represents_remove id h happly⟩

theorem request_error {content : Content Id} {tasks : List (TaskEntity Id)} (request : Request Id) (thrown : Exn)
    (h : Represents valid content tasks) (happly : request.apply tasks = .error thrown) :
    content.outcome (.request request) = .throw thrown ∧ content.after (.request request) = content := by
  cases request with
  | add entity =>
      have hfull : content entity.id ≠ none := by
        intro hnone
        have hadd := (Cache.add_ok_iff entity tasks _).mpr ⟨(h.find_eq_none_iff entity.id).mpr hnone, rfl⟩
        cases hadd.symm.trans happly
      have hthrown : thrown = .runtimeError "ITask already exist." := by
        simp only [Request.apply, Cache.add] at happly
        split at happly <;> cases happly
        rfl
      rw [hthrown]
      exact ⟨if_neg hfull, if_neg hfull⟩
  | remove id =>
      have hempty : content id = none := by
        by_contra hfull
        have hpresent : Cache.find id tasks ≠ none := fun hnone => hfull ((h.find_eq_none_iff id).mp hnone)
        cases ((Cache.remove_ok_iff id tasks _).mpr ⟨hpresent, rfl⟩).symm.trans happly
      have hthrown : thrown = .runtimeError "ITask does not exist" := by
        simp only [Request.apply, Cache.remove] at happly
        split at happly <;> cases happly
        rfl
      rw [hthrown]
      exact ⟨if_pos hempty, Function.update_eq_self_iff.mpr hempty.symm⟩

-- The cache represents the map, and the file holds its text.
structure Persists (C : Codec Id) (valid : TaskEntity Id → Prop) (content : Content Id)
    (point : Disk × FileTaskStore Id) : Prop where
  cache : Represents valid content point.2.cachedTasks
  file : point.1.file = some (C.serialize (tasksToJson C point.2.cachedTasks))

-- How an event ends on a disk without failures, where only the fuel may run out.
def Ends (C : Codec Id) (valid : TaskEntity Id → Prop) (content : Content Id) (event : Event Id) (bound fuel : Nat) :
    Post (Disk.healthyWorld Id) Unit :=
  Post.of (fun _ later => content.outcome event = .ret () ∧ Persists C valid (content.after event) later)
    (fun thrown later => content.outcome event = .throw thrown ∧ Persists C valid (content.after event) later)
    fun _ => fuel ≤ bound

theorem fuel_le_of_buffers {fuel length : Nat} (h : fuel * bufferSize ≤ length) : fuel ≤ length := by
  have hpositive : fuel ≤ fuel * bufferSize := Nat.le_mul_of_pos_right fuel (by decide)
  omega

theorem wp_request_healthy (hlossless : C.Lossless valid) (content : Content Id) (request : Request Id)
    (point : Disk × FileTaskStore Id) (hvalid : Event.Valid valid (.request request))
    (h : Persists C valid content point) : ∃ bound, ∀ fuel,
    wp (Contract.alone fun _ => True) (Ends C valid content (.request request) bound fuel)
      (request.task C fuel) point point := by
  cases happly : request.apply point.2.cachedTasks with
  | error thrown =>
      obtain ⟨houtcome, hafter⟩ := request_error request thrown h.cache happly
      refine ⟨0, fun fuel => ?_⟩
      rw [Request.task_eq, wp_get, happly]
      exact ⟨houtcome, hafter.symm ▸ h⟩
  | ok changed =>
      obtain ⟨houtcome, hchanged⟩ := request_ok request hvalid h.cache happly
      refine ⟨(C.serialize (tasksToJson C changed)).length, fun fuel => ?_⟩
      rw [Request.task_eq, wp_get, happly]
      refine wp_mono (wp_storeLoad_healthy hlossless fuel point (point.1, ⟨changed⟩) hchanged.toStorable)
        (fun _ _ later hlater => ?_) (fun _ _ _ hthrow => hthrow.elim) fun _ _ hspin => fuel_le_of_buffers hspin
      obtain ⟨hfile, hcache⟩ := hlater
      refine ⟨houtcome, ?_, ?_⟩
      · rw [hcache]
        exact hchanged
      · rw [hfile, hcache]

-- A store that is constructed where there is no file creates one for the empty map.
theorem wp_construct_absent (hlossless : C.Lossless valid) (disk : Disk) (habsent : disk.file = none) :
    ∃ bound, ∀ fuel, wp (Contract.alone fun _ => True) (Ends C valid (fun _ => none) .restart bound fuel)
      (construct C fuel) (disk, ⟨[]⟩) (disk, ⟨[]⟩) := by
  refine ⟨(C.serialize (tasksToJson C [])).length, fun fuel => ?_⟩
  simp only [construct, fsExists, openOut, Coro.bind_eq, Coro.bind]
  rw [wp_await_alone]
  refine ⟨trivial, fun found hfound => ?_⟩
  have hmissing : found = false := by
    have hanswer : found = disk.file.isSome := hfound
    rw [hanswer, habsent]
    rfl
  subst hmissing
  simp only [Bool.not_false, if_true]
  refine ⟨trivial, fun later hlater opened _ => ?_⟩
  obtain rfl := hlater
  refine wp_mono (wp_storeLoad_healthy hlossless fuel _ _ represents_nil.toStorable) (fun _ _ later hlater => ?_)
    (fun _ _ _ hthrow => hthrow.elim) fun _ _ hspin => fuel_le_of_buffers hspin
  obtain ⟨hfile, hcache⟩ := hlater
  refine ⟨rfl, ?_, ?_⟩
  · rw [hcache]
    exact represents_nil
  · rw [hfile, hcache]

-- One that is constructed later reads back what is in the file.
theorem wp_construct_present (hlossless : C.Lossless valid) (content : Content Id) (point : Disk × FileTaskStore Id)
    (h : Persists C valid content point) :
    ∃ bound, ∀ fuel, wp (Contract.alone fun _ => True) (Ends C valid content .restart bound fuel)
      (construct C fuel) (point.1, ⟨[]⟩) (point.1, ⟨[]⟩) := by
  refine ⟨(C.serialize (tasksToJson C point.2.cachedTasks)).length, fun fuel => ?_⟩
  simp only [construct, fsExists, Coro.bind_eq, Coro.bind]
  rw [wp_await_alone]
  refine ⟨trivial, fun found hfound => ?_⟩
  have hpresent : found = true := by
    have hanswer : found = point.1.file.isSome := hfound
    rw [hanswer, h.file]
    rfl
  subst hpresent
  simp only [Bool.not_true, Bool.false_eq_true, if_false]
  refine wp_mono (wp_load_healthy fuel _ _ _ _ h.file (parsesTo_text hlossless h.cache.toStorable))
    (fun _ _ later hlater => ?_) (fun _ _ _ hthrow => hthrow.elim) fun _ _ hspin => fuel_le_of_buffers hspin
  obtain ⟨hfile, hcache⟩ := hlater
  refine ⟨rfl, ?_, ?_⟩
  · rw [hcache]
    exact h.cache
  · rw [hfile, hcache]

end Map

section Runs

variable [DecidableEq Id]

-- The answers of a disk on which nothing fails.
def Disk.healthyAnswer (disk : Disk) : (query : FileQuery) → FileAnswer query
  | .fileExists => disk.file.isSome
  | .openOut => true
  | .write text => text.length
  | .openIn => disk.file.isSome
  | .read => disk.nextRead

omit [DecidableEq Id] in
theorem Disk.healthyAnswer_healthy (disk : Disk) (store : FileTaskStore Id) (query : FileQuery) :
    Disk.Healthy disk store query (disk.healthyAnswer query) := by
  cases query <;> rfl

def call (task : StoreM Id Unit) (point : Disk × FileTaskStore Id) :
    Outcome fileSig Unit × (Disk × FileTaskStore Id) :=
  exec (Disk.healthyWorld Id) (fun disk _ => disk.healthyAnswer) task point

def Event.run (C : Codec Id) (fuel : Nat) (event : Event Id) (point : Disk × FileTaskStore Id) :
    Outcome fileSig Unit × (Disk × FileTaskStore Id) :=
  match event with
  | .request asked => call (asked.task C fuel) point
  | .restart => call (construct C fuel) (point.1, ⟨[]⟩)

-- What is left of a file that was not there by events, the latest first, whose calls
-- have returned or thrown.
inductive Stored (C : Codec Id) (valid : TaskEntity Id → Prop) : List (Event Id) → Disk × FileTaskStore Id → Prop
  | start (disk : Disk) (fuel : Nat) (later : Disk × FileTaskStore Id) (habsent : disk.file = none)
      (hcall : call (construct C fuel) (disk, ⟨[]⟩) = (.ret (), later)) : Stored C valid [] later
  | event (events : List (Event Id)) (event : Event Id) (before later : Disk × FileTaskStore Id) (fuel : Nat)
      (outcome : Outcome fileSig Unit) (hstored : Stored C valid events before) (hvalid : event.Valid valid)
      (hrun : event.run C fuel before = (outcome, later)) (hends : outcome ≠ .spin) :
      Stored C valid (event :: events) later

variable {valid : TaskEntity Id → Prop}

-- A call that does not run out of fuel ends as the map says.
theorem call_ends (content : Content Id) (event : Event Id) (bound fuel : Nat) (task : StoreM Id Unit)
    (point : Disk × FileTaskStore Id)
    (hwp : wp (Contract.alone fun _ => True) (Ends C valid content event bound fuel) task point point) :
    fuel ≤ bound ∧ (call task point).1 = .spin ∨
      (call task point).1 = content.outcome event ∧ Persists C valid (content.after event) (call task point).2 := by
  have hreach := exec_reach (Disk.healthyWorld Id) (fun disk _ => disk.healthyAnswer)
    (fun disk store query => Disk.healthyAnswer_healthy disk store query) task point
  obtain ⟨_, hgood⟩ := wp_reach hwp hreach
  unfold call
  generalize exec (Disk.healthyWorld Id) (fun disk _ => disk.healthyAnswer) task point = result at hgood
  obtain ⟨outcome, later⟩ := result
  cases outcome with
  | ret _ => exact Or.inr ⟨hgood.1.symm, hgood.2⟩
  | throw _ => exact Or.inr ⟨hgood.1.symm, hgood.2⟩
  | spin => exact Or.inl ⟨hgood, rfl⟩

theorem run_ends (hlossless : C.Lossless valid) (content : Content Id) (event : Event Id)
    (point : Disk × FileTaskStore Id) (hvalid : event.Valid valid) (h : Persists C valid content point) :
    ∃ bound, ∀ fuel, fuel ≤ bound ∧ (event.run C fuel point).1 = .spin ∨
      (event.run C fuel point).1 = content.outcome event ∧
        Persists C valid (content.after event) (event.run C fuel point).2 := by
  cases event with
  | request request =>
      obtain ⟨bound, hwp⟩ := wp_request_healthy hlossless content request point hvalid h
      exact ⟨bound, fun fuel => call_ends content (.request request) bound fuel _ point (hwp fuel)⟩
  | restart =>
      obtain ⟨bound, hwp⟩ := wp_construct_present hlossless content point h
      exact ⟨bound, fun fuel => call_ends content .restart bound fuel _ (point.1, ⟨[]⟩) (hwp fuel)⟩

theorem stored_persists (hlossless : C.Lossless valid) {events : List (Event Id)} {point : Disk × FileTaskStore Id}
    (hstored : Stored C valid events point) : Persists C valid (Content.afterAll events) point := by
  induction hstored with
  | start disk fuel later habsent hcall =>
      obtain ⟨bound, hwp⟩ := wp_construct_absent hlossless disk habsent
      rcases call_ends _ .restart bound fuel _ (disk, ⟨[]⟩) (hwp fuel) with ⟨-, hspin⟩ | ⟨-, hpersists⟩
      · rw [hcall] at hspin
        cases hspin
      · rw [hcall] at hpersists
        exact hpersists
  | event events event before later fuel outcome _ hvalid hrun hends ih =>
      obtain ⟨bound, hall⟩ := run_ends hlossless _ event before hvalid ih
      rcases hall fuel with ⟨-, hspin⟩ | ⟨-, hpersists⟩
      · rw [hrun] at hspin
        exact absurd hspin hends
      · rw [hrun] at hpersists
        exact hpersists

-- The store does what the map does, over any operations and restarts: what it finds,
-- what its file parses to, and how every further call ends if it may read long enough.
structure ActsAsMap (C : Codec Id) (valid : TaskEntity Id → Prop) (content : Content Id)
    (point : Disk × FileTaskStore Id) : Prop where
  find : ∀ id, FileTaskStore.find id point.2 = content.entity id
  exist : ∀ id, FileTaskStore.exist id point.2 = (content id).isSome
  distinct : (point.2.cachedTasks.map TaskEntity.id).Nodup
  file : ParsesTo C point.1.file point.2.cachedTasks
  ends : ∀ event, event.Valid valid → ∃ bound, ∀ fuel, bound < fuel →
    (event.run C fuel point).1 = content.outcome event

theorem exist_eq (id : Id) (store : FileTaskStore Id) :
    FileTaskStore.exist id store = (FileTaskStore.find id store).isSome := by
  rw [Bool.eq_iff_iff]
  simp only [FileTaskStore.exist, FileTaskStore.find, List.find?_isSome, List.any_eq_true]

theorem persistent_map (hlossless : C.Lossless valid) :
    (∀ disk, disk.file = none → ∃ bound, ∀ fuel, bound < fuel → (call (construct C fuel) (disk, ⟨[]⟩)).1 = .ret ()) ∧
      ∀ events point, Stored C valid events point → ActsAsMap C valid (Content.afterAll events) point := by
  constructor
  · intro disk habsent
    obtain ⟨bound, hwp⟩ := wp_construct_absent hlossless disk habsent
    refine ⟨bound, fun fuel hfuel => ?_⟩
    rcases call_ends _ .restart bound fuel _ (disk, ⟨[]⟩) (hwp fuel) with ⟨hle, -⟩ | ⟨hret, -⟩
    · omega
    · exact hret
  · intro events point hstored
    have hpersists := stored_persists hlossless hstored
    refine ⟨hpersists.cache.find, fun id => ?_, hpersists.cache.distinct, ?_, fun event hvalid => ?_⟩
    · have hfind : FileTaskStore.find id point.2 = _ := hpersists.cache.find id
      rw [exist_eq, hfind]
      exact Option.isSome_map
    · rw [hpersists.file]
      exact parsesTo_text hlossless hpersists.cache.toStorable
    · obtain ⟨bound, hall⟩ := run_ends hlossless _ event point hvalid hpersists
      refine ⟨bound, fun fuel hfuel => ?_⟩
      rcases hall fuel with ⟨hle, -⟩ | ⟨hout, -⟩
      · omega
      · exact hout

end Runs

section Samples

def sampleText : Bytes := ascii "[\x7b\"id\":\"7\",\"owner\":\"owner\",\"timestamp\":0\x7d]"

def sampleValue : Json :=
  .array [.object [(ascii "id", .string (ascii "7")), (ascii "owner", .string (ascii "owner")),
    (ascii "timestamp", .int64 0)]]

-- A codec for lists of the sample entity, whose texts are those of boost.
def losslessCodec : Codec Nat where
  toString id := ascii (Nat.repr id)
  stringGenerator text := if text = ascii "7" then some 7 else none
  serialize value := match value with
    | .array [] => ascii "[]"
    | _ => sampleText
  Parser := Bytes
  start := []
  write := List.append
  failed _ := false
  finish text :=
    if text = ascii "[]" then some (.array []) else if text = sampleText then some sampleValue else none
  wrongKind := .systemError "not an array"
  missingKey := .systemError "key not found"

theorem sample_tasks (tasks : List (TaskEntity Nat)) (hvalid : ∀ task ∈ tasks, task = sampleEntity)
    (hdistinct : (tasks.map TaskEntity.id).Nodup) : tasks = [] ∨ tasks = [sampleEntity] := by
  match tasks with
  | [] => exact Or.inl rfl
  | [first] => exact Or.inr (by rw [hvalid first List.mem_cons_self])
  | first :: second :: rest =>
      have hfirst := hvalid first List.mem_cons_self
      have hsecond := hvalid second (by simp)
      rw [hfirst, hsecond] at hdistinct
      simp at hdistinct

theorem losslessCodec_lossless : losslessCodec.Lossless fun task => task = sampleEntity where
  toString task hvalid := by
    rw [hvalid]
    decide +kernel
  failed _ _ _ _ _ := rfl
  finish tasks pieces hvalid hdistinct hpieces := by
    have hread : pieces.foldl List.append [] = pieces.flatten := by
      have hfold : pieces.foldl (fun text piece => text ++ id piece) [] = [] ++ (pieces.map id).flatten :=
        List.foldl_append_eq_append
      rw [List.nil_append, List.map_id] at hfold
      exact hfold
    have hparser : losslessCodec.finish (pieces.foldl losslessCodec.write losslessCodec.start) =
        losslessCodec.finish (losslessCodec.serialize (tasksToJson losslessCodec tasks)) :=
      congrArg losslessCodec.finish (hread.trans hpieces)
    rw [hparser]
    rcases sample_tasks tasks hvalid hdistinct with rfl | rfl
    · rfl
    · rfl

-- A task is added to a new store, and the process is restarted.
def restartedStore : Disk × FileTaskStore Nat := (⟨some sampleText, [], false⟩, ⟨[sampleEntity]⟩)

theorem restartedStore_stored :
    Stored losslessCodec (fun task => task = sampleEntity) [.restart, .request (.add sampleEntity)] restartedStore :=
  .event _ .restart restartedStore _ 1 (.ret ())
    (.event _ (.request (.add sampleEntity)) newStore _ 1 (.ret ()) (.start ⟨none, [], false⟩ 1 _ rfl rfl) rfl rfl
      nofun)
    trivial rfl nofun

theorem persistent_map_restarted :
    ActsAsMap losslessCodec (fun task => task = sampleEntity)
      (Content.afterAll [.restart, .request (.add sampleEntity)]) restartedStore :=
  (persistent_map losslessCodec_lossless).2 _ restartedStore restartedStore_stored

end Samples

end FileTaskStore

end HhctrlMgmt.Scheduling
