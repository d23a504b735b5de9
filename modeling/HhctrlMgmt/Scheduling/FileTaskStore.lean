import HhctrlMgmt.Coroutine.Serial
import HhctrlMgmt.Scheduling.TaskStore
import Mathlib.Data.List.Basic

namespace HhctrlMgmt.Scheduling

open Common Coroutine

-- What the store takes from boost: the texts of uuids and of json values, and
-- the stream parser. `failed` is the error code of the last write, and `finish`
-- is `none` where finish() or release() reports an error.
structure Codec (Id : Type) where
  toString : Id → Bytes
  stringGenerator : Bytes → Option Id
  serialize : Json → Bytes
  Parser : Type
  start : Parser
  write : Parser → Bytes → Parser
  failed : Parser → Bool
  finish : Parser → Option Json
  -- thrown by as_object, as_array and value_to, and by at
  wrongKind : Exn
  missingKey : Exn

section Serialization

variable {Id : Type} (C : Codec Id)

def toJson (task : TaskEntity Id) : Json :=
  .object [(ascii "id", .string (C.toString task.id)), (ascii "owner", .string task.owner),
    (ascii "timestamp", .int64 task.timestamp)]

def tasksToJson (tasks : List (TaskEntity Id)) : Json :=
  .array (tasks.map (toJson C))

-- obj.at(key)
def objectAt (object : Object) (key : String) : Except Exn Json :=
  match object.lookup (ascii key) with
  | some value => .ok value
  | none => .error C.missingKey

def asObject : Json → Except Exn Object
  | .object members => .ok members
  | _ => .error C.wrongKind

def toBytes : Json → Except Exn Bytes
  | .string value => .ok value
  | _ => .error C.wrongKind

def toInt64 (value : Json) : Except Exn Int :=
  match value.toNumber with
  | some number => .ok number
  | none => .error C.wrongKind

def generateUuid (text : Bytes) : Except Exn Id :=
  match C.stringGenerator text with
  | some id => .ok id
  | none => .error (.runtimeError "invalid uuid string")

def fromJson (value : Json) : Except Exn (TaskEntity Id) := do
  let object ← asObject C value
  let id ← generateUuid C (← toBytes C (← objectAt C object "id"))
  let owner ← toBytes C (← objectAt C object "owner")
  let timestamp ← toInt64 C (← objectAt C object "timestamp")
  return ⟨id, owner, timestamp⟩

def tasksFromJson : Json → Except Exn (List (TaskEntity Id))
  | .array values => values.mapM (fromJson C)
  | _ => .error C.wrongKind

end Serialization

-- How one read into the buffer ends. After an error it is empty and not at the
-- end of the file.
structure Read where
  chunk : Bytes
  eof : Bool
deriving DecidableEq

def bufferSize : Nat := 4096

-- The steps of the file streams. Nothing looks at the state of the output stream
-- after `<<`: the answer to a write is how much of the text has reached the file.
inductive FileQuery where
  | fileExists
  | openOut
  | write (text : Bytes)
  | openIn
  | read

abbrev FileAnswer : FileQuery → Type
  | .fileExists => Bool
  | .openOut => Bool
  | .write _ => Nat
  | .openIn => Bool
  | .read => Read

abbrev fileSig : Sig where
  Exn := Exn
  Label := Empty
  Query := FileQuery
  Answer := FileAnswer

-- filepath_ is the path of the disk's one file.
structure FileTaskStore (Id : Type) where
  cachedTasks : List (TaskEntity Id)

abbrev StoreM (Id α : Type) := Coro fileSig (FileTaskStore Id) α

namespace FileTaskStore

variable {Id : Type} (C : Codec Id)

section Operations

def fsExists : StoreM Id Bool := .await .fileExists .ret

def openOut : StoreM Id Bool := .await .openOut .ret

def writeText (text : Bytes) : StoreM Id Nat := .await (.write text) .ret

def openIn : StoreM Id Bool := .await .openIn .ret

def readBuffer : StoreM Id Read := .await .read .ret

def setCachedTasks (tasks : List (TaskEntity Id)) : StoreM Id Unit := .set ⟨tasks⟩ (.ret ())

-- The loop of load; the fuel bounds its rounds.
def readLoop : Nat → C.Parser → StoreM Id C.Parser
  | 0, _ => .spin
  | fuel + 1, parser => do
    let read ← readBuffer
    let parser := C.write parser read.chunk
    if read.eof then
      return parser
    readLoop fuel parser

def load (fuel : Nat) : StoreM Id Unit := do
  if !(← openIn) then
    .throw (.runtimeError "Error while reading file.")
  let parser ← readLoop C fuel C.start
  if C.failed parser then
    .throw (.runtimeError "Error while reading file.")
  match C.finish parser with
  | none => .throw (.runtimeError "Error while parsing file. File may be malformed.")
  | some value =>
    let tasks ← .ofExcept (tasksFromJson C value)
    setCachedTasks tasks

def store : StoreM Id Unit := do
  if !(← openOut) then
    .throw (.runtimeError "Error while writing to file.")
  let store ← .state
  let _ ← writeText (C.serialize (tasksToJson C store.cachedTasks))
  return ()

-- The stream that creates the file is not checked.
def construct (fuel : Nat) : StoreM Id Unit := do
  if !(← fsExists) then
    let _ ← openOut
    store C
  load C fuel

variable [DecidableEq Id]

def exist (id : Id) (store : FileTaskStore Id) : Bool :=
  store.cachedTasks.any fun task => id = task.id

def find (id : Id) (store : FileTaskStore Id) : Option (TaskEntity Id) :=
  store.cachedTasks.find? fun task => id = task.id

def add (fuel : Nat) (entity : TaskEntity Id) : StoreM Id Unit := do
  let current ← .state
  match current.cachedTasks.find? fun task => entity.id = task.id with
  | some _ => .throw (.runtimeError "ITask already exist.")
  | none =>
    setCachedTasks (current.cachedTasks ++ [entity])
    store C
    load C fuel

def remove (fuel : Nat) (id : Id) : StoreM Id Unit := do
  let current ← .state
  match current.cachedTasks.findIdx? fun task => id = task.id with
  | none => .throw (.runtimeError "ITask does not exist")
  | some index =>
    setCachedTasks (current.cachedTasks.eraseIdx index)
    store C
    load C fuel

end Operations

inductive Request (Id : Type) where
  | add (entity : TaskEntity Id)
  | remove (id : Id)

namespace Request

variable [DecidableEq Id]

def task (fuel : Nat) : Request Id → StoreM Id Unit
  | .add entity => FileTaskStore.add C fuel entity
  | .remove id => FileTaskStore.remove C fuel id

-- What the request makes of the cached tasks, or how it is refused.
def apply : Request Id → List (TaskEntity Id) → Except Exn (List (TaskEntity Id))
  | .add entity => Cache.add entity
  | .remove id => Cache.remove id

-- Both operations change the cache first, and the file after it.
theorem task_eq (fuel : Nat) (request : Request Id) :
    request.task C fuel = .get fun current =>
      (Coro.ofExcept (request.apply current.cachedTasks)).bind fun tasks =>
        .set ⟨tasks⟩ ((store C).bind fun _ => load C fuel) := by
  cases request with
  | add entity =>
      refine congrArg Coro.get (funext fun current => ?_)
      simp only [Coro.bind, apply, Cache.add, Cache.find]
      cases current.cachedTasks.find? fun task => entity.id = task.id <;> rfl
  | remove id =>
      refine congrArg Coro.get (funext fun current => ?_)
      simp only [Coro.bind, apply, Cache.remove]
      cases current.cachedTasks.findIdx? fun task => id = task.id <;> rfl

end Request

-- The file, and what the open input stream has not read of it.
structure Disk where
  file : Option Bytes
  rest : Bytes
  bad : Bool

namespace Disk

-- Opening for writing truncates the file.
def answer (disk : Disk) : (query : FileQuery) → FileAnswer query → Disk
  | .fileExists, _ => disk
  | .openOut, opened => if opened then { disk with file := some [] } else disk
  | .write text, written => { disk with file := disk.file.map fun _ => text.take written }
  | .openIn, opened => if opened then { disk with rest := disk.file.getD [], bad := false } else disk
  | .read, read =>
    if read.chunk = [] ∧ !read.eof then { disk with bad := true }
    else { disk with rest := disk.rest.drop bufferSize }

def nextRead (disk : Disk) : Read :=
  ⟨disk.rest.take bufferSize, disk.rest.length < bufferSize⟩

-- Any step may fail. A stream that is bad stays bad, and never reaches the end of
-- the file.
def Faulty (disk : Disk) (_ : FileTaskStore Id) : (query : FileQuery) → FileAnswer query → Prop
  | .fileExists, found => found = disk.file.isSome
  | .openOut, _ => True
  | .write _, _ => True
  | .openIn, opened => opened = true → disk.file.isSome = true
  | .read, read => read = ⟨[], false⟩ ∨ disk.bad = false ∧ read = disk.nextRead

-- No step fails that can succeed.
def Healthy (disk : Disk) (_ : FileTaskStore Id) : (query : FileQuery) → FileAnswer query → Prop
  | .fileExists, found => found = disk.file.isSome
  | .openOut, opened => opened = true
  | .write text, written => written = text.length
  | .openIn, opened => opened = disk.file.isSome
  | .read, read => read = disk.nextRead

abbrev world (allows : Disk → FileTaskStore Id → (query : FileQuery) → FileAnswer query → Prop) :
    World fileSig (FileTaskStore Id) where
  State := Disk
  enter disk _ := disk
  issue disk _ := disk
  allows := allows
  answer := answer

abbrev faultyWorld (Id : Type) : World fileSig (FileTaskStore Id) := world Faulty

abbrev healthyWorld (Id : Type) : World fileSig (FileTaskStore Id) := world Healthy

end Disk

section Failures

variable {C}

theorem wp_readLoop_faulty (fuel : Nat) (parser : C.Parser) (start point : Disk × FileTaskStore Id) :
    wp (Contract.alone fun _ => True)
      (Post.of (fun _ later => later.1.file = point.1.file ∧ later.2 = point.2) (fun _ _ => False) fun _ => True)
      (W := Disk.faultyWorld Id) (readLoop C fuel parser) start point := by
  induction fuel generalizing parser start point with
  | zero => trivial
  | succ fuel ih =>
      simp only [readLoop, readBuffer, Coro.bind_eq, Coro.pure_eq, Coro.bind]
      rw [wp_await_alone]
      refine ⟨trivial, fun read _ => ?_⟩
      have hfile : (point.1.answer .read read).file = point.1.file := by
        simp only [Disk.answer]
        split_ifs <;> rfl
      by_cases heof : read.eof = true
      · simp only [heof, if_true]
        exact ⟨hfile, rfl⟩
      · simp only [heof, Bool.false_eq_true, if_false]
        exact wp_mono (ih _ _ _) (fun _ _ _ hret => ⟨hret.1.trans hfile, hret.2⟩) (fun _ _ _ hthrow => hthrow)
          fun _ _ hspin => hspin

theorem wp_load_faulty (fuel : Nat) (start point : Disk × FileTaskStore Id) :
    wp (Contract.alone fun _ => True)
      (Post.of (fun _ _ => True) (fun _ later => later.1.file = point.1.file ∧ later.2 = point.2) fun _ => True)
      (W := Disk.faultyWorld Id) (load C fuel) start point := by
  simp only [load, openIn, Coro.bind_eq, Coro.bind]
  rw [wp_await_alone]
  refine ⟨trivial, fun opened _ => ?_⟩
  have hfile : (point.1.answer .openIn opened).file = point.1.file := by
    simp only [Disk.answer]
    split_ifs <;> rfl
  cases opened with
  | false => exact ⟨hfile, rfl⟩
  | true =>
      refine wp_call (wp_readLoop_faulty fuel C.start _ _) (fun parser _ later hread => ?_)
        (fun _ _ _ hthrow => hthrow.elim) fun _ _ hspin => hspin
      have hlater : later.1.file = point.1.file ∧ later.2 = point.2 := ⟨hread.1.trans hfile, hread.2⟩
      by_cases hfailed : C.failed parser = true
      · simp only [hfailed, if_true]
        exact hlater
      · simp only [hfailed, Bool.false_eq_true, if_false]
        cases C.finish parser with
        | none => exact hlater
        | some value => exact wp_ofExcept _ _ _ _ (fun _ _ => trivial) fun _ _ => hlater

-- What the file can be after a failure: the old one where it could not be opened
-- for writing, and otherwise what has been written.
def Written (C : Codec Id) (tasks : List (TaskEntity Id)) (before after : Option Bytes) (thrown : Exn) : Prop :=
  thrown = .runtimeError "Error while writing to file." ∧ after = before ∨
    ∃ written, after = some ((C.serialize (tasksToJson C tasks)).take written)

theorem wp_storeLoad_faulty (fuel : Nat) (start point : Disk × FileTaskStore Id) :
    wp (Contract.alone fun _ => True)
      (Post.of (fun _ _ => True) (fun thrown later => later.2 = point.2 ∧
        Written C point.2.cachedTasks point.1.file later.1.file thrown) fun _ => True)
      (W := Disk.faultyWorld Id) ((store C).bind fun _ => load C fuel) start point := by
  simp only [store, openOut, writeText, Coro.bind_eq, Coro.pure_eq, Coro.state, Coro.bind]
  rw [wp_await_alone]
  refine ⟨trivial, fun opened _ => ?_⟩
  cases opened with
  | false => exact ⟨rfl, Or.inl ⟨rfl, rfl⟩⟩
  | true =>
      simp only [Bool.not_true, Bool.false_eq_true, if_false, Coro.bind, wp_get]
      rw [wp_await_alone]
      refine ⟨trivial, fun written _ => ?_⟩
      refine wp_mono (wp_load_faulty fuel _ _) (fun _ _ _ _ => trivial) (fun _ _ later hlater => ?_)
        fun _ _ _ => trivial
      exact ⟨hlater.2, Or.inr ⟨written, hlater.1⟩⟩

variable [DecidableEq Id]

-- How a failed operation leaves the cache and the file. A refused one has changed
-- nothing. Any other failure comes after the change of the cache, which stays;
-- the file is unchanged if it could not be opened for writing, and otherwise
-- holds as much of the new tasks as has been written.
def FailureLeaves (C : Codec Id) (request : Request Id) (before after : Disk × FileTaskStore Id)
    (thrown : Exn) : Prop :=
  match request.apply before.2.cachedTasks with
  | .error refused => thrown = refused ∧ after = before
  | .ok tasks => after.2.cachedTasks = tasks ∧ Written C tasks before.1.file after.1.file thrown

theorem wp_task_faulty (fuel : Nat) (request : Request Id) (start point : Disk × FileTaskStore Id) :
    wp (Contract.alone fun _ => True)
      (Post.of (fun _ _ => True) (fun thrown later => FailureLeaves C request point later thrown) fun _ => True)
      (W := Disk.faultyWorld Id) (request.task C fuel) start point := by
  rw [Request.task_eq, wp_get]
  refine wp_ofExcept _ _ _ _ (fun tasks happly => ?_) fun refused happly => ?_
  · rw [wp_set]
    refine wp_mono (wp_storeLoad_faulty fuel _ _) (fun _ _ _ _ => trivial) (fun thrown _ later hlater => ?_)
      fun _ _ _ => trivial
    simp only [Post.of, FailureLeaves, happly]
    exact ⟨congrArg FileTaskStore.cachedTasks hlater.1, hlater.2⟩
  · have hleaves : FailureLeaves C request point point refused := by
      simp only [FailureLeaves, happly, and_self]
    exact hleaves

-- The stores that operations leave, each of which may have returned or thrown.
def Session (C : Codec Id) (allows : Disk → FileTaskStore Id → (query : FileQuery) → FileAnswer query → Prop) :
    List Unit → Disk × FileTaskStore Id → Prop :=
  Serial (Disk.world allows) (fun task => ∃ fuel request, task = Request.task C fuel request) fun point =>
    ∃ fuel disk, Reach (Disk.world allows) (settle (Disk.world allows) (construct C fuel) (disk, ⟨[]⟩))
      ⟨point, .ret ()⟩

-- Every failure of an operation, whatever store and file it starts from.
theorem failed_operation_leaves (C : Codec Id) (fuel : Nat) (request : Request Id)
    (before after : Disk × FileTaskStore Id) (thrown : Exn)
    (hreach : Reach (Disk.faultyWorld Id) (settle (Disk.faultyWorld Id) (request.task C fuel) before)
      ⟨after, .throw thrown⟩) : FailureLeaves C request before after thrown := by
  obtain ⟨_, hgood⟩ := wp_reach (wp_task_faulty fuel request before before) hreach
  exact hgood

end Failures

section Samples

-- A codec that knows the empty array, which is all that is read here, and writes
-- the array brackets only.
def sampleCodec : Codec Nat where
  toString id := ascii (Nat.repr id)
  stringGenerator text := if text = ascii "7" then some 7 else none
  serialize value := match value with
    | .array [] => ascii "[]"
    | _ => ascii "[?]"
  Parser := Bytes
  start := []
  write := List.append
  failed _ := false
  finish text := if text = ascii "[]" then some (.array []) else none
  wrongKind := .systemError "not an array"
  missingKey := .systemError "key not found"

def sampleEntity : TaskEntity Nat := ⟨7, ascii "owner", 0⟩

-- The file can be created and read, and later cannot be opened for writing.
def respond (writable : Bool) (disk : Disk) (_ : FileTaskStore Nat) : (query : FileQuery) → FileAnswer query
  | .fileExists => disk.file.isSome
  | .openOut => writable
  | .write text => text.length
  | .openIn => disk.file.isSome
  | .read => if disk.bad then ⟨[], false⟩ else disk.nextRead

theorem respond_faulty (writable : Bool) (disk : Disk) (store : FileTaskStore Nat) (query : FileQuery) :
    Disk.Faulty disk store query (respond writable disk store query) := by
  cases query with
  | fileExists => exact rfl
  | openOut => trivial
  | write text => trivial
  | openIn => exact id
  | read =>
      cases hbad : disk.bad with
      | true => exact Or.inl (by simp [respond, hbad])
      | false => exact Or.inr ⟨hbad, by simp [respond, hbad]⟩

def newStore : Disk × FileTaskStore Nat := (⟨some (ascii "[]"), [], false⟩, ⟨[]⟩)

def afterAdd : Disk × FileTaskStore Nat := (⟨some (ascii "[]"), [], false⟩, ⟨[sampleEntity]⟩)

theorem newStore_session : Session sampleCodec Disk.Faulty [] newStore := by
  refine .start _ ⟨1, ⟨none, [], false⟩, ?_⟩
  exact exec_reach (Disk.faultyWorld Nat) (respond true) (respond_faulty true) (construct sampleCodec 1) _

theorem newStore_add_throws :
    Reach (Disk.faultyWorld Nat)
      (settle (Disk.faultyWorld Nat) ((Request.add sampleEntity).task sampleCodec 1) newStore)
      ⟨afterAdd, .throw (.runtimeError "Error while writing to file.")⟩ :=
  exec_reach (Disk.faultyWorld Nat) (respond false) (respond_faulty false)
    ((Request.add sampleEntity).task sampleCodec 1) _

theorem failed_operation_leaves_add :
    FailureLeaves sampleCodec (.add sampleEntity) newStore afterAdd (.runtimeError "Error while writing to file.") :=
  failed_operation_leaves sampleCodec 1 (.add sampleEntity) newStore afterAdd _ newStore_add_throws

-- add throws because the file cannot be opened for writing, and the task stays in
-- the cache.
theorem failed_add_keeps_task :
    ∃ point later thrown, Session sampleCodec Disk.Faulty [] point ∧
      Reach (Disk.faultyWorld Nat)
        (settle (Disk.faultyWorld Nat) ((Request.add sampleEntity).task sampleCodec 1) point)
        ⟨later, .throw thrown⟩ ∧
      later.2.cachedTasks ≠ point.2.cachedTasks :=
  ⟨newStore, afterAdd, _, newStore_session, newStore_add_throws, nofun⟩

end Samples

end FileTaskStore

end HhctrlMgmt.Scheduling
