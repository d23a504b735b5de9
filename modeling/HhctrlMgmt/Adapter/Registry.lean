import HhctrlMgmt.Adapter.EntityFactory
import HhctrlMgmt.Adapter.Hatch
import HhctrlMgmt.Coroutine.Roster

namespace HhctrlMgmt.Adapter.Registry

open Common Coroutine Device Mqtt

-- What its cover does is left to the surroundings.
structure Hatch where
  deviceId : DeviceId
  deviceIdentity : DeviceIdentity

-- A node of the list hatches_. Its address is valid until it is erased.
structure Node extends Hatch where
  address : Nat

-- A coroutine that co_spawn has queued: a handler of HatchEventHandler, or the
-- async_run of an element.
inductive Job where
  | deviceCreated (deviceId : DeviceId)
  | deviceRemoved (deviceId : DeviceId)
  | run (node : Node)

def Job.IsHandler : Job → Prop
  | .deviceCreated _ | .deviceRemoved _ => True
  | .run _ => False

-- What the operations of a cover and the timer give back. All of them may throw.
abbrev Reply : CoverQuery → Type
  | .connect => Error
  | .configure _ => Error
  | .setAvailability _ => Error
  | .setState _ => Error
  | .receive => Except Error CoverCommand
  | .wait _ => Unit

-- async_create has a hatch to return; a coroutine has ended, which its completion
-- handler is told with the exception, if any.
inductive Notice where
  | created (deviceId : DeviceId)
  | completed (job : Job) (exn : Option Exn)

abbrev registrySig : Sig where
  Exn := Exn
  Label := Notice
  Query := Job × CoverQuery
  Answer asked := Except Exn (Reply asked.2)

-- `identity` and `status` are what DeviceIdentityProvider and the inventory say at
-- present; either may throw for a device.
structure State where
  identity : DeviceId → Except Exn DeviceIdentity
  status : DeviceId → Except Exn HatchState
  hatches : List Node
  nextAddress : Nat
  queue : List Job

def State.deviceIds (state : State) : List DeviceId :=
  state.hatches.map fun node => node.deviceId

abbrev Task := Coro registrySig State

-- What somebody asks of a cover.
def ask (job : Job) (query : CoverQuery) : Task (Reply query) :=
  .await (job, query) fun answer : Except Exn (Reply query) => .ofExcept answer

namespace Hatch

-- Hatch::state
def coverState (deviceId : DeviceId) : Task CoverState := do
  let state ← .state
  let status ← .ofExcept (state.status deviceId)
  return Adapter.Hatch.state status

-- What open() and close() do to the hatch is among the changes of its status.
def asyncHandleRecvValue (deviceId : DeviceId) : CoverCommand → Task Unit
  | .switch _ => do
      let state ← .state
      let _ ← .ofExcept (state.status deviceId)
      return ()

def operations (job : Job) (deviceId : DeviceId) (deviceIdentity : DeviceIdentity) :
    Operations registrySig State CoverCommand CoverState where
  asyncConnect := ask job .connect
  asyncConfigure config _ := ask job (.configure config)
  asyncSetAvailability availability _ := ask job (.setAvailability availability)
  asyncSetState state _ := if state = .undefined then .ret none else ask job (.setState state)
  asyncReceive := ask job .receive
  config := .ret (Adapter.Hatch.config deviceIdentity)
  state := some (coverState deviceId)
  asyncHandleRecvValue := asyncHandleRecvValue deviceId
  asyncWait seconds := ask job (.wait seconds)

def asyncCreate (config : BrokerConfig) (deviceId : DeviceId) : Task (Option Hatch) := do
  let state ← .state
  let identity ← .ofExcept (state.identity deviceId)
  let _ ← .ofExcept (createAdapter (Adapter.Hatch.entity config identity deviceId))
  let initialized ← EntityAdapter.asyncInit (operations (.deviceCreated deviceId) deviceId identity)
  if !initialized then
    return none
  .label (.created deviceId)
  return some ⟨deviceId, identity⟩

end Hatch

namespace HatchEventHandler

def pushBack (hatch : Hatch) (state : State) : State :=
  { state with
    hatches := state.hatches ++ [⟨hatch, state.nextAddress⟩]
    nextAddress := state.nextAddress + 1
    queue := state.queue ++ [.run ⟨hatch, state.nextAddress⟩] }

-- operator()(DeviceCreated)
def deviceCreated (config : BrokerConfig) (deviceId : DeviceId) : Task Unit := do
  match ← Hatch.asyncCreate config deviceId with
  | none => return ()
  | some hatch => .modify (pushBack hatch)

def eraseIf (deviceId : DeviceId) (state : State) : State :=
  { state with hatches := state.hatches.filter fun node => deviceId ≠ node.deviceId }

-- operator()(DeviceRemoved)
def deviceRemoved (deviceId : DeviceId) : Task Unit := do
  let state ← .state
  let erased := state.hatches.countP fun node => deviceId = node.deviceId
  .modify (eraseIf deviceId)
  if erased = 0 then
    .throw (.runtimeError s!"Hatch device with id: {deviceId} was not found")
  return ()

end HatchEventHandler

-- The fuel bounds the rounds of async_run.
def Job.body (config : BrokerConfig) (fuel : Nat) : Job → Task Unit
  | .deviceCreated deviceId => HatchEventHandler.deviceCreated config deviceId
  | .deviceRemoved deviceId => HatchEventHandler.deviceRemoved deviceId
  | .run node => EntityAdapter.asyncRun (Hatch.operations (.run node) node.deviceId node.deviceIdentity) fuel

def Job.task (config : BrokerConfig) (fuel : Nat) (job : Job) : Task Unit :=
  (job.body config fuel).announced (.completed job)

inductive HatchEvent where
  | created (deviceId : DeviceId)
  | removed (deviceId : DeviceId)

namespace HatchEvent

def handler : HatchEvent → Job
  | created deviceId => .deviceCreated deviceId
  | removed deviceId => .deviceRemoved deviceId

-- A device is removed after its creation.
def Due (published : List HatchEvent) : HatchEvent → Prop
  | created _ => True
  | removed deviceId => created deviceId ∈ published

end HatchEvent

-- What has happened so far, the latest last. `created` are the devices for which
-- async_create has returned a hatch.
structure Journal where
  published : List HatchEvent
  started : List Job
  completed : List (Job × Option Exn)
  created : List DeviceId

def Journal.note (journal : Journal) : Notice → Journal
  | .created deviceId => { journal with created := journal.created ++ [deviceId] }
  | .completed job exn => { journal with completed := journal.completed ++ [(job, exn)] }

def Journal.Ended (journal : Journal) (job : Job) : Prop :=
  ∃ exn, (job, exn) ∈ journal.completed

-- A rule for the answers: it sees who gets which one.
abbrev AnswerRule := (job : Job) → (query : CoverQuery) → Except Exn (Reply query) → Journal × State → Prop

abbrev journalWorld (rule : AnswerRule) : World registrySig State where
  State := Journal
  enter := Journal.note
  issue journal _ := journal
  allows journal state asked answer := rule asked.1 asked.2 answer (journal, state)
  answer journal _ _ := journal

-- Identities and statuses change at any time. Each event is published at most once.
inductive RegistryEnv : Journal × State → Journal × State → Prop
  | change (journal : Journal) (state : State) (identity : DeviceId → Except Exn DeviceIdentity)
      (status : DeviceId → Except Exn HatchState) :
      RegistryEnv (journal, state) (journal, { state with identity := identity, status := status })
  | publish (journal : Journal) (state : State) (event : HatchEvent) (hnew : event ∉ journal.published)
      (hdue : event.Due journal.published) :
      RegistryEnv (journal, state)
        ({ journal with published := journal.published ++ [event] },
          { state with queue := state.queue ++ [event.handler] })

-- A queued coroutine starts, in any order. The rule is asked of it and of the point
-- where it starts.
inductive RegistrySpawn (config : BrokerConfig) (rule : Job → Journal × State → Prop) :
    Journal × State → Journal × State → Task Unit → Prop
  | start (journal : Journal) (state : State) (before after : List Job) (job : Job) (fuel : Nat)
      (hqueue : state.queue = before ++ job :: after) (hrule : rule job (journal, state)) :
      RegistrySpawn config rule (journal, state)
        ({ journal with started := journal.started ++ [job] }, { state with queue := before ++ after })
        (job.task config fuel)

def registryArena (config : BrokerConfig) (answers : AnswerRule) (starts : Job → Journal × State → Prop) :
    Arena (journalWorld answers) Unit where
  env := RegistryEnv
  spawn := RegistrySpawn config starts

-- Before the first event.
def registryStart (identity : DeviceId → Except Exn DeviceIdentity) (status : DeviceId → Except Exn HatchState) :
    Journal × State :=
  (⟨[], [], [], []⟩, ⟨identity, status, [], 0, []⟩)

section Property

variable {answers : AnswerRule}

-- The task is that of this job.
def Runs (pool : Pool (journalWorld answers) Unit) (job : Job) (task : Task Unit) : Prop :=
  ∃ i : Nat, pool.point.1.started[i]? = some job ∧ pool.tasks[i]? = some task

-- The registry follows creation and removal.
structure Follows (pool : Pool (journalWorld answers) Unit) : Prop where
  no_throw : ∀ job, job.IsHandler → ∀ exn, ¬Runs pool job (.throw exn)
  hatches : (∀ job, job.IsHandler → ∀ task, Runs pool job task → ¬task.Unfinished) →
    pool.point.2.deviceIds.Nodup ∧
      ∀ deviceId, deviceId ∈ pool.point.2.deviceIds ↔
        deviceId ∈ pool.point.1.created ∧ .deviceRemoved deviceId ∉ pool.point.1.started
  loops : ∀ node, .run node ∈ pool.point.2.queue ∨ (∃ task, Runs pool (.run node) task ∧ task.Unfinished) →
    node ∈ pool.point.2.hatches

end Property

end HhctrlMgmt.Adapter.Registry
