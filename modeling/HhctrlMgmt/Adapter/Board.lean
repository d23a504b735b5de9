import HhctrlMgmt.Adapter.EntityAdapter
import HhctrlMgmt.Adapter.EntityFactory
import HhctrlMgmt.Coroutine.Roster
import HhctrlMgmt.Platform.Discovery

namespace HhctrlMgmt.Adapter.Board

open Common Coroutine Device Mqtt
open HhctrlMgmt.Platform (IndicatorState)

-- to_string(IndicatorType)
def indicatorName : IndicatorType → Bytes
  | .status => ascii "Status"
  | .warning => ascii "Warning"
  | .fault => ascii "Fault"
  | .maintenance => ascii "Maintenance"

structure Indicator where
  deviceId : DeviceId
  indicatorType : IndicatorType
  identity : DeviceIdentity

structure RestartButton where
  deviceId : DeviceId
  identity : DeviceIdentity

-- The indicators in the order in which the unordered map yields them.
structure MainBoard where
  indicators : List Indicator
  restartButton : RestartButton

-- A coroutine that co_spawn has queued: a handler of MainBoardEventHandler, or the
-- async_run of a board or of one of its entities.
inductive Job where
  | deviceCreated (deviceId : DeviceId)
  | deviceRemoved (deviceId : DeviceId)
  | deviceStateChanged (deviceId : DeviceId)
  | run (board : MainBoard)
  | runIndicator (indicator : Indicator)
  | runButton (button : RestartButton)

def Job.Creates : Job → Prop
  | .deviceCreated _ => True
  | _ => False

-- The number tells apart coroutines that do the same.
structure Spawn where
  number : Nat
  job : Job

inductive Part where
  | indicator (indicatorType : IndicatorType)
  | restartButton

-- A binary sensor takes no commands.
abbrev Part.Command : Part → Type
  | .indicator _ => Empty
  | .restartButton => ButtonCommand

-- What the adapter of an entity asks of its entity and of the timer.
inductive Operation where
  | connect
  | configure (config : EntityConfig)
  | setAvailability (availability : Availability)
  | setState (state : BinarySensorState)
  | receive
  | wait (seconds : Int)

abbrev Reply (part : Part) : Operation → Type
  | .connect => Error
  | .configure _ => Error
  | .setAvailability _ => Error
  | .setState _ => Error
  | .receive => Except Error part.Command
  | .wait _ => Unit

-- async_create has been entered; a board has been put into device_.
inductive Notice where
  | creating (spawn : Spawn)
  | emplaced (spawn : Spawn) (board : MainBoard)

-- Who asks what of which entity. Every operation may throw.
abbrev boardSig : Sig where
  Exn := Exn
  Label := Notice
  Query := Spawn × Part × Operation
  Answer asked := Except Exn (Reply asked.2.1 asked.2.2)

-- `identity`, `indicatorState` and `restart` are what DeviceIdentityProvider and the
-- main boards of the inventory do at present.
structure State where
  identity : DeviceId → Except Exn DeviceIdentity
  indicatorState : DeviceId → IndicatorType → Except Exn IndicatorState
  restart : DeviceId → Except Exn Unit
  device : Option MainBoard
  queue : List Spawn
  nextNumber : Nat

def State.coSpawn (job : Job) (state : State) : State :=
  { state with queue := state.queue ++ [⟨state.nextNumber, job⟩], nextNumber := state.nextNumber + 1 }

abbrev Task := Coro boardSig State

def ask (spawn : Spawn) (part : Part) (operation : Operation) : Task (Reply part operation) :=
  .await (spawn, part, operation) fun answer : Except Exn (Reply part operation) => .ofExcept answer

-- A button has no async_set_state; its adapter has no state to set either.
def operations (spawn : Spawn) (part : Part) (config : EntityConfig) (state : Option (Task BinarySensorState))
    (handleRecvValue : part.Command → Task Unit) : Operations boardSig State part.Command BinarySensorState where
  asyncConnect := ask spawn part .connect
  asyncConfigure config _ := ask spawn part (.configure config)
  asyncSetAvailability availability _ := ask spawn part (.setAvailability availability)
  asyncSetState state _ := ask spawn part (.setState state)
  asyncReceive := ask spawn part .receive
  config := .ret config
  state := state
  asyncHandleRecvValue := handleRecvValue
  asyncWait seconds := ask spawn part (.wait seconds)

namespace Indicator

def config (indicator : Indicator) : EntityConfig :=
  (({} : EntityConfig)
    |>.set (ascii "name") (.string (indicatorName indicator.indicatorType ++ ascii " Indicator"))
    |>.set (ascii "device") (entityConfigBasicDevice indicator.identity))

def state (indicator : Indicator) : Task BinarySensorState := do
  let machine ← .state
  let state ← .ofExcept (machine.indicatorState indicator.deviceId indicator.indicatorType)
  match state with
  | .on => return .on
  | _ => return .off

def adapter (spawn : Spawn) (indicator : Indicator) : Operations boardSig State Empty BinarySensorState :=
  operations spawn (.indicator indicator.indicatorType) indicator.config (some indicator.state) Empty.elim

def asyncCreate (broker : BrokerConfig) (spawn : Spawn) (deviceId : DeviceId) (indicatorType : IndicatorType)
    (identity : DeviceIdentity) : Task (Option Indicator) := do
  let machine ← .state
  let state ← .ofExcept (machine.indicatorState deviceId indicatorType)
  if state = .notAvailable then
    return none
  let _ ← .ofExcept (createAdapter (Adapter.Indicator.entity broker identity deviceId indicatorType))
  let self : Indicator := ⟨deviceId, indicatorType, identity⟩
  let initialized ← EntityAdapter.asyncInit (self.adapter spawn)
  if !initialized then
    return none
  return some self

end Indicator

namespace RestartButton

def config (button : RestartButton) : EntityConfig :=
  (({} : EntityConfig)
    |>.set (ascii "name") (.string (ascii "Restart board"))
    |>.set (ascii "device_class") (.string (ascii "restart"))
    |>.set (ascii "device") (entityConfigBasicDevice button.identity))

def asyncHandleRecvValue (button : RestartButton) : ButtonCommand → Task Unit
  | .press => do
      let machine ← .state
      .ofExcept (machine.restart button.deviceId)

def adapter (spawn : Spawn) (button : RestartButton) : Operations boardSig State ButtonCommand BinarySensorState :=
  operations spawn .restartButton button.config none button.asyncHandleRecvValue

def asyncCreate (broker : BrokerConfig) (spawn : Spawn) (deviceId : DeviceId) (identity : DeviceIdentity) :
    Task (Option RestartButton) := do
  let _ ← .ofExcept (createAdapter (Adapter.RestartButton.entity broker identity deviceId))
  let self : RestartButton := ⟨deviceId, identity⟩
  let initialized ← EntityAdapter.asyncInit (self.adapter spawn)
  if !initialized then
    return none
  return some self

end RestartButton

namespace MainBoard

-- `arrange` puts the elements of the map into the order in which it yields them.
def asyncCreate (broker : BrokerConfig) (arrange : List Indicator → List Indicator) (spawn : Spawn)
    (deviceId : DeviceId) : Task (Option MainBoard) := do
  .label (.creating spawn)
  let state ← .state
  let identity ← .ofExcept (state.identity deviceId)
  let faultIndicator ← Indicator.asyncCreate broker spawn deviceId .fault identity
  let statusIndicator ← Indicator.asyncCreate broker spawn deviceId .status identity
  let warningIndicator ← Indicator.asyncCreate broker spawn deviceId .warning identity
  let maintenanceIndicator ← Indicator.asyncCreate broker spawn deviceId .maintenance identity
  match faultIndicator, statusIndicator, warningIndicator, maintenanceIndicator with
  | some fault, some status, some warning, some maintenance =>
      match ← RestartButton.asyncCreate broker spawn deviceId identity with
      | none => return none
      | some button => return some ⟨arrange [fault, status, warning, maintenance], button⟩
  | _, _, _, _ => return none

def asyncRun (board : MainBoard) : Task Unit := do
  .modify fun state => board.indicators.foldl (fun state indicator => state.coSpawn (.runIndicator indicator)) state
  .modify (State.coSpawn (.runButton board.restartButton))

def asyncSyncState (spawn : Spawn) (board : MainBoard) : Task Unit :=
  board.indicators.forM fun indicator => EntityAdapter.asyncSyncState (indicator.adapter spawn)

end MainBoard

namespace MainBoardEventHandler

def unexpectedValue : Exn := .runtimeError "Unexpected value in std::optional<MainBoardHandler>"

def cannotCreate : Exn := .runtimeError "Cannot create MainBoard device"

def emplace (board : MainBoard) (state : State) : State :=
  { state with device := some board }

-- operator()(DeviceCreated)
def deviceCreated (broker : BrokerConfig) (arrange : List Indicator → List Indicator) (spawn : Spawn)
    (deviceId : DeviceId) : Task Unit := do
  let state ← .state
  if state.device.isSome then
    .throw unexpectedValue
  match ← MainBoard.asyncCreate broker arrange spawn deviceId with
  | none => .throw cannotCreate
  | some board =>
      .label (.emplaced spawn board)
      .modify (emplace board)
      .modify (State.coSpawn (.run board))

-- operator()(DeviceRemoved)
def deviceRemoved : Task Unit := return ()

-- operator()(DeviceStateChanged)
def deviceStateChanged (spawn : Spawn) : Task Unit := do
  let state ← .state
  match state.device with
  | none => return ()
  | some board => board.asyncSyncState spawn

end MainBoardEventHandler

-- The fuel bounds the rounds of the async_run of an entity.
def Spawn.task (broker : BrokerConfig) (arrange : List Indicator → List Indicator) (fuel : Nat) (spawn : Spawn) :
    Task Unit :=
  match spawn.job with
  | .deviceCreated deviceId => MainBoardEventHandler.deviceCreated broker arrange spawn deviceId
  | .deviceRemoved _ => MainBoardEventHandler.deviceRemoved
  | .deviceStateChanged _ => MainBoardEventHandler.deviceStateChanged spawn
  | .run board => board.asyncRun
  | .runIndicator indicator => EntityAdapter.asyncRun (indicator.adapter spawn) fuel
  | .runButton button => EntityAdapter.asyncRun (button.adapter spawn) fuel

-- The events of a main board.
inductive BoardEvent where
  | created (deviceId : DeviceId)
  | removed (deviceId : DeviceId)
  | stateChanged (deviceId : DeviceId)

def BoardEvent.handler : BoardEvent → Job
  | created deviceId => .deviceCreated deviceId
  | removed deviceId => .deviceRemoved deviceId
  | stateChanged deviceId => .deviceStateChanged deviceId

-- What has happened so far, the latest last.
structure Journal where
  started : List Spawn
  creating : List Spawn
  emplaced : List (Spawn × MainBoard)

def Journal.note (journal : Journal) : Notice → Journal
  | .creating spawn => { journal with creating := journal.creating ++ [spawn] }
  | .emplaced spawn board => { journal with emplaced := journal.emplaced ++ [(spawn, board)] }

-- A rule for the answers: it sees who gets which one.
abbrev AnswerRule :=
  (spawn : Spawn) → (part : Part) → (operation : Operation) → Except Exn (Reply part operation) → Journal × State → Prop

abbrev boardWorld (rule : AnswerRule) : World boardSig State where
  State := Journal
  enter := Journal.note
  issue journal _ := journal
  allows journal state asked answer := rule asked.1 asked.2.1 asked.2.2 answer (journal, state)
  answer journal _ _ := journal

-- Every operation succeeds.
def success {part : Part} : (operation : Operation) → Reply part operation
  | .connect | .configure _ | .setAvailability _ | .setState _ => (none : Error)
  | .receive => Except.error none
  | .wait _ => ()

abbrev Respond := Journal → State → (query : boardSig.Query) → boardSig.Answer query

def succeeding : Respond := fun _ _ query => .ok (success query.2.2)

-- The devices change at any time, and any event is published at any time.
inductive BoardEnv : Journal × State → Journal × State → Prop
  | change (journal : Journal) (state : State) (identity : DeviceId → Except Exn DeviceIdentity)
      (indicatorState : DeviceId → IndicatorType → Except Exn IndicatorState) (restart : DeviceId → Except Exn Unit) :
      BoardEnv (journal, state)
        (journal, { state with identity := identity, indicatorState := indicatorState, restart := restart })
  | publish (journal : Journal) (state : State) (event : BoardEvent) :
      BoardEnv (journal, state) (journal, state.coSpawn event.handler)

-- A queued coroutine starts, in any order.
inductive BoardSpawn (broker : BrokerConfig) (arrange : List Indicator → List Indicator) :
    Journal × State → Journal × State → Task Unit → Prop
  | start (journal : Journal) (state : State) (before after : List Spawn) (spawn : Spawn) (fuel : Nat)
      (hqueue : state.queue = before ++ spawn :: after) :
      BoardSpawn broker arrange (journal, state)
        ({ journal with started := journal.started ++ [spawn] }, { state with queue := before ++ after })
        (spawn.task broker arrange fuel)

def boardArena (broker : BrokerConfig) (arrange : List Indicator → List Indicator) (rule : AnswerRule) :
    Arena (boardWorld rule) Unit where
  env := BoardEnv
  spawn := BoardSpawn broker arrange

-- Before the first event.
def boardStart (identity : DeviceId → Except Exn DeviceIdentity)
    (indicatorState : DeviceId → IndicatorType → Except Exn IndicatorState) (restart : DeviceId → Except Exn Unit) :
    Journal × State :=
  (⟨[], [], []⟩, ⟨identity, indicatorState, restart, none, [], 0⟩)

section Property

variable {rule : AnswerRule}

def Runs (pool : Pool (boardWorld rule) Unit) (spawn : Spawn) (task : Task Unit) : Prop :=
  ∃ i : Nat, pool.point.1.started[i]? = some spawn ∧ pool.tasks[i]? = some task

-- Started or queued.
def jobs (point : Journal × State) : List Spawn :=
  point.1.started ++ point.2.queue

-- The board whose async_run this is.
def Spawn.board? (spawn : Spawn) : Option MainBoard :=
  match spawn.job with
  | .run board => some board
  | _ => none

def Emplaced (point : Journal × State) (spawn : Spawn) : Prop :=
  spawn ∈ point.1.emplaced.map Prod.fst

-- How a handler of a creation ends: it has emplaced its board, or it ends by an
-- exception, which is that of the check if async_create was never entered.
def Ends (point : Journal × State) (spawn : Spawn) (task : Task Unit) : Prop :=
  (task = .ret () ∧ Emplaced point spawn) ∨
    ∃ exn, task = .throw exn ∧ ¬Emplaced point spawn ∧
      (exn = MainBoardEventHandler.unexpectedValue ∨ spawn ∈ point.1.creating)

-- At most one board has been emplaced. It is the one in device_, and only its
-- async_run has been spawned, once.
structure OneBoard (pool : Pool (boardWorld rule) Unit) : Prop where
  once : pool.point.1.emplaced.length ≤ 1
  device : pool.point.2.device = pool.point.1.emplaced.head?.map Prod.snd
  loops : ((jobs pool.point).filterMap Spawn.board?).Perm (pool.point.1.emplaced.map Prod.snd)
  ends : ∀ spawn : Spawn, spawn.job.Creates → ∀ task, Runs pool spawn task → ¬task.Unfinished →
    Ends pool.point spawn task

end Property

end HhctrlMgmt.Adapter.Board
