import HhctrlMgmt.Coroutine.Surroundings
import HhctrlMgmt.Mqtt.Button
import HhctrlMgmt.Mqtt.Cover

namespace HhctrlMgmt.Adapter

open Coroutine Mqtt

def adapterDefaultPubopts : Pubopts := ⟨.atLeastOnce, true⟩

def initRetryAttempts : Nat := 10

def initRetryDelay : Int := 60

-- What EntityAdapter<Entity, Impl> calls: the operations of its entity, those
-- of its implementation, and the timer. An entity that takes no commands only
-- ever receives an error, perhaps an empty one.
structure Operations (S : Sig) (σ Command State : Type) where
  asyncConnect : Coro S σ Error
  asyncConfigure : EntityConfig → Pubopts → Coro S σ Error
  asyncSetAvailability : Availability → Pubopts → Coro S σ Error
  asyncSetState : State → Pubopts → Coro S σ Error
  asyncReceive : Coro S σ (Except Error Command)
  config : Coro S σ EntityConfig
  -- present if the implementation is Synchronizable
  state : Option (Coro S σ State)
  asyncHandleRecvValue : Command → Coro S σ Unit
  asyncWait : Int → Coro S σ Unit

namespace EntityAdapter

variable {S : Sig} {σ Command State : Type} (ops : Operations S σ Command State)

def asyncSyncState : Coro S σ Unit :=
  match ops.state with
  | some state => do
      let state ← state
      let _ ← ops.asyncSetState state adapterDefaultPubopts
      return ()
  | none => return ()

def asyncConfigure : Coro S σ Bool := do
  let config ← ops.config
  if let some _ ← ops.asyncConfigure config adapterDefaultPubopts then
    return false
  -- Wait until entity is configured on remote
  ops.asyncWait 1
  let _ ← ops.asyncSetAvailability .online adapterDefaultPubopts
  asyncSyncState ops
  return true

-- The loop of async_init, with the number of attempts that are left.
def connectRetry : Nat → Error → Coro S σ Error
  | 0, error => return error
  | attempts + 1, _ => do
    let error ← ops.asyncConnect
    if error.isNone then
      return none
    ops.asyncWait initRetryDelay
    connectRetry attempts error

def asyncInit : Coro S σ Bool := do
  let error ← connectRetry ops initRetryAttempts none
  if error.isSome then
    return false
  asyncConfigure ops

def asyncHandleDisconnectedError : Coro S σ Bool := do
  let error ← ops.asyncConnect
  if error.isSome then
    return false
  asyncConfigure ops

def asyncHandleReconnectedError : Coro S σ Bool :=
  asyncConfigure ops

-- Whether the error has been recovered from is only logged.
def asyncHandleError (error : Error) : Coro S σ Unit := do
  let code := error.map SystemError.code
  if code = some (.mqtt .disconnected) then
    let _ ← asyncHandleDisconnectedError ops
    return ()
  else if code = some (.mqtt .reconnected) then
    let _ ← asyncHandleReconnectedError ops
    return ()
  else
    return ()

def asyncRun : Nat → Coro S σ Unit
  | 0 => .spin
  | fuel + 1 => do
    match ← ops.asyncReceive with
    | .ok value => ops.asyncHandleRecvValue value
    | .error error => asyncHandleError ops error
    asyncRun fuel

-- A property of coroutines that holds of a sequence if it holds of its parts.
structure Composes (good : (α : Type) → Coro S σ α → Prop) : Prop where
  ret : ∀ (α : Type) (value : α), good α (.ret value)
  spin : ∀ α : Type, good α .spin
  bind : ∀ (α β : Type) (first : Coro S σ α) (f : α → Coro S σ β), good α first → (∀ value, good β (f value)) →
    good β (first.bind f)

structure Each (good : (α : Type) → Coro S σ α → Prop) : Prop where
  connect : good Error ops.asyncConnect
  configure : ∀ config pubopts, good Error (ops.asyncConfigure config pubopts)
  setAvailability : ∀ availability pubopts, good Error (ops.asyncSetAvailability availability pubopts)
  setState : ∀ state pubopts, good Error (ops.asyncSetState state pubopts)
  receive : good (Except Error Command) ops.asyncReceive
  config : good EntityConfig ops.config
  state : ∀ state, ops.state = some state → good State state
  handleRecvValue : ∀ command, good Unit (ops.asyncHandleRecvValue command)
  wait : ∀ seconds, good Unit (ops.asyncWait seconds)

theorem within_composes {β : Type} {W : World S σ} {C : Contract W} {Q : Post W β} {I : W.Point → W.Point → Prop}
    (hspin : ∀ start point, I start point → Q.spin start point) : Composes (Within C Q I) where
  ret _ := within_ret
  spin _ _ start point hstart _ := hspin start point hstart
  bind _ _ _ _ := within_bind

section Composed

variable {ops} {good : (α : Type) → Coro S σ α → Prop} (hgood : Composes good)
include hgood

theorem composed_connectRetry (hconnect : good Error ops.asyncConnect)
    (hwait : good Unit (ops.asyncWait initRetryDelay)) (attempts : Nat) (error : Error) :
    good Error (connectRetry ops attempts error) := by
  induction attempts generalizing error with
  | zero => exact hgood.ret _ _
  | succ attempts ih =>
      refine hgood.bind _ _ _ _ hconnect fun failure => ?_
      cases failure with
      | none => exact hgood.ret _ _
      | some failure => exact hgood.bind _ _ _ _ hwait fun _ => ih _

theorem composed_handleError (hconnect : good Error ops.asyncConnect) (hconfigure : good Bool (asyncConfigure ops))
    (error : Error) : good Unit (asyncHandleError ops error) := by
  unfold asyncHandleError
  dsimp only
  split_ifs
  · refine hgood.bind _ _ _ _ (hgood.bind _ _ _ _ hconnect fun failure => ?_) fun _ => hgood.ret _ _
    cases failure with
    | some _ => exact hgood.ret _ _
    | none => exact hconfigure
  · exact hgood.bind _ _ _ _ hconfigure fun _ => hgood.ret _ _
  · exact hgood.ret _ _

theorem composed_runLoop (hreceive : good (Except Error Command) ops.asyncReceive)
    (hhandle : ∀ command, good Unit (ops.asyncHandleRecvValue command))
    (herror : ∀ error, good Unit (asyncHandleError ops error)) (fuel : Nat) : good Unit (asyncRun ops fuel) := by
  induction fuel with
  | zero => exact hgood.spin _
  | succ fuel ih =>
      refine hgood.bind _ _ _ _ hreceive fun value => ?_
      cases value with
      | ok value => exact hgood.bind _ _ _ _ (hhandle value) fun _ => ih
      | error error => exact hgood.bind _ _ _ _ (herror error) fun _ => ih

variable (hops : Each ops good)
include hops

theorem composed_syncState : good Unit (asyncSyncState ops) := by
  unfold asyncSyncState
  cases hstate : ops.state with
  | none => exact hgood.ret _ _
  | some state =>
      refine hgood.bind _ _ _ _ (hops.state state hstate) fun state => ?_
      exact hgood.bind _ _ _ _ (hops.setState _ _) fun _ => hgood.ret _ _

theorem composed_configure : good Bool (asyncConfigure ops) := by
  refine hgood.bind _ _ _ _ hops.config fun config => hgood.bind _ _ _ _ (hops.configure _ _) fun failure => ?_
  cases failure with
  | some _ => exact hgood.ret _ _
  | none =>
      refine hgood.bind _ _ _ _ (hops.wait 1) fun _ => hgood.bind _ _ _ _ (hops.setAvailability _ _) fun _ => ?_
      exact hgood.bind _ _ _ _ (composed_syncState hgood hops) fun _ => hgood.ret _ _

theorem composed_init : good Bool (asyncInit ops) := by
  have hretry := composed_connectRetry hgood hops.connect (hops.wait _) initRetryAttempts none
  refine hgood.bind _ _ _ _ hretry fun failure => ?_
  cases failure with
  | some _ => exact hgood.ret _ _
  | none => exact composed_configure hgood hops

theorem composed_run (fuel : Nat) : good Unit (asyncRun ops fuel) := by
  have hconfigure := composed_configure hgood hops
  exact composed_runLoop hgood hops.receive hops.handleRecvValue
    (composed_handleError hgood hops.connect hconfigure) fuel

end Composed
end EntityAdapter

-- The members of an implementation over its device.
structure Impl (Command State δ : Type) where
  config : δ → EntityConfig
  state : Option (δ → Except Exn State)
  handleRecvValue : Command → δ → Except Exn δ

section Instances

variable {Command State δ : Type}

def onEntity {α : Type} (task : EntityM α) : Async (Entity × δ) α :=
  task.zoom Prod.fst fun entity adapter => (entity, adapter.2)

def entityLens (δ : Type) : Lens (Entity × δ) Entity where
  view := Prod.fst
  update entity adapter := (entity, adapter.2)
  view_update _ _ := rfl
  update_view _ := rfl
  update_update _ _ _ := rfl

variable (P : Platform) (impl : Impl Command State δ) (fuel : Nat)

-- The adapter of a command entity: what its class adds to Entity are the three
-- functions given here.
def commandOperations (asyncConfigure : EntityConfig → Pubopts → EntityM Error)
    (asyncSetState : State → Pubopts → EntityM Error) (asyncReceive : EntityM (Expected Command)) :
    Operations sig (Entity × δ) Command State where
  asyncConnect := onEntity (Entity.asyncConnect P fuel)
  asyncConfigure config pubopts := onEntity (asyncConfigure config pubopts)
  asyncSetAvailability availability pubopts := onEntity (Entity.asyncSetAvailability P availability pubopts)
  asyncSetState state pubopts := onEntity (asyncSetState state pubopts)
  asyncReceive := do
    let value ← onEntity asyncReceive
    return value.mapError some
  config := .get fun adapter => .ret (impl.config adapter.2)
  state := impl.state.map fun state => .get fun adapter => .ofExcept (state adapter.2)
  asyncHandleRecvValue command := .get fun adapter => do
    let device ← .ofExcept (impl.handleRecvValue command adapter.2)
    .modify fun adapter => (adapter.1, device)
  asyncWait := asyncWait P

def coverOperations (impl : Impl CoverCommand CoverState δ) : Operations sig (Entity × δ) CoverCommand CoverState :=
  commandOperations P impl fuel (Cover.asyncConfigure P fuel) (Cover.asyncSetState P) (Cover.asyncReceive P fuel)

-- Button has no async_set_state, and its implementations have no state().
def buttonOperations (impl : Impl ButtonCommand Empty δ) : Operations sig (Entity × δ) ButtonCommand Empty :=
  commandOperations P impl fuel (Button.asyncConfigure P fuel) nofun (Button.asyncReceive P fuel)

end Instances

-- The will that the constructor of EntityAdapter sets.
def offlineWill (entity : Entity) : Except Exn Will := do
  let message ← availabilityStateMapper.mapKey .offline
  return ⟨entity.topic GenericEntityConfig.availabilityTopic, message, ⟨.atMostOnce, true⟩⟩

def createAdapter (entity : Entity) : Except Exn Entity := do
  let will ← offlineWill entity
  return entity.setWill will

end HhctrlMgmt.Adapter
