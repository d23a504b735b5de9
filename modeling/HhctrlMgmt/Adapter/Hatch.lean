import HhctrlMgmt.Adapter.EntityAdapter
import HhctrlMgmt.Coroutine.Pool
import HhctrlMgmt.Device.Hatch

namespace HhctrlMgmt.Adapter

open Coroutine Device Mqtt

-- What the adapter of a hatch asks of its cover and of the timer.
inductive CoverQuery where
  | connect
  | configure (config : EntityConfig)
  | setAvailability (availability : Availability)
  | setState (state : CoverState)
  | receive
  | wait (seconds : Int)

abbrev CoverAnswer : CoverQuery → Type
  | .connect => Error
  | .configure _ => Error
  | .setAvailability _ => Error
  | .setState _ => Error
  | .receive => Except Error CoverCommand
  | .wait _ => Option SystemCode

abbrev coverSig : Sig where
  Exn := Exn
  Label := Empty
  Query := CoverQuery
  Answer := CoverAnswer

-- A coroutine that co_spawn has queued. Those of the first two kinds handle an
-- event, which is in flight until they start.
inductive Spawned where
  | deviceCreated (deviceId : DeviceId)
  | deviceStateChanged (deviceId : DeviceId)
  | run (deviceId : DeviceId)
deriving DecidableEq

-- HatchPoller
structure HatchPoller where
  deviceId : DeviceId
  hash : Nat

-- The hatch, its poller and the HatchEventHandler, whose hatches are given by their
-- device ids. `observed` is the status that the poller has seen last, if any.
structure HatchSystem where
  status : HatchState
  poller : HatchPoller
  observed : Option HatchState
  queue : List Spawned
  hatches : List DeviceId

namespace HatchPoller

def currentHash (system : HatchSystem) : Nat :=
  system.status.hash

def update (newHash : Nat) (system : HatchSystem) : HatchSystem :=
  { system with
    poller := { system.poller with hash := newHash }
    queue := system.queue ++ [.deviceStateChanged system.poller.deviceId] }

-- operator()
def poll (system : HatchSystem) : HatchSystem :=
  let tmpHash := currentHash system
  let polled := { system with observed := some system.status }
  if tmpHash ≠ system.poller.hash then update tmpHash polled else polled

end HatchPoller

namespace Hatch

def config (deviceIdentity : DeviceIdentity) : EntityConfig :=
  (({} : EntityConfig)
    |>.set (ascii "name") (.string (ascii "Cover"))
    |>.set (ascii "device_class") (.string (ascii "door"))
    |>.set (ascii "device") (entityConfigBasicDevice deviceIdentity)
    |>.set CoverConfig.Property.payloadStop .null)

-- Hatch::state of a status
def state : HatchState → CoverState
  | .open => .open
  | .closed => .closed
  | _ => .undefined

-- The operations of a cover whose packets all arrive: async_set_state publishes
-- nothing for an undefined state. What open() and close() do to the hatch is among
-- the changes of its status.
def operations (P : Platform) (deviceIdentity : DeviceIdentity) : Operations coverSig HatchSystem CoverCommand CoverState where
  asyncConnect := .await .connect .ret
  asyncConfigure config _ := .await (.configure config) .ret
  asyncSetAvailability availability _ := .await (.setAvailability availability) .ret
  asyncSetState state _ := if state = .undefined then .ret none else .await (.setState state) .ret
  asyncReceive := .await .receive .ret
  config := .ret (config deviceIdentity)
  state := some (.get fun system => .ret (state system.status))
  asyncHandleRecvValue _ := .ret ()
  asyncWait seconds := .await (.wait seconds) fun
    | none => .ret ()
    | some code => .throw (.systemError (P.what code))

end Hatch

namespace HatchEventHandler

variable (P : Platform) (deviceIdentity : DeviceIdentity)

def pushBack (deviceId : DeviceId) (system : HatchSystem) : HatchSystem :=
  { system with
    hatches := system.hatches ++ [deviceId]
    queue := system.queue ++ [.run deviceId] }

-- operator()(DeviceCreated)
def deviceCreated (deviceId : DeviceId) : Coro coverSig HatchSystem Unit := do
  let initialized ← EntityAdapter.asyncInit (Hatch.operations P deviceIdentity)
  if !initialized then
    return ()
  .modify (pushBack deviceId)

-- operator()(DeviceStateChanged)
def deviceStateChanged (deviceId : DeviceId) : Coro coverSig HatchSystem Unit := do
  let system ← .state
  match system.hatches.find? fun hatch => deviceId = hatch with
  | none => return ()
  | some _ => EntityAdapter.asyncSyncState (Hatch.operations P deviceIdentity)

-- The fuel bounds the rounds of async_run.
def spawned (fuel : Nat) : Spawned → Coro coverSig HatchSystem Unit
  | .deviceCreated deviceId => deviceCreated P deviceIdentity deviceId
  | .deviceStateChanged deviceId => deviceStateChanged P deviceIdentity deviceId
  | .run _ => EntityAdapter.asyncRun (Hatch.operations P deviceIdentity) fuel

end HatchEventHandler

-- The states that have been published, the latest first, and which coroutine each
-- of those started so far runs. A publish counts from the moment when its state
-- is read.
structure Broker where
  published : List CoverState
  started : List Spawned

-- Every publish succeeds; to connect and to configure may take any course. `calm`
-- is asked before a state is read.
abbrev brokerWorld (calm : Broker × HatchSystem → Prop) : World coverSig HatchSystem where
  State := Broker
  enter broker _ := broker
  issue broker query :=
    match query with
    | .setState state => { broker with published := state :: broker.published }
    | _ => broker
  allows broker system query answer :=
    match query, answer with
    | .setAvailability _, answer => answer = none ∧ calm (broker, system)
    | .setState _, answer => answer = none
    | _, _ => True
  answer broker _ _ := broker

-- The status changes at any time, and the poller polls at any time. A queued
-- coroutine starts, in any order; `calmStart` is asked of it without itself.
inductive HatchEnv : Broker × HatchSystem → Broker × HatchSystem → Prop
  | change (broker : Broker) (system : HatchSystem) (status : HatchState) :
      HatchEnv (broker, system) (broker, { system with status := status })
  | poll (broker : Broker) (system : HatchSystem) : HatchEnv (broker, system) (broker, HatchPoller.poll system)

inductive HatchSpawn (P : Platform) (deviceIdentity : DeviceIdentity) (calmStart : Spawned → Broker × HatchSystem → Prop) :
    Broker × HatchSystem → Broker × HatchSystem → Coro coverSig HatchSystem Unit → Prop
  | start (broker : Broker) (system : HatchSystem) (before after : List Spawned) (handler : Spawned) (fuel : Nat)
      (hqueue : system.queue = before ++ handler :: after)
      (hcalm : calmStart handler (broker, { system with queue := before ++ after })) :
      HatchSpawn P deviceIdentity calmStart (broker, system)
        ({ broker with started := broker.started ++ [handler] }, { system with queue := before ++ after })
        (HatchEventHandler.spawned P deviceIdentity fuel handler)

def hatchArena (P : Platform) (deviceIdentity : DeviceIdentity) (calm : Broker × HatchSystem → Prop)
    (calmStart : Spawned → Broker × HatchSystem → Prop) : Arena (brokerWorld calm) Unit where
  env := HatchEnv
  spawn := HatchSpawn P deviceIdentity calmStart

-- A new poller, and the event of the hatch's creation in flight.
def hatchStart (deviceId : DeviceId) (status : HatchState) : Broker × HatchSystem :=
  (⟨[], []⟩, ⟨status, ⟨deviceId, 0⟩, none, [.deviceCreated deviceId], []⟩)

end HhctrlMgmt.Adapter
