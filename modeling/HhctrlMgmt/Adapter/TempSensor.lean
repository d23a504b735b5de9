import HhctrlMgmt.Adapter.EntityAdapter
import HhctrlMgmt.Adapter.EntityFactory

namespace HhctrlMgmt.Adapter.Sensors

open Common Coroutine Device Mqtt

structure TempSensor where
  deviceId : DeviceId
  deviceIdentity : DeviceIdentity

-- What the adapter of a sensor asks of its entity and of the timer.
inductive Operation where
  | connect
  | configure (config : EntityConfig)
  | setAvailability (availability : Availability)
  | setState (state : SensorState)
  | receive
  | wait (seconds : Int)

abbrev Reply : Operation → Type
  | .connect => Error
  | .configure _ => Error
  | .setAvailability _ => Error
  | .setState _ => Error
  | .receive => Except Error Empty
  | .wait _ => Unit

-- Every operation may throw.
abbrev sensorSig : Sig where
  Exn := Exn
  Label := Empty
  Query := Operation
  Answer operation := Except Exn (Reply operation)

-- `identity` and `value` are what DeviceIdentityProvider and the sensors of the inventory
-- say at present, the value as a text with one digit after the point. `spawned` are the
-- sensors whose async_run co_spawn has queued.
structure State where
  identity : DeviceId → Except Exn DeviceIdentity
  value : DeviceId → Except Exn SensorState
  sensors : List TempSensor
  spawned : List TempSensor

abbrev Task := Coro sensorSig State

def ask (operation : Operation) : Task (Reply operation) :=
  .await operation fun answer : Except Exn (Reply operation) => .ofExcept answer

namespace TempSensor

def config (identity : DeviceIdentity) : EntityConfig :=
  (({} : EntityConfig)
    |>.set (ascii "name") (.string (ascii "Temp sensor"))
    |>.set (ascii "device_class") (.string (ascii "temperature"))
    -- degrees Celsius, in UTF-8
    |>.set (ascii "unit_of_measurement") (.string [0xC2, 0xB0, 0x43])
    |>.set (ascii "device") (entityConfigBasicDevice identity))

def state (sensor : TempSensor) : Task SensorState := do
  let state ← .state
  .ofExcept (state.value sensor.deviceId)

def operations (sensor : TempSensor) : Operations sensorSig State Empty SensorState where
  asyncConnect := ask .connect
  asyncConfigure config _ := ask (.configure config)
  asyncSetAvailability availability _ := ask (.setAvailability availability)
  asyncSetState state _ := ask (.setState state)
  asyncReceive := ask .receive
  config := .ret (config sensor.deviceIdentity)
  state := some sensor.state
  asyncHandleRecvValue := Empty.elim
  asyncWait seconds := ask (.wait seconds)

def asyncCreate (config : BrokerConfig) (deviceId : DeviceId) : Task (Option TempSensor) := do
  let state ← .state
  let identity ← .ofExcept (state.identity deviceId)
  let _ ← .ofExcept (createAdapter (Adapter.TempSensor.entity config identity deviceId))
  let handler : TempSensor := ⟨deviceId, identity⟩
  let initialized ← EntityAdapter.asyncInit handler.operations
  if !initialized then
    return none
  return some handler

end TempSensor

namespace TempSensorEventHandler

def pushBack (sensor : TempSensor) (state : State) : State :=
  { state with sensors := state.sensors ++ [sensor], spawned := state.spawned ++ [sensor] }

-- operator()(DeviceCreated)
def deviceCreated (config : BrokerConfig) (deviceId : DeviceId) : Task Unit := do
  match ← TempSensor.asyncCreate config deviceId with
  | none => return ()
  | some sensor => .modify (pushBack sensor)

end TempSensorEventHandler

end HhctrlMgmt.Adapter.Sensors
