import HhctrlMgmt.Mqtt.Entity

namespace HhctrlMgmt.Mqtt

open Common Coroutine

inductive BinarySensorState where
  | off
  | on
deriving DecidableEq, Repr

namespace BinarySensorConfig

def entityName : Bytes := ascii "binary_sensor"

namespace Default

def stateTopic : Bytes := ascii "state"

end Default

namespace Property

def stateTopic : Bytes := ascii "state_topic"
def stateOff : Bytes := ascii "payload_off"
def stateOn : Bytes := ascii "payload_on"

end Property
end BinarySensorConfig

def binarySensorStateMapper : Mapper BinarySensorState Bytes :=
  .more .off (ascii "off") (.last .on (ascii "on"))

namespace BinarySensor

open BinarySensorConfig

def create (uniqueId : Bytes) (client : AsyncMqttClient) : Entity :=
  .create entityName uniqueId client

def topics (entity : Entity) : StaticMap Bytes Bytes :=
  ⟨[(Property.stateTopic, entity.topic Default.stateTopic),
    (GenericEntityConfig.jsonAttributesTopic, entity.topic GenericEntityConfig.jsonAttributesTopic)]⟩

-- The configuration that async_configure completes.
def completeConfig (entity : Entity) (config : EntityConfig) : Except Exn EntityConfig := do
  let topics := topics entity
  let config := config.setOverride Property.stateTopic (.string (← topics.atKey Property.stateTopic))
  let config := config.setOverride Property.stateOff (.string (← binarySensorStateMapper.mapKey .off))
  let config := config.setOverride Property.stateOn (.string (← binarySensorStateMapper.mapKey .on))
  let config := config.setOverride GenericEntityConfig.availabilityTopic
    (.string (entity.topic GenericEntityConfig.availabilityTopic))
  let config := config.setOverride GenericEntityConfig.jsonAttributesTopic
    (.string (← topics.atKey GenericEntityConfig.jsonAttributesTopic))
  return config.set GenericEntityConfig.jsonAttributesTemplate (.string (ascii "{{ value_json | tojson }}"))

section Operations

variable (P : Platform) (fuel : Nat)

def asyncConfigure (config : EntityConfig) (pubopts : Pubopts) : EntityM Error := do
  .label (.entity .asyncConfigure)
  let entity ← .state
  let config ← .ofExcept (completeConfig entity config)
  Entity.asyncSetConfig P fuel config pubopts

def asyncSetState (state : BinarySensorState) (pubopts : Pubopts) : EntityM Error := do
  .label (.entity .asyncSetState)
  let entity ← .state
  let stateTopic ← .ofExcept ((topics entity).atKey Property.stateTopic)
  let payload ← .ofExcept (binarySensorStateMapper.mapKey state)
  Entity.asyncPublish P stateTopic payload pubopts

-- No command is defined for the entity: a packet of any topic ends the wait.
def asyncReceive : EntityM Error := do
  match ← Entity.asyncReceive P fuel with
  | .error e => return some e
  | .ok _ => return none

end Operations
end BinarySensor
end HhctrlMgmt.Mqtt
