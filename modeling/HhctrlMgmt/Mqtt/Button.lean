import HhctrlMgmt.Mqtt.Entity

namespace HhctrlMgmt.Mqtt

open Common Coroutine

namespace ButtonConfig

def entityName : Bytes := ascii "button"

namespace Default

def commandTopic : Bytes := ascii "set"
def payloadPress : Bytes := ascii "press"

end Default

namespace Property

def commandTopic : Bytes := ascii "command_topic"
def payloadPress : Bytes := ascii "payload_press"

end Property
end ButtonConfig

inductive ButtonCommand where
  | press
deriving DecidableEq, Repr

namespace Button

open ButtonConfig

def create (uniqueId : Bytes) (client : AsyncMqttClient) : Entity :=
  .create entityName uniqueId client

-- topics_, which depends on the name and the id of the entity only
def topics (entity : Entity) : StaticMap Bytes Bytes :=
  ⟨[(Property.commandTopic, entity.topic Default.commandTopic)]⟩

-- The configuration that async_configure completes.
def completeConfig (entity : Entity) (config : EntityConfig) : Except Exn EntityConfig := do
  let topics := topics entity
  let config := config.setOverride Property.commandTopic (.string (← topics.atKey Property.commandTopic))
  let config := config.setOverride Property.payloadPress (.string Default.payloadPress)
  let config := config.setOverride GenericEntityConfig.availabilityTopic
    (.string (entity.topic GenericEntityConfig.availabilityTopic))
  return config.set GenericEntityConfig.jsonAttributesTemplate (.string (ascii "{{ value_json | tojson }}"))

section Operations

variable (P : Platform) (fuel : Nat)

def asyncConfigure (config : EntityConfig) (pubopts : Pubopts) : EntityM Error := do
  .label (.entity .asyncConfigure)
  let entity ← .state
  let config ← .ofExcept (completeConfig entity config)
  if let some e ← Entity.asyncSetConfig P fuel config pubopts then
    return some e
  let commandTopic ← .ofExcept ((topics entity).atKey Property.commandTopic)
  if let some e ← Entity.asyncSubscribe P fuel [commandTopic] then
    return some e
  return none

def asyncReceive : EntityM (Expected ButtonCommand) := do
  match ← Entity.asyncReceive P fuel with
  | .error e => return .error e
  | .ok packet =>
    if packet.payload = Default.payloadPress then
      return .ok .press
    return .error (plainError .unknownPacket)

end Operations
end Button
end HhctrlMgmt.Mqtt
