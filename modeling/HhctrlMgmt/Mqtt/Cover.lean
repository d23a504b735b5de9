import HhctrlMgmt.Mqtt.Entity

namespace HhctrlMgmt.Mqtt

open Common Coroutine

inductive CoverState where
  | undefined
  | open
  | opening
  | closing
  | closed
deriving DecidableEq, Repr

inductive CoverSwitchCommand where
  | open
  | close
  | stop
deriving DecidableEq, Repr

-- std::variant<CoverSwitchCommand, CoverTiltCommand>; the constructor of
-- CoverTiltCommand throws, so there is no value of the second alternative.
inductive CoverCommand where
  | switch (command : CoverSwitchCommand)
deriving DecidableEq, Repr

namespace CoverConfig

def entityName : Bytes := ascii "cover"

namespace Default

def stateTopic : Bytes := ascii "state"
def switchCommandTopic : Bytes := ascii "set"

end Default

namespace Property

def stateTopic : Bytes := ascii "state_topic"
def switchCommandTopic : Bytes := ascii "command_topic"
def stateOpening : Bytes := ascii "state_opening"
def stateOpen : Bytes := ascii "state_open"
def stateClosing : Bytes := ascii "state_closing"
def stateClosed : Bytes := ascii "state_closed"
def payloadOpen : Bytes := ascii "payload_open"
def payloadClose : Bytes := ascii "payload_close"
def payloadStop : Bytes := ascii "payload_stop"

end Property
end CoverConfig

def coverStateMapper : Mapper CoverState Bytes :=
  .more .open (ascii "open") <|
  .more .opening (ascii "opening") <|
  .more .closing (ascii "closing") <|
  .last .closed (ascii "closed")

def coverSwitchCommandMapper : Mapper CoverSwitchCommand Bytes :=
  .more .open (ascii "open") <|
  .more .close (ascii "close") <|
  .last .stop (ascii "stop")

namespace Cover

open CoverConfig

def create (uniqueId : Bytes) (client : AsyncMqttClient) : Entity :=
  .create entityName uniqueId client

-- topics_, which depends on the name and the id of the entity only
def topics (entity : Entity) : StaticMap Bytes Bytes :=
  ⟨[(Property.switchCommandTopic, entity.topic Default.switchCommandTopic),
    (Property.stateTopic, entity.topic Default.stateTopic),
    (GenericEntityConfig.jsonAttributesTopic, entity.topic GenericEntityConfig.jsonAttributesTopic)]⟩

-- detail::map_command; the assertion in its last branch is compiled out in a
-- release build.
def mapCommand (topics : StaticMap Bytes Bytes) (packet : PublishPacket) : Except Exn (Option CoverCommand) := do
  let commandTopic ← topics.atKey Property.switchCommandTopic
  if packet.topic = commandTopic then
    let command ← coverSwitchCommandMapper.mapValue packet.payload
    return some (.switch command)
  return none

-- The configuration that async_configure completes.
def completeConfig (entity : Entity) (config : EntityConfig) : Except Exn EntityConfig := do
  let topics := topics entity
  let config := config.setOverride Property.switchCommandTopic (.string (← topics.atKey Property.switchCommandTopic))
  let config := config.setOverride Property.stateTopic (.string (← topics.atKey Property.stateTopic))
  let config := config.setOverride Property.stateOpening (.string (← coverStateMapper.mapKey .opening))
  let config := config.setOverride Property.stateOpen (.string (← coverStateMapper.mapKey .open))
  let config := config.setOverride Property.stateClosing (.string (← coverStateMapper.mapKey .closing))
  let config := config.setOverride Property.stateClosed (.string (← coverStateMapper.mapKey .closed))
  let config := config.setOverrideIfNotNull Property.payloadOpen (.string (← coverSwitchCommandMapper.mapKey .open))
  let config := config.setOverrideIfNotNull Property.payloadClose (.string (← coverSwitchCommandMapper.mapKey .close))
  let config := config.setOverrideIfNotNull Property.payloadStop (.string (← coverSwitchCommandMapper.mapKey .stop))
  let config := config.setOverride GenericEntityConfig.availabilityTopic
    (.string (entity.topic GenericEntityConfig.availabilityTopic))
  let config := config.setOverride GenericEntityConfig.jsonAttributesTopic
    (.string (← topics.atKey GenericEntityConfig.jsonAttributesTopic))
  return config.set GenericEntityConfig.jsonAttributesTemplate (.string (ascii "{{ value_json | tojson }}"))

section Operations

variable (P : Platform) (fuel : Nat)

def asyncConfigure (config : EntityConfig) (pubopts : Pubopts) : EntityM Error := do
  .label (.entity .asyncConfigure)
  let entity ← .state
  let config ← .ofExcept (completeConfig entity config)
  if let some e ← Entity.asyncSetConfig P fuel config pubopts then
    return some e
  let commandTopic ← .ofExcept ((topics entity).atKey Property.switchCommandTopic)
  if let some e ← Entity.asyncSubscribe P fuel [commandTopic] then
    return some e
  return none

def asyncSetState (state : CoverState) (pubopts : Pubopts) : EntityM Error := do
  .label (.entity .asyncSetState)
  if state = .undefined then
    return none
  let entity ← .state
  let stateTopic ← .ofExcept ((topics entity).atKey Property.stateTopic)
  let payload ← .ofExcept (coverStateMapper.mapKey state)
  Entity.asyncPublish P stateTopic payload pubopts

def asyncReceive : EntityM (Expected CoverCommand) := do
  match ← Entity.asyncReceive P fuel with
  | .error e => return .error e
  | .ok packet =>
    let entity ← .state
    match ← .ofExcept (mapCommand (topics entity) packet) with
    | some command => return .ok command
    | none => return .error (plainError .unknownPacket)

end Operations
end Cover
end HhctrlMgmt.Mqtt
