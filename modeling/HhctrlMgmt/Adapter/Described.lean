import HhctrlMgmt.Adapter.Board
import HhctrlMgmt.Adapter.GoesOnline
import HhctrlMgmt.Adapter.Hatch
import HhctrlMgmt.Adapter.Obeys
import HhctrlMgmt.Adapter.TempSensor

namespace HhctrlMgmt.Adapter

open Common Coroutine Mqtt PubSub EntityConfig

-- What stands as a text at a key of a configuration.
def text (advertised : Object) (key : Bytes) : Option Bytes :=
  match advertised.lookup key with
  | some (.string value) => some value
  | _ => none

namespace EntityKind

def stateTopicKey : Bytes := ascii "state_topic"

def commandTopicKey : Bytes := ascii "command_topic"

-- The keys that a class sets, and the one that async_set_config adds.
def edits : EntityKind → Entity → List Edit
  | .cover, entity => discoveryEdits entity
  | .button, entity => [
      ⟨.override, commandTopicKey, .string (entity.topic ButtonConfig.Default.commandTopic)⟩,
      ⟨.override, ButtonConfig.Property.payloadPress, .string ButtonConfig.Default.payloadPress⟩,
      ⟨.override, GenericEntityConfig.availabilityTopic, .string (entity.topic GenericEntityConfig.availabilityTopic)⟩,
      ⟨.set, GenericEntityConfig.jsonAttributesTemplate, .string (ascii "{{ value_json | tojson }}")⟩,
      ⟨.override, ascii "unique_id", .string entity.uniqueId⟩]
  | .binarySensor, entity => [
      ⟨.override, stateTopicKey, .string (entity.topic BinarySensorConfig.Default.stateTopic)⟩,
      ⟨.override, BinarySensorConfig.Property.stateOff, .string (ascii "off")⟩,
      ⟨.override, BinarySensorConfig.Property.stateOn, .string (ascii "on")⟩,
      ⟨.override, GenericEntityConfig.availabilityTopic, .string (entity.topic GenericEntityConfig.availabilityTopic)⟩,
      ⟨.override, GenericEntityConfig.jsonAttributesTopic,
        .string (entity.topic GenericEntityConfig.jsonAttributesTopic)⟩,
      ⟨.set, GenericEntityConfig.jsonAttributesTemplate, .string (ascii "{{ value_json | tojson }}")⟩,
      ⟨.override, ascii "unique_id", .string entity.uniqueId⟩]
  | .sensor, entity => [
      ⟨.override, stateTopicKey, .string (entity.topic SensorConfig.Default.stateTopic)⟩,
      ⟨.override, GenericEntityConfig.availabilityTopic, .string (entity.topic GenericEntityConfig.availabilityTopic)⟩,
      ⟨.override, GenericEntityConfig.jsonAttributesTopic,
        .string (entity.topic GenericEntityConfig.jsonAttributesTopic)⟩,
      ⟨.set, GenericEntityConfig.jsonAttributesTemplate, .string (ascii "{{ value_json | tojson }}")⟩,
      ⟨.override, ascii "unique_id", .string entity.uniqueId⟩]

-- What async_configure of a class publishes for a configuration.
def advertised (kind : EntityKind) (entity : Entity) (given : EntityConfig) : Object :=
  (edited (kind.edits entity) given).object

section Lookups

variable (kind : EntityKind) (entity : Entity) (given : EntityConfig)

variable {kind entity}

variable (kind entity)

end Lookups

end EntityKind

namespace Home

variable (home : Home)

-- The config() of each part.
def config : home.Part → EntityConfig
  | .hatch _ => Hatch.config home.identity
  | .tempSensor _ => Sensors.TempSensor.config home.identity
  | .indicator indicatorType => Board.Indicator.config ⟨home.boardId, indicatorType, home.identity⟩
  | .restartButton => Board.RestartButton.config ⟨home.boardId, home.identity⟩

-- What a part publishes of itself.
def advertised (part : home.Part) : Object :=
  (home.kind part).advertised (home.entity part) (home.config part)

end Home

namespace Equipment

variable {home : Home} {P : Platform} {E : Equipment home}

end Equipment
end HhctrlMgmt.Adapter
