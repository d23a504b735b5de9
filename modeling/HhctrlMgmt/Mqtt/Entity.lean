import Mathlib.Data.Finset.Basic
import HhctrlMgmt.Common.Mapper
import HhctrlMgmt.Mqtt.Client
import HhctrlMgmt.Mqtt.EntityConfig

namespace HhctrlMgmt.Mqtt

open Common Coroutine

inductive Availability where
  | offline
  | online
deriving DecidableEq, Repr

def availabilityStateMapper : Mapper Availability Bytes :=
  .more .offline (ascii "offline") (.last .online (ascii "online"))

namespace GenericEntityConfig

def availabilityTopic : Bytes := ascii "availability_topic"
def jsonAttributesTopic : Bytes := ascii "json_attributes_topic"
def jsonAttributesTemplate : Bytes := ascii "json_attributes_template"

end GenericEntityConfig

structure Entity where
  entityName : Bytes
  uniqueId : Bytes
  client : AsyncMqttClient
  pendingPuback : Finset PacketId

abbrev EntityM := Async Entity

namespace Entity

def create (entityName uniqueId : Bytes) (client : AsyncMqttClient) : Entity :=
  ⟨entityName, uniqueId, client, ∅⟩

def topic (entity : Entity) (topic : Bytes) : Bytes :=
  entity.entityName ++ ascii "_" ++ entity.uniqueId ++ ascii "/" ++ topic

def setClient (client : AsyncMqttClient) (entity : Entity) : Entity :=
  { entity with client := client }

def setWill (will : Will) (entity : Entity) : Entity :=
  entity.setClient (entity.client.setWill will)

def addPending (packetId : PacketId) (entity : Entity) : Entity :=
  { entity with pendingPuback := insert packetId entity.pendingPuback }

def erasePending (packetId : PacketId) (entity : Entity) : Entity :=
  { entity with pendingPuback := entity.pendingPuback.erase packetId }

-- client_->...
def onClient {α : Type} (task : ClientM α) : EntityM α :=
  task.zoom client setClient

section Operations

variable (P : Platform) (fuel : Nat)

def asyncConnect : EntityM Error := do
  .label (.entity .asyncConnect)
  onClient (Mqtt.asyncConnect P (tryReconnect P fuel))

-- The loop of async_receive
def asyncReceiveLoop : Nat → EntityM (Expected PublishPacket)
  | 0 => .spin
  | rounds + 1 => do
    match ← onClient (Mqtt.asyncReceive P fuel) with
    | .error e => return .error e
    | .ok (.publish packet) => return .ok packet
    | .ok (.suback packet) =>
      if anySubackFailure packet then
        return .error (plainError .subscriptionFailure)
      asyncReceiveLoop rounds
    | .ok (.puback packetId) =>
      .modify fun entity =>
        if packetId ∈ entity.pendingPuback then entity.erasePending packetId else entity
      asyncReceiveLoop rounds

def asyncReceive : EntityM (Expected PublishPacket) := do
  .label (.entity .asyncReceive)
  asyncReceiveLoop P fuel fuel

def asyncPublish (topic payload : Bytes) (pubopts : Pubopts) : EntityM Error := do
  .label (.entity .asyncPublish)
  match ← onClient (Mqtt.asyncPublish P topic payload pubopts) with
  | .error e => return some e
  | .ok packetId =>
    if pubopts.qos ≠ .atMostOnce then
      .modify (addPending packetId)
    return none

def asyncSetConfig (config : EntityConfig) (pubopts : Pubopts) : EntityM Error := do
  .label (.entity .asyncSetConfig)
  let entity ← .state
  let config := config.setOverride (ascii "unique_id") (.string entity.uniqueId)
  let topic := ascii "homeassistant/" ++ entity.entityName ++ ascii "/" ++ entity.uniqueId ++ ascii "/config"
  if let some e ← asyncPublish P topic (config.parse P) pubopts then
    return some (error .invalidConfig (e.what P))
  if pubopts.qos ≠ .atMostOnce then
    match ← onClient (Mqtt.asyncReceive P fuel) with
    | .error e => return some (error .invalidConfig (e.what P))
    | .ok (.puback _) => return none
    | .ok _ => return some (error .invalidConfig "Expected PublishAckPacket_t was not received")
  return none

def asyncSetAvailability (availability : Availability) (pubopts : Pubopts) : EntityM Error := do
  .label (.entity .asyncSetAvailability)
  let entity ← .state
  let payload ← .ofExcept (availabilityStateMapper.mapKey availability)
  asyncPublish P (entity.topic GenericEntityConfig.availabilityTopic) payload pubopts

def asyncSubscribe (subTopics : List Bytes) : EntityM Error := do
  .label (.entity .asyncSubscribe)
  if let .error e ← onClient (Mqtt.asyncSubscribe P subTopics) then
    return some (error .subscriptionFailure (e.what P))
  match ← onClient (Mqtt.asyncReceive P fuel) with
  | .error e => return some (error .subscriptionFailure (e.what P))
  | .ok (.suback packet) =>
    if anySubackFailure packet then
      return some (error .subscriptionFailure
        "One of the subscribed topic has not received the required subscription acknowledge")
    return none
  | .ok _ => return some (error .subscriptionFailure "Expected SubscriptionAckPacket_t was not received")

-- At QoS 1 a packet id is acquired and remembered.
theorem asyncPublish_atLeastOnce (topic payload : Bytes) (retain : Bool) :
    asyncPublish P topic payload ⟨.atLeastOnce, retain⟩ =
      .enter (.entity .asyncPublish) ((onClient (do
        .label (.client .asyncPublish)
        let client ← .state
        if !client.connected then
          return .error (error .disconnected "Cannot publish when client is disconnected")
        let packetId ← acquirePacketId
        sendWithId P packetId (.publish ⟨packetId, topic, payload, ⟨.atLeastOnce, retain⟩⟩))).bind fun
        | .error e => .ret (some e)
        | .ok packetId => (Coro.modify (addPending packetId)).bind fun _ => .ret none) := rfl

end Operations
end Entity

-- What async_publish does with the result of the client.
def remember (pubopts : Pubopts) : Expected PacketId → EntityM Error
  | .error e => .ret (some e)
  | .ok packetId => do
      if pubopts.qos ≠ .atMostOnce then
        .modify (Entity.addPending packetId)
      return none

theorem entityPublish_eq (P : Platform) (topic payload : Bytes) (pubopts : Pubopts) :
    Entity.asyncPublish P topic payload pubopts = .enter (.entity .asyncPublish)
      ((Entity.onClient (Mqtt.asyncPublish P topic payload pubopts)).bind (remember pubopts)) := rfl

-- The members of an entity that no operation changes.
def SameNames (before after : Entity) : Prop :=
  after.entityName = before.entityName ∧ after.uniqueId = before.uniqueId

theorem SameNames.topic {before after : Entity} (h : SameNames before after) (topic : Bytes) :
    after.topic topic = before.topic topic := by
  unfold Entity.topic
  rw [h.1, h.2]

-- The members of an entity that no operation on a healthy connection changes.
def SameEntity (before after : Entity) : Prop :=
  after.entityName = before.entityName ∧ after.uniqueId = before.uniqueId ∧ after.client = before.client

theorem SameEntity.refl (entity : Entity) : SameEntity entity entity := ⟨rfl, rfl, rfl⟩

theorem SameEntity.trans {first second third : Entity} (h : SameEntity first second) (h' : SameEntity second third) :
    SameEntity first third :=
  ⟨h'.1.trans h.1, h'.2.1.trans h.2.1, h'.2.2.trans h.2.2⟩

end HhctrlMgmt.Mqtt
