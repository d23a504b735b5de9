import HhctrlMgmt.Coroutine.Yields
import HhctrlMgmt.Mqtt.Speech

namespace HhctrlMgmt.Mqtt

open Common Coroutine

-- How a broker answers what has been sent last.
def acknowledgement : Option Outgoing → Packet
  | some (.connect _) => .connack false .accepted
  | some (.publish packet) => .puback packet.packetId
  | some (.subscribe packet) => .suback ⟨packet.packetId, packet.entries.map fun _ => .successMaximumQos1⟩
  | none => .other .pingresp

-- Surroundings in which nothing fails. The endpoint gives out the packet ids.
def healthy (ids : List Outgoing → PacketId) (sent : List Outgoing) : (query : Query) → Answer query
  | .resolve _ _ | .connect | .send _ | .timer _ | .wait _ => none
  | .acquireUniquePacketId => some (ids sent)
  | .recv => .ok (acknowledgement sent.getLast?)

-- A run in which nothing fails, and what it returns, hands over and leaves.
def Succeeds {σ α : Type} (ids : List Outgoing → PacketId) (value : α) (packets : List Outgoing) (left : σ → Prop)
    (task : Async σ α) (point : List Outgoing × σ) : Prop :=
  endpoint.Yields (healthy ids) (fun result later => result = value ∧ later.1 = point.1 ++ packets ∧ left later.2)
    task point

section Rules

variable {σ τ α β : Type} {ids : List Outgoing → PacketId} {left : σ → Prop} {sent : List Outgoing} {state : σ}

theorem succeeds_ret (value : α) (h : left state) : Succeeds ids value [] left (.ret value) (sent, state) :=
  Surroundings.yields_ret value ⟨rfl, (List.append_nil sent).symm, h⟩

theorem succeeds_bind {between : σ → Prop} {first : Async σ β} {next : β → Async σ α} {value : β} {result : α}
    {packets others : List Outgoing} (h : Succeeds ids value packets between first (sent, state))
    (hnext : ∀ later, between later → Succeeds ids result others left (next value) (sent ++ packets, later)) :
    Succeeds ids result (packets ++ others) left (first.bind next) (sent, state) := by
  refine Surroundings.yields_bind h fun value later hlater => ?_
  obtain ⟨rfl, hsent, hleft⟩ := hlater
  obtain ⟨laterSent, laterState⟩ := later
  obtain rfl : laterSent = sent ++ packets := hsent
  refine Surroundings.yields_mono (hnext laterState hleft) fun result last hlast => ⟨hlast.1, ?_, hlast.2.2⟩
  rw [hlast.2.1, List.append_assoc]

-- A step that hands nothing over.
theorem succeeds_silent_bind {between : σ → Prop} {first : Async σ β} {next : β → Async σ α} {value : β} {result : α}
    {packets : List Outgoing} (h : Succeeds ids value [] between first (sent, state))
    (hnext : ∀ later, between later → Succeeds ids result packets left (next value) (sent, later)) :
    Succeeds ids result packets left (first.bind next) (sent, state) :=
  succeeds_bind h fun later hlater => by
    rw [List.append_nil]
    exact hnext later hlater

-- A step after which nothing is handed over.
theorem succeeds_bind_silent {between : σ → Prop} {first : Async σ β} {next : β → Async σ α} {value : β} {result : α}
    {packets : List Outgoing} (h : Succeeds ids value packets between first (sent, state))
    (hnext : ∀ later, between later → Succeeds ids result [] left (next value) (sent ++ packets, later)) :
    Succeeds ids result packets left (first.bind next) (sent, state) := by
  have hbind := succeeds_bind h hnext
  rw [List.append_nil] at hbind
  exact hbind

theorem succeeds_modify_bind {f : σ → σ} {next : Unit → Async σ α} {value : α} {packets : List Outgoing}
    (hnext : Succeeds ids value packets left (next ()) (sent, f state)) :
    Succeeds ids value packets left ((Coro.modify f).bind next) (sent, state) := hnext

theorem succeeds_label_bind {label : Label} {next : Unit → Async σ α} {value : α} {packets : List Outgoing}
    (hnext : Succeeds ids value packets left (next ()) (sent, state)) :
    Succeeds ids value packets left ((Coro.label label).bind next) (sent, state) := hnext

theorem succeeds_state_bind {next : σ → Async σ α} {value : α} {packets : List Outgoing}
    (hnext : Succeeds ids value packets left (next state) (sent, state)) :
    Succeeds ids value packets left ((Coro.state (S := sig)).bind next) (sent, state) := hnext

theorem succeeds_get {next : σ → Async σ α} {value : α} {packets : List Outgoing}
    (hnext : Succeeds ids value packets left (next state) (sent, state)) :
    Succeeds ids value packets left (.get next) (sent, state) := hnext

theorem succeeds_read_bind {f : σ → β} {next : β → Async σ α} {value : α} {packets : List Outgoing}
    (hnext : Succeeds ids value packets left (next (f state)) (sent, state)) :
    Succeeds ids value packets left ((Coro.get fun state => .ret (f state)).bind next) (sent, state) := hnext

theorem succeeds_ofExcept_bind {computed : Except Exn β} {argument : β} (hcomputed : computed = .ok argument)
    {next : β → Async σ α} {value : α} {packets : List Outgoing}
    (hnext : Succeeds ids value packets left (next argument) (sent, state)) :
    Succeeds ids value packets left ((Coro.ofExcept computed).bind next) (sent, state) := by
  rw [hcomputed]
  exact hnext

theorem succeeds_zoom (lens : Lens τ σ) {task : Async σ α} {value : α} {packets : List Outgoing} {whole : τ}
    {leaves : τ → Prop} (h : Succeeds ids value packets left task (sent, lens.view whole))
    (hleaves : ∀ part, left part → leaves (lens.update part whole)) :
    Succeeds ids value packets leaves (task.zoom lens.view lens.update) (sent, whole) := by
  refine Surroundings.yields_mono (Surroundings.yields_zoom lens h) fun result later hlater => ?_
  obtain ⟨⟨hresult, hsent, hleft⟩, hwhole⟩ := hlater
  refine ⟨hresult, hsent, ?_⟩
  rw [hwhole]
  exact hleaves _ hleft

end Rules

section Client

-- acquire_packet_id(qos)
def publishId (ids : List Outgoing → PacketId) : Qos → List Outgoing → PacketId
  | .atMostOnce, _ => 0
  | .atLeastOnce, sent | .exactlyOnce, sent => ids sent

variable (P : Platform) (ids : List Outgoing → PacketId) {origin : AsyncMqttClient} {sent : List Outgoing}
  {client : AsyncMqttClient}

-- A client with this CONNECT that holds itself for connected.
structure Linked (origin client : AsyncMqttClient) : Prop where
  credentials : SameCredentials origin client
  connected : client.connected = true

theorem succeeds_asyncConnect (tryReconnect : ClientM Bool) (h : SameCredentials origin client) :
    Succeeds ids none [.connect (connectPacket origin)] (Linked origin) (asyncConnect P tryReconnect)
      (sent, client) := by
  have hlast : (sent ++ [Outgoing.connect (connectPacket client)]).getLast? = some (.connect (connectPacket client)) :=
    List.getLast?_concat
  have hrun : exec (endpoint.world AsyncMqttClient) (fun sent _ => healthy ids sent) (asyncConnect P tryReconnect)
      (sent, client) = (.ret none, sent ++ [.connect (connectPacket client)], client.setConnected.setAttempt 0) := by
    simp [asyncConnect, asyncSendCon, asyncRecvConack, exec, healthy, acknowledgement, connectPacket]
  refine ⟨_, _, hrun, rfl, ?_, ⟨h.1, h.2⟩, rfl⟩
  rw [h.connectPacket]

theorem succeeds_publish (h : Linked origin client) (topic payload : Bytes) {pubopts : Pubopts}
    (hqos : supportedQos pubopts.qos = true) :
    Succeeds ids (.ok (publishId ids pubopts.qos sent))
      [publishing topic payload pubopts (publishId ids pubopts.qos sent)] (Linked origin)
      (Mqtt.asyncPublish P topic payload pubopts) (sent, client) := by
  obtain ⟨qos, retain⟩ := pubopts
  have hrun : exec (endpoint.world AsyncMqttClient) (fun sent _ => healthy ids sent)
      (Mqtt.asyncPublish P topic payload ⟨qos, retain⟩) (sent, client) =
      (.ret (.ok (publishId ids qos sent)),
        sent ++ [publishing topic payload ⟨qos, retain⟩ (publishId ids qos sent)], client) := by
    cases qos with
    | exactlyOnce => cases hqos
    | atMostOnce | atLeastOnce =>
        simp [Mqtt.asyncPublish, acquirePacketIdFor, acquirePacketId, sendWithId, supportedQos, exec, healthy,
          h.connected, publishing, publishId]
  exact ⟨_, _, hrun, rfl, rfl, h⟩

theorem succeeds_subscribe (h : Linked origin client) (topics : List Bytes) :
    Succeeds ids (.ok (ids sent)) [subscribing topics (ids sent)] (Linked origin) (Mqtt.asyncSubscribe P topics)
      (sent, client) := by
  have hrun : exec (endpoint.world AsyncMqttClient) (fun sent _ => healthy ids sent) (Mqtt.asyncSubscribe P topics)
      (sent, client) = (.ret (.ok (ids sent)), sent ++ [subscribing topics (ids sent)], client) := by
    simp [Mqtt.asyncSubscribe, acquirePacketId, sendWithId, exec, healthy, h.connected, subscribing]
  exact ⟨_, _, hrun, rfl, rfl, h⟩

variable (sent) in
-- What is received is the answer to what has been sent last.
theorem succeeds_receive (h : Linked origin client) (fuel : Nat) (last : Outgoing) (result : ReceiveResult)
    (hresult : (acknowledgement (some last)).receiveResult = some result) :
    Succeeds ids (.ok result) [] (Linked origin) (Mqtt.asyncReceive P (fuel + 1)) (sent ++ [last], client) := by
  have hrun : exec (endpoint.world AsyncMqttClient) (fun sent _ => healthy ids sent) (Mqtt.asyncReceive P (fuel + 1))
      (sent ++ [last], client) = (.ret (.ok result), sent ++ [last], client) := by
    simp [Mqtt.asyncReceive, Mqtt.asyncReceiveLoop, exec, healthy, h.connected, hresult]
  exact ⟨_, _, hrun, rfl, (List.append_nil _).symm, h⟩

end Client

section Entity

variable (P : Platform) (ids : List Outgoing → PacketId) (fuel : Nat) {origin : Entity} {sent : List Outgoing}
  {entity : Entity}

-- An entity with these names and this CONNECT that holds itself for connected.
structure EntityLinked (origin entity : Entity) : Prop where
  names : SameNames origin entity
  client : Linked origin.client entity.client

variable (sent) in
theorem succeeds_onClient {α : Type} {task : ClientM α} {value : α} {packets : List Outgoing}
    (hnames : SameNames origin entity)
    (h : Succeeds ids value packets (Linked origin.client) task (sent, entity.client)) :
    Succeeds ids value packets (EntityLinked origin) (Entity.onClient task) (sent, entity) :=
  succeeds_zoom clientLens h fun _ hclient => ⟨hnames, hclient⟩

theorem succeeds_entityConnect (h : SameOrigin origin entity) :
    Succeeds ids none [.connect (connectPacket origin.client)] (EntityLinked origin) (Entity.asyncConnect P fuel)
      (sent, entity) :=
  succeeds_onClient ids sent h.names (succeeds_asyncConnect P ids _ h.credentials)

variable (sent) in
theorem succeeds_entityPublish (h : EntityLinked origin entity) (topic payload : Bytes) {pubopts : Pubopts}
    (hqos : supportedQos pubopts.qos = true) :
    Succeeds ids none [publishing topic payload pubopts (publishId ids pubopts.qos sent)] (EntityLinked origin)
      (Entity.asyncPublish P topic payload pubopts) (sent, entity) := by
  rw [entityPublish_eq]
  have hpublish := succeeds_onClient ids sent h.names (succeeds_publish P ids h.client topic payload hqos)
  refine succeeds_bind_silent hpublish fun later hlater => ?_
  unfold remember
  split_ifs
  · exact succeeds_modify_bind (succeeds_ret none ⟨hlater.names, hlater.client⟩)
  · exact succeeds_ret none hlater

theorem succeeds_setConfig (h : EntityLinked origin entity) (config : EntityConfig) {pubopts : Pubopts}
    (hqos : supportedQos pubopts.qos = true) :
    Succeeds ids none [publishing (setConfigTopic origin) (P.serialize (configObject origin config)) pubopts
        (publishId ids pubopts.qos sent)] (EntityLinked origin)
      (Entity.asyncSetConfig P (fuel + 1) config pubopts) (sent, entity) := by
  have hpublish := succeeds_entityPublish P ids sent h (setConfigTopic entity)
    (P.serialize (configObject entity config)) hqos
  unfold setConfigTopic configObject at hpublish ⊢
  rw [← h.names.1, ← h.names.2]
  refine succeeds_label_bind (succeeds_state_bind (succeeds_bind_silent hpublish fun later hlater => ?_))
  by_cases hack : pubopts.qos ≠ .atMostOnce
  · have hid : publishId ids pubopts.qos sent = ids sent := by
      cases hcase : pubopts.qos with
      | atMostOnce => exact absurd hcase hack
      | atLeastOnce | exactlyOnce => rfl
    have hreceive := succeeds_receive P ids sent hlater.client fuel (publishing (setConfigTopic entity)
      (P.serialize (configObject entity config)) pubopts (publishId ids pubopts.qos sent))
      (.puback (publishId ids pubopts.qos sent)) rfl
    dsimp only
    rw [if_pos hack]
    exact succeeds_silent_bind (succeeds_onClient ids _ hlater.names hreceive) fun last hlast =>
      succeeds_ret (none : Error) hlast
  · dsimp only
    rw [if_neg hack]
    exact succeeds_ret (none : Error) hlater

theorem succeeds_setAvailability (h : EntityLinked origin entity) (retain : Bool) :
    Succeeds ids none [publishing (origin.topic GenericEntityConfig.availabilityTopic) (ascii "online")
        ⟨.atLeastOnce, retain⟩ (ids sent)] (EntityLinked origin)
      (Entity.asyncSetAvailability P .online ⟨.atLeastOnce, retain⟩) (sent, entity) := by
  have hpublish := succeeds_entityPublish P ids sent h (entity.topic GenericEntityConfig.availabilityTopic)
    (ascii "online") (rfl : supportedQos (⟨.atLeastOnce, retain⟩ : Pubopts).qos = true)
  rw [h.names.topic] at hpublish
  exact succeeds_label_bind (succeeds_state_bind (by rw [h.names.topic]; exact hpublish))

theorem succeeds_entitySubscribe (h : EntityLinked origin entity) (topic : Bytes) :
    Succeeds ids none [subscribing [topic] (ids sent)] (EntityLinked origin)
      (Entity.asyncSubscribe P (fuel + 1) [topic]) (sent, entity) := by
  have hsubscribe := succeeds_onClient ids sent h.names (succeeds_subscribe P ids h.client [topic])
  refine succeeds_label_bind (succeeds_bind hsubscribe fun later hlater => ?_)
  have hreceive := succeeds_receive P ids sent hlater.client fuel (subscribing [topic] (ids sent))
    (.suback ⟨ids sent, [.successMaximumQos1]⟩) rfl
  exact succeeds_silent_bind (succeeds_onClient ids _ hlater.names hreceive) fun last hlast =>
    succeeds_ret (none : Error) hlast

-- What async_set_config publishes.
def configPublishing (origin : Entity) (config : EntityConfig) (pubopts : Pubopts) (sent : List Outgoing) : Outgoing :=
  publishing (setConfigTopic origin) (P.serialize (configObject origin config)) pubopts
    (publishId ids pubopts.qos sent)

theorem succeeds_configureWith (h : EntityLinked origin entity) {complete : Entity → Except Exn EntityConfig}
    {commandTopic : Entity → Except Exn Bytes} {config : EntityConfig} {topic : Bytes} {pubopts : Pubopts}
    (hqos : supportedQos pubopts.qos = true) (hcomplete : complete entity = .ok config)
    (htopic : commandTopic entity = .ok topic) :
    Succeeds ids none [configPublishing P ids origin config pubopts sent,
        subscribing [topic] (ids (sent ++ [configPublishing P ids origin config pubopts sent]))] (EntityLinked origin)
      (configureWith P (fuel + 1) complete commandTopic pubopts) (sent, entity) := by
  refine succeeds_label_bind (succeeds_state_bind ?_)
  rw [hcomplete]
  refine succeeds_bind (succeeds_setConfig P ids fuel h config hqos) fun later hlater => ?_
  dsimp only
  rw [htopic]
  exact succeeds_bind (succeeds_entitySubscribe P ids fuel hlater topic) fun last hlast =>
    succeeds_ret (none : Error) hlast

end Entity
end HhctrlMgmt.Mqtt
