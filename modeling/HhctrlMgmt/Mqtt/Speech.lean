import HhctrlMgmt.Coroutine.Asks
import HhctrlMgmt.Mqtt.Journal

namespace HhctrlMgmt.Mqtt

open Common Coroutine

-- The CONNECT of a client.
def connectPacket (client : AsyncMqttClient) : ConnectPacket where
  cleanSession := client.config.cleanSession
  keepAlive := client.config.keepAlive
  clientId := client.config.uniqueId
  will := client.will
  userName := getCredential client.config.username
  password := getCredential client.config.password

-- The members of a client that its CONNECT is made of; nothing changes them later.
def SameCredentials (origin client : AsyncMqttClient) : Prop :=
  client.config = origin.config ∧ client.will = origin.will

theorem SameCredentials.connectPacket {origin client : AsyncMqttClient} (h : SameCredentials origin client) :
    Mqtt.connectPacket client = Mqtt.connectPacket origin := by
  unfold Mqtt.connectPacket
  rw [h.1, h.2]

section Client

variable {α : Type} (P : Platform) (fuel : Nat) {origin : AsyncMqttClient} {allowed : Outgoing → Prop}

-- A part of the client that only hands over allowed packets and leaves its CONNECT as it is.
abbrev ClientSays (origin : AsyncMqttClient) (allowed : Outgoing → Prop) (task : ClientM α) : Prop :=
  Asks (SameCredentials origin) (Query.Hands allowed) task

theorem says_modify {f : AsyncMqttClient → AsyncMqttClient} (hf : ∀ client, SameCredentials client (f client)) :
    ClientSays origin allowed (.modify f) :=
  asks_modify fun client hclient => ⟨(hf client).1.trans hclient.1, (hf client).2.trans hclient.2⟩

-- What becomes of an error that ends an attempt to connect.
theorem says_mapErrorCode (code : SystemCode) (next : ErrorCode → ClientM α)
    (hnext : ∀ mapped, ClientSays origin allowed (next mapped)) :
    ClientSays origin allowed ((Coro.ofExcept (mapErrorCode P code)).bind next) :=
  asks_ofExcept_bind _ _ fun mapped _ => hnext mapped

theorem says_handleRecvError {tryReconnect : ClientM Bool} (hreconnect : ClientSays origin allowed tryReconnect)
    (e : SystemError) : ClientSays origin allowed (handleRecvError P tryReconnect e) := by
  refine asks_state_bind fun client _ => ?_
  split_ifs
  · refine asks_bind hreconnect fun reconnected => ?_
    cases reconnected with
    | true => exact asks_ret _
    | false => exact asks_state_bind fun client _ => asks_ret _
  · exact says_mapErrorCode P _ _ fun mapped => asks_ret _

theorem says_recvConack {tryReconnect : ClientM Bool} (hreconnect : ClientSays origin allowed tryReconnect) :
    ClientSays origin allowed (asyncRecvConack P tryReconnect) := by
  refine asks_request_bind trivial fun answer => ?_
  cases answer with
  | error e => exact asks_bind (says_handleRecvError P hreconnect e) fun e => asks_ret _
  | ok packet =>
      cases packet with
      | connack _ _ => exact asks_bind (says_modify fun client => ⟨rfl, rfl⟩) fun _ => asks_ret _
      | publish _ | puback _ | suback _ | other _ => exact asks_ret _

theorem says_sendCon (hconnect : allowed (.connect (connectPacket origin))) :
    ClientSays origin allowed asyncSendCon := by
  refine asks_state_bind fun client hclient => asks_request_bind ?_ fun answer => asks_ret _
  show allowed (.connect (connectPacket client))
  rw [hclient.connectPacket]
  exact hconnect

theorem says_asyncConnect (hconnect : allowed (.connect (connectPacket origin))) {tryReconnect : ClientM Bool}
    (hreconnect : ClientSays origin allowed tryReconnect) :
    ClientSays origin allowed (asyncConnect P tryReconnect) := by
  refine asks_state_bind fun client _ => asks_request_bind trivial fun resolved => ?_
  cases resolved with
  | some _ => exact asks_ret _
  | none =>
      refine asks_request_bind trivial fun opened => ?_
      cases opened with
      | some code => exact says_mapErrorCode P _ _ fun mapped => asks_ret _
      | none =>
          refine asks_bind (says_sendCon hconnect) fun sent => ?_
          cases sent with
          | some e => exact says_mapErrorCode P _ _ fun mapped => asks_ret _
          | none =>
              refine asks_bind (says_recvConack P hreconnect) fun received => ?_
              cases received with
              | some e => exact says_mapErrorCode P _ _ fun mapped => asks_ret _
              | none => exact asks_bind (says_modify fun client => ⟨rfl, rfl⟩) fun _ => asks_ret _

theorem says_tryReconnectWith {loop : ClientM Bool} (hloop : ClientSays origin allowed loop) :
    ClientSays origin allowed (tryReconnectWith loop) := by
  refine asks_state_bind fun client _ => ?_
  split_ifs
  · exact asks_ret _
  · exact asks_bind (says_modify fun client => ⟨rfl, rfl⟩) fun _ => hloop

theorem says_tryReconnect (hconnect : allowed (.connect (connectPacket origin))) (fuel : Nat) :
    ClientSays origin allowed (tryReconnect P fuel) := by
  refine says_tryReconnectWith ?_
  induction fuel with
  | zero => exact asks_spin
  | succ fuel ih =>
      refine asks_bind (says_modify fun client => ⟨rfl, rfl⟩) fun _ => asks_state_bind fun client _ => ?_
      split_ifs
      · refine asks_request_bind trivial fun waited => ?_
        cases waited with
        | some _ => exact asks_ret _
        | none =>
            refine asks_bind (says_asyncConnect P hconnect (says_tryReconnectWith ih)) fun connected => ?_
            cases connected with
            | none => exact asks_ret _
            | some _ => exact ih
      · exact asks_ret _

theorem says_receive (hconnect : allowed (.connect (connectPacket origin))) (fuel : Nat) :
    ClientSays origin allowed (asyncReceive P fuel) := by
  refine asks_state_bind fun client _ => ?_
  split_ifs
  · exact asks_ret _
  · suffices hloop : ∀ rounds, ClientSays origin allowed (asyncReceiveLoop P (tryReconnect P fuel) rounds) by
      exact hloop fuel
    intro rounds
    induction rounds with
    | zero => exact asks_spin
    | succ rounds ih =>
        refine asks_request_bind trivial fun answer => ?_
        cases answer with
        | error e =>
            exact asks_bind (says_handleRecvError P (says_tryReconnect P hconnect fuel) e) fun e => asks_ret _
        | ok packet =>
            dsimp only
            cases packet.receiveResult with
            | some result => exact asks_ret _
            | none => exact ih

theorem says_sendWithId (packetId : PacketId) {packet : Outgoing} (hpacket : allowed packet) :
    ClientSays origin allowed (sendWithId P packetId packet) := by
  refine asks_request_bind hpacket fun answer => ?_
  cases answer with
  | some e => exact says_mapErrorCode P _ _ fun mapped => asks_ret _
  | none => exact asks_ret _

theorem says_acquirePacketId : ClientSays origin allowed acquirePacketId := by
  refine asks_request_bind trivial fun answer => ?_
  cases answer with
  | some packetId => exact asks_ret _
  | none => exact asks_throw _

theorem says_publish {topic payload : Bytes} {pubopts : Pubopts}
    (hpacket : ∀ packetId, allowed (publishing topic payload pubopts packetId)) :
    ClientSays origin allowed (Mqtt.asyncPublish P topic payload pubopts) := by
  refine asks_state_bind fun client _ => ?_
  split_ifs
  · exact asks_ret _
  · exact asks_ret _
  · unfold acquirePacketIdFor
    split_ifs
    · exact says_sendWithId P _ (hpacket _)
    · exact asks_bind says_acquirePacketId fun packetId => says_sendWithId P _ (hpacket packetId)

theorem says_subscribe {topics : List Bytes} (hpacket : ∀ packetId, allowed (subscribing topics packetId)) :
    ClientSays origin allowed (Mqtt.asyncSubscribe P topics) := by
  refine asks_state_bind fun client _ => ?_
  split_ifs
  · exact asks_ret _
  · exact asks_bind says_acquirePacketId fun packetId => says_sendWithId P _ (hpacket packetId)

end Client

-- The members of an entity that all its topics and its CONNECT are made of.
structure SameOrigin (origin entity : Entity) : Prop where
  names : SameNames origin entity
  credentials : SameCredentials origin.client entity.client

section Entity

variable {α : Type} (P : Platform) (fuel : Nat) {origin : Entity} {allowed : Outgoing → Prop}

abbrev EntitySays (origin : Entity) (allowed : Outgoing → Prop) (task : EntityM α) : Prop :=
  Asks (SameOrigin origin) (Query.Hands allowed) task

theorem says_onClient {task : ClientM α} (h : ClientSays origin.client allowed task) :
    EntitySays origin allowed (Entity.onClient task) :=
  asks_zoom (fun _ hentity => hentity.credentials) (fun _ _ hclient hentity => ⟨hentity.names, hclient⟩) h

theorem says_entityConnect (hconnect : allowed (.connect (connectPacket origin.client))) :
    EntitySays origin allowed (Entity.asyncConnect P fuel) :=
  says_onClient (says_asyncConnect P hconnect (says_tryReconnect P hconnect fuel))

theorem says_entityPublish {topic payload : Bytes} {pubopts : Pubopts}
    (hpacket : ∀ packetId, allowed (publishing topic payload pubopts packetId)) :
    EntitySays origin allowed (Entity.asyncPublish P topic payload pubopts) := by
  rw [entityPublish_eq]
  refine asks_bind (says_onClient (says_publish P hpacket)) fun result => ?_
  cases result with
  | error e => exact asks_ret _
  | ok packetId =>
      unfold remember
      dsimp only
      split_ifs
      · exact asks_bind (asks_modify fun entity hentity => ⟨hentity.names, hentity.credentials⟩) fun _ => asks_ret _
      · exact asks_ret _

theorem says_entityReceive (hconnect : allowed (.connect (connectPacket origin.client))) :
    EntitySays origin allowed (Entity.asyncReceive P fuel) := by
  have hloop (rounds : Nat) : EntitySays origin allowed (Entity.asyncReceiveLoop P fuel rounds) := by
    induction rounds with
    | zero => exact asks_spin
    | succ rounds ih =>
        refine asks_bind (says_onClient (says_receive P hconnect fuel)) fun received => ?_
        cases received with
        | error e => exact asks_ret _
        | ok received =>
            cases received with
            | publish packet => exact asks_ret _
            | suback packet =>
                dsimp only
                split_ifs
                · exact asks_ret _
                · exact ih
            | puback packetId =>
                refine asks_bind (asks_modify fun entity hentity => ?_) fun _ => ih
                split_ifs
                · exact ⟨hentity.names, hentity.credentials⟩
                · exact hentity
  exact hloop fuel

theorem says_setConfig (hconnect : allowed (.connect (connectPacket origin.client))) {config : EntityConfig}
    {pubopts : Pubopts}
    (hpacket : ∀ packetId, allowed (publishing (setConfigTopic origin) (P.serialize (configObject origin config))
      pubopts packetId)) :
    EntitySays origin allowed (Entity.asyncSetConfig P fuel config pubopts) := by
  refine asks_state_bind fun entity hentity => ?_
  have hsent (packetId : PacketId) : allowed (publishing (setConfigTopic entity)
      (P.serialize (configObject entity config)) pubopts packetId) := by
    unfold setConfigTopic configObject
    rw [hentity.names.1, hentity.names.2]
    exact hpacket packetId
  refine asks_bind (says_entityPublish P hsent) fun published => ?_
  cases published with
  | some e => exact asks_ret _
  | none =>
      dsimp only
      split_ifs
      · refine asks_bind (says_onClient (says_receive P hconnect fuel)) fun received => ?_
        cases received with
        | error e => exact asks_ret _
        | ok received => cases received <;> exact asks_ret _
      · exact asks_ret _

theorem says_setAvailability {availability : Availability} {payload : Bytes} {pubopts : Pubopts}
    (hpayload : availabilityStateMapper.mapKey availability = .ok payload)
    (hpacket : ∀ packetId, allowed (publishing (origin.topic GenericEntityConfig.availabilityTopic) payload
      pubopts packetId)) :
    EntitySays origin allowed (Entity.asyncSetAvailability P availability pubopts) := by
  refine asks_state_bind fun entity hentity => ?_
  rw [hpayload]
  have htopic := hentity.names.topic GenericEntityConfig.availabilityTopic
  exact says_entityPublish P fun packetId => htopic ▸ hpacket packetId

theorem says_entitySubscribe (hconnect : allowed (.connect (connectPacket origin.client))) {topics : List Bytes}
    (hpacket : ∀ packetId, allowed (subscribing topics packetId)) :
    EntitySays origin allowed (Entity.asyncSubscribe P fuel topics) := by
  refine asks_label_bind (asks_bind (says_onClient (says_subscribe P hpacket)) fun subscribed => ?_)
  cases subscribed with
  | error e => exact asks_ret _
  | ok packetId =>
      refine asks_bind (says_onClient (says_receive P hconnect fuel)) fun received => ?_
      cases received with
      | error e => exact asks_ret _
      | ok received =>
          cases received with
          | suback packet =>
              dsimp only
              split_ifs <;> exact asks_ret _
          | publish _ | puback _ => exact asks_ret _

end Entity

-- Surroundings that keep what is handed to the endpoint, and answer in any way.
abbrev endpoint : Surroundings sig where
  State := List Outgoing
  enter sent _ := sent
  issue sent
    | .send packet => sent ++ [packet]
    | _ => sent
  allows _ _ _ := True
  answer sent _ _ := sent

theorem attends_endpoint {σ : Type} (allowed : Outgoing → Prop) :
    Attends (endpoint.world σ) (Query.Hands allowed) fun sent => ∀ packet ∈ sent, allowed packet where
  enter _ _ h := h
  issue sent query h hquery := by
    cases query with
    | send asked =>
        intro packet hmem
        rcases List.mem_append.mp hmem with hbefore | hasked
        · exact h packet hbefore
        · obtain rfl : packet = asked := List.mem_singleton.mp hasked
          exact hquery
    | resolve _ _ | connect | recv | acquireUniquePacketId | timer _ | wait _ => exact h
  answer _ _ _ h := h

end HhctrlMgmt.Mqtt
