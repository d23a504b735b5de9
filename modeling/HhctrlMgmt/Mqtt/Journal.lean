import HhctrlMgmt.Mqtt.Client.Journal
import HhctrlMgmt.Mqtt.Configured

namespace HhctrlMgmt.Mqtt

open Common Coroutine

section Entity

variable {α : Type} (P : Platform) (fuel : Nat) {allowed : Outgoing → Prop}

abbrev EntityHands (allowed : Outgoing → Prop) (ret : α → Diary × Entity → Prop) (task : EntityM α)
    (point : Diary × Entity) : Prop :=
  (journal sig).Keeps (Requests allowed) ret task point

theorem entityHands_onClient {ret : α → Diary × AsyncMqttClient → Prop} (task : ClientM α) (log : Diary)
    (entity : Entity) (h : Hands allowed ret task (log, entity.client)) :
    EntityHands allowed (fun value later => ret value (later.1, later.2.client) ∧
      later.2 = entity.setClient later.2.client) (Entity.onClient task) (log, entity) :=
  Surroundings.keeps_zoom (U := journal sig) (I := Requests allowed) ret clientLens task (log, entity) h

-- How async_publish ends: the packet has been sent exactly if there is no error.
def PublishEnds (topic payload : Bytes) (pubopts : Pubopts) (before : Diary × Entity) (result : Error)
    (later : Diary × Entity) : Prop :=
  SameEntity before.2 later.2 ∧ ∃ outcome,
    RequestEnds P pubopts.qos (publishing topic payload pubopts) (before.1, before.2.client) outcome
      (later.1, later.2.client) ∧ (result = none ↔ ∃ packetId, outcome = .ok packetId)

theorem entityHands_publish (topic payload : Bytes) (pubopts : Pubopts)
    (hallowed : ∀ packetId, allowed (publishing topic payload pubopts packetId)) (point : Diary × Entity)
    (h : Requests allowed point.1) :
    EntityHands allowed (fun result later =>
      Requests allowed later.1 ∧ PublishEnds P topic payload pubopts point result later)
      (Entity.asyncPublish P topic payload pubopts) point := by
  obtain ⟨log, entity⟩ := point
  rw [entityPublish_eq]
  refine Surroundings.keeps_enter _ _ (Surroundings.keeps_bind (entityHands_onClient _ log entity
    (hands_publish P topic payload pubopts hallowed _ h)) fun outcome later hlater => ?_)
  obtain ⟨⟨hrequests, hends⟩, hwhole⟩ := hlater
  have hclient : later.2.client = entity.client := hends.client
  have hsame : SameEntity entity later.2 := by
    rw [hwhole]
    exact ⟨rfl, rfl, hclient⟩
  cases outcome with
  | error e => exact Surroundings.keeps_ret _ ⟨hrequests, hsame, .error e, hends, by simp⟩
  | ok packetId =>
      simp only [remember, Coro.bind_eq, Coro.pure_eq, Coro.modify, Coro.bind]
      split_ifs
      · exact Surroundings.keeps_get _ (Surroundings.keeps_set _ _ (Surroundings.keeps_ret _
          ⟨hrequests, hsame, .ok packetId, hends, by simp⟩))
      · exact Surroundings.keeps_ret _ ⟨hrequests, hsame, .ok packetId, hends, by simp⟩

variable (hconnect : ∀ packet, allowed (.connect packet))

include hconnect in
theorem entityHands_receive (log : Diary) (entity : Entity) (h : Requests allowed log) :
    EntityHands allowed (fun result later => Requests allowed later.1 ∧ ∀ received, result = .ok received →
        SameEntity entity later.2 ∧ entity.client.connected = true ∧
        ∃ skipped, (∀ other ∈ skipped, Packet.receiveResult other = none) ∧
          later.1 = log ++ receptions (skipped ++ [received.packet]))
      (Entity.onClient (Mqtt.asyncReceive P fuel)) (log, entity) := by
  refine Surroundings.keeps_mono (entityHands_onClient _ log entity (hands_receive P fuel allowed hconnect _ h))
    fun result later hlater => ⟨hlater.1.1, fun received hresult => ?_⟩
  obtain ⟨⟨-, hends⟩, hwhole⟩ := hlater
  obtain ⟨hclient, hconnected, hreceived⟩ := hends received hresult
  refine ⟨?_, hconnected, hreceived⟩
  rw [hwhole]
  exact ⟨rfl, rfl, hclient⟩

-- What async_set_config hands to the endpoint.
def configObject (entity : Entity) (config : EntityConfig) : Object :=
  (config.setOverride (ascii "unique_id") (.string entity.uniqueId)).object

-- What is received for a publish before it counts as acknowledged.
def Acknowledged (qos : Qos) (log : Diary) : Prop :=
  if qos = .atMostOnce then log = []
  else ∃ skipped acked, (∀ other ∈ skipped, Packet.receiveResult other = none) ∧
    log = receptions (skipped ++ [.puback acked])

-- The result of async_set_config that is no error.
def ConfigSent (payload : Bytes) (pubopts : Pubopts) (before later : Diary × Entity) : Prop :=
  SameEntity before.2 later.2 ∧ before.2.client.connected = true ∧ ∃ packetId acquired,
    Acquires pubopts.qos packetId acquired ∧
    ∃ acknowledgement, Acknowledged pubopts.qos acknowledgement ∧ later.1 = before.1 ++ acquired ++
        completed (.send (publishing (setConfigTopic before.2) payload pubopts packetId)) none ++ acknowledgement

include hconnect in
theorem entityHands_setConfig (config : EntityConfig) (pubopts : Pubopts) (point : Diary × Entity)
    (hallowed : ∀ packetId, allowed (publishing (setConfigTopic point.2) (P.serialize (configObject point.2 config))
      pubopts packetId)) (h : Requests allowed point.1) :
    EntityHands allowed (fun result later => Requests allowed later.1 ∧
        (result = none → ConfigSent (P.serialize (configObject point.2 config)) pubopts point later))
      (Entity.asyncSetConfig P fuel config pubopts) point := by
  obtain ⟨log, entity⟩ := point
  simp only [Entity.asyncSetConfig, Coro.bind_eq, Coro.pure_eq, Coro.label, Coro.state, Coro.bind]
  refine Surroundings.keeps_enter _ _ (Surroundings.keeps_get _ ?_)
  refine Surroundings.keeps_bind (entityHands_publish P _ _ pubopts hallowed _ h) fun result sent hsent => ?_
  obtain ⟨hrequests, hsame, outcome, hends, hresult⟩ := hsent
  cases result with
  | some e => exact Surroundings.keeps_ret _ ⟨hrequests, by simp⟩
  | none =>
      obtain ⟨packetId, rfl⟩ := hresult.mp rfl
      obtain ⟨hconnected, acquired, hacquired, hlog⟩ := hends.ok
      have hdone (last : Diary × Entity) (acknowledgement : Diary) (hlast : last.1 = sent.1 ++ acknowledgement)
          (hsame' : SameEntity sent.2 last.2) (hack : Acknowledged pubopts.qos acknowledgement) :
          ConfigSent (P.serialize (configObject entity config)) pubopts (log, entity) last :=
        ⟨hsame.trans hsame', hconnected, packetId, acquired, hacquired, acknowledgement, hack, by rw [hlast, hlog]⟩
      obtain ⟨sentLog, sentEntity⟩ := sent
      dsimp only
      split_ifs with hqos
      · refine Surroundings.keeps_bind (entityHands_receive P fuel hconnect sentLog sentEntity hrequests)
          fun received last hlast => ?_
        obtain ⟨hrequests', hreceived⟩ := hlast
        cases received with
        | error e => exact Surroundings.keeps_ret _ ⟨hrequests', by simp⟩
        | ok received =>
            cases received with
            | publish packet => exact Surroundings.keeps_ret _ ⟨hrequests', by simp⟩
            | suback suback => exact Surroundings.keeps_ret _ ⟨hrequests', by simp⟩
            | puback acked =>
                obtain ⟨hsame', -, skipped, hskipped, hlast⟩ := hreceived _ rfl
                refine Surroundings.keeps_ret _ ⟨hrequests', fun _ => hdone last _ hlast hsame' ?_⟩
                exact (if_neg hqos).mpr ⟨skipped, acked, hskipped, rfl⟩
      · refine Surroundings.keeps_ret _ ⟨hrequests, fun _ => hdone _ [] (List.append_nil _).symm (.refl _) ?_⟩
        exact (if_pos (not_not.mp hqos)).mpr rfl

-- The result of async_subscribe that is no error.
def SubscribeSent (topics : List Bytes) (before later : Diary × Entity) : Prop :=
  SameEntity before.2 later.2 ∧ before.2.client.connected = true ∧ ∃ packetId skipped suback,
    (∀ other ∈ skipped, Packet.receiveResult other = none) ∧ anySubackFailure suback = false ∧
    later.1 = before.1 ++ completed .acquireUniquePacketId (some packetId) ++
      completed (.send (subscribing topics packetId)) none ++ receptions (skipped ++ [.suback suback])

include hconnect in
theorem entityHands_subscribe (topics : List Bytes) (hallowed : ∀ packetId, allowed (subscribing topics packetId))
    (point : Diary × Entity) (h : Requests allowed point.1) :
    EntityHands allowed (fun result later =>
      Requests allowed later.1 ∧ (result = none → SubscribeSent topics point later))
      (Entity.asyncSubscribe P fuel topics) point := by
  obtain ⟨log, entity⟩ := point
  simp only [Entity.asyncSubscribe, Coro.bind_eq, Coro.pure_eq, Coro.label, Coro.bind]
  refine Surroundings.keeps_enter _ _ (Surroundings.keeps_bind (entityHands_onClient _ log entity
    (hands_subscribe P topics hallowed _ h)) fun outcome sent hsent => ?_)
  obtain ⟨⟨hrequests, hends⟩, hwhole⟩ := hsent
  have hclient : sent.2.client = entity.client := hends.client
  have hsame : SameEntity entity sent.2 := by
    rw [hwhole]
    exact ⟨rfl, rfl, hclient⟩
  cases outcome with
  | error e => exact Surroundings.keeps_ret _ ⟨hrequests, by simp⟩
  | ok packetId =>
      obtain ⟨hconnected, acquired, hacquired, hlog⟩ := hends.ok
      obtain ⟨sentLog, sentEntity⟩ := sent
      refine Surroundings.keeps_bind (entityHands_receive P fuel hconnect sentLog sentEntity hrequests)
        fun received last hlast => ?_
      obtain ⟨hrequests', hreceived⟩ := hlast
      cases received with
      | error e => exact Surroundings.keeps_ret _ ⟨hrequests', by simp⟩
      | ok received =>
          cases received with
          | publish packet => exact Surroundings.keeps_ret _ ⟨hrequests', by simp⟩
          | puback acked => exact Surroundings.keeps_ret _ ⟨hrequests', by simp⟩
          | suback suback =>
              obtain ⟨hsame', -, skipped, hskipped, hlast⟩ := hreceived _ rfl
              dsimp only
              cases hfailure : anySubackFailure suback with
              | true => exact Surroundings.keeps_ret _ ⟨hrequests', by simp⟩
              | false =>
                  refine Surroundings.keeps_ret _ ⟨hrequests', fun _ => ⟨hsame.trans hsame', hconnected, packetId,
                    skipped, suback, hskipped, hfailure, ?_⟩⟩
                  have hfirst : sentLog = log ++ acquired ++ completed (.send (subscribing topics packetId)) none :=
                    hlog
                  have hid : acquired = completed .acquireUniquePacketId (some packetId) := hacquired
                  rw [hlast, hfirst, hid]
                  rfl

-- The result of a configuration with a command topic that is no error.
def ConfigureSent (payload commandTopic : Bytes) (pubopts : Pubopts) (before later : Diary × Entity) : Prop :=
  ∃ configured, ConfigSent payload pubopts before configured ∧ SubscribeSent [commandTopic] configured later

include hconnect in
theorem entityHands_configureWith (complete : Entity → Except Exn EntityConfig)
    (commandTopic : Entity → Except Exn Bytes) (pubopts : Pubopts) (point : Diary × Entity)
    (config : EntityConfig) (topic : Bytes) (hcomplete : complete point.2 = .ok config)
    (htopic : commandTopic point.2 = .ok topic)
    (hpublish : ∀ packetId, allowed (publishing (setConfigTopic point.2)
      (P.serialize (configObject point.2 config)) pubopts packetId))
    (hsubscribe : ∀ packetId, allowed (subscribing [topic] packetId)) (h : Requests allowed point.1) :
    EntityHands allowed (fun result later => Requests allowed later.1 ∧
        (result = none → ConfigureSent (P.serialize (configObject point.2 config)) topic pubopts point later))
      (configureWith P fuel complete commandTopic pubopts) point := by
  simp only [configureWith, Coro.bind_eq, Coro.pure_eq, Coro.label, Coro.state, Coro.bind]
  refine Surroundings.keeps_enter _ _ (Surroundings.keeps_get _ ?_)
  simp only [hcomplete, htopic, ofExcept_ok, Coro.bind]
  refine Surroundings.keeps_bind (entityHands_setConfig P fuel hconnect config pubopts _ hpublish h)
    fun result configured hconfigured => ?_
  cases result with
  | some e => exact Surroundings.keeps_ret _ ⟨hconfigured.1, by simp⟩
  | none =>
      refine Surroundings.keeps_bind (entityHands_subscribe P fuel hconnect [topic] hsubscribe configured hconfigured.1)
        fun result later hlater => ?_
      cases result with
      | some e => exact Surroundings.keeps_ret _ ⟨hlater.1, by simp⟩
      | none => exact Surroundings.keeps_ret _ ⟨hlater.1, fun _ => ⟨configured, hconfigured.2 rfl, hlater.2 rfl⟩⟩

end Entity
end HhctrlMgmt.Mqtt
