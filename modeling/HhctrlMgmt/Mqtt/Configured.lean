import HhctrlMgmt.Mqtt.Button
import HhctrlMgmt.Mqtt.Cover
import HhctrlMgmt.Mqtt.Monitor

namespace HhctrlMgmt.Mqtt

open Common Coroutine

def clientLens : Lens Entity AsyncMqttClient where
  view := Entity.client
  update := Entity.setClient
  view_update _ _ := rfl
  update_view _ := rfl
  update_update _ _ _ := rfl

-- The topic that async_set_config publishes on.
def setConfigTopic (entity : Entity) : Bytes :=
  ascii "homeassistant/" ++ entity.entityName ++ ascii "/" ++ entity.uniqueId ++ ascii "/config"

-- An assertion about the client, and that the entity has kept its name and id.
structure OnClient (origin : Entity) (client : Monitor × AsyncMqttClient → Prop) (point : Monitor × Entity) : Prop where
  name : point.2.entityName = origin.entityName
  id : point.2.uniqueId = origin.uniqueId
  client : client (point.1, point.2.client)

section Entity

variable (P : Platform) (fuel : Nat) (origin : Entity) {topics : Topics}

theorem keeps_onClient {α : Type} {ret : α → Monitor × AsyncMqttClient → Prop}
    {before : Monitor × AsyncMqttClient → Prop} (task : ClientM α) (point : Monitor × Entity)
    (h : OnClient origin before point)
    (htask : before (point.1, point.2.client) → (calm topics).Keeps Monitor.Heard ret task (point.1, point.2.client)) :
    (calm topics).Keeps Monitor.Heard (fun value => OnClient origin (ret value)) (Entity.onClient task) point := by
  have hzoom : (calm topics).Keeps Monitor.Heard
      (fun value later => ret value (later.1, later.2.client) ∧ later.2 = point.2.setClient later.2.client)
      (Entity.onClient task) point := 
    Surroundings.keeps_zoom (U := calm topics) (I := Monitor.Heard) ret clientLens task point (htask h.client)
  refine Surroundings.keeps_mono hzoom fun value later hlater => ?_
  obtain ⟨hret, hwhole⟩ := hlater
  have hname : later.2.entityName = point.2.entityName := by rw [hwhole]; rfl
  have hid : later.2.uniqueId = point.2.uniqueId := by rw [hwhole]; rfl
  exact ⟨hname.trans h.name, hid.trans h.id, hret⟩

theorem OnClient.modify {before : Monitor × AsyncMqttClient → Prop} {point : Monitor × Entity}
    (h : OnClient origin before point) (entity : Entity) (hname : entity.entityName = point.2.entityName)
    (hid : entity.uniqueId = point.2.uniqueId) (hclient : entity.client = point.2.client) :
    OnClient origin before (point.1, entity) :=
  ⟨hname.trans h.name, hid.trans h.id, by rw [hclient]; exact h.client⟩

theorem keeps_entityConnect (sure : Bool) (point : Monitor × Entity) (h : OnClient origin (Gone sure false) point) :
    (calm topics).Keeps Monitor.Heard (fun result => OnClient origin (Connected sure false result))
      (Entity.asyncConnect P fuel) point := by
  refine Surroundings.keeps_enter _ _ (keeps_onClient origin _ point h fun hgone => ?_)
  exact keeps_asyncConnect P sure false _ _ hgone fun later hlater => keeps_tryReconnect P sure false fuel later hlater

-- The results of async_receive, of an entity of any class.
def EntityReceived {α : Type} (result : Expected α) (later : Monitor × AsyncMqttClient) : Prop :=
  match result with
  | .ok _ => Listening later
  | .error e => (e.code = .mqtt .reconnected → Fresh true later) ∧ (e.code ≠ .mqtt .reconnected → Listening later) ∧
      (e.code = .mqtt .disconnected → Gone true false later)

theorem keeps_entityReceive (point : Monitor × Entity) (h : OnClient origin Listening point) :
    (calm topics).Keeps Monitor.Heard (fun result => OnClient origin (EntityReceived result))
      (Entity.asyncReceive P fuel) point := by
  have hready : OnClient origin Ready (point.1.enter (.entity .asyncReceive), point.2) :=
    ⟨h.name, h.id, h.client.enter⟩
  refine Surroundings.keeps_enter _ _ ?_
  suffices hloop : ∀ rounds (point : Monitor × Entity), OnClient origin Ready point →
      (calm topics).Keeps Monitor.Heard (fun result => OnClient origin (EntityReceived result))
        (Entity.asyncReceiveLoop P fuel rounds) point from hloop fuel _ hready
  intro rounds
  induction rounds with
  | zero => exact fun point hpoint => Surroundings.keeps_spin hpoint.client.heard
  | succ rounds ih =>
      intro point hpoint
      simp only [Entity.asyncReceiveLoop, Coro.bind_eq, Coro.pure_eq, Coro.modify]
      refine Surroundings.keeps_bind (keeps_onClient origin _ point hpoint fun hclient =>
        keeps_asyncReceive_ready P fuel _ hclient) fun result later hlater => ?_
      cases result with
      | error e =>
          have hrecovered : Recovered true false e (later.1, later.2.client) := hlater.client
          refine Surroundings.keeps_ret _ ⟨hlater.name, hlater.id, fun hcode => (hrecovered.1 hcode).2,
            fun hcode => (hrecovered.2 hcode).listening, fun hcode => hrecovered.2 ?_⟩
          rw [hcode]
          decide
      | ok received =>
          have hnext : OnClient origin Ready later := hlater
          cases received with
          | publish packet => exact Surroundings.keeps_ret _ ⟨hnext.name, hnext.id, hnext.client.toListening⟩
          | suback packet =>
              dsimp only
              split_ifs
              · exact Surroundings.keeps_ret _ ⟨hnext.name, hnext.id, nofun, fun _ => hnext.client.toListening, nofun⟩
              · exact ih later hnext
          | puback packetId =>
              refine Surroundings.keeps_get _ (Surroundings.keeps_set _ _ (ih _ ?_))
              split_ifs
              · exact hnext.modify origin _ rfl rfl rfl
              · exact hnext

theorem keeps_entityPublish_listening (topic payload : Bytes) (pubopts : Pubopts) (point : Monitor × Entity)
    (h : OnClient origin Listening point) :
    (calm topics).Keeps Monitor.Heard (fun _ => OnClient origin Listening)
      (Entity.asyncPublish P topic payload pubopts) point := by
  simp only [Entity.asyncPublish, Coro.bind_eq, Coro.pure_eq, Coro.label, Coro.modify, Coro.bind]
  refine Surroundings.keeps_enter _ _ (Surroundings.keeps_bind (keeps_onClient origin _ point h fun hclient =>
    keeps_asyncPublish_listening P topics topic payload pubopts _ hclient) fun result later hlater => ?_)
  cases result with
  | error e => exact Surroundings.keeps_ret _ hlater
  | ok packetId =>
      dsimp only
      split_ifs
      · exact Surroundings.keeps_get _ (Surroundings.keeps_set _ _
          (Surroundings.keeps_ret _ (hlater.modify origin _ rfl rfl rfl)))
      · exact Surroundings.keeps_ret _ hlater

theorem keeps_setAvailability (availability : Availability) (pubopts : Pubopts) (point : Monitor × Entity)
    (h : OnClient origin Listening point) :
    (calm topics).Keeps Monitor.Heard (fun _ => OnClient origin Listening)
      (Entity.asyncSetAvailability P availability pubopts) point := by
  simp only [Entity.asyncSetAvailability, Coro.bind_eq, Coro.label, Coro.state, Coro.bind]
  refine Surroundings.keeps_enter _ _ (Surroundings.keeps_get _ ?_)
  refine Surroundings.keeps_ofExcept _ _ h.client.heard fun payload _ => ?_
  exact keeps_entityPublish_listening P origin _ payload pubopts point h

theorem keeps_setState (state : CoverState) (pubopts : Pubopts) (point : Monitor × Entity)
    (h : OnClient origin Listening point) :
    (calm topics).Keeps Monitor.Heard (fun _ => OnClient origin Listening)
      (Cover.asyncSetState P state pubopts) point := by
  simp only [Cover.asyncSetState, Coro.bind_eq, Coro.pure_eq, Coro.label, Coro.state, Coro.bind]
  refine Surroundings.keeps_enter _ _ ?_
  split_ifs
  · exact Surroundings.keeps_ret _ h
  · refine Surroundings.keeps_get _ (Surroundings.keeps_ofExcept _ _ h.client.heard fun topic _ => ?_)
    refine Surroundings.keeps_ofExcept _ _ h.client.heard fun payload _ => ?_
    exact keeps_entityPublish_listening P origin topic payload pubopts point h

end Entity

section Configure

variable (P : Platform) (fuel : Nat) (origin : Entity) {topics : Topics}

-- What a step of the configuration comes to: it has succeeded, or there is no
-- connection any more.
def Stepped (succeeded : Monitor × AsyncMqttClient → Prop) (result : Error) (later : Monitor × AsyncMqttClient) : Prop :=
  (result = none → succeeded later) ∧ (result ≠ none → Gone true true later)

theorem Stepped.failed {succeeded : Monitor × AsyncMqttClient → Prop} {later : Monitor × AsyncMqttClient}
    (e : SystemError) (h : Gone true true later) : Stepped succeeded (some e) later :=
  ⟨nofun, fun _ => h⟩

def Acked (later : Monitor × AsyncMqttClient) : Prop :=
  ∃ monitor, Awaiting monitor later ∧ monitor.configured = true

theorem keeps_entityPublish_awaiting (monitor : Monitor) (topic payload : Bytes) (retain : Bool)
    (point : Monitor × Entity) (h : OnClient origin (Awaiting monitor) point) :
    (calm topics).Keeps Monitor.Heard
      (fun result later => result = none ∧ ∃ packetId, OnClient origin
        (Awaiting (monitor.sent topics (.publish ⟨packetId, topic, payload, ⟨.atLeastOnce, retain⟩⟩))) later)
      (Entity.asyncPublish P topic payload ⟨.atLeastOnce, retain⟩) point := by
  simp only [Entity.asyncPublish, Coro.bind_eq, Coro.pure_eq, Coro.label, Coro.modify, Coro.bind]
  refine Surroundings.keeps_enter _ _ (Surroundings.keeps_bind (keeps_onClient origin _ point h fun hclient =>
    keeps_asyncPublish_awaiting P topics monitor topic payload retain _ hclient) fun result later hlater => ?_)
  obtain ⟨packetId, rfl, hsent⟩ := hlater.client
  simp only [ne_eq, reduceCtorEq, not_false_eq_true, if_true]
  refine Surroundings.keeps_get _ (Surroundings.keeps_set _ _ (Surroundings.keeps_ret _ ⟨rfl, packetId, ?_⟩))
  exact ⟨hlater.name, hlater.id, hsent⟩

theorem keeps_setConfig (htopic : topics.config = setConfigTopic origin) (config : EntityConfig) (retain : Bool)
    (monitor : Monitor) (hconfigured : monitor.configured = false) (point : Monitor × Entity)
    (h : OnClient origin (Awaiting monitor) point) :
    (calm topics).Keeps Monitor.Heard (fun result => OnClient origin (Stepped Acked result))
      (Entity.asyncSetConfig P fuel config ⟨.atLeastOnce, retain⟩) point := by
  have hconfigTopic : ascii "homeassistant/" ++ point.2.entityName ++ ascii "/" ++ point.2.uniqueId ++ ascii "/config" =
      topics.config := by
    rw [h.name, h.id, htopic]
    rfl
  simp only [Entity.asyncSetConfig, Coro.bind_eq, Coro.pure_eq, Coro.label, Coro.state, Coro.bind]
  refine Surroundings.keeps_enter _ _ (Surroundings.keeps_get _ ?_)
  simp only [hconfigTopic]
  refine Surroundings.keeps_bind (keeps_entityPublish_awaiting P origin monitor topics.config _ retain point h)
    fun result later hlater => ?_
  obtain ⟨rfl, packetId, hsent⟩ := hlater
  simp only [ne_eq, reduceCtorEq, not_false_eq_true, if_true, Monitor.sent] at hsent ⊢
  refine Surroundings.keeps_bind (keeps_onClient origin _ later hsent fun hclient =>
    keeps_asyncReceive_awaiting P fuel _ _ hclient) fun result later hlater => ?_
  cases result with
  | error e => exact Surroundings.keeps_ret _ ⟨hlater.name, hlater.id, .failed _ hlater.client⟩
  | ok received =>
      obtain ⟨hflag, packet, hresult, hexpects, hlast⟩ := hlater.client
      -- only the PUBACK of the publish is expected
      cases packet with
      | connack _ _ => cases hresult
      | other _ => cases hresult
      | publish packet => exact hexpects.elim
      | suback suback => exact absurd (hconfigured.symm.trans hexpects.1) Bool.false_ne_true
      | puback acked =>
          cases hresult
          have hacked : later.1 = { monitor with configId := some packetId, configured := true } := by
            rw [hlast]
            exact if_pos hexpects.2
          have hawaiting := hsent.client
          have hdone : Acked (later.1, later.2.client) :=
            ⟨{ monitor with configId := some packetId, configured := true },
              ⟨hawaiting.heard, hflag, hacked, hawaiting.stage, hawaiting.configuring⟩, rfl⟩
          exact Surroundings.keeps_ret _ ⟨hlater.name, hlater.id, fun _ => hdone, fun hne => absurd rfl hne⟩

theorem keeps_subscribe (monitor : Monitor) (hconfigured : monitor.configured = true) (point : Monitor × Entity)
    (h : OnClient origin (Awaiting monitor) point) :
    (calm topics).Keeps Monitor.Heard (fun result => OnClient origin (Stepped Listening result))
      (Entity.asyncSubscribe P fuel [topics.command]) point := by
  simp only [Entity.asyncSubscribe, Coro.bind_eq, Coro.pure_eq, Coro.label, Coro.bind]
  refine Surroundings.keeps_enter _ _ ?_
  refine Surroundings.keeps_bind (keeps_onClient origin _ _ h fun hclient =>
    keeps_asyncSubscribe_awaiting P topics monitor [topics.command] _ hclient) fun result later hlater => ?_
  obtain ⟨packetId, rfl, hsubscribe⟩ := hlater.client
  have hsent : OnClient origin (Awaiting { monitor with subscribeId := some packetId }) later := by
    refine ⟨hlater.name, hlater.id, ?_⟩
    have hmem : topics.command ∈ List.map Prod.fst [(topics.command, defaultQos)] := List.mem_singleton.mpr rfl
    have hid : monitor.sent topics (.subscribe ⟨packetId, [(topics.command, defaultQos)]⟩) =
        { monitor with subscribeId := some packetId } := if_pos hmem
    rw [← hid]
    exact hsubscribe
  refine Surroundings.keeps_bind (keeps_onClient origin _ later hsent fun hclient =>
    keeps_asyncReceive_awaiting P fuel _ _ hclient) fun result later hlater => ?_
  cases result with
  | error e => exact Surroundings.keeps_ret _ ⟨hlater.name, hlater.id, .failed _ hlater.client⟩
  | ok received =>
      obtain ⟨hflag, packet, hresult, hexpects, hlast⟩ := hlater.client
      -- only the SUBACK of the subscription is expected
      cases packet with
      | connack _ _ => cases hresult
      | other _ => cases hresult
      | publish packet => exact hexpects.elim
      | puback acked => exact absurd (hexpects.1.symm.trans hconfigured) Bool.false_ne_true
      | suback suback =>
          cases hresult
          have hacked : later.1 = { monitor with subscribeId := some packetId, subscribed := true } := by
            rw [hlast]
            exact if_pos hexpects.2
          have hlistening : Listening (later.1, later.2.client) := by
            rw [hacked]
            exact ⟨hsent.client.heard, hflag, Or.inr ⟨hsent.client.stage, hconfigured, rfl⟩⟩
          simp only [hexpects.2.2, Bool.false_eq_true, if_false]
          exact Surroundings.keeps_ret _ ⟨hlater.name, hlater.id, fun _ => hlistening, fun hne => absurd rfl hne⟩

-- A configuration, whatever the class of the entity adds to it.
def configureWith (complete : Entity → Except Exn EntityConfig) (commandTopic : Entity → Except Exn Bytes)
    (pubopts : Pubopts) : EntityM Error := do
  .label (.entity .asyncConfigure)
  let entity ← .state
  let config ← .ofExcept (complete entity)
  if let some e ← Entity.asyncSetConfig P fuel config pubopts then
    return some e
  let commandTopic ← .ofExcept (commandTopic entity)
  if let some e ← Entity.asyncSubscribe P fuel [commandTopic] then
    return some e
  return none

theorem cover_asyncConfigure_eq (config : EntityConfig) (pubopts : Pubopts) :
    Cover.asyncConfigure P fuel config pubopts =
      configureWith P fuel (fun entity => Cover.completeConfig entity config)
        (fun entity => (Cover.topics entity).atKey CoverConfig.Property.switchCommandTopic) pubopts := rfl

theorem button_asyncConfigure_eq (config : EntityConfig) (pubopts : Pubopts) :
    Button.asyncConfigure P fuel config pubopts =
      configureWith P fuel (fun entity => Button.completeConfig entity config)
        (fun entity => (Button.topics entity).atKey ButtonConfig.Property.commandTopic) pubopts := rfl

-- A configuration on a new connection succeeds, or leaves no connection. It is
-- refused where the client does not hold itself for connected.
def Configured (sure : Bool) (result : Error) (later : Monitor × AsyncMqttClient) : Prop :=
  later.1.Heard ∧ (result = none → Listening later) ∧ (result ≠ none → sure = true → Gone true true later)

theorem Configured.failed {sure : Bool} {later : Monitor × AsyncMqttClient} (e : SystemError) (hheard : later.1.Heard)
    (hgone : sure = true → Gone true true later) : Configured sure (some e) later :=
  ⟨hheard, nofun, fun _ => hgone⟩

theorem keeps_configureWith (complete : Entity → Except Exn EntityConfig) (commandTopic : Entity → Except Exn Bytes)
    (retain : Bool) (htopic : topics.config = setConfigTopic origin)
    (hcommand : ∀ entity, entity.entityName = origin.entityName → entity.uniqueId = origin.uniqueId →
      commandTopic entity = .ok topics.command)
    (sure : Bool) (point : Monitor × Entity) (h : OnClient origin (Fresh sure) point) :
    (calm topics).Keeps Monitor.Heard (fun result => OnClient origin (Configured sure result))
      (configureWith P fuel complete commandTopic ⟨.atLeastOnce, retain⟩) point := by
  obtain ⟨monitor, entity⟩ := point
  simp only [configureWith, Coro.bind_eq, Coro.pure_eq, Coro.label, Coro.state, Coro.bind]
  refine Surroundings.keeps_enter _ _ (Surroundings.keeps_get _ ?_)
  refine Surroundings.keeps_ofExcept _ _ h.client.heard fun config _ => ?_
  by_cases hflag : entity.client.connected = true
  · have hawaiting : OnClient origin (Awaiting { monitor with configuring := true })
        ({ monitor with configuring := true }, entity) :=
      ⟨h.name, h.id, h.client.heard, hflag, rfl, h.client.stage, rfl, h.client.subscribed⟩
    refine Surroundings.keeps_bind (keeps_setConfig P fuel origin htopic config retain
      { monitor with configuring := true } h.client.configured _ hawaiting) fun result later hlater => ?_
    have hgone (e : SystemError) (later : Monitor × Entity) (hlater : OnClient origin (Gone true true) later) :
        OnClient origin (Configured sure (some e)) later :=
      ⟨hlater.name, hlater.id, .failed e hlater.client.heard fun _ => hlater.client⟩
    cases result with
    | some e =>
        exact Surroundings.keeps_ret _ (hgone e later ⟨hlater.name, hlater.id, hlater.client.2 (Option.some_ne_none e)⟩)
    | none =>
        obtain ⟨acked, hacked, hconfigured⟩ := hlater.client.1 rfl
        simp only [hcommand entity h.name h.id, ofExcept_ok, Coro.bind]
        refine Surroundings.keeps_bind (keeps_subscribe P fuel origin acked hconfigured later
          ⟨hlater.name, hlater.id, hacked⟩) fun result last hlast => ?_
        cases result with
        | some e =>
            exact Surroundings.keeps_ret _ (hgone e last ⟨hlast.name, hlast.id, hlast.client.2 (Option.some_ne_none e)⟩)
        | none =>
            have hlistening := hlast.client.1 rfl
            exact Surroundings.keeps_ret _ ⟨hlast.name, hlast.id, hlistening.heard, fun _ => hlistening,
              fun hne => absurd rfl hne⟩
  · -- the publish is refused, and nothing has been sent
    have hsure : sure = true → False := fun heq => hflag (h.client.flag heq)
    simp only [Entity.asyncSetConfig, Entity.asyncPublish, Mqtt.asyncPublish, Entity.onClient, Coro.bind_eq,
      Coro.pure_eq, Coro.label, Coro.state, Coro.bind, Coro.zoom, Bool.not_eq_true] at hflag ⊢
    refine Surroundings.keeps_enter _ _ (Surroundings.keeps_get _ (Surroundings.keeps_enter _ _ ?_))
    refine Surroundings.keeps_enter _ _ (Surroundings.keeps_get _ ?_)
    simp only [hflag, Bool.not_false, if_true, Coro.zoom, Coro.bind]
    exact Surroundings.keeps_ret _ ⟨h.name, h.id, .failed _ h.client.heard fun heq => (hsure heq).elim⟩

def coverTopics (entity : Entity) : Topics :=
  ⟨setConfigTopic entity, entity.topic CoverConfig.Default.switchCommandTopic⟩

def buttonTopics (entity : Entity) : Topics :=
  ⟨setConfigTopic entity, entity.topic ButtonConfig.Default.commandTopic⟩

theorem keeps_coverConfigure (config : EntityConfig) (retain : Bool) (sure : Bool) (point : Monitor × Entity)
    (h : OnClient origin (Fresh sure) point) :
    (calm (coverTopics origin)).Keeps Monitor.Heard (fun result => OnClient origin (Configured sure result))
      (Cover.asyncConfigure P fuel config ⟨.atLeastOnce, retain⟩) point := by
  rw [cover_asyncConfigure_eq]
  refine keeps_configureWith P fuel origin _ _ retain rfl (fun entity hname hid => ?_) sure point h
  have htopic : (Cover.topics entity).atKey CoverConfig.Property.switchCommandTopic =
      .ok (entity.topic CoverConfig.Default.switchCommandTopic) := rfl
  rw [htopic, SameNames.topic ⟨hname, hid⟩]
  rfl

theorem keeps_buttonConfigure (config : EntityConfig) (retain : Bool) (sure : Bool) (point : Monitor × Entity)
    (h : OnClient origin (Fresh sure) point) :
    (calm (buttonTopics origin)).Keeps Monitor.Heard (fun result => OnClient origin (Configured sure result))
      (Button.asyncConfigure P fuel config ⟨.atLeastOnce, retain⟩) point := by
  rw [button_asyncConfigure_eq]
  refine keeps_configureWith P fuel origin _ _ retain rfl (fun entity hname hid => ?_) sure point h
  have htopic : (Button.topics entity).atKey ButtonConfig.Property.commandTopic =
      .ok (entity.topic ButtonConfig.Default.commandTopic) := rfl
  rw [htopic, SameNames.topic ⟨hname, hid⟩]
  rfl

theorem entityReceived_unknownPacket {α : Type} (later : Monitor × AsyncMqttClient) (h : Listening later) :
    @EntityReceived α (.error (plainError .unknownPacket)) later :=
  ⟨nofun, fun _ => h, nofun⟩

theorem keeps_coverReceive (point : Monitor × Entity) (h : OnClient origin Listening point) :
    (calm topics).Keeps Monitor.Heard (fun result => OnClient origin (EntityReceived result))
      (Cover.asyncReceive P fuel) point := by
  simp only [Cover.asyncReceive, Coro.bind_eq, Coro.pure_eq, Coro.state, Coro.bind]
  refine Surroundings.keeps_bind (keeps_entityReceive P fuel origin point h) fun result later hlater => ?_
  cases result with
  | error e => exact Surroundings.keeps_ret _ hlater
  | ok packet =>
      have hlistening : Listening (later.1, later.2.client) := hlater.client
      refine Surroundings.keeps_get _ (Surroundings.keeps_ofExcept _ _ hlistening.heard fun command _ => ?_)
      cases command with
      | some command => exact Surroundings.keeps_ret _ ⟨hlater.name, hlater.id, hlistening⟩
      | none =>
          exact Surroundings.keeps_ret _ ⟨hlater.name, hlater.id, entityReceived_unknownPacket _ hlistening⟩

theorem keeps_buttonReceive (point : Monitor × Entity) (h : OnClient origin Listening point) :
    (calm topics).Keeps Monitor.Heard (fun result => OnClient origin (EntityReceived result))
      (Button.asyncReceive P fuel) point := by
  simp only [Button.asyncReceive, Coro.bind_eq, Coro.pure_eq]
  refine Surroundings.keeps_bind (keeps_entityReceive P fuel origin point h) fun result later hlater => ?_
  cases result with
  | error e => exact Surroundings.keeps_ret _ hlater
  | ok packet =>
      have hlistening : Listening (later.1, later.2.client) := hlater.client
      dsimp only
      split_ifs
      · exact Surroundings.keeps_ret _ ⟨hlater.name, hlater.id, hlistening⟩
      · exact Surroundings.keeps_ret _ ⟨hlater.name, hlater.id, entityReceived_unknownPacket _ hlistening⟩

end Configure

end HhctrlMgmt.Mqtt
