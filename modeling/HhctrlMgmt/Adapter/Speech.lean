import HhctrlMgmt.Adapter.Online
import HhctrlMgmt.Mqtt.Speech

namespace HhctrlMgmt.Adapter

open Common Coroutine Mqtt

section Kind

variable (P : Platform) (fuel : Nat) {origin : Entity} {allowed : Outgoing → Prop}
  (hconnect : allowed (.connect (connectPacket origin.client)))

include hconnect in
theorem says_configureWith {complete : Entity → Except Exn EntityConfig} {commandTopic : Entity → Except Exn Bytes}
    {topic : Bytes} {pubopts : Pubopts}
    (hcomplete : ∀ entity, SameNames origin entity → complete entity = complete origin)
    (htopic : ∀ entity, SameNames origin entity → commandTopic entity = .ok topic)
    (hconfig : ∀ config packetId, complete origin = .ok config →
      allowed (publishing (setConfigTopic origin) (P.serialize (configObject origin config)) pubopts packetId))
    (hsubscribe : ∀ packetId, allowed (subscribing [topic] packetId)) :
    EntitySays origin allowed (configureWith P fuel complete commandTopic pubopts) := by
  refine asks_state_bind fun entity hentity => ?_
  rw [hcomplete entity hentity.names]
  refine asks_ofExcept_bind _ _ fun config hvalue => ?_
  refine asks_bind (says_setConfig P fuel hconnect fun packetId => hconfig config packetId hvalue) fun result => ?_
  cases result with
  | some e => exact asks_ret _
  | none =>
      refine asks_ofExcept_bind _ _ fun value hvalue => ?_
      obtain rfl : topic = value := Except.ok.inj ((htopic entity hentity.names).symm.trans hvalue)
      refine asks_bind (says_entitySubscribe P fuel hconnect hsubscribe) fun result => ?_
      cases result with
      | some e => exact asks_ret _
      | none => exact asks_ret _

include hconnect in
theorem says_kindConfigure (kind : EntityKind) {config : EntityConfig} {pubopts : Pubopts}
    (hconfig : ∀ complete packetId, kind.completeConfig origin config = .ok complete →
      allowed (publishing (setConfigTopic origin) (P.serialize (configObject origin complete)) pubopts packetId))
    (hsubscribe : ∀ topic packetId, kind.commandTopic = some topic →
      allowed (subscribing [origin.topic topic] packetId)) :
    EntitySays origin allowed (kind.asyncConfigure P fuel config pubopts) := by
  have hcomplete (entity : Entity) (hentity : SameNames origin entity) :
      kind.completeConfig entity config = kind.completeConfig origin config :=
    completeConfig_congr kind hentity config
  have hstate : EntitySays origin allowed (do
      let entity ← .state
      let config ← .ofExcept (kind.completeConfig entity config)
      Entity.asyncSetConfig P fuel config pubopts) := by
    refine asks_state_bind fun entity hentity => ?_
    rw [hcomplete entity hentity.names]
    exact asks_ofExcept_bind _ _ fun complete hvalue =>
      says_setConfig P fuel hconnect fun packetId => hconfig complete packetId hvalue
  cases kind with
  | cover =>
      exact says_configureWith P fuel hconnect hcomplete
        (fun entity hentity => congrArg Except.ok (hentity.topic CoverConfig.Default.switchCommandTopic)) hconfig
        fun packetId => hsubscribe _ packetId rfl
  | button =>
      exact says_configureWith P fuel hconnect hcomplete
        (fun entity hentity => congrArg Except.ok (hentity.topic ButtonConfig.Default.commandTopic)) hconfig
        fun packetId => hsubscribe _ packetId rfl
  | binarySensor => exact hstate
  | sensor => exact hstate

theorem says_publishState (kind : EntityKind) {state : kind.State} {payload : Except Exn Bytes} {pubopts : Pubopts}
    (hpayload : kind.statePayload state = payload.toOption)
    (hpacket : ∀ payload packetId, kind.statePayload state = some payload →
      allowed (publishing (origin.topic EntityKind.stateTopic) payload pubopts packetId))
    {entity : Entity} (hentity : SameOrigin origin entity) :
    EntitySays origin allowed ((Coro.ofExcept payload).bind fun payload =>
      Entity.asyncPublish P (entity.topic EntityKind.stateTopic) payload pubopts) := by
  refine asks_ofExcept_bind _ _ fun value hvalue => ?_
  have htopic := hentity.names.topic EntityKind.stateTopic
  have hstate : kind.statePayload state = some value := by
    rw [hpayload, hvalue]
    rfl
  exact says_entityPublish P fun packetId => htopic ▸ hpacket value packetId hstate

theorem says_kindSetState (kind : EntityKind) {state : kind.State} {pubopts : Pubopts}
    (hpacket : ∀ payload packetId, kind.statePayload state = some payload →
      allowed (publishing (origin.topic EntityKind.stateTopic) payload pubopts packetId)) :
    EntitySays origin allowed (kind.asyncSetState P state pubopts) := by
  cases kind with
  | cover =>
      by_cases hundefined : state = .undefined
      · simp only [EntityKind.asyncSetState, Cover.asyncSetState, if_pos hundefined]
        exact asks_label_bind trivial
      · have hpayload : EntityKind.cover.statePayload state = (coverStateMapper.mapKey state).toOption :=
          if_neg hundefined
        simp only [EntityKind.asyncSetState, Cover.asyncSetState, if_neg hundefined]
        refine asks_state_bind fun entity hentity => ?_
        rw [(cover_topics entity).2.1]
        exact says_publishState P .cover hpayload hpacket hentity
  | button => exact state.elim
  | binarySensor => exact asks_state_bind fun entity hentity => says_publishState P .binarySensor rfl hpacket hentity
  | sensor =>
      have hpayload : EntityKind.sensor.statePayload state = (Except.ok state : Except Exn Bytes).toOption := rfl
      exact asks_state_bind fun entity hentity => says_publishState P .sensor hpayload hpacket hentity

end Kind

section Adapter

variable {δ : Type} (P : Platform) (fuel : Nat) {kind : EntityKind} (impl : Impl kind.Command kind.State δ)
  (origin : Entity)

-- What the adapter of an entity hands to the endpoint.
inductive Speaks : Outgoing → Prop
  | connect : Speaks (.connect (connectPacket origin.client))
  | config (device : δ) (complete : EntityConfig) (packetId : PacketId)
      (hcomplete : kind.completeConfig origin (impl.config device) = .ok complete) :
      Speaks (configPublish P origin complete packetId)
  | subscribe (topic : Bytes) (packetId : PacketId) (hkind : kind.commandTopic = some topic) :
      Speaks (subscribing [origin.topic topic] packetId)
  | online (packetId : PacketId) : Speaks (onlinePublish origin packetId)
  | state (read : δ → Except Exn kind.State) (device : δ) (value : kind.State) (payload : Bytes) (packetId : PacketId)
      (hread : impl.state = some read) (hvalue : read device = .ok value)
      (hpayload : kind.statePayload value = some payload) :
      Speaks (publishing (origin.topic EntityKind.stateTopic) payload adapterDefaultPubopts packetId)

abbrev AdapterSays {α : Type} (task : Async (Entity × δ) α) : Prop :=
  Asks (fun adapter => SameOrigin origin adapter.1) (Query.Hands (Speaks P impl origin)) task

variable {impl origin}

theorem says_onEntity {α : Type} {task : EntityM α} (h : EntitySays origin (Speaks P impl origin) task) :
    AdapterSays P impl origin (onEntity task) :=
  @asks_zoom sig Entity (Entity × δ) α (SameOrigin origin) _ Prod.fst (fun entity adapter => (entity, adapter.2))
    (fun adapter => SameOrigin origin adapter.1) (fun _ hadapter => hadapter) (fun _ _ hentity _ => hentity) task h

theorem says_wait (seconds : Int) : AdapterSays P impl origin (asyncWait P seconds) := by
  refine ⟨trivial, fun answer => ?_⟩
  cases answer with
  | none => exact asks_ret _
  | some code => exact asks_throw _

variable (kind) in
theorem says_adapterSyncState :
    AdapterSays P impl origin (EntityAdapter.asyncSyncState (commandOperations P impl fuel
      (kind.asyncConfigure P fuel) (kind.asyncSetState P) .spin)) := by
  cases hread : impl.state with
  | none =>
      simp only [EntityAdapter.asyncSyncState, commandOperations, hread, Option.map_none]
      exact asks_ret _
  | some read =>
      simp only [EntityAdapter.asyncSyncState, commandOperations, hread, Option.map_some, Coro.bind_eq, Coro.bind]
      refine fun adapter _ => asks_ofExcept_bind _ _ fun value hvalue => ?_
      refine asks_bind (says_onEntity P (says_kindSetState P kind fun payload packetId hpayload => ?_)) fun _ => asks_ret _
      exact .state read adapter.2 value payload packetId hread hvalue hpayload

theorem says_adapterConfigure :
    AdapterSays P impl origin (EntityAdapter.asyncConfigure (commandOperations P impl fuel
      (kind.asyncConfigure P fuel) (kind.asyncSetState P) .spin)) := by
  refine asks_read_bind fun adapter _ => asks_bind (says_onEntity P (says_kindConfigure P fuel .connect kind
    (fun complete packetId hcomplete => .config adapter.2 complete packetId hcomplete)
    fun topic packetId hkind => .subscribe topic packetId hkind)) fun failure => ?_
  cases failure with
  | some e => exact asks_ret _
  | none =>
      have honline : AdapterSays P impl origin
          (onEntity (Entity.asyncSetAvailability P .online adapterDefaultPubopts)) :=
        says_onEntity P (says_setAvailability P rfl fun packetId => .online packetId)
      refine asks_bind (says_wait P 1) fun _ => asks_bind honline fun _ => ?_
      exact asks_bind (says_adapterSyncState P fuel kind) fun _ => asks_ret _

theorem asks_composes {S : Sig} {σ : Type} {I : σ → Prop} {allowed : S.Query → Prop} :
    EntityAdapter.Composes fun α (task : Coro S σ α) => Asks I allowed task where
  ret _ := asks_ret
  spin _ := asks_spin
  bind _ _ _ _ := asks_bind

theorem says_adapterConnect : AdapterSays P impl origin (onEntity (Entity.asyncConnect P fuel)) :=
  says_onEntity P (says_entityConnect P fuel .connect)

theorem says_adapterInit : AdapterSays P impl origin (EntityAdapter.asyncInit (kind.operations P fuel impl)) := by
  rw [kind.asyncInit_eq P fuel impl]
  have hretry : AdapterSays P impl origin (EntityAdapter.connectRetry (commandOperations P impl fuel
      (kind.asyncConfigure P fuel) (kind.asyncSetState P) .spin) initRetryAttempts none) :=
    EntityAdapter.composed_connectRetry asks_composes (says_adapterConnect P fuel) (says_wait P _) _ _
  refine asks_bind hretry fun failure => ?_
  cases failure with
  | some e => exact asks_ret _
  | none => exact says_adapterConfigure P fuel

theorem says_commandReceive {asyncReceive : EntityM (Expected kind.Command)}
    (h : EntitySays origin (Speaks P impl origin) asyncReceive) :
    AdapterSays P impl origin (do
      let value ← onEntity asyncReceive
      return value.mapError some) :=
  asks_bind (says_onEntity P h) fun _ => asks_ret _

theorem says_stateReceive {asyncReceive : EntityM Error} (h : EntitySays origin (Speaks P impl origin) asyncReceive) :
    AdapterSays P impl origin (do
      let error ← onEntity asyncReceive
      return (.error error : Except Error kind.Command)) :=
  asks_bind (says_onEntity P h) fun _ => asks_ret _

theorem says_adapterReceive : AdapterSays P impl origin (kind.operations P fuel impl).asyncReceive := by
  have hreceive : EntitySays origin (Speaks P impl origin) (Entity.asyncReceive P fuel) :=
    says_entityReceive P fuel .connect
  cases kind with
  | cover =>
      refine says_commandReceive P (asks_bind hreceive fun received => ?_)
      cases received with
      | error e => exact asks_ret _
      | ok packet =>
          refine asks_state_bind fun entity _ => asks_ofExcept_bind _ _ fun command _ => ?_
          cases command with
          | some command => exact asks_ret _
          | none => exact asks_ret _
  | button =>
      refine says_commandReceive P (asks_bind hreceive fun received => ?_)
      cases received with
      | error e => exact asks_ret _
      | ok packet =>
          dsimp only
          split_ifs
          · exact asks_ret _
          · exact asks_ret _
  | binarySensor =>
      refine says_stateReceive P (asks_bind hreceive fun received => ?_)
      cases received with
      | error e => exact asks_ret _
      | ok packet => exact asks_ret _
  | sensor =>
      refine says_stateReceive P (asks_bind hreceive fun received => ?_)
      cases received with
      | error e => exact asks_ret _
      | ok packet => exact asks_ret _

theorem says_handleRecvValue (command : kind.Command) :
    AdapterSays P impl origin ((kind.operations P fuel impl).asyncHandleRecvValue command) := by
  have hhandle : AdapterSays P impl origin (.get fun adapter => do
      let device ← .ofExcept (impl.handleRecvValue command adapter.2)
      .modify fun adapter => (adapter.1, device)) :=
    fun adapter _ => asks_ofExcept_bind _ _ fun device _ => asks_modify fun _ hadapter => hadapter
  cases kind with
  | cover | button | binarySensor | sensor => exact hhandle

theorem says_adapterRun (rounds : Nat) :
    AdapterSays P impl origin (EntityAdapter.asyncRun (kind.operations P fuel impl) rounds) := by
  have hconnect : AdapterSays P impl origin (kind.operations P fuel impl).asyncConnect := by
    cases kind with
    | cover | button | binarySensor | sensor => exact says_adapterConnect P fuel
  have hconfigure : AdapterSays P impl origin (EntityAdapter.asyncConfigure (kind.operations P fuel impl)) := by
    rw [kind.asyncConfigure_eq P fuel impl]
    exact says_adapterConfigure P fuel
  exact EntityAdapter.composed_runLoop asks_composes (says_adapterReceive P fuel) (says_handleRecvValue P fuel)
    (EntityAdapter.composed_handleError asks_composes hconnect hconfigure) rounds

theorem says_syncState : AdapterSays P impl origin (EntityAdapter.asyncSyncState (kind.operations P fuel impl)) := by
  cases kind with
  | cover => exact says_adapterSyncState P fuel .cover
  | button =>
      have hnone : EntityAdapter.asyncSyncState (EntityKind.button.operations P fuel impl) =
          EntityAdapter.asyncSyncState (commandOperations P impl fuel (EntityKind.button.asyncConfigure P fuel)
            (EntityKind.button.asyncSetState P) .spin) :=
        congrArg (fun setState => EntityAdapter.asyncSyncState
          (commandOperations P impl fuel (Button.asyncConfigure P fuel) setState .spin)) (EntityKind.setState_unique _ _)
      rw [hnone]
      exact says_adapterSyncState P fuel .button
  | binarySensor => exact says_adapterSyncState P fuel .binarySensor
  | sensor => exact says_adapterSyncState P fuel .sensor

end Adapter
end HhctrlMgmt.Adapter
