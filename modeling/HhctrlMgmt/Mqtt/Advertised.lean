import HhctrlMgmt.Mqtt.Healthy

namespace HhctrlMgmt.Mqtt

open Common Coroutine EntityConfig

section Cover

open CoverConfig

-- The keys that a cover sets, in their order.
def coverEdits (cover : Entity) : List Edit := [
  ⟨.override, Property.switchCommandTopic, .string (cover.topic Default.switchCommandTopic)⟩,
  ⟨.override, Property.stateTopic, .string (cover.topic Default.stateTopic)⟩,
  ⟨.override, Property.stateOpening, .string (ascii "opening")⟩,
  ⟨.override, Property.stateOpen, .string (ascii "open")⟩,
  ⟨.override, Property.stateClosing, .string (ascii "closing")⟩,
  ⟨.override, Property.stateClosed, .string (ascii "closed")⟩,
  ⟨.overrideIfNotNull, Property.payloadOpen, .string (ascii "open")⟩,
  ⟨.overrideIfNotNull, Property.payloadClose, .string (ascii "close")⟩,
  ⟨.overrideIfNotNull, Property.payloadStop, .string (ascii "stop")⟩,
  ⟨.override, GenericEntityConfig.availabilityTopic, .string (cover.topic GenericEntityConfig.availabilityTopic)⟩,
  ⟨.override, GenericEntityConfig.jsonAttributesTopic, .string (cover.topic GenericEntityConfig.jsonAttributesTopic)⟩,
  ⟨.set, GenericEntityConfig.jsonAttributesTemplate, .string (ascii "{{ value_json | tojson }}")⟩]

theorem cover_topics (cover : Entity) :
    (Cover.topics cover).atKey Property.switchCommandTopic = .ok (cover.topic Default.switchCommandTopic) ∧
      (Cover.topics cover).atKey Property.stateTopic = .ok (cover.topic Default.stateTopic) ∧
      (Cover.topics cover).atKey GenericEntityConfig.jsonAttributesTopic =
        .ok (cover.topic GenericEntityConfig.jsonAttributesTopic) := ⟨rfl, rfl, rfl⟩

theorem cover_completeConfig_eq (cover : Entity) (config : EntityConfig) :
    Cover.completeConfig cover config = .ok (edited (coverEdits cover) config) := by
  obtain ⟨hcommandTopic, hstateTopic, hattributesTopic⟩ := cover_topics cover
  have hopening : coverStateMapper.mapKey .opening = .ok (ascii "opening") := rfl
  have hopened : coverStateMapper.mapKey .open = .ok (ascii "open") := rfl
  have hclosing : coverStateMapper.mapKey .closing = .ok (ascii "closing") := rfl
  have hclosed : coverStateMapper.mapKey .closed = .ok (ascii "closed") := rfl
  have hopen : coverSwitchCommandMapper.mapKey .open = .ok (ascii "open") := rfl
  have hclose : coverSwitchCommandMapper.mapKey .close = .ok (ascii "close") := rfl
  have hstop : coverSwitchCommandMapper.mapKey .stop = .ok (ascii "stop") := rfl
  have hbind {α β : Type} (value : α) (next : α → Except Exn β) : (Except.ok value >>= next) = next value := rfl
  have hpure (config : EntityConfig) : (pure config : Except Exn EntityConfig) = .ok config := rfl
  unfold Cover.completeConfig coverEdits
  simp only [hcommandTopic, hstateTopic, hattributesTopic, hopening, hopened, hclosing, hclosed, hopen, hclose, hstop,
    hbind, hpure, edited_override, edited_overrideIfNotNull, edited_set, edited_nil]

-- The keys that a cover sets.
def discoveryKeys : List Bytes := [
  Property.switchCommandTopic, Property.stateTopic, Property.stateOpening, Property.stateOpen, Property.stateClosing,
  Property.stateClosed, Property.payloadOpen, Property.payloadClose, Property.payloadStop,
  GenericEntityConfig.availabilityTopic, GenericEntityConfig.jsonAttributesTopic,
  GenericEntityConfig.jsonAttributesTemplate, ascii "unique_id"]

-- The edits of async_configure and the one that async_set_config adds.
def discoveryEdits (cover : Entity) : List Edit :=
  coverEdits cover ++ [⟨.override, ascii "unique_id", .string cover.uniqueId⟩]

-- What async_configure publishes for a configuration.
def discovery (cover : Entity) (config : EntityConfig) : Object :=
  configObject cover (edited (coverEdits cover) config)

theorem discovery_eq (cover : Entity) (config : EntityConfig) :
    discovery cover config = (edited (discoveryEdits cover) config).object := by
  unfold discovery configObject discoveryEdits edited
  rw [List.foldl_append]
  rfl

theorem discoveryKeys_nodup (cover : Entity) : ((discoveryEdits cover).map Edit.key).Nodup := by
  have hkeys : (discoveryEdits cover).map Edit.key = discoveryKeys := rfl
  have hdistinct : discoveryKeys.Nodup := by decide
  rw [hkeys]
  exact hdistinct

def payloadKey : CoverSwitchCommand → Bytes
  | .open => Property.payloadOpen
  | .close => Property.payloadClose
  | .stop => Property.payloadStop

def stateKey : CoverState → Option Bytes
  | .undefined => none
  | .open => some Property.stateOpen
  | .opening => some Property.stateOpening
  | .closing => some Property.stateClosing
  | .closed => some Property.stateClosed

-- What the runs of an operation hand to the endpoint, and what they have handed over where
-- they end without an error.
def HandsOver (task : EntityM Error) (entity : Entity) (allowed : Outgoing → Prop) (complete : List Outgoing → Prop) :
    Prop :=
  ∀ config, Reach ((journal sig).world Entity) (settle _ task ([], entity)) config →
    Requests allowed config.point.1 ∧ (config.task = .ret none → complete (requests config.point.1))

-- On a connected client whose endpoint accepts what it is given, whichever packet ids that
-- assigns, the operation ends without an error and has handed it all over.
def Accomplishes (task : EntityM Error) (entity : Entity) (complete : List Outgoing → Prop) : Prop :=
  entity.client.connected = true → ∀ ids sent, ∃ packets, complete packets ∧
    Succeeds ids none packets (EntityLinked entity) task (sent, entity)

-- What a cover does with what it has advertised.
structure Honours (P : Platform) (cover : Entity) (given advertised : Object) (commandTopic stateTopic : Bytes) :
    Prop where
  commands : advertised.lookup Property.switchCommandTopic = some (.string commandTopic)
  accepts : ∀ packet, Cover.mapCommand (Cover.topics cover) packet = .ok none ↔ packet.topic ≠ commandTopic
  null : ∀ command, advertised.lookup (payloadKey command) = some .null ↔ given.lookup (payloadKey command) = some .null
  decodes : ∀ command, given.lookup (payloadKey command) ≠ some .null → ∃ payload,
    advertised.lookup (payloadKey command) = some (.string payload) ∧
    ∀ later log fuel packetId opts, SameNames cover later → later.client.connected = true →
      Reach ((journal sig).world Entity) (settle _ (Cover.asyncReceive P (fuel + 1)) (log, later))
        ⟨(log ++ completed .recv (.ok (.publish ⟨packetId, commandTopic, payload, opts⟩)), later),
          .ret (.ok (.switch command))⟩
  states : advertised.lookup Property.stateTopic = some (.string stateTopic)
  publishes : ∀ state key, stateKey state = some key → ∃ payload, advertised.lookup key = some (.string payload) ∧
    ∀ later pubopts, SameNames cover later →
      HandsOver (Cover.asyncSetState P state pubopts) later
        (fun packet => ∃ packetId, packet = publishing stateTopic payload pubopts packetId)
        (fun packets => ∃ packetId, packets = [publishing stateTopic payload pubopts packetId]) ∧
      (supportedQos pubopts.qos = true → Accomplishes (Cover.asyncSetState P state pubopts) later
        (fun packets => ∃ packetId, packets = [publishing stateTopic payload pubopts packetId]))
  uniqueId : advertised.lookup (ascii "unique_id") = some (.string cover.uniqueId)
  template : ∀ value, given.lookup GenericEntityConfig.jsonAttributesTemplate = some value →
    advertised.lookup GenericEntityConfig.jsonAttributesTemplate = some value
  others : ∀ key, key ∉ discoveryKeys → advertised.lookup key = given.lookup key

theorem handsOver_of_keeps {task : EntityM Error} {entity : Entity} {allowed : Outgoing → Prop}
    {complete : List Outgoing → Prop}
    (h : EntityHands allowed (fun result later => Requests allowed later.1 ∧
      (result = none → complete (requests later.1)))
      task ([], entity)) : HandsOver task entity allowed complete := by
  intro config hreach
  refine ⟨h.reach (fun _ _ hret => hret.1) hreach, fun htask => ?_⟩
  obtain ⟨point, last⟩ := config
  obtain rfl : last = .ret none := htask
  exact (h.reach_ret hreach).2 rfl

-- What async_configure hands over.
def DiscoveryPacket (cover : Entity) (payload commandTopic : Bytes) (pubopts : Pubopts) : Outgoing → Prop
  | .connect _ => True
  | .publish packet => packet.topic = setConfigTopic cover ∧ packet.payload = payload ∧ packet.opts = pubopts
  | .subscribe packet => packet.entries = [(commandTopic, defaultQos)]

section Operations

variable (P : Platform) (fuel : Nat) (cover : Entity) (config : EntityConfig) (pubopts : Pubopts)

theorem requests_receptions (packets : List Packet) : requests (receptions packets) = [] := by
  induction packets with
  | nil => rfl
  | cons packet packets ih => exact ih

theorem Acknowledged.requests {qos : Qos} {log : Diary} (h : Acknowledged qos log) : requests log = [] := by
  unfold Acknowledged at h
  split_ifs at h
  · rw [h]
    rfl
  · obtain ⟨skipped, acked, -, rfl⟩ := h
    exact requests_receptions _

theorem cover_configure_handsOver :
    HandsOver (Cover.asyncConfigure P fuel config pubopts) cover
      (DiscoveryPacket cover (P.serialize (discovery cover config)) (cover.topic Default.switchCommandTopic) pubopts)
      (fun packets => ∃ configId subscribeId,
        packets = [publishing (setConfigTopic cover) (P.serialize (discovery cover config)) pubopts configId,
          subscribing [cover.topic Default.switchCommandTopic] subscribeId]) := by
  apply handsOver_of_keeps
  rw [cover_asyncConfigure_eq]
  refine Surroundings.keeps_mono (entityHands_configureWith P fuel (fun _ => trivial) _ _ pubopts ([], cover)
    (edited (coverEdits cover) config) (cover.topic Default.switchCommandTopic) (cover_completeConfig_eq cover config)
    (cover_topics cover).1 (fun _ => ⟨rfl, rfl, rfl⟩) (fun _ => rfl) .nil) fun result later hlater => ?_
  refine ⟨hlater.1, fun hnone => ?_⟩
  obtain ⟨configured, ⟨hsame, -, configId, acquired, hacquired, acknowledgement, hack, hconfigured⟩, -, -, subscribeId,
    skipped, suback, -, -, hsubscribed⟩ := hlater.2 hnone
  refine ⟨configId, subscribeId, ?_⟩
  rw [hsubscribed, hconfigured]
  simp only [requests_append, hacquired.requests, hack.requests, requests_receptions]
  rfl

theorem mapCommand_eq (packet : PublishPacket) :
    Cover.mapCommand (Cover.topics cover) packet =
      if packet.topic = cover.topic Default.switchCommandTopic then
        (coverSwitchCommandMapper.mapValue packet.payload).bind fun command => .ok (some (.switch command))
      else .ok none := rfl

theorem mapCommand_ok_none_iff (packet : PublishPacket) :
    Cover.mapCommand (Cover.topics cover) packet = .ok none ↔
      packet.topic ≠ cover.topic Default.switchCommandTopic := by
  rw [mapCommand_eq]
  by_cases htopic : packet.topic = cover.topic Default.switchCommandTopic
  · rw [if_pos htopic]
    cases coverSwitchCommandMapper.mapValue packet.payload with
    | error thrown => simp [Except.bind, htopic]
    | ok command => simp [Except.bind, htopic]
  · rw [if_neg htopic]
    exact iff_of_true rfl htopic

-- A packet on the command topic whose payload names a command.
theorem cover_receive_reach (later : Entity) (log : Diary) (packet : PublishPacket) (command : CoverSwitchCommand)
    (hconnected : later.client.connected = true) (htopic : packet.topic = later.topic Default.switchCommandTopic)
    (hpayload : coverSwitchCommandMapper.mapValue packet.payload = .ok command) :
    Reach ((journal sig).world Entity) (settle _ (Cover.asyncReceive P (fuel + 1)) (log, later))
      ⟨(log ++ completed .recv (.ok (.publish packet)), later), .ret (.ok (.switch command))⟩ := by
  have hmap : Cover.mapCommand (Cover.topics later) packet = .ok (some (.switch command)) := by
    rw [mapCommand_eq, if_pos htopic, hpayload]
    rfl
  simp only [Cover.asyncReceive, Entity.asyncReceive, Entity.asyncReceiveLoop, Entity.onClient, Mqtt.asyncReceive,
    asyncReceiveLoop, epRecv, Coro.label, Coro.state, Coro.bind_eq, Coro.pure_eq, Coro.bind, Coro.zoom, settle,
    hconnected, Bool.not_true, Bool.false_eq_true, if_false]
  refine Reach.await (S := sig) (Except.ok (Packet.publish packet)) trivial ?_
  simp only [Packet.receiveResult, Coro.bind, Coro.zoom, settle, hmap, ofExcept_ok]
  simp [exchange]

-- What async_set_state hands over.
theorem cover_setState_handsOver (later : Entity) (state : CoverState) (payload : Bytes)
    (hstate : coverStateMapper.mapKey state = .ok payload) :
    HandsOver (Cover.asyncSetState P state pubopts) later
      (fun packet => ∃ packetId, packet = publishing (later.topic Default.stateTopic) payload pubopts packetId)
      (fun packets => ∃ packetId,
        packets = [publishing (later.topic Default.stateTopic) payload pubopts packetId]) := by
  have hdefined : state ≠ .undefined := by
    rintro rfl
    simp [coverStateMapper, Mapper.mapKey, Mapper.automap] at hstate
  apply handsOver_of_keeps
  simp only [Cover.asyncSetState, Coro.bind_eq, Coro.pure_eq, Coro.label, Coro.state, Coro.bind, hdefined, if_false,
    (cover_topics _).2.1, hstate, ofExcept_ok]
  refine Surroundings.keeps_enter _ _ (Surroundings.keeps_get _ ?_)
  refine Surroundings.keeps_mono (entityHands_publish P _ payload pubopts (fun packetId => ⟨packetId, rfl⟩) ([], later)
    .nil) fun result last hlast => ⟨hlast.1, fun hnone => ?_⟩
  obtain ⟨-, -, outcome, hends, hresult⟩ := hlast
  obtain ⟨packetId, rfl⟩ := hresult.mp hnone
  obtain ⟨-, acquired, hacquired, hlog⟩ := hends.ok
  refine ⟨packetId, ?_⟩
  have hrequests : requests last.1 = requests ([] ++ acquired ++ completed (.send (publishing
      (later.topic Default.stateTopic) payload pubopts packetId)) none) := congrArg requests hlog
  rw [hrequests, requests_append, requests_append, hacquired.requests]
  rfl

theorem entityLinked_self {entity : Entity} (h : entity.client.connected = true) : EntityLinked entity entity :=
  ⟨⟨rfl, rfl⟩, ⟨rfl, rfl⟩, h⟩

variable {pubopts} in
theorem cover_configure_accomplishes (hqos : supportedQos pubopts.qos = true) :
    Accomplishes (Cover.asyncConfigure P (fuel + 1) config pubopts) cover
      (fun packets => ∃ configId subscribeId,
        packets = [publishing (setConfigTopic cover) (P.serialize (discovery cover config)) pubopts configId,
          subscribing [cover.topic Default.switchCommandTopic] subscribeId]) := by
  intro hconnected ids sent
  let published := configPublishing P ids cover (edited (coverEdits cover) config) pubopts sent
  refine ⟨[published, subscribing [cover.topic Default.switchCommandTopic] (ids (sent ++ [published]))],
    ⟨_, _, rfl⟩, ?_⟩
  rw [cover_asyncConfigure_eq]
  exact succeeds_configureWith P ids fuel (entityLinked_self hconnected) hqos (cover_completeConfig_eq cover config)
    (cover_topics cover).1

variable {pubopts} in
theorem cover_setState_accomplishes (later : Entity) {state : CoverState} {payload : Bytes}
    (hstate : coverStateMapper.mapKey state = .ok payload) (hqos : supportedQos pubopts.qos = true) :
    Accomplishes (Cover.asyncSetState P state pubopts) later
      (fun packets => ∃ packetId,
        packets = [publishing (later.topic Default.stateTopic) payload pubopts packetId]) := by
  intro hconnected ids sent
  have hpublish := succeeds_entityPublish P ids sent (entityLinked_self hconnected) (later.topic Default.stateTopic)
    payload hqos
  refine ⟨[publishing (later.topic Default.stateTopic) payload pubopts (publishId ids pubopts.qos sent)],
    ⟨_, rfl⟩, ?_⟩
  cases state with
  | undefined => cases hstate
  | «open» | opening | closing | closed =>
      obtain rfl := Except.ok.inj hstate
      exact succeeds_label_bind (succeeds_state_bind hpublish)

end Operations

section Lookups

variable (cover : Entity) (config : EntityConfig)

theorem lookup_discovery (edit : Edit) (hedit : edit ∈ discoveryEdits cover) :
    (discovery cover config).lookup edit.key = some (edit.result (config.object.lookup edit.key)) := by
  rw [discovery_eq]
  exact lookup_edited config _ (discoveryKeys_nodup cover) edit hedit

theorem lookup_discovery_ne (key : Bytes) (hkey : key ∉ discoveryKeys) :
    (discovery cover config).lookup key = config.object.lookup key := by
  rw [discovery_eq]
  exact lookup_edited_ne config _ key hkey

-- The payload of a command: null stays null, and anything else becomes the name of the command.
theorem lookup_payload (command : CoverSwitchCommand) : ∃ payload,
    coverSwitchCommandMapper.mapKey command = .ok payload ∧
    (discovery cover config).lookup (payloadKey command) =
      some (if (config.object.lookup (payloadKey command)).any Json.isNull then .null else .string payload) := by
  cases command with
  | «open» =>
      exact ⟨ascii "open", rfl, lookup_discovery cover config
        ⟨.overrideIfNotNull, Property.payloadOpen, .string (ascii "open")⟩ (List.mem_of_getElem? (i := 6) rfl)⟩
  | close =>
      exact ⟨ascii "close", rfl, lookup_discovery cover config
        ⟨.overrideIfNotNull, Property.payloadClose, .string (ascii "close")⟩ (List.mem_of_getElem? (i := 7) rfl)⟩
  | stop =>
      exact ⟨ascii "stop", rfl, lookup_discovery cover config
        ⟨.overrideIfNotNull, Property.payloadStop, .string (ascii "stop")⟩ (List.mem_of_getElem? (i := 8) rfl)⟩

theorem lookup_state (state : CoverState) (key : Bytes) (hkey : stateKey state = some key) : ∃ payload,
    coverStateMapper.mapKey state = .ok payload ∧ (discovery cover config).lookup key = some (.string payload) := by
  cases state with
  | undefined => exact absurd hkey.symm (Option.some_ne_none key)
  | opening =>
      obtain rfl : Property.stateOpening = key := Option.some.inj hkey
      exact ⟨ascii "opening", rfl, lookup_discovery cover config
        ⟨.override, Property.stateOpening, .string (ascii "opening")⟩ (List.mem_of_getElem? (i := 2) rfl)⟩
  | «open» =>
      obtain rfl : Property.stateOpen = key := Option.some.inj hkey
      exact ⟨ascii "open", rfl, lookup_discovery cover config
        ⟨.override, Property.stateOpen, .string (ascii "open")⟩ (List.mem_of_getElem? (i := 3) rfl)⟩
  | closing =>
      obtain rfl : Property.stateClosing = key := Option.some.inj hkey
      exact ⟨ascii "closing", rfl, lookup_discovery cover config
        ⟨.override, Property.stateClosing, .string (ascii "closing")⟩ (List.mem_of_getElem? (i := 4) rfl)⟩
  | closed =>
      obtain rfl : Property.stateClosed = key := Option.some.inj hkey
      exact ⟨ascii "closed", rfl, lookup_discovery cover config
        ⟨.override, Property.stateClosed, .string (ascii "closed")⟩ (List.mem_of_getElem? (i := 5) rfl)⟩

theorem any_isNull_iff (given : Option Json) : given.any Json.isNull = true ↔ given = some .null := by
  cases given with
  | none => simp
  | some value => cases value <;> simp [Json.isNull]

theorem honours_discovery (P : Platform) :
    Honours P cover config.object (discovery cover config) (cover.topic Default.switchCommandTopic)
      (cover.topic Default.stateTopic) where
  commands := lookup_discovery cover config ⟨.override, Property.switchCommandTopic, _⟩
    (List.mem_of_getElem? (i := 0) rfl)
  accepts := mapCommand_ok_none_iff cover
  null command := by
    obtain ⟨payload, -, hlookup⟩ := lookup_payload cover config command
    rw [hlookup, ← any_isNull_iff (config.object.lookup _)]
    by_cases hnull : (config.object.lookup (payloadKey command)).any Json.isNull = true <;> simp [hnull]
  decodes command hgiven := by
    obtain ⟨payload, hkey, hlookup⟩ := lookup_payload cover config command
    rw [if_neg ((any_isNull_iff _).not.mpr hgiven)] at hlookup
    have hvalue : coverSwitchCommandMapper.mapValue payload = .ok command :=
      (Mapper.mapValue_ok_iff _ (by decide) (by decide) command payload).mpr hkey
    refine ⟨payload, hlookup, fun later log fuel packetId opts hnames hconnected => ?_⟩
    exact cover_receive_reach P fuel later log _ command hconnected (hnames.topic _).symm hvalue
  states := lookup_discovery cover config ⟨.override, Property.stateTopic, _⟩ (List.mem_of_getElem? (i := 1) rfl)
  publishes state key hstate := by
    obtain ⟨payload, hkey, hlookup⟩ := lookup_state cover config state key hstate
    refine ⟨payload, hlookup, fun later pubopts hnames => ?_⟩
    rw [← hnames.topic]
    exact ⟨cover_setState_handsOver P pubopts later state payload hkey, cover_setState_accomplishes P later hkey⟩
  uniqueId := lookup_discovery cover config ⟨.override, ascii "unique_id", _⟩ (List.mem_of_getElem? (i := 12) rfl)
  template value hgiven := by
    have hlookup := lookup_discovery cover config ⟨.set, GenericEntityConfig.jsonAttributesTemplate, _⟩
      (List.mem_of_getElem? (i := 11) rfl)
    rw [hlookup, hgiven]
    rfl
  others := lookup_discovery_ne cover config

end Lookups

-- What a cover publishes to the discovery topic is what it does afterwards.
theorem cover_does_what_it_advertises (P : Platform) (fuel : Nat) (cover : Entity) (config : EntityConfig)
    (pubopts : Pubopts) : ∃ advertised commandTopic stateTopic,
    HandsOver (Cover.asyncConfigure P fuel config pubopts) cover
      (DiscoveryPacket cover (P.serialize advertised) commandTopic pubopts)
      (fun packets => ∃ configId subscribeId, packets = [
        publishing (setConfigTopic cover) (P.serialize advertised) pubopts configId,
        subscribing [commandTopic] subscribeId]) ∧
    (supportedQos pubopts.qos = true → Accomplishes (Cover.asyncConfigure P (fuel + 1) config pubopts) cover
      (fun packets => ∃ configId subscribeId, packets = [
        publishing (setConfigTopic cover) (P.serialize advertised) pubopts configId,
        subscribing [commandTopic] subscribeId])) ∧
    Honours P cover config.object advertised commandTopic stateTopic :=
  ⟨discovery cover config, _, _, cover_configure_handsOver P fuel cover config pubopts,
    cover_configure_accomplishes P fuel cover config, honours_discovery cover config P⟩

end Cover

end HhctrlMgmt.Mqtt
