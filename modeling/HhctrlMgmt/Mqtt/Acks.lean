import HhctrlMgmt.Coroutine.Pool
import HhctrlMgmt.Mqtt.Cover

namespace HhctrlMgmt.Mqtt

open Coroutine

-- What has passed over a healthy connection: the packets that were sent and
-- those that the client has received, in their order.
structure Net where
  sent : List Outgoing
  received : List Packet

-- The answers of a healthy connection. Any packet may be received next.
def Healthy : (query : Query) → Answer query → Prop
  | .send _, answer => answer = (none : Option SystemError)
  | .recv, answer => ∃ packet : Packet, answer = (.ok packet : Except SystemError Packet)
  | .acquireUniquePacketId, answer => ∃ packetId : PacketId, answer = some packetId
  | _, _ => True

abbrev netWorld : World sig Entity where
  State := Net
  enter net _ := net
  issue net _ := net
  allows _ _ query answer := Healthy query answer
  answer net query answer :=
    match query, answer with
    | .send packet, _ => { net with sent := net.sent ++ [packet] }
    | .recv, .ok packet => { net with received := net.received ++ [packet] }
    | _, _ => net

abbrev NetPoint := Net × Entity

-- The topic that async_set_config publishes on.
def configTopic (entity : Entity) : Bytes :=
  ascii "homeassistant/" ++ entity.entityName ++ ascii "/" ++ entity.uniqueId ++ ascii "/config"

-- The packet ids of the config publishes and of the subscribe requests.
def configIds (topic : Bytes) (sent : List Outgoing) : List PacketId :=
  sent.filterMap fun
    | .publish packet => if packet.topic = topic then some packet.packetId else none
    | _ => none

def subscribeIds (sent : List Outgoing) : List PacketId :=
  sent.filterMap fun
    | .subscribe packet => some packet.packetId
    | _ => none

-- The packets that AsyncMqttClient::async_receive has returned.
def reported (received : List Packet) : List ReceiveResult :=
  received.filterMap Packet.receiveResult

section Assertions

-- What has been sent for the configuration and what has been received for it.
structure Observed (origin : Entity) (configs subscribes : List PacketId) (results : List ReceiveResult)
    (point : NetPoint) : Prop where
  same : SameEntity origin point.2
  configs : configIds (configTopic origin) point.1.sent = configs
  subscribes : subscribeIds point.1.sent = subscribes
  results : reported point.1.received = results

-- A change that the configuration of `origin` does not notice.
def Unnoticed (origin : Entity) (before after : NetPoint) : Prop :=
  SameEntity before.2 after.2 ∧
    configIds (configTopic origin) after.1.sent = configIds (configTopic origin) before.1.sent ∧
    subscribeIds after.1.sent = subscribeIds before.1.sent ∧ after.1.received = before.1.received

theorem Unnoticed.refl (origin : Entity) (point : NetPoint) : Unnoticed origin point point :=
  ⟨.refl _, rfl, rfl, rfl⟩

theorem Unnoticed.trans {origin : Entity} {first second third : NetPoint} (h : Unnoticed origin first second)
    (h' : Unnoticed origin second third) : Unnoticed origin first third :=
  ⟨h.1.trans h'.1, h'.2.1.trans h.2.1, h'.2.2.1.trans h.2.2.1, h'.2.2.2.trans h.2.2.2⟩

theorem Observed.later {origin : Entity} {configs subscribes : List PacketId} {results : List ReceiveResult}
    {before after : NetPoint} (h : Observed origin configs subscribes results before)
    (hlater : Unnoticed origin before after) : Observed origin configs subscribes results after :=
  ⟨h.same.trans hlater.1, hlater.2.1.trans h.configs, hlater.2.2.1.trans h.subscribes,
    (congrArg reported hlater.2.2.2).trans h.results⟩

end Assertions

-- What may have been received for a configuration that goes on.
def Pending (results : List ReceiveResult) : Prop :=
  results = [] ∨ ∃ acked, results = [.puback acked]

-- The contract of async_configure, which only others' publishing interrupts.
def configureContract (origin : Entity) : Contract netWorld where
  rely := Unnoticed origin
  guar before after := SameEntity before.2 after.2 ∧ Pending (reported after.1.received)

-- The contract of a coroutine that publishes states.
def publishContract (origin : Entity) : Contract netWorld where
  rely before after := SameEntity before.2 after.2
  guar := Unnoticed origin

section Configure

variable {α : Type} (P : Platform) (fuel : Nat) (origin : Entity) (Q : Post netWorld α)

-- The coroutine goes on from every point where these packets have passed.
def Goes (task : EntityM α) (configs subscribes : List PacketId) (results : List ReceiveResult) : Prop :=
  ∀ start point, Observed origin configs subscribes results point → SameEntity start.2 point.2 →
    wp (configureContract origin) Q task start point

theorem goes_receiveLoop (tryReconnect : ClientM Bool) (rounds : Nat)
    (hspin : ∀ start point : NetPoint, SameEntity start.2 point.2 → Q.spin start point)
    (f : Expected ReceiveResult → EntityM α) (configs subscribes : List PacketId) (results : List ReceiveResult)
    (hpending : Pending results)
    (hnext : ∀ result, Goes origin Q (f (.ok result)) configs subscribes (results ++ [result])) :
    Goes origin Q ((Entity.onClient (asyncReceiveLoop P tryReconnect rounds)).bind f) configs subscribes results := by
  intro start point h hstart
  induction rounds generalizing start point with
  | zero => exact hspin start point hstart
  | succ rounds ih =>
      simp only [asyncReceiveLoop, epRecv, Coro.bind_eq, Coro.bind, Entity.onClient, Coro.zoom]
      refine ⟨⟨hstart, h.results ▸ hpending⟩, fun later hrely answer hallow => ?_⟩
      obtain ⟨packet, rfl⟩ := hallow
      obtain ⟨hsame, hconfigs, hsubscribes, hresults⟩ := h.later hrely
      cases hresult : packet.receiveResult with
      | some result =>
          simp only [hresult]
          refine hnext result _ _ ⟨hsame, hconfigs, hsubscribes, ?_⟩ (.refl _)
          simpa [reported, hresult] using hresults
      | none =>
          simp only [hresult]
          refine ih _ _ ⟨hsame, hconfigs, hsubscribes, ?_⟩ (.refl _)
          simpa [reported, hresult] using hresults

theorem goes_receive (hspin : ∀ start point : NetPoint, SameEntity start.2 point.2 → Q.spin start point)
    (f : Expected ReceiveResult → EntityM α) (configs subscribes : List PacketId) (results : List ReceiveResult)
    (hconnected : origin.client.connected = true) (hpending : Pending results)
    (hnext : ∀ result, Goes origin Q (f (.ok result)) configs subscribes (results ++ [result])) :
    Goes origin Q ((Entity.onClient (Mqtt.asyncReceive P fuel)).bind f) configs subscribes results := by
  intro start point h hstart
  have hflag : point.2.client.connected = true := h.same.2.2 ▸ hconnected
  simp only [Entity.onClient, Mqtt.asyncReceive, Coro.label, Coro.state, Coro.bind_eq, Coro.bind, Coro.zoom, wp_enter,
    wp_get, hflag, Bool.not_true, Bool.false_eq_true, if_false]
  exact goes_receiveLoop P origin Q _ fuel hspin f configs subscribes results hpending hnext start point h hstart

theorem goes_publishConfig (f : Error → EntityM α) (payload : Bytes) (retain : Bool)
    (hconnected : origin.client.connected = true)
    (hnext : ∀ packetId, Goes origin Q (f none) [packetId] [] []) :
    Goes origin Q ((Entity.asyncPublish P (configTopic origin) payload ⟨.atLeastOnce, retain⟩).bind f) [] [] [] := by
  intro start point h hstart
  have hflag : point.2.client.connected = true := h.same.2.2 ▸ hconnected
  have hpending : Pending [] := .inl rfl
  simp only [Entity.asyncPublish_atLeastOnce, Entity.onClient, acquirePacketId, epAcquireUniquePacketId, sendWithId,
    epSend, Coro.label, Coro.state, Coro.modify, Coro.bind_eq, Coro.bind, Coro.zoom, wp_enter, wp_get, hflag,
    Bool.not_true, Bool.false_eq_true, if_false]
  refine ⟨⟨hstart, h.results ▸ hpending⟩, fun acquired hacquired answer hallow => ?_⟩
  obtain ⟨packetId, rfl⟩ := hallow
  simp only [Coro.pure_eq, Coro.bind, Coro.zoom]
  refine ⟨⟨.refl _, (h.later hacquired).results ▸ hpending⟩, fun sent hsent answer hallow => ?_⟩
  obtain rfl : answer = none := hallow
  obtain ⟨hsame, hconfigs, hsubscribes, hresults⟩ := (h.later hacquired).later hsent
  refine hnext packetId _ _ ⟨hsame, ?_, ?_, hresults⟩ ⟨rfl, rfl, rfl⟩
  · simpa [configIds] using hconfigs
  · simpa [subscribeIds] using hsubscribes

theorem goes_enter (label : Label) (task : EntityM α) (configs subscribes : List PacketId)
    (results : List ReceiveResult) (h : Goes origin Q task configs subscribes results) :
    Goes origin Q (.enter label task) configs subscribes results := h

theorem goes_subscribe (f : Expected PacketId → EntityM α) (topics : List Bytes) (configs : List PacketId)
    (results : List ReceiveResult) (hconnected : origin.client.connected = true) (hpending : Pending results)
    (hnext : ∀ packetId, Goes origin Q (f (.ok packetId)) configs [packetId] results) :
    Goes origin Q ((Entity.onClient (Mqtt.asyncSubscribe P topics)).bind f) configs [] results := by
  intro start point h hstart
  have hflag : point.2.client.connected = true := h.same.2.2 ▸ hconnected
  simp only [Entity.onClient, Mqtt.asyncSubscribe, acquirePacketId, epAcquireUniquePacketId, sendWithId, epSend,
    Coro.label, Coro.state, Coro.bind_eq, Coro.bind, Coro.zoom, wp_enter, wp_get, hflag, Bool.not_true,
    Bool.false_eq_true, if_false]
  refine ⟨⟨hstart, h.results ▸ hpending⟩, fun acquired hacquired answer hallow => ?_⟩
  obtain ⟨packetId, rfl⟩ := hallow
  simp only [Coro.pure_eq, Coro.bind, Coro.zoom]
  refine ⟨⟨.refl _, (h.later hacquired).results ▸ hpending⟩, fun sent hsent answer hallow => ?_⟩
  obtain rfl : answer = none := hallow
  obtain ⟨hsame, hconfigs, hsubscribes, hresults⟩ := (h.later hacquired).later hsent
  refine hnext packetId _ _ ⟨hsame, ?_, ?_, hresults⟩ (.refl _)
  · simpa [configIds] using hconfigs
  · simpa [subscribeIds] using hsubscribes

end Configure

-- How async_configure has ended: the first result was no PUBACK, or the second
-- one decided.
def Ended (result : Error) (configs subscribes : List PacketId) (results : List ReceiveResult) : Prop :=
  ∃ config, configs = [config] ∧
    ((result ≠ none ∧ subscribes = [] ∧ ∃ first, results = [first] ∧ ∀ acked, first ≠ .puback acked) ∨
      ∃ acked subscribe second, results = [.puback acked, second] ∧ subscribes = [subscribe] ∧
        (result = none ↔ ∃ suback, second = .suback suback ∧ anySubackFailure suback = false))

def configurePost (origin : Entity) : Post netWorld Error where
  ret result start point :=
    (∃ configs subscribes results, Observed origin configs subscribes results point ∧
      Ended result configs subscribes results) ∧ SameEntity start.2 point.2
  throw _ _ _ := False
  spin start point := SameEntity start.2 point.2

section Cover

variable (P : Platform) (fuel : Nat) (origin : Entity) (hconnected : origin.client.connected = true)

theorem completeConfig_ok (entity : Entity) (config : EntityConfig) :
    ∃ completed, Cover.completeConfig entity config = .ok completed := ⟨_, rfl⟩

theorem commandTopic_ok (entity : Entity) :
    (Cover.topics entity).atKey CoverConfig.Property.switchCommandTopic =
      .ok (entity.topic CoverConfig.Default.switchCommandTopic) := rfl

theorem goes_ret (result : Error) (configs subscribes : List PacketId) (results : List ReceiveResult)
    (hended : Ended result configs subscribes results) :
    Goes origin (configurePost origin) (.ret result) configs subscribes results :=
  fun _ _ h hstart => ⟨⟨configs, subscribes, results, h, hended⟩, hstart⟩

include hconnected in
theorem wp_configure (config : EntityConfig) (retain : Bool) (net : Net) (hsent : net.sent = [])
    (hreceived : net.received = []) :
    wp (configureContract origin) (configurePost origin) (Cover.asyncConfigure P fuel config ⟨.atLeastOnce, retain⟩)
      (net, origin) (net, origin) := by
  obtain ⟨completed, hcompleted⟩ := completeConfig_ok origin config
  have hstart : Observed origin [] [] [] (net, origin) :=
    ⟨.refl _, by simp [hsent, configIds], by simp [hsent, subscribeIds], by simp [hreceived, reported]⟩
  simp only [Cover.asyncConfigure, Entity.asyncSetConfig, Entity.asyncSubscribe, Coro.bind_eq, Coro.label, Coro.state,
    Coro.bind, wp_enter, wp_get, hcompleted, ofExcept_ok, commandTopic_ok, Coro.bind_assoc]
  refine goes_publishConfig P origin _ _ _ retain hconnected (fun packetId => ?_) _ _ hstart (.refl _)
  -- PUBACK
  simp only [ne_eq, reduceCtorEq, not_false_eq_true, if_true, Coro.bind_assoc]
  refine goes_receive P fuel origin _ (fun _ _ h => h) _ _ _ _ hconnected (.inl rfl) fun first => ?_
  have hfirst (result : Error) (hne : result ≠ none) (hpuback : ∀ acked, first ≠ .puback acked) :
      Ended result [packetId] [] [first] := ⟨packetId, rfl, .inl ⟨hne, rfl, first, rfl, hpuback⟩⟩
  cases first with
  | publish packet => exact goes_ret origin _ _ _ _ (hfirst _ (Option.some_ne_none _) (by simp))
  | suback suback => exact goes_ret origin _ _ _ _ (hfirst _ (Option.some_ne_none _) (by simp))
  | puback acked =>
      refine goes_enter origin _ _ _ _ _ _ ?_
      refine goes_subscribe P origin _ _ _ _ _ hconnected (.inr ⟨acked, rfl⟩) fun subscribe => ?_
      -- SUBACK
      simp only [Coro.bind_assoc]
      refine goes_receive P fuel origin _ (fun _ _ h => h) _ _ _ _ hconnected (.inr ⟨acked, rfl⟩) fun second => ?_
      have hsecond (result : Error)
          (h : result = none ↔ ∃ suback, second = .suback suback ∧ anySubackFailure suback = false) :
          Ended result [packetId] [subscribe] [.puback acked, second] :=
        ⟨packetId, rfl, .inr ⟨acked, subscribe, second, rfl, rfl, h⟩⟩
      cases second with
      | publish packet => exact goes_ret origin _ _ _ _ (hsecond _ (by simp))
      | puback other => exact goes_ret origin _ _ _ _ (hsecond _ (by simp))
      | suback suback =>
          cases hfailure : anySubackFailure suback with
          | true =>
              simp only [hfailure, if_true]
              exact goes_ret origin _ _ _ _ (hsecond _ (by simp [hfailure]))
          | false =>
              simp only [hfailure, Bool.false_eq_true, if_false]
              exact goes_ret origin _ _ _ _ (hsecond _ (by simp [hfailure]))

end Cover

section Publish

variable (P : Platform) (origin : Entity)

-- The end of a coroutine that publishes states says no more than its guarantee.
def publishPost : Post netWorld Error where
  ret _ := Unnoticed origin
  throw _ := Unnoticed origin
  spin := Unnoticed origin

theorem stateTopic_ne_configTopic (entity : Entity) (hcover : origin.entityName = CoverConfig.entityName)
    (hsame : SameEntity origin entity) : entity.topic CoverConfig.Default.stateTopic ≠ configTopic origin := by
  unfold Entity.topic configTopic
  rw [hsame.1, hcover]
  simp [CoverConfig.entityName, ascii]

-- A publish on any other topic goes unnoticed.
theorem wp_otherPublish (topic payload : Bytes) (pubopts : Pubopts) (htopic : topic ≠ configTopic origin)
    (point : NetPoint) :
    wp (publishContract origin) (publishPost origin) (Entity.asyncPublish P topic payload pubopts) point point := by
  have hsend (packetId : PacketId) (start point : NetPoint) (hunnoticed : Unnoticed origin start point) :
      wp (publishContract origin) (publishPost origin)
        ((Entity.onClient (sendWithId P packetId (.publish ⟨packetId, topic, payload, pubopts⟩))).bind
          (remember pubopts)) start point := by
    simp only [sendWithId, epSend, Entity.onClient, Coro.bind_eq, Coro.bind, Coro.zoom]
    refine ⟨hunnoticed, fun later _ sent hallow => ?_⟩
    obtain rfl : sent = none := hallow
    have hlater (pending : Finset PacketId) : Unnoticed origin later
        ({ later.1 with sent := later.1.sent ++ [.publish ⟨packetId, topic, payload, pubopts⟩] },
          { later.2 with pendingPuback := pending }) :=
      ⟨⟨rfl, rfl, rfl⟩, by simp [configIds, htopic], by simp [subscribeIds], rfl⟩
    simp only [remember, Coro.pure_eq, Coro.bind_eq, Coro.bind, Coro.zoom]
    split_ifs
    · exact hlater _
    · exact hlater _
  rw [entityPublish_eq]
  simp only [Entity.onClient, Mqtt.asyncPublish, Coro.label, Coro.state, Coro.bind_eq, Coro.bind,
    Coro.zoom, wp_enter, wp_get]
  by_cases hflag : (!point.2.client.connected) = true
  · simp only [hflag, if_true]
    exact .refl origin point
  · by_cases hqos : (!supportedQos pubopts.qos) = true
    · simp only [hflag, hqos, if_true]
      exact .refl origin point
    · simp only [hflag, hqos, acquirePacketIdFor]
      by_cases hatMostOnce : pubopts.qos = .atMostOnce
      · rw [if_pos hatMostOnce]
        exact hsend 0 point point (.refl origin point)
      · rw [if_neg hatMostOnce]
        simp only [acquirePacketId, epAcquireUniquePacketId, Coro.bind_eq, Coro.bind]
        refine ⟨.refl origin point, fun later _ acquired hallow => ?_⟩
        obtain ⟨packetId, rfl⟩ := hallow
        exact hsend packetId later later (.refl origin later)

theorem wp_publishState (hcover : origin.entityName = CoverConfig.entityName) (state : CoverState) (pubopts : Pubopts)
    (point : NetPoint) (hsame : SameEntity origin point.2) :
    wp (publishContract origin) (publishPost origin) (Cover.asyncSetState P state pubopts) point point := by
  have hstateTopic (entity : Entity) : (Cover.topics entity).atKey CoverConfig.Property.stateTopic =
      .ok (entity.topic CoverConfig.Default.stateTopic) := rfl
  simp only [Cover.asyncSetState, Coro.bind_eq, Coro.label, Coro.state, Coro.bind, wp_enter, hstateTopic, ofExcept_ok]
  split_ifs with hundefined
  · exact .refl origin point
  · refine wp_ofExcept _ _ _ _ (fun payload _ => ?_) fun _ _ => .refl origin point
    exact wp_otherPublish P origin _ payload pubopts (stateTopic_ne_configTopic origin point.2 hcover hsame) point

end Publish

-- Beside async_configure, any coroutine may start to publish a state.
def publishers (P : Platform) : Arena netWorld Error where
  env _ _ := False
  spawn before after task := after = before ∧ ∃ state pubopts, task = Cover.asyncSetState P state pubopts

section Interleaved

variable (P : Platform) (fuel : Nat) (origin : Entity)

def acksProtocol (hcover : origin.entityName = CoverConfig.entityName) : Protocol (publishers P) where
  inv point := SameEntity origin point.2
  contract
    | 0 => configureContract origin
    | _ + 1 => publishContract origin
  post
    | 0 => configurePost origin
    | _ + 1 => publishPost origin
  base := 1
  effect
    | 0 => fun before after => SameEntity before.2 after.2
    | _ + 1 => Unnoticed origin
  guar_effect i start point h := by
    cases i with
    | zero => exact h.1
    | succ i => exact h
  ret_effect i _ start point h := by
    cases i with
    | zero => exact h.2
    | succ i => exact h
  throw_effect i _ start point h := by
    cases i with
    | zero => exact absurd h id
    | succ i => exact h
  spin_effect i start point h := by
    cases i with
    | zero => exact h
    | succ i => exact h
  effect_inv i before after heffect hinv := by
    cases i with
    | zero => exact hinv.trans heffect
    | succ i => exact hinv.trans heffect.1
  env_inv _ _ _ henv := henv.elim
  rely_refl i point _ := by
    cases i with
    | zero => exact .refl origin point
    | succ i => exact .refl point.2
  rely_env _ _ _ _ _ _ henv := henv.elim
  rely_effect i j first before after hne hrely _ heffect := by
    cases i with
    | zero =>
        cases j with
        | zero => exact absurd rfl hne
        | succ j => exact Unnoticed.trans hrely heffect
    | succ i =>
        cases j with
        | zero => exact SameEntity.trans hrely heffect
        | succ j => exact SameEntity.trans hrely heffect.1
  spawn_wp i before after task hbase hinv hspawn := by
    obtain ⟨rfl, state, pubopts, rfl⟩ := hspawn
    cases i with
    | zero => exact absurd hbase (Nat.not_succ_le_zero 0)
    | succ i => exact wp_publishState P origin hcover state pubopts after hinv

-- The PUBACK of the config publish and a SUBACK of the subscribe request.
def OwnPuback (net : Net) : Prop :=
  ∃ packetId ∈ configIds (configTopic origin) net.sent, Packet.puback packetId ∈ net.received

def OwnSuback (net : Net) (failure : Bool) : Prop :=
  ∃ suback, Packet.suback suback ∈ net.received ∧ suback.packetId ∈ subscribeIds net.sent ∧
    anySubackFailure suback = failure

-- Success is the same as having received both acknowledgements, and only a
-- SUBACK of the own request leads to a failure.
def Matched (net : Net) (task : EntityM Error) : Prop :=
  (task = .ret none ↔ OwnPuback origin net ∧ OwnSuback net false) ∧
    ∀ e, task = .ret (some e) → OwnSuback net true

-- Of the packets that async_receive returns the first is the PUBACK of the
-- config publish and the second the SUBACK of the subscribe request, as far as
-- they have arrived. When that SUBACK reports a failure, the first may be any
-- PUBACK.
def OwnAcksFirst (net : Net) : Prop :=
  Pending (reported net.received) ∨
    ∃ config subscribe acked suback, configIds (configTopic origin) net.sent = [config] ∧
      subscribeIds net.sent = [subscribe] ∧ reported net.received = [.puback acked, .suback suback] ∧
      suback.packetId = subscribe ∧ (anySubackFailure suback = false → acked = config)

theorem mem_received_iff (received : List Packet) (packet : Packet) (result : ReceiveResult)
    (hresult : packet.receiveResult = some result)
    (hinjective : ∀ other : Packet, other.receiveResult = some result → other = packet) :
    packet ∈ received ↔ result ∈ reported received := by
  unfold reported
  rw [List.mem_filterMap]
  constructor
  · exact fun hmem => ⟨packet, hmem, hresult⟩
  · rintro ⟨other, hmem, hother⟩
    exact hinjective other hother ▸ hmem

theorem puback_mem_iff (received : List Packet) (packetId : PacketId) :
    Packet.puback packetId ∈ received ↔ ReceiveResult.puback packetId ∈ reported received :=
  mem_received_iff received _ _ rfl fun other h => by cases other <;> simp_all [Packet.receiveResult]

theorem suback_mem_iff (received : List Packet) (suback : SubackPacket) :
    Packet.suback suback ∈ received ↔ ReceiveResult.suback suback ∈ reported received :=
  mem_received_iff received _ _ rfl fun other h => by cases other <;> simp_all [Packet.receiveResult]

theorem matched_of_pending (net : Net) (task : EntityM Error) (htask : ∀ result, task ≠ .ret result)
    (h : Pending (reported net.received)) : Matched origin net task := by
  refine ⟨iff_of_false (htask none) ?_, fun e he => absurd he (htask (some e))⟩
  rintro ⟨-, suback, hmem, -⟩
  rw [suback_mem_iff] at hmem
  obtain hnone | ⟨acked, hone⟩ := h
  · simp [hnone] at hmem
  · simp [hone] at hmem

theorem matched_iff_of_ended (net : Net) (result : Error)
    (h : Ended result (configIds (configTopic origin) net.sent) (subscribeIds net.sent) (reported net.received)) :
    Matched origin net (.ret result) ↔ OwnAcksFirst origin net := by
  unfold Matched OwnPuback OwnSuback OwnAcksFirst Pending
  simp only [puback_mem_iff, suback_mem_iff, Coro.ret.injEq]
  obtain ⟨config, hconfigs, ⟨hne, hsubscribes, first, hresults, hfirst⟩ |
    ⟨acked, subscribe, second, hresults, hsubscribes, hresult⟩⟩ := h
  · obtain ⟨e, rfl⟩ := Option.ne_none_iff_exists'.mp hne
    rw [hconfigs, hsubscribes, hresults]
    refine iff_of_false ?_ ?_
    · rintro ⟨-, hfailure⟩
      obtain ⟨suback, -, hmem, -⟩ := hfailure e rfl
      cases hmem
    · rintro ((hnone | ⟨acked, hone⟩) | ⟨_, _, _, _, -, hmem, -⟩)
      · cases hnone
      · exact hfirst acked (by simpa using hone)
      · cases hmem
  · rw [hconfigs, hsubscribes, hresults]
    cases second with
    | publish packet => cases result <;> simp_all
    | puback other => cases result <;> simp_all
    | suback suback =>
        cases hfailure : anySubackFailure suback with
        | true => cases result <;> grind
        | false => cases result <;> grind

-- A cover that starts to configure itself on a new connection.
def configuring (config : EntityConfig) (retain : Bool) : Pool netWorld Error :=
  ⟨(settle netWorld (Cover.asyncConfigure P fuel config ⟨.atLeastOnce, retain⟩) (⟨[], []⟩, origin)).point,
    [(settle netWorld (Cover.asyncConfigure P fuel config ⟨.atLeastOnce, retain⟩) (⟨[], []⟩, origin)).task]⟩

-- In every interleaving with publishers, async_configure matches the
-- acknowledgements to its requests exactly when they come first.
theorem acks_matched_iff (hcover : origin.entityName = CoverConfig.entityName)
    (hconnected : origin.client.connected = true) (config : EntityConfig) (retain : Bool)
    (pool : Pool netWorld Error) (hreach : Pool.Reach (publishers P) (configuring P fuel origin config retain) pool)
    (task : EntityM Error) (htask : pool.tasks[0]? = some task) (hspin : task ≠ .spin) :
    Matched origin pool.point.1 task ↔ OwnAcksFirst origin pool.point.1 := by
  have hstart := (acksProtocol P origin hcover).start_good _ (⟨[], []⟩, origin) (Nat.le_refl 1) (SameEntity.refl origin)
    (wp_configure P fuel origin hconnected config retain ⟨[], []⟩ rfl rfl)
  have hgood := (acksProtocol P origin hcover).reach_good hreach hstart
  obtain ⟨hsettled, start, point, hrely, hgood⟩ := hgood.tasks 0 _ htask
  cases task with
  | ret result =>
      obtain ⟨⟨configs, subscribes, results, hobserved, hended⟩, -⟩ := hgood
      obtain ⟨-, rfl, rfl, rfl⟩ := hobserved.later hrely
      exact matched_iff_of_ended origin pool.point.1 result hended
  | await query next =>
      have hpending : Pending (reported pool.point.1.received) := hrely.2.2.2 ▸ hgood.1.2
      exact iff_of_true (matched_of_pending origin _ _ (by simp) hpending) (.inl hpending)
  | throw thrown => exact absurd hgood id
  | spin => exact absurd rfl hspin
  | get next | set state next | enter label next => exact absurd hsettled id

end Interleaved

section Samples

def sampleCover : Entity := Cover.create (ascii "1") (AsyncMqttClient.create {}).setConnected

-- Packet ids count the packets that have been sent; these packets arrive.
def delivering (packets : List Packet) (net : Net) (_ : Entity) : (query : Query) → Answer query
  | .resolve _ _ => none
  | .connect => none
  | .send _ => none
  | .recv => .ok (packets.getD net.received.length (.other .pingresp))
  | .acquireUniquePacketId => some (net.sent.length + 1)
  | .timer _ => none
  | .wait _ => none

theorem delivering_healthy (packets : List Packet) (net : Net) (entity : Entity) (query : Query) :
    netWorld.allows net entity query (delivering packets net entity query) := by
  cases query with
  | send _ => rfl
  | recv => exact ⟨_, rfl⟩
  | acquireUniquePacketId => exact ⟨_, rfl⟩
  | resolve _ _ | connect | timer _ | wait _ => trivial

def granted (packetId : PacketId) : Packet := .suback ⟨packetId, [.successMaximumQos1]⟩

-- Without publishers the acknowledgements come in order.
theorem acks_matched_alone :
    ∃ pool, Pool.Reach (publishers samplePlatform) (configuring samplePlatform 1 sampleCover {} false) pool ∧
      pool.tasks[0]? = some (.ret none) ∧ Matched sampleCover pool.point.1 (.ret none) := by
  have hreach := Pool.reach_exec (publishers samplePlatform) (delivering [.puback 1, granted 2])
    (delivering_healthy _) [.spin] 0 (by decide) (Cover.asyncConfigure samplePlatform 1 {} ⟨.atLeastOnce, false⟩)
    (⟨[], []⟩, sampleCover)
  refine ⟨_, hreach, rfl, ?_⟩
  exact (acks_matched_iff samplePlatform 1 sampleCover rfl rfl {} false _ hreach (.ret none) rfl (by simp)).mpr
    (.inr ⟨1, 2, 1, ⟨2, [.successMaximumQos1]⟩, rfl, rfl, rfl, rfl, fun _ => rfl⟩)

-- A state is published first. Its PUBACK, with id 1, is taken for the one of the
-- config publish, whose own PUBACK, with id 2, then stands where the SUBACK is
-- expected.
def startedConfigure : Config netWorld Error :=
  settle netWorld (Cover.asyncConfigure samplePlatform 1 {} ⟨.atLeastOnce, false⟩) (⟨[], []⟩, sampleCover)

def publishOpen : EntityM Error := Cover.asyncSetState samplePlatform .open ⟨.atLeastOnce, true⟩

def publishedOpen : Outcome sig Error × NetPoint :=
  exec netWorld (delivering []) publishOpen startedConfigure.point

def mismatchedConfigure : Outcome sig Error × NetPoint :=
  exec netWorld (delivering [.puback 1, .puback 2]) startedConfigure.task publishedOpen.2

theorem mismatchedConfigure_fails : ∃ e, mismatchedConfigure.1 = .ret (some e) := ⟨_, rfl⟩

theorem mismatchedConfigure_received : mismatchedConfigure.2.1.received = [.puback 1, .puback 2] := rfl

theorem reach_mismatchedConfigure :
    Pool.Reach (publishers samplePlatform) (configuring samplePlatform 1 sampleCover {} false)
      ⟨mismatchedConfigure.2, [mismatchedConfigure.1.task, publishedOpen.1.task]⟩ := by
  have hspawn : Pool.Reach (publishers samplePlatform) ⟨startedConfigure.point, [startedConfigure.task]⟩
      ⟨(settle netWorld publishOpen startedConfigure.point).point,
        [startedConfigure.task, .spin].set 1 (settle netWorld publishOpen startedConfigure.point).task⟩ :=
    .single (.spawn _ startedConfigure.point publishOpen ⟨rfl, .open, ⟨.atLeastOnce, true⟩, rfl⟩)
  have hpublish := Pool.reach_exec (publishers samplePlatform) (delivering []) (delivering_healthy _)
    [startedConfigure.task, .spin] 1 (by decide) publishOpen startedConfigure.point
  have hconfigure := Pool.reach_exec (publishers samplePlatform) (delivering [.puback 1, .puback 2])
    (delivering_healthy _) [.spin, publishedOpen.1.task] 0 (by decide) startedConfigure.task publishedOpen.2
  exact (hspawn.trans hpublish).trans hconfigure

theorem acks_mismatched_by_publisher :
    ∃ pool task, Pool.Reach (publishers samplePlatform) (configuring samplePlatform 1 sampleCover {} false) pool ∧
      pool.tasks[0]? = some task ∧ task ≠ .spin ∧ ¬Matched sampleCover pool.point.1 task := by
  obtain ⟨e, he⟩ := mismatchedConfigure_fails
  refine ⟨_, _, reach_mismatchedConfigure, rfl, ?_, ?_⟩
  · simp [he, Outcome.task]
  · rintro ⟨-, hfailure⟩
    obtain ⟨suback, hmem, -⟩ := hfailure e (by simp [he, Outcome.task])
    rw [mismatchedConfigure_received] at hmem
    simp at hmem

end Samples

end HhctrlMgmt.Mqtt
