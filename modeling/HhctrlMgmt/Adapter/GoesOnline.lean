import HhctrlMgmt.Adapter.Presence
import HhctrlMgmt.Mqtt.Healthy

namespace HhctrlMgmt.Adapter

open Common Coroutine Mqtt PubSub

section Kind

variable (P : Platform) (ids : List Outgoing → PacketId) (fuel : Nat) {origin entity : Entity} {sent : List Outgoing}

-- The subscription of an entity that has commands.
def subscriptions (origin : Entity) (kind : EntityKind) (packetId : PacketId) : List Outgoing :=
  (kind.commandTopic.map fun topic => subscribing [origin.topic topic] packetId).toList

-- The publish of a state that is shown.
def statePublishes (origin : Entity) (payload : Option Bytes) (packetId : PacketId) : List Outgoing :=
  (payload.map fun payload =>
    publishing (origin.topic EntityKind.stateTopic) payload adapterDefaultPubopts packetId).toList

theorem succeeds_kindConfigure (kind : EntityKind) (h : EntityLinked origin entity) {config complete : EntityConfig}
    (hcomplete : kind.completeConfig origin config = .ok complete) :
    Succeeds ids none (configPublish P origin complete (ids sent) ::
        subscriptions origin kind (ids (sent ++ [configPublish P origin complete (ids sent)]))) (EntityLinked origin)
      (kind.asyncConfigure P (fuel + 1) config adapterDefaultPubopts) (sent, entity) := by
  rw [← completeConfig_congr kind h.names] at hcomplete
  have htopic (topic : Bytes) : entity.topic topic = origin.topic topic := h.names.topic topic
  have hstate : Succeeds ids none [configPublish P origin complete (ids sent)] (EntityLinked origin) (do
      .label (.entity .asyncConfigure)
      let entity ← .state
      let config ← .ofExcept (kind.completeConfig entity config)
      Entity.asyncSetConfig P (fuel + 1) config adapterDefaultPubopts) (sent, entity) := by
    refine succeeds_label_bind (succeeds_state_bind ?_)
    rw [hcomplete]
    exact succeeds_setConfig P ids fuel h complete rfl
  cases kind with
  | cover =>
      exact succeeds_configureWith P ids fuel h rfl hcomplete (congrArg Except.ok (htopic _))
  | button =>
      exact succeeds_configureWith P ids fuel h rfl hcomplete (congrArg Except.ok (htopic _))
  | binarySensor => exact hstate
  | sensor => exact hstate

theorem succeeds_publishState (h : EntityLinked origin entity) (payload : Bytes) :
    Succeeds ids none [publishing (origin.topic EntityKind.stateTopic) payload adapterDefaultPubopts (ids sent)]
      (EntityLinked origin) (Entity.asyncPublish P (entity.topic EntityKind.stateTopic) payload adapterDefaultPubopts)
      (sent, entity) := by
  rw [h.names.topic]
  exact succeeds_entityPublish P ids _ h _ payload rfl

theorem succeeds_kindSetState (kind : EntityKind) (h : EntityLinked origin entity) (state : kind.State) :
    Succeeds ids none (statePublishes origin (kind.statePayload state) (ids sent)) (EntityLinked origin)
      (kind.asyncSetState P state adapterDefaultPubopts) (sent, entity) := by
  cases kind with
  | cover =>
      cases state with
      | undefined => exact succeeds_label_bind (succeeds_ret (none : Error) h)
      | «open» | opening | closing | closed =>
          exact succeeds_label_bind (succeeds_state_bind (succeeds_publishState P ids h _))
  | button => exact state.elim
  | binarySensor =>
      cases state with
      | off | on => exact succeeds_label_bind (succeeds_state_bind (succeeds_publishState P ids h _))
  | sensor => exact succeeds_label_bind (succeeds_state_bind (succeeds_publishState P ids h _))

end Kind

section Adapter

variable {δ : Type} (P : Platform) (ids : List Outgoing → PacketId) (fuel : Nat) {kind : EntityKind}
  (impl : Impl kind.Command kind.State δ) {origin : Entity} {sent : List Outgoing} {adapter : Entity × δ}

structure AdapterLinked (origin : Entity) (device : δ) (adapter : Entity × δ) : Prop where
  entity : EntityLinked origin adapter.1
  device : adapter.2 = device

-- What is shown of a device, if anything.
def shown (device : δ) : Except Exn (Option Bytes) :=
  match impl.state with
  | none => .ok none
  | some read => (read device).map kind.statePayload

variable {impl} in
theorem shown_read {read : δ → Except Exn kind.State} (hread : impl.state = some read) {device : δ}
    {payload : Option Bytes} (h : shown impl device = .ok payload) :
    ∃ value, read device = .ok value ∧ kind.statePayload value = payload := by
  simp only [shown, hread] at h
  cases hvalue : read device with
  | ok value =>
      rw [hvalue] at h
      exact ⟨value, rfl, Except.ok.inj h⟩
  | error thrown =>
      rw [hvalue] at h
      cases h

-- What an entity says to configure itself.
def configuration (kind : EntityKind) (origin : Entity) (complete : EntityConfig) (sent : List Outgoing) :
    List Outgoing :=
  configPublish P origin complete (ids sent) ::
    subscriptions origin kind (ids (sent ++ [configPublish P origin complete (ids sent)]))

-- All that an entity says on a new connection.
def introduction (kind : EntityKind) (origin : Entity) (complete : EntityConfig) (payload : Option Bytes)
    (sent : List Outgoing) : List Outgoing :=
  let configured := configuration P ids kind origin complete sent
  let onlineId := ids (sent ++ configured)
  configured ++ onlinePublish origin onlineId ::
    statePublishes origin payload (ids (sent ++ configured ++ [onlinePublish origin onlineId]))

variable {impl}

variable (sent adapter) in
theorem succeeds_onEntity {α : Type} {task : EntityM α} {value : α} {packets : List Outgoing}
    (h : Succeeds ids value packets (EntityLinked origin) task (sent, adapter.1)) :
    Succeeds ids value packets (AdapterLinked origin adapter.2) (onEntity task) (sent, adapter) :=
  succeeds_zoom (entityLens δ) h fun _ hentity => ⟨hentity, rfl⟩

theorem succeeds_syncState {device : δ} (h : AdapterLinked origin device adapter) {payload : Option Bytes}
    (hshown : shown impl device = .ok payload) :
    Succeeds ids () (statePublishes origin payload (ids sent)) (AdapterLinked origin device)
      (EntityAdapter.asyncSyncState (commandOperations P impl (fuel + 1) (kind.asyncConfigure P (fuel + 1))
        (kind.asyncSetState P) .spin)) (sent, adapter) := by
  obtain ⟨hentity, rfl⟩ := h
  cases hread : impl.state with
  | none =>
      simp only [shown, hread, Except.ok.injEq] at hshown
      subst hshown
      simp only [EntityAdapter.asyncSyncState, commandOperations, hread, Option.map_none]
      exact succeeds_ret () ⟨hentity, rfl⟩
  | some read =>
      obtain ⟨value, hvalue, rfl⟩ := shown_read hread hshown
      simp only [EntityAdapter.asyncSyncState, commandOperations, hread, Option.map_some, Coro.bind_eq, Coro.bind]
      refine succeeds_get (succeeds_ofExcept_bind hvalue ?_)
      have hset := succeeds_onEntity ids sent adapter
        (succeeds_kindSetState P ids kind hentity value)
      exact succeeds_bind_silent hset fun later hlater => succeeds_ret () hlater

theorem succeeds_wait {left : Entity × δ → Prop} (h : left adapter) (seconds : Int) :
    Succeeds ids () [] left (asyncWait P seconds) (sent, adapter) :=
  ⟨(), (sent, adapter), rfl, rfl, (List.append_nil sent).symm, h⟩

variable (sent) in
theorem succeeds_adapterConfigure {device : δ} (h : AdapterLinked origin device adapter) {complete : EntityConfig}
    (hcomplete : kind.completeConfig origin (impl.config device) = .ok complete) {payload : Option Bytes}
    (hshown : shown impl device = .ok payload) :
    Succeeds ids true (introduction P ids kind origin complete payload sent) (AdapterLinked origin device)
      (EntityAdapter.asyncConfigure (commandOperations P impl (fuel + 1) (kind.asyncConfigure P (fuel + 1))
        (kind.asyncSetState P) .spin)) (sent, adapter) := by
  obtain ⟨hentity, rfl⟩ := h
  have hconfigure := succeeds_onEntity ids sent adapter
    (succeeds_kindConfigure P ids fuel kind hentity hcomplete)
  refine succeeds_read_bind (succeeds_bind hconfigure fun later hlater => ?_)
  refine succeeds_silent_bind (succeeds_wait P ids hlater 1) fun waited hwaited => ?_
  have honline := succeeds_onEntity ids (sent ++ configuration P ids kind origin complete sent) waited
    (succeeds_setAvailability P ids hwaited.entity true)
  rw [hwaited.device] at honline
  refine succeeds_bind honline fun announced hannounced => ?_
  exact succeeds_bind_silent (succeeds_syncState P ids fuel hannounced hshown) fun last hlast => succeeds_ret true hlast

variable (sent) in
-- Either way to a new connection ends with the same words.
theorem succeeds_connection (h : SameOrigin origin adapter.1) {complete : EntityConfig}
    (hcomplete : kind.completeConfig origin (impl.config adapter.2) = .ok complete) {payload : Option Bytes}
    (hshown : shown impl adapter.2 = .ok payload) :
    ∀ task ∈ [EntityAdapter.asyncInit (kind.operations P (fuel + 1) impl),
        EntityAdapter.asyncHandleDisconnectedError (kind.operations P (fuel + 1) impl)],
      Succeeds ids true (.connect (connectPacket origin.client) ::
          introduction P ids kind origin complete payload (sent ++ [.connect (connectPacket origin.client)]))
        (AdapterLinked origin adapter.2) task (sent, adapter) := by
  have hconnect := succeeds_onEntity ids sent adapter (succeeds_entityConnect P ids (fuel + 1) h)
  have hconfigure (later : Entity × δ) (hlater : AdapterLinked origin adapter.2 later) :=
    succeeds_adapterConfigure P ids fuel (sent ++ [.connect (connectPacket origin.client)]) hlater hcomplete
      hshown
  intro task htask
  rcases List.mem_pair.mp htask with rfl | rfl
  · rw [kind.asyncInit_eq P (fuel + 1) impl]
    have hretry : Succeeds ids none [.connect (connectPacket origin.client)] (AdapterLinked origin adapter.2)
        (EntityAdapter.connectRetry (commandOperations P impl (fuel + 1) (kind.asyncConfigure P (fuel + 1))
          (kind.asyncSetState P) .spin) initRetryAttempts none) (sent, adapter) :=
      succeeds_bind_silent hconnect fun later hlater => succeeds_ret (none : Error) hlater
    exact succeeds_bind hretry hconfigure
  · have hsame : EntityAdapter.asyncHandleDisconnectedError (kind.operations P (fuel + 1) impl) =
        (onEntity (Entity.asyncConnect P (fuel + 1))).bind fun error =>
          if error.isSome then .ret false
          else EntityAdapter.asyncConfigure (commandOperations P impl (fuel + 1) (kind.asyncConfigure P (fuel + 1))
            (kind.asyncSetState P) .spin) := by
      rw [← kind.asyncConfigure_eq P (fuel + 1) impl]
      cases kind with
      | cover | button | binarySensor | sensor => rfl
    rw [hsame]
    exact succeeds_bind hconnect hconfigure

end Adapter

namespace Home

variable (home : Home)

-- What a broker sees of packets that arrive in their order.
def arrivals (part : home.Part) (packets : List Outgoing) : List MqttEvent :=
  packets.filterMap (arrival (home.clientId part))

abbrev TruthfulBroker (B : MqttBroker) (broker : B.State) : Prop :=
  B.Truthful home.clientId home.availabilityTopic (ascii "online") (ascii "offline") broker

def configTopic (part : home.Part) : Bytes := setConfigTopic (home.entity part)

def stateTopic (part : home.Part) : Bytes := (home.entity part).topic EntityKind.stateTopic

variable {home} {part : home.Part}

variable (part) in
theorem topics_apart :
    home.availabilityTopic part ≠ home.configTopic part ∧ home.availabilityTopic part ≠ home.stateTopic part ∧
      home.configTopic part ≠ home.stateTopic part := by
  have hapart (name other : TopicName) (hne : name ≠ other) :
      name.topic (home.entity part) ≠ other.topic (home.entity part) := by
    intro htopic
    have hplaces : (part, name) = (part, other) := home.topic_injective htopic
    exact hne (congrArg Prod.snd hplaces)
  exact ⟨hapart .availability .config (by decide), hapart .availability .state (by decide),
    hapart .config .state (by decide)⟩

variable {B : MqttBroker}

variable (B) in
-- The broker shows a part as online, with its configuration and its state.
structure ShowsOnline (part : home.Part) (config : Bytes) (state : Option Bytes) (before after : B.State) : Prop where
  session : B.sessions after (home.clientId part) ≠ none
  availability : B.retained after (home.availabilityTopic part) = some (ascii "online")
  config : B.retained after (home.configTopic part) = kept config
  state : B.retained after (home.stateTopic part) =
    match state with
    | some payload => kept payload
    | none => B.retained before (home.stateTopic part)
  retained : ∀ topic, topic ≠ home.availabilityTopic part → topic ≠ home.configTopic part →
    topic ≠ home.stateTopic part → B.retained after topic = B.retained before topic
  sessions : ∀ clientId, clientId ≠ home.clientId part → B.sessions after clientId = B.sessions before clientId

-- A client has connected. Only its availability topic may have changed.
structure Connected (part : home.Part) (before after : B.State) : Prop where
  session : B.sessions after (home.clientId part) ≠ none
  sessions : ∀ clientId, clientId ≠ home.clientId part → B.sessions after clientId = B.sessions before clientId
  retained : ∀ topic, topic ≠ home.availabilityTopic part → B.retained after topic = B.retained before topic

theorem connected_of_moves (hconforms : B.Conforms) (part : home.Part) {before after : B.State}
    (h : home.TruthfulBroker B before) {will : Option (Message Bytes UInt8)}
    (hmoves : B.Moves before (.connected (home.clientId part) will) after) : Connected part before after := by
  obtain ⟨hsessions, hretained⟩ := hconforms.connected hmoves
  refine ⟨?_, fun clientId hclient => ?_, fun topic htopic => ?_⟩
  · rw [hsessions, Function.update_self]
    exact Option.some_ne_none _
  · rw [hsessions, Function.update_of_ne hclient]
  · rcases hretained with hsame | hclosed
    · rw [hsame]
    · rw [hclosed]
      cases hsession : B.sessions before (home.clientId part) with
      | none => rfl
      | some will =>
          obtain ⟨other, hother, rfl⟩ := h.sessions _ _ hsession
          obtain rfl := home.clientId_injective hother
          exact store_ne _ _ htopic

-- A retained publish of a client that has a session.
theorem takes_publish (hconforms : B.Conforms) {before after : B.State}
    (hsession : B.sessions before (home.clientId part) ≠ none) {topic payload : Bytes} {packetId : PacketId}
    {packets : List Outgoing}
    (h : B.Takes before (home.arrivals part (publishing topic payload adapterDefaultPubopts packetId :: packets))
      after) :
    ∃ middle, B.sessions middle = B.sessions before ∧
      B.retained middle = store ⟨topic, payload, true⟩ (B.retained before) ∧
      B.Takes middle (home.arrivals part packets) after := by
  obtain ⟨middle, hmoves, hrest⟩ := h
  obtain ⟨hsessions, hretained⟩ := hconforms.published hmoves
  rw [if_pos (Option.isSome_iff_ne_none.mpr hsession)] at hretained
  exact ⟨middle, hsessions, hretained, hrest⟩

theorem takes_introduction (hconforms : B.Conforms) (P : Platform) (ids : List Outgoing → PacketId)
    (complete : EntityConfig) (payload : Option Bytes) (sent : List Outgoing) {before after : B.State}
    (hsession : B.sessions before (home.clientId part) ≠ none)
    (h : B.Takes before
      (home.arrivals part (introduction P ids (home.kind part) (home.adapterEntity part) complete payload sent))
      after) :
    B.sessions after = B.sessions before ∧ B.retained after =
      let announced := store ⟨home.availabilityTopic part, ascii "online", true⟩
        (store ⟨home.configTopic part, P.serialize (configObject (home.entity part) complete), true⟩ (B.retained before))
      match payload with
      | some payload => store ⟨home.stateTopic part, payload, true⟩ announced
      | none => announced := by
  have hsubscribed (packetId : PacketId) (packets : List Outgoing) :
      home.arrivals part (subscriptions (home.adapterEntity part) (home.kind part) packetId ++ packets) =
        home.arrivals part packets := by
    cases part <;> rfl
  unfold introduction configuration at h
  dsimp only at h
  rw [List.cons_append] at h
  obtain ⟨configured, hconfigured, hconfig, h⟩ := takes_publish hconforms hsession h
  rw [hsubscribed] at h
  rw [← hconfigured] at hsession
  obtain ⟨announced, hannounced, honline, h⟩ := takes_publish hconforms hsession h
  have honline : B.retained announced = store ⟨home.availabilityTopic part, ascii "online", true⟩
      (store ⟨home.configTopic part, P.serialize (configObject (home.entity part) complete), true⟩
        (B.retained before)) := honline.trans (congrArg _ hconfig)
  rw [← hannounced] at hsession
  cases payload with
  | none =>
      obtain rfl : after = announced := h
      exact ⟨hannounced.trans hconfigured, honline⟩
  | some payload =>
      obtain ⟨last, hlast, hstate, h⟩ := takes_publish hconforms hsession h
      obtain rfl : after = last := h
      exact ⟨hlast.trans (hannounced.trans hconfigured), hstate.trans (congrArg _ honline)⟩

-- All that a part says on a new connection.
def greeting (P : Platform) (ids : List Outgoing → PacketId) (part : home.Part) (complete : EntityConfig)
    (payload : Option Bytes) (sent : List Outgoing) : List Outgoing :=
  .connect (connectPacket (home.adapterEntity part).client) ::
    introduction P ids (home.kind part) (home.adapterEntity part) complete payload
      (sent ++ [.connect (connectPacket (home.adapterEntity part).client)])

theorem showsOnline_greeting (hconforms : B.Conforms) (P : Platform) (ids : List Outgoing → PacketId)
    (complete : EntityConfig) (payload : Option Bytes) (sent : List Outgoing) {before after : B.State}
    (htruthful : home.TruthfulBroker B before)
    (h : B.Takes before (home.arrivals part (greeting P ids part complete payload sent)) after) :
    ShowsOnline B part (P.serialize (configObject (home.entity part) complete)) payload before after := by
  obtain ⟨hconfig, hstate, hapart⟩ := topics_apart part
  obtain ⟨connected, hmoves, h⟩ := h
  obtain ⟨hsession, hsessions, hretained⟩ := connected_of_moves hconforms part htruthful hmoves
  obtain ⟨hsame, hafter⟩ := takes_introduction hconforms P ids complete payload _ hsession h
  have honline : kept (ascii "online") = some (ascii "online") := by decide
  generalize P.serialize (configObject (home.entity part) complete) = config at hafter
  -- what is retained after the configuration and the availability
  let announced := store ⟨home.availabilityTopic part, ascii "online", true⟩
    (store ⟨home.configTopic part, config, true⟩ (B.retained connected))
  have havailable : announced (home.availabilityTopic part) = some (ascii "online") :=
    (store_self _ _ rfl).trans honline
  have hconfigured : announced (home.configTopic part) = kept config :=
    (store_ne _ _ hconfig.symm).trans (store_self _ _ rfl)
  have hothers (topic : Bytes) (havailability : topic ≠ home.availabilityTopic part)
      (hother : topic ≠ home.configTopic part) : announced topic = B.retained before topic :=
    (store_ne _ _ havailability).trans ((store_ne _ _ hother).trans (hretained topic havailability))
  refine ⟨hsame ▸ hsession, ?_, ?_, ?_, fun topic havailability hother hne => ?_, fun clientId hclient => ?_⟩
  · rw [hafter]
    cases payload with
    | none => exact havailable
    | some payload => exact (store_ne _ _ hstate).trans havailable
  · rw [hafter]
    cases payload with
    | none => exact hconfigured
    | some payload => exact (store_ne _ _ hapart).trans hconfigured
  · rw [hafter]
    cases payload with
    | none => exact hothers _ hstate.symm hapart.symm
    | some payload => exact store_self _ _ rfl
  · rw [hafter]
    cases payload with
    | none => exact hothers topic havailability hother
    | some payload => exact (store_ne _ _ hne).trans (hothers topic havailability hother)
  · rw [hsame, hsessions clientId hclient]

end Home

namespace Equipment

variable {home : Home} {P : Platform} {E : Equipment home} {B : MqttBroker}

-- The coroutines of one entity run on while nothing else happens.
theorem Pools.reach_pool (pools : E.Pools) (place : home.Part × Nat) {pool : Pool (E.world place.1) Unit}
    (hreach : Pool.Reach (E.partArena P place.1) (pools place) pool) :
    ∃ later, Pools.Reach P E pools later ∧ later place = pool := by
  classical
  induction hreach with
  | refl => exact ⟨pools, .refl, rfl⟩
  | @tail between last _ hstep ih =>
      obtain ⟨later, hlater, rfl⟩ := ih
      have hpool : Function.update later place last place = last := Function.update_self _ _ _
      refine ⟨Function.update later place last, hlater.tail ⟨place, ?_, ?_⟩, hpool⟩
      · rw [hpool]
        exact hstep
      · exact fun other hother => Function.update_of_ne hother _ _

theorem Network.reach_pools (network : E.Network B) {pools : E.Pools} (h : Pools.Reach P E network.pools pools) :
    Network.Reach P E network { network with pools := pools } := by
  induction h with
  | refl => exact .refl
  | tail _ hstep ih =>
      obtain ⟨place, hstep⟩ := hstep
      exact ih.tail (.run _ place _ hstep)

-- What has been handed over arrives.
theorem Network.reach_arrivals (network : E.Network B) (place : home.Part × Nat) (packets : List Outgoing)
    (hpackets : ∀ packet ∈ packets, packet ∈ (network.pools place).point.1) {broker : B.State}
    (htakes : B.Takes network.broker (home.arrivals place.1 packets) broker) :
    Network.Reach P E network { network with broker := broker } := by
  induction packets generalizing network with
  | nil =>
      obtain rfl : broker = network.broker := htakes
      exact .refl
  | cons packet packets ih =>
      have hrest := fun packet hpacket => hpackets packet (List.mem_cons_of_mem _ hpacket)
      unfold Home.arrivals at htakes
      cases hevent : arrival (home.clientId place.1) packet with
      | none =>
          rw [List.filterMap_cons_none hevent] at htakes
          exact ih network hrest htakes
      | some event =>
          rw [List.filterMap_cons_some hevent] at htakes
          obtain ⟨middle, hmoves, htakes⟩ := htakes
          exact .head (.arrive network place packet event middle (hpackets packet List.mem_cons_self) hevent hmoves)
            (ih { network with broker := middle } hrest htakes)

-- A new coroutine of a pool runs to its end.
theorem reach_spawned {part : home.Part} (pool : Pool (E.world part) Unit) {task : Async (Entity × E.Device part) Unit}
    (hspawn : E.PartSpawn P part pool.point pool.point task) (ids : List Outgoing → PacketId)
    {outcome : Outcome sig Unit} {later : List Outgoing × Entity × E.Device part}
    (hrun : exec (E.world part) (fun sent _ => healthy ids sent) task pool.point = (outcome, later)) :
    Pool.Reach (E.partArena P part) pool ⟨later, pool.tasks ++ [outcome.task]⟩ := by
  have hset (first second : Async (Entity × E.Device part) Unit) :
      (pool.tasks ++ [first]).set pool.tasks.length second = pool.tasks ++ [second] := by
    simp
  have hreach := Pool.reach_exec (E.partArena P part) (fun sent _ => healthy ids sent) (fun _ _ _ => trivial)
    (pool.tasks ++ [(settle (E.world part) task pool.point).task]) pool.tasks.length (by simp) task pool.point
  rw [hset, hset, hrun] at hreach
  exact .head (.spawn pool pool.point task hspawn) hreach

-- Whatever has happened, an entity can come to have said its greeting.
theorem reach_greeting {pools : E.Pools} (place : home.Part × Nat) (hquiet : Quiet (P := P) place.1 (pools place))
    {complete : EntityConfig}
    (hcomplete : (home.kind place.1).completeConfig (home.entity place.1)
      ((E.impl place.1).config (pools place).point.2.2) = .ok complete) {payload : Option Bytes}
    (hshown : shown (E.impl place.1) (pools place).point.2.2 = .ok payload) :
    ∃ later, Pools.Reach P E pools later ∧
      (later place).point.1 = (pools place).point.1 ++
        Home.greeting P (fun _ => 1) place.1 complete payload (pools place).point.1 := by
  have hnames : SameNames (home.entity place.1) (home.adapterEntity place.1) := ⟨rfl, rfl⟩
  rw [← completeConfig_congr _ hnames] at hcomplete
  have hinit := succeeds_connection P (fun _ => 1) 0 (pools place).point.1 hquiet.state hcomplete hshown _
    List.mem_cons_self
  have hspawned : Succeeds (fun _ => 1) () _ (fun _ => True) (do
      let _ ← EntityAdapter.asyncInit ((home.kind place.1).operations P 1 (E.impl place.1))
      return ()) ((pools place).point.1, (pools place).point.2) :=
    succeeds_bind_silent hinit fun last _ => succeeds_ret () trivial
  obtain ⟨value, later, hrun, -, hsent, -⟩ := hspawned
  have hpool := reach_spawned (pools place) (.init (pools place).point 1) (fun _ => 1) hrun
  obtain ⟨ran, hran, hplace⟩ := Pools.reach_pool pools place hpool
  refine ⟨ran, hran, ?_⟩
  rw [hplace]
  exact hsent

section Samples

def sampleHome : Home where
  identity := ⟨[], [], [], [], []⟩
  broker := {}
  boardId := 0
  hatches := {1}
  tempSensors := ∅
  disjoint := Set.disjoint_empty _
  board_fresh := by simp

def samplePart : sampleHome.Part := .hatch ⟨1, rfl⟩

def openImpl : (kind : EntityKind) → Impl kind.Command kind.State Unit
  | .cover => ⟨fun _ => {}, some fun _ => .ok .open, fun _ => .ok⟩
  | .button => ⟨fun _ => {}, none, fun _ => .ok⟩
  | .binarySensor => ⟨fun _ => {}, none, fun _ => .ok⟩
  | .sensor => ⟨fun _ => {}, none, fun _ => .ok⟩

def sampleEquipment : Equipment sampleHome := ⟨fun _ => Unit, fun part => openImpl (sampleHome.kind part)⟩

def openPlatform : Platform := { samplePlatform with serialize := fun _ => ascii "{}" }

abbrev mqttLedger : MqttBroker := Ledger.broker Bytes Bytes UInt8

abbrev emptyLedger : mqttLedger.State := Ledger.empty

-- The network once the hatch is shown as open.
theorem reach_shown (E : Equipment sampleHome) (device : (place : sampleHome.Part × Nat) → E.Device place.1)
    {complete : EntityConfig}
    (hcomplete : EntityKind.cover.completeConfig (sampleHome.entity samplePart)
      ((E.impl samplePart).config (device (samplePart, 0))) = .ok complete)
    (hshown : shown (E.impl samplePart) (device (samplePart, 0)) = .ok (some (ascii "open"))) :
    ∃ network : E.Network mqttLedger,
      Network.Reach openPlatform E ⟨E.newPools device, emptyLedger⟩ network ∧
        Pools.Reach openPlatform E (E.newPools device) network.pools ∧
        (network.pools (samplePart, 0)).point.1 =
          Home.greeting openPlatform (fun _ => 1) samplePart complete (some (ascii "open")) [] ∧
        Home.ShowsOnline mqttLedger samplePart (ascii "{}") (some (ascii "open")) emptyLedger network.broker := by
  obtain ⟨pools, hpools, hsent⟩ :=
    reach_greeting (P := openPlatform) (samplePart, 0) (quiet_newPools device _) hcomplete hshown
  let greeting := Home.greeting openPlatform (fun _ => 1) samplePart complete (some (ascii "open")) []
  have htakes := Ledger.takes_foldl emptyLedger (sampleHome.arrivals samplePart greeting)
  let network : E.Network mqttLedger := ⟨pools, (sampleHome.arrivals samplePart greeting).foldl Ledger.step emptyLedger⟩
  have hrun : Network.Reach openPlatform E ⟨E.newPools device, emptyLedger⟩ ⟨pools, emptyLedger⟩ :=
    Network.reach_pools ⟨E.newPools device, emptyLedger⟩ hpools
  have harrive : Network.Reach openPlatform E ⟨pools, emptyLedger⟩ network :=
    Network.reach_arrivals ⟨pools, emptyLedger⟩ (samplePart, 0) greeting (fun packet hpacket => hsent ▸ hpacket) htakes
  refine ⟨network, hrun.trans harrive, hpools, hsent, ?_⟩
  exact Home.showsOnline_greeting (Ledger.conforms _ _ _) openPlatform (fun _ => 1) complete _ []
    (PubSub.Broker.truthful_fresh (Ledger.fresh_empty _ _ _)) htakes

theorem reach_sample : ∃ network : sampleEquipment.Network mqttLedger,
    Network.Reach openPlatform sampleEquipment ⟨sampleEquipment.newPools fun _ => (), emptyLedger⟩ network ∧
      Home.ShowsOnline mqttLedger samplePart (ascii "{}") (some (ascii "open")) emptyLedger network.broker := by
  obtain ⟨network, hreach, -, -, hshows⟩ := reach_shown sampleEquipment (fun _ => ()) rfl rfl
  exact ⟨network, hreach, hshows⟩

end Samples

-- Whatever the coroutines of an entity are answered and however they are interleaved, it
-- says only what is its own to say.
theorem handed_spoken (devices : (place : home.Part × Nat) → E.Device place.1) {pools : E.Pools}
    (hreach : Pools.Reach P E (E.newPools devices) pools) (place : home.Part × Nat) :
    ∀ packet ∈ (pools place).point.1, E.PartSpeaks P place.1 packet :=
  (hreach.quiet (quiet_newPools devices) place).world

theorem handed_spoken_sample : ∃ pools : sampleEquipment.Pools,
    (pools (samplePart, 0)).point.1.length = 5 ∧
      ∀ packet ∈ (pools (samplePart, 0)).point.1, sampleEquipment.PartSpeaks openPlatform samplePart packet := by
  obtain ⟨network, -, hreach, hsent, -⟩ := reach_shown sampleEquipment (fun _ => ()) rfl rfl
  exact ⟨network.pools, by rw [hsent]; rfl, handed_spoken _ hreach (samplePart, 0)⟩

-- Whoever is shown as online has a session, and whoever is lost is shown as offline.
theorem shown_truthfully (hconforms : B.Conforms) (devices : (place : home.Part × Nat) → E.Device place.1)
    {first : B.State} (hfresh : B.Fresh first) {network : E.Network B}
    (hreach : Network.Reach P E ⟨E.newPools devices, first⟩ network) (part : home.Part) :
    (∀ payload, B.retained network.broker (home.availabilityTopic part) = some payload →
      payload = ascii "offline" ∨
        payload = ascii "online" ∧ B.sessions network.broker (home.clientId part) ≠ none) ∧
      ∀ after, B.sessions network.broker (home.clientId part) ≠ none →
        B.Moves network.broker (.lost (home.clientId part)) after →
        B.retained after (home.availabilityTopic part) = some (ascii "offline") := by
  have htruthful := ((orderly_fresh devices hfresh).reach hconforms hreach).truthful
  exact ⟨htruthful.present part, fun after hsession =>
    htruthful.lost hconforms home.clientId_injective (by decide) hsession⟩

theorem shown_truthfully_sample : ∃ network : sampleEquipment.Network mqttLedger,
    mqttLedger.retained network.broker (sampleHome.availabilityTopic samplePart) = some (ascii "online") ∧
      mqttLedger.sessions network.broker (sampleHome.clientId samplePart) ≠ none ∧
      mqttLedger.retained (network.broker.step (.lost (sampleHome.clientId samplePart)))
        (sampleHome.availabilityTopic samplePart) = some (ascii "offline") := by
  obtain ⟨network, hreach, hshows⟩ := reach_sample
  exact ⟨network, hshows.availability, hshows.session,
    (shown_truthfully (Ledger.conforms _ _ _) _ (Ledger.fresh_empty _ _ _) hreach samplePart).2 _ hshows.session rfl⟩

-- Whatever is retained is what exactly one part publishes there.
theorem retained_owned (hconforms : B.Conforms) (devices : (place : home.Part × Nat) → E.Device place.1)
    {first : B.State} (hfresh : B.Fresh first) {network : E.Network B}
    (hreach : Network.Reach P E ⟨E.newPools devices, first⟩ network) (topic payload : Bytes)
    (hretained : B.retained network.broker topic = some payload) : ∃! part, E.Retains P part topic payload := by
  obtain ⟨part, hpart⟩ := ((orderly_fresh devices hfresh).reach hconforms hreach).owned.retained topic payload hretained
  exact ⟨part, hpart, fun other hother => hother.unique hpart⟩

theorem retained_owned_sample : ∃ network : sampleEquipment.Network mqttLedger,
    mqttLedger.retained network.broker (sampleHome.stateTopic samplePart) = some (ascii "open") ∧
      ∃! part, sampleEquipment.Retains openPlatform part (sampleHome.stateTopic samplePart) (ascii "open") := by
  obtain ⟨network, hreach, hshows⟩ := reach_sample
  have hopen : mqttLedger.retained network.broker (sampleHome.stateTopic samplePart) = some (ascii "open") :=
    hshows.state
  exact ⟨network, hopen,
    retained_owned (Ledger.conforms _ _ _) _ (Ledger.fresh_empty _ _ _) hreach _ _ hopen⟩

-- Where nothing fails, an entity that connects, for the first time or again, returns true
-- once it has handed over its greeting; and a broker that gets all of this shows it with its
-- configuration and its state.
theorem goes_online (P : Platform) (E : Equipment home) (ids : List Outgoing → PacketId) (fuel : Nat)
    (part : home.Part) (adapter : Entity × E.Device part) (sent : List Outgoing)
    (hadapter : SameOrigin (home.adapterEntity part) adapter.1) {complete : EntityConfig}
    (hcomplete : (home.kind part).completeConfig (home.entity part) ((E.impl part).config adapter.2) = .ok complete)
    {payload : Option Bytes} (hshown : shown (E.impl part) adapter.2 = .ok payload) :
    (∀ task ∈ [EntityAdapter.asyncInit ((home.kind part).operations P (fuel + 1) (E.impl part)),
        EntityAdapter.asyncHandleDisconnectedError ((home.kind part).operations P (fuel + 1) (E.impl part))],
      Succeeds ids true (Home.greeting P ids part complete payload sent)
        (AdapterLinked (home.adapterEntity part) adapter.2) task (sent, adapter)) ∧
      ∀ (B : MqttBroker) (before after : B.State), B.Conforms → home.TruthfulBroker B before →
        B.Takes before (home.arrivals part (Home.greeting P ids part complete payload sent)) after →
        Home.ShowsOnline B part (P.serialize (configObject (home.entity part) complete)) payload before after := by
  have hnames : SameNames (home.entity part) (home.adapterEntity part) := ⟨rfl, rfl⟩
  refine ⟨?_, fun B before after hconforms htruthful htakes =>
    Home.showsOnline_greeting hconforms P ids complete payload sent htruthful htakes⟩
  rw [← completeConfig_congr _ hnames] at hcomplete
  exact succeeds_connection P ids fuel _ hadapter hcomplete hshown

theorem goes_online_sample : ∃ complete, (∀ task ∈
      [EntityAdapter.asyncInit (EntityKind.cover.operations openPlatform 1 (openImpl .cover)),
        EntityAdapter.asyncHandleDisconnectedError (EntityKind.cover.operations openPlatform 1 (openImpl .cover))],
    Succeeds (fun _ => 1) true (Home.greeting openPlatform (fun _ => 1) samplePart complete (some (ascii "open")) [])
      (AdapterLinked (sampleHome.adapterEntity samplePart) ()) task ([], sampleHome.adapterEntity samplePart, ())) ∧
    Home.ShowsOnline mqttLedger samplePart (ascii "{}") (some (ascii "open")) emptyLedger
      ((sampleHome.arrivals samplePart
        (Home.greeting openPlatform (fun _ => 1) samplePart complete (some (ascii "open")) [])).foldl
          Ledger.step emptyLedger) := by
  obtain ⟨hgreets, hshows⟩ := goes_online openPlatform sampleEquipment (fun _ => 1) 0 samplePart
    (sampleHome.adapterEntity samplePart, ()) [] ⟨⟨rfl, rfl⟩, rfl, rfl⟩ rfl rfl
  exact ⟨_, hgreets, hshows mqttLedger _ _ (Ledger.conforms _ _ _)
    (PubSub.Broker.truthful_fresh (Ledger.fresh_empty _ _ _)) (Ledger.takes_foldl _ _)⟩

end Equipment
end HhctrlMgmt.Adapter
