import HhctrlMgmt.Adapter.Identities
import HhctrlMgmt.Adapter.Speech
import HhctrlMgmt.PubSub.Broker

namespace HhctrlMgmt.Adapter

open Common Coroutine Mqtt PubSub

abbrev MqttBroker := PubSub.Broker Bytes Bytes UInt8

abbrev MqttEvent := PubSub.Event Bytes Bytes UInt8

def publishMessage (packet : PublishPacket) : Message Bytes UInt8 :=
  ⟨packet.topic, packet.payload, packet.opts.retain⟩

def willMessage (will : Will) : Message Bytes UInt8 :=
  ⟨will.topic, will.message, will.opts.retain⟩

-- What a broker makes of a packet on the connection of a client; a subscription changes
-- nothing that it retains.
def arrival (clientId : Bytes) : Outgoing → Option MqttEvent
  | .connect packet => some (.connected packet.clientId (packet.will.map willMessage))
  | .publish packet => some (.published clientId (publishMessage packet))
  | .subscribe _ => none

namespace Home

variable (home : Home)

def kind : home.Part → EntityKind
  | .hatch _ => .cover
  | .tempSensor _ => .sensor
  | .indicator _ => .binarySensor
  | .restartButton => .button

def availabilityTopic (part : home.Part) : Bytes :=
  (home.entity part).topic GenericEntityConfig.availabilityTopic

def clientId (part : home.Part) : Bytes :=
  (home.entity part).client.config.uniqueId

-- The entity of a part in its adapter.
def adapterEntity (part : home.Part) : Entity :=
  (home.entity part).setWill ⟨home.availabilityTopic part, ascii "offline", ⟨.atMostOnce, true⟩⟩

theorem createAdapter_eq (part : home.Part) : createAdapter (home.entity part) = .ok (home.adapterEntity part) := rfl

theorem clientId_injective : Function.Injective home.clientId := by
  intro part other heq
  unfold clientId at heq
  rw [clientId_eq, clientId_eq, uniqueId_eq, uniqueId_eq] at heq
  exact home.suffix_injective (List.append_cancel_left (List.append_cancel_left heq))

end Home

-- What stands behind the parts of a home.
structure Equipment (home : Home) where
  Device : home.Part → Type
  impl : (part : home.Part) → Impl (home.kind part).Command (home.kind part).State (Device part)

namespace Equipment

variable {home : Home} (P : Platform) (E : Equipment home)

abbrev world (part : home.Part) : World sig (Entity × E.Device part) :=
  endpoint.world (Entity × E.Device part)

-- What co_spawn starts for an entity. The fuel bounds the reconnects and the rounds of
-- async_run.
inductive PartSpawn (part : home.Part) :
    (E.world part).Point → (E.world part).Point → Async (Entity × E.Device part) Unit → Prop
  | init (point : (E.world part).Point) (fuel : Nat) :
      PartSpawn part point point (do
        let _ ← EntityAdapter.asyncInit ((home.kind part).operations P fuel (E.impl part))
        return ())
  | run (point : (E.world part).Point) (fuel rounds : Nat) :
      PartSpawn part point point (EntityAdapter.asyncRun ((home.kind part).operations P fuel (E.impl part)) rounds)
  | syncState (point : (E.world part).Point) (fuel : Nat) :
      PartSpawn part point point (EntityAdapter.asyncSyncState ((home.kind part).operations P fuel (E.impl part)))

-- The device behind the entity changes at any time.
def partArena (part : home.Part) : Arena (E.world part) Unit where
  env before after := after.1 = before.1 ∧ after.2.1 = before.2.1
  spawn := E.PartSpawn P part

-- The coroutines of all parts. A number tells apart the entities that a part has had: its
-- device is created again, or the program started anew.
abbrev Pools :=
  (place : home.Part × Nat) → Pool (E.world place.1) Unit

-- The coroutines of one entity go on.
structure Pools.Step (before after : E.Pools) (place : home.Part × Nat) : Prop where
  pool : Pool.Step (E.partArena P place.1) (before place) (after place)
  others : ∀ other, other ≠ place → after other = before other

def Pools.Reach : E.Pools → E.Pools → Prop :=
  Relation.ReflTransGen fun before after => ∃ place, Pools.Step P E before after place

-- New entities.
def newPools (devices : (place : home.Part × Nat) → E.Device place.1) : E.Pools :=
  fun place => ⟨([], home.adapterEntity place.1, devices place), []⟩

-- All that goes on between the parts of a home and their broker, whichever that is.
structure Network (B : MqttBroker) where
  pools : E.Pools
  broker : B.State

variable {B : MqttBroker}

-- The coroutines of one entity go on, a packet that has been handed over arrives, the
-- broker loses a client, or it starts again. Packets overtake each other, get lost, and
-- arrive more than once.
inductive Network.Step : E.Network B → E.Network B → Prop
  | run (network : E.Network B) (place : home.Part × Nat) (pools : E.Pools)
      (hstep : Pools.Step P E network.pools pools place) : Step network { network with pools := pools }
  | arrive (network : E.Network B) (place : home.Part × Nat) (packet : Outgoing) (event : MqttEvent)
      (broker : B.State) (hpacket : packet ∈ (network.pools place).point.1)
      (hevent : arrival (home.clientId place.1) packet = some event) (hmoves : B.Moves network.broker event broker) :
      Step network { network with broker := broker }
  | lose (network : E.Network B) (clientId : Bytes) (broker : B.State)
      (hmoves : B.Moves network.broker (.lost clientId) broker) : Step network { network with broker := broker }
  | restart (network : E.Network B) (broker : B.State) (hmoves : B.Moves network.broker .restarted broker) :
      Step network { network with broker := broker }

def Network.Reach : E.Network B → E.Network B → Prop :=
  Relation.ReflTransGen (Network.Step P E)

variable {P E}

section Parts

variable (P E) (part : home.Part)

abbrev PartSpeaks : Outgoing → Prop :=
  Speaks P (E.impl part) (home.adapterEntity part)

-- What a part retains at the broker.
inductive Retains : Bytes → Bytes → Prop
  | offline : Retains (home.availabilityTopic part) (ascii "offline")
  | online : Retains (home.availabilityTopic part) (ascii "online")
  | config (device : E.Device part) (complete : EntityConfig)
      (hcomplete : (home.kind part).completeConfig (home.entity part) ((E.impl part).config device) = .ok complete) :
      Retains (setConfigTopic (home.entity part)) (P.serialize (configObject (home.entity part) complete))
  | state (read : E.Device part → Except Exn (home.kind part).State) (device : E.Device part)
      (value : (home.kind part).State) (payload : Bytes) (hread : (E.impl part).state = some read)
      (hvalue : read device = .ok value) (hpayload : (home.kind part).statePayload value = some payload) :
      Retains ((home.entity part).topic EntityKind.stateTopic) payload

variable {P E}

theorem Retains.topicName {part : home.Part} {topic payload : Bytes} (h : E.Retains P part topic payload) :
    ∃ name, topic = TopicName.topic (home.entity part) name := by
  cases h with
  | offline => exact ⟨.availability, rfl⟩
  | online => exact ⟨.availability, rfl⟩
  | config _ _ _ => exact ⟨.config, rfl⟩
  | state _ _ _ _ _ _ _ => exact ⟨.state, rfl⟩

theorem Retains.unique {part other : home.Part} {topic payload otherPayload : Bytes}
    (h : E.Retains P part topic payload) (hother : E.Retains P other topic otherPayload) : part = other := by
  obtain ⟨name, hname⟩ := h.topicName
  obtain ⟨otherName, hotherName⟩ := hother.topicName
  have hplaces : (part, name) = (other, otherName) := home.topic_injective (hname.symm.trans hotherName)
  exact congrArg Prod.fst hplaces

end Parts

section Invariant

-- The coroutines of an entity say only what is its own to say, and it keeps its names.
abbrev Quiet (part : home.Part) (pool : Pool (E.world part) Unit) : Prop :=
  pool.Asks (fun adapter => SameOrigin (home.adapterEntity part) adapter.1) (Query.Hands (E.PartSpeaks P part))
    (fun sent : List Outgoing => ∀ packet ∈ sent, E.PartSpeaks P part packet)

theorem asks_partArena (part : home.Part) :
    (E.partArena P part).Asks (fun adapter => SameOrigin (home.adapterEntity part) adapter.1)
      (Query.Hands (E.PartSpeaks P part))
      (fun sent : List Outgoing => ∀ packet ∈ sent, E.PartSpeaks P part packet) where
  env before after henv hnames hlog := ⟨henv.2 ▸ hnames, henv.1 ▸ hlog⟩
  spawn before after task hspawn hnames hlog := by
    cases hspawn with
    | init fuel => exact ⟨hnames, hlog, asks_bind (says_adapterInit P fuel) fun _ => asks_ret _⟩
    | run fuel rounds => exact ⟨hnames, hlog, says_adapterRun P fuel rounds⟩
    | syncState fuel => exact ⟨hnames, hlog, says_syncState P fuel⟩

-- The entities do so from the start.
theorem quiet_newPools (devices : (place : home.Part × Nat) → E.Device place.1) (place : home.Part × Nat) :
    Quiet (P := P) place.1 (E.newPools devices place) :=
  ⟨⟨⟨rfl, rfl⟩, rfl, rfl⟩, fun _ hmem => absurd hmem List.not_mem_nil, fun _ hmem => absurd hmem List.not_mem_nil⟩

theorem Pools.Step.quiet {before after : E.Pools} {place : home.Part × Nat} (h : Pools.Step P E before after place)
    (hquiet : ∀ other, Quiet (P := P) other.1 (before other)) (other : home.Part × Nat) :
    Quiet (P := P) other.1 (after other) := by
  by_cases hother : other = place
  · subst hother
    exact (hquiet other).step (attends_endpoint _) (asks_partArena other.1) h.pool
  · rw [h.others other hother]
    exact hquiet other

theorem Pools.Reach.quiet {first last : E.Pools} (h : Pools.Reach P E first last)
    (hquiet : ∀ place, Quiet (P := P) place.1 (first place)) (place : home.Part × Nat) :
    Quiet (P := P) place.1 (last place) := by
  induction h generalizing place with
  | refl => exact hquiet place
  | tail _ hstep ih =>
      obtain ⟨_, hstep⟩ := hstep
      exact hstep.quiet ih place

variable (home) in
def Heralds : MqttEvent → Prop :=
  PubSub.Broker.Heralds home.clientId home.availabilityTopic (ascii "online") (ascii "offline")

variable (P E) in
def Keeps (topic payload : Bytes) : Prop :=
  ∃ part, E.Retains P part topic payload

theorem heralds_arrival {part : home.Part} {packet : Outgoing} (h : E.PartSpeaks P part packet)
    {event : MqttEvent} (hevent : arrival (home.clientId part) packet = some event) :
    Heralds home event := by
  -- nobody publishes on the availability topic of another part
  have hother (name : TopicName) (hname : name ≠ .availability) (other : home.Part) :
      name.topic (home.entity part) ≠ home.availabilityTopic other := by
    intro htopic
    have hplaces : (part, name) = (other, TopicName.availability) := home.topic_injective htopic
    exact hname (congrArg Prod.snd hplaces)
  cases h with
  | connect =>
      obtain rfl := Option.some.inj hevent
      exact .connected part
  | config device complete packetId hcomplete =>
      obtain rfl := Option.some.inj hevent
      exact .published part _ fun other htopic => absurd htopic (hother .config (by decide) other)
  | subscribe topic packetId hkind => cases hevent
  | online packetId =>
      obtain rfl := Option.some.inj hevent
      refine .published part _ fun other htopic => ⟨?_, Or.inl rfl⟩
      have hplaces : (part, TopicName.availability) = (other, TopicName.availability) := home.topic_injective htopic
      exact (congrArg Prod.fst hplaces).symm
  | state read device value payload packetId hread hvalue hpayload =>
      obtain rfl := Option.some.inj hevent
      exact .published part _ fun other htopic => absurd htopic (hother .state (by decide) other)

theorem permits_arrival {part : home.Part} {packet : Outgoing} (h : E.PartSpeaks P part packet)
    {event : MqttEvent} (hevent : arrival (home.clientId part) packet = some event) :
    PubSub.Broker.Permits (E.Keeps P) event := by
  cases h with
  | connect =>
      obtain rfl := Option.some.inj hevent
      rintro message hmessage -
      obtain rfl := Option.some.inj hmessage
      exact ⟨part, .offline⟩
  | config device complete packetId hcomplete =>
      obtain rfl := Option.some.inj hevent
      have hnames : SameNames (home.entity part) (home.adapterEntity part) := ⟨rfl, rfl⟩
      rw [completeConfig_congr _ hnames] at hcomplete
      exact fun _ => ⟨part, .config device complete hcomplete⟩
  | subscribe topic packetId hkind => cases hevent
  | online packetId =>
      obtain rfl := Option.some.inj hevent
      exact fun _ => ⟨part, .online⟩
  | state read device value payload packetId hread hvalue hpayload =>
      obtain rfl := Option.some.inj hevent
      exact fun _ => ⟨part, .state read device value payload hread hvalue hpayload⟩

variable {B : MqttBroker}

variable (P) in
structure Orderly (network : E.Network B) : Prop where
  quiet : ∀ place, Quiet (P := P) place.1 (network.pools place)
  truthful : B.Truthful home.clientId home.availabilityTopic (ascii "online") (ascii "offline") network.broker
  owned : B.Owned (E.Keeps P) network.broker

-- New entities, and a broker that has seen none of them.
theorem orderly_fresh (devices : (place : home.Part × Nat) → E.Device place.1) {broker : B.State}
    (hfresh : B.Fresh broker) : Orderly P (⟨E.newPools devices, broker⟩ : E.Network B) where
  quiet := quiet_newPools devices
  truthful := PubSub.Broker.truthful_fresh hfresh
  owned := PubSub.Broker.owned_fresh hfresh

theorem Orderly.step {before after : E.Network B} (h : Orderly P before) (hconforms : B.Conforms)
    (hstep : Network.Step P E before after) : Orderly P after := by
  cases hstep with
  | run place pools hstep => exact ⟨hstep.quiet h.quiet, h.truthful, h.owned⟩
  | arrive place packet event broker hpacket hevent hmoves =>
      have hspeaks := (h.quiet place).world packet hpacket
      exact ⟨h.quiet, h.truthful.moves hconforms home.clientId_injective hmoves (heralds_arrival hspeaks hevent),
        h.owned.moves hconforms hmoves (permits_arrival hspeaks hevent)⟩
  | lose clientId broker hmoves =>
      have hpermits : PubSub.Broker.Permits (E.Keeps P) (.lost clientId) := trivial
      exact ⟨h.quiet, h.truthful.moves hconforms home.clientId_injective hmoves (.lost clientId),
        h.owned.moves hconforms hmoves hpermits⟩
  | restart broker hmoves =>
      have hpermits : PubSub.Broker.Permits (E.Keeps P) (.restarted : MqttEvent) := trivial
      exact ⟨h.quiet, h.truthful.moves hconforms home.clientId_injective hmoves .restarted,
        h.owned.moves hconforms hmoves hpermits⟩

theorem Orderly.reach {first last : E.Network B} (h : Orderly P first) (hconforms : B.Conforms)
    (hreach : Network.Reach P E first last) : Orderly P last := by
  induction hreach with
  | refl => exact h
  | tail _ hstep ih => exact ih.step hconforms hstep

end Invariant

end Equipment
end HhctrlMgmt.Adapter
