import HhctrlMgmt.Adapter.EntityKind
import HhctrlMgmt.Mqtt.Client.Script

namespace HhctrlMgmt.Adapter

open Common Coroutine Mqtt

section Journal

-- The packet that an entry has sent.
def sentBy : Entry sig → Option Outgoing
  | .answered (.send packet) answer => if @Option.isNone SystemError answer then some packet else none
  | _ => none

def lastSent (log : Diary) : Option Outgoing :=
  (log.filterMap sentBy).getLast?

def sentEntry (packet : Outgoing) : Diary := [.answered (.send packet) none]

def receivedEntry (packet : Packet) : Diary := [.answered .recv (.ok packet)]

@[simp] theorem lastSent_asked (log : Diary) (query : Query) : lastSent (log ++ [.asked query]) = lastSent log := by
  simp [lastSent, sentBy]

theorem lastSent_sent (log : Diary) (packet : Outgoing) :
    lastSent (log ++ completed (.send packet) none) = some packet := by
  simp [lastSent, exchange, sentBy]

theorem lastSent_receptions (log : Diary) (packets : List Packet) :
    lastSent (log ++ receptions packets) = lastSent log := by
  have hnothing : (receptions packets).filterMap sentBy = [] := by
    induction packets with
    | nil => rfl
    | cons packet packets ih => exact ih
  rw [lastSent, List.filterMap_append, hnothing, List.append_nil]
  rfl

-- What a part of a run has added to the journal.
def Extends (before later evidence : Diary) : Prop :=
  ∃ more, later = before ++ more ∧ evidence.Sublist more

theorem Extends.trans {first second third evidence other : Diary} (h : Extends first second evidence)
    (h' : Extends second third other) : Extends first third (evidence ++ other) := by
  obtain ⟨more, rfl, hmore⟩ := h
  obtain ⟨rest, rfl, hrest⟩ := h'
  exact ⟨more ++ rest, List.append_assoc _ _ _, hmore.append hrest⟩

theorem extends_refl (log : Diary) : Extends log log [] :=
  ⟨[], (List.append_nil log).symm, List.Sublist.slnil⟩

theorem Extends.silent {before later evidence : Diary} (h : Extends before later evidence) (log : Diary) :
    Extends before (later ++ log) evidence := by
  obtain ⟨more, rfl, hmore⟩ := h
  exact ⟨more ++ log, List.append_assoc _ _ _, hmore.trans (List.sublist_append_left _ _)⟩

end Journal

section Property

-- An acknowledgement is that of the request that was sent last.
def Acknowledges : Option Outgoing → Packet → Prop
  | some (.publish request), .puback acked => acked = request.packetId
  | some (.subscribe request), .suback suback => anySubackFailure suback = false → suback.packetId = request.packetId
  | _, _ => True

variable (P : Platform) (entity : Entity)

-- The publish of an availability or of a state.
def Announces (packet : PublishPacket) : Prop :=
  packet.topic = entity.topic GenericEntityConfig.availabilityTopic ∨ packet.topic = entity.topic EntityKind.stateTopic

def Fits (before : Diary) : Entry sig → Prop
  | .answered (.send (.publish packet)) answer =>
      Announces entity packet → ∀ e : SystemError, @Eq (Option SystemError) answer (some e) → ¬Mapped P e.code
  | .answered .recv answer =>
      ∀ packet : Packet, @Eq (Except SystemError Packet) answer (.ok packet) → Acknowledges (lastSent before) packet
  | _ => True

-- No publish of the availability or of a state fails by an error that is reported, and
-- what is received for the last request is its own acknowledgement.
def Unbroken (log : Diary) : Prop :=
  ∀ before entry after, log = before ++ entry :: after → Fits P entity before entry

variable {δ : Type} (kind : EntityKind) (impl : Impl kind.Command kind.State δ) (device : δ)

-- A subscription that the broker has granted, of an entity that has one.
def Granted (subscription : Diary) : Prop :=
  match kind.commandTopic with
  | none => subscription = []
  | some topic => ∃ suback, anySubackFailure suback = false ∧
      subscription = sentEntry (subscribing [entity.topic topic] suback.packetId) ++ receivedEntry (.suback suback)

-- The publish of the state, of a synchronizable entity.
def SyncedState (state : Diary) : Prop :=
  match impl.state with
  | none => state = []
  | some read => ∃ value, read device = .ok value ∧
      match kind.statePayload value with
      | none => state = []
      | some payload => ∃ packetId,
          state = sentEntry (publishing (entity.topic EntityKind.stateTopic) payload adapterDefaultPubopts packetId)

def configPublish (complete : EntityConfig) (packetId : PacketId) : Outgoing :=
  publishing (setConfigTopic entity) (P.serialize (configObject entity complete)) adapterDefaultPubopts packetId

def onlinePublish (packetId : PacketId) : Outgoing :=
  publishing (entity.topic GenericEntityConfig.availabilityTopic) (ascii "online") adapterDefaultPubopts packetId

-- The entity is online: the configuration has been published and acknowledged, the
-- subscription granted, and the availability and the state have been published.
def Online (log : Diary) : Prop :=
  ∃ complete configId subscription onlineId state,
    kind.completeConfig entity (impl.config device) = .ok complete ∧
    Granted entity kind subscription ∧ SyncedState entity kind impl device state ∧
    List.Sublist (sentEntry (configPublish P entity complete configId) ++ receivedEntry (.puback configId) ++ subscription ++
      sentEntry (onlinePublish entity onlineId) ++ state) log

end Property

section Unbroken

variable {P : Platform} {entity : Entity}

theorem Unbroken.earlier {first second : Diary} (h : Unbroken P entity (first ++ second)) :
    Unbroken P entity first := by
  intro before entry after hlog
  refine h before entry (after ++ second) ?_
  rw [hlog, List.append_assoc, List.cons_append]

theorem Unbroken.concat {log : Diary} {entry : Entry sig} (h : Unbroken P entity log) (hfits : Fits P entity log entry) :
    Unbroken P entity (log ++ [entry]) := by
  intro before other after hlog
  rcases List.eq_nil_or_concat after with rfl | ⟨rest, last, rfl⟩
  · obtain ⟨rfl, hentry⟩ := List.append_inj' hlog rfl
    obtain rfl : entry = other := List.singleton_inj.mp hentry
    exact hfits
  · rw [List.concat_eq_append, ← List.cons_append, ← List.append_assoc] at hlog
    exact h before other rest (List.append_inj' hlog rfl).1

theorem Unbroken.extends {before later evidence : Diary} (h : Unbroken P entity later)
    (hextends : Extends before later evidence) : Unbroken P entity before := by
  obtain ⟨more, rfl, -⟩ := hextends
  exact h.earlier

-- What is received last acknowledges what has been sent last.
theorem Unbroken.acknowledges {log : Diary} {skipped : List Packet} {packet : Packet}
    (h : Unbroken P entity (log ++ receptions (skipped ++ [packet]))) : Acknowledges (lastSent log) packet := by
  have hlog : log ++ receptions (skipped ++ [packet]) =
      (log ++ receptions skipped ++ [.asked .recv]) ++ .answered .recv (.ok packet) :: [] := by
    simp [receptions, exchange]
  have hfits := h _ _ _ hlog packet rfl
  rw [lastSent_asked, lastSent_receptions] at hfits
  exact hfits

theorem Unbroken.unmapped {log : Diary} {packet : PublishPacket} {e : SystemError}
    (h : Unbroken P entity (log ++ completed (.send (.publish packet)) (some e)))
    (hannounces : Announces entity packet) :
    ¬Mapped P e.code := by
  have hlog : log ++ completed (.send (.publish packet)) (some e) =
      (log ++ [.asked (.send (.publish packet))]) ++ .answered (.send (.publish packet)) (some e) :: [] := by
    simp [exchange]
  exact h _ _ _ hlog hannounces e rfl

theorem extends_sent (log acquired : Diary) (packet : Outgoing) :
    Extends log (log ++ acquired ++ completed (.send packet) none) (sentEntry packet) :=
  ⟨acquired ++ completed (.send packet) none, List.append_assoc _ _ _,
    List.singleton_sublist.mpr (List.mem_append_right _ (List.mem_cons_of_mem _ (List.mem_singleton.mpr rfl)))⟩

theorem extends_received (log : Diary) (skipped : List Packet) (packet : Packet) :
    Extends log (log ++ receptions (skipped ++ [packet])) (receivedEntry packet) := by
  refine ⟨_, rfl, List.singleton_sublist.mpr ?_⟩
  simp [receptions, exchange]

-- A publish of the availability or of the state has been sent.
theorem extends_published {topic payload : Bytes} {before later : Diary × Entity} {result : Error}
    (h : PublishEnds P topic payload adapterDefaultPubopts before result later)
    (hconnected : before.2.client.connected = true) (hunbroken : Unbroken P entity later.1)
    (hannounces : topic = entity.topic GenericEntityConfig.availabilityTopic ∨
      topic = entity.topic EntityKind.stateTopic) :
    ∃ packetId, Extends before.1 later.1 (sentEntry (publishing topic payload adapterDefaultPubopts packetId)) := by
  obtain ⟨-, outcome, hends, -⟩ := h
  obtain ⟨laterLog, laterEntity⟩ := later
  generalize hclient : laterEntity.client = client at hends
  cases hends with
  | refused e hrefused =>
      rcases hrefused with hdisconnected | hqos
      · exact absurd (hconnected.symm.trans hdisconnected) (by decide)
      · exact absurd hqos (by decide)
  | sent packetId acquired hacquired hconnected => exact ⟨packetId, extends_sent _ _ _⟩
  | failed packetId acquired hacquired e code hcode =>
      exact absurd ((mapErrorCode_ok_iff P e.code).mp ⟨code, hcode⟩) (hunbroken.unmapped hannounces)

-- The configuration that has been acknowledged.
theorem extends_config {config : EntityConfig} {before later : Diary × Entity}
    (h : ConfigSent (P.serialize (configObject before.2 config)) adapterDefaultPubopts before later)
    (hunbroken : Unbroken P entity later.1) :
    ∃ configId, Extends before.1 later.1
      (sentEntry (configPublish P before.2 config configId) ++ receivedEntry (.puback configId)) := by
  obtain ⟨-, -, packetId, acquired, -, acknowledgement, hack, hlog⟩ := h
  rw [Acknowledged, if_neg (by decide)] at hack
  obtain ⟨skipped, acked, -, rfl⟩ := hack
  rw [hlog] at hunbroken ⊢
  have hacked := hunbroken.acknowledges
  rw [lastSent_sent] at hacked
  obtain rfl : acked = packetId := hacked
  exact ⟨acked, (extends_sent _ _ _).trans (extends_received _ _ _)⟩

theorem extends_subscription {topic : Bytes} {before later : Diary × Entity} (h : SubscribeSent [topic] before later)
    (hunbroken : Unbroken P entity later.1) :
    ∃ suback, anySubackFailure suback = false ∧
      Extends before.1 later.1 (sentEntry (subscribing [topic] suback.packetId) ++ receivedEntry (.suback suback)) := by
  obtain ⟨-, -, packetId, skipped, suback, -, hgranted, hlog⟩ := h
  rw [hlog] at hunbroken ⊢
  have hacked := hunbroken.acknowledges
  rw [lastSent_sent] at hacked
  obtain rfl : suback.packetId = packetId := hacked hgranted
  exact ⟨suback, hgranted, (extends_sent _ _ _).trans (extends_received _ _ _)⟩

theorem KindConfigured.same {kind : EntityKind} {config : EntityConfig} {before later : Diary × Entity}
    (h : KindConfigured P kind config adapterDefaultPubopts before later) :
    SameEntity before.2 later.2 ∧ later.2.client.connected = true := by
  obtain ⟨complete, configured, -, hconfig, hsubscription⟩ := h
  have hconnected : configured.2.client.connected = true := by
    rw [hconfig.1.2.2]
    exact hconfig.2.1
  cases hkind : kind.commandTopic with
  | none =>
      rw [hkind] at hsubscription
      obtain rfl : later = configured := hsubscription
      exact ⟨hconfig.1, hconnected⟩
  | some topic =>
      rw [hkind] at hsubscription
      have hsubscribed : SubscribeSent [before.2.topic topic] configured later := hsubscription
      refine ⟨hconfig.1.trans hsubscribed.1, ?_⟩
      rw [hsubscribed.1.2.2]
      exact hconnected

theorem extends_configured {kind : EntityKind} {config : EntityConfig} {before later : Diary × Entity}
    (h : KindConfigured P kind config adapterDefaultPubopts before later) (hunbroken : Unbroken P entity later.1) :
    ∃ complete configId subscription, kind.completeConfig before.2 config = .ok complete ∧
      Granted before.2 kind subscription ∧
      Extends before.1 later.1 (sentEntry (configPublish P before.2 complete configId) ++
        receivedEntry (.puback configId) ++ subscription) := by
  obtain ⟨complete, configured, hcomplete, hconfig, hsubscription⟩ := h
  unfold Granted
  cases hkind : kind.commandTopic with
  | none =>
      rw [hkind] at hsubscription
      obtain rfl : later = configured := hsubscription
      obtain ⟨configId, hextends⟩ := extends_config hconfig hunbroken
      refine ⟨complete, configId, [], hcomplete, rfl, ?_⟩
      rw [List.append_nil]
      exact hextends
  | some topic =>
      rw [hkind] at hsubscription
      have hsubscribed : SubscribeSent [before.2.topic topic] configured later := hsubscription
      obtain ⟨suback, hgranted, hsubscription⟩ := extends_subscription hsubscribed hunbroken
      obtain ⟨configId, hextends⟩ := extends_config hconfig (hunbroken.extends hsubscription)
      exact ⟨complete, configId, _, hcomplete, ⟨suback, hgranted, rfl⟩, hextends.trans hsubscription⟩

end Unbroken

section Adapter

variable {δ : Type} (P : Platform) (fuel : Nat) (kind : EntityKind) (impl : Impl kind.Command kind.State δ)

-- A part of an adapter whose packets are not restricted.
abbrev AdapterLogs {α : Type} (ret : α → Diary × Entity × δ → Prop) (task : Async (Entity × δ) α)
    (point : Diary × Entity × δ) : Prop :=
  (journal sig).Keeps (Requests fun _ => True) ret task point

theorem logs_onEntity {α : Type} {ret : α → Diary × Entity → Prop} (task : EntityM α) (log : Diary) (entity : Entity)
    (device : δ) (h : EntityLogs ret task (log, entity)) :
    AdapterLogs (fun value later => ret value (later.1, later.2.1) ∧ later.2.2 = device) (onEntity task)
      (log, entity, device) := by
  have hzoom : AdapterLogs (fun value later => ret value (later.1, later.2.1) ∧ later.2 = (later.2.1, device))
      (onEntity task) (log, entity, device) :=
    Surroundings.keeps_zoom (U := journal sig) (I := Requests fun _ => True) ret (entityLens δ) task
      (log, entity, device) h
  exact Surroundings.keeps_mono hzoom fun value later hlater => ⟨hlater.1, congrArg Prod.snd hlater.2⟩

theorem logs_wait (seconds : Int) (log : Diary) (adapter : Entity × δ) :
    AdapterLogs (fun _ later => later = (log ++ completed (.wait seconds) none, adapter)) (asyncWait P seconds)
      (log, adapter) := by
  refine Surroundings.keeps_ask (S := sig) (.wait seconds) _ (requests_any _) fun answer => ?_
  cases answer with
  | none => exact Surroundings.keeps_ret _ rfl
  | some code => exact Surroundings.keeps_throw _ (requests_any _)

-- To connect changes only the client.
theorem logs_connect (point : Diary × Entity) :
    EntityLogs (fun _ later => SameNames point.2 later.2) (Entity.asyncConnect P fuel) point := by
  obtain ⟨log, entity⟩ := point
  refine Surroundings.keeps_enter _ _ (Surroundings.keeps_mono (entityHands_onClient _ log entity
    (hands_of_connecting (fun _ => True) (fun _ => trivial)
      (connecting_asyncConnect P _ (connecting_tryReconnect P fuel)) _ (requests_any _))) fun result later hlater => ?_)
  rw [hlater.2]
  exact ⟨rfl, rfl⟩

variable {P kind impl} {entity configured announced last : Entity} {device : δ}
  {log configuredLog announcedLog lastLog : Diary}

-- The three parts of a configuration put together.
theorem online_of_extends {result : Error}
    (hconfigured :
      KindConfigured P kind (impl.config device) adapterDefaultPubopts (log, entity) (configuredLog, configured))
    (hannounced : PublishEnds P (configured.topic GenericEntityConfig.availabilityTopic) (ascii "online")
      adapterDefaultPubopts (configuredLog ++ completed (.wait 1) none, configured) result (announcedLog, announced))
    (hunbroken : Unbroken P entity lastLog) (state : Diary) (hstate : SyncedState entity kind impl device state)
    (hlast : Extends announcedLog lastLog state) : Online P entity kind impl device lastLog := by
  obtain ⟨hsame, hconnected⟩ := hconfigured.same
  have htopic : configured.topic GenericEntityConfig.availabilityTopic =
      entity.topic GenericEntityConfig.availabilityTopic :=
    SameNames.topic ⟨hsame.1, hsame.2.1⟩ _
  obtain ⟨onlineId, honline⟩ := extends_published hannounced hconnected (hunbroken.extends hlast) (Or.inl htopic)
  have hwaited : Unbroken P entity configuredLog := ((hunbroken.extends hlast).extends honline).earlier
  obtain ⟨complete, configId, subscription, hcomplete, hgranted, hconfig⟩ := extends_configured hconfigured hwaited
  obtain ⟨more, hmore, hevidence⟩ := ((hconfig.silent _).trans honline).trans hlast
  refine ⟨complete, configId, subscription, onlineId, state, hcomplete, hgranted, hstate, ?_⟩
  rw [onlinePublish, ← htopic, hmore]
  exact hevidence.trans (List.sublist_append_right _ _)

theorem synced_of_stateEnds {read : δ → Except Exn kind.State} (hread : impl.state = some read) {value : kind.State}
    (hvalue : read device = .ok value) (hsame : SameEntity entity announced)
    (hconnected : announced.client.connected = true) {result : Error}
    (hends : StateEnds P kind value adapterDefaultPubopts (announcedLog, announced) result (lastLog, last))
    (hunbroken : Unbroken P entity lastLog) :
    ∃ state, SyncedState entity kind impl device state ∧ Extends announcedLog lastLog state := by
  have htopic : announced.topic EntityKind.stateTopic = entity.topic EntityKind.stateTopic :=
    SameNames.topic ⟨hsame.1, hsame.2.1⟩ _
  unfold SyncedState
  rw [hread]
  unfold StateEnds at hends
  cases hpayload : kind.statePayload value with
  | none =>
      rw [hpayload] at hends
      obtain ⟨rfl, -⟩ := Prod.mk.inj hends
      exact ⟨[], ⟨value, hvalue, by rw [hpayload]⟩, extends_refl _⟩
  | some payload =>
      rw [hpayload] at hends
      obtain ⟨packetId, hextends⟩ := extends_published hends hconnected hunbroken (Or.inr htopic)
      refine ⟨_, ⟨value, hvalue, ?_⟩, hextends⟩
      rw [hpayload]
      exact ⟨packetId, by rw [← htopic]⟩

variable (P kind impl)

theorem logs_adapterConfigure (log : Diary) (entity : Entity) (device : δ) :
    AdapterLogs (fun result later => Unbroken P entity later.1 → result = true →
        Online P entity kind impl device later.1)
      (EntityAdapter.asyncConfigure (kind.operations P fuel impl)) (log, entity, device) := by
  rw [kind.asyncConfigure_eq P fuel impl]
  simp only [EntityAdapter.asyncConfigure, commandOperations, Coro.bind_eq, Coro.pure_eq, Coro.bind]
  refine Surroundings.keeps_get _ ?_
  refine Surroundings.keeps_bind (logs_onEntity _ log entity device
    (logs_configure P fuel kind (impl.config device) adapterDefaultPubopts _)) fun result configured hconfigured => ?_
  obtain ⟨hconfigured, hdevice⟩ := hconfigured
  obtain ⟨configuredLog, configuredEntity, configuredDevice⟩ := configured
  obtain rfl : configuredDevice = device := hdevice
  cases result with
  | some e => exact Surroundings.keeps_ret _ fun _ hfalse => by cases hfalse
  | none =>
      have hkind := hconfigured rfl
      refine Surroundings.keeps_bind (logs_wait P 1 configuredLog _) fun _ waited hwaited => ?_
      subst hwaited
      refine Surroundings.keeps_bind (logs_onEntity _ _ configuredEntity configuredDevice
        (logs_setAvailability P .online (ascii "online") adapterDefaultPubopts _ rfl)) fun _ announced hannounced => ?_
      obtain ⟨hannounced, hdevice'⟩ := hannounced
      obtain ⟨announcedLog, announcedEntity, announcedDevice⟩ := announced
      obtain rfl : announcedDevice = configuredDevice := hdevice'
      have hdone (last : Diary × Entity × δ) (state : Diary)
          (hstate : SyncedState entity kind impl announcedDevice state)
          (hlast : Extends announcedLog last.1 state) (hunbroken : Unbroken P entity last.1) :
          Online P entity kind impl announcedDevice last.1 :=
        online_of_extends hkind hannounced hunbroken state hstate hlast
      cases hread : impl.state with
      | none =>
          simp only [EntityAdapter.asyncSyncState, Option.map_none, Coro.pure_eq, Coro.bind]
          refine Surroundings.keeps_ret _ fun hunbroken _ => hdone _ [] ?_ (extends_refl _) hunbroken
          rw [SyncedState, hread]
      | some read =>
          simp only [EntityAdapter.asyncSyncState, Option.map_some, Coro.bind_eq, Coro.pure_eq, Coro.bind,
            Coro.bind_assoc]
          refine Surroundings.keeps_get _ (Surroundings.keeps_ofExcept _ _ (requests_any _) fun value hvalue => ?_)
          refine Surroundings.keeps_bind (logs_onEntity _ announcedLog announcedEntity announcedDevice
            (logs_setState P kind value adapterDefaultPubopts _)) fun result last hlast => ?_
          refine Surroundings.keeps_ret _ fun hunbroken _ => ?_
          obtain ⟨hsame, hconnected⟩ := hkind.same
          have hsame' : SameEntity entity announcedEntity := hsame.trans hannounced.1
          have hconnected' : announcedEntity.client.connected = true := by
            rw [hannounced.1.2.2]
            exact hconnected
          obtain ⟨state, hstate, hextends⟩ := synced_of_stateEnds hread hvalue hsame' hconnected' hlast.1 hunbroken
          exact hdone last state hstate hextends hunbroken

theorem logs_connectRetry (attempts : Nat) (error : Error) (log : Diary) (entity : Entity) (device : δ) :
    AdapterLogs (fun _ later => SameNames entity later.2.1 ∧ later.2.2 = device)
      (EntityAdapter.connectRetry (commandOperations P impl fuel (kind.asyncConfigure P fuel)
        (kind.asyncSetState P) .spin)
        attempts error) (log, entity, device) := by
  induction attempts generalizing error log entity with
  | zero => exact Surroundings.keeps_ret _ ⟨⟨rfl, rfl⟩, rfl⟩
  | succ attempts ih =>
      simp only [EntityAdapter.connectRetry, Coro.bind_eq, Coro.pure_eq]
      refine Surroundings.keeps_bind (logs_onEntity _ log entity device (logs_connect P fuel _))
        fun result later hlater => ?_
      obtain ⟨laterLog, laterEntity, laterDevice⟩ := later
      obtain ⟨hnames, hdevice⟩ := hlater
      cases result with
      | none => exact Surroundings.keeps_ret _ ⟨hnames, hdevice⟩
      | some e =>
          simp only [Option.isNone_some, Bool.false_eq_true, if_false]
          obtain rfl : laterDevice = device := hdevice
          refine Surroundings.keeps_bind (logs_wait P initRetryDelay laterLog _) fun _ waited hwaited => ?_
          subst hwaited
          refine Surroundings.keeps_mono (ih (some e) _ laterEntity) fun _ last hlast => ⟨?_, hlast.2⟩
          exact ⟨hlast.1.1.trans hnames.1, hlast.1.2.trans hnames.2⟩

end Adapter

section Names

variable {P : Platform} {entity other : Entity} {log : Diary}

theorem announces_congr (h : SameNames entity other) : Announces other = Announces entity := by
  funext packet
  unfold Announces
  rw [h.topic, h.topic]

theorem Unbroken.congr (h : SameNames entity other) (hunbroken : Unbroken P entity log) : Unbroken P other log := by
  intro before entry after hlog
  have hfits := hunbroken before entry after hlog
  unfold Fits at hfits ⊢
  rw [announces_congr h]
  exact hfits

theorem completeConfig_congr (kind : EntityKind) (h : SameNames entity other) (config : EntityConfig) :
    kind.completeConfig other config = kind.completeConfig entity config := by
  obtain ⟨name, id, client, pending⟩ := entity
  obtain ⟨name', id', client', pending'⟩ := other
  obtain ⟨rfl, rfl⟩ : name' = name ∧ id' = id := h
  cases kind with
  | cover | button | binarySensor | sensor => rfl

-- What an entity is to be online for depends on its name and its id only.
theorem Online.congr {δ : Type} {kind : EntityKind} {impl : Impl kind.Command kind.State δ} {device : δ}
    (h : SameNames entity other) (honline : Online P other kind impl device log) :
    Online P entity kind impl device log := by
  obtain ⟨complete, configId, subscription, onlineId, state, hcomplete, hgranted, hstate, hevidence⟩ := honline
  have hconfig : configPublish P other complete configId = configPublish P entity complete configId := by
    unfold configPublish setConfigTopic configObject
    rw [h.1, h.2]
  have hannounced : onlinePublish other onlineId = onlinePublish entity onlineId := by
    unfold onlinePublish
    rw [h.topic]
  rw [hconfig, hannounced] at hevidence
  rw [completeConfig_congr kind h] at hcomplete
  refine ⟨complete, configId, subscription, onlineId, state, hcomplete, ?_, ?_, hevidence⟩
  · unfold Granted at hgranted ⊢
    simp only [h.topic] at hgranted
    exact hgranted
  · unfold SyncedState at hstate ⊢
    simp only [h.topic] at hstate
    exact hstate

end Names

section Initialisation

variable {δ : Type} (P : Platform) (fuel : Nat) (kind : EntityKind) (impl : Impl kind.Command kind.State δ)

theorem logs_adapterInit (log : Diary) (entity : Entity) (device : δ) :
    AdapterLogs (fun result later => Unbroken P entity later.1 → result = true →
        Online P entity kind impl device later.1)
      (EntityAdapter.asyncInit (kind.operations P fuel impl)) (log, entity, device) := by
  rw [kind.asyncInit_eq P fuel impl]
  simp only [EntityAdapter.asyncInit, Coro.bind_eq, Coro.pure_eq]
  refine Surroundings.keeps_bind (logs_connectRetry P fuel kind impl initRetryAttempts none log entity device)
    fun error connected hconnected => ?_
  obtain ⟨connectedLog, connectedEntity, connectedDevice⟩ := connected
  obtain ⟨hnames, rfl⟩ := hconnected
  cases error with
  | some e => exact Surroundings.keeps_ret _ fun _ hfalse => by cases hfalse
  | none =>
      have hconfigure := logs_adapterConfigure P fuel kind impl connectedLog connectedEntity connectedDevice
      rw [kind.asyncConfigure_eq P fuel impl] at hconfigure
      refine Surroundings.keeps_mono hconfigure fun result later hlater hunbroken htrue => ?_
      exact (hlater (hunbroken.congr hnames) htrue).congr hnames

-- In every run of this kind, true is returned only if the entity is online then.
def TrueWhenOnline (condition : Diary → Prop) (task : Async (Entity × δ) Bool) (entity : Entity) (device : δ) : Prop :=
  ∀ log final result, Reach ((journal sig).world (Entity × δ)) (settle _ task ([], entity, device))
      ⟨(log, final), .ret result⟩ → condition log → ¬Online P entity kind impl device log → result = false

theorem init_online (entity : Entity) (device : δ) :
    TrueWhenOnline P kind impl (Unbroken P entity) (EntityAdapter.asyncInit (kind.operations P fuel impl)) entity device ∧
      TrueWhenOnline P kind impl (Unbroken P entity) (EntityAdapter.asyncConfigure (kind.operations P fuel impl)) entity
        device := by
  constructor
  · intro log final result hreach hunbroken hoffline
    have hlogs := (logs_adapterInit P fuel kind impl [] entity device).reach_ret hreach hunbroken
    exact Bool.eq_false_iff.mpr fun htrue => hoffline (hlogs htrue)
  · intro log final result hreach hunbroken hoffline
    have hlogs := (logs_adapterConfigure P fuel kind impl [] entity device).reach_ret hreach hunbroken
    exact Bool.eq_false_iff.mpr fun htrue => hoffline (hlogs htrue)

end Initialisation

section Samples

def networkUnreachable : SystemError := ⟨.boost 101 "system", none⟩

-- The broker acknowledges whatever has been sent last; the publish of an availability or
-- of a state fails.
def unannounced (entity : Entity) (log : Diary) (_ : Entity × Unit) : (query : Query) → Answer query
  | .send (.publish packet) =>
      if packet.topic = setConfigTopic entity then none else some networkUnreachable
  | .send _ | .resolve _ _ | .connect | .timer _ | .wait _ => none
  | .acquireUniquePacketId => some 1
  | .recv => .ok (match lastSent log with
      | some (.publish packet) => .puback packet.packetId
      | some (.subscribe packet) => .suback ⟨packet.packetId, [.successMaximumQos1]⟩
      | _ => .connack false .accepted)

def closedCover : Impl CoverCommand CoverState Unit := ⟨fun _ => {}, some fun _ => .ok .closed, fun _ => .ok⟩

def offlineCover : Entity := Cover.create [] (.create {})

def unannouncedRun : Outcome sig Bool × Diary × Entity × Unit :=
  exec ((journal sig).world (Entity × Unit)) (unannounced offlineCover)
    (EntityAdapter.asyncInit (EntityKind.cover.operations samplePlatform 1 closedCover)) ([], offlineCover, ())

-- The broker acknowledges whatever has been sent last, and nothing fails.
def acknowledging (log : Diary) (_ : Entity × Unit) : (query : Query) → Answer query
  | .send _ | .resolve _ _ | .connect | .timer _ | .wait _ => none
  | .acquireUniquePacketId => some 1
  | .recv => .ok (match lastSent log with
      | some (.publish packet) => .puback packet.packetId
      | some (.subscribe packet) => .suback ⟨packet.packetId, [.successMaximumQos1]⟩
      | _ => .connack false .accepted)

theorem fits_acknowledging (P : Platform) (entity : Entity) (log : Diary) (state : Entity × Unit) (query : Query) :
    Fits P entity log (.answered query (acknowledging log state query)) := by
  cases query with
  | send packet =>
      cases packet with
      | publish packet => exact fun _ _ hfailed => nomatch hfailed
      | connect | subscribe => exact trivial
  | recv =>
      intro packet hpacket
      obtain rfl := Except.ok.inj hpacket
      cases hsent : lastSent log with
      | none => exact trivial
      | some sent =>
          cases sent with
          | connect => exact trivial
          | publish | subscribe => simp [Acknowledges]
  | resolve | connect | timer | wait | acquireUniquePacketId => exact trivial

theorem unbroken_acknowledging {α : Type} (P : Platform) (entity : Entity) (task : Coro sig (Entity × Unit) α)
    (point : Diary × Entity × Unit) (h : Unbroken P entity point.1) :
    Unbroken P entity (exec ((journal sig).world (Entity × Unit)) acknowledging task point).2.1 := by
  induction task generalizing point with
  | ret _ | throw _ | spin => exact h
  | get next ih => exact ih _ point h
  | set state next ih => exact ih (point.1, state) h
  | enter label next ih => exact ih point h
  | await query next ih =>
      have hasked : Fits P entity point.1 (.asked query) := trivial
      exact ih _ _ ((h.concat hasked).concat (fits_acknowledging P entity _ point.2 query))

def announcedRun : Outcome sig Bool × Diary × Entity × Unit :=
  exec ((journal sig).world (Entity × Unit)) acknowledging
    (EntityAdapter.asyncInit (EntityKind.cover.operations samplePlatform 1 closedCover)) ([], offlineCover, ())

-- It returns true, and the cover is online.
theorem init_online_announced : ∃ log final,
    Reach ((journal sig).world (Entity × Unit)) (settle ((journal sig).world (Entity × Unit))
        (EntityAdapter.asyncInit (EntityKind.cover.operations samplePlatform 1 closedCover)) ([], offlineCover, ()))
      ⟨(log, final), .ret true⟩ ∧
    Unbroken samplePlatform offlineCover log ∧ Online samplePlatform offlineCover .cover closedCover () log := by
  have hreach : Reach ((journal sig).world (Entity × Unit))
      (settle ((journal sig).world (Entity × Unit))
        (EntityAdapter.asyncInit (EntityKind.cover.operations samplePlatform 1 closedCover)) ([], offlineCover, ()))
      ⟨announcedRun.2, announcedRun.1.task⟩ :=
    exec_reach ((journal sig).world (Entity × Unit)) acknowledging (fun _ _ _ => trivial) _ _
  have hresult : announcedRun.1.task = (.ret true : Coro sig (Entity × Unit) Bool) := by rfl
  rw [hresult] at hreach
  have hunbroken : Unbroken samplePlatform offlineCover announcedRun.2.1 :=
    unbroken_acknowledging samplePlatform offlineCover _ ([], offlineCover, ()) fun _ _ _ hlog => by simp at hlog
  refine ⟨_, _, hreach, hunbroken, not_not.mp fun hoffline => ?_⟩
  exact absurd ((init_online samplePlatform 1 .cover closedCover offlineCover ()).1 _ _ true hreach hunbroken hoffline)
    (by decide)

-- Is this the publish of the online availability?
def announcesOnline : Outgoing → Bool
  | .publish packet => packet.payload = ascii "online"
  | _ => false

theorem Online.announced {δ : Type} {P : Platform} {entity : Entity} {kind : EntityKind}
    {impl : Impl kind.Command kind.State δ} {device : δ} {log : Diary} (h : Online P entity kind impl device log) :
    ∃ packet ∈ log.filterMap sentBy, announcesOnline packet = true := by
  obtain ⟨complete, configId, subscription, onlineId, state, -, -, -, hevidence⟩ := h
  have hsent : onlinePublish entity onlineId ∈ log.filterMap sentBy := by
    refine List.mem_filterMap.mpr ⟨.answered (.send (onlinePublish entity onlineId)) none, ?_, rfl⟩
    apply hevidence.subset
    simp [sentEntry]
  have hannounces : announcesOnline (onlinePublish entity onlineId) = true := by
    simp [announcesOnline, onlinePublish, publishing]
  exact ⟨onlinePublish entity onlineId, hsent, hannounces⟩

theorem init_unannounced :
    ¬TrueWhenOnline samplePlatform .cover closedCover (fun _ => True)
      (EntityAdapter.asyncInit (EntityKind.cover.operations samplePlatform 1 closedCover)) offlineCover () := by
  intro htrue
  have hreach : Reach ((journal sig).world (Entity × Unit))
      (settle ((journal sig).world (Entity × Unit))
        (EntityAdapter.asyncInit (EntityKind.cover.operations samplePlatform 1 closedCover)) ([], offlineCover, ()))
      ⟨unannouncedRun.2, unannouncedRun.1.task⟩ :=
    exec_reach ((journal sig).world (Entity × Unit)) (unannounced offlineCover) (fun _ _ _ => trivial) _ _
  have hresult : unannouncedRun.1.task = (.ret true : Coro sig (Entity × Unit) Bool) := by rfl
  rw [hresult] at hreach
  refine absurd (htrue _ _ true hreach trivial fun honline => ?_) (by decide)
  obtain ⟨packet, hsent, hannounces⟩ := honline.announced
  have hnever : (unannouncedRun.2.1.filterMap sentBy).all (fun packet => !announcesOnline packet) = true := by rfl
  have hquiet := List.all_eq_true.mp hnever packet hsent
  rw [hannounces] at hquiet
  cases hquiet

end Samples

end HhctrlMgmt.Adapter
