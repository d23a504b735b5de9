import HhctrlMgmt.Coroutine.Crew
import HhctrlMgmt.Mqtt.Client.Connecting
import HhctrlMgmt.Mqtt.Entity

namespace HhctrlMgmt.Mqtt

open Common Coroutine

-- The operations of an entity. async_publish stands for async_set_state of every
-- class, which calls it with a topic and a payload of its own.
inductive EntityOperation where
  | connect
  | setConfig (config : EntityConfig) (pubopts : Pubopts)
  | setAvailability (availability : Availability) (pubopts : Pubopts)
  | publish (topic payload : Bytes) (pubopts : Pubopts)
  | subscribe (topics : List Bytes)
  | receive

-- Whatever an operation returns, its caller may start others afterwards.
def EntityOperation.task (P : Platform) (fuel : Nat) : EntityOperation → EntityM Unit
  | .connect => (Entity.asyncConnect P fuel).bind fun _ => .ret ()
  | .setConfig config pubopts => (Entity.asyncSetConfig P fuel config pubopts).bind fun _ => .ret ()
  | .setAvailability availability pubopts => (Entity.asyncSetAvailability P availability pubopts).bind fun _ => .ret ()
  | .publish topic payload pubopts => (Entity.asyncPublish P topic payload pubopts).bind fun _ => .ret ()
  | .subscribe topics => (Entity.asyncSubscribe P fuel topics).bind fun _ => .ret ()
  | .receive => (Entity.asyncReceive P fuel).bind fun _ => .ret ()

section Acknowledgements

-- The client receives the PUBACK of this id.
def Puback (packetId : PacketId) : Event sig → Prop
  | .answered _ .recv (.ok (.puback acked)) => acked = packetId
  | _ => False

-- A publish at QoS 1 has been sent successfully, and since it was handed over its
-- PUBACK has not been received.
def Unacknowledged (log : Log sig) (packetId : PacketId) : Prop :=
  ∃ later earlier name packet, log = later ++ .asked name (.send (.publish packet)) :: earlier ∧
    packet.packetId = packetId ∧ packet.opts.qos ≠ .atMostOnce ∧
    .answered name (.send (.publish packet)) none ∈ later ∧ ∀ event ∈ later, ¬Puback packetId event

-- The send of this publish has just completed, without a PUBACK before.
def SendCompletes (log : Log sig) (event : Event sig) (packetId : PacketId) : Prop :=
  ∃ later earlier name packet, event = .answered name (.send (.publish packet)) none ∧
    log = later ++ .asked name (.send (.publish packet)) :: earlier ∧
    packet.packetId = packetId ∧ packet.opts.qos ≠ .atMostOnce ∧ ∀ event ∈ later, ¬Puback packetId event

theorem unacknowledged_cons (event : Event sig) (log : Log sig) (packetId : PacketId) :
    Unacknowledged (event :: log) packetId ↔
      ¬Puback packetId event ∧ (Unacknowledged log packetId ∨ SendCompletes log event packetId) := by
  constructor
  · rintro ⟨later, earlier, name, packet, hlog, hid, hqos, hsent, hquiet⟩
    cases later with
    | nil => cases hsent
    | cons latest later =>
        obtain ⟨rfl, rfl⟩ := List.cons.inj hlog
        have hrest : ∀ event ∈ later, ¬Puback packetId event := fun event h => hquiet event (List.mem_cons_of_mem _ h)
        refine ⟨hquiet _ List.mem_cons_self, ?_⟩
        rcases List.mem_cons.mp hsent with heq | hsent
        · exact Or.inr ⟨later, earlier, name, packet, heq.symm, rfl, hid, hqos, hrest⟩
        · exact Or.inl ⟨later, earlier, name, packet, rfl, hid, hqos, hsent, hrest⟩
  · rintro ⟨hevent, h⟩
    rcases h with ⟨later, earlier, name, packet, rfl, hid, hqos, hsent, hquiet⟩ |
      ⟨later, earlier, name, packet, rfl, rfl, hid, hqos, hquiet⟩
    · refine ⟨event :: later, earlier, name, packet, rfl, hid, hqos, List.mem_cons_of_mem _ hsent, ?_⟩
      exact fun other hother => (List.mem_cons.mp hother).elim (fun heq => heq ▸ hevent) (hquiet other)
    · refine ⟨_ :: later, earlier, name, packet, rfl, hid, hqos, List.mem_cons_self, ?_⟩
      exact fun other hother => (List.mem_cons.mp hother).elim (fun heq => heq ▸ hevent) (hquiet other)

-- Neither a PUBACK nor the success of a publish at QoS 1.
def Quiet (event : Event sig) : Prop :=
  (∀ packetId, ¬Puback packetId event) ∧
    ∀ name packet, packet.opts.qos ≠ .atMostOnce → event ≠ .answered name (.send (.publish packet)) none

theorem unacknowledged_quiet (event : Event sig) (log : Log sig) (packetId : PacketId) (hquiet : Quiet event) :
    Unacknowledged (event :: log) packetId ↔ Unacknowledged log packetId := by
  rw [unacknowledged_cons]
  constructor
  · rintro ⟨-, hbefore | ⟨_, _, name, packet, heq, _, _, hqos, _⟩⟩
    · exact hbefore
    · exact absurd heq (hquiet.2 name packet hqos)
  · exact fun hbefore => ⟨hquiet.1 packetId, Or.inl hbefore⟩

theorem unacknowledged_puback (name : Nat) (acked packetId : PacketId) (log : Log sig) :
    Unacknowledged (.answered name .recv (.ok (.puback acked)) :: log) packetId ↔
      packetId ≠ acked ∧ Unacknowledged log packetId := by
  rw [unacknowledged_cons]
  have hpuback : Puback packetId (.answered name .recv (.ok (.puback acked))) ↔ packetId = acked :=
    @eq_comm _ acked packetId
  rw [hpuback]
  refine and_congr_right fun _ => or_iff_left ?_
  rintro ⟨_, _, _, _, heq, _⟩
  cases heq

theorem unacknowledged_sent (name : Nat) (packet : PublishPacket) (more log : Log sig) (packetId : PacketId)
    (hqos : packet.opts.qos ≠ .atMostOnce)
    (hearly : ∀ event ∈ more, ¬Puback packet.packetId event) :
    Unacknowledged (.answered name (.send (.publish packet)) none ::
      (more ++ .asked name (.send (.publish packet)) :: log))
        packetId ↔
      packetId = packet.packetId ∨ Unacknowledged (more ++ .asked name (.send (.publish packet)) :: log) packetId := by
  rw [unacknowledged_cons]
  constructor
  · rintro ⟨-, hbefore | ⟨_, _, _, _, heq, _, hid, _⟩⟩
    · exact Or.inr hbefore
    · cases heq
      exact Or.inl hid.symm
  · rintro (rfl | hbefore)
    · exact ⟨id, Or.inr ⟨more, log, name, packet, rfl, rfl, rfl, hqos, hearly⟩⟩
    · exact ⟨id, Or.inl hbefore⟩

end Acknowledgements

section Attentive

variable (operations : List EntityOperation)

-- The coroutine waits for the CONNACK of a connection.
def AwaitsConnack (log : Log sig) (name : Nat) : Prop :=
  ∃ more packet earlier, log = more ++ .asked name .recv :: .answered name (.send (.connect packet)) none :: earlier ∧
    ∀ event ∈ more, event.name ≠ name

-- The PUBACK has overtaken the end of the send.
def Overtaken (log : Log sig) (name : Nat) (packet : PublishPacket) : Prop :=
  ∃ more earlier, log = more ++ .asked name (.send (.publish packet)) :: earlier ∧
    (∀ event ∈ more, event.name ≠ name) ∧ ∃ event ∈ more, Puback packet.packetId event

-- No PUBACK of a publish that has been sent is read past the wait of async_receive,
-- and none overtakes the end of the send.
def attentive : Rule sig := fun log name query answer =>
  match query, answer with
  | .recv, .ok (.puback packetId) =>
      Unacknowledged log packetId → operations[name]? = some .receive ∧ ¬AwaitsConnack log name
  | .send (.publish packet), none => packet.opts.qos ≠ .atMostOnce → ¬Overtaken log name packet
  | _, _ => True

-- pending_puback_ holds the unacknowledged publishes.
def Tallied (point : Log sig × Entity) : Prop :=
  ∀ packetId, packetId ∈ point.2.pendingPuback ↔ Unacknowledged point.1 packetId

section Rules

variable {operations} {α : Type} {name : Nat} {log : Log sig} {entity : Entity}

theorem tallied_cons (event : Event sig) (hquiet : Quiet event) :
    Tallied (event :: log, entity) ↔ Tallied (log, entity) :=
  forall_congr' fun packetId => iff_congr Iff.rfl (unacknowledged_quiet event log packetId hquiet)

theorem quiet_asked (query : Query) : Quiet (.asked name query) :=
  ⟨fun _ => id, nofun⟩

theorem keeps_quiet (query : Query) (next : Answer query → EntityM α) (h : Tallied (log, entity))
    (hquiet : ∀ answer, Quiet (.answered name query answer))
    (hnext : ∀ later entity answer, Tallied (.answered name query answer :: later, entity) →
      Keeps (attentive operations) Tallied name (next answer) (.answered name query answer :: later, entity)) :
    Keeps (attentive operations) Tallied name (.await query next) (log, entity) := by
  refine keeps_await (J := Tallied) query next ((tallied_cons _ (quiet_asked query)).mpr h)
    fun more state _ hmore answer _ => ?_
  exact hnext _ state answer ((tallied_cons _ (hquiet answer)).mpr hmore)

theorem quiet_answered_recv (result : Except SystemError Packet)
    (hpuback : ∀ packetId, result ≠ .ok (.puback packetId)) :
    Quiet (.answered name .recv result) := by
  refine ⟨fun packetId => ?_, fun _ _ _ => nofun⟩
  cases result with
  | error e => exact id
  | ok packet =>
      cases packet with
      | puback acked => exact absurd rfl (hpuback acked)
      | connack _ _ | publish _ | suback _ | other _ => exact id

-- A received packet counts only if it is the PUBACK of an unacknowledged publish.
theorem tallied_received (result : Except SystemError Packet) (h : Tallied (log, entity))
    (hmissed : ∀ packetId, result = .ok (.puback packetId) → ¬Unacknowledged log packetId) :
    Tallied (.answered name .recv result :: log, entity) := by
  by_cases hpuback : ∃ packetId, result = .ok (.puback packetId)
  · obtain ⟨acked, rfl⟩ := hpuback
    intro packetId
    rw [unacknowledged_puback]
    refine (h packetId).trans ⟨fun hun => ⟨?_, hun⟩, And.right⟩
    rintro rfl
    exact hmissed packetId rfl hun
  · have hquiet : Quiet (.answered name .recv result) :=
      quiet_answered_recv result fun packetId heq => hpuback ⟨packetId, heq⟩
    exact (tallied_cons _ hquiet).mpr h

theorem tallied_error (e : SystemError) (h : Tallied (log, entity)) :
    Tallied (.answered name .recv (.error e) :: log, entity) :=
  tallied_received (.error e) h nofun

end Rules

section Client

variable {operations} {α : Type} (P : Platform) (fuel : Nat) (name : Nat)

variable (operations) in
-- A part of the client that reads nothing that it should not.
def ClientKeeps (task : ClientM α) : Prop :=
  ∀ point, Tallied point → Keeps (attentive operations) Tallied name (Entity.onClient task) point

theorem clientKeeps_ofExcept {β : Type} (result : Except Exn α) (next : α → ClientM β)
    (hnext : ∀ value, ClientKeeps operations name (next value)) :
    ClientKeeps operations name ((Coro.ofExcept result).bind next) := by
  intro point h
  cases result with
  | ok value => exact hnext value point h
  | error thrown => exact keeps_throw thrown h

-- The questions that neither receive a packet nor publish one.
def Query.Mute : Query → Prop
  | .recv | .send (.publish _) => False
  | _ => True

theorem Query.Local.mute {query : Query} (h : query.Local) : query.Mute := by
  cases query with
  | send _ | recv => exact h.elim
  | resolve _ _ | connect | acquireUniquePacketId | timer _ | wait _ => trivial

theorem quiet_answered (query : Query) (answer : Answer query) (hmute : query.Mute) :
    Quiet (.answered name query answer) := by
  refine ⟨fun packetId => ?_, fun other packet _ heq => ?_⟩
  · cases query with
    | recv => exact hmute.elim
    | resolve _ _ | connect | send _ | acquireUniquePacketId | timer _ | wait _ => exact id
  · cases heq
    exact hmute

-- Nothing that answers the wait for a CONNACK is missed.
theorem keeps_recvConack (packet : ConnectPacket) (next : Except SystemError Packet → EntityM α) (log : Log sig)
    (entity : Entity) (h : Tallied (.answered name (.send (.connect packet)) none :: log, entity))
    (hnext : ∀ later answer, Tallied later → Keeps (attentive operations) Tallied name (next answer) later) :
    Keeps (attentive operations) Tallied name (.await .recv next)
      (.answered name (.send (.connect packet)) none :: log, entity) := by
  refine keeps_await (J := Tallied) Query.recv next ((tallied_cons _ (quiet_asked Query.recv)).mpr h) ?_
  intro more state hothers hmore answer hallow
  refine hnext _ answer (tallied_received answer hmore fun packetId heq hun => ?_)
  subst heq
  exact (hallow hun).2 ⟨more, packet, log, rfl, hothers⟩

theorem clientKeeps_of_connecting {task : ClientM α} (hconnecting : Connecting task) :
    ClientKeeps operations name task := by
  induction hconnecting with
  | ret value => exact fun _ h => keeps_ret value h
  | throw thrown => exact fun _ h => keeps_throw thrown h
  | spin => exact fun _ h => keeps_spin h
  | get next _ ih => exact fun point h => keeps_get _ (ih point.2.client point h)
  | set client next _ ih => exact fun point h => keeps_get _ (keeps_set _ _ (ih _ h))
  | enter label next _ ih => exact fun point h => keeps_enter _ _ (ih point h)
  | await query next hlocal _ ih =>
      rintro ⟨log, entity⟩ h
      refine keeps_quiet query _ h (fun _ => quiet_answered name _ _ hlocal.mute) fun log entity answer h => ?_
      exact ih answer _ h
  | handshake packet next recv hsent _ _ ihfailed ihrecv =>
      rintro ⟨log, entity⟩ h
      refine keeps_quiet _ _ h (fun _ => quiet_answered name _ _ trivial) fun log entity sent h => ?_
      cases sent with
      | some e => exact ihfailed e _ h
      | none =>
          rw [hsent]
          exact keeps_recvConack name _ _ log entity h fun later answer h => ihrecv answer later h

end Client

section Receive

variable {α : Type} (P : Platform) (fuel : Nat) (name : Nat)

-- What the result of a receive means for the tally. Only async_receive is given a
-- PUBACK that matters.
def Heard (result : Expected ReceiveResult) (point : Log sig × Entity) : Prop :=
  match result with
  | .ok (.puback acked) => Tallied (point.1, point.2.erasePending acked) ∧
      (operations[name]? ≠ some .receive → acked ∉ point.2.pendingPuback)
  | _ => Tallied point

variable {operations}

theorem tallied_erasePending (acked : PacketId) (log : Log sig) (entity : Entity) (h : acked ∉ entity.pendingPuback) :
    Tallied (log, entity.erasePending acked) ↔ Tallied (log, entity) := by
  have hsame : (entity.erasePending acked).pendingPuback = entity.pendingPuback := Finset.erase_eq_of_notMem h
  unfold Tallied
  rw [hsame]

theorem tallied_of_heard (hother : operations[name]? ≠ some .receive) (result : Expected ReceiveResult)
    (point : Log sig × Entity) (h : Heard operations name result point) : Tallied point := by
  cases result with
  | error e => exact h
  | ok received =>
      cases received with
      | publish packet => exact h
      | suback packet => exact h
      | puback acked => exact (tallied_erasePending acked _ _ (h.2 hother)).mp h.1

theorem heard_packet (packet : Packet) (result : ReceiveResult) (hresult : packet.receiveResult = some result)
    (log : Log sig) (entity : Entity) (h : Tallied (log, entity))
    (hallow : attentive operations log name .recv (.ok packet)) :
    Heard operations name (.ok result) (.answered name .recv (.ok packet) :: log, entity) := by
  cases packet with
  | publish packet =>
      cases hresult
      exact tallied_received _ h nofun
  | suback packet =>
      cases hresult
      exact tallied_received _ h nofun
  | puback acked =>
      cases hresult
      constructor
      · intro packetId
        rw [unacknowledged_puback]
        exact Finset.mem_erase.trans (and_congr_right fun _ => h packetId)
      · intro hother hmem
        exact hother (hallow ((h acked).mp hmem)).1
  | connack _ _ => cases hresult
  | other _ => cases hresult

theorem keeps_receiveLoop (tryReconnect : ClientM Bool)
    (hreconnect : Connecting tryReconnect) (rounds : Nat)
    (f : Expected ReceiveResult → EntityM α)
    (hnext : ∀ result later, Heard operations name result later →
      Keeps (attentive operations) Tallied name (f result) later) (point : Log sig × Entity) (h : Tallied point) :
    Keeps (attentive operations) Tallied name
      ((Entity.onClient (asyncReceiveLoop P tryReconnect rounds)).bind f) point := by
  induction rounds generalizing point with
  | zero => exact keeps_spin h
  | succ rounds ih =>
      simp only [asyncReceiveLoop, epRecv, Coro.bind_eq, Coro.pure_eq, Coro.bind, Entity.onClient, Coro.zoom]
      refine keeps_await (J := Tallied) Query.recv _ ((tallied_cons _ (quiet_asked Query.recv)).mpr h) ?_
      intro more state _ hmore answer hallow
      cases answer with
      | error e =>
          have hlater : Tallied (.answered name .recv (.error e) :: (more ++ .asked name .recv :: point.1), state) :=
            tallied_error e hmore
          simp only [Coro.zoom_bind, Coro.bind_assoc]
          have hrecover : ClientKeeps operations name (handleRecvError P tryReconnect e) :=
            clientKeeps_of_connecting name (connecting_handleRecvError P tryReconnect hreconnect e)
          refine keeps_bind (hrecover _ hlater) fun e later h => ?_
          exact hnext (.error e) later h
      | ok packet =>
          cases hresult : packet.receiveResult with
          | some result =>
              simp only [hresult]
              exact hnext (.ok result) _ (heard_packet name packet result hresult _ _ hmore hallow)
          | none =>
              simp only [hresult]
              refine ih _ (tallied_received _ hmore fun packetId heq => ?_)
              cases heq
              cases hresult

theorem keeps_receive (f : Expected ReceiveResult → EntityM α)
    (hnext : ∀ result later, Heard operations name result later →
      Keeps (attentive operations) Tallied name (f result) later) (point : Log sig × Entity) (h : Tallied point) :
    Keeps (attentive operations) Tallied name ((Entity.onClient (Mqtt.asyncReceive P fuel)).bind f) point := by
  simp only [Entity.onClient, Mqtt.asyncReceive, Coro.label, Coro.state, Coro.bind_eq, Coro.bind, Coro.zoom]
  refine keeps_enter _ _ (keeps_get _ ?_)
  split_ifs
  · exact hnext _ _ h
  · exact keeps_receiveLoop P name _ (connecting_tryReconnect P fuel) fuel f hnext point h

theorem keeps_receive_tallied (point : Log sig × Entity) (h : Tallied point) :
    Keeps (attentive operations) Tallied name (Entity.asyncReceive P fuel) point := by
  simp only [Entity.asyncReceive, Coro.label, Coro.bind_eq, Coro.bind]
  refine keeps_enter _ _ ?_
  generalize hrounds : fuel = rounds
  suffices hloop : ∀ point, Tallied point →
      Keeps (attentive operations) Tallied name (Entity.asyncReceiveLoop P fuel rounds) point by
    subst hrounds
    exact hloop point h
  clear h point hrounds
  induction rounds with
  | zero => exact fun _ h => keeps_spin h
  | succ rounds ih =>
      intro point h
      simp only [Entity.asyncReceiveLoop, Coro.bind_eq, Coro.pure_eq]
      refine keeps_receive P fuel name _ (fun result later h => ?_) point h
      cases result with
      | error e => exact keeps_ret _ h
      | ok received =>
          cases received with
          | publish packet => exact keeps_ret _ h
          | suback packet =>
              simp only
              split_ifs
              · exact keeps_ret _ h
              · exact ih _ h
          | puback acked =>
              refine keeps_get _ (keeps_set _ _ (ih _ ?_))
              by_cases hmem : acked ∈ later.2.pendingPuback
              · simp only [hmem, if_true]
                exact h.1
              · simp only [hmem, if_false]
                exact (tallied_erasePending acked _ _ hmem).mp h.1

end Receive

section Send

variable {operations} {α : Type} (P : Platform) (fuel : Nat) (name : Nat)

theorem quiet_answered_send (packet : Outgoing) (result : Option SystemError)
    (hpublish : ∀ publish, packet = .publish publish → publish.opts.qos ≠ .atMostOnce → result ≠ none) :
    Quiet (.answered name (.send packet) result) := by
  refine ⟨fun _ => id, fun other publish hqos heq => ?_⟩
  cases heq
  exact hpublish publish rfl hqos rfl

theorem keeps_acquire_tallied (f : PacketId → EntityM α)
    (hnext : ∀ packetId later, Tallied later → Keeps (attentive operations) Tallied name (f packetId) later)
    (point : Log sig × Entity) (h : Tallied point) :
    Keeps (attentive operations) Tallied name ((Entity.onClient acquirePacketId).bind f) point := by
  simp only [acquirePacketId, epAcquireUniquePacketId, Coro.bind_eq, Coro.pure_eq, Coro.bind, Entity.onClient,
    Coro.zoom]
  refine keeps_quiet _ _ h (fun _ => quiet_answered name _ _ trivial) fun log entity acquired h => ?_
  cases acquired with
  | none => exact keeps_throw _ h
  | some packetId => exact hnext packetId _ h

-- The tally holds again once the id of a publish at QoS 1 is remembered.
theorem keeps_sendPublish (packetId : PacketId) (topic payload : Bytes) (pubopts : Pubopts) (point : Log sig × Entity)
    (h : Tallied point) :
    Keeps (attentive operations) Tallied name
      ((Entity.onClient (sendWithId P packetId (.publish ⟨packetId, topic, payload, pubopts⟩))).bind (remember pubopts))
      point := by
  simp only [sendWithId, epSend, Coro.bind_eq, Coro.pure_eq, Coro.bind, Entity.onClient, Coro.zoom]
  refine keeps_await (J := Tallied) (Query.send _) _ ((tallied_cons _ (quiet_asked _)).mpr h) ?_
  intro more state hothers hmore answer hallow
  cases answer with
  | some e =>
      have hlater : Tallied (.answered name (.send (.publish ⟨packetId, topic, payload, pubopts⟩)) (some e) ::
          (more ++ .asked name (.send (.publish ⟨packetId, topic, payload, pubopts⟩)) :: point.1), state) :=
        (tallied_cons _ (quiet_answered_send name _ (some e) fun _ _ _ => Option.some_ne_none e)).mpr hmore
      cases hcode : mapErrorCode P e.code with
      | ok code =>
          simp only [hcode, ofExcept_ok, Coro.bind, Coro.zoom, remember]
          exact keeps_ret _ hlater
      | error thrown =>
          simp only [hcode, ofExcept_error, Coro.bind, Coro.zoom]
          exact keeps_throw thrown hlater
  | none =>
      simp only [Coro.zoom, Coro.bind, remember]
      by_cases hqos : pubopts.qos = .atMostOnce
      · have hquiet := quiet_answered_send name (.publish ⟨packetId, topic, payload, pubopts⟩) none
          fun publish heq hne => absurd (by cases heq; exact hqos) hne
        simp only [hqos, ne_eq, not_true_eq_false, if_false]
        exact keeps_ret _ ((tallied_cons _ hquiet).mpr hmore)
      · have hearly : ∀ event ∈ more, ¬Puback packetId event := by
          intro event hevent hpuback
          exact hallow hqos ⟨more, point.1, rfl, hothers, event, hevent, hpuback⟩
        simp only [hqos, ne_eq, not_false_eq_true, if_true]
        refine keeps_get _ (keeps_set _ _ (keeps_ret _ fun other => ?_))
        rw [unacknowledged_sent name _ more point.1 other hqos hearly]
        exact Finset.mem_insert.trans (or_congr_right (hmore other))

theorem keeps_publish (topic payload : Bytes) (pubopts : Pubopts) (point : Log sig × Entity) (h : Tallied point) :
    Keeps (attentive operations) Tallied name (Entity.asyncPublish P topic payload pubopts) point := by
  rw [entityPublish_eq]
  simp only [Mqtt.asyncPublish, Entity.onClient, Coro.label, Coro.state, Coro.bind_eq, Coro.pure_eq, Coro.bind,
    Coro.zoom]
  refine keeps_enter _ _ (keeps_enter _ _ (keeps_get _ ?_))
  by_cases hconnected : point.2.client.connected = true
  · by_cases hsupported : supportedQos pubopts.qos = true
    · simp only [hconnected, hsupported, Bool.not_true, Bool.false_eq_true, if_false, acquirePacketIdFor]
      have hsend := fun packetId later =>
        @keeps_sendPublish operations P name packetId topic payload pubopts later
      by_cases hqos : pubopts.qos = .atMostOnce
      · rw [if_pos hqos]
        exact hsend 0 point h
      · rw [if_neg hqos, Coro.zoom_bind, Coro.bind_assoc]
        exact keeps_acquire_tallied name _ hsend point h
    · simp only [hconnected, hsupported, Bool.not_true, Bool.not_false, Bool.false_eq_true, if_false, if_true]
      exact keeps_ret _ h
  · simp only [hconnected, Bool.not_false, if_true]
    exact keeps_ret _ h

theorem clientKeeps_subscribe (topics : List Bytes) :
    ClientKeeps operations name (Mqtt.asyncSubscribe P topics) := by
  intro point h
  simp only [Mqtt.asyncSubscribe, sendWithId, epSend, Entity.onClient, Coro.label, Coro.state, Coro.bind_eq,
    Coro.pure_eq, Coro.bind, Coro.zoom]
  refine keeps_enter _ _ (keeps_get _ ?_)
  split_ifs
  · exact keeps_ret _ h
  · rw [Coro.zoom_bind]
    refine keeps_acquire_tallied name _ (fun packetId later h => ?_) point h
    refine keeps_quiet _ _ h (fun _ => quiet_answered name _ _ trivial) fun log entity sent h => ?_
    cases sent with
    | none => exact keeps_ret _ h
    | some e => exact clientKeeps_ofExcept name _ _ (fun _ _ h => keeps_ret _ h) _ h

end Send

section Operations

variable {operations} (P : Platform) (fuel : Nat) (name : Nat)

theorem keeps_received {α : Type} (hother : operations[name]? ≠ some .receive) (f : Expected ReceiveResult → EntityM α)
    (hnext : ∀ result later, Tallied later → Keeps (attentive operations) Tallied name (f result) later)
    (point : Log sig × Entity) (h : Tallied point) :
    Keeps (attentive operations) Tallied name ((Entity.onClient (Mqtt.asyncReceive P fuel)).bind f) point :=
  keeps_receive P fuel name f (fun result later hheard =>
    hnext result later (tallied_of_heard name hother result later hheard))
    point h

theorem keeps_setConfig_tallied (hother : operations[name]? ≠ some .receive) (config : EntityConfig) (pubopts : Pubopts)
    (point : Log sig × Entity) (h : Tallied point) :
    Keeps (attentive operations) Tallied name (Entity.asyncSetConfig P fuel config pubopts) point := by
  simp only [Entity.asyncSetConfig, Coro.label, Coro.state, Coro.bind_eq, Coro.pure_eq, Coro.bind]
  refine keeps_enter _ _ (keeps_get _ (keeps_bind (keeps_publish P name _ _ _ _ h) fun published later h => ?_))
  cases published with
  | some e => exact keeps_ret _ h
  | none =>
      by_cases hqos : pubopts.qos = .atMostOnce
      · simp only [hqos, ne_eq, not_true_eq_false, if_false]
        exact keeps_ret _ h
      · simp only [hqos, ne_eq, not_false_eq_true, if_true]
        refine keeps_received P fuel name hother _ (fun result later h => ?_) later h
        cases result with
        | error e => exact keeps_ret _ h
        | ok received =>
            cases received with
            | publish packet => exact keeps_ret _ h
            | puback acked => exact keeps_ret _ h
            | suback packet => exact keeps_ret _ h

theorem keeps_subscribe_tallied (hother : operations[name]? ≠ some .receive) (topics : List Bytes)
    (point : Log sig × Entity) (h : Tallied point) :
    Keeps (attentive operations) Tallied name (Entity.asyncSubscribe P fuel topics) point := by
  simp only [Entity.asyncSubscribe, Coro.label, Coro.bind_eq, Coro.pure_eq, Coro.bind]
  refine keeps_enter _ _ (keeps_bind (clientKeeps_subscribe P name topics point h) fun subscribed later h => ?_)
  cases subscribed with
  | error e => exact keeps_ret _ h
  | ok packetId =>
      refine keeps_received P fuel name hother _ (fun result later h => ?_) later h
      cases result with
      | error e => exact keeps_ret _ h
      | ok received =>
          cases received with
          | publish packet => exact keeps_ret _ h
          | puback acked => exact keeps_ret _ h
          | suback packet =>
              simp only
              split_ifs
              · exact keeps_ret _ h
              · exact keeps_ret _ h

theorem keeps_operation (operation : EntityOperation) (hname : operations[name]? = some operation)
    (point : Log sig × Entity) (h : Tallied point) :
    Keeps (attentive operations) Tallied name (operation.task P fuel) point := by
  have hend {α : Type} (task : EntityM α) (htask : Keeps (attentive operations) Tallied name task point) :
      Keeps (attentive operations) Tallied name (task.bind fun _ => .ret ()) point :=
    keeps_bind htask fun _ _ hlater => keeps_ret _ hlater
  cases operation with
  | connect =>
      refine hend _ (keeps_enter _ _ ?_)
      exact clientKeeps_of_connecting name (connecting_asyncConnect P _ (connecting_tryReconnect P fuel)) point h
  | setConfig config pubopts =>
      exact hend _ (keeps_setConfig_tallied P fuel name (by simp [hname]) config pubopts point h)
  | setAvailability availability pubopts =>
      refine hend _ (keeps_enter _ _ (keeps_get _ (keeps_ofExcept _ _ h fun payload _ => ?_)))
      exact keeps_publish P name _ payload pubopts point h
  | publish topic payload pubopts => exact hend _ (keeps_publish P name topic payload pubopts point h)
  | subscribe topics => exact hend _ (keeps_subscribe_tallied P fuel name (by simp [hname]) topics point h)
  | receive => exact hend _ (keeps_receive_tallied P fuel name point h)

end Operations

-- A new entity of which these operations are started in any order, at any time.
def entityCrew (P : Platform) (fuel : Nat) (rule : Rule sig) (operations : List EntityOperation) (entity : Entity) :
    Pool (logWorld Entity rule) Unit :=
  idleCrew rule (operations.map (EntityOperation.task P fuel)) entity

theorem pending_exact (P : Platform) (fuel : Nat) (entityName uniqueId : Bytes) (client : AsyncMqttClient)
    (pool : Pool (logWorld Entity (attentive operations)) Unit)
    (hreach : Pool.Reach (crewArena Entity Unit (attentive operations))
      (entityCrew P fuel (attentive operations) operations (.create entityName uniqueId client)) pool)
    (packetId : PacketId) :
    packetId ∈ pool.point.2.pendingPuback ↔ Unacknowledged pool.point.1 packetId := by
  have hinitial : Tallied ([], .create entityName uniqueId client) := by
    intro packetId
    refine iff_of_false (Finset.notMem_empty packetId) ?_
    rintro ⟨later, earlier, name, packet, hlog, -⟩
    cases later <;> cases hlog
  refine crew_keeps _ Tallied _ _ hinitial (fun name task htask point h => ?_) hreach packetId
  obtain ⟨operation, hname, rfl⟩ : ∃ operation, operations[name]? = some operation ∧ operation.task P fuel = task := by
    simpa using htask
  exact keeps_operation P fuel name operation hname point h

end Attentive

section Samples

def connectedEntity : Entity := .create (ascii "sensor") (ascii "1") (AsyncMqttClient.create {}).setConnected

def samplePublish : EntityOperation := .publish (ascii "t") (ascii "p") ⟨.atLeastOnce, true⟩

def samplePacket : PublishPacket := ⟨1, ascii "t", ascii "p", ⟨.atLeastOnce, true⟩⟩

def sampleOperations : List EntityOperation := [samplePublish, .receive]

def sentLog : Log sig :=
  [.asked 0 (.send (.publish samplePacket)), .answered 0 .acquireUniquePacketId (some 1), .asked 0 .acquireUniquePacketId]

def readLog : Log sig :=
  .asked 1 .recv :: .answered 0 (.send (.publish samplePacket)) none :: sentLog

theorem sample_sent : attentive sampleOperations sentLog 0 (.send (.publish samplePacket)) none := by
  rintro _ ⟨more, earlier, hlog, hothers, event, hevent, -⟩
  cases more with
  | nil => cases hevent
  | cons latest more =>
      have hname := hothers latest List.mem_cons_self
      rw [← (List.cons.inj hlog).1] at hname
      exact hname rfl

theorem sample_read : attentive sampleOperations readLog 1 .recv (.ok (.puback 1)) := by
  refine fun _ => ⟨rfl, ?_⟩
  rintro ⟨more, packet, earlier, hlog, hothers⟩
  cases more with
  | nil => cases (List.cons.inj (List.cons.inj hlog).2).1
  | cons latest more =>
      have hname := hothers latest List.mem_cons_self
      rw [← (List.cons.inj hlog).1] at hname
      exact hname rfl

-- One publish whose PUBACK async_receive reads.
theorem reach_sample :
    ∃ pool, Pool.Reach (crewArena Entity Unit (attentive sampleOperations))
        (entityCrew samplePlatform 2 (attentive sampleOperations) sampleOperations connectedEntity) pool ∧
      pool.point.1 = .asked 1 .recv :: .answered 1 .recv (.ok (.puback 1)) :: readLog :=
  ⟨_, .head (.resume _ 0 (0, none) _ () rfl trivial) <|
    .head (.resume _ 0 (0, some .acquireUniquePacketId) _ (some 1 : Option PacketId) rfl trivial) <|
    .head (.resume _ 0 (0, some (.send (.publish samplePacket))) _ (none : Option SystemError) rfl sample_sent) <|
    .head (.resume _ 1 (1, none) _ () rfl trivial) <|
    .head (.resume _ 1 (1, some .recv) _ (.ok (.puback 1) : Except SystemError Packet) rfl sample_read) .refl, rfl⟩

theorem pending_exact_sample :
    ∃ pool, Pool.Reach (crewArena Entity Unit (attentive sampleOperations))
        (entityCrew samplePlatform 2 (attentive sampleOperations) sampleOperations connectedEntity) pool ∧
      pool.point.1 = .asked 1 .recv :: .answered 1 .recv (.ok (.puback 1)) :: readLog ∧
      (1 ∈ pool.point.2.pendingPuback ↔ Unacknowledged pool.point.1 1) := by
  obtain ⟨pool, hreach, hlog⟩ := reach_sample
  exact ⟨pool, hreach, hlog, pending_exact _ samplePlatform 2 _ _ _ pool hreach 1⟩

-- Any answer at any time.
def anyAnswer : Rule sig := fun _ _ _ _ => True

-- The broker acknowledges whatever has the id 1.
def acknowledging (_ : Log sig) (_ : Entity) : (query : sig.named.Query) → sig.named.Answer query
  | (_, none) => ()
  | (_, some .acquireUniquePacketId) => (some 1 : Option PacketId)
  | (_, some .recv) => (.ok (.puback 1) : Except SystemError Packet)
  | (_, some (.resolve _ _)) => (none : Option SystemCode)
  | (_, some .connect) => (none : Option SystemCode)
  | (_, some (.send _)) => (none : Option SystemError)
  | (_, some (.timer _)) => (none : Option SystemCode)
  | (_, some (.wait _)) => (none : Option SystemCode)

def sampleSetConfig : EntityOperation := .setConfig {} ⟨.atLeastOnce, true⟩

-- async_set_config alone publishes the config, reads its PUBACK and leaves the id behind.
theorem config_id_stays :
    ∃ pool, Pool.Reach (crewArena Entity Unit anyAnswer)
        (entityCrew samplePlatform 2 anyAnswer [sampleSetConfig] connectedEntity) pool ∧
      pool.tasks = [.ret ()] ∧ 1 ∈ pool.point.2.pendingPuback ∧ ¬Unacknowledged pool.point.1 1 := by
  have hreach := Pool.reach_exec (crewArena Entity Unit anyAnswer) acknowledging
    (fun _ _ query => by obtain ⟨_, _ | _⟩ := query <;> trivial) [.spin] 0 Nat.one_pos
    ((sampleSetConfig.task samplePlatform 2).idle 0) ([], connectedEntity)
  refine ⟨_, hreach, rfl, by decide, ?_⟩
  intro hun
  exact ((unacknowledged_puback _ 1 1 _).mp hun).1 rfl

end Samples

end HhctrlMgmt.Mqtt
