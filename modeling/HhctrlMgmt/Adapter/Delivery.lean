import HhctrlMgmt.Adapter.Commands
import HhctrlMgmt.Coroutine.Ends
import HhctrlMgmt.Mqtt.Client.Connecting
import HhctrlMgmt.Mqtt.Configured

namespace HhctrlMgmt.Adapter

open Common Coroutine Mqtt

-- What a cover has asked of its broker, and the commands that it has received: the
-- PUBLISH packets on the command topic since a SUBSCRIBE was sent, the latest first.
-- A command is out of turn if it came while an answer to a request was awaited.
structure Inbox where
  subscribed : Bool
  -- A PUBLISH at QoS 1 or a SUBSCRIBE has been sent, and no PUBLISH, PUBACK or
  -- SUBACK has been received since.
  asked : Bool
  -- A CONNECT has been sent and nothing has been received since.
  greeted : Bool
  commands : List (PublishPacket × Bool)

namespace Inbox

def empty : Inbox := ⟨false, false, false, []⟩

def sent (inbox : Inbox) : Outgoing → Inbox
  | .connect _ => { inbox with greeted := true }
  | .subscribe _ => { inbox with subscribed := true, asked := true }
  | .publish packet => if packet.opts.qos = .atMostOnce then inbox else { inbox with asked := true }

def noted (commandTopic : Bytes) (inbox : Inbox) : Packet → Inbox
  | .publish packet =>
      if inbox.subscribed ∧ packet.topic = commandTopic then
        { inbox with commands := (packet, inbox.asked || inbox.greeted) :: inbox.commands }
      else inbox
  | _ => inbox

def received (commandTopic : Bytes) (inbox : Inbox) (packet : Packet) : Inbox :=
  { inbox.noted commandTopic packet with
    asked := inbox.asked && packet.receiveResult.isNone
    greeted := false }

def answer (commandTopic : Bytes) (inbox : Inbox) : (query : Query) → Answer query → Inbox
  | .send packet, none => inbox.sent packet
  | .recv, .ok packet => inbox.received commandTopic packet
  | .recv, .error _ => { inbox with asked := false, greeted := false }
  | _, _ => inbox

end Inbox

-- Everything may be answered in any way.
abbrev inboxOf (commandTopic : Bytes) : Surroundings sig where
  State := Inbox
  enter inbox _ := inbox
  issue inbox _ := inbox
  allows _ _ _ := True
  answer := Inbox.answer commandTopic

def commandTopicOf (cover : Entity) : Bytes :=
  cover.topic CoverConfig.Default.switchCommandTopic

-- The calls to a cover that take packets, one after the other. A call of
-- async_receive has a result.
inductive CoverCall where
  | configure (config : EntityConfig) (pubopts : Pubopts)
  | receive

def CoverCall.task (P : Platform) (fuel : Nat) : CoverCall → EntityM (Option (Expected CoverCommand))
  | .configure config pubopts => (Cover.asyncConfigure P fuel config pubopts).bind fun _ => .ret none
  | .receive => (Cover.asyncReceive P fuel).bind fun result => .ret (some result)

-- An async_configure of a new cover has ended, after it has sent its SUBSCRIBE.
def Subscribed (P : Platform) (fuel : Nat) (cover : Entity) (point : Inbox × Entity) : Prop :=
  point.1.subscribed = true ∧ ∃ config pubopts task,
    (task = .ret none ∨ ∃ thrown, task = .throw thrown) ∧
    Reach ((inboxOf (commandTopicOf cover)).world Entity)
      (settle _ ((CoverCall.configure config pubopts).task P fuel) (.empty, cover)) ⟨point, task⟩

-- Afterwards, async_receive and async_configure are called in any order.
def Used (P : Platform) (fuel : Nat) (cover : Entity) :
    List (Option (Expected CoverCommand)) → Inbox × Entity → Prop :=
  Serial ((inboxOf (commandTopicOf cover)).world Entity) (fun task => ∃ call : CoverCall, task = call.task P fuel)
    (Subscribed P fuel cover)

section Calls

variable {P : Platform} {fuel : Nat} {cover : Entity} {point later : Inbox × Entity}

theorem Subscribed.used (h : Subscribed P fuel cover point) : Used P fuel cover [] point :=
  @Serial.start sig Entity _ ((inboxOf (commandTopicOf cover)).world Entity) _ _ point h

theorem Used.receive {results : List (Option (Expected CoverCommand))} {result : Option (Expected CoverCommand)}
    (h : Used P fuel cover results point)
    (hreach : Reach ((inboxOf (commandTopicOf cover)).world Entity) (settle _ (CoverCall.receive.task P fuel) point)
      ⟨later, .ret result⟩) : Used P fuel cover (result :: results) later :=
  @Serial.ret sig Entity _ ((inboxOf (commandTopicOf cover)).world Entity) _ _ results point later _ result h
    ⟨.receive, rfl⟩ hreach

end Calls

-- The commands that the calls of async_receive have returned.
def returned (results : List (Option (Expected CoverCommand))) : List CoverCommand :=
  results.filterMap fun
    | some (.ok command) => some command
    | _ => none

def Names (packet : PublishPacket) : CoverCommand → Prop
  | .switch command => coverSwitchCommandMapper.mapKey command = .ok packet.payload

-- Each command has been returned by one call, in the order of their arrival.
def NoneSwallowed (results : List (Option (Expected CoverCommand))) (inbox : Inbox) : Prop :=
  List.Forall₂ (fun command result => Names command.1 result) inbox.commands (returned results)

-- How the commands received and the commands returned belong together.
inductive Matches (cover : Entity) : List (PublishPacket × Bool) → List CoverCommand → Prop
  | nil : Matches cover [] []
  | returned (packet : PublishPacket) (command : CoverCommand) {commands : List (PublishPacket × Bool)}
      {results : List CoverCommand} (hnames : Names packet command) (hrest : Matches cover commands results) :
      Matches cover ((packet, false) :: commands) (command :: results)
  | swallowed (command : PublishPacket × Bool) {commands : List (PublishPacket × Bool)}
      {results : List CoverCommand} (hlost : command.2 = true ∨ Malformed cover command.1)
      (hrest : Matches cover commands results) : Matches cover (command :: commands) results

theorem Matches.length_le {cover : Entity} {commands : List (PublishPacket × Bool)} {results : List CoverCommand}
    (h : Matches cover commands results) : results.length ≤ commands.length := by
  induction h with
  | nil => exact Nat.le_refl 0
  | returned _ _ _ _ ih => exact Nat.succ_le_succ ih
  | swallowed _ _ _ ih => exact Nat.le_succ_of_le ih

theorem Matches.forall₂_iff {cover : Entity} {commands : List (PublishPacket × Bool)} {results : List CoverCommand}
    (h : Matches cover commands results) :
    List.Forall₂ (fun command result => Names command.1 result) commands results ↔
      ∀ command ∈ commands, command.2 = false ∧ ¬Malformed cover command.1 := by
  induction h with
  | nil => exact iff_of_true .nil nofun
  | returned packet command hnames _ ih =>
      have hnot : ¬Malformed cover packet := by
        intro hmalformed
        cases command with
        | switch command => exact hmalformed.2 command hnames
      rw [List.forall₂_cons, ih, List.forall_mem_cons]
      exact and_congr_left fun _ => iff_of_true hnames ⟨rfl, hnot⟩
  | swallowed command hlost hrest _ =>
      refine iff_of_false (fun hall => ?_) fun hall => ?_
      · have hlength := hall.length_eq
        have hle := hrest.length_le
        rw [List.length_cons] at hlength
        omega
      · have hkept := hall command List.mem_cons_self
        rcases hlost with hearly | hmalformed
        · exact absurd hearly (by rw [hkept.1]; exact Bool.false_ne_true)
        · exact hkept.2 hmalformed

section Waits

variable (cover : Entity) (asked greeted known : Bool) (results : List CoverCommand)

-- What is awaited, whether a SUBSCRIBE is known to have been sent, and which results
-- the commands so far have led to.
structure Waits (inbox : Inbox) : Prop where
  asked : inbox.asked = asked
  greeted : inbox.greeted = greeted
  known : known = true → inbox.subscribed = true
  matched : Matches cover inbox.commands results

variable {cover asked greeted known results} {inbox : Inbox}

-- A command that comes out of turn is swallowed.
theorem Waits.received_early (h : Waits cover asked greeted known results inbox)
    (hearly : asked = true ∨ greeted = true) (packet : Packet) :
    Waits cover (asked && packet.receiveResult.isNone) false known results
      (inbox.received (commandTopicOf cover) packet) := by
  have hflag : (inbox.asked || inbox.greeted) = true := by
    rw [h.asked, h.greeted, Bool.or_eq_true]
    exact hearly
  have hnoted : (inbox.noted (commandTopicOf cover) packet).subscribed = inbox.subscribed ∧
      Matches cover (inbox.noted (commandTopicOf cover) packet).commands results := by
    cases packet with
    | publish packet =>
        unfold Inbox.noted
        simp only
        split_ifs
        · exact ⟨rfl, .swallowed _ (Or.inl hflag) h.matched⟩
        · exact ⟨rfl, h.matched⟩
    | puback _ | suback _ | connack _ _ | other _ => exact ⟨rfl, h.matched⟩
  exact ⟨by rw [← h.asked]; rfl, rfl, fun hknown => hnoted.1.trans (h.known hknown), hnoted.2⟩

theorem Waits.received_other (h : Waits cover false false known results inbox) (packet : Packet)
    (hother : ∀ publish, packet = .publish publish → publish.topic ≠ commandTopicOf cover) :
    Waits cover false false known results (inbox.received (commandTopicOf cover) packet) := by
  have hnoted : inbox.noted (commandTopicOf cover) packet = inbox := by
    cases packet with
    | publish packet => exact if_neg fun hboth => hother packet rfl hboth.2
    | puback _ | suback _ | connack _ _ | other _ => rfl
  unfold Inbox.received
  rw [hnoted, h.asked]
  exact ⟨rfl, rfl, h.known, h.matched⟩

theorem Waits.received_command (h : Waits cover false false true results inbox) (packet : PublishPacket)
    (hcommand : packet.topic = commandTopicOf cover) {later : List CoverCommand}
    (hmatched : Matches cover inbox.commands results → Matches cover ((packet, false) :: inbox.commands) later) :
    Waits cover false false true later (inbox.received (commandTopicOf cover) (.publish packet)) := by
  have hnoted : inbox.noted (commandTopicOf cover) (.publish packet) =
      { inbox with commands := (packet, false) :: inbox.commands } := by
    unfold Inbox.noted
    simp only
    rw [if_pos ⟨h.known rfl, hcommand⟩, h.asked, h.greeted]
    rfl
  unfold Inbox.received
  rw [hnoted, h.asked]
  exact ⟨rfl, rfl, h.known, hmatched h.matched⟩

theorem Waits.failed (h : Waits cover asked greeted known results inbox) :
    Waits cover false false known results { inbox with asked := false, greeted := false } :=
  ⟨rfl, rfl, h.known, h.matched⟩

end Waits

section Client

variable {α β : Type} (P : Platform) (fuel : Nat) (cover : Entity) (known : Bool) (results : List CoverCommand)

-- The wait for nothing.
abbrev Idle (inbox : Inbox) : Prop := Waits cover false false known results inbox

-- A part of the client that starts and ends idle.
def ClientIdles (task : ClientM α) : Prop :=
  ∀ point, Idle cover known results point.1 →
    Ends ((inboxOf (commandTopicOf cover)).world AsyncMqttClient) (fun _ later => Idle cover known results later.1)
      (fun later => Idle cover known results later.1) task point

variable {cover known results}

-- A packet in the place of a CONNACK is out of turn.
theorem clientIdles_of_connecting {task : ClientM α} (hconnecting : Connecting task) :
    ClientIdles cover known results task := by
  induction hconnecting with
  | ret value => exact fun _ h => ends_ret value h
  | throw thrown =>
      intro point h
      apply ends_throw
      exact h
  | spin => exact fun _ _ => ends_spin
  | get next _ ih => exact fun point h => ends_get _ (ih point.2 point h)
  | set client next _ ih => exact fun point h => ends_set _ _ (ih _ h)
  | enter label next _ ih => exact fun point h => ends_enter _ _ (ih point h)
  | await query next hlocal _ ih =>
      intro point h
      refine ends_await _ _ fun answer _ => ih answer _ ?_
      cases query with
      | send _ | recv => exact hlocal.elim
      | resolve _ _ | connect | acquireUniquePacketId | timer _ | wait _ => exact h
  | handshake packet next recv hsent _ _ ihfailed ihrecv =>
      rintro ⟨inbox, client⟩ h
      refine ends_await _ _ fun sent _ => ?_
      cases sent with
      | some e => exact ihfailed e _ h
      | none =>
          have hgreeted : Waits cover false true known results { inbox with greeted := true } :=
            ⟨h.asked, rfl, h.known, h.matched⟩
          rw [hsent]
          refine ends_await _ _ fun answer _ => ihrecv answer _ ?_
          cases answer with
          | ok packet => exact hgreeted.received_early (Or.inr rfl) packet
          | error e => exact hgreeted.failed

variable (cover known results)

-- A request has been sent and its answer is to be read.
def Requested (point : Inbox × AsyncMqttClient) : Prop :=
  Waits cover true false known results point.1 ∧ point.2.connected = true

-- What a request leads to. A publish at QoS 0 is none.
def Sent (requests : Bool) (result : Expected PacketId) (later : Inbox × AsyncMqttClient) : Prop :=
  match result with
  | .error _ => Idle cover known results later.1
  | .ok _ => if requests then Requested cover known results later else Idle cover known results later.1

-- What Entity::async_receive may be given while nothing is awaited.
def Heard (result : Expected ReceiveResult) (later : Inbox) : Prop :=
  match result with
  | .ok (.publish packet) => ∃ before, Idle cover known results before ∧
      later = before.received (commandTopicOf cover) (.publish packet)
  | _ => Idle cover known results later

variable {cover known results}

-- After a request, whatever comes next ends the wait.
theorem ends_receive_requested (point : Inbox × AsyncMqttClient) (h : Requested cover known results point) :
    Ends ((inboxOf (commandTopicOf cover)).world AsyncMqttClient) (fun _ later => Idle cover known results later.1)
      (fun later => Idle cover known results later.1) (Mqtt.asyncReceive P fuel) point := by
  have hflag : point.2.connected = true := h.2
  simp only [Mqtt.asyncReceive, Coro.bind_eq, Coro.label, Coro.state, Coro.bind]
  refine ends_enter _ _ (ends_get _ ?_)
  simp only [hflag, Bool.not_true, Bool.false_eq_true, if_false]
  suffices hloop : ∀ rounds (point : Inbox × AsyncMqttClient), Waits cover true false known results point.1 →
      Ends ((inboxOf (commandTopicOf cover)).world AsyncMqttClient) (fun _ later => Idle cover known results later.1)
        (fun later => Idle cover known results later.1) (asyncReceiveLoop P (tryReconnect P fuel) rounds) point from
    hloop fuel point h.1
  clear h hflag point
  intro rounds
  induction rounds with
  | zero => exact fun _ _ => ends_spin
  | succ rounds ih =>
      intro point h
      simp only [asyncReceiveLoop, epRecv, Coro.bind_eq, Coro.pure_eq, Coro.bind]
      refine ends_await _ _ fun answer _ => ?_
      cases answer with
      | error e =>
          have hrecover := connecting_handleRecvError P _ (connecting_tryReconnect P fuel) e
          exact clientIdles_of_connecting (connecting_bind hrecover fun _ => .ret _) _ h.failed
      | ok packet =>
          have hlater := h.received_early (Or.inl rfl) packet
          cases hresult : packet.receiveResult with
          | some result =>
              simp only [hresult] at hlater ⊢
              exact ends_ret _ hlater
          | none =>
              simp only [hresult] at hlater ⊢
              exact ih _ hlater

theorem ends_acquirePacketId {ret : α → Inbox × AsyncMqttClient → Prop} (next : PacketId → ClientM α)
    (point : Inbox × AsyncMqttClient) (h : Idle cover known results point.1)
    (hnext : ∀ packetId, Ends ((inboxOf (commandTopicOf cover)).world AsyncMqttClient) ret
      (fun later => Idle cover known results later.1) (next packetId) point) :
    Ends ((inboxOf (commandTopicOf cover)).world AsyncMqttClient) ret (fun later => Idle cover known results later.1)
      (acquirePacketId.bind next) point := by
  simp only [acquirePacketId, epAcquireUniquePacketId, Coro.bind_eq, Coro.pure_eq, Coro.bind]
  refine ends_await _ _ fun acquired _ => ?_
  cases acquired with
  | none => exact ends_throw _ h
  | some packetId => exact hnext packetId

theorem ends_sendWithId (packetId : PacketId) (packet : Outgoing) (requests : Bool) (point : Inbox × AsyncMqttClient)
    (h : Idle cover known results point.1)
    (hsent : Sent cover known results requests (.ok packetId)
      (point.1.sent packet, point.2)) :
    Ends ((inboxOf (commandTopicOf cover)).world AsyncMqttClient) (Sent cover known results requests)
      (fun later => Idle cover known results later.1) (sendWithId P packetId packet) point := by
  simp only [sendWithId, epSend, Coro.bind_eq, Coro.pure_eq, Coro.bind]
  refine ends_await _ _ fun sent _ => ?_
  cases sent with
  | none => exact ends_ret _ hsent
  | some e =>
      exact ends_bind (clientIdles_of_connecting (connecting_ofExcept _) point h) fun code later h => ends_ret _ h

def requestsAck (pubopts : Pubopts) : Bool := pubopts.qos ≠ .atMostOnce

theorem ends_asyncPublish (topic payload : Bytes) (pubopts : Pubopts) (point : Inbox × AsyncMqttClient)
    (h : Idle cover known results point.1) :
    Ends ((inboxOf (commandTopicOf cover)).world AsyncMqttClient) (Sent cover known results (requestsAck pubopts))
      (fun later => Idle cover known results later.1) (Mqtt.asyncPublish P topic payload pubopts) point := by
  simp only [Mqtt.asyncPublish, Coro.bind_eq, Coro.pure_eq, Coro.label, Coro.state, Coro.bind]
  refine ends_enter _ _ (ends_get _ ?_)
  by_cases hconnected : point.2.connected = true
  · by_cases hsupported : supportedQos pubopts.qos = true
    · simp only [hconnected, hsupported, Bool.not_true, Bool.false_eq_true, if_false, acquirePacketIdFor]
      by_cases hqos : pubopts.qos = .atMostOnce
      · rw [if_pos hqos]
        refine ends_sendWithId P 0 _ _ _ h ?_
        simp only [Inbox.sent, Sent, requestsAck, hqos, ne_eq, not_true_eq_false, decide_false, Bool.false_eq_true,
          if_true, if_false]
        exact h
      · rw [if_neg hqos]
        refine ends_acquirePacketId _ _ h fun packetId => ends_sendWithId P packetId _ _ _ h ?_
        simp only [Inbox.sent, Sent, requestsAck, hqos, ne_eq, not_false_eq_true, decide_true, if_true, if_false]
        exact ⟨⟨rfl, h.greeted, h.known, h.matched⟩, hconnected⟩
    · simp only [hconnected, hsupported, Bool.not_true, Bool.not_false, Bool.false_eq_true, if_false, if_true]
      exact ends_ret _ h
  · simp only [hconnected, Bool.not_false, if_true]
    exact ends_ret _ h

theorem ends_asyncSubscribe (topics : List Bytes) (point : Inbox × AsyncMqttClient)
    (h : Idle cover known results point.1) :
    Ends ((inboxOf (commandTopicOf cover)).world AsyncMqttClient) (Sent cover known results true)
      (fun later => Idle cover known results later.1) (Mqtt.asyncSubscribe P topics) point := by
  simp only [Mqtt.asyncSubscribe, Coro.bind_eq, Coro.pure_eq, Coro.label, Coro.state, Coro.bind]
  refine ends_enter _ _ (ends_get _ ?_)
  by_cases hconnected : point.2.connected = true
  · simp only [hconnected, Bool.not_true, Bool.false_eq_true, if_false]
    refine ends_acquirePacketId _ _ h fun packetId => ends_sendWithId P packetId _ _ _ h ?_
    exact ⟨⟨rfl, h.greeted, fun _ => rfl, h.matched⟩, hconnected⟩
  · simp only [hconnected, Bool.not_false, if_true]
    exact ends_ret _ h

theorem ends_receive_idle (point : Inbox × AsyncMqttClient) (h : Idle cover known results point.1) :
    Ends ((inboxOf (commandTopicOf cover)).world AsyncMqttClient)
      (fun result later => Heard cover known results result later.1)
      (fun later => Idle cover known results later.1) (Mqtt.asyncReceive P fuel) point := by
  simp only [Mqtt.asyncReceive, Coro.bind_eq, Coro.label, Coro.state, Coro.bind]
  refine ends_enter _ _ (ends_get _ ?_)
  split_ifs with hflag
  · exact ends_ret _ h
  suffices hloop : ∀ rounds (point : Inbox × AsyncMqttClient), Idle cover known results point.1 →
      Ends ((inboxOf (commandTopicOf cover)).world AsyncMqttClient)
        (fun result later => Heard cover known results result later.1)
        (fun later => Idle cover known results later.1) (asyncReceiveLoop P (tryReconnect P fuel) rounds) point from
    hloop fuel point h
  clear hflag h point
  intro rounds
  induction rounds with
  | zero => exact fun _ _ => ends_spin
  | succ rounds ih =>
      intro point h
      simp only [asyncReceiveLoop, epRecv, Coro.bind_eq, Coro.pure_eq, Coro.bind]
      refine ends_await _ _ fun answer _ => ?_
      cases answer with
      | error e =>
          have hrecover := connecting_handleRecvError P _ (connecting_tryReconnect P fuel) e
          exact ends_bind (clientIdles_of_connecting hrecover _ h.failed) fun _ _ hlater => ends_ret _ hlater
      | ok packet =>
          cases packet with
          | publish packet => exact ends_ret _ ⟨point.1, h, rfl⟩
          | puback acked => exact ends_ret _ (h.received_other (.puback acked) (by simp))
          | suback suback => exact ends_ret _ (h.received_other (.suback suback) (by simp))
          | connack present code => exact ih _ (h.received_other (.connack present code) (by simp))
          | other type => exact ih _ (h.received_other (.other type) (by simp))

end Client

section Entity

variable {α : Type} (P : Platform) (fuel : Nat) (cover : Entity) (known : Bool) (results : List CoverCommand)

def Kept (point : Inbox × Entity) : Prop :=
  Idle cover known results point.1 ∧ SameNames cover point.2

variable {cover known results}

theorem ends_onClient {ret : α → Inbox × AsyncMqttClient → Prop} (task : ClientM α) (point : Inbox × Entity)
    (hnames : SameNames cover point.2)
    (h : Ends ((inboxOf (commandTopicOf cover)).world AsyncMqttClient) ret
      (fun later => Idle cover known results later.1) task (point.1, point.2.client)) :
    Ends ((inboxOf (commandTopicOf cover)).world Entity)
      (fun value later => ret value (later.1, later.2.client) ∧ SameNames cover later.2)
      (Kept cover known results) (Entity.onClient task) point := by
  have hzoom : Ends ((inboxOf (commandTopicOf cover)).world Entity)
      (fun value later => ret value (later.1, later.2.client) ∧ ∃ client, later.2 = point.2.setClient client)
      (fun later => Idle cover known results later.1 ∧ ∃ client, later.2 = point.2.setClient client)
      (Entity.onClient task) point :=
    @ends_zoom _ _ _ _ (inboxOf (commandTopicOf cover)) ret (Idle cover known results) clientLens task point h
  refine ends_mono hzoom ?_ ?_
  · rintro value later ⟨hret, client, hwhole⟩
    rw [hwhole] at hret ⊢
    exact ⟨hret, hnames⟩
  · rintro later ⟨hthrow, client, hwhole⟩
    refine ⟨hthrow, ?_⟩
    rw [hwhole]
    exact hnames

theorem ends_entityPublish (topic payload : Bytes) (pubopts : Pubopts) (point : Inbox × Entity)
    (h : Kept cover known results point) :
    Ends ((inboxOf (commandTopicOf cover)).world Entity)
      (fun result later => SameNames cover later.2 ∧
        if result = none ∧ pubopts.qos ≠ .atMostOnce then Requested cover known results (later.1, later.2.client)
        else Idle cover known results later.1)
      (Kept cover known results) (Entity.asyncPublish P topic payload pubopts) point := by
  simp only [Entity.asyncPublish, Coro.bind_eq, Coro.pure_eq, Coro.label, Coro.modify, Coro.bind]
  refine ends_enter _ _ ?_
  refine ends_bind (ends_onClient _ point h.2 (ends_asyncPublish P topic payload pubopts _ h.1))
    fun result later hlater => ?_
  obtain ⟨hsent, hnames⟩ := hlater
  cases result with
  | error e =>
      refine ends_ret _ ⟨hnames, ?_⟩
      rw [if_neg (by simp)]
      exact hsent
  | ok packetId =>
      by_cases hqos : pubopts.qos = .atMostOnce
      · simp only [hqos, ne_eq, not_true_eq_false, if_false, Sent, requestsAck,
          decide_false, Bool.false_eq_true] at hsent ⊢
        refine ends_ret _ ⟨hnames, ?_⟩
        rw [if_neg (by simp)]
        exact hsent
      · simp only [hqos, ne_eq, not_false_eq_true, if_true, Sent, requestsAck, decide_true] at hsent ⊢
        refine ends_get _ (ends_set _ _ (ends_ret _ ⟨hnames, ?_⟩))
        rw [if_pos (by simp)]
        exact hsent

theorem ends_setConfig (config : EntityConfig) (pubopts : Pubopts) (point : Inbox × Entity)
    (h : Kept cover known results point) :
    Ends ((inboxOf (commandTopicOf cover)).world Entity) (fun _ => Kept cover known results) (Kept cover known results)
      (Entity.asyncSetConfig P fuel config pubopts) point := by
  simp only [Entity.asyncSetConfig, Coro.bind_eq, Coro.pure_eq, Coro.label, Coro.state, Coro.bind]
  refine ends_enter _ _ (ends_get _ ?_)
  refine ends_bind (ends_entityPublish P _ _ pubopts point h) fun result later hlater => ?_
  obtain ⟨hnames, hsent⟩ := hlater
  cases result with
  | some e =>
      rw [if_neg (by simp)] at hsent
      exact ends_ret _ ⟨hsent, hnames⟩
  | none =>
      by_cases hqos : pubopts.qos = .atMostOnce
      · simp only [hqos, ne_eq, not_true_eq_false, and_false, if_false] at hsent ⊢
        exact ends_ret _ ⟨hsent, hnames⟩
      · simp only [hqos, ne_eq, not_false_eq_true, and_self, if_true] at hsent ⊢
        refine ends_bind (ends_onClient _ later hnames (ends_receive_requested P fuel _ hsent))
          fun received last hlast => ?_
        cases received with
        | error e => exact ends_ret _ hlast
        | ok packet =>
            cases packet with
            | publish _ => exact ends_ret _ hlast
            | puback _ => exact ends_ret _ hlast
            | suback _ => exact ends_ret _ hlast

theorem ends_subscribe (topics : List Bytes) (point : Inbox × Entity) (h : Kept cover known results point) :
    Ends ((inboxOf (commandTopicOf cover)).world Entity) (fun _ => Kept cover known results) (Kept cover known results)
      (Entity.asyncSubscribe P fuel topics) point := by
  simp only [Entity.asyncSubscribe, Coro.bind_eq, Coro.pure_eq, Coro.label, Coro.bind]
  refine ends_enter _ _ ?_
  refine ends_bind (ends_onClient _ point h.2 (ends_asyncSubscribe P topics _ h.1)) fun result later hlater => ?_
  obtain ⟨hsent, hnames⟩ := hlater
  cases result with
  | error e => exact ends_ret _ ⟨hsent, hnames⟩
  | ok packetId =>
      refine ends_bind (ends_onClient _ later hnames (ends_receive_requested P fuel _ hsent))
        fun received last hlast => ?_
      cases received with
      | error e => exact ends_ret _ hlast
      | ok packet =>
          cases packet with
          | publish _ => exact ends_ret _ hlast
          | puback _ => exact ends_ret _ hlast
          | suback packet =>
              simp only
              split_ifs
              · exact ends_ret _ hlast
              · exact ends_ret _ hlast

-- What Entity::async_receive may return.
def Read (cover : Entity) (known : Bool) (results : List CoverCommand) (result : Expected PublishPacket)
    (later : Inbox × Entity) : Prop :=
  Heard cover known results (result.map .publish) later.1 ∧ SameNames cover later.2

theorem ends_entityReceive (point : Inbox × Entity) (h : Kept cover known results point) :
    Ends ((inboxOf (commandTopicOf cover)).world Entity) (Read cover known results) (Kept cover known results)
      (Entity.asyncReceive P fuel) point := by
  simp only [Entity.asyncReceive, Coro.bind_eq, Coro.label, Coro.bind]
  refine ends_enter _ _ ?_
  suffices hloop : ∀ rounds point, Kept cover known results point →
      Ends ((inboxOf (commandTopicOf cover)).world Entity) (Read cover known results) (Kept cover known results)
        (Entity.asyncReceiveLoop P fuel rounds) point from
    hloop fuel point h
  clear h point
  intro rounds
  induction rounds with
  | zero => exact fun _ _ => ends_spin
  | succ rounds ih =>
      intro point h
      simp only [Entity.asyncReceiveLoop, Coro.bind_eq, Coro.pure_eq, Coro.modify, Coro.bind]
      refine ends_bind (ends_onClient _ point h.2 (ends_receive_idle P fuel _ h.1)) fun result later hlater => ?_
      obtain ⟨hheard, hnames⟩ := hlater
      cases result with
      | error e => exact ends_ret _ ⟨hheard, hnames⟩
      | ok received =>
          cases received with
          | publish packet => exact ends_ret _ ⟨hheard, hnames⟩
          | suback packet =>
              simp only
              split_ifs
              · exact ends_ret _ ⟨hheard, hnames⟩
              · exact ih _ ⟨hheard, hnames⟩
          | puback acked =>
              refine ends_get _ (ends_set _ _ (ih _ ⟨hheard, ?_⟩))
              simp only
              split_ifs
              · exact hnames
              · exact hnames

theorem malformed_congr {cover entity : Entity} (h : SameNames cover entity) (packet : PublishPacket) :
    Malformed entity packet ↔ Malformed cover packet := by
  unfold Malformed Entity.topic
  rw [h.1, h.2]

theorem topic_ne_of_mapCommand {entity : Entity} {packet : PublishPacket}
    (hmap : Cover.mapCommand (Cover.topics entity) packet = .ok none) : packet.topic ≠ commandTopicOf entity := by
  intro (hcommand : packet.topic = entity.topic CoverConfig.Default.switchCommandTopic)
  have hmapCommand : Cover.mapCommand (Cover.topics entity) packet =
      if packet.topic = entity.topic CoverConfig.Default.switchCommandTopic then
        (coverSwitchCommandMapper.mapValue packet.payload).bind fun command => .ok (some (.switch command))
      else .ok none := rfl
  rw [hmapCommand, if_pos hcommand] at hmap
  cases hvalue : coverSwitchCommandMapper.mapValue packet.payload with
  | error thrown => simp [hvalue, Except.bind] at hmap
  | ok command => simp [hvalue, Except.bind] at hmap

-- A command that async_receive reads itself is returned, unless it is malformed.
theorem ends_coverReceive (point : Inbox × Entity) (h : Kept cover true results point) :
    Ends ((inboxOf (commandTopicOf cover)).world Entity)
      (fun result => Kept cover true (returned [some result] ++ results)) (Kept cover true results)
      (Cover.asyncReceive P fuel) point := by
  rw [cover_asyncReceive_eq]
  refine ends_bind (ends_entityReceive P fuel point h) fun result later hlater => ?_
  obtain ⟨hheard, hnames⟩ := hlater
  cases result with
  | error e => exact ends_ret _ ⟨hheard, hnames⟩
  | ok packet =>
      obtain ⟨before, hidle, hread⟩ := hheard
      have hcommandTopic : commandTopicOf later.2 = commandTopicOf cover := by
        unfold commandTopicOf Entity.topic
        rw [hnames.1, hnames.2]
      refine ends_get _ ?_
      rcases mapCommand_cases later.2 packet with ⟨hmalformed, thrown, hmap⟩ | ⟨-, result, hmap, -⟩
      · rw [hmap]
        refine ends_throw _ ⟨?_, hnames⟩
        rw [hread]
        refine hidle.received_command packet (hmalformed.1.trans hcommandTopic) fun hmatched => ?_
        exact .swallowed _ (Or.inr ((malformed_congr hnames packet).mp hmalformed)) hmatched
      · rw [hmap]
        cases result with
        | none =>
            have hother : packet.topic ≠ commandTopicOf cover := hcommandTopic ▸ topic_ne_of_mapCommand hmap
            refine ends_ret _ ⟨?_, hnames⟩
            rw [hread]
            exact hidle.received_other (.publish packet) fun publish heq => by cases heq; exact hother
        | some command =>
            obtain ⟨named⟩ := command
            obtain ⟨htopic, hkey⟩ := (mapCommand_some_iff later.2 packet (.switch named)).mp hmap
            refine ends_ret _ ⟨?_, hnames⟩
            rw [hread]
            exact hidle.received_command packet (htopic.trans hcommandTopic) (.returned packet (.switch named) hkey)

theorem ends_ofExcept_kept (result : Except Exn α) (point : Inbox × Entity) (h : Kept cover known results point) :
    Ends ((inboxOf (commandTopicOf cover)).world Entity) (fun _ => Kept cover known results) (Kept cover known results)
      (.ofExcept result) point :=
  ends_ofExcept (W := (inboxOf (commandTopicOf cover)).world Entity) result h fun _ => h

theorem ends_coverConfigure (config : EntityConfig) (pubopts : Pubopts) (point : Inbox × Entity)
    (h : Kept cover known results point) :
    Ends ((inboxOf (commandTopicOf cover)).world Entity) (fun _ => Kept cover known results) (Kept cover known results)
      (Cover.asyncConfigure P fuel config pubopts) point := by
  simp only [Cover.asyncConfigure, Coro.bind_eq, Coro.pure_eq, Coro.label, Coro.state, Coro.bind]
  refine ends_enter _ _ (ends_get _ ?_)
  refine ends_bind (ends_ofExcept_kept _ point h) fun config later h =>
    ends_bind (ends_setConfig P fuel config pubopts later h) ?_
  intro result later h
  cases result with
  | some e => exact ends_ret _ h
  | none =>
      refine ends_bind (ends_ofExcept_kept _ later h) fun commandTopic later h => ?_
      refine ends_bind (ends_subscribe P fuel _ later h) fun result later h => ?_
      cases result with
      | some e => exact ends_ret _ h
      | none => exact ends_ret _ h

end Entity

-- Every command has been returned, once and in its turn, exactly when each one came
-- while no answer was awaited and names a command.
theorem none_swallowed_iff (P : Platform) (fuel : Nat) (cover : Entity)
    (results : List (Option (Expected CoverCommand))) (point : Inbox × Entity) (hused : Used P fuel cover results point) :
    NoneSwallowed results point.1 ↔ ∀ command ∈ point.1.commands, command.2 = false ∧ ¬Malformed cover command.1 := by
  have hkept : Kept cover true (returned results) point := by
    refine serial_ends hused (fun results point => Kept cover true (returned results) point) ?_ ?_
    · rintro later ⟨hsubscribed, config, pubopts, task, htask, hreach⟩
      have hstart : Kept cover false [] (Inbox.empty, cover) := ⟨⟨rfl, rfl, nofun, .nil⟩, rfl, rfl⟩
      have hends : Ends ((inboxOf (commandTopicOf cover)).world Entity) (fun _ => Kept cover false [])
          (Kept cover false []) ((CoverCall.configure config pubopts).task P fuel) (Inbox.empty, cover) :=
        ends_bind (ends_coverConfigure P fuel config pubopts _ hstart) fun _ _ h => ends_ret _ h
      have hlater : Kept cover false [] later := by
        rcases htask with rfl | ⟨thrown, rfl⟩
        · exact hends.reach_ret hreach
        · exact hends.reach_throw hreach
      exact ⟨⟨hlater.1.asked, hlater.1.greeted, fun _ => hsubscribed, hlater.1.matched⟩, hlater.2⟩
    · rintro results later task ⟨call, rfl⟩ h
      cases call with
      | configure config pubopts =>
          exact ends_bind (ends_coverConfigure P fuel config pubopts later h) fun _ _ h => ends_ret _ h
      | receive =>
          refine ends_bind (ends_coverReceive P fuel later h) fun result last h => ends_ret _ ?_
          have hcons : returned (some result :: results) = returned [some result] ++ returned results := by
            exact List.filterMap_append (l := [some result])
          rw [hcons]
          exact h
  exact hkept.1.matched.forall₂_iff

section Samples

def openCommand : PublishPacket := ⟨7, ascii "cover_1/set", ascii "open", ⟨.atLeastOnce, false⟩⟩

-- The broker answers the config with a PUBACK and sends `afterSubscribe` once it has
-- been sent a SUBSCRIBE.
def replying (afterSubscribe : Packet) (inbox : Inbox) (_ : Entity) : (query : Query) → Answer query
  | .resolve _ _ => none
  | .connect => none
  | .send _ => none
  | .recv => if inbox.subscribed then .ok afterSubscribe else .ok (.puback 1)
  | .acquireUniquePacketId => some 1
  | .timer _ => none
  | .wait _ => none

def configureSample : EntityM (Option (Expected CoverCommand)) :=
  (CoverCall.configure {} ⟨.atLeastOnce, false⟩).task samplePlatform 1

abbrev sampleWorld : World sig Entity := (inboxOf (commandTopicOf sampleEntity)).world Entity

def grantedPacket : Packet := .suback ⟨1, [.successMaximumQos1]⟩

def configuredSample : Inbox × Entity :=
  (exec sampleWorld (replying grantedPacket) configureSample (.empty, sampleEntity)).2

def receivedSample : Inbox × Entity :=
  (exec sampleWorld (replying (.publish openCommand)) (CoverCall.receive.task samplePlatform 1) configuredSample).2

theorem subscribed_replying (afterSubscribe : Packet) (point : Inbox × Entity)
    (hended : exec sampleWorld (replying afterSubscribe) configureSample (.empty, sampleEntity) = (.ret none, point))
    (hsubscribed : point.1.subscribed = true) : Subscribed samplePlatform 1 sampleEntity point := by
  have hreach := exec_reach sampleWorld (replying afterSubscribe) (fun _ _ _ => trivial) configureSample
    (.empty, sampleEntity)
  rw [hended] at hreach
  exact ⟨hsubscribed, {}, ⟨.atLeastOnce, false⟩, .ret none, Or.inl rfl, hreach⟩

theorem used_sample : Used samplePlatform 1 sampleEntity [some (.ok (.switch .open))] receivedSample := by
  have hconfigured : Subscribed samplePlatform 1 sampleEntity configuredSample :=
    subscribed_replying grantedPacket configuredSample rfl rfl
  have hreceive : Reach sampleWorld (settle sampleWorld (CoverCall.receive.task samplePlatform 1) configuredSample)
      ⟨receivedSample, .ret (some (.ok (.switch .open)))⟩ :=
    exec_reach sampleWorld (replying (.publish openCommand)) (fun _ _ _ => trivial)
      (CoverCall.receive.task samplePlatform 1) configuredSample
  exact hconfigured.used.receive hreceive

theorem none_swallowed_after : NoneSwallowed [some (.ok (.switch .open))] receivedSample.1 := by
  refine (none_swallowed_iff samplePlatform 1 sampleEntity _ _ used_sample).mpr ?_
  intro command hcommand
  obtain rfl : command = (openCommand, false) := List.mem_singleton.mp hcommand
  exact ⟨rfl, fun hmalformed => hmalformed.2 .open (by decide)⟩

-- A command that comes before the SUBACK is taken for it and lost.
def swallowedSample : Inbox × Entity :=
  (exec sampleWorld (replying (.publish openCommand)) configureSample (.empty, sampleEntity)).2

theorem command_swallowed :
    Used samplePlatform 1 sampleEntity [] swallowedSample ∧ swallowedSample.1.commands.map Prod.fst = [openCommand] ∧
      ¬NoneSwallowed [] swallowedSample.1 := by
  refine ⟨(subscribed_replying (.publish openCommand) swallowedSample rfl rfl).used, rfl, fun hall => ?_⟩
  exact absurd hall.length_eq (by decide)

end Samples

end HhctrlMgmt.Adapter
