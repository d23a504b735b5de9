import HhctrlMgmt.Coroutine.Surroundings
import HhctrlMgmt.Mqtt.Client

namespace HhctrlMgmt.Mqtt

open Coroutine

-- How far the latest connection has got: a TCP connection, on which CONNECT has
-- been sent, on which a packet has been received. A failed receive ends it.
inductive Stage where
  | down
  | opened
  | greeted
  | live
deriving DecidableEq, Repr

-- What a connection has seen of the configuration of an entity. `deaf` remembers
-- that the entity has waited for commands on a live connection on which it was
-- not configured and subscribed.
structure Monitor where
  stage : Stage
  configuring : Bool
  configId : Option PacketId
  configured : Bool
  subscribeId : Option PacketId
  subscribed : Bool
  deaf : Bool

-- The topics of the configuration and of the commands.
structure Topics where
  config : Bytes
  command : Bytes

namespace Monitor

def start : Monitor := ⟨.down, false, none, false, none, false, false⟩

def lost (monitor : Monitor) : Monitor :=
  { monitor with stage := .down }

-- Sessions are clean: a new connection knows nothing of the one before.
def opened (monitor : Monitor) : Monitor :=
  { monitor with stage := .opened, configId := none, configured := false, subscribeId := none, subscribed := false }

def enter (monitor : Monitor) : Label → Monitor
  | .entity .asyncConfigure => { monitor with configuring := true }
  | .entity .asyncReceive =>
    { monitor with
      configuring := false
      deaf := monitor.deaf || (decide (monitor.stage = .live) && !(monitor.configured && monitor.subscribed)) }
  | _ => monitor

def sent (topics : Topics) (monitor : Monitor) : Outgoing → Monitor
  | .connect _ => { monitor with stage := .greeted }
  | .publish packet =>
    if packet.topic = topics.config then { monitor with configId := some packet.packetId } else monitor
  | .subscribe packet =>
    if topics.command ∈ packet.entries.map Prod.fst then { monitor with subscribeId := some packet.packetId }
    else monitor

-- PUBACK and SUBACK complete the packets they belong to.
def acknowledged (monitor : Monitor) : Packet → Monitor
  | .puback packetId => if monitor.configId = some packetId then { monitor with configured := true } else monitor
  | .suback packet =>
    if monitor.subscribeId = some packet.packetId ∧ anySubackFailure packet = false then
      { monitor with subscribed := true }
    else monitor
  | _ => monitor

def received (monitor : Monitor) (packet : Packet) : Monitor :=
  match monitor.stage with
  | .greeted => { monitor with stage := .live }
  | .live => monitor.acknowledged packet
  | _ => monitor

def answer (topics : Topics) (monitor : Monitor) : (query : Query) → Answer query → Monitor
  | .connect, none => monitor.opened
  | .connect, some _ => monitor.lost
  | .send packet, none => monitor.sent topics packet
  | .recv, .ok packet => monitor.received packet
  | .recv, .error _ => monitor.lost
  | _, _ => monitor

-- async_configure has been called, and its subscription is not complete.
def Configuring (monitor : Monitor) : Prop :=
  monitor.configuring = true ∧ monitor.subscribed = false

-- The packets that async_configure waits for: the PUBACK of its publish and then
-- the SUBACK of its subscription. Those that async_receive skips do no harm.
def Expects (monitor : Monitor) (packet : Packet) : Prop :=
  match packet.receiveResult with
  | none => True
  | some (.publish _) => False
  | some (.puback packetId) => monitor.configured = false ∧ monitor.configId = some packetId
  | some (.suback suback) =>
    monitor.configured = true ∧ monitor.subscribeId = some suback.packetId ∧ anySubackFailure suback = false

-- While an entity is configured, its packets are sent, and nothing is received
-- but what it waits for. If the connection is lost, no new one gets as far as to
-- receive a packet.
def Undisturbed (monitor : Monitor) : (query : Query) → Answer query → Prop
  | .send (.connect _), _ => True
  | .send _, sent => monitor.Configuring → sent = none
  | .recv, .ok packet => monitor.Configuring → monitor.stage = .live ∧ monitor.Expects packet
  | _, _ => True

abbrev Heard (monitor : Monitor) : Prop := monitor.deaf = false

end Monitor

abbrev watched (topics : Topics) (allows : Monitor → (query : Query) → Answer query → Prop) : Surroundings sig where
  State := Monitor
  enter := Monitor.enter
  issue monitor _ := monitor
  allows := allows
  answer := Monitor.answer topics

abbrev calm (topics : Topics) : Surroundings sig := watched topics Monitor.Undisturbed

section Assertions

-- `sure` says that the flag is known to be set, and `configuring` where the
-- entity stands.
structure Stood (sure configuring : Bool) (point : Monitor × AsyncMqttClient) : Prop where
  heard : point.1.Heard
  flag : sure = true → point.2.connected = true
  configuring : point.1.configuring = configuring

-- There is no live connection, nor one that is about to become it.
structure Gone (sure configuring : Bool) (point : Monitor × AsyncMqttClient) : Prop
    extends Stood sure configuring point where
  stage : point.1.stage = .down ∨ point.1.stage = .opened

-- A new connection, on which nothing has been configured.
structure Fresh (sure : Bool) (point : Monitor × AsyncMqttClient) : Prop extends Stood sure false point where
  stage : point.1.stage = .live
  configured : point.1.configured = false
  subscribed : point.1.subscribed = false

end Assertions

section Connect

variable (P : Platform) {topics : Topics} (sure configuring : Bool)

def Connected (result : Error) (later : Monitor × AsyncMqttClient) : Prop :=
  (result = none → configuring = false ∧ Fresh sure later) ∧ (result ≠ none → Gone sure configuring later)

def Reconnected (result : Bool) (later : Monitor × AsyncMqttClient) : Prop :=
  (result = true → configuring = false ∧ Fresh sure later) ∧ (result = false → Gone sure configuring later)

-- The error of handle_recv_error: Reconnected tells of a new connection, any
-- other one that there is none.
def Recovered (e : SystemError) (later : Monitor × AsyncMqttClient) : Prop :=
  (e.code = .mqtt .reconnected → configuring = false ∧ Fresh sure later) ∧
    (e.code ≠ .mqtt .reconnected → Gone sure configuring later)

theorem mapErrorCode_reconnected : ∃ thrown, mapErrorCode P (.mqtt .reconnected) = .error thrown := by
  have hvalue : (SystemCode.mqtt .reconnected).value P = 7 + 1000 * P.categoryHash := rfl
  unfold mapErrorCode timed_out network_unreachable no_such_file_or_directory connection_refused
  rw [hvalue, if_neg (by omega), if_neg (by omega), if_neg (by omega)]
  exact ⟨_, rfl⟩

theorem mapErrorCode_ne_reconnected (code : SystemCode) (mapped : ErrorCode)
    (hmapped : mapErrorCode P code = .ok mapped) : mapped ≠ .reconnected := by
  unfold mapErrorCode at hmapped
  split_ifs at hmapped <;> cases hmapped <;> decide

theorem keeps_handleRecvError (tryReconnect : ClientM Bool) (point : Monitor × AsyncMqttClient)
    (h : Gone sure configuring point)
    (hreconnect : (calm topics).Keeps Monitor.Heard (Reconnected sure configuring) tryReconnect point)
    (e : SystemError) :
    (calm topics).Keeps Monitor.Heard (Recovered sure configuring) (handleRecvError P tryReconnect e) point := by
  unfold handleRecvError
  simp only [Coro.bind_eq, Coro.state, Coro.bind]
  refine Surroundings.keeps_get _ ?_
  by_cases hflag : point.2.connected = true
  · simp only [hflag, if_true]
    refine Surroundings.keeps_bind hreconnect fun reconnected later hlater => ?_
    cases reconnected with
    | true =>
        exact Surroundings.keeps_ret _ ⟨fun _ => hlater.1 rfl, fun hne => absurd rfl hne⟩
    | false =>
        refine Surroundings.keeps_get _ (Surroundings.keeps_ret _ ⟨fun heq => ?_, fun _ => hlater.2 rfl⟩)
        cases heq
  · simp only [hflag, Bool.false_eq_true, if_false]
    refine Surroundings.keeps_ofExcept _ _ h.heard fun mapped hmapped => ?_
    refine Surroundings.keeps_ret _ ⟨fun heq => ?_, fun _ => h⟩
    have hcode : mapped = .reconnected := by simpa [plainError] using heq
    exact absurd hcode (mapErrorCode_ne_reconnected P e.code mapped hmapped)

theorem keeps_asyncConnect (tryReconnect : ClientM Bool) (point : Monitor × AsyncMqttClient)
    (h : Gone sure configuring point)
    (hreconnect : ∀ later, Gone sure configuring later →
      (calm topics).Keeps Monitor.Heard (Reconnected sure configuring) tryReconnect later) :
    (calm topics).Keeps Monitor.Heard (Connected sure configuring) (asyncConnect P tryReconnect) point := by
  -- a code that has no mapping is thrown, any other one ends the attempt
  have hfailed (code : SystemCode) (text : String) (later : Monitor × AsyncMqttClient)
      (hlater : Gone sure configuring later) :
      (calm topics).Keeps Monitor.Heard (Connected sure configuring)
        ((Coro.ofExcept (mapErrorCode P code)).bind fun mapped => .ret (some (error mapped text))) later := by
    refine Surroundings.keeps_ofExcept _ _ hlater.heard fun mapped _ => ?_
    exact Surroundings.keeps_ret _ ⟨nofun, fun _ => hlater⟩
  simp only [asyncConnect, asyncSendCon, asyncRecvConack, asyncResolve, asyncTcpConnect, epSend, epRecv, Coro.bind_eq,
    Coro.pure_eq, Coro.label, Coro.state, Coro.modify, Coro.bind]
  refine Surroundings.keeps_enter _ _ (Surroundings.keeps_get _ ?_)
  refine Surroundings.keeps_await _ _ h.heard fun resolved _ => ?_
  cases resolved with
  | some ec => exact Surroundings.keeps_ret _ ⟨nofun, fun _ => h⟩
  | none =>
      refine Surroundings.keeps_await _ _ h.heard fun connect _ => ?_
      cases connect with
      | some ec =>
          have hdown : Gone sure configuring (point.1.lost, point.2) :=
            ⟨⟨h.heard, h.flag, h.configuring⟩, Or.inl rfl⟩
          exact hfailed ec _ _ hdown
      | none =>
          have hopened : Gone sure configuring (point.1.opened, point.2) :=
            ⟨⟨h.heard, h.flag, h.configuring⟩, Or.inr rfl⟩
          refine Surroundings.keeps_get _ (Surroundings.keeps_await _ _ h.heard fun sent _ => ?_)
          cases sent with
          | some e => exact hfailed e.code _ _ hopened
          | none =>
              refine Surroundings.keeps_await _ _ h.heard fun received hallow => ?_
              cases received with
              | ok packet =>
                  -- a packet completes the handshake, unless the entity is being configured
                  have hfree : configuring = false := by
                    cases configuring with
                    | false => rfl
                    | true =>
                        have hlive := (hallow ⟨h.configuring, rfl⟩).1
                        cases hlive
                  have hfresh (client : AsyncMqttClient) (hclient : sure = true → client.connected = true) :
                      Fresh sure
                        (({ point.1.opened with stage := .greeted } : Monitor).received packet, client) :=
                    ⟨⟨h.heard, hclient, h.configuring.trans hfree⟩, rfl, rfl, rfl⟩
                  have hdone (client : AsyncMqttClient) (hclient : sure = true → client.connected = true) :
                      Connected sure configuring none
                        (({ point.1.opened with stage := .greeted } : Monitor).received packet, client) :=
                    ⟨fun _ => ⟨hfree, hfresh client hclient⟩, fun hne => absurd rfl hne⟩
                  cases packet with
                  | connack sessionPresent code => exact fun _ => hdone _ fun _ => rfl
                  | publish _ | puback _ | suback _ | other _ => exact fun _ => hdone _ h.flag
              | error e =>
                  have hdown : Gone sure configuring
                      (({ point.1.opened with stage := .greeted } : Monitor).lost, point.2) :=
                    ⟨⟨h.heard, h.flag, h.configuring⟩, Or.inl rfl⟩
                  simp only [Coro.bind_assoc, Coro.bind]
                  refine Surroundings.keeps_bind
                    (keeps_handleRecvError P sure configuring tryReconnect _ hdown (hreconnect _ hdown) e)
                    fun e later hlater => ?_
                  by_cases hcode : e.code = .mqtt .reconnected
                  · obtain ⟨thrown, hthrown⟩ := mapErrorCode_reconnected P
                    rw [hcode, hthrown]
                    exact Surroundings.keeps_throw thrown (hlater.1 hcode).2.heard
                  · exact hfailed e.code _ _ (hlater.2 hcode)

theorem keeps_tryReconnect (fuel : Nat) (point : Monitor × AsyncMqttClient) (h : Gone sure configuring point) :
    (calm topics).Keeps Monitor.Heard (Reconnected sure configuring) (tryReconnect P fuel) point := by
  have hwith (loop : ClientM Bool) (point : Monitor × AsyncMqttClient) (h : Gone sure configuring point)
      (hloop : ∀ later, Gone sure configuring later →
        (calm topics).Keeps Monitor.Heard (Reconnected sure configuring) loop later) :
      (calm topics).Keeps Monitor.Heard (Reconnected sure configuring) (tryReconnectWith loop) point := by
    simp only [tryReconnectWith, Coro.bind_eq, Coro.pure_eq, Coro.label, Coro.state, Coro.modify, Coro.bind]
    refine Surroundings.keeps_enter _ _ (Surroundings.keeps_get _ ?_)
    split_ifs
    · exact Surroundings.keeps_ret _ ⟨nofun, fun _ => h⟩
    · exact hloop _ ⟨⟨h.heard, h.flag, h.configuring⟩, h.stage⟩
  refine hwith _ point h fun later hlater => ?_
  clear h point
  induction fuel generalizing later with
  | zero => exact Surroundings.keeps_spin hlater.heard
  | succ fuel ih =>
      simp only [tryReconnectLoop, timerAsyncWait, Coro.bind_eq, Coro.pure_eq, Coro.state, Coro.modify, Coro.bind]
      have hattempt (attempt : Int) : Gone sure configuring (later.1, later.2.setAttempt attempt) :=
        ⟨⟨hlater.heard, hlater.flag, hlater.configuring⟩, hlater.stage⟩
      refine Surroundings.keeps_get _ (Surroundings.keeps_set _ _ (Surroundings.keeps_get _ ?_))
      split_ifs
      · refine Surroundings.keeps_await _ _ hlater.heard fun waited _ => ?_
        cases waited with
        | some ec => exact Surroundings.keeps_ret _ ⟨nofun, fun _ => hattempt _⟩
        | none =>
            refine Surroundings.keeps_bind (keeps_asyncConnect P sure configuring _ _ (hattempt _)
              fun point hpoint => hwith _ point hpoint ih) fun result after hafter => ?_
            cases result with
            | none => exact Surroundings.keeps_ret _ ⟨fun _ => hafter.1 rfl, nofun⟩
            | some e => exact ih after (hafter.2 nofun)
      · exact Surroundings.keeps_ret _ ⟨nofun, fun _ => hattempt _⟩

end Connect

section Receive

variable (P : Platform) {topics : Topics}

-- An entity may wait for commands: it is configured and subscribed if there is a
-- live connection.
structure Listening (point : Monitor × AsyncMqttClient) : Prop where
  heard : point.1.Heard
  flag : point.2.connected = true
  stage : (point.1.stage = .down ∨ point.1.stage = .opened) ∨
    point.1.stage = .live ∧ point.1.configured = true ∧ point.1.subscribed = true

theorem Gone.listening {configuring : Bool} {point : Monitor × AsyncMqttClient} (h : Gone true configuring point) :
    Listening point :=
  ⟨h.heard, h.flag rfl, Or.inl h.stage⟩

-- It waits for commands.
structure Ready (point : Monitor × AsyncMqttClient) : Prop extends Listening point where
  configuring : point.1.configuring = false

theorem Ready.lost {point : Monitor × AsyncMqttClient} (h : Ready point) :
    Gone true false (point.1.lost, point.2) :=
  ⟨⟨h.heard, fun _ => h.flag, h.configuring⟩, Or.inl rfl⟩

-- The call of Entity::async_receive is heard.
theorem Listening.enter {point : Monitor × AsyncMqttClient} (h : Listening point) :
    Ready (point.1.enter (.entity .asyncReceive), point.2) := by
  have hheard : (point.1.enter (.entity .asyncReceive)).Heard := by
    have hbefore : point.1.deaf = false := h.heard
    rcases h.stage with (hstage | hstage) | ⟨-, hconfigured, hsubscribed⟩
    · simp [Monitor.enter, hbefore, hstage]
    · simp [Monitor.enter, hbefore, hstage]
    · simp [Monitor.enter, hbefore, hconfigured, hsubscribed]
  exact ⟨⟨hheard, h.flag, h.stage⟩, rfl⟩

theorem received_offline (monitor : Monitor) (packet : Packet)
    (hstage : monitor.stage = .down ∨ monitor.stage = .opened) : monitor.received packet = monitor := by
  unfold Monitor.received
  rcases hstage with hstage | hstage <;> simp only [hstage]

theorem received_live (monitor : Monitor) (packet : Packet) (hstage : monitor.stage = .live) :
    monitor.received packet = monitor.acknowledged packet := by
  unfold Monitor.received
  simp only [hstage]

theorem ready_received (monitor : Monitor) (client : AsyncMqttClient) (packet : Packet)
    (h : Ready (monitor, client)) : Ready (monitor.received packet, client) := by
  obtain ⟨⟨hheard, hflag, hdown | ⟨hstage, hconfigured, hsubscribed⟩⟩, hconfiguring⟩ := h
  · rw [received_offline monitor packet hdown]
    exact ⟨⟨hheard, hflag, Or.inl hdown⟩, hconfiguring⟩
  · have hsame : Ready (monitor, client) :=
      ⟨⟨hheard, hflag, Or.inr ⟨hstage, hconfigured, hsubscribed⟩⟩, hconfiguring⟩
    rw [received_live monitor packet hstage]
    unfold Monitor.acknowledged
    split
    · split_ifs
      · exact ⟨⟨hheard, hflag, Or.inr ⟨hstage, rfl, hsubscribed⟩⟩, hconfiguring⟩
      · exact hsame
    · split_ifs
      · exact ⟨⟨hheard, hflag, Or.inr ⟨hstage, hconfigured, rfl⟩⟩, hconfiguring⟩
      · exact hsame
    · exact hsame

-- The entity is being configured on a live connection, of which the monitor says
-- what `monitor` says.
structure Awaiting (monitor : Monitor) (point : Monitor × AsyncMqttClient) : Prop where
  heard : monitor.Heard
  flag : point.2.connected = true
  same : point.1 = monitor
  stage : monitor.stage = .live
  configuring : monitor.Configuring

theorem Awaiting.lost {monitor : Monitor} {point : Monitor × AsyncMqttClient} (h : Awaiting monitor point) :
    Gone true true (point.1.lost, point.2) := by
  have hsame := h.same
  subst hsame
  exact ⟨⟨h.heard, fun _ => h.flag, h.configuring.1⟩, Or.inl rfl⟩

-- The results of async_receive while the entity waits for commands, and while it
-- is configured. In the second case a failure leaves no connection.
def ReceivedReady (result : Expected ReceiveResult) (later : Monitor × AsyncMqttClient) : Prop :=
  match result with
  | .ok _ => Ready later
  | .error e => Recovered true false e later

def ReceivedAwaited (monitor : Monitor) (result : Expected ReceiveResult) (later : Monitor × AsyncMqttClient) : Prop :=
  match result with
  | .ok result => later.2.connected = true ∧
      ∃ packet : Packet, packet.receiveResult = some result ∧ monitor.Expects packet ∧
        later.1 = monitor.acknowledged packet
  | .error _ => Gone true true later

theorem keeps_asyncReceive_ready (fuel : Nat) (point : Monitor × AsyncMqttClient) (h : Ready point) :
    (calm topics).Keeps Monitor.Heard ReceivedReady (asyncReceive P fuel) point := by
  have hflag : point.2.connected = true := h.flag
  simp only [asyncReceive, Coro.bind_eq, Coro.label, Coro.state, Coro.bind]
  refine Surroundings.keeps_enter _ _ (Surroundings.keeps_get _ ?_)
  simp only [hflag, Bool.not_true, Bool.false_eq_true, if_false]
  -- the fuel of the loop, apart from that of the reconnection
  generalize hrounds : fuel = rounds
  rw [show tryReconnect P rounds = tryReconnect P fuel by rw [hrounds]]
  clear hrounds hflag
  change (calm topics).Keeps Monitor.Heard ReceivedReady (asyncReceiveLoop P (tryReconnect P fuel) rounds) point
  induction rounds generalizing point with
  | zero => exact Surroundings.keeps_spin h.heard
  | succ rounds ih =>
      simp only [asyncReceiveLoop, epRecv, Coro.bind_eq, Coro.pure_eq, Coro.bind]
      refine Surroundings.keeps_await _ _ h.heard fun received _ => ?_
      cases received with
      | error e =>
          refine Surroundings.keeps_bind (keeps_handleRecvError P true false _ _ h.lost
            (keeps_tryReconnect P true false fuel _ h.lost) e) fun e later hlater => ?_
          exact Surroundings.keeps_ret _ hlater
      | ok packet =>
          have hnext := ready_received point.1 point.2 packet h
          cases hresult : packet.receiveResult with
          | some result =>
              simp only [hresult]
              exact Surroundings.keeps_ret _ hnext
          | none =>
              simp only [hresult]
              exact ih _ hnext

theorem acknowledged_skipped (monitor : Monitor) (packet : Packet) (hskip : packet.receiveResult = none) :
    monitor.acknowledged packet = monitor := by
  cases packet with
  | connack _ _ => rfl
  | other _ => rfl
  | publish packet => cases hskip
  | puback packetId => cases hskip
  | suback packet => cases hskip

theorem keeps_asyncReceive_awaiting (fuel : Nat) (monitor : Monitor) (point : Monitor × AsyncMqttClient)
    (h : Awaiting monitor point) :
    (calm topics).Keeps Monitor.Heard (ReceivedAwaited monitor) (asyncReceive P fuel) point := by
  have hflag : point.2.connected = true := h.flag
  simp only [asyncReceive, Coro.bind_eq, Coro.label, Coro.state, Coro.bind]
  refine Surroundings.keeps_enter _ _ (Surroundings.keeps_get _ ?_)
  simp only [hflag, Bool.not_true, Bool.false_eq_true, if_false]
  generalize hrounds : fuel = rounds
  rw [show tryReconnect P rounds = tryReconnect P fuel by rw [hrounds]]
  clear hrounds hflag
  change (calm topics).Keeps Monitor.Heard (ReceivedAwaited monitor)
    (asyncReceiveLoop P (tryReconnect P fuel) rounds) point
  induction rounds generalizing point with
  | zero => exact Surroundings.keeps_spin (h.same ▸ h.heard)
  | succ rounds ih =>
      simp only [asyncReceiveLoop, epRecv, Coro.bind_eq, Coro.pure_eq, Coro.bind]
      refine Surroundings.keeps_await _ _ (h.same ▸ h.heard) fun received hallow => ?_
      cases received with
      | error e =>
          refine Surroundings.keeps_bind (keeps_handleRecvError P true true _ _ h.lost
            (keeps_tryReconnect P true true fuel _ h.lost) e) fun e later hlater => ?_
          -- no reconnection succeeds meanwhile
          have hcode : e.code ≠ .mqtt .reconnected := fun hcode => absurd (hlater.1 hcode).1 (by decide)
          exact Surroundings.keeps_ret _ (hlater.2 hcode)
      | ok packet =>
          have hexpects : monitor.Expects packet := by
            obtain ⟨current, client⟩ := point
            obtain rfl : current = monitor := h.same
            exact (hallow h.configuring).2
          have hack : point.1.received packet = monitor.acknowledged packet := by
            rw [h.same]
            exact received_live monitor packet h.stage
          cases hresult : packet.receiveResult with
          | some result =>
              simp only [hresult]
              exact Surroundings.keeps_ret _ ⟨h.flag, packet, hresult, hexpects, hack⟩
          | none =>
              simp only [hresult]
              exact ih _ ⟨h.heard, h.flag, hack.trans (acknowledged_skipped monitor packet hresult), h.stage,
                h.configuring⟩

end Receive

section Send

variable (P : Platform) (topics : Topics)

-- A packet of the configuration is sent.
def SentAwaited (monitor : Monitor) (packet : PacketId → Outgoing) (result : Expected PacketId)
    (later : Monitor × AsyncMqttClient) : Prop :=
  ∃ packetId, result = .ok packetId ∧ Awaiting (monitor.sent topics (packet packetId)) later

theorem keeps_sendWithId_awaiting (monitor : Monitor) (packetId : PacketId) (packet : PacketId → Outgoing)
    (hpacket : ∀ packetId connect, packet packetId ≠ .connect connect) (point : Monitor × AsyncMqttClient)
    (h : Awaiting monitor point) :
    (calm topics).Keeps Monitor.Heard (SentAwaited topics monitor packet)
      (sendWithId P packetId (packet packetId)) point := by
  obtain ⟨current, client⟩ := point
  obtain rfl : current = monitor := h.same
  simp only [sendWithId, epSend, Coro.bind_eq, Coro.pure_eq, Coro.bind]
  refine Surroundings.keeps_await _ _ h.heard fun sent hallow => ?_
  have hsent : sent = none := by
    cases hkind : packet packetId with
    | connect connect => exact absurd hkind (hpacket packetId connect)
    | publish publish =>
        rw [hkind] at hallow
        exact hallow h.configuring
    | subscribe subscribe =>
        rw [hkind] at hallow
        exact hallow h.configuring
  subst hsent
  refine Surroundings.keeps_ret _ ⟨packetId, rfl, ?_⟩
  cases hkind : packet packetId with
  | connect connect => exact absurd hkind (hpacket packetId connect)
  | publish publish =>
      simp only [Monitor.answer, Monitor.sent]
      split_ifs
      · exact ⟨h.heard, h.flag, rfl, h.stage, h.configuring⟩
      · exact h
  | subscribe subscribe =>
      simp only [Monitor.answer, Monitor.sent]
      split_ifs
      · exact ⟨h.heard, h.flag, rfl, h.stage, h.configuring⟩
      · exact h

theorem keeps_acquirePacketId {α : Type} {ret : α → Monitor × AsyncMqttClient → Prop} (next : PacketId → ClientM α)
    (point : Monitor × AsyncMqttClient) (hheard : point.1.Heard)
    (hnext : ∀ packetId, (calm topics).Keeps Monitor.Heard ret (next packetId) point) :
    (calm topics).Keeps Monitor.Heard ret (acquirePacketId.bind next) point := by
  simp only [acquirePacketId, epAcquireUniquePacketId, Coro.bind_eq, Coro.pure_eq, Coro.bind]
  refine Surroundings.keeps_await _ _ hheard fun acquired _ => ?_
  cases acquired with
  | none => exact Surroundings.keeps_throw _ hheard
  | some packetId => exact hnext packetId

theorem keeps_asyncPublish_awaiting (monitor : Monitor) (topic payload : Bytes) (retain : Bool)
    (point : Monitor × AsyncMqttClient) (h : Awaiting monitor point) :
    (calm topics).Keeps Monitor.Heard
      (SentAwaited topics monitor fun packetId => .publish ⟨packetId, topic, payload, ⟨.atLeastOnce, retain⟩⟩)
      (asyncPublish P topic payload ⟨.atLeastOnce, retain⟩) point := by
  have hflag : point.2.connected = true := h.flag
  have hqos : acquirePacketIdFor .atLeastOnce = acquirePacketId := rfl
  simp only [asyncPublish, Coro.bind_eq, Coro.label, Coro.state, Coro.bind]
  refine Surroundings.keeps_enter _ _ (Surroundings.keeps_get _ ?_)
  simp only [hflag, supportedQos, hqos, decide_true, Bool.true_or, Bool.not_true, Bool.false_eq_true, if_false]
  exact keeps_acquirePacketId topics _ _ (h.same ▸ h.heard) fun packetId =>
    keeps_sendWithId_awaiting P topics monitor packetId _ (by simp) _ h

theorem keeps_asyncSubscribe_awaiting (monitor : Monitor) (subTopics : List Bytes)
    (point : Monitor × AsyncMqttClient) (h : Awaiting monitor point) :
    (calm topics).Keeps Monitor.Heard
      (SentAwaited topics monitor fun packetId =>
        .subscribe ⟨packetId, subTopics.map fun topic => (topic, defaultQos)⟩)
      (asyncSubscribe P subTopics) point := by
  have hflag : point.2.connected = true := h.flag
  simp only [asyncSubscribe, Coro.bind_eq, Coro.label, Coro.state, Coro.bind]
  refine Surroundings.keeps_enter _ _ (Surroundings.keeps_get _ ?_)
  simp only [hflag, Bool.not_true, Bool.false_eq_true, if_false]
  exact keeps_acquirePacketId topics _ _ (h.same ▸ h.heard) fun packetId =>
    keeps_sendWithId_awaiting P topics monitor packetId _ (by simp) _ h

theorem Listening.publish {monitor : Monitor} {client : AsyncMqttClient} (h : Listening (monitor, client))
    (packet : PublishPacket) (sent : Option SystemError) :
    Listening (monitor.answer topics (.send (.publish packet)) sent, client) := by
  cases sent with
  | some e => exact h
  | none =>
      simp only [Monitor.answer, Monitor.sent]
      split_ifs
      · exact ⟨h.heard, h.flag, h.stage⟩
      · exact h

-- Publishing does not change what the entity is ready for.
theorem keeps_asyncPublish_listening (topic payload : Bytes) (pubopts : Pubopts)
    (point : Monitor × AsyncMqttClient) (h : Listening point) :
    (calm topics).Keeps Monitor.Heard (fun _ => Listening) (asyncPublish P topic payload pubopts) point := by
  have hsend (packetId : PacketId) :
      (calm topics).Keeps Monitor.Heard (fun _ => Listening)
        (sendWithId P packetId (.publish ⟨packetId, topic, payload, pubopts⟩)) point := by
    simp only [sendWithId, epSend, Coro.bind_eq, Coro.pure_eq, Coro.bind]
    refine Surroundings.keeps_await _ _ h.heard fun sent _ => ?_
    have hlater := h.publish topics ⟨packetId, topic, payload, pubopts⟩ sent
    cases sent with
    | none => exact Surroundings.keeps_ret _ hlater
    | some e => exact Surroundings.keeps_ofExcept _ _ hlater.heard fun _ _ => Surroundings.keeps_ret _ hlater
  have hflag : point.2.connected = true := h.flag
  simp only [asyncPublish, Coro.bind_eq, Coro.pure_eq, Coro.label, Coro.state, Coro.bind]
  refine Surroundings.keeps_enter _ _ (Surroundings.keeps_get _ ?_)
  simp only [hflag, Bool.not_true, Bool.false_eq_true, if_false]
  split_ifs
  · exact Surroundings.keeps_ret _ h
  · unfold acquirePacketIdFor
    split_ifs
    · exact hsend 0
    · exact keeps_acquirePacketId topics _ _ h.heard hsend

end Send

end HhctrlMgmt.Mqtt
