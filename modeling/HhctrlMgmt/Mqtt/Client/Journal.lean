import HhctrlMgmt.Coroutine.Journal
import HhctrlMgmt.Mqtt.Client.Connecting

namespace HhctrlMgmt.Mqtt

open Coroutine

abbrev Diary := Journal sig

abbrev completed (query : Query) (answer : Answer query) : Diary :=
  exchange (S := sig) query answer

-- The packets that were handed to the endpoint.
def requests (log : Diary) : List Outgoing :=
  log.filterMap fun
    | .asked (.send packet) => some packet
    | _ => none

def Requests (allowed : Outgoing → Prop) (log : Diary) : Prop :=
  ∀ packet ∈ requests log, allowed packet

-- The packet of a request is one of these.
def Query.Hands (allowed : Outgoing → Prop) : Query → Prop
  | .send packet => allowed packet
  | _ => True

section Requests

variable {allowed : Outgoing → Prop} {log : Diary}

@[simp] theorem requests_append (first second : Diary) :
    requests (first ++ second) = requests first ++ requests second :=
  List.filterMap_append

theorem Requests.nil : Requests allowed [] :=
  fun _ hmem => absurd hmem List.not_mem_nil

theorem Requests.ask (h : Requests allowed log) (query : Query) (hquery : query.Hands allowed) :
    Requests allowed (log ++ [.asked query]) := by
  intro packet hmem
  rw [requests_append, List.mem_append] at hmem
  rcases hmem with hbefore | hasked
  · exact h packet hbefore
  · cases query with
    | send asked =>
        obtain rfl : packet = asked := List.mem_singleton.mp hasked
        exact hquery
    | resolve _ _ | connect | recv | acquireUniquePacketId | timer _ | wait _ => exact absurd hasked List.not_mem_nil

theorem Requests.exchange (h : Requests allowed log) (query : Query) (answer : Answer query)
    (hquery : query.Hands allowed) : Requests allowed (log ++ completed query answer) := by
  have hasked := h.ask query hquery
  intro packet hmem
  refine hasked packet ?_
  rw [requests_append] at hmem ⊢
  exact hmem

end Requests

section Client

variable {α : Type} (P : Platform) (fuel : Nat) (allowed : Outgoing → Prop) (hconnect : ∀ packet, allowed (.connect packet))

-- A part of the client that hands the endpoint nothing else, with what holds at its end.
abbrev Hands (ret : α → Diary × AsyncMqttClient → Prop) (task : ClientM α) (point : Diary × AsyncMqttClient) : Prop :=
  (journal sig).Keeps (Requests allowed) ret task point

variable {allowed} in
theorem hands_ask {ret : α → Diary × AsyncMqttClient → Prop} {log : Diary} {client : AsyncMqttClient} (query : Query)
    (next : Answer query → ClientM α) (h : Requests allowed log) (hquery : query.Hands allowed)
    (hnext : ∀ answer : Answer query, Requests allowed (log ++ completed query answer) →
      Hands allowed ret (next answer) (log ++ completed query answer, client)) :
    Hands allowed ret (.await query next) (log, client) :=
  Surroundings.keeps_ask (S := sig) query next (h.ask query hquery) fun answer =>
    hnext answer (h.exchange query answer hquery)

include hconnect in
theorem hands_of_connecting {task : ClientM α} (hconnecting : Connecting task) (point : Diary × AsyncMqttClient)
    (h : Requests allowed point.1) : Hands allowed (fun _ later => Requests allowed later.1) task point := by
  induction hconnecting generalizing point with
  | ret value => exact Surroundings.keeps_ret value h
  | throw thrown => exact Surroundings.keeps_throw thrown h
  | spin => exact Surroundings.keeps_spin h
  | get next _ ih => exact Surroundings.keeps_get _ (ih point.2 point h)
  | set client next _ ih => exact Surroundings.keeps_set _ _ (ih _ h)
  | enter label next _ ih => exact Surroundings.keeps_enter _ _ (ih _ h)
  | await query next hlocal _ ih =>
      obtain ⟨log, client⟩ := point
      have hquery : query.Hands allowed := by
        cases query with
        | send _ => exact hlocal.elim
        | resolve _ _ | connect | recv | acquireUniquePacketId | timer _ | wait _ => trivial
      exact hands_ask query next h hquery fun answer => ih answer (_, client)
  | handshake packet next recv hsent _ _ ihfailed ihrecv =>
      obtain ⟨log, client⟩ := point
      refine hands_ask (.send (.connect packet)) next h (hconnect packet) fun answer hgreeted => ?_
      cases answer with
      | some e => exact ihfailed e (_, client) hgreeted
      | none =>
          rw [hsent]
          exact hands_ask .recv recv hgreeted trivial fun answer => ihrecv answer (_, client)

-- Packets received one after the other.
def receptions (packets : List Packet) : Diary :=
  packets.flatMap fun packet => completed .recv (.ok packet)

-- How async_receive ends: with the first packet that it does not skip.
def ReceiveEnds (before : Diary × AsyncMqttClient) (result : Expected ReceiveResult) (later : Diary × AsyncMqttClient) : Prop :=
  ∀ received, result = .ok received → later.2 = before.2 ∧ before.2.connected = true ∧
    ∃ skipped, (∀ other ∈ skipped, Packet.receiveResult other = none) ∧
      later.1 = before.1 ++ receptions (skipped ++ [received.packet])

include hconnect in
theorem hands_receive (point : Diary × AsyncMqttClient) (h : Requests allowed point.1) :
    Hands allowed (fun result later => Requests allowed later.1 ∧ ReceiveEnds point result later)
      (Mqtt.asyncReceive P fuel) point := by
  obtain ⟨log, client⟩ := point
  simp only [Mqtt.asyncReceive, Coro.bind_eq, Coro.pure_eq, Coro.label, Coro.state, Coro.bind]
  refine Surroundings.keeps_enter _ _ (Surroundings.keeps_get _ ?_)
  cases hflag : client.connected with
  | false =>
      simp only [Bool.not_false, if_true]
      exact Surroundings.keeps_ret _ ⟨h, nofun⟩
  | true =>
      simp only [Bool.not_true, Bool.false_eq_true, if_false]
      -- the loop, after some packets have been skipped
      suffices hloop : ∀ rounds skipped, (∀ other ∈ skipped, Packet.receiveResult other = none) →
          Requests allowed (log ++ receptions skipped) →
          Hands allowed (fun result later => Requests allowed later.1 ∧ ReceiveEnds (log, client) result later)
            (asyncReceiveLoop P (tryReconnect P fuel) rounds) (log ++ receptions skipped, client) by
        have hstart := hloop fuel [] (by simp) (by simpa [receptions] using h)
        simpa [receptions] using hstart
      intro rounds
      induction rounds with
      | zero => exact fun skipped _ hrequests => Surroundings.keeps_spin hrequests
      | succ rounds ih =>
          intro skipped hskipped hrequests
          simp only [asyncReceiveLoop, epRecv, Coro.bind_eq, Coro.bind]
          refine hands_ask .recv _ hrequests trivial fun answer hanswered => ?_
          cases answer with
          | error e =>
              refine Surroundings.keeps_bind (hands_of_connecting allowed hconnect
                (connecting_handleRecvError P _ (connecting_tryReconnect P fuel) e) _ hanswered)
                  fun e later hlater => ?_
              exact Surroundings.keeps_ret _ ⟨hlater, nofun⟩
          | ok packet =>
              have hlog : log ++ receptions skipped ++ completed .recv (.ok packet) =
                  log ++ receptions (skipped ++ [packet]) := by
                simp [receptions]
              rw [hlog] at hanswered ⊢
              cases hresult : packet.receiveResult with
              | none =>
                  simp only [hresult]
                  refine ih (skipped ++ [packet]) (fun other hother => ?_) hanswered
                  rcases List.mem_append.mp hother with hbefore | hlast
                  · exact hskipped other hbefore
                  · rw [List.mem_singleton.mp hlast]
                    exact hresult
              | some received =>
                  simp only [hresult]
                  refine Surroundings.keeps_ret _ ⟨hanswered, fun other hother => ?_⟩
                  cases hother
                  exact ⟨rfl, hflag, skipped, hskipped, by rw [packet.eq_of_receiveResult hresult]⟩

-- The packet id that a request gets, and what is asked for it.
def Acquires (qos : Qos) (packetId : PacketId) (log : Diary) : Prop :=
  if qos = .atMostOnce then packetId = 0 ∧ log = []
  else log = completed .acquireUniquePacketId (some packetId)

theorem Acquires.requests {qos : Qos} {packetId : PacketId} {log : Diary} (h : Acquires qos packetId log) :
    requests log = [] := by
  unfold Acquires at h
  split_ifs at h
  · rw [h.2]
    rfl
  · rw [h]
    rfl

-- How a request ends: it is refused before anything is asked, it is sent, or the endpoint
-- reports an error that has a mapping.
inductive RequestEnds (P : Platform) (qos : Qos) (packet : PacketId → Outgoing) (before : Diary × AsyncMqttClient) :
    Expected PacketId → Diary × AsyncMqttClient → Prop
  | refused (e : SystemError) (h : before.2.connected = false ∨ supportedQos qos = false) :
      RequestEnds P qos packet before (.error e) before
  | sent (packetId : PacketId) (acquired : Diary) (hacquired : Acquires qos packetId acquired)
      (hconnected : before.2.connected = true) :
      RequestEnds P qos packet before (.ok packetId)
        (before.1 ++ acquired ++ completed (.send (packet packetId)) none, before.2)
  | failed (packetId : PacketId) (acquired : Diary) (hacquired : Acquires qos packetId acquired) (e : SystemError)
      (code : ErrorCode) (hcode : mapErrorCode P e.code = .ok code) :
      RequestEnds P qos packet before (.error (plainError code))
        (before.1 ++ acquired ++ completed (.send (packet packetId)) (some e), before.2)

theorem RequestEnds.ok {P : Platform} {qos : Qos} {packet : PacketId → Outgoing}
    {before later : Diary × AsyncMqttClient} {packetId : PacketId}
    (h : RequestEnds P qos packet before (.ok packetId) later) :
    before.2.connected = true ∧ ∃ acquired, Acquires qos packetId acquired ∧
      later.1 = before.1 ++ acquired ++ completed (.send (packet packetId)) none := by
  cases h with
  | sent _ acquired hacquired hconnected => exact ⟨hconnected, acquired, hacquired, rfl⟩

theorem RequestEnds.client {P : Platform} {qos : Qos} {packet : PacketId → Outgoing}
    {before later : Diary × AsyncMqttClient} {result : Expected PacketId}
    (h : RequestEnds P qos packet before result later) : later.2 = before.2 := by
  cases h with
  | refused _ _ | sent _ _ _ _ | failed _ _ _ _ _ _ => rfl

variable {allowed}

theorem hands_sendWithId (qos : Qos) (packet : PacketId → Outgoing) (hallowed : ∀ packetId, allowed (packet packetId))
    (packetId : PacketId) (log acquired : Diary) (client : AsyncMqttClient) (h : Requests allowed (log ++ acquired))
    (hacquired : Acquires qos packetId acquired) (hconnected : client.connected = true) :
    Hands allowed (fun result later => Requests allowed later.1 ∧ RequestEnds P qos packet (log, client) result later)
      (sendWithId P packetId (packet packetId)) (log ++ acquired, client) := by
  simp only [sendWithId, epSend, Coro.bind_eq, Coro.pure_eq, Coro.bind]
  refine hands_ask (.send (packet packetId)) _ h (hallowed packetId) fun answer hanswered => ?_
  cases answer with
  | none => exact Surroundings.keeps_ret _ ⟨hanswered, .sent packetId acquired hacquired hconnected⟩
  | some e =>
      refine Surroundings.keeps_ofExcept _ _ hanswered fun code hcode => ?_
      exact Surroundings.keeps_ret _ ⟨hanswered, .failed packetId acquired hacquired e code hcode⟩

theorem hands_acquire {ret : α → Diary × AsyncMqttClient → Prop} (log : Diary) (client : AsyncMqttClient)
    (next : PacketId → ClientM α) (h : Requests allowed log)
    (hnext : ∀ packetId, Requests allowed (log ++ completed .acquireUniquePacketId (some packetId)) →
      Hands allowed ret (next packetId) (log ++ completed .acquireUniquePacketId (some packetId), client)) :
    Hands allowed ret (acquirePacketId.bind next) (log, client) := by
  simp only [acquirePacketId, epAcquireUniquePacketId, Coro.bind_eq, Coro.bind]
  refine hands_ask .acquireUniquePacketId _ h trivial fun answer hanswered => ?_
  cases answer with
  | none => exact Surroundings.keeps_throw _ hanswered
  | some packetId => exact hnext packetId hanswered

def publishing (topic payload : Bytes) (pubopts : Pubopts) (packetId : PacketId) : Outgoing :=
  .publish ⟨packetId, topic, payload, pubopts⟩

def subscribing (topics : List Bytes) (packetId : PacketId) : Outgoing :=
  .subscribe ⟨packetId, topics.map fun topic => (topic, defaultQos)⟩

theorem hands_publish (topic payload : Bytes) (pubopts : Pubopts)
    (hallowed : ∀ packetId, allowed (publishing topic payload pubopts packetId)) (point : Diary × AsyncMqttClient)
    (h : Requests allowed point.1) :
    Hands allowed (fun result later => Requests allowed later.1 ∧
        RequestEnds P pubopts.qos (publishing topic payload pubopts) point result later)
      (Mqtt.asyncPublish P topic payload pubopts) point := by
  obtain ⟨log, client⟩ := point
  simp only [Mqtt.asyncPublish, Coro.bind_eq, Coro.pure_eq, Coro.label, Coro.state, Coro.bind]
  refine Surroundings.keeps_enter _ _ (Surroundings.keeps_get _ ?_)
  by_cases hconnected : client.connected = true
  · by_cases hqos : supportedQos pubopts.qos = true
    · simp only [hconnected, hqos, Bool.not_true, Bool.false_eq_true, if_false]
      unfold acquirePacketIdFor
      by_cases hatMostOnce : pubopts.qos = .atMostOnce
      · have hacquired : Acquires pubopts.qos 0 [] := (if_pos hatMostOnce).mpr ⟨rfl, rfl⟩
        have hsend := hands_sendWithId P pubopts.qos _ hallowed 0 log [] client (by simpa using h) hacquired hconnected
        rw [List.append_nil] at hsend
        rw [if_pos hatMostOnce]
        exact hsend
      · rw [if_neg hatMostOnce]
        refine hands_acquire log client _ h fun packetId hacquired => ?_
        have hid : Acquires pubopts.qos packetId (completed .acquireUniquePacketId (some packetId)) :=
          (if_neg hatMostOnce).mpr rfl
        exact hands_sendWithId P pubopts.qos _ hallowed packetId log _ client hacquired hid hconnected
    · simp only [hconnected, hqos, Bool.not_true, Bool.false_eq_true, if_false, Bool.not_false, if_true]
      exact Surroundings.keeps_ret _ ⟨h, .refused _ (Or.inr (Bool.not_eq_true _ ▸ hqos))⟩
  · simp only [hconnected, Bool.not_false, if_true]
    exact Surroundings.keeps_ret _ ⟨h, .refused _ (Or.inl (Bool.not_eq_true _ ▸ hconnected))⟩

theorem hands_subscribe (topics : List Bytes) (hallowed : ∀ packetId, allowed (subscribing topics packetId))
    (point : Diary × AsyncMqttClient) (h : Requests allowed point.1) :
    Hands allowed (fun result later => Requests allowed later.1 ∧
        RequestEnds P defaultQos (subscribing topics) point result later)
      (Mqtt.asyncSubscribe P topics) point := by
  obtain ⟨log, client⟩ := point
  simp only [Mqtt.asyncSubscribe, Coro.bind_eq, Coro.pure_eq, Coro.label, Coro.state, Coro.bind]
  refine Surroundings.keeps_enter _ _ (Surroundings.keeps_get _ ?_)
  by_cases hconnected : client.connected = true
  · simp only [hconnected, Bool.not_true, Bool.false_eq_true, if_false]
    refine hands_acquire log client _ h fun packetId hacquired => ?_
    exact hands_sendWithId P defaultQos (subscribing topics) hallowed packetId log _ client hacquired rfl hconnected
  · simp only [hconnected, Bool.not_false, if_true]
    exact Surroundings.keeps_ret _ ⟨h, .refused _ (Or.inl (Bool.not_eq_true _ ▸ hconnected))⟩

end Client
end HhctrlMgmt.Mqtt
