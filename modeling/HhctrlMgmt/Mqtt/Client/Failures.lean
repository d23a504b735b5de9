import Mathlib.Data.Nat.Find
import HhctrlMgmt.Mqtt.Client.Operation
import HhctrlMgmt.Mqtt.Client.Reconnect

namespace HhctrlMgmt.Mqtt

open Coroutine

theorem mapped_mqtt_iff (P : Platform) (code : ErrorCode) :
    Mapped P (.mqtt code) ↔ code = .noService ∧ P.categoryHash = 0 := by
  constructor
  · intro hmapped
    have hcode : code = .noService := by
      by_contra hne
      exact not_mapped_mqtt P code hne hmapped
    subst hcode
    unfold Mapped SystemCode.value timed_out network_unreachable no_such_file_or_directory connection_refused at hmapped
    simp only [ErrorCode.toInt] at hmapped
    exact ⟨rfl, by omega⟩
  · rintro ⟨rfl, hhash⟩
    unfold Mapped SystemCode.value
    simp [hhash, ErrorCode.toInt, no_such_file_or_directory]

theorem not_mapped_of_error (P : Platform) (code : SystemCode) (thrown : Exn)
    (h : mapErrorCode P code = .error thrown) : ¬Mapped P code := by
  rw [← mapErrorCode_ok_iff, h]
  simp

section Completes

variable (P : Platform) (script : Script) (client : AsyncMqttClient)

-- The packet is none of those that async_receive returns.
def Skipped (received : Except SystemError Packet) : Prop :=
  ∃ packet, received = .ok packet ∧ packet.receiveResult = none

-- The transport fails at a stage that the operation comes to, or has no packet id left.
def Struck : Operation → Prop
  | .connect => ¬(script.attempts 0).Succeeds
  | .publish _ _ pubopts => client.connected = true ∧ supportedQos pubopts.qos = true ∧
      (pubopts.qos = .atLeastOnce ∧ script.acquire = none ∨ script.send ≠ none)
  | .subscribe _ => client.connected = true ∧ (script.acquire = none ∨ script.send ≠ none)
  | .receive => client.connected = true ∧ ∃ k e, (∀ j < k, Skipped (script.recv j)) ∧ script.recv k = .error e

-- The operation ends with a result, not with an exception, and a failure that strikes it
-- is reported by an Error or Unexpected.
def Completes (op : Operation) : Prop :=
  ∃ bound, ∀ fuel, bound ≤ fuel → ∃ result final,
    play script (op.task P fuel) .start client = (.ret result, final) ∧
      (Struck script client op → result.Failed)

-- A receive may also wait for ever, when nothing arrives that it returns.
def Reports (op : Operation) : Prop :=
  (op = .receive ∧ ∀ k, Skipped (script.recv k)) ∨ Completes P script client op

def PacketSent : Prop := ∀ e, script.send = some e → Mapped P e.code

def Reportable : Operation → Prop
  | .connect => ¬(script.attempts 0).Unmapped P ∧ ∀ e, (script.attempts 0).LostWith e →
      client.connected = false ∧ mapErrorCode P e.code = .ok .noService ∧ P.categoryHash = 0
  | .publish _ _ pubopts => client.connected = true → supportedQos pubopts.qos = true →
      (pubopts.qos = .atLeastOnce → script.acquire ≠ none) ∧ PacketSent P script
  | .subscribe _ => client.connected = true → script.acquire ≠ none ∧ PacketSent P script
  | .receive => client.connected = true → ∀ k e, (∀ j < k, Skipped (script.recv j)) → script.recv k = .error e →
      ¬Derails P script.attempts client.reconnect.maxAttempts.toNat

-- An operation that is played to its end by every fuel.
theorem completes_of_play (op : Operation) (result : OperationResult) (final : Progress × AsyncMqttClient)
    (h : ∀ fuel, play script (op.task P fuel) .start client = (.ret result, final))
    (hfailed : Struck script client op → result.Failed) : Completes P script client op :=
  ⟨0, fun fuel _ => ⟨result, final, h fuel, hfailed⟩⟩

theorem not_completes_of_play (op : Operation) (thrown : Exn) (final : Progress × AsyncMqttClient)
    (h : ∀ fuel, play script (op.task P fuel) .start client = (.throw thrown, final)) :
    ¬Completes P script client op := by
  rintro ⟨bound, hret⟩
  obtain ⟨result, point, hplay, -⟩ := hret bound (Nat.le_refl _)
  rw [h bound] at hplay
  cases hplay

-- An operation that sends one packet completes when its error has a mapping.
theorem completes_iff_packetSent (op : Operation) (packetId : PacketId) (packet : Outgoing)
    (hpacket : ∀ connect, packet ≠ .connect connect) (wrap : Expected PacketId → OperationResult)
    (hwrap : ∀ e, (wrap (.error e)).Failed) (hstruck : Struck script client op → script.send ≠ none)
    (h : ∀ fuel, play script (op.task P fuel) .start client =
      play script ((sendWithId P packetId packet).bind fun result => .ret (wrap result)) .start client) :
    Completes P script client op ↔ PacketSent P script := by
  have hrespond : script.respond .start client (.send packet) = script.send := by
    cases packet with
    | connect connect => exact absurd rfl (hpacket connect)
    | publish _ => rfl
    | subscribe _ => rfl
  have hanswer (e : Option SystemError) : Progress.start.answer (.send packet) e = .start := by
    cases packet with
    | connect connect => exact absurd rfl (hpacket connect)
    | publish _ => rfl
    | subscribe _ => rfl
  unfold PacketSent
  cases hsend : script.send with
  | none =>
      refine iff_of_true (completes_of_play P script client op (wrap (.ok packetId)) (.start, client) (fun fuel => ?_)
        fun h => absurd hsend (hstruck h)) (by simp)
      simp [h, sendWithId, hrespond, hanswer, hsend]
  | some e =>
      cases hmap : mapErrorCode P e.code with
      | ok code =>
          refine iff_of_true (completes_of_play P script client op (wrap (.error (plainError code))) (.start, client)
            (fun fuel => ?_) fun _ => hwrap _) (by simp [(mapErrorCode_ok_iff P e.code).mp ⟨code, hmap⟩])
          simp [h, sendWithId, hrespond, hanswer, hsend, hmap]
      | error thrown =>
          refine iff_of_false (not_completes_of_play P script client op thrown (.start, client) fun fuel => ?_)
            (by simp [not_mapped_of_error P e.code thrown hmap])
          simp [h, sendWithId, hrespond, hanswer, hsend, hmap]

theorem completes_subscribe_iff (topics : List Bytes) :
    Completes P script client (.subscribe topics) ↔ Reportable P script client (.subscribe topics) := by
  unfold Reportable
  by_cases hconnected : client.connected = true
  · simp only [hconnected, forall_const]
    cases hacquire : script.acquire with
    | none =>
        refine iff_of_false (not_completes_of_play P script client _ .emptyOptional (.start, client) fun fuel => ?_)
          (by simp)
        simp [Operation.task, asyncSubscribe, acquirePacketId, Progress.enter, Progress.answer, Script.respond,
          hconnected, hacquire]
    | some packetId =>
        refine (completes_iff_packetSent P script client _ packetId
          (.subscribe ⟨packetId, topics.map fun topic => (topic, defaultQos)⟩) (by simp) .subscribed
          (fun e => ⟨e, rfl⟩) (by simp [Struck, hacquire]) fun fuel => ?_).trans (by simp)
        simp [Operation.task, asyncSubscribe, acquirePacketId, Progress.enter, Progress.answer,
          Script.respond, hconnected, hacquire]
  · refine iff_of_true (completes_of_play P script client _
      (.subscribed (.error (error .disconnected "Cannot subscribe when client is disconnected"))) (.start, client)
      (fun fuel => ?_) fun _ => ⟨_, rfl⟩) (by simp [hconnected])
    simp [Operation.task, asyncSubscribe, Progress.enter, hconnected]

theorem completes_publish_iff (topic payload : Bytes) (pubopts : Pubopts) :
    Completes P script client (.publish topic payload pubopts) ↔
      Reportable P script client (.publish topic payload pubopts) := by
  unfold Reportable
  by_cases hconnected : client.connected = true
  · obtain ⟨qos, retain⟩ := pubopts
    simp only [hconnected, forall_const]
    cases qos with
    | atMostOnce =>
        refine (completes_iff_packetSent P script client _ 0 (.publish ⟨0, topic, payload, ⟨.atMostOnce, retain⟩⟩)
          (by simp) .published (fun e => ⟨e, rfl⟩) (by simp [Struck]) fun fuel => ?_).trans (by simp [supportedQos])
        simp [Operation.task, asyncPublish, acquirePacketIdFor, supportedQos, Progress.enter, hconnected]
    | atLeastOnce =>
        cases hacquire : script.acquire with
        | none =>
            refine iff_of_false (not_completes_of_play P script client _ .emptyOptional (.start, client)
              fun fuel => ?_) (by simp [supportedQos])
            simp [Operation.task, asyncPublish, acquirePacketIdFor, acquirePacketId, supportedQos, Progress.enter,
              Progress.answer, Script.respond, hconnected, hacquire]
        | some packetId =>
            refine (completes_iff_packetSent P script client _ packetId
              (.publish ⟨packetId, topic, payload, ⟨.atLeastOnce, retain⟩⟩) (by simp) .published
              (fun e => ⟨e, rfl⟩) (by simp [Struck, hacquire]) fun fuel => ?_).trans (by simp [supportedQos])
            simp [Operation.task, asyncPublish, acquirePacketIdFor, acquirePacketId, supportedQos,
              Progress.enter, Progress.answer, Script.respond, hconnected, hacquire]
    | exactlyOnce =>
        refine iff_of_true (completes_of_play P script client _ (.published (.error (plainError .qosNotSupported)))
          (.start, client) (fun fuel => ?_) fun _ => ⟨_, rfl⟩) (by simp [supportedQos])
        simp [Operation.task, asyncPublish, supportedQos, Progress.enter, hconnected]
  · refine iff_of_true (completes_of_play P script client _
      (.published (.error (error .disconnected "Cannot publish when client is disconnected"))) (.start, client)
      (fun fuel => ?_) fun _ => ⟨_, rfl⟩) (by simp [hconnected])
    simp [Operation.task, asyncPublish, Progress.enter, hconnected]

-- The connection of a client that was never connected is lost before CONNACK:
-- the code is mapped once by handle_recv_error and once more by async_connect.
theorem play_asyncConnect_lost_new (tryReconnect : ClientM Bool) (hconnected : client.connected = false)
    (e : SystemError) (h : (script.attempts 0).LostWith e) :
    play script (asyncConnect P tryReconnect) .start client =
      play script (do
        let code ← .ofExcept (mapErrorCode P e.code)
        reportRecvError P (plainError code)) Progress.start.attempted client := by
  rw [play_asyncConnect_lost P script tryReconnect .start client rfl e h, ← play_bind]
  simp [handleRecvError, hconnected, Coro.bind_assoc]

theorem completes_lost_iff (e : SystemError) (h : (script.attempts 0).LostWith e) :
    Completes P script client .connect ↔
      client.connected = false ∧ mapErrorCode P e.code = .ok .noService ∧ P.categoryHash = 0 := by
  by_cases hconnected : client.connected = true
  · refine iff_of_false ?_ (by simp [hconnected])
    rintro ⟨bound, hret⟩
    obtain ⟨result, final, hplay, -⟩ := hret bound (Nat.le_refl _)
    unfold Operation.task at hplay
    rw [Coro.bind_eq, play_bind] at hplay
    refine execBind_not_ret (scriptWorld script) _ _ _ (fun value point => ?_) _ _ hplay
    exact play_asyncConnect_lost_not_ret P script .start client _ rfl hconnected ⟨e, h⟩ value point
  · have hnew : client.connected = false := by simpa using hconnected
    have hplay (fuel : Nat) := play_asyncConnect_lost_new P script client (tryReconnect P fuel) hnew e h
    simp only [hnew, true_and]
    cases hmap : mapErrorCode P e.code with
    | error thrown =>
        refine iff_of_false (not_completes_of_play P script client .connect thrown
          (Progress.start.attempted, client) fun fuel => ?_) (by simp)
        simp [Operation.task, play_bind, hplay, hmap, execBind]
    | ok code =>
        cases hagain : mapErrorCode P (.mqtt code) with
        | error thrown =>
            have hcode : ¬(code = .noService ∧ P.categoryHash = 0) :=
              fun h => not_mapped_of_error P _ thrown hagain ((mapped_mqtt_iff P code).mpr h)
            refine iff_of_false (not_completes_of_play P script client .connect thrown
              (Progress.start.attempted, client) fun fuel => ?_) (by simpa using hcode)
            simp [Operation.task, play_bind, hplay, hmap, reportRecvError, error, plainError, hagain, execBind]
        | ok again =>
            have hcode := (mapped_mqtt_iff P code).mp ((mapErrorCode_ok_iff P _).mp ⟨again, hagain⟩)
            refine iff_of_true (completes_of_play P script client .connect
              (.connected (some (error again "Error while receiving ConnectAckPacket")))
              (Progress.start.attempted, client) (fun fuel => ?_) fun _ => by simp [OperationResult.Failed])
              (by simpa using hcode)
            simp [Operation.task, play_bind, hplay, hmap, reportRecvError, error, plainError, hagain, execBind, exec]

theorem completes_connect_iff :
    Completes P script client .connect ↔ Reportable P script client .connect := by
  unfold Reportable
  rcases (script.attempts 0).cases P with hsucceeds | hrefused | hunmapped | ⟨e, hlost⟩
  · refine iff_of_true ⟨0, fun fuel _ => ?_⟩
      ⟨hsucceeds.not_unmapped, fun e h => absurd ⟨e, h⟩ hsucceeds.not_lost⟩
    obtain ⟨packet, hplay⟩ := play_asyncConnect_succeeds P script (tryReconnect P fuel) .start client rfl hsucceeds
    exact ⟨.connected none, _, by rw [Operation.task, Coro.bind_eq, play_bind, hplay]; rfl,
      fun hstruck => absurd hsucceeds hstruck⟩
  · refine iff_of_true ⟨0, fun fuel _ => ?_⟩
      ⟨fun h => hrefused.not_broken (.inr h), fun e h => absurd (.inl ⟨e, h⟩) hrefused.not_broken⟩
    obtain ⟨e, hplay⟩ := play_asyncConnect_refused P script (tryReconnect P fuel) .start client rfl hrefused
    exact ⟨.connected (some e), _, by rw [Operation.task, Coro.bind_eq, play_bind, hplay]; rfl,
      fun _ => by simp [OperationResult.Failed]⟩
  · refine iff_of_false ?_ fun h => h.1 hunmapped
    rintro ⟨bound, hret⟩
    obtain ⟨result, final, hret, -⟩ := hret bound (Nat.le_refl _)
    obtain ⟨thrown, hplay⟩ := play_asyncConnect_unmapped P script (tryReconnect P bound) .start client rfl hunmapped
    rw [Operation.task, Coro.bind_eq, play_bind, hplay] at hret
    cases hret
  · rw [completes_lost_iff P script client e hlost]
    constructor
    · refine fun h => ⟨fun hunmapped => hunmapped.not_lost ⟨e, hlost⟩, fun other hother => ?_⟩
      obtain rfl : e = other := hlost.unique hother
      exact h
    · exact fun h => h.2 e hlost

end Completes

section Receive

variable (P : Platform) (script : Script) (client : AsyncMqttClient) (tryReconnect : ClientM Bool)
  (progress : Progress) (fuel : Nat)

theorem Skipped.not_error {e : SystemError} : ¬Skipped (.error e) := by
  rintro ⟨packet, h, -⟩
  cases h

theorem play_receiveLoop_skip (hidle : progress.handshake = false) (h : Skipped (script.recv progress.received)) :
    play script (asyncReceiveLoop P tryReconnect (fuel + 1)) progress client =
      play script (asyncReceiveLoop P tryReconnect fuel)
        { progress with received := progress.received + 1 } client := by
  obtain ⟨packet, hrecv, hskip⟩ := h
  simp [asyncReceiveLoop, Script.respond, Progress.answer, hidle, hrecv, hskip]

theorem play_receiveLoop_skips (k : Nat) (hidle : progress.handshake = false)
    (h : ∀ j < k, Skipped (script.recv (progress.received + j))) :
    play script (asyncReceiveLoop P tryReconnect (fuel + k)) progress client =
      play script (asyncReceiveLoop P tryReconnect fuel)
        { progress with received := progress.received + k } client := by
  induction k generalizing progress with
  | zero => rfl
  | succ k ih =>
      rw [← Nat.add_assoc, play_receiveLoop_skip P script client tryReconnect progress _ hidle (h 0 (by omega))]
      refine (ih { progress with received := progress.received + 1 } hidle fun j hj => ?_).trans ?_
      · have := h (j + 1) (by omega)
        rwa [← Nat.add_assoc, Nat.add_right_comm] at this
      · simp only [Nat.add_assoc, Nat.add_comm 1 k]

theorem play_receiveLoop_result (hidle : progress.handshake = false) (packet : Packet) (result : ReceiveResult)
    (hrecv : script.recv progress.received = .ok packet) (hresult : packet.receiveResult = some result) :
    play script (asyncReceiveLoop P tryReconnect (fuel + 1)) progress client =
      (.ret (.ok result), { progress with received := progress.received + 1 }, client) := by
  simp [asyncReceiveLoop, Script.respond, Progress.answer, hidle, hrecv, hresult]

theorem play_receiveLoop_error (hidle : progress.handshake = false) (e : SystemError)
    (hrecv : script.recv progress.received = .error e) :
    play script (asyncReceiveLoop P tryReconnect (fuel + 1)) progress client =
      play script ((handleRecvError P tryReconnect e).bind fun e => .ret (.error e))
        { progress with received := progress.received + 1 } client := by
  simp [asyncReceiveLoop, Script.respond, Progress.answer, hidle, hrecv]

end Receive

section ReceiveReports

variable (P : Platform) (script : Script) (client : AsyncMqttClient)

theorem play_receive (fuel : Nat) (hconnected : client.connected = true) :
    play script (Operation.receive.task P fuel) .start client =
      play script ((asyncReceiveLoop P (tryReconnect P fuel) fuel).bind fun result => .ret (.received result))
        .start client := by
  simp [Operation.task, asyncReceive, Progress.enter, hconnected]

-- A packet that async_receive returns comes before any error.
theorem not_struck_receive (k : Nat) (hskips : ∀ j < k, Skipped (script.recv j)) (packet : Packet)
    (hrecv : script.recv k = .ok packet) (hfirst : ¬Skipped (script.recv k)) : ¬Struck script client .receive := by
  rintro ⟨-, j, e, hbefore, herror⟩
  rcases Nat.lt_trichotomy j k with hlt | rfl | hgt
  · exact Skipped.not_error (herror ▸ hskips j hlt)
  · cases hrecv.symm.trans herror
  · exact hfirst (hbefore k hgt)

-- The first packet that async_receive does not skip decides.
theorem completes_receive_first (hconnected : client.connected = true) (k : Nat)
    (hskips : ∀ j < k, Skipped (script.recv j)) (hfirst : ¬Skipped (script.recv k)) :
    Completes P script client .receive ↔
      ∀ e, script.recv k = .error e → ¬Derails P script.attempts client.reconnect.maxAttempts.toNat := by
  have hskip (fuel : Nat) :
      play script (asyncReceiveLoop P (tryReconnect P (fuel + 1 + k)) (fuel + 1 + k)) .start client =
      play script (asyncReceiveLoop P (tryReconnect P (fuel + 1 + k)) (fuel + 1)) ⟨0, false, k⟩ client := by
    simpa [Progress.start] using
      play_receiveLoop_skips P script client (tryReconnect P (fuel + 1 + k)) .start (fuel + 1) k rfl
        (by simpa [Progress.start] using hskips)
  cases hrecv : script.recv k with
  | ok packet =>
      cases hresult : packet.receiveResult with
      | none => exact absurd ⟨packet, hrecv, hresult⟩ hfirst
      | some result =>
          refine iff_of_true ⟨k + 1, fun fuel hfuel => ?_⟩ (by simp)
          obtain ⟨fuel, rfl⟩ : ∃ f, fuel = f + 1 + k := ⟨fuel - 1 - k, by omega⟩
          rw [play_receive P script client _ hconnected, play_bind, hskip,
            play_receiveLoop_result P script client _ ⟨0, false, k⟩ fuel rfl packet result hrecv hresult]
          exact ⟨_, _, rfl, fun hstruck => absurd hstruck (not_struck_receive script client k hskips packet hrecv hfirst)⟩
  | error e =>
      have hplay (fuel : Nat) : play script (Operation.receive.task P (fuel + 1 + k)) .start client =
          play script ((tryReconnect P (fuel + 1 + k)).bind fun reconnected =>
            (answerReconnect reconnected).bind fun e => .ret (.received (.error e))) ⟨0, false, k + 1⟩ client := by
        rw [play_receive P script client _ hconnected, play_bind, hskip,
          play_receiveLoop_error P script client _ ⟨0, false, k⟩ fuel rfl e hrecv, ← play_bind, Coro.bind_assoc,
          play_bind, play_handleRecvError_connected P script _ client _ e hconnected, ← play_bind, ← play_bind,
          Coro.bind_assoc]
        rfl
      have hstart : (fun j => script.attempts (0 + j)) = script.attempts := by simp
      simp only [Except.error.injEq, forall_eq']
      constructor
      · rintro ⟨bound, hret⟩ hderails
        obtain ⟨result, final, hret, -⟩ := hret (bound + 1 + k) (by omega)
        rw [hplay, play_bind] at hret
        refine execBind_not_ret (scriptWorld script) _ _ _ (fun value point => ?_) _ _ hret
        exact play_tryReconnect_not_ret P script client _ ⟨0, false, k + 1⟩ rfl hconnected (by rwa [hstart]) value point
      · intro hnot
        refine ⟨client.reconnect.maxAttempts.toNat + 1 + k, fun fuel hfuel => ?_⟩
        obtain ⟨fuel, rfl⟩ : ∃ f, fuel = f + 1 + k := ⟨fuel - 1 - k, by omega⟩
        obtain ⟨reconnected, done, client', -, htry, -⟩ := play_tryReconnect_returns P script client (fuel + 1 + k)
          (by omega) ⟨0, false, k + 1⟩ rfl (by rwa [hstart])
        obtain ⟨answer, hanswer, -⟩ := play_answerReconnect script ⟨0 + done, false, k + 1⟩ client' reconnected
        rw [hplay, play_bind, htry, execBind_play, play_bind, hanswer]
        exact ⟨_, _, rfl, fun _ => ⟨_, rfl⟩⟩

theorem reports_receive_iff :
    Reports P script client .receive ↔ Reportable P script client .receive := by
  unfold Reports Reportable
  by_cases hconnected : client.connected = true
  · by_cases hskips : ∀ k, Skipped (script.recv k)
    · refine iff_of_true (.inl ⟨rfl, hskips⟩) fun _ k e _ hrecv => ?_
      exact absurd (hrecv ▸ hskips k) Skipped.not_error
    · classical
      have hfirst := not_forall.mp hskips
      have hskip (j : Nat) (hj : j < Nat.find hfirst) : Skipped (script.recv j) := not_not.mp (Nat.find_min hfirst hj)
      simp only [hskips, and_false, false_or, hconnected, forall_const,
        completes_receive_first P script client hconnected _ hskip (Nat.find_spec hfirst)]
      constructor
      · intro h k e hbefore hrecv
        have hk : Nat.find hfirst = k := (Nat.find_eq_iff hfirst).mpr
          ⟨hrecv ▸ Skipped.not_error, fun j hj => not_not.mpr (hbefore j hj)⟩
        exact h e (hk ▸ hrecv)
      · exact fun h e hrecv => h _ e hskip hrecv
  · refine iff_of_true (.inr (completes_of_play P script client _
      (.received (.error (error .disconnected "Cannot receive on disconnected client "))) (.start, client)
      (fun fuel => ?_) fun _ => ⟨_, rfl⟩)) fun h => absurd h hconnected
    simp [Operation.task, asyncReceive, Progress.enter, hconnected]

-- Failures are reported exactly when every error that is mapped has a mapping,
-- a packet id is free and no connection is lost during a handshake.
theorem failures_reported_iff (op : Operation) : Reports P script client op ↔ Reportable P script client op := by
  cases op with
  | connect => simpa [Reports] using completes_connect_iff P script client
  | publish topic payload pubopts => simpa [Reports] using completes_publish_iff P script client topic payload pubopts
  | subscribe topics => simpa [Reports] using completes_subscribe_iff P script client topics
  | receive => exact reports_receive_iff P script client

end ReceiveReports

section Samples

def connectionRefused : SystemError := ⟨.boost 111 "system", none⟩

def connectionReset : SystemError := ⟨.boost 104 "system", none⟩

-- The wait for CONNACK ends with an error that has a mapping, every send ends
-- with one that has none, and no packet id is free.
def failingScript : Script :=
  ⟨fun _ => ⟨none, none, none, none, .error connectionRefused⟩, none, some connectionReset, fun _ => .error endOfFile⟩

theorem failures_thrown_failingScript :
    ¬Reports samplePlatform failingScript (AsyncMqttClient.create {}) .connect ∧
      ¬Reports samplePlatform failingScript sampleClient (.subscribe []) ∧
      ¬Reports samplePlatform failingScript sampleClient (.publish [] [] ⟨.atMostOnce, false⟩) ∧
      ¬Reports samplePlatform failingScript sampleClient .receive := by
  have hlost : (failingScript.attempts 0).LostWith connectionRefused := ⟨rfl, rfl, rfl, rfl⟩
  refine ⟨?_, ?_, ?_, ?_⟩
  · rw [Reports, completes_connect_iff]
    rintro (⟨h, -⟩ | ⟨-, h⟩)
    · cases h
    · exact absurd (h _ hlost).2.1 (by decide)
  · rw [Reports, completes_subscribe_iff]
    rintro (⟨h, -⟩ | h)
    · cases h
    · exact (h rfl).1 rfl
  · rw [Reports, completes_publish_iff]
    rintro (⟨h, -⟩ | h)
    · cases h
    · exact absurd ((h rfl rfl).2 _ rfl) (by decide)
  · rw [reports_receive_iff]
    intro h
    exact h rfl 0 _ (fun j hj => by omega) rfl
      ⟨0, by decide, fun _ _ => rfl, fun j hj => by omega, .inl ⟨_, hlost⟩⟩

end Samples

end HhctrlMgmt.Mqtt
