import HhctrlMgmt.Coroutine.Serial
import HhctrlMgmt.Mqtt.Client.Operation
import HhctrlMgmt.Mqtt.Client.Script

namespace HhctrlMgmt.Mqtt

open Coroutine

-- What the transport knows about the connection. It is up from the CONNACK that
-- answers a CONNECT until recv fails.
structure Link where
  handshake : Bool
  up : Bool
deriving DecidableEq

namespace Link

def answer (link : Link) : (query : Query) → Answer query → Link
  | .send (.connect _), none => { link with handshake := true }
  | .recv, .ok (.connack _ _) => { handshake := false, up := link.up || link.handshake }
  | .recv, .ok _ => { link with handshake := false }
  | .recv, .error _ => { handshake := false, up := false }
  | _, _ => link

-- A transport whose answers are restricted by `allows`.
abbrev world (allows : AsyncMqttClient → (query : Query) → Answer query → Prop) : World sig AsyncMqttClient where
  State := Link
  enter link _ := link
  issue link _ := link
  allows _ client query answer := allows client query answer
  answer := answer

-- No restriction.
def Any (_ : AsyncMqttClient) (query : Query) (_ : Answer query) : Prop := True

-- Receiving fails only while the client is not connected.
def Steady (client : AsyncMqttClient) : (query : Query) → Answer query → Prop
  | .recv, .error _ => client.connected = false
  | _, _ => True

end Link

-- A packet has been refused because the client is disconnected.
def OperationResult.Refused : OperationResult → Prop
  | .published (.error e) => e.code = .mqtt .disconnected
  | .subscribed (.error e) => e.code = .mqtt .disconnected
  | _ => False

-- async_receive has reported a lost connection and async_connect has not
-- succeeded since. The latest result comes first.
def AwaitsConnect : List OperationResult → Prop
  | [] => False
  | .connected none :: _ => False
  | .received (.error e) :: results => e.code = .mqtt .disconnected ∨ AwaitsConnect results
  | _ :: results => AwaitsConnect results

section Session

variable (P : Platform) (allows : AsyncMqttClient → (query : Query) → Answer query → Prop)

-- The runs of a client.
def Session : List OperationResult → Link × AsyncMqttClient → Prop :=
  Serial (Link.world allows) (fun task => ∃ (op : Operation) (fuel : Nat), task = op.task P fuel)
    fun point => ∃ config will, point = (⟨false, false⟩, { AsyncMqttClient.create config with will := will })

def Truthful (point : Link × AsyncMqttClient) : Prop :=
  point.2.connected = true → point.1.up = true

-- Publishing and subscribing fail at once: the point is unchanged and nothing
-- has been awaited.
def RefusesToSend (point : Link × AsyncMqttClient) : Prop :=
  ∀ (op : Operation) (fuel : Nat), op ≠ .connect → op ≠ .receive →
    ∃ result : OperationResult, result.Refused ∧
      settle (Link.world allows) (op.task P fuel) point = ⟨point, .ret result⟩

end Session

section Steady

variable (P : Platform) (connected : Bool)

-- What holds while an operation is suspended that found the flag at `connected`.
def Held (point : Link × AsyncMqttClient) : Prop :=
  Truthful point ∧ point.2.connected = connected

abbrev steadyContract : Contract (Link.world Link.Steady) := Contract.alone (Held connected)

theorem Held.of_answer {link link' : Link} {client client' : AsyncMqttClient}
    (h : Held connected (link, client)) (hflag : client'.connected = client.connected)
    (hup : link.up = true → link'.up = true) : Held connected (link', client') :=
  ⟨fun hc => hup (h.1 (hflag ▸ hc)), hflag.trans h.2⟩

-- A successful execution of async_connect may set the flag, no other end does.
def connectPost : Post (Link.world Link.Steady) Error :=
  Post.of (fun result point => Truthful point ∧ (result ≠ none → point.2.connected = connected))
    (fun _ point => Held connected point) (Held connected)

theorem wp_asyncConnect_steady (tryReconnect : ClientM Bool) (start point : Link × AsyncMqttClient)
    (h : Held connected point) :
    wp (steadyContract connected) (connectPost connected) (asyncConnect P tryReconnect) start point := by
  simp only [asyncConnect, asyncSendCon, asyncRecvConack, asyncResolve, asyncTcpConnect, epSend, epRecv, Coro.bind_eq,
    Coro.pure_eq, Coro.label, Coro.state, Coro.modify, Coro.bind, wp_enter, wp_get]
  rw [wp_await_alone]
  refine ⟨h, fun resolved _ => ?_⟩
  cases resolved with
  | some ec => exact ⟨h.1, fun _ => h.2⟩
  | none =>
      simp only [Link.answer]
      rw [wp_await_alone]
      refine ⟨h, fun connect _ => ?_⟩
      cases connect with
      | some ec => exact wp_ofExcept _ _ _ _ (fun _ _ => ⟨h.1, fun _ => h.2⟩) fun _ _ => h
      | none =>
          simp only [Link.answer, wp_get]
          rw [wp_await_alone]
          refine ⟨h, fun sent _ => ?_⟩
          cases sent with
          | some e => exact wp_ofExcept _ _ _ _ (fun _ _ => ⟨h.1, fun _ => h.2⟩) fun _ _ => h
          | none =>
              simp only [Link.answer]
              rw [wp_await_alone]
              refine ⟨h, fun received hallow => ?_⟩
              cases received with
              | ok packet =>
                  cases packet with
                  | connack _ _ => exact ⟨fun _ => by simp [Link.answer], fun hne => absurd rfl hne⟩
                  | publish _ | puback _ | suback _ | other _ => exact ⟨h.1, fun _ => h.2⟩
              | error e =>
                  have hflag : point.2.connected = false := hallow
                  have hlost (link : Link) : Held connected (link, point.2) :=
                    ⟨fun hc => absurd hc (by simp [hflag]), h.2⟩
                  simp only [handleRecvError, Coro.bind_eq, Coro.pure_eq, Coro.state, Coro.bind, wp_get, hflag,
                    Bool.false_eq_true, if_false, Coro.bind_assoc]
                  refine wp_ofExcept _ _ _ _ (fun code _ => ?_) fun _ _ => hlost _
                  exact wp_ofExcept _ _ _ _ (fun _ _ => ⟨(hlost _).1, fun _ => h.2⟩) fun _ _ => hlost _

-- Every other operation leaves the flag as it finds it.
def otherPost : Post (Link.world Link.Steady) OperationResult :=
  Post.of (fun result point => Held connected point ∧ (AwaitsConnect [result] → connected = false))
    (fun _ point => Held connected point) (Held connected)

theorem wp_sendWithId_steady (packetId : PacketId) (packet : Outgoing) (wrap : Expected PacketId → OperationResult)
    (hpacket : ∀ connect, packet ≠ .connect connect) (hwrap : ∀ result, ¬AwaitsConnect [wrap result])
    (start point : Link × AsyncMqttClient) (h : Held connected point) :
    wp (steadyContract connected) (otherPost connected)
      ((sendWithId P packetId packet).bind fun result => .ret (wrap result)) start point := by
  have hanswer (sent : Option SystemError) : point.1.answer (.send packet) sent = point.1 := by
    cases packet with
    | connect connect => exact absurd rfl (hpacket connect)
    | publish _ | subscribe _ => cases sent <;> rfl
  simp only [sendWithId, epSend, Coro.bind_eq, Coro.pure_eq, Coro.bind]
  rw [wp_await_alone]
  refine ⟨h, fun sent _ => ?_⟩
  simp only [hanswer]
  cases sent with
  | none => exact ⟨h, fun hawaits => absurd hawaits (hwrap _)⟩
  | some e =>
      simp only [Coro.bind_assoc]
      exact wp_ofExcept _ _ _ _ (fun _ _ => ⟨h, fun hawaits => absurd hawaits (hwrap _)⟩) fun _ _ => h

theorem wp_acquirePacketId_steady (wrap : Expected PacketId → OperationResult) (packet : PacketId → Outgoing)
    (hpacket : ∀ packetId connect, packet packetId ≠ .connect connect)
    (hwrap : ∀ result, ¬AwaitsConnect [wrap result])
    (start point : Link × AsyncMqttClient) (h : Held connected point) :
    wp (steadyContract connected) (otherPost connected)
      ((acquirePacketId.bind fun packetId => sendWithId P packetId (packet packetId)).bind fun result =>
        .ret (wrap result)) start point := by
  simp only [acquirePacketId, epAcquireUniquePacketId, Coro.bind_eq, Coro.pure_eq, Coro.bind]
  rw [wp_await_alone]
  refine ⟨h, fun acquired _ => ?_⟩
  cases acquired with
  | none => exact h
  | some packetId => exact wp_sendWithId_steady P connected packetId _ wrap (hpacket packetId) hwrap _ _ h

theorem wp_asyncReceiveLoop_steady (tryReconnect : ClientM Bool) (fuel : Nat) (start point : Link × AsyncMqttClient)
    (hflag : point.2.connected = true) (h : Held connected point) :
    wp (steadyContract connected) (otherPost connected)
      ((asyncReceiveLoop P tryReconnect fuel).bind fun result => .ret (.received result)) start point := by
  induction fuel generalizing start point with
  | zero => exact h
  | succ fuel ih =>
      simp only [asyncReceiveLoop, epRecv, Coro.bind_eq, Coro.pure_eq, Coro.bind]
      rw [wp_await_alone]
      refine ⟨h, fun received hallow => ?_⟩
      cases received with
      | error e =>
          -- a connected client only waits where recv does not fail
          have : point.2.connected = false := hallow
          simp [hflag] at this
      | ok packet =>
          have hnext : Held connected (point.1.answer .recv (.ok packet), point.2) := by
            refine h.of_answer connected rfl fun hup => ?_
            cases packet <;> simp [Link.answer, hup]
          cases hresult : packet.receiveResult with
          | some result =>
              simp only [hresult]
              exact ⟨hnext, fun hawaits => absurd hawaits (by simp [AwaitsConnect])⟩
          | none =>
              simp only [hresult]
              exact ih _ _ hflag hnext

-- What an operation leaves behind that found the flag at `connected`.
def operationPost : Post (Link.world Link.Steady) OperationResult :=
  Post.of (fun result point => Truthful point ∧ (result ≠ .connected none → point.2.connected = connected) ∧
      (AwaitsConnect [result] → connected = false))
    (fun _ point => Held connected point) (Held connected)

theorem wp_other_steady (task : ClientM OperationResult) (start point : Link × AsyncMqttClient)
    (h : wp (steadyContract connected) (otherPost connected) task start point) :
    wp (steadyContract connected) (operationPost connected) task start point := by
  refine wp_mono h (fun _ _ _ hret => ?_) (fun _ _ _ hthrow => hthrow) fun _ _ hspin => hspin
  exact ⟨hret.1.1, fun _ => hret.1.2, hret.2⟩

theorem wp_task_steady (op : Operation) (fuel : Nat) (start point : Link × AsyncMqttClient)
    (h : Held connected point) :
    wp (steadyContract connected) (operationPost connected) (op.task P fuel) start point := by
  cases op with
  | connect =>
      refine wp_call (wp_asyncConnect_steady P connected _ start point h) (fun result _ later hret => ?_)
        (fun _ _ _ hthrow => hthrow) fun _ _ hspin => hspin
      exact ⟨hret.1, fun hne => hret.2 fun hnone => hne (by rw [hnone]),
        fun hawaits => by cases result <;> cases hawaits⟩
  | publish topic payload pubopts =>
      refine wp_other_steady connected _ start point ?_
      have hwrap (result : Expected PacketId) : ¬AwaitsConnect [.published result] := by simp [AwaitsConnect]
      simp only [Operation.task, asyncPublish, Coro.bind_eq, Coro.label, Coro.state, Coro.bind, wp_enter, wp_get]
      split_ifs
      · exact ⟨h, fun hawaits => absurd hawaits (hwrap _)⟩
      · exact ⟨h, fun hawaits => absurd hawaits (hwrap _)⟩
      · unfold acquirePacketIdFor
        split_ifs
        · exact wp_sendWithId_steady P connected 0 _ .published (by simp) hwrap start point h
        · exact wp_acquirePacketId_steady P connected .published
            (fun packetId => .publish ⟨packetId, topic, payload, pubopts⟩) (by simp) hwrap start point h
  | subscribe topics =>
      refine wp_other_steady connected _ start point ?_
      have hwrap (result : Expected PacketId) : ¬AwaitsConnect [.subscribed result] := by simp [AwaitsConnect]
      simp only [Operation.task, asyncSubscribe, Coro.bind_eq, Coro.label, Coro.state, Coro.bind, wp_enter, wp_get]
      split_ifs
      · exact ⟨h, fun hawaits => absurd hawaits (hwrap _)⟩
      · exact wp_acquirePacketId_steady P connected .subscribed
          (fun packetId => .subscribe ⟨packetId, topics.map fun topic => (topic, defaultQos)⟩) (by simp) hwrap
          start point h
  | receive =>
      refine wp_other_steady connected _ start point ?_
      simp only [Operation.task, asyncReceive, Coro.bind_eq, Coro.label, Coro.state, Coro.bind, wp_enter, wp_get]
      split_ifs with hflag
      · exact ⟨h, fun _ => h.2.symm.trans (by simpa using hflag)⟩
      · exact wp_asyncReceiveLoop_steady P connected _ fuel start point (by simpa using hflag) h

end Steady

section Truthful

variable (P : Platform) (results : List OperationResult) (point : Link × AsyncMqttClient)

theorem awaitsConnect_cons (result : OperationResult) (h : AwaitsConnect (result :: results)) :
    result ≠ .connected none ∧ (AwaitsConnect [result] ∨ AwaitsConnect results) := by
  cases result with
  | connected result => cases result <;> simp_all [AwaitsConnect]
  | published _ => exact ⟨by simp, .inr h⟩
  | subscribed _ => exact ⟨by simp, .inr h⟩
  | received result => cases result <;> simp_all [AwaitsConnect]

-- What holds between the calls of a session on a steady transport.
def Settled (results : List OperationResult) (point : Link × AsyncMqttClient) : Prop :=
  Truthful point ∧ (AwaitsConnect results → point.2.connected = false)

theorem session_settled (h : Session P Link.Steady results point) : Settled results point := by
  refine Serial.induct h Settled ?_ ?_
  · rintro _ ⟨config, will, rfl⟩
    exact ⟨nofun, nofun⟩
  · rintro results point _ ⟨op, fuel, rfl⟩ ⟨htruthful, hawaits⟩
    refine ⟨_, wp_mono (wp_task_steady P point.2.connected op fuel point point ⟨htruthful, rfl⟩) ?_ ?_
      fun _ _ _ => trivial⟩
    · intro result _ later ⟨hlater, hflag, hlast⟩
      refine ⟨hlater, fun hcons => ?_⟩
      obtain ⟨hne, hlost | hbefore⟩ := awaitsConnect_cons results result hcons
      · exact (hflag hne).trans (hlast hlost)
      · exact (hflag hne).trans (hawaits hbefore)
    · exact fun _ _ later hheld => ⟨hheld.1, fun hbefore => hheld.2.trans (hawaits hbefore)⟩

theorem refusesToSend_of_not_connected (allows : AsyncMqttClient → (query : Query) → Answer query → Prop)
    (h : point.2.connected = false) : RefusesToSend P allows point := by
  intro op fuel hconnect hreceive
  cases op with
  | connect => exact absurd rfl hconnect
  | receive => exact absurd rfl hreceive
  | publish topic payload pubopts =>
      refine ⟨.published (.error (error .disconnected "Cannot publish when client is disconnected")), rfl, ?_⟩
      simp [Operation.task, asyncPublish, settle, h]
  | subscribe topics =>
      refine ⟨.subscribed (.error (error .disconnected "Cannot subscribe when client is disconnected")), rfl, ?_⟩
      simp [Operation.task, asyncSubscribe, settle, h]

-- On a transport where receiving fails only while the client is not connected,
-- the flag tells the truth between and during the operations of every session.
theorem connected_truthful (h : Session P Link.Steady results point) :
    Truthful point ∧
      (AwaitsConnect results → point.2.connected = false ∧ RefusesToSend P Link.Steady point) ∧
      ∀ (op : Operation) (fuel : Nat) (config : Config (Link.world Link.Steady) OperationResult),
        Reach (Link.world Link.Steady) (settle (Link.world Link.Steady) (op.task P fuel) point) config →
          Truthful config.point ∧
            (AwaitsConnect results → config.task ≠ .ret (.connected none) → config.point.2.connected = false) := by
  obtain ⟨htruthful, hawaits⟩ := session_settled P results point h
  refine ⟨htruthful, fun hlost => ⟨hawaits hlost, refusesToSend_of_not_connected P point _ (hawaits hlost)⟩, ?_⟩
  intro op fuel config hreach
  rcases wp_stands (wp_task_steady P point.2.connected op fuel point point ⟨htruthful, rfl⟩) hreach with
    ⟨query, next, -, hheld⟩ | ⟨result, start, htask, hret⟩ | ⟨thrown, start, -, hheld⟩ | ⟨-, start, hheld⟩
  · exact ⟨hheld.1, fun hlost _ => hheld.2.trans (hawaits hlost)⟩
  · refine ⟨hret.1, fun hlost hne => (hret.2.1 fun heq => hne ?_).trans (hawaits hlost)⟩
    rw [htask, heq]
  · exact ⟨hheld.1, fun hlost _ => hheld.2.trans (hawaits hlost)⟩
  · exact ⟨hheld.1, fun hlost _ => hheld.2.trans (hawaits hlost)⟩

end Truthful

section Samples

-- A transport on which everything succeeds but perhaps the receiving.
def Link.responding (received : Except SystemError Packet) (_ : Link) (_ : AsyncMqttClient) :
    (query : Query) → Answer query
  | .resolve _ _ => none
  | .connect => none
  | .send _ => none
  | .recv => received
  | .acquireUniquePacketId => some 1
  | .timer _ => none
  | .wait _ => none

def accepted : Except SystemError Packet := .ok (.connack false .accepted)

def newClient : AsyncMqttClient := AsyncMqttClient.create { maxAttempts := 0 }

theorem connected_truthful_accepted :
    Truthful (⟨false, true⟩, newClient.setConnected.setAttempt 0) := by
  have hstart : Session samplePlatform Link.Steady [] (⟨false, false⟩, newClient) :=
    .start _ ⟨{ maxAttempts := 0 }, none, rfl⟩
  have hconnect : Session samplePlatform Link.Steady [.connected none]
      (⟨false, true⟩, newClient.setConnected.setAttempt 0) := by
    refine .ret [] _ _ (Operation.connect.task samplePlatform 0) _ hstart ⟨.connect, 0, rfl⟩ ?_
    exact exec_reach (Link.world Link.Steady) (Link.responding accepted) (fun _ _ query => by cases query <;> trivial)
      _ _
  exact (connected_truthful samplePlatform _ _ hconnect).1

-- The connection is lost after the handshake and no reconnection is attempted.
theorem flag_stale_after_disconnect :
    ∃ results point, Session samplePlatform Link.Any results point ∧ AwaitsConnect results ∧ ¬Truthful point ∧
      point.2.connected = true ∧ ¬RefusesToSend samplePlatform Link.Any point := by
  have hany (received : Except SystemError Packet) (link : Link) (client : AsyncMqttClient) (query : Query) :
      (Link.world Link.Any).allows link client query (Link.responding received link client query) := trivial
  have hstart : Session samplePlatform Link.Any [] (⟨false, false⟩, newClient) :=
    .start _ ⟨{ maxAttempts := 0 }, none, rfl⟩
  have hconnect : Session samplePlatform Link.Any [.connected none]
      (⟨false, true⟩, newClient.setConnected.setAttempt 0) := by
    refine .ret [] _ _ (Operation.connect.task samplePlatform 0) _ hstart ⟨.connect, 0, rfl⟩ ?_
    exact exec_reach (Link.world Link.Any) (Link.responding accepted) (hany _) _ _
  have hreceive : Session samplePlatform Link.Any
      [.received (.error (error .disconnected "Client got disconnected after auto-reconnect failure")), .connected none]
      (⟨false, false⟩, newClient.setConnected.setAttempt 0) := by
    refine .ret _ _ _ (Operation.receive.task samplePlatform 1) _ hconnect ⟨.receive, 1, rfl⟩ ?_
    exact exec_reach (Link.world Link.Any) (Link.responding (.error endOfFile)) (hany _) _ _
  refine ⟨_, _, hreceive, .inl rfl, fun h => absurd (h rfl) (by decide), rfl, fun h => ?_⟩
  obtain ⟨result, -, hsettle⟩ := h (.subscribe []) 0 (by simp) (by simp)
  cases hsettle

end Samples

end HhctrlMgmt.Mqtt
