import HhctrlMgmt.Mqtt.Client

namespace HhctrlMgmt.Mqtt

open Coroutine

-- The questions that do not go to the broker.
def Query.Local : Query → Prop
  | .send _ | .recv => False
  | _ => True

section Connecting

variable {α β : Type}

-- The parts of the client that connect: they send nothing but a CONNECT, and receive a
-- packet only right after one.
inductive Connecting : ClientM α → Prop
  | ret (value : α) : Connecting (.ret value)
  | throw (thrown : Exn) : Connecting (.throw thrown)
  | spin : Connecting .spin
  | get (next : AsyncMqttClient → ClientM α) (hnext : ∀ client, Connecting (next client)) : Connecting (.get next)
  | set (client : AsyncMqttClient) (next : ClientM α) (hnext : Connecting next) : Connecting (.set client next)
  | enter (label : Label) (next : ClientM α) (hnext : Connecting next) : Connecting (.enter label next)
  | await (query : Query) (next : Answer query → ClientM α) (hlocal : query.Local)
      (hnext : ∀ answer, Connecting (next answer)) : Connecting (.await query next)
  | handshake (packet : ConnectPacket) (next : Option SystemError → ClientM α)
      (recv : Except SystemError Packet → ClientM α) (hsent : next none = .await .recv recv)
      (hfailed : ∀ e, Connecting (next (some e))) (hrecv : ∀ answer, Connecting (recv answer)) :
      Connecting (.await (.send (.connect packet)) next)

theorem connecting_bind {first : ClientM α} {next : α → ClientM β} (h : Connecting first)
    (hnext : ∀ value, Connecting (next value)) : Connecting (first.bind next) := by
  induction h with
  | ret value => exact hnext value
  | throw thrown => exact .throw thrown
  | spin => exact .spin
  | get _ _ ih => exact .get _ ih
  | set client _ _ ih => exact .set client _ ih
  | enter label _ _ ih => exact .enter label _ ih
  | await query _ hlocal _ ih => exact .await query _ hlocal ih
  | handshake packet _ recv hsent _ _ ihfailed ihrecv =>
      refine .handshake packet _ (fun answer => (recv answer).bind next) ?_ ihfailed ihrecv
      rw [hsent]
      rfl

theorem connecting_ofExcept (result : Except Exn α) : Connecting (.ofExcept result) := by
  cases result with
  | ok value => exact .ret value
  | error thrown => exact .throw thrown

variable (P : Platform)

theorem connecting_handleRecvError (tryReconnect : ClientM Bool) (hreconnect : Connecting tryReconnect)
    (e : SystemError) : Connecting (handleRecvError P tryReconnect e) := by
  simp only [handleRecvError, Coro.bind_eq, Coro.state, Coro.bind]
  refine .get _ fun client => ?_
  split_ifs
  · refine connecting_bind hreconnect fun reconnected => ?_
    cases reconnected with
    | true => exact .ret _
    | false => exact .get _ fun client => .ret _
  · exact connecting_bind (connecting_ofExcept _) fun code => .ret _

theorem connecting_asyncConnect (tryReconnect : ClientM Bool) (hreconnect : Connecting tryReconnect) :
    Connecting (asyncConnect P tryReconnect) := by
  -- a code that has no mapping is thrown, any other one ends the attempt
  have hfailed (code : SystemCode) (text : String) : Connecting
      ((Coro.ofExcept (mapErrorCode P code)).bind fun mapped => .ret (some (error mapped text))) :=
    connecting_bind (connecting_ofExcept _) fun _ => .ret _
  have hconnected : Connecting (.get fun client => .set (client.setAttempt 0) (.ret (none : Error))) :=
    .get _ fun client => .set _ _ (.ret none)
  simp only [asyncConnect, asyncSendCon, asyncRecvConack, asyncResolve, asyncTcpConnect, epSend, epRecv, Coro.bind_eq,
    Coro.pure_eq, Coro.label, Coro.state, Coro.modify, Coro.bind]
  refine .enter _ _ (.get _ fun client => .await _ _ trivial fun resolved => ?_)
  cases resolved with
  | some _ => exact .ret _
  | none =>
      refine .await _ _ trivial fun opened => ?_
      cases opened with
      | some code => exact hfailed code _
      | none =>
          refine .get _ fun client => .handshake _ _ _ rfl (fun e => hfailed e.code _) fun answer => ?_
          cases answer with
          | ok packet =>
              cases packet with
              | connack _ _ => exact .get _ fun client => .set _ _ hconnected
              | publish _ | puback _ | suback _ | other _ => exact hconnected
          | error e =>
              simp only [Coro.bind_assoc]
              exact connecting_bind (connecting_handleRecvError P tryReconnect hreconnect e) fun e => hfailed e.code _

theorem connecting_tryReconnect (fuel : Nat) : Connecting (tryReconnect P fuel) := by
  have hwith (loop : ClientM Bool) (hloop : Connecting loop) : Connecting (tryReconnectWith loop) := by
    simp only [tryReconnectWith, Coro.bind_eq, Coro.pure_eq, Coro.label, Coro.state, Coro.modify, Coro.bind]
    refine .enter _ _ (.get _ fun client => ?_)
    split_ifs
    · exact .ret false
    · exact .get _ fun client => .set _ _ hloop
  refine hwith _ ?_
  induction fuel with
  | zero => exact .spin
  | succ fuel ih =>
      simp only [tryReconnectLoop, timerAsyncWait, Coro.bind_eq, Coro.pure_eq, Coro.state, Coro.modify, Coro.bind]
      refine .get _ fun client => .set _ _ (.get _ fun client => ?_)
      split_ifs
      · refine .await _ _ trivial fun waited => ?_
        cases waited with
        | some _ => exact .ret false
        | none =>
            refine connecting_bind (connecting_asyncConnect P _ (hwith _ ih)) fun connected => ?_
            cases connected with
            | none => exact .ret true
            | some _ => exact ih
      · exact .ret false

end Connecting
end HhctrlMgmt.Mqtt
