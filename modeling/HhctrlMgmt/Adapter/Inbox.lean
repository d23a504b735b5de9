import HhctrlMgmt.Adapter.Commands
import HhctrlMgmt.Adapter.Speech
import HhctrlMgmt.Coroutine.Upholds

namespace HhctrlMgmt.Adapter

open Common Coroutine Mqtt

-- Surroundings that keep the publish packets which the endpoint has given out, in their
-- order. What else they answer is restricted.
abbrev inbox (allowed : (query : Query) → Answer query → Prop) : Surroundings sig where
  State := List PublishPacket
  enter received _ := received
  issue received _ := received
  allows _ := allowed
  answer received query answer :=
    match query, answer with
    | .recv, .ok (.publish packet) => received ++ [packet]
    | _, _ => received

section Receive

variable {δ : Type} {allowed : (query : Query) → Answer query → Prop} (I : Entity → Prop)
  (K : List PublishPacket → δ → Prop) (E : SystemError → Prop)

-- What is known of the entity, and how its device agrees with what has been received.
def Accounted (point : List PublishPacket × Entity × δ) : Prop :=
  I point.2.1 ∧ K point.1 point.2.2

-- The device does not know of the packet yet.
def JustIn (packet : PublishPacket) (point : List PublishPacket × Entity × δ) : Prop :=
  I point.2.1 ∧ ∃ received, point.1 = received ++ [packet] ∧ K received point.2.2

def Received : Expected PublishPacket → List PublishPacket × Entity × δ → Prop
  | .ok packet, point => JustIn I K packet point
  | .error e, point => Accounted I K point ∧ E e

-- The same of the client.
def ClientReceived : Expected ReceiveResult → List PublishPacket × Entity × δ → Prop
  | .ok (.publish packet), point => JustIn I K packet point
  | .ok _, point => Accounted I K point
  | .error e, point => Accounted I K point ∧ E e

variable (P : Platform) (fuel : Nat) (throw : Exn → List PublishPacket × Entity × δ → Prop)

-- What becomes of a connection that fails.
structure Recovers (allowed : (query : Query) → Answer query → Prop) : Prop where
  erasePending : ∀ entity packetId, I entity → I (entity.erasePending packetId)
  disconnected : ∀ entity, I entity → entity.client.connected = false →
    E (error .disconnected "Cannot receive on disconnected client ")
  subscriptionFailure : E (plainError .subscriptionFailure)
  recvError : ∀ e, allowed .recv (.error e) → ∀ point, Accounted I K point →
    Fulfils (W := (inbox allowed).world (Entity × δ)) (Accounted I K) throw
      (fun e later => Accounted I K later ∧ E e)
      (onEntity (Entity.onClient (handleRecvError P (tryReconnect P fuel) e))) point

variable {I K E P fuel throw} (h : Recovers I K E P fuel throw allowed)

include h

theorem fulfils_clientLoop (rounds : Nat) (point : List PublishPacket × Entity × δ) (hpoint : Accounted I K point) :
    Fulfils (W := (inbox allowed).world (Entity × δ)) (Accounted I K) throw (ClientReceived I K E)
      (onEntity (Entity.onClient (asyncReceiveLoop P (tryReconnect P fuel) rounds))) point := by
  induction rounds generalizing point with
  | zero => exact fulfils_spin hpoint
  | succ rounds ih =>
      refine fulfils_await _ _ hpoint fun later hlater answer hallow => ?_
      cases answer with
      | ok packet =>
          cases packet with
          | publish packet => exact fulfils_ret _ ⟨hlater.1, _, rfl, hlater.2⟩
          | puback packetId => exact fulfils_ret _ hlater
          | suback packet => exact fulfils_ret _ hlater
          | connack _ _ => exact ih later hlater
          | other _ => exact ih later hlater
      | error e =>
          have hreturn : Fulfils (W := (inbox allowed).world (Entity × δ)) (Accounted I K) throw (ClientReceived I K E)
              (onEntity (Entity.onClient ((handleRecvError P (tryReconnect P fuel) e).bind fun e => .ret (.error e))))
              later := by
            simp only [onEntity, Entity.onClient, Coro.zoom_bind]
            exact fulfils_bind (h.recvError e hallow later hlater) fun e last hlast => fulfils_ret _ hlast
          exact hreturn

theorem fulfils_clientReceive (point : List PublishPacket × Entity × δ) (hpoint : Accounted I K point) :
    Fulfils (W := (inbox allowed).world (Entity × δ)) (Accounted I K) throw (ClientReceived I K E)
      (onEntity (Entity.onClient (Mqtt.asyncReceive P fuel))) point := by
  have hloop := fulfils_clientLoop h fuel point hpoint
  cases hconnected : point.2.1.client.connected with
  | true =>
      intro start
      have hwp := hloop start
      simp only [onEntity, Entity.onClient, Mqtt.asyncReceive, Coro.label, Coro.state, Coro.bind_eq, Coro.bind,
        Coro.zoom, wp_enter, wp_get, hconnected, Bool.not_true, Bool.false_eq_true, if_false] at hwp ⊢
      exact hwp
  | false =>
      intro start
      simp only [onEntity, Entity.onClient, Mqtt.asyncReceive, Coro.label, Coro.state, Coro.bind_eq, Coro.bind,
        Coro.zoom, wp_enter, wp_get, hconnected, Bool.not_false, if_true]
      exact ⟨hpoint, h.disconnected _ hpoint.1 hconnected⟩

-- A packet is given back right after it has been received.
theorem fulfils_entityReceive (point : List PublishPacket × Entity × δ) (hpoint : Accounted I K point) :
    Fulfils (W := (inbox allowed).world (Entity × δ)) (Accounted I K) throw (Received I K E)
      (onEntity (Entity.asyncReceive P fuel)) point := by
  suffices hloop : ∀ rounds point, Accounted I K point →
      Fulfils (W := (inbox allowed).world (Entity × δ)) (Accounted I K) throw (Received I K E)
        (onEntity (Entity.asyncReceiveLoop P fuel rounds)) point from hloop fuel point hpoint
  intro rounds
  induction rounds with
  | zero => exact fun point hpoint => fulfils_spin hpoint
  | succ rounds ih =>
      intro point hpoint
      have hreceive := fulfils_clientReceive h point hpoint
      unfold Entity.asyncReceiveLoop
      simp only [onEntity, Coro.bind_eq, Coro.zoom_bind] at hreceive ⊢
      refine fulfils_bind hreceive fun result later hlater => ?_
      cases result with
      | error e => exact fulfils_ret _ hlater
      | ok result =>
          cases result with
          | publish packet => exact fulfils_ret _ hlater
          | suback packet =>
              dsimp only
              split_ifs
              · exact fulfils_ret _ ⟨hlater, h.subscriptionFailure⟩
              · exact ih later hlater
          | puback packetId =>
              refine ih _ ⟨?_, hlater.2⟩
              dsimp only
              split_ifs
              · exact h.erasePending _ _ hlater.1
              · exact hlater.1

end Receive

end HhctrlMgmt.Adapter
