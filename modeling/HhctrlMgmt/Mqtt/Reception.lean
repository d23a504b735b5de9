import HhctrlMgmt.Coroutine.Leads
import HhctrlMgmt.Mqtt.Entity

namespace HhctrlMgmt.Mqtt

open Common Coroutine

-- The endpoint delivers these packets, in this order and without an error.
def arriving (σ : Type) : World sig σ where
  State := List Packet
  enter packets _ := packets
  issue packets _ := packets
  allows packets _ query answer :=
    match query, answer with
    | .recv, answer => ∃ packet, packets.head? = some packet ∧ answer = .ok packet
    | _, _ => True
  answer packets query _ :=
    match query with
    | .recv => packets.tail
    | _ => packets

-- What a packet is returned as, if it is.
def Packet.handedOver : Packet → Option (Expected PublishPacket)
  | .publish packet => some (.ok packet)
  | .suback packet => if anySubackFailure packet then some (.error (plainError .subscriptionFailure)) else none
  | .puback _ | .connack _ _ | .other _ => none

-- The PUBACKs among the packets have been taken off pending_puback_, and nothing else
-- has changed.
structure Cleared (before after : Entity) (packets : List Packet) : Prop where
  same : SameEntity before after
  pending : ∀ packetId, packetId ∈ after.pendingPuback ↔ packetId ∈ before.pendingPuback ∧ .puback packetId ∉ packets

-- A call has consumed the packets up to the first that is handed over, or all of them
-- and waits for another.
inductive CallEnds (packets : List Packet) (entity : Entity) : Config (arriving Entity) (Expected PublishPacket) → Prop
  | returned (silent : List Packet) (packet : Packet) (rest : List Packet) (result : Expected PublishPacket) (later : Entity)
      (hpackets : packets = silent ++ packet :: rest) (hsilent : silent.filterMap Packet.handedOver = [])
      (hresult : packet.handedOver = some result) (hcleared : Cleared entity later (silent ++ [packet])) :
      CallEnds packets entity ⟨(rest, later), .ret result⟩
  | waits (later : Entity) (next : Except SystemError Packet → EntityM (Expected PublishPacket))
      (hsilent : packets.filterMap Packet.handedOver = []) (hcleared : Cleared entity later packets) :
      CallEnds packets entity ⟨([], later), .await Query.recv next⟩

section Calls

variable {entity later : Entity} {packets : List Packet}

theorem cleared_silent {packet : Packet} (hpacket : ∀ packetId, packet ≠ .puback packetId) :
    Cleared entity entity [packet] := by
  refine ⟨SameEntity.refl entity, fun packetId => ?_⟩
  rw [List.mem_singleton]
  exact ⟨fun hmem => ⟨hmem, fun heq => hpacket packetId heq.symm⟩, And.left⟩

-- async_receive erases an id that it does not have to hold.
theorem cleared_puback (entity : Entity) (acked : PacketId) :
    Cleared entity (if acked ∈ entity.pendingPuback then entity.erasePending acked else entity) [.puback acked] := by
  by_cases hmem : acked ∈ entity.pendingPuback
  · rw [if_pos hmem]
    refine ⟨⟨rfl, rfl, rfl⟩, fun packetId => ?_⟩
    rw [List.mem_singleton, Packet.puback.injEq]
    exact Finset.mem_erase.trans and_comm
  · rw [if_neg hmem]
    refine ⟨SameEntity.refl entity, fun packetId => ?_⟩
    rw [List.mem_singleton, Packet.puback.injEq]
    exact ⟨fun hpending => ⟨hpending, fun heq => hmem (heq ▸ hpending)⟩, And.left⟩

theorem Cleared.append {middle : Entity} {first second : List Packet} (h : Cleared entity middle first)
    (h' : Cleared middle later second) : Cleared entity later (first ++ second) := by
  refine ⟨h.same.trans h'.same, fun packetId => ?_⟩
  rw [h'.pending, h.pending, List.mem_append, not_or, and_assoc]

theorem CallEnds.after {silent : List Packet} {middle : Entity}
    {config : Config (arriving Entity) (Expected PublishPacket)} (h : CallEnds packets middle config)
    (hsilent : silent.filterMap Packet.handedOver = []) (hcleared : Cleared entity middle silent) :
    CallEnds (silent ++ packets) entity config := by
  cases h with
  | returned more packet rest result later hpackets hmore hresult hlater =>
      refine .returned (silent ++ more) packet rest result later ?_ ?_ hresult ?_
      · rw [hpackets, List.append_assoc]
      · rw [List.filterMap_append, hsilent, hmore, List.append_nil]
      · rw [List.append_assoc]
        exact hcleared.append hlater
  | waits later next hmore hlater =>
      refine .waits later next ?_ (hcleared.append hlater)
      rw [List.filterMap_append, hsilent, hmore, List.append_nil]

end Calls

section Loops

variable {goal : Config (arriving Entity) (Expected PublishPacket) → Prop} (P : Platform) (fuel : Nat)

-- A packet is there, and no other answer is.
theorem leads_recv {packet : Packet} {packets : List Packet} {entity : Entity}
    {next : Except SystemError Packet → EntityM (Expected PublishPacket)}
    (h : Leads (arriving Entity) goal (settle (arriving Entity) (next (.ok packet)) (packets, entity))) :
    Leads (arriving Entity) goal ⟨(packet :: packets, entity), .await Query.recv next⟩ := by
  refine .resume _ _ _ ⟨.ok packet, packet, rfl, rfl⟩ fun answer hallow => ?_
  obtain ⟨delivered, hhead, rfl⟩ := hallow
  cases hhead
  exact h

-- The client's loop goes on to the first packet that it returns.
theorem leads_clientLoop (tryReconnect : ClientM Bool) (f : Expected ReceiveResult → EntityM (Expected PublishPacket))
    (packets : List Packet) (rounds : Nat) (entity : Entity) (hrounds : packets.length < rounds)
    (hreturns : ∀ skipped packet rest result, packets = skipped ++ packet :: rest →
      (∀ packet ∈ skipped, packet.receiveResult = none) → packet.receiveResult = some result →
      Leads (arriving Entity) goal (settle (arriving Entity) (f (.ok result)) (rest, entity)))
    (hwaits : (∀ packet ∈ packets, packet.receiveResult = none) → ∀ next, goal ⟨([], entity), .await Query.recv next⟩) :
    Leads (arriving Entity) goal
      (settle (arriving Entity) ((Entity.onClient (asyncReceiveLoop P tryReconnect rounds)).bind f)
        (packets, entity)) := by
  induction packets generalizing rounds with
  | nil =>
      obtain ⟨rounds, rfl⟩ := Nat.exists_eq_succ_of_ne_zero (Nat.ne_of_gt hrounds)
      exact .here _ (hwaits (fun packet hmem => absurd hmem List.not_mem_nil) _)
  | cons packet packets ih =>
      obtain ⟨rounds, rfl⟩ := Nat.exists_eq_succ_of_ne_zero (Nat.ne_of_gt (Nat.zero_lt_of_lt hrounds))
      simp only [asyncReceiveLoop, epRecv, Coro.bind_eq, Coro.pure_eq, Coro.bind, Entity.onClient, Coro.zoom, settle]
      apply leads_recv
      cases hresult : packet.receiveResult with
      | some result =>
          simp only [hresult]
          exact hreturns [] packet packets result rfl (fun packet hmem => absurd hmem List.not_mem_nil) hresult
      | none =>
          simp only [hresult]
          refine ih rounds (by simpa using hrounds) ?_ ?_
          · intro skipped other rest result hpackets hskipped hother
            refine hreturns (packet :: skipped) other rest result (by rw [hpackets, List.cons_append]) ?_ hother
            exact List.forall_mem_cons.mpr ⟨hresult, hskipped⟩
          · exact fun hskipped => hwaits (List.forall_mem_cons.mpr ⟨hresult, hskipped⟩)

theorem leads_clientReceive (f : Expected ReceiveResult → EntityM (Expected PublishPacket)) (packets : List Packet)
    (entity : Entity) (hconnected : entity.client.connected = true) (hfuel : packets.length < fuel)
    (hreturns : ∀ skipped packet rest result, packets = skipped ++ packet :: rest →
      (∀ packet ∈ skipped, packet.receiveResult = none) → packet.receiveResult = some result →
      Leads (arriving Entity) goal (settle (arriving Entity) (f (.ok result)) (rest, entity)))
    (hwaits : (∀ packet ∈ packets, packet.receiveResult = none) → ∀ next, goal ⟨([], entity), .await Query.recv next⟩) :
    Leads (arriving Entity) goal
      (settle (arriving Entity) ((Entity.onClient (Mqtt.asyncReceive P fuel)).bind f) (packets, entity)) := by
  have hloop := leads_clientLoop P (tryReconnect P fuel) f packets fuel entity hfuel hreturns hwaits
  simp only [Entity.onClient, Mqtt.asyncReceive, Coro.label, Coro.state, Coro.bind_eq, Coro.bind, Coro.zoom, settle,
    hconnected]
  exact hloop

theorem handedOver_skipped {skipped : List Packet} (hskipped : ∀ packet ∈ skipped, packet.receiveResult = none) :
    skipped.filterMap Packet.handedOver = [] := by
  refine List.filterMap_eq_nil_iff.mpr fun packet hmem => ?_
  have hnone := hskipped packet hmem
  cases packet with
  | publish _ | puback _ | suback _ => cases hnone
  | connack _ _ | other _ => rfl

theorem cleared_skipped (entity : Entity) {skipped : List Packet}
    (hskipped : ∀ packet ∈ skipped, packet.receiveResult = none) :
    Cleared entity entity skipped := by
  refine ⟨SameEntity.refl entity, fun packetId => ⟨fun hmem => ⟨hmem, fun hacked => ?_⟩, And.left⟩⟩
  cases hskipped _ hacked

theorem leads_entityLoop (rounds : Nat) (packets : List Packet) (entity : Entity)
    (hconnected : entity.client.connected = true) (hfuel : packets.length < fuel) (hrounds : packets.length < rounds) :
    Leads (arriving Entity) (CallEnds packets entity)
      (settle (arriving Entity) (Entity.asyncReceiveLoop P fuel rounds) (packets, entity)) := by
  induction rounds generalizing packets entity with
  | zero => exact absurd hrounds (Nat.not_lt_zero _)
  | succ rounds ih =>
      simp only [Entity.asyncReceiveLoop, Coro.bind_eq, Coro.pure_eq]
      apply leads_clientReceive P fuel _ packets entity hconnected hfuel
      · intro skipped packet rest result hpackets hskipped hresult
        have hsilent := handedOver_skipped hskipped
        have hbefore := cleared_skipped entity hskipped
        have hlength : rest.length < packets.length := by
          rw [hpackets, List.length_append, List.length_cons]
          omega
        have hsplit : packets = (skipped ++ [packet]) ++ rest := by
          rw [hpackets, List.append_assoc]
          rfl
        obtain rfl := Packet.eq_of_receiveResult hresult
        cases result with
        | publish packet =>
            have hcleared : Cleared entity entity [.publish packet] := cleared_silent fun _ heq => by cases heq
            exact .here _ (.returned skipped _ rest (.ok packet) entity hpackets hsilent rfl (hbefore.append hcleared))
        | suback packet =>
            have hcleared : Cleared entity entity [.suback packet] := cleared_silent fun _ heq => by cases heq
            dsimp only
            cases hfailure : anySubackFailure packet with
            | true =>
                have hresult : (Packet.suback packet).handedOver = some (.error (plainError .subscriptionFailure)) :=
                  if_pos hfailure
                exact .here _ (.returned skipped _ rest _ entity hpackets hsilent hresult (hbefore.append hcleared))
            | false =>
                have hnone : (Packet.suback packet).handedOver = none :=
                  if_neg (by rw [hfailure]; exact Bool.false_ne_true)
                have hquiet : (skipped ++ [Packet.suback packet]).filterMap Packet.handedOver = [] := by
                  rw [List.filterMap_append, hsilent, List.filterMap_cons_none hnone]
                  rfl
                rw [hsplit]
                exact (ih rest entity hconnected (by omega) (by omega)).mono fun _ hends =>
                  hends.after hquiet (hbefore.append hcleared)
        | puback acked =>
            have hcleared := cleared_puback entity acked
            have hquiet : (skipped ++ [Packet.puback acked]).filterMap Packet.handedOver = [] := by
              rw [List.filterMap_append, hsilent]
              rfl
            have hstill :
                (if acked ∈ entity.pendingPuback then entity.erasePending acked else entity).client.connected = true := by
              rw [hcleared.same.2.2]
              exact hconnected
            rw [hsplit]
            exact (ih rest _ hstill (by omega) (by omega)).mono fun _ hends =>
              hends.after hquiet (hbefore.append hcleared)
      · intro hskipped next
        exact .waits entity next (handedOver_skipped hskipped) (cleared_skipped entity hskipped)

theorem leads_receive (packets : List Packet) (entity : Entity) (hconnected : entity.client.connected = true)
    (hfuel : packets.length < fuel) :
    Leads (arriving Entity) (CallEnds packets entity)
      (settle (arriving Entity) (Entity.asyncReceive P fuel) (packets, entity)) :=
  leads_entityLoop P fuel fuel packets entity hconnected hfuel hfuel

theorem CallEnds.final {packets : List Packet} {entity : Entity}
    {config : Config (arriving Entity) (Expected PublishPacket)} (h : CallEnds packets entity config) :
    Final config := by
  cases h with
  | returned _ _ _ _ _ _ _ _ _ => exact final_ret _ _
  | waits later next _ _ =>
      apply @final_await sig Entity (Expected PublishPacket) (arriving Entity) ([], later) Query.recv next
      rintro answer ⟨packet, hhead, -⟩
      cases hhead

end Loops

-- Calls of async_receive, one after another.
def Receives (P : Platform) (fuel : Nat) (packets : List Packet) (entity : Entity) :
    List (Expected PublishPacket) → List Packet × Entity → Prop :=
  Serial (arriving Entity) (· = Entity.asyncReceive P fuel) (· = (packets, entity))

-- The next call returns the next packet that is handed over. If there is none, it
-- consumes the others and waits.
def Yields (packets : List Packet) (entity : Entity) (rest : List Packet)
    (config : Config (arriving Entity) (Expected PublishPacket)) : Prop :=
  match rest.filterMap Packet.handedOver with
  | result :: _ => ∃ later, config = ⟨later, .ret result⟩
  | [] => ∃ later next, config = ⟨([], later), .await Query.recv next⟩ ∧ Cleared entity later packets

section Series

variable {P : Platform} {fuel : Nat} {packets : List Packet} {entity : Entity} {results : List (Expected PublishPacket)}
  {point : List Packet × Entity}

-- What the calls have consumed, and what they have made of it.
structure Consumed (packets : List Packet) (entity : Entity) (results : List (Expected PublishPacket))
    (point : List Packet × Entity) (used : List Packet) : Prop where
  packets : packets = used ++ point.1
  results : results.reverse = used.filterMap Packet.handedOver
  cleared : Cleared entity point.2 used

theorem Consumed.leads {used : List Packet} (h : Consumed packets entity results point used)
    (hconnected : entity.client.connected = true) (hfuel : packets.length < fuel) :
    Leads (arriving Entity) (CallEnds point.1 point.2)
      (settle (arriving Entity) (Entity.asyncReceive P fuel) point) := by
  have hstill : point.2.client.connected = true := by
    rw [h.cleared.same.2.2]
    exact hconnected
  have hlength : point.1.length ≤ packets.length := by
    rw [h.packets, List.length_append]
    exact Nat.le_add_left _ _
  exact leads_receive P fuel point.1 point.2 hstill (Nat.lt_of_le_of_lt hlength hfuel)

theorem Receives.consumed (h : Receives P fuel packets entity results point)
    (hconnected : entity.client.connected = true) (hfuel : packets.length < fuel) :
    ∃ used, Consumed packets entity results point used := by
  refine Serial.leads h (fun results point => ∃ used, Consumed packets entity results point used) ?_ ?_
  · rintro point rfl
    exact ⟨[], rfl, rfl, cleared_skipped entity fun packet hmem => absurd hmem List.not_mem_nil⟩
  · rintro results point task rfl ⟨used, hused⟩
    refine ⟨CallEnds point.1 point.2, hused.leads hconnected hfuel, fun _ hends => hends.final, ?_, ?_⟩
    · intro later result hends
      cases hends with
      | returned silent packet rest _ later hpackets hsilent hresult hcleared =>
          refine ⟨used ++ (silent ++ [packet]), ?_, ?_, hused.cleared.append hcleared⟩
          · rw [hused.packets, hpackets]
            simp only [List.append_assoc, List.cons_append, List.nil_append]
          · rw [List.reverse_cons, hused.results, List.filterMap_append, List.filterMap_append, hsilent,
              List.filterMap_cons_some hresult]
            rfl
    · intro later thrown hends
      cases hends

theorem Consumed.yields {used : List Packet} (h : Consumed packets entity results point used)
    {config : Config (arriving Entity) (Expected PublishPacket)} (hends : CallEnds point.1 point.2 config) :
    Yields packets entity point.1 config := by
  unfold Yields
  cases hends with
  | returned silent packet rest result later hpackets hsilent hresult hcleared =>
      have hnext : point.1.filterMap Packet.handedOver = result :: rest.filterMap Packet.handedOver := by
        rw [hpackets, List.filterMap_append, hsilent, List.filterMap_cons_some hresult]
        rfl
      rw [hnext]
      exact ⟨_, rfl⟩
  | waits later next hsilent hcleared =>
      rw [hsilent, h.packets]
      exact ⟨later, next, rfl, h.cleared.append hcleared⟩

-- Every packet to hand over is either returned or still there.
theorem Consumed.handedOver {used : List Packet} (h : Consumed packets entity results point used) :
    packets.filterMap Packet.handedOver = results.reverse ++ point.1.filterMap Packet.handedOver := by
  rw [h.packets, List.filterMap_append, h.results]

theorem Receives.yields (h : Receives P fuel packets entity results point) (hconnected : entity.client.connected = true)
    (hfuel : packets.length < fuel) :
    Leads (arriving Entity) (Yields packets entity point.1)
      (settle (arriving Entity) (Entity.asyncReceive P fuel) point) := by
  obtain ⟨used, hused⟩ := h.consumed hconnected hfuel
  exact (hused.leads hconnected hfuel).mono fun _ hends => hused.yields hends

-- As long as there is a packet to hand over, there is a further call that returns it.
theorem Receives.more (h : Receives P fuel packets entity results point) (hconnected : entity.client.connected = true)
    (hfuel : packets.length < fuel) {result : Expected PublishPacket} {rest : List (Expected PublishPacket)}
    (hrest : point.1.filterMap Packet.handedOver = result :: rest) :
    ∃ later, Receives P fuel packets entity (result :: results) later := by
  obtain ⟨config, hreach, hyields⟩ := (h.yields hconnected hfuel).exists_reach
  unfold Yields at hyields
  rw [hrest] at hyields
  obtain ⟨later, rfl⟩ := hyields
  exact ⟨later, @Serial.ret sig Entity _ (arriving Entity) _ _ results point later _ result h rfl hreach⟩

theorem Receives.all (h : Receives P fuel packets entity results point) (hconnected : entity.client.connected = true)
    (hfuel : packets.length < fuel) (left : Nat) (hleft : (point.1.filterMap Packet.handedOver).length = left) :
    ∃ last, Receives P fuel packets entity (packets.filterMap Packet.handedOver).reverse last := by
  induction left generalizing results point with
  | zero =>
      obtain ⟨used, hused⟩ := h.consumed hconnected hfuel
      refine ⟨point, ?_⟩
      rw [hused.handedOver, List.eq_nil_of_length_eq_zero hleft, List.append_nil, List.reverse_reverse]
      exact h
  | succ left ih =>
      obtain ⟨result, rest, hrest⟩ := List.exists_cons_of_length_eq_add_one hleft
      obtain ⟨later, hlater⟩ := h.more hconnected hfuel hrest
      -- one packet less is left to hand over
      obtain ⟨used, hused⟩ := h.consumed hconnected hfuel
      obtain ⟨more, hmore⟩ := hlater.consumed hconnected hfuel
      have hcount := congrArg List.length (hused.handedOver.symm.trans hmore.handedOver)
      rw [List.length_append, List.length_append, List.length_reverse, List.length_reverse, List.length_cons] at hcount
      exact ih hlater (by omega)

end Series

-- The calls return the packets that are handed over, and no other result; what they
-- have consumed is taken off pending_puback_.
theorem receive_filters (P : Platform) (fuel : Nat) (packets : List Packet) (entity : Entity)
    (hconnected : entity.client.connected = true) (hfuel : packets.length < fuel) :
    (∃ point, Receives P fuel packets entity (packets.filterMap Packet.handedOver).reverse point) ∧
      ∀ results point, Receives P fuel packets entity results point →
        (∃ used, packets = used ++ point.1 ∧ results.reverse = used.filterMap Packet.handedOver ∧
          Cleared entity point.2 used) ∧
        Leads (arriving Entity) (Yields packets entity point.1)
          (settle (arriving Entity) (Entity.asyncReceive P fuel) point) := by
  constructor
  · have hstart : Receives P fuel packets entity [] (packets, entity) := .start _ rfl
    exact hstart.all hconnected hfuel _ rfl
  · intro results point hreceives
    obtain ⟨used, hused⟩ := hreceives.consumed hconnected hfuel
    exact ⟨⟨used, hused.packets, hused.results, hused.cleared⟩, hreceives.yields hconnected hfuel⟩

section Samples

def lampCommand : PublishPacket := ⟨0, ascii "lamp/set", ascii "ON", ⟨.atMostOnce, false⟩⟩

def lampPackets : List Packet :=
  [.other .pingresp, .puback 7, .publish lampCommand, .suback ⟨1, [.successMaximumQos1]⟩, .suback ⟨2, [.failure]⟩, .puback 9]

def lampEntity : Entity :=
  (Entity.create (ascii "light") (ascii "lamp") (AsyncMqttClient.create {}).setConnected).addPending 7

theorem receive_filters_lamp :
    (∃ point, Receives samplePlatform 7 lampPackets lampEntity (lampPackets.filterMap Packet.handedOver).reverse point) ∧
      ∀ results point, Receives samplePlatform 7 lampPackets lampEntity results point →
        (∃ used, lampPackets = used ++ point.1 ∧ results.reverse = used.filterMap Packet.handedOver ∧
          Cleared lampEntity point.2 used) ∧
        Leads (arriving Entity) (Yields lampPackets lampEntity point.1)
          (settle (arriving Entity) (Entity.asyncReceive samplePlatform 7) point) :=
  receive_filters samplePlatform 7 lampPackets lampEntity rfl (by decide)

end Samples

end HhctrlMgmt.Mqtt
