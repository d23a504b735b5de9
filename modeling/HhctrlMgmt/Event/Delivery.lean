import Mathlib.Logic.Function.Iterate
import HhctrlMgmt.Event.EventBus

namespace HhctrlMgmt.Event

variable {Kind Object State : Type} {Payload : Kind → Type} [DecidableEq Kind]

-- The handlers subscribed to an event type, in the order of their subscription, and
-- how often an event of the type has been published since.
def subscriptions (kind : Kind) : List (Call Object State Payload) → List (Handler Object State × Nat)
  | [] => []
  | .subscribe other handler :: history =>
      if other = kind then subscriptions kind history ++ [(handler, 0)] else subscriptions kind history
  | .publish event :: history =>
      if event.1 = kind then (subscriptions kind history).map fun entry => (entry.1, entry.2 + 1)
      else subscriptions kind history

namespace EventIdGenerator

variable (kind : Kind) (generator : EventIdGenerator Kind)

theorem get_id : (generator.get kind).1 = generator.seen.idxOf kind + 1 := by
  unfold get
  split_ifs with hseen
  · rfl
  · rw [List.idxOf_eq_length hseen]

theorem mem_get : kind ∈ (generator.get kind).2.seen := by
  unfold get
  split_ifs with hseen
  · exact hseen
  · exact List.mem_append_right _ (List.mem_singleton_self kind)

theorem seen_prefix_get : generator.seen <+: (generator.get kind).2.seen := by
  unfold get
  split_ifs
  · exact List.prefix_refl _
  · exact List.prefix_append _ _

theorem mem_get_iff (other : Kind) : other ∈ (generator.get kind).2.seen ↔ other ∈ generator.seen ∨ other = kind := by
  unfold get
  split_ifs with hseen
  · exact ⟨Or.inl, fun h => h.elim id fun heq => heq ▸ hseen⟩
  · simp only [List.mem_append, List.mem_singleton]

theorem get_id_later : (generator.get kind).1 = (generator.get kind).2.seen.idxOf kind + 1 := by
  unfold get
  split_ifs with hseen
  · rfl
  · rw [List.idxOf_append_of_notMem hseen, List.idxOf_cons_self, Nat.add_zero]

end EventIdGenerator

theorem idxOf_of_prefix {first second : List Kind} (hbegin : first <+: second) {kind : Kind} (hmem : kind ∈ first) :
    second.idxOf kind = first.idxOf kind := by
  obtain ⟨rest, rfl⟩ := hbegin
  exact List.idxOf_append_of_mem hmem

section Invariant

variable (movedFrom : State → State)

-- The slot of a subscription after some publishes.
def slotOf (eventId : Nat) (kind : Kind) (entry : Handler Object State × Nat) : SlotWrapper Kind Object State :=
  ⟨eventId, kind, (Captured.left movedFrom)^[entry.2] (captureFwd entry.1)⟩

-- The signals hold the slots of the types with their ids, and only those.
structure Tracks (history : List (Call Object State Payload)) (bus : AsyncEventBus Kind Object State) : Prop where
  slots : ∀ kind ∈ bus.generator.seen, bus.handlers (bus.generator.seen.idxOf kind + 1) =
    (subscriptions kind history).map (slotOf movedFrom (bus.generator.seen.idxOf kind + 1) kind)
  unseen : ∀ kind, kind ∉ bus.generator.seen → subscriptions kind history = []
  fresh : ∀ eventId, bus.generator.seen.length < eventId → bus.handlers eventId = []

variable {movedFrom} {history : List (Call Object State Payload)} {bus : AsyncEventBus Kind Object State}

-- The slots of a type, whether it has got its id before or gets it now.
theorem Tracks.handlers (h : Tracks movedFrom history bus) (kind : Kind) :
    bus.handlers (bus.generator.get kind).1 =
      (subscriptions kind history).map (slotOf movedFrom (bus.generator.get kind).1 kind) := by
  rw [EventIdGenerator.get_id]
  by_cases hseen : kind ∈ bus.generator.seen
  · exact h.slots kind hseen
  · rw [h.unseen kind hseen, List.idxOf_eq_length hseen]
    exact h.fresh _ (by omega)

-- A call that replaces the slots of one type.
theorem Tracks.set (h : Tracks movedFrom history bus) (kind : Kind) (call : Call Object State Payload)
    (slots : List (SlotWrapper Kind Object State))
    (hkind : slots = (subscriptions kind (call :: history)).map (slotOf movedFrom (bus.generator.get kind).1 kind))
    (hother : ∀ other, other ≠ kind → subscriptions other (call :: history) = subscriptions other history) :
    Tracks movedFrom (call :: history)
      (AsyncEventBus.setHandlers (bus.generator.get kind).1 slots
        { bus with generator := (bus.generator.get kind).2 }) := by
  have hprefix := bus.generator.seen_prefix_get kind
  have hid := bus.generator.get_id_later kind
  have hlast := List.idxOf_lt_length_of_mem (bus.generator.mem_get kind)
  refine ⟨fun other hmem => ?_, fun other hnot => ?_, fun eventId hfresh => ?_⟩
  · simp only [AsyncEventBus.setHandlers_generator, AsyncEventBus.setHandlers_handlers] at hmem ⊢
    by_cases heq : other = kind
    · subst heq
      rw [if_pos hid.symm, hkind, hid]
    · have hseen := ((bus.generator.mem_get_iff kind other).mp hmem).resolve_right heq
      have hne : (bus.generator.get kind).2.seen.idxOf other + 1 ≠ (bus.generator.get kind).1 := by
        rw [hid]
        exact fun hsame => heq ((List.idxOf_inj hmem).mp (Nat.succ.inj hsame))
      rw [if_neg hne, hother other heq, idxOf_of_prefix hprefix hseen]
      exact h.slots other hseen
  · have hboth := not_or.mp ((bus.generator.mem_get_iff kind other).not.mp hnot)
    rw [hother other hboth.2]
    exact h.unseen other hboth.1
  · simp only [AsyncEventBus.setHandlers_generator, AsyncEventBus.setHandlers_handlers] at hfresh ⊢
    have hlength := hprefix.length_le
    rw [if_neg (by omega)]
    exact h.fresh eventId (by omega)

variable (movedFrom) in
-- What a publish does to the slots of its type.
theorem callSlots_eq (event : BaseEvent Payload) (entries : List (Handler Object State × Nat)) :
    AsyncEventBus.callSlots movedFrom event (entries.map (slotOf movedFrom event.eventId event.kind)) =
      .ok (entries.map fun entry =>
          ⟨(Captured.left movedFrom)^[entry.2] (captureFwd entry.1), ⟨event.kind, event.payload⟩⟩,
        (entries.map fun entry => (entry.1, entry.2 + 1)).map (slotOf movedFrom event.eventId event.kind)) := by
  induction entries with
  | nil => rfl
  | cons entry entries ih =>
      have hcall : (slotOf movedFrom event.eventId event.kind entry).call movedFrom event =
          .ok (⟨(Captured.left movedFrom)^[entry.2] (captureFwd entry.1), ⟨event.kind, event.payload⟩⟩,
            slotOf movedFrom event.eventId event.kind (entry.1, entry.2 + 1)) := by
        simp only [SlotWrapper.call, slotOf, Captured.move, ne_eq, not_true_eq_false, if_false,
          Function.iterate_succ_apply']
        rfl
      simp only [List.map_cons, AsyncEventBus.callSlots, hcall, ih]
      rfl

theorem tracks_subscribe (h : Tracks movedFrom history bus) (kind : Kind) (handler : Handler Object State) :
    Tracks movedFrom (.subscribe kind handler :: history) (bus.subscribe kind handler) := by
  refine h.set kind (.subscribe kind handler) _ ?_ fun other hne => if_neg (Ne.symm hne)
  have hafter : subscriptions kind (.subscribe kind handler :: history) =
      subscriptions kind history ++ [(handler, 0)] :=
    if_pos rfl
  rw [hafter, List.map_append, ← h.handlers kind]
  rfl

-- Every publish reaches the handlers of its type, as the publishes before have left them.
theorem tracks_publish (h : Tracks movedFrom history bus) (event : Sigma Payload) :
    ∃ later, bus.publish movedFrom event = .ok ((subscriptions event.1 history).map fun entry =>
          ⟨(Captured.left movedFrom)^[entry.2] (captureFwd entry.1), event⟩, later) ∧
      Tracks movedFrom (.publish event :: history) later := by
  have hcalled := callSlots_eq movedFrom ⟨(bus.generator.get event.1).1, event.1, event.2⟩
    (subscriptions event.1 history)
  refine ⟨_, ?_, h.set event.1 (.publish event) (((subscriptions event.1 history).map fun entry =>
    (entry.1, entry.2 + 1)).map (slotOf movedFrom (bus.generator.get event.1).1 event.1)) ?_
    fun other hne => if_neg (Ne.symm hne)⟩
  · simp only [AsyncEventBus.publish, h.handlers event.1, hcalled]
    rfl
  · exact congrArg _ (if_pos rfl).symm

theorem tracks_after (generator : EventIdGenerator Kind) (history : List (Call Object State Payload)) :
    ∃ bus, after movedFrom generator history = .ok bus ∧ Tracks movedFrom history bus := by
  induction history with
  | nil => exact ⟨_, rfl, fun _ _ => rfl, fun _ _ => rfl, fun _ _ => rfl⟩
  | cons call history ih =>
      obtain ⟨bus, hafter, htracks⟩ := ih
      cases call with
      | subscribe kind handler =>
          refine ⟨bus.subscribe kind handler, ?_, tracks_subscribe htracks kind handler⟩
          simp only [after, hafter]
          rfl
      | publish event =>
          obtain ⟨later, hpublish, hlater⟩ := tracks_publish htracks event
          refine ⟨later, ?_, hlater⟩
          simp only [after, hafter]
          show (bus.publish movedFrom event >>= fun result => .ok result.2) = _
          rw [hpublish]
          rfl

end Invariant

section Condition

-- How many of these calls publish an event of this type.
def publishes (kind : Kind) : List (Call Object State Payload) → Nat
  | [] => 0
  | .subscribe _ _ :: history => publishes kind history
  | .publish event :: history => if event.1 = kind then publishes kind history + 1 else publishes kind history

theorem left_iterate_reference (movedFrom : State → State) (object : Object) (count : Nat) :
    (Captured.left movedFrom)^[count] (.reference object) = .reference object :=
  Function.iterate_fixed rfl count

end Condition

section Samples

def sampleGenerator : EventIdGenerator Unit := ⟨[], List.nodup_nil⟩

end Samples

end HhctrlMgmt.Event
