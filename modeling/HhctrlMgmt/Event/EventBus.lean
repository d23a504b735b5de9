import Mathlib.Data.List.Nodup

namespace HhctrlMgmt.Event

section Model

-- The types of events, what an event of each type carries, the objects that handlers
-- can be, and the states of the handlers that are held by value, of all their types.
variable {Kind Object State : Type} {Payload : Kind → Type} [DecidableEq Kind]

inductive BusExn where
  | runtimeError (what : String)
  -- a static_cast to a type that the event does not have
  | badCast
deriving DecidableEq, Repr

-- The event types that have got an id, in the order of their ids. The counter of
-- EventIdGenerator starts at 1.
structure EventIdGenerator (Kind : Type) where
  seen : List Kind
  nodup : seen.Nodup

namespace EventIdGenerator

-- get<E>(): the static variable of a type is initialised when it is first needed.
def get (kind : Kind) (generator : EventIdGenerator Kind) : Nat × EventIdGenerator Kind :=
  if hseen : kind ∈ generator.seen then (generator.seen.idxOf kind + 1, generator)
  else (generator.seen.length + 1, ⟨generator.seen ++ [kind],
    List.nodup_append.mpr ⟨generator.nodup, List.nodup_singleton kind, fun _ hmem _ hother heq =>
      hseen (List.mem_singleton.mp hother ▸ heq ▸ hmem)⟩⟩)

end EventIdGenerator

-- An event object. Its base class holds the id of its type.
structure BaseEvent (Payload : Kind → Type) where
  eventId : Nat
  kind : Kind
  payload : Payload kind

-- What is passed to subscribe.
inductive Handler (Object State : Type) where
  | lvalue (object : Object)
  | temporary (state : State)
deriving DecidableEq, Repr

-- std::tuple<Handler&> or std::tuple<Handler>
inductive Captured (Object State : Type) where
  | reference (object : Object)
  | value (state : State)
deriving DecidableEq, Repr

def captureFwd : Handler Object State → Captured Object State
  | .lvalue object => .reference object
  | .temporary state => .value state

namespace Captured

variable (movedFrom : State → State)

-- What std::move leaves in the tuple it takes the handler from.
def left : Captured Object State → Captured Object State
  | reference object => reference object
  | value state => value (movedFrom state)

-- std::move: what arrives, and what stays behind.
def move (captured : Captured Object State) : Captured Object State × Captured Object State :=
  (captured, captured.left movedFrom)

end Captured

-- The closure slot_wrapper.
structure SlotWrapper (Kind Object State : Type) where
  eventId : Nat
  -- Event_t
  kind : Kind
  handlerAsTuple : Captured Object State

-- A handler that is invoked, with its copy of the event.
structure Invocation (Object State : Type) (Payload : Kind → Type) where
  handler : Captured Object State
  event : Sigma Payload

-- The two inner closures are made in this call: spawn_coro_wrapper takes the tuple from
-- the slot, and event_handler_wrapper takes it from there.
def SlotWrapper.call (movedFrom : State → State) (slot : SlotWrapper Kind Object State) (event : BaseEvent Payload) :
    Except BusExn (Invocation Object State Payload × SlotWrapper Kind Object State) := do
  if slot.eventId ≠ event.eventId then
    throw (.runtimeError "Event cannot be handled")
  if slot.kind ≠ event.kind then
    throw .badCast
  let (spawnCoroWrapper, slotTuple) := slot.handlerAsTuple.move movedFrom
  let (eventHandlerWrapper, _) := spawnCoroWrapper.move movedFrom
  return (⟨eventHandlerWrapper, ⟨event.kind, event.payload⟩⟩, { slot with handlerAsTuple := slotTuple })

-- The bus, and the generator of the ids.
structure AsyncEventBus (Kind Object State : Type) where
  generator : EventIdGenerator Kind
  handlers : Nat → List (SlotWrapper Kind Object State)

namespace AsyncEventBus

def setHandlers (eventId : Nat) (slots : List (SlotWrapper Kind Object State)) (bus : AsyncEventBus Kind Object State) :
    AsyncEventBus Kind Object State :=
  { bus with handlers := fun other => if other = eventId then slots else bus.handlers other }

omit [DecidableEq Kind] in
@[simp] theorem setHandlers_generator (eventId : Nat) (slots : List (SlotWrapper Kind Object State))
    (bus : AsyncEventBus Kind Object State) : (bus.setHandlers eventId slots).generator = bus.generator := rfl

omit [DecidableEq Kind] in
@[simp] theorem setHandlers_handlers (eventId : Nat) (slots : List (SlotWrapper Kind Object State))
    (bus : AsyncEventBus Kind Object State) (other : Nat) :
    (bus.setHandlers eventId slots).handlers other = if other = eventId then slots else bus.handlers other := rfl

-- subscribe<E>
def subscribe (kind : Kind) (handler : Handler Object State) (bus : AsyncEventBus Kind Object State) :
    AsyncEventBus Kind Object State :=
  let (eventId, generator) := bus.generator.get kind
  setHandlers eventId (bus.handlers eventId ++ [⟨eventId, kind, captureFwd handler⟩]) { bus with generator := generator }

-- The signal calls its slots in place, in the order of their connection.
def callSlots (movedFrom : State → State) (event : BaseEvent Payload) : List (SlotWrapper Kind Object State) →
    Except BusExn (List (Invocation Object State Payload) × List (SlotWrapper Kind Object State))
  | [] => return ([], [])
  | slot :: slots => do
    let (invocation, left) ← slot.call movedFrom event
    let (invocations, lefts) ← callSlots movedFrom event slots
    return (invocation :: invocations, left :: lefts)

-- publish, of an event that has just been made
def publish (movedFrom : State → State) (event : Sigma Payload) (bus : AsyncEventBus Kind Object State) :
    Except BusExn (List (Invocation Object State Payload) × AsyncEventBus Kind Object State) := do
  let (eventId, generator) := bus.generator.get event.1
  let (invocations, slots) ← callSlots movedFrom ⟨eventId, event.1, event.2⟩ (bus.handlers eventId)
  return (invocations, setHandlers eventId slots { bus with generator := generator })

end AsyncEventBus

-- The calls to a bus.
inductive Call (Object State : Type) (Payload : Kind → Type) where
  | subscribe (kind : Kind) (handler : Handler Object State)
  | publish (event : Sigma Payload)

-- A new bus after these calls, the latest first. Other event types may have got their
-- ids before.
def after (movedFrom : State → State) (generator : EventIdGenerator Kind) :
    List (Call Object State Payload) → Except BusExn (AsyncEventBus Kind Object State)
  | [] => return ⟨generator, fun _ => []⟩
  | .subscribe kind handler :: history => do
    let bus ← after movedFrom generator history
    return bus.subscribe kind handler
  | .publish event :: history => do
    let bus ← after movedFrom generator history
    let (_, bus) ← bus.publish movedFrom event
    return bus

end Model

end HhctrlMgmt.Event
