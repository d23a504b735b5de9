import HhctrlMgmt.Common.Exception
import HhctrlMgmt.Coroutine.World
import Mathlib.Data.List.Nodup
import Mathlib.Logic.Function.Basic

namespace HhctrlMgmt.Command

open Coroutine

section Model

-- The types of commands, what a command of each type carries, and what the handlers await.
variable {Kind σ Label Query : Type} {Payload : Kind → Type} {Answer : Query → Type} [DecidableEq Kind]

abbrev commandSig (Label Query : Type) (Answer : Query → Type) : Sig := ⟨Exn, Label, Query, Answer⟩

-- The command types that have got an id, in the order of their ids. The counter starts at 0.
structure CommandIdGenerator (Kind : Type) where
  seen : List Kind
  nodup : seen.Nodup

namespace CommandIdGenerator

-- get<Command>(): the static variable of a type is initialised when it is first needed.
def get (kind : Kind) (generator : CommandIdGenerator Kind) : Nat × CommandIdGenerator Kind :=
  if hseen : kind ∈ generator.seen then (generator.seen.idxOf kind, generator)
  else (generator.seen.length, ⟨generator.seen ++ [kind], generator.nodup.append (List.nodup_singleton kind)
    (List.disjoint_singleton.mpr hseen)⟩)

end CommandIdGenerator

structure BaseCommand (Payload : Kind → Type) where
  id : Nat
  kind : Kind
  payload : Payload kind

-- The constructor of GenericCommand.
def BaseCommand.new (command : Sigma Payload) (generator : CommandIdGenerator Kind) :
    BaseCommand Payload × CommandIdGenerator Kind :=
  let (id, generator) := generator.get command.1
  (⟨id, command.1, command.2⟩, generator)

-- The static variables, and whatever else the handlers work on.
abbrev CommandM (Label Query : Type) (Answer : Query → Type) (Kind σ α : Type) :=
  Coro (commandSig Label Query Answer) (CommandIdGenerator Kind × σ) α

def getId (kind : Kind) : CommandM Label Query Answer Kind σ Nat :=
  .get fun state => .set ((state.1.get kind).2, state.2) (.ret (state.1.get kind).1)

-- A handler is given a reference to the object that has been dispatched.
abbrev Handler (Label Query : Type) (Answer : Query → Type) (σ : Type) (Payload : Kind → Type) :=
  BaseCommand Payload → CommandM Label Query Answer Kind σ Unit

structure AsyncHandlerWrapper (Label Query : Type) (Answer : Query → Type) (σ : Type) (Payload : Kind → Type) where
  handlerWrapper : Handler Label Query Answer σ Payload

namespace AsyncHandlerWrapper

-- What the wrapper compares: `not` binds more tightly than `==`, and its bool is converted to
-- an id.
def guard (baseCmdId commandId : Nat) : Bool :=
  (!(baseCmdId != 0)).toNat == commandId

-- The static_cast to the type of the command is not checked.
def new (kind : Kind) (handler : Handler Label Query Answer σ Payload) :
    AsyncHandlerWrapper Label Query Answer σ Payload where
  handlerWrapper baseCmd := do
    let commandId ← getId kind
    if guard baseCmd.id commandId then
      .throw (.runtimeError "Command cannot be handled by this particular handler.")
    handler baseCmd

def asyncDispatch (command : BaseCommand Payload) (wrapper : AsyncHandlerWrapper Label Query Answer σ Payload) :
    CommandM Label Query Answer Kind σ Unit :=
  wrapper.handlerWrapper command

end AsyncHandlerWrapper

structure AsyncCommandDispatcher (Label Query : Type) (Answer : Query → Type) (σ : Type) (Payload : Kind → Type) where
  handlers : Nat → Option (AsyncHandlerWrapper Label Query Answer σ Payload)

namespace AsyncCommandDispatcher

def addHandler (kind : Kind) (handler : Handler Label Query Answer σ Payload)
    (dispatcher : AsyncCommandDispatcher Label Query Answer σ Payload) (generator : CommandIdGenerator Kind) :
    Except Exn (AsyncCommandDispatcher Label Query Answer σ Payload) × CommandIdGenerator Kind :=
  let (commandId, generator) := generator.get kind
  if (dispatcher.handlers commandId).isSome then
    (.error (.runtimeError "Handler for requested command already exists"), generator)
  else (.ok ⟨Function.update dispatcher.handlers commandId (some (.new kind handler))⟩, generator)

-- The type of the command is a template parameter.
def asyncDispatch (command : BaseCommand Payload) (dispatcher : AsyncCommandDispatcher Label Query Answer σ Payload) :
    CommandM Label Query Answer Kind σ Unit := do
  let commandId ← getId command.kind
  match dispatcher.handlers commandId with
  | none => .throw (.runtimeError "Cannot find handler for requested command")
  | some handler => handler.asyncDispatch command

end AsyncCommandDispatcher

section Guard

variable (W : World (commandSig Label Query Answer) (CommandIdGenerator Kind × σ)) (point : W.Point) (kind : Kind)
  (command : BaseCommand Payload)

-- The id that the type of a wrapper has, and the state in which it has it.
def idOf : Nat := (point.2.1.get kind).1

def withId : W.Point := (point.1, ((point.2.1.get kind).2, point.2.2))

-- The command gets to the handler, whichever that is.
def Runs : Prop :=
  ∀ handler : Handler Label Query Answer σ Payload,
    settle W ((AsyncHandlerWrapper.new kind handler).asyncDispatch command) point =
      settle W (handler command) (withId W point kind)

-- The handler does not matter.
def Throws : Prop :=
  ∀ handler : Handler Label Query Answer σ Payload,
    settle W ((AsyncHandlerWrapper.new kind handler).asyncDispatch command) point =
      ⟨withId W point kind, .throw (.runtimeError "Command cannot be handled by this particular handler.")⟩

theorem settle_asyncDispatch (handler : Handler Label Query Answer σ Payload) :
    settle W ((AsyncHandlerWrapper.new kind handler).asyncDispatch command) point =
      if AsyncHandlerWrapper.guard command.id (idOf W point kind) then
        ⟨withId W point kind, .throw (.runtimeError "Command cannot be handled by this particular handler.")⟩
      else settle W (handler command) (withId W point kind) := by
  show settle W (if AsyncHandlerWrapper.guard command.id (idOf W point kind) then _ else _) (withId W point kind) = _
  by_cases hguard : AsyncHandlerWrapper.guard command.id (idOf W point kind) = true
  · rw [if_pos hguard, if_pos hguard]
    rfl
  · rw [if_neg hguard, if_neg hguard]

theorem runs_iff : Runs W point kind command ↔ AsyncHandlerWrapper.guard command.id (idOf W point kind) = false := by
  unfold Runs
  simp only [settle_asyncDispatch]
  cases AsyncHandlerWrapper.guard command.id (idOf W point kind) with
  | false => exact iff_of_true (fun _ => rfl) rfl
  | true =>
      apply iff_of_false _ nofun
      intro hruns
      have hreturns := congrArg Config.task (hruns fun _ => .ret ())
      cases hreturns

theorem throws_iff : Throws W point kind command ↔ AsyncHandlerWrapper.guard command.id (idOf W point kind) = true := by
  unfold Throws
  simp only [settle_asyncDispatch]
  cases AsyncHandlerWrapper.guard command.id (idOf W point kind) with
  | true => exact iff_of_true (fun _ => rfl) rfl
  | false =>
      apply iff_of_false _ Bool.false_ne_true
      intro hthrows
      have hreturns := congrArg Config.task (hthrows fun _ => .ret ())
      cases hreturns

omit [DecidableEq Kind] in
theorem guard_iff (baseCmdId commandId : Nat) : AsyncHandlerWrapper.guard baseCmdId commandId = true ↔
    baseCmdId = 0 ∧ commandId = 1 ∨ baseCmdId ≠ 0 ∧ commandId = 0 := by
  unfold AsyncHandlerWrapper.guard
  cases baseCmdId with
  | zero =>
      show (1 == commandId) = true ↔ _
      rw [beq_iff_eq]
      omega
  | succ n =>
      show (0 == commandId) = true ↔ _
      rw [beq_iff_eq]
      omega

omit [DecidableEq Kind] in
theorem guard_self (id : Nat) : AsyncHandlerWrapper.guard id id = false := by
  rw [← Bool.not_eq_true, guard_iff]
  omega

-- Of the foreign commands, a wrapper turns away those that come to the first type, and the
-- first one where it comes to the second type.
theorem wrapper_iff :
    ((Runs W point kind command ↔ command.id = idOf W point kind) ∧
      (command.id ≠ idOf W point kind → Throws W point kind command)) ↔
      command.id = idOf W point kind ∨ idOf W point kind = 0 ∨ idOf W point kind = 1 ∧ command.id = 0 := by
  rw [runs_iff, throws_iff, ← Bool.not_eq_true, guard_iff]
  omega

end Guard

section Samples

inductive SampleKind where
  | first
  | second
  | third
deriving DecidableEq

-- All three have got their ids.
def sampleGenerator : CommandIdGenerator SampleKind :=
  ((((⟨[], List.nodup_nil⟩ : CommandIdGenerator SampleKind).get .first).2.get .second).2.get .third).2

def sampleWorld : World (commandSig Empty Empty fun _ => Unit) (CommandIdGenerator SampleKind × Unit) where
  State := Unit
  enter state _ := state
  issue state _ := state
  allows _ _ _ _ := True
  answer state _ _ := state

def thirdCommand : BaseCommand fun _ : SampleKind => Unit :=
  (BaseCommand.new ⟨.third, ()⟩ sampleGenerator).1

-- The wrapper of the second type runs its handler on a command of the third.
theorem second_runs_third :
    ¬((Runs sampleWorld ((), (sampleGenerator, ())) .second thirdCommand ↔
        thirdCommand.id = idOf sampleWorld ((), (sampleGenerator, ())) .second) ∧
      (thirdCommand.id ≠ idOf sampleWorld ((), (sampleGenerator, ())) .second →
        Throws sampleWorld ((), (sampleGenerator, ())) .second thirdCommand)) := by
  rintro ⟨hruns, -⟩
  have hforeign : Runs sampleWorld ((), (sampleGenerator, ())) .second thirdCommand := fun handler => rfl
  exact absurd (hruns.mp hforeign) (by decide)

end Samples

section Ids

theorem get_of_mem (kind : Kind) (generator : CommandIdGenerator Kind) (hseen : kind ∈ generator.seen) :
    generator.get kind = (generator.seen.idxOf kind, generator) :=
  dif_pos hseen

theorem get_new (kind : Kind) (generator : CommandIdGenerator Kind) (hnew : kind ∉ generator.seen) :
    (generator.get kind).1 = generator.seen.length ∧ (generator.get kind).2.seen = generator.seen ++ [kind] := by
  unfold CommandIdGenerator.get
  rw [dif_neg hnew]
  exact ⟨rfl, rfl⟩

-- A type has its id from then on.
theorem get_id (kind : Kind) (generator : CommandIdGenerator Kind) :
    kind ∈ (generator.get kind).2.seen ∧ (generator.get kind).1 = (generator.get kind).2.seen.idxOf kind := by
  by_cases hseen : kind ∈ generator.seen
  · rw [get_of_mem kind generator hseen]
    exact ⟨hseen, rfl⟩
  · obtain ⟨hid, hlater⟩ := get_new kind generator hseen
    rw [hid, hlater, List.idxOf_append_of_notMem hseen, List.idxOf_cons_self]
    exact ⟨List.mem_append_right _ List.mem_cons_self, rfl⟩

theorem get_keeps (kind other : Kind) (generator : CommandIdGenerator Kind) (hother : other ∈ generator.seen) :
    other ∈ (generator.get kind).2.seen ∧ (generator.get kind).2.seen.idxOf other = generator.seen.idxOf other := by
  by_cases hseen : kind ∈ generator.seen
  · rw [get_of_mem kind generator hseen]
    exact ⟨hother, rfl⟩
  · rw [(get_new kind generator hseen).2, List.idxOf_append_of_mem hother]
    exact ⟨List.mem_append_left _ hother, rfl⟩

end Ids

section Dispatch

-- Handlers are added, and other command types get their ids.
inductive Made : AsyncCommandDispatcher Label Query Answer σ Payload → CommandIdGenerator Kind →
    List (Kind × Handler Label Query Answer σ Payload) → Prop
  | empty (generator : CommandIdGenerator Kind) : Made ⟨fun _ => none⟩ generator []
  | get (dispatcher generator added) (kind : Kind) (h : Made dispatcher generator added) :
      Made dispatcher (generator.get kind).2 added
  | add (dispatcher generator added later last) (kind : Kind) (handler : Handler Label Query Answer σ Payload)
      (h : Made dispatcher generator added) (hadd : dispatcher.addHandler kind handler generator = (.ok later, last)) :
      Made later last ((kind, handler) :: added)

-- The wrappers stand under the ids of their types.
structure Kept (dispatcher : AsyncCommandDispatcher Label Query Answer σ Payload) (generator : CommandIdGenerator Kind)
    (added : List (Kind × Handler Label Query Answer σ Payload)) : Prop where
  present : ∀ entry ∈ added, entry.1 ∈ generator.seen ∧
    dispatcher.handlers (generator.seen.idxOf entry.1) = some (.new entry.1 entry.2)
  named : ∀ id wrapper, dispatcher.handlers id = some wrapper →
    ∃ entry ∈ added, id = generator.seen.idxOf entry.1

variable {dispatcher : AsyncCommandDispatcher Label Query Answer σ Payload} {generator : CommandIdGenerator Kind}
  {added : List (Kind × Handler Label Query Answer σ Payload)}

theorem Kept.get (h : Kept dispatcher generator added) (kind : Kind) :
    Kept dispatcher (generator.get kind).2 added where
  present entry hentry := by
    obtain ⟨hseen, hwrapper⟩ := h.present entry hentry
    obtain ⟨hlater, hid⟩ := get_keeps kind entry.1 generator hseen
    rw [hid]
    exact ⟨hlater, hwrapper⟩
  named id wrapper hwrapper := by
    obtain ⟨entry, hentry, hid⟩ := h.named id wrapper hwrapper
    rw [← (get_keeps kind entry.1 generator (h.present entry hentry).1).2] at hid
    exact ⟨entry, hentry, hid⟩

theorem Kept.add (h : Kept dispatcher generator added) (kind : Kind) (handler : Handler Label Query Answer σ Payload)
    (hseen : kind ∈ generator.seen) (hfree : dispatcher.handlers (generator.seen.idxOf kind) = none) :
    Kept ⟨Function.update dispatcher.handlers (generator.seen.idxOf kind) (some (.new kind handler))⟩ generator
      ((kind, handler) :: added) where
  present entry hentry := by
    rcases List.mem_cons.mp hentry with rfl | hentry
    · exact ⟨hseen, Function.update_self ..⟩
    · obtain ⟨hmem, hwrapper⟩ := h.present entry hentry
      have hother : generator.seen.idxOf entry.1 ≠ generator.seen.idxOf kind := by
        intro hid
        rw [hid, hfree] at hwrapper
        cases hwrapper
      exact ⟨hmem, (Function.update_of_ne hother ..).trans hwrapper⟩
  named id wrapper hwrapper := by
    by_cases hid : id = generator.seen.idxOf kind
    · exact ⟨(kind, handler), List.mem_cons_self, hid⟩
    · have hbefore := (Function.update_of_ne hid ..).symm.trans hwrapper
      obtain ⟨entry, hentry, hid⟩ := h.named id wrapper hbefore
      exact ⟨entry, List.mem_cons_of_mem _ hentry, hid⟩

theorem Made.kept (h : Made dispatcher generator added) : Kept dispatcher generator added := by
  induction h with
  | empty generator => exact ⟨fun _ hentry => absurd hentry List.not_mem_nil, nofun⟩
  | get dispatcher generator added kind _ ih => exact ih.get kind
  | add dispatcher generator added later last kind handler _ hadd ih =>
      have hlater := ih.get kind
      obtain ⟨hseen, hid⟩ := get_id kind generator
      unfold AsyncCommandDispatcher.addHandler at hadd
      dsimp only at hadd
      rw [hid] at hadd
      split_ifs at hadd with hsome
      · cases hadd
      · obtain ⟨hdispatcher, rfl⟩ := Prod.mk.inj hadd
        obtain rfl := Except.ok.inj hdispatcher
        exact hlater.add kind handler hseen (Option.not_isSome_iff_eq_none.mp hsome)

-- The dispatcher finds the wrapper of the command's own type, which lets it pass.
theorem settle_dispatch (W : World (commandSig Label Query Answer) (CommandIdGenerator Kind × σ)) (state : W.State)
    (rest : σ) (command : BaseCommand Payload) (hseen : command.kind ∈ generator.seen)
    (hid : command.id = generator.seen.idxOf command.kind) (hkept : Kept dispatcher generator added) :
    (∃ entry ∈ added, entry.1 = command.kind ∧
      settle W (dispatcher.asyncDispatch command) (state, (generator, rest)) =
        settle W (entry.2 command) (state, (generator, rest))) ∨
    (∀ entry ∈ added, entry.1 ≠ command.kind) ∧
      settle W (dispatcher.asyncDispatch command) (state, (generator, rest)) =
        ⟨(state, (generator, rest)), .throw (.runtimeError "Cannot find handler for requested command")⟩ := by
  have hget := get_of_mem command.kind generator hseen
  have hfound : settle W (dispatcher.asyncDispatch command) (state, (generator, rest)) =
      settle W (match dispatcher.handlers command.id with
        | none => .throw (.runtimeError "Cannot find handler for requested command")
        | some handler => handler.asyncDispatch command) (state, (generator, rest)) := by
    show settle W (match dispatcher.handlers (generator.get command.kind).1 with
      | none => _
      | some handler => _) (state, ((generator.get command.kind).2, rest)) = _
    rw [hget, hid]
  rw [hfound]
  cases hwrapper : dispatcher.handlers command.id with
  | none =>
      refine Or.inr ⟨fun entry hentry hkind => ?_, rfl⟩
      have hpresent := (hkept.present entry hentry).2
      rw [hkind, ← hid, hwrapper] at hpresent
      cases hpresent
  | some wrapper =>
      obtain ⟨entry, hentry, hnamed⟩ := hkept.named command.id wrapper hwrapper
      have hkind : entry.1 = command.kind := by
        rw [hid] at hnamed
        exact ((List.idxOf_inj hseen).mp hnamed).symm
      have hpresent := (hkept.present entry hentry).2
      rw [← hnamed, hwrapper] at hpresent
      have hown : AsyncHandlerWrapper.guard command.id (idOf W (state, (generator, rest)) entry.1) = false := by
        unfold idOf
        rw [hkind, hget, ← hid]
        exact guard_self command.id
      have hstate : withId W (state, (generator, rest)) entry.1 = (state, (generator, rest)) := by
        unfold withId
        rw [hkind, hget]
      refine Or.inl ⟨entry, hentry, hkind, ?_⟩
      obtain rfl := Option.some.inj hpresent
      dsimp only
      rw [settle_asyncDispatch, hown, hstate]
      rfl

-- A command that has been made and is dispatched comes to the handler that has been added for
-- its type.
theorem dispatch_own (W : World (commandSig Label Query Answer) (CommandIdGenerator Kind × σ)) (state : W.State)
    (rest : σ) (h : Made dispatcher generator added) (payload : Sigma Payload) :
    let (command, later) := BaseCommand.new payload generator
    (∃ entry ∈ added, entry.1 = payload.1 ∧
      settle W (dispatcher.asyncDispatch command) (state, (later, rest)) =
        settle W (entry.2 command) (state, (later, rest))) ∨
    (∀ entry ∈ added, entry.1 ≠ payload.1) ∧
      settle W (dispatcher.asyncDispatch command) (state, (later, rest)) =
        ⟨(state, (later, rest)), .throw (.runtimeError "Cannot find handler for requested command")⟩ := by
  obtain ⟨hseen, hid⟩ := get_id payload.1 generator
  exact settle_dispatch W state rest (BaseCommand.new payload generator).1 hseen hid (h.kept.get payload.1)

end Dispatch

end Model

end HhctrlMgmt.Command
