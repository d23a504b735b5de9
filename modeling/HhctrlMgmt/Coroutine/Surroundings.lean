import HhctrlMgmt.Coroutine.Wp

namespace HhctrlMgmt.Coroutine

variable {S : Sig} {σ τ α : Type}

-- A component of a state, and how it is replaced.
structure Lens (τ σ : Type) where
  view : τ → σ
  update : σ → τ → τ
  view_update : ∀ part whole, view (update part whole) = part
  update_view : ∀ whole, update (view whole) whole = whole
  update_update : ∀ first second whole, update second (update first whole) = update second whole

-- Surroundings that do not look at the state of the coroutines.
structure Surroundings (S : Sig) where
  State : Type
  enter : State → S.Label → State
  issue : State → S.Query → State
  allows : State → (query : S.Query) → S.Answer query → Prop
  answer : State → (query : S.Query) → S.Answer query → State

namespace Surroundings

abbrev world (U : Surroundings S) (σ : Type) : World S σ where
  State := U.State
  enter := U.enter
  issue := U.issue
  allows state _ := U.allows state
  answer := U.answer

-- A coroutine that is not interrupted, with a condition on its value, and an
-- assertion about the surroundings that holds at its suspensions and at any
-- other end.
def post (U : Surroundings S) (I : U.State → Prop) (ret : α → U.State × σ → Prop) : Post (U.world σ) α :=
  Post.of ret (fun _ point => I point.1) fun point => I point.1

def Keeps (U : Surroundings S) (I : U.State → Prop) (ret : α → U.State × σ → Prop) (task : Coro S σ α)
    (point : U.State × σ) : Prop :=
  ∀ start, wp (Contract.alone fun point => I point.1) (U.post I ret) (W := U.world σ) task start point

section Rules

variable {U : Surroundings S} {I : U.State → Prop} {β : Type} {ret : α → U.State × σ → Prop}
  {point : U.State × σ}

theorem keeps_ret (value : α) (h : ret value point) : U.Keeps I ret (.ret value) point :=
  fun _ => h

theorem keeps_throw (error : S.Exn) (h : I point.1) : U.Keeps I ret (.throw error) point :=
  fun _ => h

theorem keeps_spin (h : I point.1) : U.Keeps I ret .spin point :=
  fun _ => h

theorem keeps_get (next : σ → Coro S σ α) (h : U.Keeps I ret (next point.2) point) :
    U.Keeps I ret (.get next) point := h

theorem keeps_set (state : σ) (next : Coro S σ α) (h : U.Keeps I ret next (point.1, state)) :
    U.Keeps I ret (.set state next) point := h

theorem keeps_enter (label : S.Label) (next : Coro S σ α)
    (h : U.Keeps I ret next (U.enter point.1 label, point.2)) : U.Keeps I ret (.enter label next) point := h

theorem keeps_await (query : S.Query) (next : S.Answer query → Coro S σ α) (hI : I (U.issue point.1 query))
    (h : ∀ answer, U.allows (U.issue point.1 query) query answer →
      U.Keeps I ret (next answer) (U.answer (U.issue point.1 query) query answer, point.2)) :
    U.Keeps I ret (.await query next) point := by
  intro start
  rw [wp_await_alone]
  exact ⟨hI, fun answer hallow => h answer hallow _⟩

theorem keeps_mono {ret' : α → U.State × σ → Prop} {task : Coro S σ α} (h : U.Keeps I ret task point)
    (hret : ∀ value later, ret value later → ret' value later) : U.Keeps I ret' task point :=
  fun start => wp_mono (h start) (fun value _ later hvalue => hret value later hvalue) (fun _ _ _ hthrow => hthrow)
    fun _ _ hspin => hspin

-- The rule for a call.
theorem keeps_bind {ret' : β → U.State × σ → Prop} {first : Coro S σ α} {next : α → Coro S σ β}
    (h : U.Keeps I ret first point)
    (hnext : ∀ value later, ret value later → U.Keeps I ret' (next value) later) :
    U.Keeps I ret' (first.bind next) point :=
  fun start => wp_call (h start) (fun value start later hvalue => hnext value later hvalue start)
    (fun _ _ _ hthrow => hthrow) fun _ _ hspin => hspin

theorem keeps_ofExcept {ret' : β → U.State × σ → Prop} (result : Except S.Exn α) (next : α → Coro S σ β)
    (hI : I point.1) (hok : ∀ value, result = .ok value → U.Keeps I ret' (next value) point) :
    U.Keeps I ret' ((Coro.ofExcept result).bind next) point :=
  fun start => wp_ofExcept result next start point (fun value hvalue => hok value hvalue start) fun _ _ => hI

-- A coroutine over a component leaves the rest of the state.
theorem keeps_zoom (ret : α → U.State × σ → Prop) (lens : Lens τ σ) (task : Coro S σ α) (whole : U.State × τ)
    (h : U.Keeps I ret task (whole.1, lens.view whole.2)) :
    U.Keeps I (fun value later => ret value (later.1, lens.view later.2) ∧
      later.2 = lens.update (lens.view later.2) whole.2) (task.zoom lens.view lens.update) whole := by
  intro start
  have hstart := h (start.1, lens.view start.2)
  clear h
  revert hstart
  generalize (start.1, lens.view start.2) = origin
  induction task generalizing origin start whole with
  | ret value => exact fun h => ⟨h, (lens.update_view whole.2).symm⟩
  | throw error => exact id
  | spin => exact id
  | get next ih => exact ih (lens.view whole.2) whole start origin
  | set state next ih =>
      intro h
      have hpart : wp (Contract.alone fun point => I point.1) (U.post I ret) (W := U.world σ) next origin
          (whole.1, lens.view (lens.update state whole.2)) := by
        rw [lens.view_update]
        exact h
      refine wp_mono (ih (whole.1, lens.update state whole.2) start origin hpart) (fun value _ later hlater => ?_)
        (fun _ _ _ hthrow => hthrow) fun _ _ hspin => hspin
      exact ⟨hlater.1, hlater.2.trans (lens.update_update _ _ _)⟩
  | enter label next ih => exact ih (U.enter whole.1 label, whole.2) start origin
  | await query next ih =>
      intro h
      rw [wp_await_alone] at h
      rw [Coro.zoom, wp_await_alone]
      exact ⟨h.1, fun answer hallow => ih answer (_, whole.2) _ _ (h.2 answer hallow)⟩

end Rules

-- Soundness: the assertion holds wherever the coroutine gets.
theorem Keeps.reach {U : Surroundings S} {I : U.State → Prop} {ret : α → U.State × σ → Prop} {task : Coro S σ α}
    {point : U.State × σ} (h : U.Keeps I ret task point) (hret : ∀ value later, ret value later → I later.1)
    {config : Config (U.world σ) α} (hreach : Reach (U.world σ) (settle (U.world σ) task point) config) :
    I config.point.1 := by
  rcases wp_stands (h point) hreach with ⟨_, _, -, hI⟩ | ⟨value, _, -, hvalue⟩ | ⟨_, _, -, hI⟩ | ⟨-, _, hI⟩
  · exact hI
  · exact hret value config.point hvalue
  · exact hI
  · exact hI

theorem Keeps.reach_ret {U : Surroundings S} {I : U.State → Prop} {ret : α → U.State × σ → Prop} {task : Coro S σ α}
    {point later : U.State × σ} {value : α} (h : U.Keeps I ret task point)
    (hreach : Reach (U.world σ) (settle (U.world σ) task point) ⟨later, .ret value⟩) : ret value later := by
  obtain ⟨_, hgood⟩ := wp_reach (h point) hreach
  exact hgood

end Surroundings

end HhctrlMgmt.Coroutine
