import HhctrlMgmt.Coroutine.Serial
import HhctrlMgmt.Coroutine.Surroundings

namespace HhctrlMgmt.Coroutine

variable {S : Sig} {σ τ α β : Type}

-- Partial correctness of a coroutine that is not interrupted: where it returns or
-- throws, these conditions hold.
def Ends (W : World S σ) (ret : α → W.Point → Prop) (throw : W.Point → Prop) (task : Coro S σ α) (point : W.Point) : Prop :=
  ∀ start, wp (Contract.alone fun _ => True) (Post.of ret (fun _ later => throw later) fun _ => True) task start point

section Rules

variable {W : World S σ} {ret : α → W.Point → Prop} {throw : W.Point → Prop} {point : W.Point}

theorem ends_ret (value : α) (h : ret value point) : Ends W ret throw (.ret value) point :=
  fun _ => h

theorem ends_throw (error : S.Exn) (h : throw point) : Ends W ret throw (.throw error) point :=
  fun _ => h

theorem ends_spin : Ends W ret throw .spin point :=
  fun _ => trivial

theorem ends_get (next : σ → Coro S σ α) (h : Ends W ret throw (next point.2) point) :
    Ends W ret throw (.get next) point := h

theorem ends_set (state : σ) (next : Coro S σ α) (h : Ends W ret throw next (point.1, state)) :
    Ends W ret throw (.set state next) point := h

theorem ends_enter (label : S.Label) (next : Coro S σ α) (h : Ends W ret throw next (W.enter point.1 label, point.2)) :
    Ends W ret throw (.enter label next) point := h

theorem ends_await (query : S.Query) (next : S.Answer query → Coro S σ α)
    (h : ∀ answer, W.allows (W.issue point.1 query) point.2 query answer →
      Ends W ret throw (next answer) (W.answer (W.issue point.1 query) query answer, point.2)) :
    Ends W ret throw (.await query next) point := by
  intro start
  rw [wp_await_alone]
  exact ⟨trivial, fun answer hallow => h answer hallow _⟩

-- Where the segment began does not matter.
theorem ends_of_wp {task : Coro S σ α} {first : W.Point}
    (h : wp (Contract.alone fun _ => True) (Post.of ret (fun _ later => throw later) fun _ => True) task first point) :
    Ends W ret throw task point := by
  intro start
  induction task generalizing first point start with
  | ret _ => exact h
  | throw _ => exact h
  | spin => exact h
  | get next ih => exact ih _ h start
  | set state next ih => exact ih h start
  | enter label next ih => exact ih h start
  | await query next _ => exact ⟨trivial, h.2⟩

theorem ends_mono {ret' : α → W.Point → Prop} {throw' : W.Point → Prop} {task : Coro S σ α}
    (h : Ends W ret throw task point) (hret : ∀ value later, ret value later → ret' value later)
    (hthrow : ∀ later, throw later → throw' later) : Ends W ret' throw' task point :=
  fun start => wp_mono (h start) (fun value _ later => hret value later) (fun _ _ later => hthrow later) fun _ _ => id

theorem ends_bind {ret' : β → W.Point → Prop} {first : Coro S σ α} {next : α → Coro S σ β}
    (h : Ends W ret throw first point) (hnext : ∀ value later, ret value later → Ends W ret' throw (next value) later) :
    Ends W ret' throw (first.bind next) point :=
  fun start => wp_call (h start) (fun value start later hvalue => hnext value later hvalue start)
    (fun _ _ _ hthrow => hthrow) fun _ _ hspin => hspin

theorem ends_ofExcept (result : Except S.Exn α) (hthrow : throw point) (hok : ∀ value, ret value point) :
    Ends W ret throw (.ofExcept result) point := by
  cases result with
  | ok value => exact ends_ret value (hok value)
  | error error => exact ends_throw error hthrow

end Rules

-- A coroutine over a component leaves the rest of the state.
theorem ends_zoom {U : Surroundings S} {ret : α → U.State × σ → Prop} {throw : U.State → Prop} (lens : Lens τ σ)
    (task : Coro S σ α) (whole : U.State × τ)
    (h : Ends (U.world σ) ret (fun later => throw later.1) task (whole.1, lens.view whole.2)) :
    Ends (U.world τ)
      (fun value later => ret value (later.1, lens.view later.2) ∧ ∃ part, later.2 = lens.update part whole.2)
      (fun later => throw later.1 ∧ ∃ part, later.2 = lens.update part whole.2)
      (task.zoom lens.view lens.update) whole := by
  induction task generalizing whole with
  | ret value => exact ends_ret value ⟨h (whole.1, lens.view whole.2), _, (lens.update_view whole.2).symm⟩
  | throw error => exact ends_throw error ⟨h (whole.1, lens.view whole.2), _, (lens.update_view whole.2).symm⟩
  | spin => exact ends_spin
  | get next ih => exact ends_get _ (ih _ whole h)
  | set state next ih =>
      have hpart : Ends (U.world σ) ret (fun later => throw later.1) next
          (whole.1, lens.view (lens.update state whole.2)) := by
        rw [lens.view_update]
        exact h
      have hnext := ih (whole.1, lens.update state whole.2) hpart
      refine ends_get _ (ends_set _ _ (ends_mono hnext ?_ ?_))
      · rintro value later ⟨hret, part, hwhole⟩
        exact ⟨hret, part, hwhole.trans (lens.update_update _ _ _)⟩
      · rintro later ⟨hthrow, part, hwhole⟩
        exact ⟨hthrow, part, hwhole.trans (lens.update_update _ _ _)⟩
  | enter label next ih => exact ends_enter _ _ (ih (U.enter whole.1 label, whole.2) h)
  | await query next ih =>
      refine ends_await _ _ fun answer hallow => ih answer (U.answer (U.issue whole.1 query) query answer, whole.2) ?_
      have hwp := h (whole.1, lens.view whole.2)
      rw [wp_await_alone] at hwp
      exact ends_of_wp (hwp.2 answer hallow)

-- Soundness, for the end of a call.
theorem Ends.reach_ret {W : World S σ} {ret : α → W.Point → Prop} {throw : W.Point → Prop} {task : Coro S σ α}
    {point later : W.Point} {value : α} (h : Ends W ret throw task point)
    (hreach : Reach W (settle W task point) ⟨later, .ret value⟩) : ret value later := by
  obtain ⟨_, hgood⟩ := wp_reach (h point) hreach
  exact hgood

theorem Ends.reach_throw {W : World S σ} {ret : α → W.Point → Prop} {throw : W.Point → Prop} {task : Coro S σ α}
    {point later : W.Point} {error : S.Exn} (h : Ends W ret throw task point)
    (hreach : Reach W (settle W task point) ⟨later, .throw error⟩) : throw later := by
  obtain ⟨_, hgood⟩ := wp_reach (h point) hreach
  exact hgood

-- An assertion about the results holds between any two of a series of calls if each
-- of them preserves it.
theorem serial_ends {W : World S σ} {call : Coro S σ α → Prop} {initial : W.Point → Prop} {results : List α}
    {point : W.Point} (h : Serial W call initial results point) (J : List α → W.Point → Prop)
    (hinitial : ∀ point, initial point → J [] point)
    (hcall : ∀ results point task, call task → J results point →
      Ends W (fun value => J (value :: results)) (J results) task point) : J results point :=
  h.induct J hinitial fun results point task htask hJ => ⟨fun _ => True, hcall results point task htask hJ point⟩

end HhctrlMgmt.Coroutine
