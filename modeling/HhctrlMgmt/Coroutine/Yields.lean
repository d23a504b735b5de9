import HhctrlMgmt.Coroutine.Surroundings

namespace HhctrlMgmt.Coroutine.Surroundings

variable {S : Sig} {σ τ α β : Type} {U : Surroundings S} {respond : U.State → (query : S.Query) → S.Answer query}

-- The run of a coroutine over a component, as part of a run over the whole.
theorem exec_zoom (lens : Lens τ σ) (task : Coro S σ α) (whole : U.State × τ) :
    exec (U.world τ) (fun state _ => respond state) (task.zoom lens.view lens.update) whole =
      ((exec (U.world σ) (fun state _ => respond state) task (whole.1, lens.view whole.2)).1,
        (exec (U.world σ) (fun state _ => respond state) task (whole.1, lens.view whole.2)).2.1,
        lens.update (exec (U.world σ) (fun state _ => respond state) task (whole.1, lens.view whole.2)).2.2
          whole.2) := by
  have hkept (whole : U.State × τ) : (whole.1, lens.update (lens.view whole.2) whole.2) = whole := by
    rw [lens.update_view]
  induction task generalizing whole with
  | ret value => exact congrArg (Prod.mk (Outcome.ret value)) (hkept whole).symm
  | throw error => exact congrArg (Prod.mk (Outcome.throw error)) (hkept whole).symm
  | spin => exact congrArg (Prod.mk Outcome.spin) (hkept whole).symm
  | get next ih => exact ih (lens.view whole.2) whole
  | set state next ih =>
      refine (ih (whole.1, lens.update state whole.2)).trans ?_
      dsimp only
      rw [lens.view_update, lens.update_update]
      rfl
  | enter label next ih => exact ih (U.enter whole.1 label, whole.2)
  | await query next ih => exact ih _ (_, whole.2)

variable (U respond) in
-- Total correctness of the run in which a function of the surroundings gives every answer.
def Yields (Q : α → U.State × σ → Prop) (task : Coro S σ α) (point : U.State × σ) : Prop :=
  ∃ value later, exec (U.world σ) (fun state _ => respond state) task point = (.ret value, later) ∧ Q value later

section Rules

variable {Q : α → U.State × σ → Prop} {point : U.State × σ}

theorem yields_ret (value : α) (h : Q value point) : U.Yields respond Q (.ret value) point :=
  ⟨value, point, rfl, h⟩

theorem yields_bind {R : β → U.State × σ → Prop} {first : Coro S σ β} {next : β → Coro S σ α}
    (h : U.Yields respond R first point) (hnext : ∀ value later, R value later → U.Yields respond Q (next value) later) :
    U.Yields respond Q (first.bind next) point := by
  obtain ⟨value, later, hrun, hlater⟩ := h
  obtain ⟨result, last, hlast, hresult⟩ := hnext value later hlater
  refine ⟨result, last, ?_, hresult⟩
  rw [exec_bind, hrun]
  exact hlast

theorem yields_mono {R : α → U.State × σ → Prop} {task : Coro S σ α} (h : U.Yields respond R task point)
    (hlater : ∀ value later, R value later → Q value later) : U.Yields respond Q task point := by
  obtain ⟨value, later, hrun, hvalue⟩ := h
  exact ⟨value, later, hrun, hlater value later hvalue⟩

theorem yields_zoom (lens : Lens τ σ) {task : Coro S σ α} {whole : U.State × τ}
    (h : U.Yields respond Q task (whole.1, lens.view whole.2)) :
    U.Yields respond (fun value later => Q value (later.1, lens.view later.2) ∧
      later.2 = lens.update (lens.view later.2) whole.2) (task.zoom lens.view lens.update) whole := by
  obtain ⟨value, later, hrun, hvalue⟩ := h
  refine ⟨value, (later.1, lens.update later.2 whole.2), ?_, ?_, ?_⟩
  · rw [exec_zoom, hrun]
  · rw [lens.view_update]
    exact hvalue
  · rw [lens.view_update]

end Rules

end HhctrlMgmt.Coroutine.Surroundings
