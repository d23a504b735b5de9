import Mathlib.Logic.Basic

namespace HhctrlMgmt.Common

variable {σ α : Type}

-- A loop whose rounds go on with a new state or end with a result. The fuel bounds the
-- rounds, and a round may use what is left of it; `none` is a round that needs more.
def loop (body : Nat → σ → Option (σ ⊕ α)) : Nat → σ → Option α
  | 0, _ => none
  | fuel + 1, state =>
      match body fuel state with
      | none => none
      | some (.inl next) => loop body fuel next
      | some (.inr result) => some result

-- A computation that ends if it gets enough fuel.
def Halts (computation : Nat → Option α) : Prop :=
  ∃ fuel result, computation fuel = some result

-- What a computation does after a loop, if that always ends.
theorem halts_bind_iff {β : Type} (first : Nat → Option α) (next : α → Option β)
    (hnext : ∀ value, ∃ result, next value = some result) :
    Halts (fun fuel => (first fuel).bind next) ↔ Halts first := by
  constructor
  · rintro ⟨fuel, result, hresult⟩
    obtain ⟨value, hvalue, -⟩ := Option.bind_eq_some_iff.mp hresult
    exact ⟨fuel, value, hvalue⟩
  · rintro ⟨fuel, value, hvalue⟩
    obtain ⟨result, hresult⟩ := hnext value
    exact ⟨fuel, result, Option.bind_eq_some_iff.mpr ⟨value, hvalue, hresult⟩⟩

section Rules

variable {body : Nat → σ → Option (σ ⊕ α)} (I : σ → Prop) (Q : α → Prop)

-- Partial correctness: an invariant of the rounds.
theorem loop_result (hround : ∀ fuel state outcome, I state → body fuel state = some outcome → outcome.elim I Q)
    (fuel : Nat) (state : σ) (h : I state) (result : α) (hresult : loop body fuel state = some result) : Q result := by
  induction fuel generalizing state with
  | zero => cases hresult
  | succ fuel ih =>
      unfold loop at hresult
      cases hbody : body fuel state with
      | none =>
          rw [hbody] at hresult
          cases hresult
      | some outcome =>
          have hnext := hround fuel state outcome h hbody
          rw [hbody] at hresult
          cases outcome with
          | inl next => exact ih next hnext hresult
          | inr last =>
              obtain rfl : last = result := Option.some.inj hresult
              exact hnext

-- Total correctness: each round ends the loop or makes the measure fall.
theorem loop_total (measure : σ → Nat) (need : Nat)
    (hround : ∀ fuel state, I state → need ≤ fuel → ∃ outcome, body fuel state = some outcome ∧
      outcome.elim (fun next => I next ∧ measure next < measure state) Q)
    (fuel : Nat) (state : σ) (h : I state) (hfuel : need + measure state < fuel) :
    ∃ result, loop body fuel state = some result ∧ Q result := by
  induction fuel generalizing state with
  | zero => omega
  | succ fuel ih =>
      obtain ⟨outcome, hbody, hnext⟩ := hround fuel state h (by omega)
      unfold loop
      rw [hbody]
      cases outcome with
      | inl next =>
          have hless : measure next < measure state := hnext.2
          exact ih next hnext.1 (by omega)
      | inr last => exact ⟨last, rfl, hnext⟩

end Rules

end HhctrlMgmt.Common
