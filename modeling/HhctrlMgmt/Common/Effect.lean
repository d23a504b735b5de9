import Mathlib.Logic.Basic

namespace HhctrlMgmt.Common

variable {ε σ α β : Type}

section Returns

-- If the task returns, the condition holds of its value and of the state it leaves.
def Returns (task : EStateM ε σ α) (state : σ) (Q : α → σ → Prop) : Prop :=
  ∀ value after, task.run state = .ok value after → Q value after

variable {Q : α → σ → Prop} {state : σ}

theorem returns_pure (value : α) (h : Q value state) : Returns (pure value : EStateM ε σ α) state Q := by
  intro result after hrun
  cases hrun
  exact h

theorem returns_throw (error : ε) : Returns (throw error : EStateM ε σ α) state Q :=
  fun _ _ => nofun

theorem returns_bind {P : β → σ → Prop} {first : EStateM ε σ β} {next : β → EStateM ε σ α}
    (hfirst : Returns first state P) (hnext : ∀ value after, P value after → Returns (next value) after Q) :
    Returns (first >>= next) state Q := by
  intro result last hrun
  rw [EStateM.run_bind] at hrun
  cases hvalue : first.run state with
  | error thrown after =>
      rw [hvalue] at hrun
      cases hrun
  | ok value after =>
      rw [hvalue] at hrun
      exact hnext value after (hfirst value after hvalue) result last hrun

theorem returns_get (next : σ → EStateM ε σ α) (h : Returns (next state) state Q) :
    Returns (get >>= next) state Q := h

theorem returns_modify (change : σ → σ) (next : PUnit → EStateM ε σ α)
    (h : Returns (next ⟨⟩) (change state) Q) : Returns (modify change >>= next) state Q := h

theorem returns_modifyGet (change : σ → β × σ) (next : β → EStateM ε σ α)
    (h : Returns (next (change state).1) (change state).2 Q) :
    Returns (modifyGet change >>= next) state Q := h

theorem Returns.mono {P : α → σ → Prop} {task : EStateM ε σ α} (h : Returns task state P)
    (himp : ∀ value after, P value after → Q value after) : Returns task state Q :=
  fun value after hrun => himp value after (h value after hrun)

-- A loop that carries a value: the invariant speaks of what is still to come.
theorem returns_foldlM {γ : Type} (I : List γ → β → σ → Prop) (body : β → γ → EStateM ε σ β)
    (hbody : ∀ item rest value state, I (item :: rest) value state → Returns (body value item) state (I rest))
    (items : List γ) (value : β) (state : σ) (h : I items value state) :
    Returns (items.foldlM body value) state (I []) := by
  induction items generalizing value state with
  | nil => exact returns_pure value h
  | cons item items ih =>
      rw [List.foldlM_cons]
      exact returns_bind (hbody item items value state h) fun next after hnext => ih next after hnext

end Returns

section Leaves

-- The state that a task has left, whether it has returned or thrown.
def final : EStateM.Result ε σ α → σ
  | .ok _ after => after
  | .error _ after => after

-- What holds of the state before and after a task.
def Leaves (R : σ → σ → Prop) (task : EStateM ε σ α) : Prop :=
  ∀ state, R state (final (task.run state))

variable {R : σ → σ → Prop}

theorem leaves_pure (hrefl : ∀ state, R state state) (value : α) : Leaves R (pure value : EStateM ε σ α) :=
  hrefl

theorem leaves_throw (hrefl : ∀ state, R state state) (error : ε) : Leaves R (throw error : EStateM ε σ α) :=
  hrefl

theorem leaves_bind (htrans : ∀ first second third, R first second → R second third → R first third)
    {first : EStateM ε σ β} {next : β → EStateM ε σ α} (hfirst : Leaves R first)
    (hnext : ∀ value, Leaves R (next value)) : Leaves R (first >>= next) := by
  intro state
  have hbefore := hfirst state
  rw [EStateM.run_bind]
  cases hrun : first.run state with
  | error thrown after =>
      rw [hrun] at hbefore
      exact hbefore
  | ok value after =>
      rw [hrun] at hbefore
      exact htrans _ _ _ hbefore (hnext value after)

theorem leaves_ite (condition : Prop) [Decidable condition] {yes no : EStateM ε σ α} (hyes : Leaves R yes)
    (hno : Leaves R no) : Leaves R (if condition then yes else no) := by
  by_cases hcondition : condition
  · rw [if_pos hcondition]
    exact hyes
  · rw [if_neg hcondition]
    exact hno

theorem leaves_foldlM {γ : Type} (hrefl : ∀ state, R state state)
    (htrans : ∀ first second third, R first second → R second third → R first third)
    (items : List γ) (body : β → γ → EStateM ε σ β) (hbody : ∀ value item, Leaves R (body value item)) (value : β) :
    Leaves R (items.foldlM body value) := by
  induction items generalizing value with
  | nil => exact leaves_pure hrefl value
  | cons item items ih =>
      rw [List.foldlM_cons]
      exact leaves_bind htrans (hbody value item) fun next => ih next

theorem leaves_findM? {γ : Type} (hrefl : ∀ state, R state state)
    (htrans : ∀ first second third, R first second → R second third → R first third)
    (items : List γ) (test : γ → EStateM ε σ Bool) (htest : ∀ item, Leaves R (test item)) :
    Leaves R (items.findM? test) := by
  induction items with
  | nil => exact leaves_pure hrefl none
  | cons item items ih =>
      refine leaves_bind htrans (htest item) fun found => ?_
      cases found with
      | true => exact leaves_pure hrefl (some item)
      | false => exact ih

theorem Leaves.returns {task : EStateM ε σ α} (h : Leaves R task) (state : σ) :
    Returns task state fun _ after => R state after := by
  intro value after hrun
  have hleaves := h state
  rw [hrun] at hleaves
  exact hleaves

end Leaves

section Runs

variable {first : EStateM ε σ β} {next : β → EStateM ε σ α} {state last : σ}

theorem run_pure_ok_iff {result value : α} :
    (pure result : EStateM ε σ α).run state = .ok value last ↔ result = value ∧ last = state := by
  rw [EStateM.run_pure, EStateM.Result.ok.injEq]
  exact and_congr_right fun _ => eq_comm

theorem run_bind_of_ok {value : β} {after : σ} (h : first.run state = .ok value after) :
    (first >>= next).run state = (next value).run after := by
  rw [EStateM.run_bind, h]

theorem run_bind_of_error {thrown : ε} {after : σ} (h : first.run state = .error thrown after) :
    (first >>= next).run state = .error thrown after := by
  rw [EStateM.run_bind, h]

theorem run_bind_ok_iff {value : α} : (first >>= next).run state = .ok value last ↔
    ∃ middle after, first.run state = .ok middle after ∧ (next middle).run after = .ok value last := by
  rw [EStateM.run_bind]
  cases first.run state with
  | error thrown after => simp
  | ok middle after =>
      refine ⟨fun h => ⟨middle, after, rfl, h⟩, ?_⟩
      rintro ⟨_, _, heq, h⟩
      cases heq
      exact h

theorem run_bind_error_iff {thrown : ε} : (first >>= next).run state = .error thrown last ↔
    first.run state = .error thrown last ∨
      ∃ middle after, first.run state = .ok middle after ∧ (next middle).run after = .error thrown last := by
  rw [EStateM.run_bind]
  cases first.run state with
  | error _ after => simp
  | ok middle after =>
      refine ⟨fun h => .inr ⟨middle, after, rfl, h⟩, ?_⟩
      rintro (heq | ⟨_, _, heq, h⟩)
      · cases heq
      · cases heq
        exact h

-- Every error that the task ends with is one of these.
def Raises (E : ε → Prop) (task : EStateM ε σ α) : Prop :=
  ∀ state thrown after, task.run state = .error thrown after → E thrown

variable {E : ε → Prop}

theorem raises_pure (value : α) : Raises E (pure value : EStateM ε σ α) :=
  fun _ _ _ => nofun

theorem raises_throw {error : ε} (h : E error) : Raises E (throw error : EStateM ε σ α) := by
  intro state thrown after hrun
  cases hrun
  exact h

theorem raises_bind (hfirst : Raises E first) (hnext : ∀ value, Raises E (next value)) :
    Raises E (first >>= next) := by
  intro state thrown last hrun
  rcases run_bind_error_iff.mp hrun with hfailed | ⟨middle, after, -, hrest⟩
  · exact hfirst state thrown last hfailed
  · exact hnext middle after thrown last hrest

theorem raises_ite (condition : Prop) [Decidable condition] {yes no : EStateM ε σ α} (hyes : Raises E yes)
    (hno : Raises E no) : Raises E (if condition then yes else no) := by
  by_cases hcondition : condition
  · rw [if_pos hcondition]
    exact hyes
  · rw [if_neg hcondition]
    exact hno

theorem raises_findM? {γ : Type} (items : List γ) (test : γ → EStateM ε σ Bool) (htest : ∀ item, Raises E (test item)) :
    Raises E (items.findM? test) := by
  induction items with
  | nil => exact raises_pure none
  | cons item items ih =>
      refine raises_bind (htest item) fun found => ?_
      cases found with
      | true => exact raises_pure (some item)
      | false => exact ih

end Runs

end HhctrlMgmt.Common
