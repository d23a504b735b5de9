import Mathlib.Logic.Relation

namespace HhctrlMgmt.Coroutine

-- What a family of coroutines can throw, which functions it announces, what it
-- awaits and what each awaited operation answers.
structure Sig where
  Exn : Type
  Label : Type
  Query : Type
  Answer : Query → Type

-- A coroutine over a shared state `σ`. It suspends only at `await`. A recursion
-- whose fuel has run out ends in `spin`.
inductive Coro (S : Sig) (σ α : Type) where
  | ret (value : α)
  | throw (error : S.Exn)
  | spin
  | get (next : σ → Coro S σ α)
  | set (state : σ) (next : Coro S σ α)
  | enter (label : S.Label) (next : Coro S σ α)
  | await (query : S.Query) (next : S.Answer query → Coro S σ α)

namespace Coro

variable {S : Sig} {σ τ α β γ : Type}

@[simp] def bind : Coro S σ α → (α → Coro S σ β) → Coro S σ β
  | ret value, f => f value
  | throw error, _ => throw error
  | spin, _ => spin
  | get next, f => get fun state => (next state).bind f
  | set state next, f => set state (next.bind f)
  | enter label next, f => enter label (next.bind f)
  | await query next, f => await query fun answer => (next answer).bind f

instance : Monad (Coro S σ) where
  pure := ret
  bind := bind

@[simp] theorem pure_eq (value : α) : (pure value : Coro S σ α) = ret value := rfl

@[simp] theorem bind_eq (first : Coro S σ α) (f : α → Coro S σ β) : (first >>= f) = first.bind f := rfl

theorem bind_assoc (first : Coro S σ α) (f : α → Coro S σ β) (g : β → Coro S σ γ) :
    (first.bind f).bind g = first.bind fun value => (f value).bind g := by
  induction first with
  | ret _ => rfl
  | throw _ => rfl
  | spin => rfl
  | get next ih => simp only [bind, ih]
  | set state next ih => simp only [bind, ih]
  | enter label next ih => simp only [bind, ih]
  | await query next ih => simp only [bind, ih]

theorem bind_ret (first : Coro S σ α) : first.bind ret = first := by
  induction first with
  | ret _ => rfl
  | throw _ => rfl
  | spin => rfl
  | get next ih => simp only [bind, ih]
  | set state next ih => simp only [bind, ih]
  | enter label next ih => simp only [bind, ih]
  | await query next ih => simp only [bind, ih]

@[simp] def state : Coro S σ σ := get ret

@[simp] def modify (f : σ → σ) : Coro S σ Unit := get fun state => set (f state) (ret ())

@[simp] def label (name : S.Label) : Coro S σ Unit := enter name (ret ())

@[simp] def request (query : S.Query) : Coro S σ (S.Answer query) := await query ret

def ofExcept : Except S.Exn α → Coro S σ α
  | .ok value => ret value
  | .error error => throw error

-- Runs a coroutine over a component of a larger state.
def zoom (view : τ → σ) (update : σ → τ → τ) : Coro S σ α → Coro S τ α
  | ret value => ret value
  | throw error => throw error
  | spin => spin
  | get next => get fun whole => (next (view whole)).zoom view update
  | set state next => get fun whole => set (update state whole) (next.zoom view update)
  | enter name next => enter name (next.zoom view update)
  | await query next => await query fun answer => (next answer).zoom view update

theorem zoom_bind (view : τ → σ) (update : σ → τ → τ) (first : Coro S σ α) (f : α → Coro S σ β) :
    (first.bind f).zoom view update =
      (first.zoom view update).bind fun value => (f value).zoom view update := by
  induction first with
  | ret _ => rfl
  | throw _ => rfl
  | spin => rfl
  | get next ih => simp only [bind, zoom, ih]
  | set state next ih => simp only [bind, zoom, ih]
  | enter name next ih => simp only [bind, zoom, ih]
  | await query next ih => simp only [bind, zoom, ih]

end Coro

end HhctrlMgmt.Coroutine
