import HhctrlMgmt.Coroutine

namespace HhctrlMgmt.Coroutine

-- The surroundings of coroutines over a shared state `σ`. `issue` records that
-- an operation has been started, `answer` that it has completed. `allows` says
-- which completions the surroundings can produce.
structure World (S : Sig) (σ : Type) where
  State : Type
  enter : State → S.Label → State
  issue : State → S.Query → State
  allows : State → σ → (query : S.Query) → S.Answer query → Prop
  answer : State → (query : S.Query) → S.Answer query → State

variable {S : Sig} {σ α β : Type}

abbrev World.Point (W : World S σ) := W.State × σ

structure Config (W : World S σ) (α : Type) where
  point : W.Point
  task : Coro S σ α

-- Runs a coroutine without interruption up to its next suspension or its end.
def settle (W : World S σ) : Coro S σ α → W.Point → Config W α
  | .ret value, point => ⟨point, .ret value⟩
  | .throw error, point => ⟨point, .throw error⟩
  | .spin, point => ⟨point, .spin⟩
  | .get next, point => settle W (next point.2) point
  | .set state next, point => settle W next (point.1, state)
  | .enter label next, point => settle W next (W.enter point.1 label, point.2)
  | .await query next, point => ⟨(W.issue point.1 query, point.2), .await query next⟩

-- Suspended, or at its end.
def Coro.Settled : Coro S σ α → Prop
  | .ret _ | .throw _ | .spin | .await _ _ => True
  | .get _ | .set _ _ | .enter _ _ => False

theorem settle_settled (W : World S σ) (task : Coro S σ α) (point : W.Point) : (settle W task point).task.Settled := by
  induction task generalizing point with
  | ret _ => trivial
  | throw _ => trivial
  | spin => trivial
  | get next ih => exact ih _ _
  | set state next ih => exact ih _
  | enter label next ih => exact ih _
  | await query next _ => trivial

-- The awaited operation completes and the coroutine runs on.
inductive Step (W : World S σ) : Config W α → Config W α → Prop
  | resume (point : W.Point) (query : S.Query) (next : S.Answer query → Coro S σ α)
      (answer : S.Answer query) (hallow : W.allows point.1 point.2 query answer) :
      Step W ⟨point, .await query next⟩
        (settle W (next answer) (W.answer point.1 query answer, point.2))

def Reach (W : World S σ) : Config W α → Config W α → Prop :=
  Relation.ReflTransGen (Step W)

theorem Reach.await {W : World S σ} {point : W.Point} {query : S.Query} {next : S.Answer query → Coro S σ α}
    {last : Config W α} (answer : S.Answer query) (hallow : W.allows point.1 point.2 query answer)
    (hlast : settle W (next answer) (W.answer point.1 query answer, point.2) = last) :
    Reach W ⟨point, .await query next⟩ last :=
  hlast ▸ .single (.resume point query next answer hallow)

theorem Reach.settled {W : World S σ} {first last : Config W α} (hreach : Reach W first last)
    (hfirst : ∃ task point, first = settle W task point) : ∃ task point, last = settle W task point := by
  induction hreach with
  | refl => exact hfirst
  | tail _ hstep _ =>
      obtain ⟨point, query, next, answer, _⟩ := hstep
      exact ⟨_, _, rfl⟩

inductive Outcome (S : Sig) (α : Type) where
  | ret (value : α)
  | throw (error : S.Exn)
  | spin

def Outcome.task : Outcome S α → Coro S σ α
  | ret value => .ret value
  | throw error => .throw error
  | spin => .spin

def Outcome.bind : Outcome S α → (α → Outcome S β) → Outcome S β
  | ret value, f => f value
  | throw error, _ => throw error
  | spin, _ => spin

section Exec

variable (W : World S σ) (respond : W.State → σ → (query : S.Query) → S.Answer query)

-- A run in which a function of the surroundings chooses every answer.
def exec : Coro S σ α → W.Point → Outcome S α × W.Point
  | .ret value, point => (.ret value, point)
  | .throw error, point => (.throw error, point)
  | .spin, point => (.spin, point)
  | .get next, point => exec (next point.2) point
  | .set state next, point => exec next (point.1, state)
  | .enter label next, point => exec next (W.enter point.1 label, point.2)
  | .await query next, point =>
      let answer := respond (W.issue point.1 query) point.2 query
      exec (next answer) (W.answer (W.issue point.1 query) query answer, point.2)

def execBind (result : Outcome S α × W.Point) (f : α → Coro S σ β) : Outcome S β × W.Point :=
  match result with
  | (.ret value, point) => exec W respond (f value) point
  | (.throw error, point) => (.throw error, point)
  | (.spin, point) => (.spin, point)

@[simp] theorem execBind_ret (value : α) (point : W.Point) (f : α → Coro S σ β) :
    execBind W respond (.ret value, point) f = exec W respond (f value) point := rfl

@[simp] theorem execBind_throw (error : S.Exn) (point : W.Point) (f : α → Coro S σ β) :
    execBind W respond (.throw error, point) f = (.throw error, point) := rfl

@[simp] theorem execBind_spin (point : W.Point) (f : α → Coro S σ β) :
    execBind W respond (.spin, point) f = (.spin, point) := rfl

theorem execBind_not_ret (result : Outcome S α × W.Point) (f : α → Coro S σ β)
    (h : ∀ value point, result ≠ (.ret value, point)) (value : β) (point : W.Point) :
    execBind W respond result f ≠ (.ret value, point) := by
  obtain ⟨outcome, p⟩ := result
  cases outcome with
  | ret first => exact absurd rfl (h first p)
  | throw _ => simp [execBind]
  | spin => simp [execBind]

theorem exec_bind (first : Coro S σ α) (f : α → Coro S σ β) (point : W.Point) :
    exec W respond (first.bind f) point = execBind W respond (exec W respond first point) f := by
  induction first generalizing point with
  | ret _ => rfl
  | throw _ => rfl
  | spin => rfl
  | get next ih => exact ih _ _
  | set state next ih => exact ih _
  | enter label next ih => exact ih _
  | await query next ih => exact ih _ _

variable {W respond} in
theorem exec_bind_of_ret {first : Coro S σ α} {next : α → Coro S σ β} {value : α} {point later : W.Point}
    (h : exec W respond first point = (.ret value, later)) :
    exec W respond (first.bind next) point = exec W respond (next value) later := by
  rw [exec_bind, h, execBind_ret]

variable {W respond} in
theorem exec_ofExcept {result : Except S.Exn α} {value : α} {point : W.Point} (h : result = .ok value) :
    exec W respond (.ofExcept result) point = (.ret value, point) := by
  rw [h]
  rfl

-- A function that only gives allowed answers runs along allowed steps.
theorem exec_reach (hallow : ∀ world state query, W.allows world state query (respond world state query))
    (first : Coro S σ α) (point : W.Point) :
    Reach W (settle W first point)
      ⟨(exec W respond first point).2, (exec W respond first point).1.task⟩ := by
  induction first generalizing point with
  | ret _ => exact .refl
  | throw _ => exact .refl
  | spin => exact .refl
  | get next ih => exact ih _ _
  | set state next ih => exact ih _
  | enter label next ih => exact ih _
  | await query next ih =>
      exact .head (.resume _ _ _ _ (hallow _ _ _)) (ih _ _)

end Exec

end HhctrlMgmt.Coroutine
