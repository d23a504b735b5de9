import HhctrlMgmt.Coroutine.Wp

namespace HhctrlMgmt.Coroutine

variable {S : Sig} {σ α : Type} {W : World S σ}

-- Coroutines that share a state and are interleaved at their suspensions.
structure Pool (W : World S σ) (α : Type) where
  point : W.Point
  tasks : List (Coro S σ α)

-- The steps of a pool that no running coroutine takes: what else changes the
-- shared point, and which coroutines it starts.
structure Arena (W : World S σ) (α : Type) where
  env : W.Point → W.Point → Prop
  spawn : W.Point → W.Point → Coro S σ α → Prop

inductive Pool.Step (A : Arena W α) : Pool W α → Pool W α → Prop
  | resume (pool : Pool W α) (i : Nat) (query : S.Query) (next : S.Answer query → Coro S σ α)
      (answer : S.Answer query) (htask : pool.tasks[i]? = some (.await query next))
      (hallow : W.allows pool.point.1 pool.point.2 query answer) :
      Step A pool
        ⟨(settle W (next answer) (W.answer pool.point.1 query answer, pool.point.2)).point,
          pool.tasks.set i
            (settle W (next answer) (W.answer pool.point.1 query answer, pool.point.2)).task⟩
  | env (pool : Pool W α) (point : W.Point) (henv : A.env pool.point point) :
      Step A pool ⟨point, pool.tasks⟩
  | spawn (pool : Pool W α) (point : W.Point) (task : Coro S σ α)
      (hspawn : A.spawn pool.point point task) :
      Step A pool ⟨(settle W task point).point, pool.tasks ++ [(settle W task point).task]⟩

def Pool.Reach (A : Arena W α) : Pool W α → Pool W α → Prop :=
  Relation.ReflTransGen (Pool.Step A)

-- A coroutine of a pool runs to its end while all others stand still.
theorem Pool.reach_exec (A : Arena W α) (respond : W.State → σ → (query : S.Query) → S.Answer query)
    (hallow : ∀ world state query, W.allows world state query (respond world state query))
    (tasks : List (Coro S σ α)) (i : Nat) (hi : i < tasks.length) (task : Coro S σ α) (point : W.Point) :
    Pool.Reach A ⟨(settle W task point).point, tasks.set i (settle W task point).task⟩
      ⟨(exec W respond task point).2, tasks.set i (exec W respond task point).1.task⟩ := by
  induction task generalizing point with
  | ret _ => exact .refl
  | throw _ => exact .refl
  | spin => exact .refl
  | get next ih => exact ih _ _
  | set state next ih => exact ih _
  | enter label next ih => exact ih _
  | await query next ih =>
      refine .head (.resume _ i query next _ (by simp [settle, hi]) (hallow _ _ _)) ?_
      simp only [settle, List.set_set]
      exact ih _ _

-- The obligations of rely-guarantee reasoning over a pool. Task `i` follows
-- `contract i`; a task spawned later follows the contract of its position.
-- `effect i` is what others see of a segment of task `i`, whether the segment
-- ends in a suspension or in the end of the task.
structure Protocol (A : Arena W α) where
  inv : W.Point → Prop
  contract : Nat → Contract W
  post : Nat → Post W α
  effect : Nat → W.Point → W.Point → Prop
  -- The contracts from this position on are those of spawned tasks.
  base : Nat
  guar_effect : ∀ i start point, (contract i).guar start point → effect i start point
  ret_effect : ∀ i value start point, (post i).ret value start point → effect i start point
  throw_effect : ∀ i error start point, (post i).throw error start point → effect i start point
  spin_effect : ∀ i start point, (post i).spin start point → effect i start point
  effect_inv : ∀ i before after, effect i before after → inv before → inv after
  env_inv : ∀ before after, inv before → A.env before after → inv after
  rely_refl : ∀ i point, inv point → (contract i).rely point point
  rely_env : ∀ i first before after, (contract i).rely first before → inv before →
    A.env before after → (contract i).rely first after
  rely_effect : ∀ i j first before after, i ≠ j → (contract i).rely first before → inv before →
    effect j before after → (contract i).rely first after
  spawn_wp : ∀ i before after task, base ≤ i → inv before → A.spawn before after task →
    wp (contract i) (post i) task before after

namespace Protocol

variable {A : Arena W α} (P : Protocol A)

-- Task `i` has stood at `point` since its last segment, which began at `start`.
def TaskGood (i : Nat) (now : W.Point) (task : Coro S σ α) : Prop :=
  task.Settled ∧
    ∃ start point, (P.contract i).rely point now ∧ Good (P.contract i) (P.post i) start ⟨point, task⟩

structure PoolGood (pool : Pool W α) : Prop where
  inv : P.inv pool.point
  base : P.base ≤ pool.tasks.length
  tasks : ∀ i task, pool.tasks[i]? = some task → P.TaskGood i pool.point task

-- A segment has its effect whether it suspends or finishes.
theorem wp_effect (i : Nat) (task : Coro S σ α) (start point : W.Point)
    (h : wp (P.contract i) (P.post i) task start point) :
    P.effect i start (settle W task point).point := by
  induction task generalizing point with
  | ret value => exact P.ret_effect i value start point h
  | throw error => exact P.throw_effect i error start point h
  | spin => exact P.spin_effect i start point h
  | get next ih => exact ih _ _ h
  | set state next ih => exact ih _ h
  | enter label next ih => exact ih _ h
  | await query next _ => exact P.guar_effect i _ _ h.1

theorem taskGood_settle (i : Nat) (task : Coro S σ α) (start point : W.Point)
    (hinv : P.inv (settle W task point).point)
    (h : wp (P.contract i) (P.post i) task start point) :
    P.TaskGood i (settle W task point).point (settle W task point).task :=
  ⟨settle_settled W task point, start, (settle W task point).point, P.rely_refl i _ hinv, (good_settle _ _ _ _ _).mpr h⟩

theorem taskGood_other (i j : Nat) (before after : W.Point) (task : Coro S σ α) (hne : i ≠ j)
    (hinv : P.inv before) (heffect : P.effect j before after)
    (h : P.TaskGood i before task) : P.TaskGood i after task := by
  obtain ⟨hsettled, start, point, hrely, hgood⟩ := h
  exact ⟨hsettled, start, point, P.rely_effect i j point before after hne hrely hinv heffect, hgood⟩

theorem step_good {before after : Pool W α} (hstep : Pool.Step A before after)
    (h : P.PoolGood before) : P.PoolGood after := by
  obtain ⟨hinv, hbase, htasks⟩ := h
  cases hstep with
  | resume i query next answer htask hallow =>
      obtain ⟨-, start, point, hrely, hgood⟩ := htasks i _ htask
      have hwp := hgood.2 before.point hrely answer hallow
      have heffect := P.wp_effect i _ _ _ hwp
      have hinv' := P.effect_inv i _ _ heffect hinv
      refine ⟨hinv', by simpa using hbase, fun j task hj => ?_⟩
      by_cases hji : j = i
      · subst j
        have hi := (List.getElem?_eq_some_iff.mp htask).1
        obtain rfl : _ = task := by simpa [hi] using hj
        exact P.taskGood_settle i _ _ _ hinv' hwp
      · rw [List.getElem?_set_ne (Ne.symm hji)] at hj
        exact P.taskGood_other j i _ _ task hji hinv heffect (htasks j task hj)
  | env point henv =>
      refine ⟨P.env_inv _ _ hinv henv, hbase, fun j task hj => ?_⟩
      obtain ⟨hsettled, start, first, hrely, hgood⟩ := htasks j task hj
      exact ⟨hsettled, start, first, P.rely_env j _ _ _ hrely hinv henv, hgood⟩
  | spawn point task hspawn =>
      have hwp := P.spawn_wp before.tasks.length _ _ _ hbase hinv hspawn
      have heffect := P.wp_effect _ _ _ _ hwp
      have hinv' := P.effect_inv _ _ _ heffect hinv
      refine ⟨hinv', by simp; omega, fun j other hj => ?_⟩
      rcases Nat.lt_trichotomy j before.tasks.length with hlt | rfl | hgt
      · rw [List.getElem?_append_left hlt] at hj
        exact P.taskGood_other j _ _ _ other (Nat.ne_of_lt hlt) hinv heffect (htasks j other hj)
      · obtain rfl : _ = other := by simpa using hj
        exact P.taskGood_settle _ _ _ _ hinv' hwp
      · rw [List.getElem?_eq_none (by simp; omega)] at hj
        cases hj

theorem reach_good {first last : Pool W α} (hreach : Pool.Reach A first last)
    (h : P.PoolGood first) : P.PoolGood last := by
  induction hreach with
  | refl => exact h
  | tail _ hstep ih => exact P.step_good hstep ih

-- A pool of one coroutine that has just been started.
theorem start_good (task : Coro S σ α) (point : W.Point) (hbase : P.base ≤ 1) (hinv : P.inv point)
    (h : wp (P.contract 0) (P.post 0) task point point) :
    P.PoolGood ⟨(settle W task point).point, [(settle W task point).task]⟩ := by
  have hinv' := P.effect_inv 0 _ _ (P.wp_effect 0 _ _ _ h) hinv
  refine ⟨hinv', hbase, fun i other hi => ?_⟩
  obtain ⟨rfl, rfl⟩ : i = 0 ∧ (settle W task point).task = other := by
    cases i <;> simp_all
  exact P.taskGood_settle 0 _ _ _ hinv' h

end Protocol

end HhctrlMgmt.Coroutine
