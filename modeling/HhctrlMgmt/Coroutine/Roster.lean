import HhctrlMgmt.Coroutine.Pool

namespace HhctrlMgmt.Coroutine

variable {S : Sig} {σ α N : Type} {W : World S σ}

namespace Coro

-- A coroutine whose end is announced, with the exception it ends in, if any.
def announced (notice : Option S.Exn → S.Label) : Coro S σ α → Coro S σ α
  | ret value => enter (notice none) (ret value)
  | throw error => enter (notice (some error)) (throw error)
  | spin => spin
  | get next => get fun state => (next state).announced notice
  | set state next => set state (next.announced notice)
  | enter label next => enter label (next.announced notice)
  | await query next => await query fun answer => (next answer).announced notice

-- Suspended, or out of fuel.
def Unfinished : Coro S σ α → Prop
  | await _ _ | spin => True
  | ret _ | throw _ | get _ | set _ _ | enter _ _ => False

end Coro

-- The condition that is left to the coroutine itself, before its end is announced.
def Post.announced (notice : Option S.Exn → S.Label) (Q : Post W α) : Post W α where
  ret value start point := Q.ret value start (W.enter point.1 (notice none), point.2)
  throw error start point := Q.throw error start (W.enter point.1 (notice (some error)), point.2)
  spin := Q.spin

theorem wp_announced (C : Contract W) (Q : Post W α) (notice : Option S.Exn → S.Label) (task : Coro S σ α)
    (start point : W.Point) (h : wp C (Q.announced notice) task start point) :
    wp C Q (task.announced notice) start point := by
  induction task generalizing start point with
  | ret _ => exact h
  | throw _ => exact h
  | spin => exact h
  | get next ih => exact ih _ _ _ h
  | set state next ih => exact ih _ _ h
  | enter label next ih => exact ih _ _ h
  | await query next ih => exact ⟨h.1, fun later hrely answer hallow => ih _ _ _ (h.2 later hrely answer hallow)⟩

-- The obligations of rely-guarantee reasoning when the surroundings keep a roster:
-- the names of the coroutines that have been started, in this order and no name
-- twice. A coroutine follows the contract of its name.
structure Roster (A : Arena W α) (N : Type) where
  names : W.Point → List N
  inv : W.Point → Prop
  contract : N → Contract W
  post : N → Post W α
  effect : N → W.Point → W.Point → Prop
  nodup : ∀ point, inv point → (names point).Nodup
  guar_effect : ∀ name start point, (contract name).guar start point → effect name start point
  ret_effect : ∀ name value start point, (post name).ret value start point → effect name start point
  throw_effect : ∀ name error start point, (post name).throw error start point → effect name start point
  spin_effect : ∀ name start point, (post name).spin start point → effect name start point
  effect_inv : ∀ name before after, effect name before after → inv before → inv after
  effect_names : ∀ name before after, effect name before after → name ∈ names before →
    names after = names before
  effect_joins : ∀ name before after, effect name before after → name ∉ names before →
    names after = names before ++ [name]
  env_inv : ∀ before after, inv before → A.env before after → inv after
  env_names : ∀ before after, A.env before after → names after = names before
  rely_refl : ∀ name point, inv point → (contract name).rely point point
  rely_env : ∀ name first before after, (contract name).rely first before → inv before →
    A.env before after → (contract name).rely first after
  rely_effect : ∀ name other first before after, name ≠ other → (contract name).rely first before →
    inv before → effect other before after → (contract name).rely first after
  spawn_wp : ∀ before after task, inv before → A.spawn before after task →
    ∃ name, name ∉ names before ∧ wp (contract name) (post name) task before after

namespace Roster

variable {A : Arena W α} (R : Roster A N)

-- The coroutine has stood at `point` since its last segment, which began at `start`.
def TaskGood (name : N) (now : W.Point) (task : Coro S σ α) : Prop :=
  task.Settled ∧
    ∃ start point, (R.contract name).rely point now ∧ Good (R.contract name) (R.post name) start ⟨point, task⟩

structure PoolGood (pool : Pool W α) : Prop where
  inv : R.inv pool.point
  length : pool.tasks.length = (R.names pool.point).length
  tasks : ∀ (i : Nat) (name : N) (task : Coro S σ α), (R.names pool.point)[i]? = some name →
    pool.tasks[i]? = some task → R.TaskGood name pool.point task

theorem wp_effect (name : N) (task : Coro S σ α) (start point : W.Point)
    (h : wp (R.contract name) (R.post name) task start point) :
    R.effect name start (settle W task point).point := by
  induction task generalizing point with
  | ret value => exact R.ret_effect name value start point h
  | throw error => exact R.throw_effect name error start point h
  | spin => exact R.spin_effect name start point h
  | get next ih => exact ih _ _ h
  | set state next ih => exact ih _ h
  | enter label next ih => exact ih _ h
  | await query next _ => exact R.guar_effect name _ _ h.1

theorem taskGood_settle (name : N) (task : Coro S σ α) (start point : W.Point)
    (hinv : R.inv (settle W task point).point)
    (h : wp (R.contract name) (R.post name) task start point) :
    R.TaskGood name (settle W task point).point (settle W task point).task :=
  ⟨settle_settled W task point, start, _, R.rely_refl name _ hinv, (good_settle _ _ _ _ _).mpr h⟩

-- A segment of one coroutine leaves the others as they are.
theorem taskGood_other {name other : N} {before after : W.Point} {task : Coro S σ α} (hne : name ≠ other)
    (hinv : R.inv before) (heffect : R.effect other before after) (h : R.TaskGood name before task) :
    R.TaskGood name after task := by
  obtain ⟨hsettled, start, point, hrely, hgood⟩ := h
  exact ⟨hsettled, start, point, R.rely_effect name other point _ _ hne hrely hinv heffect, hgood⟩

theorem step_good {before after : Pool W α} (hstep : Pool.Step A before after) (h : R.PoolGood before) :
    R.PoolGood after := by
  obtain ⟨hinv, hlength, htasks⟩ := h
  cases hstep with
  | resume i query next answer htask hallow =>
      have hi : i < before.tasks.length := (List.getElem?_eq_some_iff.mp htask).1
      obtain ⟨other, hother⟩ : ∃ other, (R.names before.point)[i]? = some other :=
        ⟨_, List.getElem?_eq_getElem (hlength ▸ hi)⟩
      obtain ⟨-, start, point, hrely, hgood⟩ := htasks i other _ hother htask
      have hwp := hgood.2 before.point hrely answer hallow
      have heffect := R.wp_effect other _ _ _ hwp
      have hinv' := R.effect_inv other _ _ heffect hinv
      have hnames := R.effect_names other _ _ heffect (List.mem_of_getElem? hother)
      refine ⟨hinv', by simpa [hnames] using hlength, fun j name task hname hj => ?_⟩
      rw [hnames] at hname
      by_cases hji : j = i
      · subst j
        obtain rfl : _ = task := by simpa [hi] using hj
        obtain rfl : name = other := Option.some.inj (hname.symm.trans hother)
        exact R.taskGood_settle name _ _ _ hinv' hwp
      · rw [List.getElem?_set_ne (Ne.symm hji)] at hj
        have hne : name ≠ other := by
          rintro rfl
          have hlt := (List.getElem?_eq_some_iff.mp hname).1
          exact hji ((List.getElem?_inj hlt (R.nodup _ hinv)).mp (hname.trans hother.symm))
        exact R.taskGood_other hne hinv heffect (htasks j name task hname hj)
  | env point henv =>
      have hnames := R.env_names _ _ henv
      refine ⟨R.env_inv _ _ hinv henv, by simpa [hnames] using hlength, fun j name task hname hj => ?_⟩
      rw [hnames] at hname
      obtain ⟨hsettled, start, first, hrely, hgood⟩ := htasks j name task hname hj
      exact ⟨hsettled, start, first, R.rely_env name first _ _ hrely hinv henv, hgood⟩
  | spawn point task hspawn =>
      obtain ⟨other, hnew, hwp⟩ := R.spawn_wp _ _ _ hinv hspawn
      have heffect := R.wp_effect other _ _ _ hwp
      have hinv' := R.effect_inv other _ _ heffect hinv
      have hnames := R.effect_joins other _ _ heffect hnew
      refine ⟨hinv', by simp [hnames, hlength], fun j name old hname hj => ?_⟩
      rw [hnames] at hname
      by_cases hj' : j = before.tasks.length
      · subst j
        obtain rfl : _ = old := by simpa using hj
        rw [hlength, List.getElem?_concat_length] at hname
        obtain rfl : other = name := Option.some.inj hname
        exact R.taskGood_settle other _ _ _ hinv' hwp
      · have hlt : j < before.tasks.length := by
          have := (List.getElem?_eq_some_iff.mp hj).1
          simp only [List.length_append, List.length_singleton] at this
          omega
        rw [List.getElem?_append_left hlt] at hj
        rw [List.getElem?_append_left (hlength ▸ hlt)] at hname
        have hne : name ≠ other := fun heq => hnew (heq ▸ List.mem_of_getElem? hname)
        exact R.taskGood_other hne hinv heffect (htasks j name old hname hj)

theorem reach_good {first last : Pool W α} (hreach : Pool.Reach A first last) (h : R.PoolGood first) :
    R.PoolGood last := by
  induction hreach with
  | refl => exact h
  | tail _ hstep ih => exact R.step_good hstep ih

-- Before anything has been started.
theorem empty_good (point : W.Point) (hinv : R.inv point) (hnames : R.names point = []) :
    R.PoolGood ⟨point, []⟩ :=
  ⟨hinv, by simp [hnames], fun _ _ _ _ => nofun⟩

end Roster

end HhctrlMgmt.Coroutine
