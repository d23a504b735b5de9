import HhctrlMgmt.Coroutine.Asks
import HhctrlMgmt.Coroutine.Roster

namespace HhctrlMgmt.Coroutine

variable {S : Sig} {σ τ α β : Type} {W : World S σ}

-- Whoever runs finds the assertion true and leaves it true.
def Contract.upholding (J : W.Point → Prop) : Contract W where
  rely _ later := J later
  guar _ point := J point

-- A coroutine that keeps the assertion at its suspensions, and where it ends.
def Fulfils (J : W.Point → Prop) (throw : S.Exn → W.Point → Prop) (ret : α → W.Point → Prop) (task : Coro S σ α)
    (point : W.Point) : Prop :=
  ∀ start, wp (Contract.upholding J) (Post.of ret throw J) task start point

section Rules

variable {J : W.Point → Prop} {throw : S.Exn → W.Point → Prop} {ret : α → W.Point → Prop} {point : W.Point}

-- Where the segment has begun makes no difference.
theorem fulfils_of_wp {task : Coro S σ α} {start : W.Point}
    (h : wp (Contract.upholding J) (Post.of ret throw J) task start point) : Fulfils J throw ret task point := by
  intro other
  induction task generalizing point with
  | ret value => exact h
  | throw error => exact h
  | spin => exact h
  | get next ih => exact ih _ h
  | set state next ih => exact ih h
  | enter label next ih => exact ih h
  | await query next _ => exact h

theorem fulfils_ret (value : α) (h : ret value point) : Fulfils J throw ret (.ret value) point :=
  fun _ => h

theorem fulfils_throw (error : S.Exn) (h : throw error point) : Fulfils J throw ret (.throw error) point :=
  fun _ => h

theorem fulfils_spin (h : J point) : Fulfils J throw ret .spin point :=
  fun _ => h

theorem fulfils_await (query : S.Query) (next : S.Answer query → Coro S σ α) (hJ : J (W.issue point.1 query, point.2))
    (hnext : ∀ later, J later → ∀ answer, W.allows later.1 later.2 query answer →
      Fulfils J throw ret (next answer) (W.answer later.1 query answer, later.2)) :
    Fulfils J throw ret (.await query next) point :=
  fun _ => ⟨hJ, fun later hlater answer hallow => hnext later hlater answer hallow later⟩

-- The rule for a call.
theorem fulfils_bind {ret' : β → W.Point → Prop} {first : Coro S σ α} {next : α → Coro S σ β}
    (h : Fulfils J throw ret first point)
    (hnext : ∀ value later, ret value later → Fulfils J throw ret' (next value) later) :
    Fulfils J throw ret' (first.bind next) point :=
  fun start => wp_call (h start) (fun value start later hvalue => hnext value later hvalue start)
    (fun _ _ _ hthrow => hthrow) fun _ _ hspin => hspin

theorem fulfils_mono {throw' : S.Exn → W.Point → Prop} {ret' : α → W.Point → Prop} {task : Coro S σ α}
    (h : Fulfils J throw ret task point) (hthrow : ∀ error later, throw error later → throw' error later)
    (hret : ∀ value later, ret value later → ret' value later) : Fulfils J throw' ret' task point :=
  fun start => wp_mono (h start) (fun value _ later hvalue => hret value later hvalue)
    (fun error _ later herror => hthrow error later herror) fun _ _ hspin => hspin

end Rules

-- The assertion also holds at the end.
def Upholds (J : W.Point → Prop) (task : Coro S σ α) : Prop :=
  ∀ point, J point → Fulfils J (fun _ => J) (fun _ => J) task point

section Upholds

variable {J : W.Point → Prop}

theorem upholds_ret (value : α) : Upholds J (.ret value : Coro S σ α) :=
  fun _ hJ => fulfils_ret value hJ

theorem upholds_spin : Upholds J (.spin : Coro S σ α) :=
  fun _ hJ => fulfils_spin hJ

theorem upholds_bind {first : Coro S σ α} {next : α → Coro S σ β} (h : Upholds J first)
    (hnext : ∀ value, Upholds J (next value)) : Upholds J (first.bind next) :=
  fun point hJ => fulfils_bind (h point hJ) fun value later hlater => hnext value later hlater

-- An assertion that no question and no answer makes false.
structure Withstands (W : World S σ) (allowed : S.Query → Prop) (J : W.Point → Prop) : Prop where
  enter : ∀ point label, J point → J (W.enter point.1 label, point.2)
  issue : ∀ point query, J point → allowed query → J (W.issue point.1 query, point.2)
  answer : ∀ point query answer, J point → W.allows point.1 point.2 query answer →
    J (W.answer point.1 query answer, point.2)

-- A coroutine over a component that what it puts there keeps.
theorem upholds_zoom {allowed : S.Query → Prop} (hwithstands : Withstands W allowed J) {view : σ → τ} {update : τ → σ → σ}
    {I : τ → Prop} (hview : ∀ point, J point → I (view point.2))
    (hupdate : ∀ part point, I part → J point → J (point.1, update part point.2)) {task : Coro S τ α}
    (h : Asks I allowed task) : Upholds J (task.zoom view update) := by
  induction task with
  | ret value => exact upholds_ret value
  | throw error => exact fun _ hJ => fulfils_throw error hJ
  | spin => exact upholds_spin
  | get next ih => exact fun point hJ => ih (view point.2) (h _ (hview point hJ)) point hJ
  | set state next ih => exact fun point hJ => ih h.2 (point.1, update state point.2) (hupdate state point h.1 hJ)
  | enter label next ih => exact fun point hJ => ih h _ (hwithstands.enter point label hJ)
  | await query next ih =>
      refine fun point hJ => fulfils_await query _ (hwithstands.issue point query hJ h.1) fun later hlater answer hallow => ?_
      exact ih answer (h.2 answer) _ (hwithstands.answer later query answer hlater hallow)

end Upholds

section Pool

variable {J : W.Point → Prop} {A : Arena W α}

-- However coroutines that keep the assertion are interleaved, it holds.
theorem Pool.upholds_reach (henv : ∀ before after, J before → A.env before after → J after)
    (hspawn : ∀ before after task, J before → A.spawn before after task → J after ∧ Upholds J task) {point : W.Point}
    (hJ : J point) {pool : Pool W α} (hreach : Pool.Reach A ⟨point, []⟩ pool) : J pool.point := by
  let protocol : Protocol A :=
    { inv := J
      contract := fun _ => Contract.upholding J
      post := fun _ => Post.of (fun _ => J) (fun _ => J) J
      effect := fun _ _ after => J after
      base := 0
      guar_effect := fun _ _ _ h => h
      ret_effect := fun _ _ _ _ h => h
      throw_effect := fun _ _ _ _ h => h
      spin_effect := fun _ _ _ h => h
      effect_inv := fun _ _ _ h _ => h
      env_inv := henv
      rely_refl := fun _ _ h => h
      rely_env := fun _ _ before after _ h hstep => henv before after h hstep
      rely_effect := fun _ _ _ _ _ _ _ _ h => h
      spawn_wp := fun _ before after task _ h hstep =>
        (hspawn before after task h hstep).2 after (hspawn before after task h hstep).1 before }
  have hstart : protocol.PoolGood ⟨point, []⟩ := ⟨hJ, Nat.le_refl 0, fun i task htask => by simp at htask⟩
  exact (protocol.reach_good hreach hstart).inv

variable {throw : S.Exn → W.Point → Prop} {ret : α → W.Point → Prop}

-- Where a coroutine stands that `Fulfils` speaks of.
def Rests (J : W.Point → Prop) (throw : S.Exn → W.Point → Prop) (ret : α → W.Point → Prop) (point : W.Point) :
    Coro S σ α → Prop
  | .ret value => ret value point
  | .throw error => throw error point
  | .await query next => J point ∧ ∀ later, J later → ∀ answer, W.allows later.1 later.2 query answer →
      Fulfils J throw ret (next answer) (W.answer later.1 query answer, later.2)
  | .spin => J point
  | .get _ | .set _ _ | .enter _ _ => False

theorem rests_settle {task : Coro S σ α} {point : W.Point} (h : Fulfils J throw ret task point) :
    Rests J throw ret (settle W task point).point (settle W task point).task := by
  induction task generalizing point with
  | ret value => exact h point
  | throw error => exact h point
  | spin => exact h point
  | get next ih => exact ih _ h
  | set state next ih => exact ih h
  | enter label next ih => exact ih h
  | await query next _ =>
      exact ⟨(h point).1, fun later hlater answer hallow => fulfils_of_wp ((h point).2 later hlater answer hallow)⟩

-- One coroutine, and whatever else happens to the state.
theorem Pool.alone_reach (hspawn : ∀ before after task, ¬A.spawn before after task)
    (henv : ∀ before after, A.env before after → J before → J after)
    (hret : ∀ value before after, A.env before after → ret value before → ret value after)
    (hthrow : ∀ error before after, A.env before after → throw error before → throw error after)
    {task : Coro S σ α} {point : W.Point} (h : Fulfils J throw ret task point) {pool : Pool W α}
    (hreach : Pool.Reach A ⟨(settle W task point).point, [(settle W task point).task]⟩ pool) :
    ∃ last, pool.tasks = [last] ∧ Rests J throw ret pool.point last := by
  induction hreach with
  | refl => exact ⟨_, rfl, rests_settle h⟩
  | tail _ hstep ih =>
      obtain ⟨last, htasks, hlast⟩ := ih
      cases hstep with
      | resume i query next answer htask hallow =>
          rw [htasks] at htask
          obtain rfl : i = 0 := by
            cases i with
            | zero => rfl
            | succ i => simp at htask
          obtain rfl : last = .await query next := by simpa using htask
          refine ⟨_, by rw [htasks]; rfl, rests_settle (hlast.2 _ hlast.1 answer hallow)⟩
      | env point hchange =>
          refine ⟨last, htasks, ?_⟩
          cases last with
          | ret value => exact hret value _ _ hchange hlast
          | throw error => exact hthrow error _ _ hchange hlast
          | await query next => exact ⟨henv _ _ hchange hlast.1, hlast.2⟩
          | spin => exact henv _ _ hchange hlast
          | get _ | set _ _ | enter _ _ => exact hlast.elim
      | spawn point task hnew => exact absurd hnew (hspawn _ _ _)

end Pool

end HhctrlMgmt.Coroutine
