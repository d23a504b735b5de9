import HhctrlMgmt.Coroutine.World

namespace HhctrlMgmt.Coroutine

variable {S : Sig} {σ α β : Type} {W : World S σ}

-- What a coroutine may assume to happen while it is suspended, and what it
-- promises about each of its own uninterrupted segments.
structure Contract (W : World S σ) where
  rely : W.Point → W.Point → Prop
  guar : W.Point → W.Point → Prop

-- Conditions on the end of a coroutine. The first point is the start of its
-- last segment.
structure Post (W : World S σ) (α : Type) where
  ret : α → W.Point → W.Point → Prop
  throw : S.Exn → W.Point → W.Point → Prop
  spin : W.Point → W.Point → Prop

-- `wp C Q task start point`: a segment that began at `start` has reached
-- `point` and goes on with `task`; all of it keeps `C` and can only end in `Q`.
def wp (C : Contract W) (Q : Post W α) : Coro S σ α → W.Point → W.Point → Prop
  | .ret value, start, point => Q.ret value start point
  | .throw error, start, point => Q.throw error start point
  | .spin, start, point => Q.spin start point
  | .get next, start, point => wp C Q (next point.2) start point
  | .set state next, start, point => wp C Q next start (point.1, state)
  | .enter label next, start, point => wp C Q next start (W.enter point.1 label, point.2)
  | .await query next, start, point =>
      C.guar start (W.issue point.1 query, point.2) ∧
      ∀ later, C.rely (W.issue point.1 query, point.2) later →
        ∀ answer, W.allows later.1 later.2 query answer →
          wp C Q (next answer) later (W.answer later.1 query answer, later.2)

section Rules

variable {C : Contract W} {Q : Post W α} {start point : W.Point}

@[simp] theorem wp_ret (value : α) :
    wp C Q (.ret value) start point ↔ Q.ret value start point := Iff.rfl

@[simp] theorem wp_throw (error : S.Exn) :
    wp C Q (.throw error) start point ↔ Q.throw error start point := Iff.rfl

@[simp] theorem wp_spin : wp C Q .spin start point ↔ Q.spin start point := Iff.rfl

@[simp] theorem wp_get (next : σ → Coro S σ α) :
    wp C Q (.get next) start point ↔ wp C Q (next point.2) start point := Iff.rfl

@[simp] theorem wp_set (state : σ) (next : Coro S σ α) :
    wp C Q (.set state next) start point ↔ wp C Q next start (point.1, state) := Iff.rfl

@[simp] theorem wp_enter (label : S.Label) (next : Coro S σ α) :
    wp C Q (.enter label next) start point ↔ wp C Q next start (W.enter point.1 label, point.2) := Iff.rfl

theorem wp_await (query : S.Query) (next : S.Answer query → Coro S σ α) :
    wp C Q (.await query next) start point ↔
      C.guar start (W.issue point.1 query, point.2) ∧
      ∀ later, C.rely (W.issue point.1 query, point.2) later →
        ∀ answer, W.allows later.1 later.2 query answer →
          wp C Q (next answer) later (W.answer later.1 query answer, later.2) := Iff.rfl

def Post.bind (C : Contract W) (Q : Post W β) (f : α → Coro S σ β) : Post W α where
  ret value := wp C Q (f value)
  throw := Q.throw
  spin := Q.spin

theorem wp_bind (Q : Post W β) (first : Coro S σ α) (f : α → Coro S σ β) (start point : W.Point) :
    wp C Q (first.bind f) start point ↔ wp C (Q.bind C f) first start point := by
  induction first generalizing start point with
  | ret _ => rfl
  | throw _ => rfl
  | spin => rfl
  | get next ih => exact ih _ _ _
  | set state next ih => exact ih _ _
  | enter label next ih => exact ih _ _
  | await query next ih =>
      refine and_congr_right fun _ => forall_congr' fun later => forall_congr' fun _ => ?_
      exact forall_congr' fun answer => forall_congr' fun _ => ih _ _ _

theorem wp_mono {Q' : Post W α} {task : Coro S σ α} {start point : W.Point} (h : wp C Q task start point)
    (hret : ∀ value start point, Q.ret value start point → Q'.ret value start point)
    (hthrow : ∀ error start point, Q.throw error start point → Q'.throw error start point)
    (hspin : ∀ start point, Q.spin start point → Q'.spin start point) : wp C Q' task start point := by
  induction task generalizing start point with
  | ret value => exact hret value start point h
  | throw error => exact hthrow error start point h
  | spin => exact hspin start point h
  | get next ih => exact ih _ h
  | set state next ih => exact ih h
  | enter label next ih => exact ih h
  | await query next ih =>
      exact ⟨h.1, fun later hrely answer hallow => ih _ (h.2 later hrely answer hallow)⟩

theorem wp_ofExcept {Q : Post W β} (result : Except S.Exn α) (f : α → Coro S σ β) (start point : W.Point)
    (hok : ∀ value, result = .ok value → wp C Q (f value) start point)
    (herror : ∀ error, result = .error error → Q.throw error start point) :
    wp C Q ((Coro.ofExcept result).bind f) start point := by
  cases result with
  | ok value => exact hok value rfl
  | error error => exact herror error rfl

-- The rule for a call: the callee's condition implies what the rest needs.
theorem wp_call {Q' : Post W α} {Q : Post W β} {first : Coro S σ α} {f : α → Coro S σ β}
    {start point : W.Point} (h : wp C Q' first start point)
    (hret : ∀ value start point, Q'.ret value start point → wp C Q (f value) start point)
    (hthrow : ∀ error start point, Q'.throw error start point → Q.throw error start point)
    (hspin : ∀ start point, Q'.spin start point → Q.spin start point) :
    wp C Q (first.bind f) start point :=
  (wp_bind Q first f start point).mpr (wp_mono h hret hthrow hspin)

end Rules

section Within

variable {C : Contract W} {Q : Post W β} {I : W.Point → W.Point → Prop}

-- A part of a coroutine: what follows it starts where the invariant holds again.
def Within (C : Contract W) (Q : Post W β) (I : W.Point → W.Point → Prop) (α : Type) (part : Coro S σ α) : Prop :=
  ∀ (next : α → Coro S σ β) (start point : W.Point), I start point →
    (∀ value start later, I start later → wp C Q (next value) start later) → wp C Q (part.bind next) start point

theorem within_ret (value : α) : Within C Q I α (.ret value) :=
  fun _ start point hstart hnext => hnext value start point hstart

theorem within_bind {γ : Type} {first : Coro S σ α} {f : α → Coro S σ γ} (hfirst : Within C Q I α first)
    (hf : ∀ value, Within C Q I γ (f value)) : Within C Q I γ (first.bind f) := by
  intro next start point hstart hnext
  rw [Coro.bind_assoc]
  refine hfirst _ start point hstart fun value start later hlater => ?_
  exact hf value next start later hlater hnext

theorem Within.wp {task : Coro S σ β} {start point : W.Point} (h : Within C Q I β task)
    (hret : ∀ value start point, I start point → Q.ret value start point) (hstart : I start point) :
    wp C Q task start point := by
  rw [← Coro.bind_ret task]
  exact h .ret start point hstart hret

end Within

-- A coroutine that is not interrupted and keeps an assertion at every suspension.
def Contract.alone (I : W.Point → Prop) : Contract W where
  rely := Eq
  guar _ point := I point

theorem wp_await_alone {I : W.Point → Prop} {Q : Post W α} (start point : W.Point) (query : S.Query)
    (next : S.Answer query → Coro S σ α) :
    wp (Contract.alone I) Q (.await query next) start point ↔
      I (W.issue point.1 query, point.2) ∧
      ∀ answer, W.allows (W.issue point.1 query) point.2 query answer →
        wp (Contract.alone I) Q (next answer) (W.issue point.1 query, point.2)
          (W.answer (W.issue point.1 query) query answer, point.2) := by
  refine and_congr_right fun _ => ⟨fun h answer hallow => h _ rfl answer hallow, ?_⟩
  rintro h later rfl answer hallow
  exact h answer hallow

def Post.of (ret : α → W.Point → Prop) (throw : S.Exn → W.Point → Prop) (spin : W.Point → Prop) : Post W α where
  ret value _ point := ret value point
  throw error _ point := throw error point
  spin _ point := spin point

-- What `wp` says of a coroutine that stands at its suspension or end.
def Good (C : Contract W) (Q : Post W α) (start : W.Point) (config : Config W α) : Prop :=
  match config.task with
  | .await query next =>
      C.guar start config.point ∧
      ∀ later, C.rely config.point later →
        ∀ answer, W.allows later.1 later.2 query answer →
          wp C Q (next answer) later (W.answer later.1 query answer, later.2)
  | task => wp C Q task start config.point

theorem good_settle (C : Contract W) (Q : Post W α) (task : Coro S σ α) (start point : W.Point) :
    Good C Q start (settle W task point) ↔ wp C Q task start point := by
  induction task generalizing point with
  | ret _ => rfl
  | throw _ => rfl
  | spin => rfl
  | get next ih => exact ih _ _
  | set state next ih => exact ih _
  | enter label next ih => exact ih _
  | await query next ih => rfl

theorem Good.step {I : W.Point → Prop} {Q : Post W α} {start : W.Point} {before after : Config W α}
    (h : Good (Contract.alone I) Q start before) (hstep : Step W before after) :
    ∃ start, Good (Contract.alone I) Q start after := by
  cases hstep with
  | resume point query next answer hallow =>
      exact ⟨point, (good_settle _ _ _ _ _).mpr (h.2 point rfl answer hallow)⟩

theorem Good.reach {I : W.Point → Prop} {Q : Post W α} {start : W.Point} {first last : Config W α}
    (h : Good (Contract.alone I) Q start first) (hreach : Reach W first last) :
    ∃ start, Good (Contract.alone I) Q start last := by
  induction hreach with
  | refl => exact ⟨start, h⟩
  | tail _ hstep ih =>
      obtain ⟨_, hbefore⟩ := ih
      exact hbefore.step hstep

-- Soundness: every configuration that a coroutine reaches is as `wp` says.
theorem wp_reach {I : W.Point → Prop} {Q : Post W α} {task : Coro S σ α} {point : W.Point}
    (h : wp (Contract.alone I) Q task point point) {config : Config W α}
    (hreach : Reach W (settle W task point) config) :
    ∃ start, Good (Contract.alone I) Q start config :=
  ((good_settle _ _ _ _ _).mpr h).reach hreach

-- Where a coroutine can stand: suspended, where it keeps the assertion, or at its end.
def Stands (I : W.Point → Prop) (Q : Post W α) (config : Config W α) : Prop :=
  (∃ query next, config.task = .await query next ∧ I config.point) ∨
    (∃ value start, config.task = .ret value ∧ Q.ret value start config.point) ∨
    (∃ error start, config.task = .throw error ∧ Q.throw error start config.point) ∨
    config.task = .spin ∧ ∃ start, Q.spin start config.point

theorem stands_settle {I : W.Point → Prop} {Q : Post W α} (task : Coro S σ α) (start point : W.Point)
    (h : wp (Contract.alone I) Q task start point) : Stands I Q (settle W task point) := by
  induction task generalizing point with
  | ret value => exact .inr (.inl ⟨value, start, rfl, h⟩)
  | throw error => exact .inr (.inr (.inl ⟨error, start, rfl, h⟩))
  | spin => exact .inr (.inr (.inr ⟨rfl, start, h⟩))
  | get next ih => exact ih _ _ h
  | set state next ih => exact ih _ h
  | enter label next ih => exact ih _ h
  | await query next _ => exact .inl ⟨query, next, rfl, h.1⟩

theorem wp_stands {I : W.Point → Prop} {Q : Post W α} {task : Coro S σ α} {point : W.Point}
    (h : wp (Contract.alone I) Q task point point) {config : Config W α}
    (hreach : Reach W (settle W task point) config) : Stands I Q config := by
  obtain ⟨start, hgood⟩ := wp_reach h hreach
  obtain ⟨last, latest, rfl⟩ := hreach.settled ⟨task, point, rfl⟩
  exact stands_settle last start latest ((good_settle _ _ _ _ _).mp hgood)

end HhctrlMgmt.Coroutine
