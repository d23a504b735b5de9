import HhctrlMgmt.Coroutine.Serial

namespace HhctrlMgmt.Coroutine

variable {S : Sig} {σ α : Type} {W : World S σ}

-- Total correctness: until the goal the surroundings can go on, and however they do,
-- the goal is reached.
inductive Leads (W : World S σ) (goal : Config W α → Prop) : Config W α → Prop
  | here (config : Config W α) (hgoal : goal config) : Leads W goal config
  | resume (point : W.Point) (query : S.Query) (next : S.Answer query → Coro S σ α)
      (hsome : ∃ answer, W.allows point.1 point.2 query answer)
      (hnext : ∀ answer, W.allows point.1 point.2 query answer →
        Leads W goal (settle W (next answer) (W.answer point.1 query answer, point.2))) :
      Leads W goal ⟨point, .await query next⟩

-- Nothing leads on from here.
def Final (config : Config W α) : Prop :=
  ∀ next, ¬Step W config next

theorem final_ret (point : W.Point) (value : α) : Final (W := W) ⟨point, .ret value⟩ := by
  intro next hstep
  cases hstep

theorem final_await {point : W.Point} {query : S.Query} (next : S.Answer query → Coro S σ α)
    (hnone : ∀ answer, ¬W.allows point.1 point.2 query answer) : Final (W := W) ⟨point, .await query next⟩ := by
  intro _ hstep
  cases hstep with
  | resume _ _ _ answer hallow => exact hnone answer hallow

namespace Leads

variable {goal : Config W α → Prop} {first last : Config W α}

theorem mono {other : Config W α → Prop} (h : Leads W goal first) (hgoal : ∀ config, goal config → other config) :
    Leads W other first := by
  induction h with
  | here config hconfig => exact .here config (hgoal config hconfig)
  | resume point query next hsome _ ih => exact .resume point query next hsome ih

-- No run misses a goal that is final.
theorem reach (h : Leads W goal first) (hfinal : ∀ config, goal config → Final config) (hreach : Reach W first last) :
    Leads W goal last := by
  induction hreach with
  | refl => exact h
  | tail _ hstep ih =>
      cases ih with
      | here _ hgoal => exact absurd hstep (hfinal _ hgoal _)
      | resume point query next _ hnext =>
          cases hstep with
          | resume _ _ _ answer hallow => exact hnext answer hallow

-- What has ended is at the goal.
theorem goal_of_ended (h : Leads W goal first) (hended : ∀ query next, first.task ≠ .await query next) :
    goal first := by
  cases h with
  | here _ hgoal => exact hgoal
  | resume point query next _ _ => exact absurd rfl (hended query next)

theorem exists_reach (h : Leads W goal first) : ∃ last, Reach W first last ∧ goal last := by
  induction h with
  | here config hgoal => exact ⟨config, .refl, hgoal⟩
  | resume point query next hsome _ ih =>
      obtain ⟨answer, hallow⟩ := hsome
      obtain ⟨last, hreach, hgoal⟩ := ih answer hallow
      exact ⟨last, .head (.resume point query next answer hallow) hreach, hgoal⟩

end Leads

-- An assertion about the results holds between any two of a series of calls if each
-- call leads to a final goal that preserves it.
theorem Serial.leads {call : Coro S σ α → Prop} {initial : W.Point → Prop} {results : List α} {point : W.Point}
    (h : Serial W call initial results point) (J : List α → W.Point → Prop)
    (hinitial : ∀ point, initial point → J [] point)
    (hcall : ∀ results point task, call task → J results point → ∃ goal : Config W α → Prop,
      Leads W goal (settle W task point) ∧ (∀ config, goal config → Final config) ∧
      (∀ later value, goal ⟨later, .ret value⟩ → J (value :: results) later) ∧
      ∀ later error, goal ⟨later, .throw error⟩ → J results later) : J results point := by
  induction h with
  | start point hpoint => exact hinitial point hpoint
  | ret results point later task value _ htask hreach ih =>
      obtain ⟨goal, hleads, hfinal, hret, -⟩ := hcall results point task htask ih
      exact hret later value ((hleads.reach hfinal hreach).goal_of_ended fun query next heq => by cases heq)
  | throw results point later task error _ htask hreach ih =>
      obtain ⟨goal, hleads, hfinal, -, hthrow⟩ := hcall results point task htask ih
      exact hthrow later error ((hleads.reach hfinal hreach).goal_of_ended fun query next heq => by cases heq)

end HhctrlMgmt.Coroutine
