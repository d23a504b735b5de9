import HhctrlMgmt.Coroutine.Wp

namespace HhctrlMgmt.Coroutine

variable {S : Sig} {σ α : Type} {W : World S σ}

-- Coroutines called one after another over one shared state: the results of
-- the calls that have returned, the latest first, and the point between calls.
inductive Serial (W : World S σ) (call : Coro S σ α → Prop) (initial : W.Point → Prop) : List α → W.Point → Prop
  | start (point : W.Point) (hinitial : initial point) : Serial W call initial [] point
  | ret (results : List α) (point later : W.Point) (task : Coro S σ α) (value : α)
      (hserial : Serial W call initial results point) (hcall : call task)
      (hreach : Reach W (settle W task point) ⟨later, .ret value⟩) : Serial W call initial (value :: results) later
  | throw (results : List α) (point later : W.Point) (task : Coro S σ α) (error : S.Exn)
      (hserial : Serial W call initial results point) (hcall : call task)
      (hreach : Reach W (settle W task point) ⟨later, .throw error⟩) : Serial W call initial results later

-- An assertion about the results and the point holds between any two calls when
-- every call preserves it; each call may keep an assertion of its own meanwhile.
theorem Serial.induct {call : Coro S σ α → Prop} {initial : W.Point → Prop} {results : List α} {point : W.Point}
    (h : Serial W call initial results point) (J : List α → W.Point → Prop)
    (hinitial : ∀ point, initial point → J [] point)
    (hcall : ∀ results point task, call task → J results point →
      ∃ I, wp (Contract.alone I) (Post.of (fun value later => J (value :: results) later)
        (fun _ later => J results later) fun _ => True) task point point) : J results point := by
  induction h with
  | start point hpoint => exact hinitial point hpoint
  | ret results point later task value _ hstart hreach ih =>
      obtain ⟨_, hwp⟩ := hcall results point task hstart ih
      obtain ⟨_, hgood⟩ := wp_reach hwp hreach
      exact hgood
  | throw results point later task error _ hstart hreach ih =>
      obtain ⟨_, hwp⟩ := hcall results point task hstart ih
      obtain ⟨_, hgood⟩ := wp_reach hwp hreach
      exact hgood

end HhctrlMgmt.Coroutine
