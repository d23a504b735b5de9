import Mathlib.Data.List.Chain
import Mathlib.Data.List.Destutter
import Mathlib.Logic.Function.Basic
import Mathlib.Tactic.SplitIfs

namespace HhctrlMgmt.Sampling

section Changes

variable {α : Type} {R : α → α → Prop} [DecidableRel R]

-- A value that comes last is kept if it is a change of the one that has been kept last.
theorem destutter'_concat (values : List α) (first next last : α) (front : List α)
    (h : values.destutter' R first = front ++ [last]) :
    (values ++ [next]).destutter' R first = front ++ [last] ++ if R last next then [next] else [] := by
  induction values generalizing first front with
  | nil =>
      rw [List.destutter'_nil] at h
      obtain ⟨rfl, rfl⟩ : [] = front ∧ first = last := by
        cases front with
        | nil => exact ⟨rfl, (List.cons.inj h).1⟩
        | cons value front => simp at h
      rw [List.nil_append, List.destutter'_singleton]
      split_ifs <;> rfl
  | cons value values ih =>
      rw [List.cons_append]
      by_cases hchange : R first value
      · rw [List.destutter'_cons_pos values hchange] at h
        rw [List.destutter'_cons_pos _ hchange]
        cases front with
        | nil =>
            have hnil : values.destutter' R value = [] := (List.cons.inj h).2
            exact absurd hnil (List.destutter'_ne_nil values R)
        | cons other front =>
            obtain ⟨rfl, hrest⟩ := List.cons.inj h
            rw [ih value front hrest]
            rfl
      · rw [List.destutter'_cons_neg values hchange] at h
        rw [List.destutter'_cons_neg _ hchange]
        exact ih first front h

end Changes

-- A loop is about to set its timer, at the beginning and after each round, or waits for it.
inductive Phase where
  | ready (since : Int)
  | waiting (expiry : Int)

def Phase.due : Phase → Int
  | ready since => since
  | waiting expiry => expiry

-- Loops each of which waits for its interval again and again.
structure Timers (ι : Type) where
  now : Int
  phase : ι → Phase

namespace Timers

variable {ι : Type} [DecidableEq ι]

def setPhase (i : ι) (phase : Phase) (timers : Timers ι) : Timers ι :=
  { timers with phase := Function.update timers.phase i phase }

section SetPhase

variable (timers : Timers ι) (phase : Phase)

@[simp] theorem setPhase_phase_self (i : ι) : (timers.setPhase i phase).phase i = phase :=
  Function.update_self _ _ _

theorem setPhase_phase_ne {i other : ι} (h : other ≠ i) : (timers.setPhase i phase).phase other = timers.phase other :=
  Function.update_of_ne h _ _

end SetPhase

variable (interval : ι → Int) (latency : Int)

-- Time passes, but not beyond what is due and the latency of the loops; a loop sets its
-- timer; or the timer of a loop has expired, and it goes round.
inductive Step : Timers ι → Option ι → Timers ι → Prop
  | pass (timers : Timers ι) (later : Int) (hlater : timers.now ≤ later)
      (hserved : ∀ i, later ≤ (timers.phase i).due + latency) : Step timers none { timers with now := later }
  | arm (timers : Timers ι) (i : ι) (since : Int) (hphase : timers.phase i = .ready since) :
      Step timers none (timers.setPhase i (.waiting (timers.now + interval i)))
  | fire (timers : Timers ι) (i : ι) (expiry : Int) (hphase : timers.phase i = .waiting expiry)
      (hexpired : expiry ≤ timers.now) : Step timers (some i) (timers.setPhase i (.ready timers.now))

-- A run, with the rounds of the loops and their times.
inductive Run (first : Timers ι) : List (ι × Int) → Timers ι → Prop
  | refl : Run first [] first
  | step {before after : Timers ι} {fired : List (ι × Int)} {label : Option ι} (hrun : Run first fired before)
      (hstep : Step interval latency before label after) :
      Run first (fired ++ label.toList.map fun i => (i, before.now)) after

-- The times at which one loop goes round.
def times (i : ι) (fired : List (ι × Int)) : List Int :=
  (fired.filter fun entry => entry.1 = i).map Prod.snd

-- No timer is set beyond its interval, and nothing is overdue for longer than the latency.
structure Timely (timers : Timers ι) : Prop where
  ready : ∀ i since, timers.phase i = .ready since → since ≤ timers.now
  waiting : ∀ i expiry, timers.phase i = .waiting expiry → expiry ≤ timers.now + interval i
  served : ∀ i, timers.now ≤ (timers.phase i).due + latency

-- What is due for a loop that has not gone round since a time.
def Pending (since : Int) (i : ι) : Phase → Prop
  | .ready begun => begun ≤ since
  | .waiting expiry => expiry ≤ since + latency + interval i

-- Two rounds of a loop with none in between.
def Spaced (i : ι) (earlier later : Int) : Prop :=
  earlier + interval i ≤ later ∧ later ≤ earlier + interval i + 2 * latency

-- What a loop does after it has gone round.
def Resting (i : ι) (time : Int) : Phase → Prop
  | .ready since => since = time
  | .waiting expiry => time + interval i ≤ expiry ∧ expiry ≤ time + interval i + latency

variable {interval latency}

theorem times_append (i : ι) (first second : List (ι × Int)) :
    times i (first ++ second) = times i first ++ times i second := by
  unfold times
  rw [List.filter_append, List.map_append]

theorem times_self (i : ι) (now : Int) : times i [(i, now)] = [now] := by
  simp [times]

theorem times_ne {i other : ι} (h : other ≠ i) (now : Int) : times i [(other, now)] = [] := by
  simp [times, h]

theorem Timely.setPhase {timers : Timers ι} (h : Timely interval latency timers) (i : ι) (phase : Phase)
    (hready : ∀ since, phase = .ready since → since ≤ timers.now)
    (hwaiting : ∀ expiry, phase = .waiting expiry → expiry ≤ timers.now + interval i)
    (hserved : timers.now ≤ phase.due + latency) : Timely interval latency (timers.setPhase i phase) := by
  refine ⟨fun other since hphase => ?_, fun other expiry hphase => ?_, fun other => ?_⟩
  · by_cases hother : other = i
    · subst hother
      exact hready since ((setPhase_phase_self _ _ _).symm.trans hphase)
    · exact h.ready other since ((setPhase_phase_ne _ _ hother).symm.trans hphase)
  · by_cases hother : other = i
    · subst hother
      exact hwaiting expiry ((setPhase_phase_self _ _ _).symm.trans hphase)
    · exact h.waiting other expiry ((setPhase_phase_ne _ _ hother).symm.trans hphase)
  · by_cases hother : other = i
    · subst hother
      rw [setPhase_phase_self]
      exact hserved
    · rw [setPhase_phase_ne _ _ hother]
      exact h.served other

section Run

variable {first last : Timers ι} {fired : List (ι × Int)} (h : Timely interval latency first) (hlatency : 0 ≤ latency)
  (hinterval : ∀ i, 0 ≤ interval i)

include hlatency hinterval

theorem Timely.step {before after : Timers ι} {label : Option ι} (h : Timely interval latency before)
    (hstep : Step interval latency before label after) : Timely interval latency after := by
  cases hstep with
  | pass later hlater hserved =>
      refine ⟨fun i since hphase => ?_, fun i expiry hphase => ?_, hserved⟩
      · exact Int.le_trans (h.ready i since hphase) hlater
      · have hwaiting := h.waiting i expiry hphase
        dsimp only
        omega
  | arm i since hphase =>
      have hpositive := hinterval i
      refine h.setPhase i _ (fun _ heq => by cases heq) (fun expiry heq => ?_) ?_
      · cases heq
        exact Int.le_refl _
      · simp only [Phase.due]
        omega
  | fire i expiry hphase hexpired =>
      refine h.setPhase i _ (fun since heq => ?_) (fun _ heq => by cases heq) ?_
      · cases heq
        exact Int.le_refl _
      · simp only [Phase.due]
        omega

include h

theorem Timely.run (hrun : Run interval latency first fired last) : Timely interval latency last := by
  induction hrun with
  | refl => exact h
  | step _ hstep ih => exact Timely.step hlatency hinterval ih hstep

theorem Run.pending (hrun : Run interval latency first fired last) (i : ι) :
    times i fired ≠ [] ∨ Pending interval latency first.now i (last.phase i) := by
  induction hrun with
  | refl =>
      refine .inr ?_
      cases hphase : first.phase i with
      | ready since => exact h.ready i since hphase
      | waiting expiry =>
          have hwaiting := h.waiting i expiry hphase
          simp only [Pending]
          omega
  | @step before after fired label hrun hstep ih =>
      rw [times_append]
      rcases ih with hfired | hpending
      · exact .inl fun heq => hfired (List.append_eq_nil_iff.mp heq).1
      · have hserved := (h.run hlatency hinterval hrun).served i
        cases hstep with
        | pass later hlater _ => exact .inr hpending
        | arm other since hphase =>
            refine .inr ?_
            by_cases hother : i = other
            · subst hother
              rw [hphase] at hpending hserved
              rw [setPhase_phase_self]
              simp only [Pending, Phase.due] at hpending hserved ⊢
              omega
            · rw [setPhase_phase_ne _ _ hother]
              exact hpending
        | fire other expiry hphase hexpired =>
            by_cases hother : i = other
            · subst hother
              refine .inl fun heq => ?_
              have hself := (List.append_eq_nil_iff.mp heq).2
              rw [Option.toList_some, List.map_cons, List.map_nil, times_self] at hself
              cases hself
            · rw [setPhase_phase_ne _ _ hother]
              exact .inr hpending

-- A loop goes round in every stretch that is longer than its interval and twice the latency.
theorem Run.goes_round (hrun : Run interval latency first fired last) (i : ι)
    (hlong : interval i + 2 * latency < last.now - first.now) : times i fired ≠ [] := by
  refine (hrun.pending h hlatency hinterval i).resolve_right fun hpending => ?_
  have hserved := (h.run hlatency hinterval hrun).served i
  have hpositive := hinterval i
  cases hphase : last.phase i with
  | ready since =>
      rw [hphase] at hpending hserved
      simp only [Pending, Phase.due] at hpending hserved
      omega
  | waiting expiry =>
      rw [hphase] at hpending hserved
      simp only [Pending, Phase.due] at hpending hserved
      omega

-- The rounds of a loop are an interval apart, up to the latency.
theorem Run.spaced (hrun : Run interval latency first fired last) (i : ι) :
    (times i fired).IsChain (Spaced interval latency i) ∧
      ∀ time ∈ (times i fired).getLast?, Resting interval latency i time (last.phase i) := by
  induction hrun with
  | refl => exact ⟨.nil, fun _ hmem => by cases hmem⟩
  | @step before after fired label hrun hstep ih =>
      obtain ⟨hchain, hlast⟩ := ih
      have htimely := h.run hlatency hinterval hrun
      cases hstep with
      | pass later hlater _ =>
          rw [Option.toList_none, List.map_nil, List.append_nil]
          exact ⟨hchain, hlast⟩
      | arm other since hphase =>
          rw [Option.toList_none, List.map_nil, List.append_nil]
          refine ⟨hchain, fun time htime => ?_⟩
          by_cases hother : i = other
          · subst hother
            have hresting := hlast time htime
            have hready := htimely.ready i since hphase
            have hserved := htimely.served i
            rw [hphase] at hresting hserved
            rw [setPhase_phase_self]
            simp only [Resting, Phase.due] at hresting hserved ⊢
            omega
          · rw [setPhase_phase_ne _ _ hother]
            exact hlast time htime
      | fire other expiry hphase hexpired =>
          rw [Option.toList_some, List.map_cons, List.map_nil, times_append]
          by_cases hother : i = other
          · subst hother
            rw [times_self, setPhase_phase_self]
            refine ⟨List.isChain_append.mpr ⟨hchain, .singleton _, fun time htime next hnext => ?_⟩,
              fun time htime => ?_⟩
            · obtain rfl : before.now = next := Option.some.inj hnext
              have hresting := hlast time htime
              have hserved := htimely.served i
              rw [hphase] at hresting hserved
              simp only [Resting, Phase.due] at hresting hserved
              unfold Spaced
              omega
            · rw [List.getLast?_concat] at htime
              exact Option.some.inj htime
          · rw [times_ne (Ne.symm hother), List.append_nil, setPhase_phase_ne _ _ hother]
            exact ⟨hchain, hlast⟩

end Run
end Timers
end HhctrlMgmt.Sampling
