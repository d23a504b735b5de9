import HhctrlMgmt.Coroutine.Pool

namespace HhctrlMgmt.Coroutine

variable {S : Sig} {σ τ α β : Type}

section Rules

variable (I : σ → Prop) (allowed : S.Query → Prop)

-- A coroutine that only asks what is allowed and leaves an assertion about the state
-- true, whatever it is answered and whatever else keeps the assertion meanwhile.
def Asks : Coro S σ α → Prop
  | .ret _ | .throw _ | .spin => True
  | .get next => ∀ state, I state → Asks (next state)
  | .set state next => I state ∧ Asks next
  | .enter _ next => Asks next
  | .await query next => allowed query ∧ ∀ answer, Asks (next answer)

variable {I allowed}

@[simp] theorem asks_ret (value : α) : Asks I allowed (.ret value : Coro S σ α) := trivial

@[simp] theorem asks_throw (error : S.Exn) : Asks I allowed (.throw error : Coro S σ α) := trivial

@[simp] theorem asks_spin : Asks I allowed (.spin : Coro S σ α) := trivial

@[simp] theorem asks_get (next : σ → Coro S σ α) :
    Asks I allowed (.get next) ↔ ∀ state, I state → Asks I allowed (next state) := Iff.rfl

@[simp] theorem asks_set (state : σ) (next : Coro S σ α) :
    Asks I allowed (.set state next) ↔ I state ∧ Asks I allowed next := Iff.rfl

@[simp] theorem asks_enter (label : S.Label) (next : Coro S σ α) :
    Asks I allowed (.enter label next) ↔ Asks I allowed next := Iff.rfl

@[simp] theorem asks_await (query : S.Query) (next : S.Answer query → Coro S σ α) :
    Asks I allowed (.await query next) ↔ allowed query ∧ ∀ answer, Asks I allowed (next answer) := Iff.rfl

theorem asks_bind {first : Coro S σ α} {next : α → Coro S σ β} (h : Asks I allowed first)
    (hnext : ∀ value, Asks I allowed (next value)) : Asks I allowed (first.bind next) := by
  induction first with
  | ret value => exact hnext value
  | throw _ => trivial
  | spin => trivial
  | get first ih => exact fun state hstate => ih state (h state hstate)
  | set state first ih => exact ⟨h.1, ih h.2⟩
  | enter label first ih => exact ih h
  | await query first ih => exact ⟨h.1, fun answer => ih answer (h.2 answer)⟩

theorem asks_state_bind {next : σ → Coro S σ α} (hnext : ∀ state, I state → Asks I allowed (next state)) :
    Asks I allowed (Coro.state.bind next) := hnext

theorem asks_read_bind {f : σ → α} {next : α → Coro S σ β}
    (hnext : ∀ state, I state → Asks I allowed (next (f state))) :
    Asks I allowed ((Coro.get fun state => .ret (f state)).bind next) := hnext

theorem asks_label_bind {label : S.Label} {next : Unit → Coro S σ α} (hnext : Asks I allowed (next ())) :
    Asks I allowed ((Coro.label label).bind next) := hnext

theorem asks_modify {f : σ → σ} (hf : ∀ state, I state → I (f state)) :
    Asks I allowed (Coro.modify f : Coro S σ Unit) :=
  fun state hstate => ⟨hf state hstate, trivial⟩

theorem asks_request_bind {query : S.Query} {next : S.Answer query → Coro S σ α} (hquery : allowed query)
    (hnext : ∀ answer, Asks I allowed (next answer)) : Asks I allowed ((Coro.await query .ret).bind next) :=
  ⟨hquery, hnext⟩

-- A value that is known to have been computed.
theorem asks_ofExcept_bind (result : Except S.Exn α) (next : α → Coro S σ β)
    (hnext : ∀ value, result = .ok value → Asks I allowed (next value)) :
    Asks I allowed ((Coro.ofExcept result).bind next) := by
  cases result with
  | ok value => exact hnext value rfl
  | error error => trivial

-- A coroutine over a component of the state: `J` says of the whole what `I` says of the
-- component, and what the coroutine puts there keeps it.
theorem asks_zoom {view : τ → σ} {update : σ → τ → τ} {J : τ → Prop} (hview : ∀ whole, J whole → I (view whole))
    (hupdate : ∀ part whole, I part → J whole → J (update part whole)) {task : Coro S σ α} (h : Asks I allowed task) :
    Asks J allowed (task.zoom view update) := by
  induction task with
  | ret _ => trivial
  | throw _ => trivial
  | spin => trivial
  | get next ih => exact fun whole hwhole => ih (view whole) (h (view whole) (hview whole hwhole))
  | set state next ih => exact fun whole hwhole => ⟨hupdate state whole h.1 hwhole, ih h.2⟩
  | enter label next ih => exact ih h
  | await query next ih => exact ⟨h.1, fun answer => ih answer (h.2 answer)⟩

end Rules

-- An assertion about the surroundings that allowed questions keep.
structure Attends (W : World S σ) (allowed : S.Query → Prop) (J : W.State → Prop) : Prop where
  enter : ∀ state label, J state → J (W.enter state label)
  issue : ∀ state query, J state → allowed query → J (W.issue state query)
  answer : ∀ state query answer, J state → J (W.answer state query answer)

section Pool

variable {W : World S σ} {I : σ → Prop} {allowed : S.Query → Prop} {J : W.State → Prop}

theorem asks_settle (hattends : Attends W allowed J) {task : Coro S σ α} (h : Asks I allowed task) (point : W.Point)
    (hI : I point.2) (hJ : J point.1) :
    Asks I allowed (settle W task point).task ∧ I (settle W task point).point.2 ∧ J (settle W task point).point.1 := by
  induction task generalizing point with
  | ret value => exact ⟨trivial, hI, hJ⟩
  | throw error => exact ⟨trivial, hI, hJ⟩
  | spin => exact ⟨trivial, hI, hJ⟩
  | get next ih => exact ih point.2 (h point.2 hI) point hI hJ
  | set state next ih => exact ih h.2 _ h.1 hJ
  | enter label next ih => exact ih h _ hI (hattends.enter _ _ hJ)
  | await query next _ => exact ⟨h, hI, hattends.issue _ _ hJ h.1⟩

-- All coroutines of a pool only ask what is allowed.
structure Pool.Asks (I : σ → Prop) (allowed : S.Query → Prop) (J : W.State → Prop) (pool : Pool W α) : Prop where
  state : I pool.point.2
  world : J pool.point.1
  tasks : ∀ task ∈ pool.tasks, Coroutine.Asks I allowed task

-- What an arena adds keeps the assertions as well.
structure Arena.Asks (A : Arena W α) (I : σ → Prop) (allowed : S.Query → Prop) (J : W.State → Prop) : Prop where
  env : ∀ before after, A.env before after → I before.2 → J before.1 → I after.2 ∧ J after.1
  spawn : ∀ before after task, A.spawn before after task → I before.2 → J before.1 →
    I after.2 ∧ J after.1 ∧ Coroutine.Asks I allowed task

variable {A : Arena W α}

theorem Pool.Asks.step (hattends : Attends W allowed J) (harena : A.Asks I allowed J) {before after : Pool W α}
    (h : before.Asks I allowed J) (hstep : Pool.Step A before after) : after.Asks I allowed J := by
  cases hstep with
  | resume i query next answer htask hallow =>
      have hnext := (h.tasks _ (List.mem_of_getElem? htask)).2 answer
      have hanswered := hattends.answer _ query answer h.world
      obtain ⟨hasks, hstate, hworld⟩ :=
        asks_settle hattends hnext (W.answer before.point.1 query answer, before.point.2) h.state hanswered
      refine ⟨hstate, hworld, fun task hmem => ?_⟩
      rcases List.mem_or_eq_of_mem_set hmem with hold | rfl
      · exact h.tasks task hold
      · exact hasks
  | env point henv =>
      obtain ⟨hstate, hworld⟩ := harena.env _ _ henv h.state h.world
      exact ⟨hstate, hworld, h.tasks⟩
  | spawn point task hspawn =>
      obtain ⟨hstart, hstartWorld, htask⟩ := harena.spawn _ _ _ hspawn h.state h.world
      obtain ⟨hasks, hstate, hworld⟩ := asks_settle hattends htask _ hstart hstartWorld
      refine ⟨hstate, hworld, fun other hmem => ?_⟩
      rcases List.mem_append.mp hmem with hold | hnew
      · exact h.tasks other hold
      · rw [List.mem_singleton.mp hnew]
        exact hasks

-- Whatever the order in which the coroutines run on.
theorem Pool.Asks.reach (hattends : Attends W allowed J) (harena : A.Asks I allowed J) {first last : Pool W α}
    (h : first.Asks I allowed J) (hreach : Pool.Reach A first last) : last.Asks I allowed J := by
  induction hreach with
  | refl => exact h
  | tail _ hstep ih => exact ih.step hattends harena hstep

end Pool

end HhctrlMgmt.Coroutine
