import HhctrlMgmt.Coroutine.Pool

namespace HhctrlMgmt.Coroutine

-- Coroutines with names, so that their surroundings can tell them apart. A named
-- coroutine waits first until it is started.
abbrev Sig.named (S : Sig) : Sig where
  Exn := S.Exn
  Label := S.Label
  Query := Nat × Option S.Query
  Answer
    | (_, none) => Unit
    | (_, some query) => S.Answer query

variable {S : Sig} {σ α β : Type}

namespace Coro

def named (name : Nat) : Coro S σ α → Coro S.named σ α
  | ret value => ret value
  | throw error => throw error
  | spin => spin
  | get next => get fun state => (next state).named name
  | set state next => set state (next.named name)
  | enter label next => enter label (next.named name)
  | await query next => await (name, some query) fun answer => (next answer).named name

theorem named_bind (name : Nat) (first : Coro S σ α) (f : α → Coro S σ β) :
    (first.bind f).named name = (first.named name).bind fun value => (f value).named name := by
  induction first with
  | ret _ => rfl
  | throw _ => rfl
  | spin => rfl
  | get next ih => simp only [bind, named, ih]
  | set state next ih => simp only [bind, named, ih]
  | enter label next ih => simp only [bind, named, ih]
  | await query next ih => simp only [bind, named, ih]

def idle (name : Nat) (task : Coro S σ α) : Coro S.named σ α :=
  await (name, none) fun _ => task.named name

end Coro

-- What a named coroutine has asked of its surroundings, and what it was answered.
inductive Event (S : Sig) where
  | asked (name : Nat) (query : S.Query)
  | answered (name : Nat) (query : S.Query) (answer : S.Answer query)

namespace Event

def name : Event S → Nat
  | asked name _ => name
  | answered name _ _ => name

end Event

-- All events, the latest first.
abbrev Log (S : Sig) := List (Event S)

-- Surroundings that keep a log, with a rule for their answers.
abbrev Rule (S : Sig) := Log S → Nat → (query : S.Query) → S.Answer query → Prop

abbrev logWorld (σ : Type) (rule : Rule S) : World S.named σ where
  State := Log S
  enter log _ := log
  issue
    | log, (_, none) => log
    | log, (name, some query) => .asked name query :: log
  allows
    | _, _, (_, none), _ => True
    | log, _, (name, some query), answer => rule log name query answer
  answer
    | log, (_, none), _ => log
    | log, (name, some query), answer => .answered name query answer :: log

-- Nothing but the crew changes its state, and nobody joins it later.
def crewArena (σ α : Type) (rule : Rule S) : Arena (logWorld σ rule) α where
  env _ _ := False
  spawn _ _ _ := False

-- A crew of which nobody has started yet. The position of a coroutine is its name.
def idleCrew (rule : Rule S) (tasks : List (Coro S σ α)) (state : σ) : Pool (logWorld σ rule) α :=
  ⟨([], state), tasks.mapIdx Coro.idle⟩

section Keeps

variable (rule : Rule S) (J : Log S × σ → Prop) (name : Nat)

-- The log has grown by events of this coroutine, and of others.
def Own (before after : Log S) : Prop :=
  ∃ more, after = more ++ before ∧ ∀ event ∈ more, event.name = name

def Others (before after : Log S) : Prop :=
  ∃ more, after = more ++ before ∧ ∀ event ∈ more, event.name ≠ name

theorem Own.refl (log : Log S) : Own name log log :=
  ⟨[], rfl, nofun⟩

theorem Own.cons {name : Nat} {before after : Log S} (h : Own name before after) (event : Event S)
    (hname : event.name = name) : Own name before (event :: after) := by
  obtain ⟨more, rfl, hmore⟩ := h
  refine ⟨event :: more, rfl, fun other hother => ?_⟩
  rcases List.mem_cons.mp hother with rfl | hold
  · exact hname
  · exact hmore other hold

theorem Others.refl (log : Log S) : Others name log log :=
  ⟨[], rfl, nofun⟩

theorem Others.own {first before after : Log S} {other : Nat} (h : Others name first before)
    (hown : Own other before after) (hne : name ≠ other) : Others name first after := by
  obtain ⟨old, rfl, hold⟩ := h
  obtain ⟨new, rfl, hnew⟩ := hown
  refine ⟨new ++ old, by rw [List.append_assoc], fun event hevent => ?_⟩
  rcases List.mem_append.mp hevent with hleft | hright
  · exact fun heq => hne (heq.symm.trans (hnew event hleft))
  · exact hold event hright

def kept : Contract (logWorld σ rule) where
  rely first later := J later ∧ Others name first.1 later.1
  guar start point := J point ∧ Own name start.1 point.1

def keptPost : Post (logWorld σ rule) α where
  ret _ start point := J point ∧ Own name start.1 point.1
  throw _ start point := J point ∧ Own name start.1 point.1
  spin start point := J point ∧ Own name start.1 point.1

-- Wherever this coroutine stands from `point` on, the assertion holds, as long as
-- the others leave it true.
def Keeps (task : Coro S σ α) (point : Log S × σ) : Prop :=
  ∀ start : Log S × σ, Own name start.1 point.1 → wp (kept rule J name) (keptPost rule J name) (task.named name) start point

variable {rule J name} {point : Log S × σ}

theorem keeps_ret (value : α) (h : J point) : Keeps rule J name (.ret value : Coro S σ α) point :=
  fun _ hown => ⟨h, hown⟩

theorem keeps_throw (error : S.Exn) (h : J point) : Keeps rule J name (.throw error : Coro S σ α) point :=
  fun _ hown => ⟨h, hown⟩

theorem keeps_spin (h : J point) : Keeps rule J name (.spin : Coro S σ α) point :=
  fun _ hown => ⟨h, hown⟩

theorem keeps_get (next : σ → Coro S σ α) (h : Keeps rule J name (next point.2) point) :
    Keeps rule J name (.get next) point := h

theorem keeps_set (state : σ) (next : Coro S σ α) (h : Keeps rule J name next (point.1, state)) :
    Keeps rule J name (.set state next) point := h

theorem keeps_enter (label : S.Label) (next : Coro S σ α) (h : Keeps rule J name next point) :
    Keeps rule J name (.enter label next) point := h

theorem keeps_await (query : S.Query) (next : S.Answer query → Coro S σ α)
    (hJ : J (.asked name query :: point.1, point.2))
    (h : ∀ more state, (∀ event ∈ more, event.name ≠ name) → J (more ++ .asked name query :: point.1, state) →
      ∀ answer, rule (more ++ .asked name query :: point.1) name query answer →
        Keeps rule J name (next answer)
          (.answered name query answer :: (more ++ .asked name query :: point.1), state)) :
    Keeps rule J name (.await query next) point := by
  intro start hown
  refine ⟨⟨hJ, hown.cons _ rfl⟩, fun later hrely answer hallow => ?_⟩
  obtain ⟨log, state⟩ := later
  obtain ⟨hlater, more, rfl, hmore⟩ := hrely
  exact h more state hmore hlater answer hallow _ ((Own.refl name _).cons _ rfl)

theorem keeps_bind {first : Coro S σ α} {next : α → Coro S σ β} (h : Keeps rule J name first point)
    (hnext : ∀ value later, J later → Keeps rule J name (next value) later) :
    Keeps rule J name (first.bind next) point := by
  intro start hown
  rw [Coro.named_bind]
  refine wp_call (h start hown) (fun value start later hlater => ?_) (fun _ _ _ hthrow => hthrow) fun _ _ hspin => hspin
  exact hnext value later hlater.1 start hlater.2

theorem keeps_ofExcept (result : Except S.Exn α) (next : α → Coro S σ β) (hJ : J point)
    (hok : ∀ value, result = .ok value → Keeps rule J name (next value) point) :
    Keeps rule J name ((Coro.ofExcept result).bind next) point := by
  cases result with
  | ok value => exact hok value rfl
  | error error => exact keeps_throw error hJ

end Keeps

section Protocol

variable (rule : Rule S) (J : Log S × σ → Prop)

def crewProtocol (α : Type) : Protocol (crewArena σ α rule) where
  inv := J
  contract := kept rule J
  post := keptPost rule J
  base := 0
  effect name before after := J after ∧ Own name before.1 after.1
  guar_effect _ _ _ h := h
  ret_effect _ _ _ _ h := h
  throw_effect _ _ _ _ h := h
  spin_effect _ _ _ h := h
  effect_inv _ _ _ heffect _ := heffect.1
  env_inv _ _ _ henv := henv.elim
  rely_refl name point hinv := ⟨hinv, Others.refl name point.1⟩
  rely_env _ _ _ _ _ _ henv := henv.elim
  rely_effect _ _ _ _ _ hne hrely _ heffect := ⟨heffect.1, hrely.2.own _ heffect.2 hne⟩
  spawn_wp _ _ _ _ _ _ hspawn := hspawn.elim

-- An assertion that every coroutine of a crew keeps holds in all of its runs.
theorem crew_keeps (tasks : List (Coro S σ α)) (state : σ) (hinitial : J ([], state))
    (hkeeps : ∀ name task, tasks[name]? = some task → ∀ point, J point → Keeps rule J name task point)
    {pool : Pool (logWorld σ rule) α} (hreach : Pool.Reach (crewArena σ α rule) (idleCrew rule tasks state) pool) :
    J pool.point := by
  have hstart : (crewProtocol rule J α).PoolGood (idleCrew rule tasks state) := by
    refine ⟨hinitial, Nat.zero_le _, fun name task htask => ?_⟩
    obtain ⟨task, hmem, rfl⟩ : ∃ original, tasks[name]? = some original ∧ original.idle name = task := by
      simpa [idleCrew, List.getElem?_mapIdx] using htask
    refine ⟨trivial, ([], state), ([], state), ⟨hinitial, Others.refl name _⟩, ⟨hinitial, Own.refl name _⟩, ?_⟩
    intro later hrely answer _
    exact hkeeps name task hmem later hrely.1 later (Own.refl name _)
  exact ((crewProtocol rule J α).reach_good hreach hstart).inv

end Protocol

end HhctrlMgmt.Coroutine
