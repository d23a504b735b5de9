import HhctrlMgmt.Adapter.Hatch

namespace HhctrlMgmt.Adapter

open Coroutine Device Mqtt

abbrev HatchPoint := Broker × HatchSystem

-- Open or closed: the cover has a state for it.
def Determined (status : HatchState) : Prop :=
  Hatch.state status ≠ .undefined

-- The status is what has been published last.
def Shows (broker : Broker) (status : HatchState) : Prop :=
  broker.published.head? = some (Hatch.state status)

section Invariant

variable (deviceId : DeviceId)

-- The status that the poller has seen last has been published, or an event will
-- see to it.
def Synced (point : HatchPoint) : Prop :=
  ∀ observed, point.2.observed = some observed → Determined observed →
    Shows point.1 observed ∨ .deviceStateChanged deviceId ∈ point.2.queue

-- A state that is read is the one that the poller has seen last, unless it is not
-- published or there is more to come.
def CalmRead (point : HatchPoint) : Prop :=
  ∀ observed, point.2.observed = some observed → Determined observed →
    point.2.status = observed ∨ ¬Determined point.2.status ∧ Shows point.1 observed ∨
      .deviceStateChanged deviceId ∈ point.2.queue

-- An event whose hatch is missing does not come between the creation's read, which
-- is the first one, and its insertion, unless there is nothing to tell.
def CalmDrop (point : HatchPoint) : Prop :=
  point.1.published ≠ [] → Synced deviceId point

def CalmStart : Spawned → HatchPoint → Prop
  | .deviceStateChanged changed, point =>
      if changed ∈ point.2.hatches then CalmRead deviceId point else CalmDrop deviceId point
  | .deviceCreated _, _ => True
  | .run _, _ => True

-- What the poller remembers.
structure Polled (point : HatchPoint) : Prop where
  poller : point.2.poller.deviceId = deviceId
  hash : point.2.poller.hash = point.2.observed.elim 0 HatchState.hash

-- `shown` holds from the first read on.
structure Tracked (point : HatchPoint) : Prop extends Polled deviceId point where
  shown : point.1.published ≠ [] ∨ deviceId ∈ point.2.hatches → Synced deviceId point

-- What has been published stays published.
structure Since (start point : HatchPoint) : Prop where
  tracked : Tracked deviceId point
  published : start.1.published ≠ [] → point.1.published ≠ []

theorem Since.refl {point : HatchPoint} (h : Tracked deviceId point) : Since deviceId point point :=
  ⟨h, id⟩

abbrev calmWorld : World coverSig HatchSystem := brokerWorld (CalmRead deviceId)

-- Every handler relies on the invariant and keeps it.
def hatchContract : Contract (calmWorld deviceId) where
  rely := Since deviceId
  guar := Since deviceId

def hatchPost : Post (calmWorld deviceId) Unit where
  ret _ := Since deviceId
  throw _ := Since deviceId
  spin := Since deviceId

theorem synced_of_read (point : HatchPoint) (hcalm : CalmRead deviceId point)
    (hundetermined : ¬Determined point.2.status) : Synced deviceId point := by
  intro observed hobserved hdetermined
  rcases hcalm observed hobserved hdetermined with hstatus | ⟨-, hshows⟩ | hevent
  · rw [hstatus] at hundetermined
    exact absurd hdetermined hundetermined
  · exact Or.inl hshows
  · exact Or.inr hevent

theorem synced_of_publish (broker : Broker) (system : HatchSystem) (hcalm : CalmRead deviceId (broker, system))
    (hdetermined : Determined system.status) :
    Synced deviceId ({ broker with published := Hatch.state system.status :: broker.published }, system) := by
  intro observed hobserved hobservedDetermined
  rcases hcalm observed hobserved hobservedDetermined with hstatus | ⟨hundetermined, -⟩ | hevent
  · refine Or.inl ?_
    have hread : system.status = observed := hstatus
    simp only [Shows, List.head?_cons, hread]
  · exact absurd hdetermined hundetermined
  · exact Or.inr hevent

theorem tracked_change (broker : Broker) (system : HatchSystem) (status : HatchState)
    (h : Tracked deviceId (broker, system)) : Tracked deviceId (broker, { system with status := status }) :=
  ⟨⟨h.poller, h.hash⟩, h.shown⟩

-- The poller either announces what it has seen, or it has seen the same before.
theorem tracked_poll (broker : Broker) (system : HatchSystem) (h : Tracked deviceId (broker, system)) :
    Tracked deviceId (broker, HatchPoller.poll system) := by
  have hpoller : system.poller.deviceId = deviceId := h.poller
  have hhash : system.poller.hash = system.observed.elim 0 HatchState.hash := h.hash
  unfold HatchPoller.poll HatchPoller.currentHash
  by_cases hchanged : system.status.hash = system.poller.hash
  · simp only [hchanged, ne_eq, not_true_eq_false, if_false]
    refine ⟨⟨hpoller, hchanged.symm⟩, fun hread observed hobserved hdetermined => ?_⟩
    obtain rfl : system.status = observed := Option.some.inj hobserved
    cases hlast : system.observed with
    | none =>
        -- a new poller takes Undefined for known
        have hzero : system.status.hash = HatchState.undefined.hash := by
          rw [hchanged, hhash, hlast]
          rfl
        rw [HatchState.hash_injective _ _ hzero] at hdetermined
        exact absurd rfl hdetermined
    | some last =>
        have hsame : system.status.hash = last.hash := by
          rw [hchanged, hhash, hlast]
          rfl
        have hstatus := HatchState.hash_injective _ _ hsame
        rw [hstatus] at hdetermined ⊢
        exact h.shown hread last hlast hdetermined
  · simp only [ne_eq, hchanged, not_false_eq_true, if_true, HatchPoller.update]
    refine ⟨⟨hpoller, rfl⟩, fun _ observed _ _ => Or.inr ?_⟩
    simp [hpoller]

theorem tracked_pushBack (broker : Broker) (system : HatchSystem) (inserted : DeviceId)
    (h : Tracked deviceId (broker, system)) (hsynced : Synced deviceId (broker, system)) :
    Tracked deviceId (broker, HatchEventHandler.pushBack inserted system) := by
  refine ⟨⟨h.poller, h.hash⟩, fun _ observed hobserved hdetermined => ?_⟩
  rcases hsynced observed hobserved hdetermined with hshows | hevent
  · exact Or.inl hshows
  · exact Or.inr (List.mem_append_left _ hevent)

end Invariant

section Handlers

variable (P : Platform) (deviceIdentity : DeviceIdentity) (deviceId : DeviceId)

-- A handler that suspends goes on from any point where the invariant holds.
theorem wp_request (query : CoverQuery) (hquery : ∀ state, query ≠ .setState state)
    (next : CoverAnswer query → Coro coverSig HatchSystem Unit) (start point : HatchPoint)
    (h : Since deviceId start point)
    (hnext : ∀ answer later, Tracked deviceId later → (calmWorld deviceId).allows later.1 later.2 query answer →
      wp (hatchContract deviceId) (hatchPost deviceId) (next answer) later later) :
    wp (hatchContract deviceId) (hatchPost deviceId) (.await query next) start
      (point : (calmWorld deviceId).Point) := by
  have hissue : (calmWorld deviceId).issue point.1 query = point.1 := by
    cases query with
    | setState state => exact absurd rfl (hquery state)
    | connect => rfl
    | configure _ => rfl
    | setAvailability _ => rfl
    | receive => rfl
    | wait _ => rfl
  rw [wp_await, hissue]
  exact ⟨h, fun later hrely answer hallow => hnext answer later hrely.tracked hallow⟩

theorem wp_syncState (next : Unit → Coro coverSig HatchSystem Unit) (start point : HatchPoint)
    (hpolled : Polled deviceId point) (hpublished : start.1.published ≠ [] → point.1.published ≠ [])
    (hcalm : CalmRead deviceId point)
    (hnext : ∀ start later, Since deviceId start later → Synced deviceId later →
      wp (hatchContract deviceId) (hatchPost deviceId) (next ()) start (later : (calmWorld deviceId).Point)) :
    wp (hatchContract deviceId) (hatchPost deviceId)
      ((EntityAdapter.asyncSyncState (Hatch.operations P deviceIdentity)).bind next) start
      (point : (calmWorld deviceId).Point) := by
  obtain ⟨broker, system⟩ := point
  simp only [EntityAdapter.asyncSyncState, Hatch.operations, Coro.bind_eq, Coro.pure_eq, Coro.bind, wp_get]
  by_cases hundetermined : Hatch.state system.status = .undefined
  · rw [if_pos hundetermined]
    have hsynced := synced_of_read deviceId (broker, system) hcalm fun hdetermined => hdetermined hundetermined
    exact hnext start (broker, system) ⟨⟨hpolled, fun _ => hsynced⟩, hpublished⟩ hsynced
  · rw [if_neg hundetermined]
    have hsynced := synced_of_publish deviceId broker system hcalm hundetermined
    have htracked : Tracked deviceId
        ({ broker with published := Hatch.state system.status :: broker.published }, system) :=
      ⟨⟨hpolled.poller, hpolled.hash⟩, fun _ => hsynced⟩
    refine ⟨⟨htracked, fun _ => List.cons_ne_nil _ _⟩, fun later hrely answer _ => ?_⟩
    have hread : later.1.published ≠ [] := hrely.published (List.cons_ne_nil _ _)
    exact hnext later later (.refl deviceId hrely.tracked) (hrely.tracked.shown (Or.inl hread))

theorem wp_configure (next : Bool → Coro coverSig HatchSystem Unit) (start point : HatchPoint)
    (h : Since deviceId start point)
    (hnext : ∀ configured start later, Since deviceId start later → (configured = true → Synced deviceId later) →
      wp (hatchContract deviceId) (hatchPost deviceId) (next configured) start (later : (calmWorld deviceId).Point)) :
    wp (hatchContract deviceId) (hatchPost deviceId)
      ((EntityAdapter.asyncConfigure (Hatch.operations P deviceIdentity)).bind next) start
      (point : (calmWorld deviceId).Point) := by
  simp only [EntityAdapter.asyncConfigure, Coro.bind_eq, Coro.pure_eq, Hatch.operations, Coro.bind]
  refine wp_request deviceId (.configure _) (fun _ => nofun) _ start point h fun error later htracked _ => ?_
  cases error with
  | some _ => exact hnext false later later (.refl deviceId htracked) nofun
  | none =>
      refine wp_request deviceId (.wait 1) (fun _ => nofun) _ later later (.refl deviceId htracked)
        fun code waited hwaited _ => ?_
      cases code with
      | some _ => exact .refl deviceId hwaited
      | none =>
          refine wp_request deviceId (.setAvailability .online) (fun _ => nofun) _ waited waited
            (.refl deviceId hwaited) fun _ available havailable hallow => ?_
          simp only [Coro.bind_assoc]
          refine wp_syncState P deviceIdentity deviceId _ available available havailable.toPolled id hallow.2
            fun start synced hsince hsynced => ?_
          exact hnext true start synced hsince fun _ => hsynced

-- A part of a handler, after which it goes on.
abbrev HandlerPart : (α : Type) → Coro coverSig HatchSystem α → Prop :=
  @Within coverSig HatchSystem Unit (calmWorld deviceId) (hatchContract deviceId) (hatchPost deviceId) (Since deviceId)

theorem part_composes : EntityAdapter.Composes (HandlerPart deviceId) :=
  EntityAdapter.within_composes fun _ _ => id

theorem part_await {α : Type} (query : CoverQuery) (hquery : ∀ state, query ≠ .setState state)
    (f : CoverAnswer query → Coro coverSig HatchSystem α) (hf : ∀ answer, HandlerPart deviceId α (f answer)) :
    HandlerPart deviceId α (.await query f) :=
  fun next start point h hnext =>
    wp_request deviceId query hquery _ start point h fun answer later htracked _ =>
      hf answer next later later (.refl deviceId htracked) hnext

theorem part_wait (seconds : Int) :
    HandlerPart deviceId Unit ((Hatch.operations P deviceIdentity).asyncWait seconds) := by
  refine part_await deviceId (.wait seconds) (fun _ => nofun) _ fun code => ?_
  cases code with
  | none => exact (part_composes deviceId).ret _ _
  | some code => exact fun next start point h hnext => h

theorem part_connect : HandlerPart deviceId Error (Hatch.operations P deviceIdentity).asyncConnect :=
  part_await deviceId .connect (fun _ => nofun) _ fun _ => (part_composes deviceId).ret _ _

theorem part_configure : HandlerPart deviceId Bool (EntityAdapter.asyncConfigure (Hatch.operations P deviceIdentity)) :=
  fun next start point h hnext =>
    wp_configure P deviceIdentity deviceId next start point h fun configured start later hsince _ =>
      hnext configured start later hsince

theorem wp_init (next : Bool → Coro coverSig HatchSystem Unit) (start point : HatchPoint)
    (h : Since deviceId start point)
    (hnext : ∀ initialized start later, Since deviceId start later → (initialized = true → Synced deviceId later) →
      wp (hatchContract deviceId) (hatchPost deviceId) (next initialized) start (later : (calmWorld deviceId).Point)) :
    wp (hatchContract deviceId) (hatchPost deviceId)
      ((EntityAdapter.asyncInit (Hatch.operations P deviceIdentity)).bind next) start
      (point : (calmWorld deviceId).Point) := by
  simp only [EntityAdapter.asyncInit, Coro.bind_eq, Coro.pure_eq, Coro.bind_assoc]
  have hretry := EntityAdapter.composed_connectRetry (part_composes deviceId) (part_connect P deviceIdentity deviceId)
    (part_wait P deviceIdentity deviceId initRetryDelay) initRetryAttempts none
  refine hretry _ start point h fun error start later hsince => ?_
  cases error with
  | some _ => exact hnext false start later hsince nofun
  | none => exact wp_configure P deviceIdentity deviceId next start later hsince hnext

-- The creation inserts the hatch in the segment in which it finds it synchronized.
theorem wp_deviceCreated (created : DeviceId) (start point : HatchPoint) (h : Since deviceId start point) :
    wp (hatchContract deviceId) (hatchPost deviceId) (HatchEventHandler.deviceCreated P deviceIdentity created) start
      (point : (calmWorld deviceId).Point) := by
  unfold HatchEventHandler.deviceCreated
  refine wp_init P deviceIdentity deviceId _ start point h fun initialized start later hsince hsynced => ?_
  cases initialized with
  | false => exact hsince
  | true =>
      have htracked := tracked_pushBack deviceId later.1 later.2 created hsince.tracked (hsynced rfl)
      exact ⟨htracked, hsince.published⟩

theorem wp_run (fuel : Nat) (start point : HatchPoint) (h : Since deviceId start point) :
    wp (hatchContract deviceId) (hatchPost deviceId)
      (EntityAdapter.asyncRun (Hatch.operations P deviceIdentity) fuel) start (point : (calmWorld deviceId).Point) := by
  have hcomposes := part_composes deviceId
  have herror := EntityAdapter.composed_handleError hcomposes (part_connect P deviceIdentity deviceId)
    (part_configure P deviceIdentity deviceId)
  have hreceive := part_await deviceId .receive (fun _ => nofun) .ret fun value => hcomposes.ret _ value
  have hrun := EntityAdapter.composed_runLoop hcomposes hreceive (fun _ => hcomposes.ret _ _) herror fuel
  exact hrun.wp (fun _ _ _ => id) h

-- Other events than those of the hatch leave its own ones in flight.
theorem tracked_dequeue (broker : Broker) (system : HatchSystem) (before after : List Spawned) (handler : Spawned)
    (hqueue : system.queue = before ++ handler :: after) (hother : handler ≠ .deviceStateChanged deviceId)
    (h : Tracked deviceId (broker, system)) :
    Tracked deviceId ({ broker with started := broker.started ++ [handler] },
      { system with queue := before ++ after }) := by
  refine ⟨⟨h.poller, h.hash⟩, fun hread observed hobserved hdetermined => ?_⟩
  rcases h.shown hread observed hobserved hdetermined with hshows | hevent
  · exact Or.inl hshows
  · refine Or.inr ?_
    have hmem : Spawned.deviceStateChanged deviceId ∈ before ++ handler :: after := hqueue ▸ hevent
    simp only [List.mem_append, List.mem_cons] at hmem ⊢
    rcases hmem with hbefore | hhandler | hafter
    · exact Or.inl hbefore
    · exact absurd hhandler.symm hother
    · exact Or.inr hafter

-- An event of the hatch is followed by a read, or it is dropped.
theorem wp_deviceStateChanged (changed : DeviceId) (start point : HatchPoint) (hpolled : Polled deviceId point)
    (hpublished : start.1.published ≠ [] → point.1.published ≠ [])
    (hcalm : CalmStart deviceId (.deviceStateChanged changed) point)
    (hother : changed ≠ deviceId → Tracked deviceId point) :
    wp (hatchContract deviceId) (hatchPost deviceId)
      (HatchEventHandler.deviceStateChanged P deviceIdentity changed) start
      (point : (calmWorld deviceId).Point) := by
  unfold HatchEventHandler.deviceStateChanged
  simp only [Coro.bind_eq, Coro.pure_eq, Coro.state, Coro.bind, wp_get]
  cases hfind : point.2.hatches.find? fun hatch => changed = hatch with
  | some hatch =>
      have hmem : changed ∈ point.2.hatches := by
        have hfound := List.find?_some hfind
        rw [of_decide_eq_true hfound]
        exact List.mem_of_find?_eq_some hfind
      simp only [CalmStart, hmem, if_true] at hcalm
      rw [← Coro.bind_ret (EntityAdapter.asyncSyncState _)]
      exact wp_syncState P deviceIdentity deviceId .ret start point hpolled hpublished hcalm
        fun _ _ hsince _ => hsince
  | none =>
      have hmissing : changed ∉ point.2.hatches := fun hmem => by
        simpa using List.find?_eq_none.mp hfind changed hmem
      simp only [CalmStart, hmissing, if_false] at hcalm
      by_cases hself : changed = deviceId
      · rw [hself] at hmissing
        refine ⟨⟨hpolled, fun hread => ?_⟩, hpublished⟩
        rcases hread with hread | hmem
        · exact hcalm hread
        · exact absurd hmem hmissing
      · exact ⟨hother hself, hpublished⟩

theorem wp_spawned (fuel : Nat) (broker : Broker) (system : HatchSystem) (before after : List Spawned)
    (handler : Spawned) (hqueue : system.queue = before ++ handler :: after)
    (hcalm : CalmStart deviceId handler (broker, { system with queue := before ++ after }))
    (h : Tracked deviceId (broker, system)) :
    wp (hatchContract deviceId) (hatchPost deviceId) (HatchEventHandler.spawned P deviceIdentity fuel handler)
      ((broker, system) : (calmWorld deviceId).Point)
      (({ broker with started := broker.started ++ [handler] }, { system with queue := before ++ after }) :
        (calmWorld deviceId).Point) := by
  have htracked := fun hother => tracked_dequeue deviceId broker system before after handler hqueue hother h
  cases handler with
  | deviceCreated created => exact wp_deviceCreated P deviceIdentity deviceId created _ _ ⟨htracked nofun, id⟩
  | run hatch => exact wp_run P deviceIdentity deviceId fuel _ _ ⟨htracked nofun, id⟩
  | deviceStateChanged changed =>
      refine wp_deviceStateChanged P deviceIdentity deviceId changed _ _ ⟨h.poller, h.hash⟩ id hcalm
        fun hchanged => htracked fun hhandler => ?_
      exact hchanged (Spawned.deviceStateChanged.inj hhandler)

end Handlers

section Runs

variable (P : Platform) (deviceIdentity : DeviceIdentity) (deviceId : DeviceId)

abbrev calmArena : Arena (calmWorld deviceId) Unit :=
  hatchArena P deviceIdentity (CalmRead deviceId) (CalmStart deviceId)

theorem env_keeps (before after : HatchPoint) (h : Tracked deviceId before) (henv : HatchEnv before after) :
    Since deviceId before after := by
  cases henv with
  | change broker system status => exact ⟨tracked_change deviceId broker system status h, id⟩
  | poll broker system => exact ⟨tracked_poll deviceId broker system h, id⟩

-- All coroutines of the event handler keep one contract.
def hatchProtocol : Protocol (calmArena P deviceIdentity deviceId) where
  inv := Tracked deviceId
  contract _ := hatchContract deviceId
  post _ := hatchPost deviceId
  effect _ := Since deviceId
  base := 0
  guar_effect _ _ _ h := h
  ret_effect _ _ _ _ h := h
  throw_effect _ _ _ _ h := h
  spin_effect _ _ _ h := h
  effect_inv _ _ _ h _ := h.tracked
  env_inv before after h henv := (env_keeps deviceId before after h henv).tracked
  rely_refl _ _ h := .refl deviceId h
  rely_env _ _ before after hrely h henv :=
    have hsince := env_keeps deviceId before after h henv
    ⟨hsince.tracked, fun hread => hsince.published (hrely.published hread)⟩
  rely_effect _ _ _ _ _ _ hrely _ heffect :=
    ⟨heffect.tracked, fun hread => heffect.published (hrely.published hread)⟩
  spawn_wp _ _ _ _ _ h hspawn := by
    obtain ⟨broker, system, before, after, handler, fuel, hqueue, hcalm⟩ := hspawn
    exact wp_spawned P deviceIdentity deviceId fuel broker system before after handler hqueue hcalm h

theorem tracked_start (status : HatchState) : Tracked deviceId (hatchStart deviceId status) :=
  ⟨⟨rfl, rfl⟩, fun _ => nofun⟩

-- Once the hatch has been created and no event is in flight, the state that has been
-- published last is the one that the poller has seen last. A state counts as
-- published from its read on, so the handlers need not have finished.
theorem no_update_lost (status observed : HatchState) (pool : Pool (calmWorld deviceId) Unit)
    (hreach : Pool.Reach (calmArena P deviceIdentity deviceId) ⟨hatchStart deviceId status, []⟩ pool)
    (hcreated : deviceId ∈ pool.point.2.hatches)
    (hquiet : .deviceStateChanged deviceId ∉ pool.point.2.queue)
    (hobserved : pool.point.2.observed = some observed) (hdetermined : observed = .open ∨ observed = .closed) :
    pool.point.1.published.head? = some (Hatch.state observed) := by
  have hgood : (hatchProtocol P deviceIdentity deviceId).PoolGood pool :=
    Protocol.reach_good _ hreach ⟨tracked_start deviceId status, Nat.zero_le _, nofun⟩
  have hsynced := hgood.inv.shown (Or.inr hcreated)
  have hvisible : Determined observed := by
    rcases hdetermined with rfl | rfl <;> exact nofun
  rcases hsynced observed hobserved hvisible with hshows | hevent
  · exact hshows
  · exact absurd hevent hquiet

end Runs

section Samples

def sampleIdentity : DeviceIdentity := ⟨[], [], [], [], []⟩

-- The creation of a closed hatch waits for its publish, with the new poller not yet
-- run.
def creating : HatchPoint := (⟨[.closed], [.deviceCreated 1]⟩, ⟨.closed, ⟨1, 0⟩, none, [], []⟩)

def creation : Coro coverSig HatchSystem Unit :=
  .await (.setState .closed) fun _ => .modify (HatchEventHandler.pushBack 1)

theorem reach_creating (calm : HatchPoint → Prop) (calmStart : Spawned → HatchPoint → Prop)
    (hcalm : calm (⟨[], [.deviceCreated 1]⟩, ⟨.closed, ⟨1, 0⟩, none, [], []⟩))
    (hstart : calmStart (.deviceCreated 1) (⟨[], []⟩, ⟨.closed, ⟨1, 0⟩, none, [], []⟩)) :
    Pool.Reach (hatchArena samplePlatform sampleIdentity calm calmStart) ⟨hatchStart 1 .closed, []⟩
      ⟨creating, [creation]⟩ := by
  refine .head (.spawn _ _ _ (.start _ _ [] [] (.deviceCreated 1) 0 rfl hstart)) ?_
  refine .head (.resume _ 0 CoverQuery.connect _ none rfl trivial) ?_
  refine .head (.resume _ 0 (CoverQuery.configure (Hatch.config sampleIdentity)) _ none rfl trivial) ?_
  refine .head (.resume _ 0 (CoverQuery.wait 1) _ none rfl trivial) ?_
  refine .head (.resume _ 0 (CoverQuery.setAvailability .online) _ none rfl ?_) .refl
  exact ⟨rfl, hcalm⟩

-- The hatch stays closed; its poller's event is handled after the creation.
theorem no_update_lost_closed :
    ∃ pool, Pool.Reach (calmArena samplePlatform sampleIdentity 1) ⟨hatchStart 1 .closed, []⟩ pool ∧
      pool.point.1.published.head? = some (Hatch.state .closed) := by
  have hcreated : Pool.Reach (calmArena samplePlatform sampleIdentity 1) ⟨hatchStart 1 .closed, []⟩
      ⟨creating, [creation]⟩ := reach_creating _ _ (fun _ => nofun) trivial
  have hcalm : CalmStart 1 (.deviceStateChanged 1)
      (⟨[.closed], [.deviceCreated 1]⟩, ⟨.closed, ⟨1, 2⟩, some .closed, [.run 1], [1]⟩) := by
    simp [CalmStart, CalmRead]
  have hrest : Pool.Reach (calmArena samplePlatform sampleIdentity 1) ⟨creating, [creation]⟩
      ⟨(⟨[.closed, .closed], [.deviceCreated 1, .deviceStateChanged 1]⟩,
        ⟨.closed, ⟨1, 2⟩, some .closed, [.run 1], [1]⟩), [.ret (), .ret ()]⟩ := by
    refine .head (.resume _ 0 (CoverQuery.setState .closed) _ none rfl rfl) ?_
    refine .head (.env _ _ (.poll _ _)) ?_
    refine .head (.spawn _ _ _ (.start _ _ [.run 1] [] (.deviceStateChanged 1) 0 rfl hcalm)) ?_
    exact .head (.resume _ 1 (CoverQuery.setState .closed) _ none rfl rfl) .refl
  have hreach := hcreated.trans hrest
  exact ⟨_, hreach, no_update_lost samplePlatform sampleIdentity 1 .closed .closed _ hreach (by decide) (by decide)
    rfl (Or.inr rfl)⟩

-- The hatch opens while its creation publishes that it is closed. The event is
-- dropped, and nothing follows it.
theorem update_lost_while_creating :
    ∃ pool, Pool.Reach (hatchArena samplePlatform sampleIdentity (fun _ => True) fun _ _ => True)
        ⟨hatchStart 1 .closed, []⟩ pool ∧
      1 ∈ pool.point.2.hatches ∧ pool.point.2.queue = [.run 1] ∧ (∀ task ∈ pool.tasks, task = .ret ()) ∧
      pool.point.2.observed = some .open ∧ pool.point.1.published.head? ≠ some (Hatch.state .open) := by
  have hcreating := reach_creating (fun _ => True) (fun _ _ => True) trivial trivial
  have hrest : Pool.Reach (hatchArena samplePlatform sampleIdentity (fun _ => True) fun _ _ => True)
      ⟨creating, [creation]⟩
      ⟨(⟨[.closed], [.deviceCreated 1, .deviceStateChanged 1]⟩,
        ⟨.open, ⟨1, 1⟩, some .open, [.run 1], [1]⟩), [.ret (), .ret ()]⟩ := by
    refine .head (.env _ _ (.change _ _ .open)) ?_
    refine .head (.env _ _ (.poll _ _)) ?_
    refine .head (.spawn _ _ _ (.start _ _ [] [] (.deviceStateChanged 1) 0 rfl trivial)) ?_
    exact .head (.resume _ 0 (CoverQuery.setState .closed) _ none rfl rfl) .refl
  refine ⟨_, hcreating.trans hrest, ?_⟩
  simp [Hatch.state]

end Samples

end HhctrlMgmt.Adapter
