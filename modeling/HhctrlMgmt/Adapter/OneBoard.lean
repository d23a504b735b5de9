import HhctrlMgmt.Adapter.Board

namespace HhctrlMgmt.Adapter.Board

open Common Coroutine Device Mqtt

-- The last answer that a creation awaits only comes while no board is installed.
def UnoccupiedAnswer : AnswerRule := fun spawn part operation answer point =>
  spawn.job.Creates → part = .restartButton → (∃ availability, operation = .setAvailability availability) →
    (∃ reply, answer = .ok reply) → point.2.device = none

abbrev unoccupiedWorld : World boardSig State := boardWorld UnoccupiedAnswer

section Invariant

structure Kept (point : Journal × State) : Prop where
  nodup : (jobs point).Nodup
  numbers : ∀ spawn ∈ jobs point, spawn.number < point.2.nextNumber
  emplaced : ∀ spawn, Emplaced point spawn → spawn ∈ point.1.started
  creating : ∀ spawn ∈ point.1.creating, spawn ∈ point.1.started
  once : point.1.emplaced.length ≤ 1
  device : point.2.device = point.1.emplaced.head?.map Prod.snd
  loops : ((jobs point).filterMap Spawn.board?).Perm (point.1.emplaced.map Prod.snd)

-- What others see of a segment of a coroutine, which starts or goes on.
structure Since (spawn : Spawn) (before after : Journal × State) : Prop where
  kept : Kept after
  stays : spawn ∈ before.1.started → after.1.started = before.1.started
  joins : spawn ∉ before.1.started → after.1.started = before.1.started ++ [spawn]
  emplaced : ∀ other, other ≠ spawn → (Emplaced after other ↔ Emplaced before other)
  creating : ∀ other, other ≠ spawn → (other ∈ after.1.creating ↔ other ∈ before.1.creating)

structure Going (spawn : Spawn) (start point : Journal × State) : Prop where
  since : Since spawn start point
  started : spawn ∈ point.1.started
  fresh : ¬Emplaced point spawn
  creating : spawn.job.Creates → spawn ∈ point.1.creating

theorem Going.refl {spawn : Spawn} {point : Journal × State} (hkept : Kept point) (hstarted : spawn ∈ point.1.started)
    (hfresh : ¬Emplaced point spawn) (hcreating : spawn.job.Creates → spawn ∈ point.1.creating) :
    Going spawn point point :=
  ⟨⟨hkept, fun _ => rfl, fun hnot => absurd hstarted hnot, fun _ _ => Iff.rfl, fun _ _ => Iff.rfl⟩, hstarted, hfresh,
    hcreating⟩

theorem kept_change (journal : Journal) (state : State) (identity : DeviceId → Except Exn DeviceIdentity)
    (indicatorState : DeviceId → IndicatorType → Except Exn Platform.IndicatorState)
    (restart : DeviceId → Except Exn Unit) (h : Kept (journal, state)) :
    Kept (journal, { state with identity := identity, indicatorState := indicatorState, restart := restart }) :=
  ⟨h.nodup, h.numbers, h.emplaced, h.creating, h.once, h.device, h.loops⟩

theorem jobs_coSpawn (journal : Journal) (state : State) (job : Job) :
    jobs (journal, state.coSpawn job) = jobs (journal, state) ++ [⟨state.nextNumber, job⟩] := by
  simp only [jobs, State.coSpawn, List.append_assoc]

-- A new number is not among those given before.
theorem nodup_coSpawn {journal : Journal} {state : State} (job : Job) (hnodup : (jobs (journal, state)).Nodup)
    (hnumbers : ∀ spawn ∈ jobs (journal, state), spawn.number < state.nextNumber) :
    (jobs (journal, state.coSpawn job)).Nodup := by
  rw [jobs_coSpawn, ← List.concat_eq_append]
  refine List.Nodup.concat (fun hmem => ?_) hnodup
  have hlt := hnumbers _ hmem
  exact absurd hlt (Nat.lt_irrefl _)

theorem numbers_coSpawn {journal : Journal} {state : State} (job : Job)
    (hnumbers : ∀ spawn ∈ jobs (journal, state), spawn.number < state.nextNumber) :
    ∀ spawn ∈ jobs (journal, state.coSpawn job), spawn.number < (state.coSpawn job).nextNumber := by
  intro spawn hmem
  rw [jobs_coSpawn] at hmem
  rcases List.mem_append.mp hmem with hold | hnew
  · exact Nat.lt_succ_of_lt (hnumbers spawn hold)
  · rw [List.mem_singleton.mp hnew]
    exact Nat.lt_succ_self _

theorem kept_coSpawn {journal : Journal} {state : State} (job : Job) (hjob : ∀ board, job ≠ .run board)
    (h : Kept (journal, state)) : Kept (journal, state.coSpawn job) := by
  refine ⟨nodup_coSpawn job h.nodup h.numbers, numbers_coSpawn job h.numbers, h.emplaced, h.creating, h.once,
    h.device, ?_⟩
  have hnone : Spawn.board? ⟨state.nextNumber, job⟩ = none := by
    cases job with
    | run board => exact absurd rfl (hjob board)
    | deviceCreated _ | deviceRemoved _ | deviceStateChanged _ | runIndicator _ | runButton _ => rfl
  rw [jobs_coSpawn, List.filterMap_append, List.filterMap_cons_none hnone, List.filterMap_nil, List.append_nil]
  exact h.loops

-- A start only moves the coroutine.
theorem jobs_start (journal : Journal) (state : State) (before after : List Spawn) (spawn : Spawn)
    (hqueue : state.queue = before ++ spawn :: after) :
    (jobs ({ journal with started := journal.started ++ [spawn] }, { state with queue := before ++ after })).Perm
      (jobs (journal, state)) := by
  simp only [jobs, hqueue, List.append_assoc, List.singleton_append]
  exact List.Perm.append_left _ List.perm_middle.symm

theorem kept_start {journal : Journal} {state : State} {before after : List Spawn} {spawn : Spawn}
    (h : Kept (journal, state)) (hqueue : state.queue = before ++ spawn :: after) :
    Kept ({ journal with started := journal.started ++ [spawn] }, { state with queue := before ++ after }) := by
  have hperm := jobs_start journal state before after spawn hqueue
  refine ⟨hperm.nodup_iff.mpr h.nodup, ?_, ?_, ?_, h.once, h.device, (hperm.filterMap _).trans h.loops⟩
  · exact fun other hother => h.numbers other (hperm.mem_iff.mp hother)
  · exact fun other hother => List.mem_append_left _ (h.emplaced other hother)
  · exact fun other hother => List.mem_append_left _ (h.creating other hother)

theorem Kept.queued {journal : Journal} {state : State} {before after : List Spawn} {spawn : Spawn}
    (h : Kept (journal, state)) (hqueue : state.queue = before ++ spawn :: after) : spawn ∉ journal.started := by
  intro hstarted
  have hmem : spawn ∈ state.queue := by simp [hqueue]
  exact (List.nodup_append.mp h.nodup).2.2 _ hstarted _ hmem rfl

theorem kept_creating {journal : Journal} {state : State} {spawn : Spawn} (h : Kept (journal, state))
    (hstarted : spawn ∈ journal.started) : Kept (journal.note (.creating spawn), state) := by
  refine ⟨h.nodup, h.numbers, h.emplaced, fun other hother => ?_, h.once, h.device, h.loops⟩
  rcases List.mem_append.mp hother with hold | hnew
  · exact h.creating other hold
  · rw [List.mem_singleton.mp hnew]
    exact hstarted

-- Nothing has been emplaced while the device is empty.
theorem Kept.empty {journal : Journal} {state : State} (h : Kept (journal, state)) (hdevice : state.device = none) :
    journal.emplaced = [] := by
  have hhead : journal.emplaced.head?.map Prod.snd = none := h.device.symm.trans hdevice
  exact List.head?_eq_none_iff.mp (Option.map_eq_none_iff.mp hhead)

theorem kept_emplace {journal : Journal} {state : State} {spawn : Spawn} (board : MainBoard) (h : Kept (journal, state))
    (hstarted : spawn ∈ journal.started) (hdevice : state.device = none) :
    Kept (journal.note (.emplaced spawn board), (MainBoardEventHandler.emplace board state).coSpawn (.run board)) := by
  have hempty := h.empty hdevice
  have hloops : (jobs (journal, state)).filterMap Spawn.board? = [] := by
    have hperm := h.loops
    simp only [hempty, List.map_nil] at hperm
    exact hperm.eq_nil
  have hjobs : jobs (journal.note (.emplaced spawn board), MainBoardEventHandler.emplace board state) =
      jobs (journal, state) := rfl
  refine ⟨nodup_coSpawn _ h.nodup h.numbers, numbers_coSpawn _ h.numbers, fun other hother => ?_,
    h.creating, ?_, ?_, ?_⟩
  · obtain rfl : other = spawn := by simpa [Emplaced, Journal.note, hempty] using hother
    exact hstarted
  · simp [Journal.note, hempty]
  · simp [Journal.note, hempty, State.coSpawn, MainBoardEventHandler.emplace]
  · rw [jobs_coSpawn, hjobs, List.filterMap_append, hloops]
    simp [Journal.note, hempty, Spawn.board?]

end Invariant

section Jobs

-- The others leave a suspended coroutine as it is.
def spawnContract (spawn : Spawn) : Contract unoccupiedWorld where
  rely first later := Kept later ∧ (spawn ∈ first.1.started → spawn ∈ later.1.started) ∧
    (Emplaced later spawn ↔ Emplaced first spawn) ∧ (spawn ∈ later.1.creating ↔ spawn ∈ first.1.creating)
  guar := Going spawn

def spawnPost (spawn : Spawn) : Post unoccupiedWorld Unit where
  ret _ start point := Since spawn start point ∧ (spawn.job.Creates → Emplaced point spawn)
  throw exn start point := Since spawn start point ∧ ¬Emplaced point spawn ∧
    (spawn.job.Creates → exn = MainBoardEventHandler.unexpectedValue ∨ spawn ∈ point.1.creating)
  spin start point := Since spawn start point

-- A part of a coroutine that emplaces nothing.
def goingPost (spawn : Spawn) (α : Type) : Post unoccupiedWorld α where
  ret _ := Going spawn
  throw _ := Going spawn
  spin := Going spawn

def Safe (spawn : Spawn) (α : Type) (task : Task α) : Prop :=
  ∀ start point : Journal × State, Going spawn start point →
    wp (spawnContract spawn) (goingPost spawn α) task (start : unoccupiedWorld.Point) (point : unoccupiedWorld.Point)

variable {spawn : Spawn}

theorem Going.later {first later : Journal × State} {start : Journal × State} (h : Going spawn start first)
    (hrely : (spawnContract spawn).rely first later) : Going spawn later later :=
  .refl hrely.1 (hrely.2.1 h.started) (fun hemplaced => h.fresh (hrely.2.2.1.mp hemplaced)) fun hcreates =>
    hrely.2.2.2.mpr (h.creating hcreates)

theorem safe_composes : EntityAdapter.Composes (Safe spawn) where
  ret _ _ _ _ h := h
  spin _ _ _ h := h
  bind _ _ _ _ hfirst hnext start point h :=
    wp_call (hfirst start point h) (fun value start point => hnext value start point) (fun _ _ _ => id) fun _ _ => id

theorem safe_ask (part : Part) (operation : Operation) : Safe spawn _ (ask spawn part operation) := by
  intro start point h
  refine ⟨h, fun later hrely answer _ => ?_⟩
  have hlater : Going spawn later later := h.later hrely
  cases answer with
  | ok reply => exact hlater
  | error exn => exact hlater

theorem safe_ofExcept {α : Type} (result : Except Exn α) : Safe spawn α (.ofExcept result) := by
  intro start point h
  cases result with
  | ok value => exact h
  | error exn => exact h

theorem safe_state : Safe spawn State .state :=
  fun _ _ h => h

theorem each_operations (part : Part) (config : EntityConfig) (state : Option (Task BinarySensorState))
    (handle : part.Command → Task Unit) (hstate : ∀ read, state = some read → Safe spawn _ read)
    (hhandle : ∀ command, Safe spawn _ (handle command)) :
    EntityAdapter.Each (operations spawn part config state handle) (Safe spawn) where
  connect := safe_ask part .connect
  configure config _ := safe_ask part (.configure config)
  setAvailability availability _ := safe_ask part (.setAvailability availability)
  setState state _ := safe_ask part (.setState state)
  receive := safe_ask part .receive
  config := safe_composes.ret _ _
  state := hstate
  handleRecvValue := hhandle
  wait seconds := safe_ask part (.wait seconds)

theorem safe_indicatorState (indicator : Indicator) : Safe spawn _ indicator.state := by
  refine safe_composes.bind _ _ _ _ safe_state fun machine => ?_
  refine safe_composes.bind _ _ _ _ (safe_ofExcept _) fun state => ?_
  cases state with
  | on | off | notAvailable | blinking => exact safe_composes.ret _ _

theorem each_indicator (indicator : Indicator) : EntityAdapter.Each (indicator.adapter spawn) (Safe spawn) := by
  refine each_operations (.indicator indicator.indicatorType) _ _ _ (fun read hread => ?_) fun command => command.elim
  obtain rfl : indicator.state = read := Option.some.inj hread
  exact safe_indicatorState indicator

theorem each_button (button : RestartButton) : EntityAdapter.Each (button.adapter spawn) (Safe spawn) := by
  refine each_operations .restartButton _ _ _ (fun read hread => ?_) fun command => ?_
  · exact absurd hread.symm (Option.some_ne_none read)
  · cases command with
    | press => exact safe_composes.bind _ _ _ _ safe_state fun machine => safe_ofExcept _

theorem safe_createIndicator (broker : BrokerConfig) (deviceId : DeviceId) (indicatorType : IndicatorType)
    (identity : DeviceIdentity) :
    Safe spawn _ (Indicator.asyncCreate broker spawn deviceId indicatorType identity) := by
  refine safe_composes.bind _ _ _ _ safe_state fun machine => ?_
  refine safe_composes.bind _ _ _ _ (safe_ofExcept _) fun state => ?_
  by_cases hstate : state = .notAvailable
  · rw [if_pos hstate]
    exact safe_composes.ret _ _
  · rw [if_neg hstate]
    refine safe_composes.bind _ _ _ _ (safe_ofExcept _) fun _ => ?_
    refine safe_composes.bind _ _ _ _ (EntityAdapter.composed_init safe_composes (each_indicator _))
      fun initialized => ?_
    cases initialized with
    | true | false => exact safe_composes.ret _ _

-- A button that is online is so at its last answer.
def buttonPost (spawn : Spawn) : Post unoccupiedWorld Bool where
  ret initialized start point := Going spawn start point ∧
    (initialized = true → spawn.job.Creates → point.2.device = none)
  throw _ := Going spawn
  spin := Going spawn

theorem wp_buttonInit (button : RestartButton) (start point : Journal × State) (h : Going spawn start point) :
    wp (spawnContract spawn) (buttonPost spawn) (EntityAdapter.asyncInit (button.adapter spawn))
      (start : unoccupiedWorld.Point) (point : unoccupiedWorld.Point) := by
  have hoffline (start point : unoccupiedWorld.Point) (h : Going spawn start point) :
      wp (spawnContract spawn) (buttonPost spawn) (.ret false) start point := ⟨h, fun hfalse => by cases hfalse⟩
  have hask := @safe_ask spawn .restartButton
  have hretry : Safe spawn Error (EntityAdapter.connectRetry (button.adapter spawn) initRetryAttempts none) :=
    EntityAdapter.composed_connectRetry safe_composes (hask .connect) (hask (.wait initRetryDelay)) _ _
  refine wp_call (hretry start point h) (fun failure start point h => ?_) (fun _ _ _ => id) fun _ _ => id
  cases failure with
  | some _ => exact hoffline start point h
  | none =>
      have hconfigure := hask (.configure button.config) start point h
      simp only [EntityAdapter.asyncConfigure, RestartButton.adapter, operations, Coro.bind_eq, Coro.bind]
      refine wp_call hconfigure (fun failure start point h => ?_) (fun _ _ _ => id) fun _ _ => id
      cases failure with
      | some _ => exact hoffline start point h
      | none =>
          have hwait := hask (.wait 1) start point h
          refine wp_call hwait (fun _ start point h => ?_) (fun _ _ _ => id) fun _ _ => id
          refine ⟨h, fun later hrely answer hallow => ?_⟩
          have hlater : Going spawn later later := h.later hrely
          cases answer with
          | error exn => exact hlater
          | ok reply => exact ⟨hlater, fun _ hcreates => hallow hcreates rfl ⟨.online, rfl⟩ ⟨reply, rfl⟩⟩

theorem since_start {journal : Journal} {state : State} {before after : List Spawn} (h : Kept (journal, state))
    (hqueue : state.queue = before ++ spawn :: after) :
    Since spawn (journal, state)
      ({ journal with started := journal.started ++ [spawn] }, { state with queue := before ++ after }) :=
  ⟨kept_start h hqueue, fun hmem => absurd hmem (h.queued hqueue), fun _ => rfl, fun _ _ => Iff.rfl, fun _ _ => Iff.rfl⟩

theorem since_creating {start : Journal × State} {journal : Journal} {state : State}
    (h : Since spawn start (journal, state)) (hstarted : spawn ∈ journal.started) :
    Since spawn start (journal.note (.creating spawn), state) := by
  refine ⟨kept_creating h.kept hstarted, h.stays, h.joins, h.emplaced, fun other hother => ?_⟩
  refine Iff.trans ?_ (h.creating other hother)
  simp [Journal.note, hother]

theorem since_emplaced {start : Journal × State} {journal : Journal} {state : State} (board : MainBoard)
    (h : Since spawn start (journal, state)) (hstarted : spawn ∈ journal.started) (hdevice : state.device = none) :
    Since spawn start
      (journal.note (.emplaced spawn board), (MainBoardEventHandler.emplace board state).coSpawn (.run board)) := by
  refine ⟨kept_emplace board h.kept hstarted hdevice, h.stays, h.joins, fun other hother => ?_, h.creating⟩
  refine Iff.trans ?_ (h.emplaced other hother)
  simp [Emplaced, Journal.note, hother]

-- The whole post-condition of a coroutine that creates no board.
theorem Going.done {start point : Journal × State} (h : Going spawn start point) (exn : Exn) :
    (spawnPost spawn).throw exn start point :=
  ⟨h.since, h.fresh, fun hcreates => Or.inr (h.creating hcreates)⟩

theorem wp_of_safe {task : Task Unit} (hsafe : Safe spawn Unit task) (hjob : ¬spawn.job.Creates)
    {start point : Journal × State} (h : Going spawn start point) :
    wp (spawnContract spawn) (spawnPost spawn) task (start : unoccupiedWorld.Point)
      (point : unoccupiedWorld.Point) := by
  apply wp_mono (hsafe start point h)
  · exact fun _ _ _ hret => ⟨hret.since, fun hcreates => absurd hcreates hjob⟩
  · exact fun exn _ _ hthrow => hthrow.done exn
  · exact fun _ _ hspin => hspin.since

-- A creation that yields its part is at its last answer if the part is the button.
def createPost (spawn : Spawn) (α : Type) : Post unoccupiedWorld (Option α) where
  ret created start point := Going spawn start point ∧
    (created.isSome = true → spawn.job.Creates → point.2.device = none)
  throw _ := Going spawn
  spin := Going spawn

theorem wp_createButton (broker : BrokerConfig) (deviceId : DeviceId) (identity : DeviceIdentity)
    (start point : Journal × State) (h : Going spawn start point) :
    wp (spawnContract spawn) (createPost spawn RestartButton) (RestartButton.asyncCreate broker spawn deviceId identity)
      (start : unoccupiedWorld.Point) (point : unoccupiedWorld.Point) := by
  have hadapter := @safe_ofExcept spawn _ (createAdapter (Adapter.RestartButton.entity broker identity deviceId))
  refine wp_call (hadapter start point h) (fun _ start point h => ?_) (fun _ _ _ => id) fun _ _ => id
  have hinit := @wp_buttonInit spawn ⟨deviceId, identity⟩ start point h
  refine wp_call hinit (fun initialized start point h => ?_) (fun _ _ _ => id) fun _ _ => id
  cases initialized with
  | false => exact ⟨h.1, fun hnone => by cases hnone⟩
  | true => exact ⟨h.1, fun _ => h.2 rfl⟩

theorem wp_createBoard (broker : BrokerConfig) (arrange : List Indicator → List Indicator) (deviceId : DeviceId)
    (start point : Journal × State) (h : Since spawn start point) (hstarted : spawn ∈ point.1.started)
    (hfresh : ¬Emplaced point spawn) :
    wp (spawnContract spawn) (createPost spawn MainBoard) (MainBoard.asyncCreate broker arrange spawn deviceId)
      (start : unoccupiedWorld.Point) (point : unoccupiedWorld.Point) := by
  obtain ⟨journal, state⟩ := point
  simp only [MainBoard.asyncCreate, Coro.bind_eq, Coro.label, Coro.state, Coro.bind]
  refine (wp_enter _ _).mpr ((wp_get _).mpr ?_)
  have hgoing : Going spawn start (journal.note (.creating spawn), state) :=
    ⟨since_creating h hstarted, hstarted, hfresh, fun _ => List.mem_append_right _ (List.mem_singleton.mpr rfl)⟩
  refine wp_ofExcept _ _ _ _ (fun identity _ => ?_) fun _ _ => hgoing
  have hindicator (indicatorType : IndicatorType) := @safe_createIndicator spawn broker deviceId indicatorType identity
  refine wp_call (hindicator .fault _ _ hgoing) (fun fault start point h => ?_) (fun _ _ _ => id) fun _ _ => id
  refine wp_call (hindicator .status _ _ h) (fun status start point h => ?_) (fun _ _ _ => id) fun _ _ => id
  refine wp_call (hindicator .warning _ _ h) (fun warning start point h => ?_) (fun _ _ _ => id) fun _ _ => id
  refine wp_call (hindicator .maintenance _ _ h) (fun maintenance start point h => ?_) (fun _ _ _ => id) fun _ _ => id
  have hnone : wp (spawnContract spawn) (createPost spawn MainBoard) (.ret none) start point :=
    ⟨h, fun hsome => by cases hsome⟩
  cases fault with
  | none => exact hnone
  | some fault =>
      cases status with
      | none => exact hnone
      | some status =>
          cases warning with
          | none => exact hnone
          | some warning =>
              cases maintenance with
              | none => exact hnone
              | some maintenance =>
                  have hbutton := wp_createButton broker deviceId identity start point h
                  refine wp_call hbutton (fun button start point h => ?_) (fun _ _ _ => id) fun _ _ => id
                  cases button with
                  | none => exact ⟨h.1, fun hsome => by cases hsome⟩
                  | some button => exact ⟨h.1, fun _ => h.2 rfl⟩

theorem wp_deviceCreated (broker : BrokerConfig) (arrange : List Indicator → List Indicator) (deviceId : DeviceId)
    (hcreates : spawn.job.Creates) (start point : Journal × State) (h : Since spawn start point)
    (hstarted : spawn ∈ point.1.started) (hfresh : ¬Emplaced point spawn) :
    wp (spawnContract spawn) (spawnPost spawn) (MainBoardEventHandler.deviceCreated broker arrange spawn deviceId)
      (start : unoccupiedWorld.Point) (point : unoccupiedWorld.Point) := by
  simp only [MainBoardEventHandler.deviceCreated, Coro.bind_eq, Coro.state, Coro.bind]
  refine (wp_get _).mpr ?_
  by_cases hdevice : point.2.device.isSome = true
  · rw [if_pos hdevice]
    exact ⟨h, hfresh, fun _ => Or.inl rfl⟩
  · rw [if_neg hdevice]
    have hcreate := wp_createBoard broker arrange deviceId start point h hstarted hfresh
    refine wp_call hcreate (fun board start point h => ?_) (fun exn _ _ h => h.done exn) fun _ _ h => h.since
    obtain ⟨journal, state⟩ := point
    cases board with
    | none => exact h.1.done _
    | some board =>
        have hempty : state.device = none := h.2 rfl hcreates
        refine ⟨since_emplaced board h.1.since h.1.started hempty, fun _ => ?_⟩
        exact List.mem_map.mpr ⟨(spawn, board), List.mem_append_right _ (List.mem_singleton.mpr rfl), rfl⟩

theorem going_coSpawn {start : Journal × State} {journal : Journal} {state : State} (job : Job)
    (hjob : ∀ board, job ≠ .run board) (h : Going spawn start (journal, state)) :
    Going spawn start (journal, state.coSpawn job) :=
  ⟨⟨kept_coSpawn job hjob h.since.kept, h.since.stays, h.since.joins, h.since.emplaced, h.since.creating⟩, h.started,
    h.fresh, h.creating⟩

theorem going_spawnIndicators {start : Journal × State} {journal : Journal} {state : State}
    (indicators : List Indicator) (h : Going spawn start (journal, state)) :
    Going spawn start
      (journal, indicators.foldl (fun state indicator => state.coSpawn (.runIndicator indicator)) state) := by
  induction indicators generalizing state with
  | nil => exact h
  | cons indicator rest ih => exact ih (going_coSpawn _ (fun board hrun => by cases hrun) h)

-- Only its entities are spawned by the async_run of a board.
theorem safe_runBoard (board : MainBoard) : Safe spawn Unit board.asyncRun := by
  intro start point h
  exact going_coSpawn (.runButton board.restartButton) (fun board hrun => by cases hrun)
    (going_spawnIndicators board.indicators h)

theorem safe_stateChanged : Safe spawn Unit (MainBoardEventHandler.deviceStateChanged spawn) := by
  refine safe_composes.bind _ _ _ _ safe_state fun state => ?_
  cases state.device with
  | none => exact safe_composes.ret _ _
  | some board =>
      have hsync (indicators : List Indicator) : Safe spawn Unit
          (indicators.forM fun indicator => EntityAdapter.asyncSyncState (indicator.adapter spawn)) := by
        induction indicators with
        | nil => exact safe_composes.ret _ _
        | cons indicator rest ih =>
            have hfirst := EntityAdapter.composed_syncState safe_composes (@each_indicator spawn indicator)
            exact safe_composes.bind _ _ _ _ hfirst fun _ => ih
      exact hsync board.indicators

theorem wp_task (broker : BrokerConfig) (arrange : List Indicator → List Indicator) (fuel : Nat)
    (start point : Journal × State) (h : Since spawn start point) (hstarted : spawn ∈ point.1.started)
    (hfresh : ¬Emplaced point spawn) :
    wp (spawnContract spawn) (spawnPost spawn) (spawn.task broker arrange fuel) (start : unoccupiedWorld.Point)
      (point : unoccupiedWorld.Point) := by
  have hgoing (hjob : ¬spawn.job.Creates) : Going spawn start point :=
    ⟨h, hstarted, hfresh, fun hcreates => absurd hcreates hjob⟩
  obtain ⟨number, job⟩ := spawn
  cases job with
  | deviceCreated deviceId =>
      have hcreates : (Spawn.mk number (.deviceCreated deviceId)).job.Creates := trivial
      exact wp_deviceCreated broker arrange deviceId hcreates start point h hstarted hfresh
  | deviceRemoved deviceId => exact wp_of_safe (safe_composes.ret _ _) id (hgoing id)
  | deviceStateChanged deviceId => exact wp_of_safe safe_stateChanged id (hgoing id)
  | run board => exact wp_of_safe (safe_runBoard board) id (hgoing id)
  | runIndicator indicator =>
      exact wp_of_safe (EntityAdapter.composed_run safe_composes (each_indicator indicator) fuel) id (hgoing id)
  | runButton button =>
      exact wp_of_safe (EntityAdapter.composed_run safe_composes (each_button button) fuel) id (hgoing id)

end Jobs

section Pools

variable (broker : BrokerConfig) (arrange : List Indicator → List Indicator)

theorem kept_env {before after : Journal × State} (henv : BoardEnv before after) (h : Kept before) : Kept after := by
  cases henv with
  | change journal state identity indicatorState restart =>
      exact kept_change journal state identity indicatorState restart h
  | publish journal state event =>
      refine kept_coSpawn event.handler (fun board hrun => ?_) h
      cases event with
      | created _ | removed _ | stateChanged _ => cases hrun

-- The surroundings record nothing.
theorem env_journal {before after : Journal × State} (henv : BoardEnv before after) : after.1 = before.1 := by
  cases henv with
  | change _ _ _ _ _ | publish _ _ _ => rfl

theorem since_started {spawn other : Spawn} {before after : Journal × State} (h : Since other before after)
    (hmem : spawn ∈ before.1.started) : spawn ∈ after.1.started := by
  by_cases hother : other ∈ before.1.started
  · rw [h.stays hother]
    exact hmem
  · rw [h.joins hother]
    exact List.mem_append_left _ hmem

def boardRoster : Roster (boardArena broker arrange UnoccupiedAnswer) Spawn where
  names point := point.1.started
  inv := Kept
  contract := spawnContract
  post := spawnPost
  effect := Since
  nodup _ h := (List.nodup_append.mp h.nodup).1
  guar_effect _ _ _ h := h.since
  ret_effect _ _ _ _ h := h.1
  throw_effect _ _ _ _ h := h.1
  spin_effect _ _ _ h := h
  effect_inv _ _ _ heffect _ := heffect.kept
  effect_names _ _ _ heffect hmem := heffect.stays hmem
  effect_joins _ _ _ heffect hnot := heffect.joins hnot
  env_inv _ _ h henv := kept_env henv h
  env_names _ _ henv := congrArg Journal.started (env_journal henv)
  rely_refl _ _ h := ⟨h, id, Iff.rfl, Iff.rfl⟩
  rely_env _ _ _ _ hrely h henv := by
    refine ⟨kept_env henv h, ?_⟩
    rw [Emplaced, env_journal henv]
    exact hrely.2
  rely_effect _ _ _ _ _ hne hrely _ heffect :=
    ⟨heffect.kept, fun hmem => since_started heffect (hrely.2.1 hmem), (heffect.emplaced _ hne).trans hrely.2.2.1,
      (heffect.creating _ hne).trans hrely.2.2.2⟩
  spawn_wp _ _ _ h hspawn := by
    obtain ⟨journal, state, waiting, rest, spawn, fuel, hqueue⟩ := hspawn
    have hnew := h.queued hqueue
    refine ⟨spawn, hnew, wp_task broker arrange fuel _ _ (since_start h hqueue) ?_ fun hemplaced => ?_⟩
    · exact List.mem_append_right _ (List.mem_singleton.mpr rfl)
    · exact hnew (h.emplaced spawn hemplaced)

theorem kept_initial (identity : DeviceId → Except Exn DeviceIdentity)
    (indicatorState : DeviceId → IndicatorType → Except Exn Platform.IndicatorState)
    (restart : DeviceId → Except Exn Unit) : Kept (boardStart identity indicatorState restart) where
  nodup := List.nodup_nil
  numbers _ hmem := absurd hmem List.not_mem_nil
  emplaced _ hmem := absurd hmem List.not_mem_nil
  creating _ hmem := absurd hmem List.not_mem_nil
  once := Nat.zero_le _
  device := rfl
  loops := .nil

theorem board_unoccupied (identity : DeviceId → Except Exn DeviceIdentity)
    (indicatorState : DeviceId → IndicatorType → Except Exn Platform.IndicatorState)
    (restart : DeviceId → Except Exn Unit) (pool : Pool unoccupiedWorld Unit)
    (hreach : Pool.Reach (boardArena broker arrange UnoccupiedAnswer)
      ⟨boardStart identity indicatorState restart, []⟩ pool) : OneBoard pool := by
  have hgood := (boardRoster broker arrange).reach_good hreach
    ((boardRoster broker arrange).empty_good _ (kept_initial identity indicatorState restart) rfl)
  have hkept : Kept pool.point := hgood.inv
  refine ⟨hkept.once, hkept.device, hkept.loops, fun spawn hcreates task hruns hfinished => ?_⟩
  obtain ⟨i, hname, htask⟩ := hruns
  obtain ⟨hsettled, start, point, hrely, hpost⟩ := hgood.tasks i spawn task hname htask
  cases task with
  | ret value => exact Or.inl ⟨rfl, hrely.2.2.1.mpr (hpost.2 hcreates)⟩
  | throw exn =>
      obtain ⟨-, hfresh, hreason⟩ := hpost
      refine Or.inr ⟨exn, rfl, fun hemplaced => hfresh (hrely.2.2.1.mp hemplaced), ?_⟩
      exact (hreason hcreates).imp id hrely.2.2.2.mpr
  | spin | await _ _ => exact absurd trivial hfinished
  | get _ | set _ _ | enter _ _ => exact hsettled.elim

end Pools

section Samples

def sampleIdentity : DeviceIdentity := ⟨[], [], [], [], []⟩

def sampleStart : Journal × State :=
  boardStart (fun _ => .ok sampleIdentity) (fun _ _ => .ok .off) fun _ => .ok ()

def firstSpawn : Spawn := ⟨0, .deviceCreated 1⟩

def secondSpawn : Spawn := ⟨1, .deviceCreated 1⟩

-- The broker stays away once a board is installed.
def unoccupied : Respond := fun _ state query =>
  if state.device.isSome then .error (.systemError "") else .ok (success query.2.2)

section Overlapping

variable (rule : AnswerRule) (respond : Respond)

-- Two handlers have started before the first one goes on to its end.
def starting : Config (boardWorld rule) Unit :=
  settle (boardWorld rule) (firstSpawn.task {} id 0)
    (⟨[firstSpawn], [], []⟩, { sampleStart.2 with queue := [secondSpawn], nextNumber := 2 })

def both : Config (boardWorld rule) Unit :=
  settle (boardWorld rule) (secondSpawn.task {} id 0)
    (⟨[firstSpawn, secondSpawn], [firstSpawn], []⟩, { sampleStart.2 with nextNumber := 2 })

def firstEnd : Outcome boardSig Unit × (Journal × State) :=
  exec (boardWorld rule) respond (starting rule).task (both rule).point

def secondEnd : Outcome boardSig Unit × (Journal × State) :=
  exec (boardWorld rule) respond (both rule).task (firstEnd rule respond).2

def overlapping : Pool (boardWorld rule) Unit :=
  ⟨(secondEnd rule respond).2, [(firstEnd rule respond).1.task, (secondEnd rule respond).1.task]⟩

theorem reach_both : Pool.Reach (boardArena {} id rule) ⟨sampleStart, []⟩
    ⟨(both rule).point, [(starting rule).task, (both rule).task]⟩ := by
  refine .head (.env _ _ (.publish _ _ (.created 1))) ?_
  refine .head (.env _ _ (.publish _ _ (.created 1))) ?_
  refine .head (.spawn _ _ _ (.start _ _ [] [secondSpawn] firstSpawn 0 rfl)) ?_
  exact .head (.spawn _ _ _ (.start _ _ [] [] secondSpawn 0 rfl)) .refl

theorem reach_overlapping
    (hallow : ∀ journal state query, (boardWorld rule).allows journal state query (respond journal state query)) :
    Pool.Reach (boardArena {} id rule) ⟨sampleStart, []⟩ (overlapping rule respond) := by
  have hfirst := Pool.reach_exec (boardArena {} id rule) respond hallow [(starting rule).task, (both rule).task] 0
    Nat.zero_lt_two (starting rule).task (both rule).point
  have hsecond := Pool.reach_exec (boardArena {} id rule) respond hallow
    [(firstEnd rule respond).1.task, (both rule).task] 1 Nat.one_lt_two (both rule).task (firstEnd rule respond).2
  exact (reach_both rule).trans (hfirst.trans hsecond)

end Overlapping

-- One handler installs its board; the other one passed the check as well and fails.
theorem board_unoccupied_overlapping :
    (overlapping UnoccupiedAnswer unoccupied).point.1.emplaced.length = 1 ∧
      OneBoard (overlapping UnoccupiedAnswer unoccupied) := by
  refine ⟨rfl, board_unoccupied {} id _ _ _ _ (reach_overlapping _ _ fun journal state query => ?_)⟩
  rintro - - - ⟨reply, hreply⟩
  have hreply : unoccupied journal state query = .ok reply := hreply
  unfold unoccupied at hreply
  cases hdevice : state.device with
  | none => rfl
  | some board => simp [hdevice] at hreply

-- Both handlers install their board, and the second board replaces the first one.
theorem board_replaced :
    ∃ pool, Pool.Reach (boardArena {} id fun _ _ _ _ _ => True) ⟨sampleStart, []⟩ pool ∧
      pool.tasks = [.ret (), .ret ()] ∧ pool.point.1.emplaced.map Prod.fst = [firstSpawn, secondSpawn] ∧
        ¬OneBoard pool := by
  refine ⟨_, reach_overlapping _ succeeding fun _ _ _ => trivial, rfl, rfl, fun hone => ?_⟩
  have htwo : (overlapping (fun _ _ _ _ _ => True) succeeding).point.1.emplaced.length = 2 := rfl
  have honce := hone.once
  omega

end Samples

end HhctrlMgmt.Adapter.Board
