import HhctrlMgmt.Adapter.Registry

namespace HhctrlMgmt.Adapter.Registry

open Common Coroutine Device Mqtt

-- No operation that a creation awaits throws, and the status of its hatch can be read
-- when it is synchronized.
def OrderlyAnswer : AnswerRule := fun job query answer point =>
  (job.IsHandler → ∃ reply, answer = .ok reply) ∧
    ∀ deviceId availability, job = .deviceCreated deviceId → query = .setAvailability availability →
      ∃ status, point.2.status deviceId = .ok status

-- A removal finds its device, and the loop that runs on it has already ended.
def OrderlyStart : Job → Journal × State → Prop
  | .deviceCreated deviceId, point => ∃ identity, point.2.identity deviceId = .ok identity
  | .deviceRemoved deviceId, point =>
      ∃ node ∈ point.2.hatches, node.deviceId = deviceId ∧ point.1.Ended (.run node)
  | .run _, _ => True

abbrev orderlyWorld : World registrySig State := journalWorld OrderlyAnswer

section Invariant

-- Started or queued.
def jobs (point : Journal × State) : List Job :=
  point.1.started ++ point.2.queue

-- `exact` and `loops` are the property; the others say that no job comes twice.
structure Kept (point : Journal × State) : Prop where
  nodup : (jobs point).Nodup
  published : ∀ event : HatchEvent, event.handler ∈ jobs point → event ∈ point.1.published
  address : ∀ node, .run node ∈ jobs point → node.address < point.2.nextAddress
  ended : ∀ job, point.1.Ended job → job ∈ point.1.started
  created : ∀ deviceId, deviceId ∈ point.1.created → .deviceCreated deviceId ∈ point.1.started
  removed : ∀ deviceId, .deviceRemoved deviceId ∈ point.1.started → deviceId ∈ point.1.created
  once : point.2.deviceIds.Nodup
  exact : ∀ deviceId, deviceId ∈ point.2.deviceIds ↔
    deviceId ∈ point.1.created ∧ .deviceRemoved deviceId ∉ point.1.started
  loops : ∀ node, .run node ∈ jobs point → ¬point.1.Ended (.run node) → node ∈ point.2.hatches

-- What others see of a segment of a job, which starts or goes on.
structure Since (job : Job) (before after : Journal × State) : Prop where
  kept : Kept after
  stays : job ∈ before.1.started → after.1.started = before.1.started
  joins : job ∉ before.1.started → after.1.started = before.1.started ++ [job]
  ended : ∀ other, after.1.Ended other → before.1.Ended other ∨ other = job
  created : ∀ deviceId, deviceId ∈ after.1.created →
    deviceId ∈ before.1.created ∨ job = .deviceCreated deviceId

structure Live (job : Job) (point : Journal × State) : Prop where
  started : job ∈ point.1.started
  running : ¬point.1.Ended job

-- Nobody else creates this device.
def Fresh (job : Job) (point : Journal × State) : Prop :=
  ∀ deviceId, job = .deviceCreated deviceId → deviceId ∉ point.1.created

structure Going (job : Job) (start point : Journal × State) : Prop where
  since : Since job start point
  live : Live job point
  fresh : Fresh job point

theorem Going.refl {job : Job} {point : Journal × State} (hkept : Kept point) (hlive : Live job point)
    (hfresh : Fresh job point) : Going job point point :=
  ⟨⟨hkept, fun _ => rfl, fun hnot => absurd hlive.started hnot, fun _ => Or.inl, fun _ => Or.inl⟩, hlive,
    hfresh⟩

theorem mem_jobs_of_started {point : Journal × State} {job : Job} (h : job ∈ point.1.started) : job ∈ jobs point :=
  List.mem_append_left _ h

-- A start only moves the job.
theorem jobs_start (journal : Journal) (state : State) (before after : List Job) (job : Job)
    (hqueue : state.queue = before ++ job :: after) :
    (jobs ({ journal with started := journal.started ++ [job] }, { state with queue := before ++ after })).Perm
      (jobs (journal, state)) := by
  simp only [jobs, hqueue, List.append_assoc, List.singleton_append]
  exact List.Perm.append_left _ List.perm_middle.symm

theorem Kept.queued {journal : Journal} {state : State} {before after : List Job} {job : Job}
    (h : Kept (journal, state)) (hqueue : state.queue = before ++ job :: after) : job ∉ journal.started := by
  intro hstarted
  have hmem : job ∈ state.queue := by simp [hqueue]
  exact (List.nodup_append.mp h.nodup).2.2 _ hstarted _ hmem rfl

theorem kept_change (journal : Journal) (state : State) (identity : DeviceId → Except Exn DeviceIdentity)
    (status : DeviceId → Except Exn HatchState) (h : Kept (journal, state)) :
    Kept (journal, { state with identity := identity, status := status }) :=
  ⟨h.nodup, h.published, h.address, h.ended, h.created, h.removed, h.once, h.exact, h.loops⟩

theorem handler_injective : Function.Injective HatchEvent.handler := by
  intro first second heq
  cases first <;> cases second <;> simp_all [HatchEvent.handler]

theorem kept_publish (journal : Journal) (state : State) (event : HatchEvent) (hnew : event ∉ journal.published)
    (h : Kept (journal, state)) :
    Kept ({ journal with published := journal.published ++ [event] },
      { state with queue := state.queue ++ [event.handler] }) := by
  have hjobs : jobs ({ journal with published := journal.published ++ [event] },
      { state with queue := state.queue ++ [event.handler] }) = jobs (journal, state) ++ [event.handler] := by
    simp only [jobs, List.append_assoc]
  have hrun : ∀ node, .run node ∈ jobs (journal, state) ++ [event.handler] →
      .run node ∈ jobs (journal, state) := by
    intro node hmem
    rcases List.mem_append.mp hmem with hold | hevent
    · exact hold
    · cases event <;> simp [HatchEvent.handler] at hevent
  refine ⟨?_, ?_, ?_, h.ended, h.created, h.removed, h.once, h.exact, ?_⟩
  · rw [hjobs, ← List.concat_eq_append]
    exact List.Nodup.concat (fun hmem => hnew (h.published event hmem)) h.nodup
  · intro other hother
    rw [hjobs] at hother
    rcases List.mem_append.mp hother with hold | hevent
    · exact List.mem_append_left _ (h.published other hold)
    · have hsame := handler_injective (List.mem_singleton.mp hevent)
      exact List.mem_append_right _ (List.mem_singleton.mpr hsame)
  · intro node hnode
    exact h.address node (hrun node (hjobs ▸ hnode))
  · intro node hnode
    exact h.loops node (hrun node (hjobs ▸ hnode))

theorem kept_start {journal : Journal} {state : State} {before after : List Job} {job : Job}
    (h : Kept (journal, state)) (hqueue : state.queue = before ++ job :: after)
    (hjob : ∀ deviceId, job ≠ .deviceRemoved deviceId) :
    Kept ({ journal with started := journal.started ++ [job] }, { state with queue := before ++ after }) := by
  have hperm := jobs_start journal state before after job hqueue
  have hremoved : ∀ deviceId, .deviceRemoved deviceId ∈ journal.started ++ [job] ↔
      .deviceRemoved deviceId ∈ journal.started := by
    intro deviceId
    rw [List.mem_append, List.mem_singleton]
    exact or_iff_left fun heq => hjob deviceId heq.symm
  refine ⟨hperm.nodup_iff.mpr h.nodup, ?_, ?_, ?_, ?_, ?_, h.once, ?_, ?_⟩
  · exact fun event hevent => h.published event (hperm.mem_iff.mp hevent)
  · exact fun node hnode => h.address node (hperm.mem_iff.mp hnode)
  · exact fun other hended => List.mem_append_left _ (h.ended other hended)
  · exact fun deviceId hcreated => List.mem_append_left _ (h.created deviceId hcreated)
  · exact fun deviceId hstarted => h.removed deviceId ((hremoved deviceId).mp hstarted)
  · intro deviceId
    rw [hremoved]
    exact h.exact deviceId
  · exact fun node hnode => h.loops node (hperm.mem_iff.mp hnode)

-- The erased node is the one whose loop has ended.
theorem kept_remove {journal : Journal} {state : State} {before after : List Job} {deviceId : DeviceId}
    (h : Kept (journal, state)) (hqueue : state.queue = before ++ .deviceRemoved deviceId :: after) (node : Node)
    (hnode : node ∈ state.hatches) (hdevice : node.deviceId = deviceId) (hended : journal.Ended (.run node)) :
    Kept ({ journal with started := journal.started ++ [.deviceRemoved deviceId] },
      HatchEventHandler.eraseIf deviceId { state with queue := before ++ after }) := by
  have hperm := jobs_start journal state before after (.deviceRemoved deviceId) hqueue
  have hid : deviceId ∈ state.deviceIds := List.mem_map.mpr ⟨node, hnode, hdevice⟩
  have hids : ∀ other, other ∈ (HatchEventHandler.eraseIf deviceId state).deviceIds ↔
      other ∈ state.deviceIds ∧ other ≠ deviceId := by
    intro other
    simp only [State.deviceIds, HatchEventHandler.eraseIf, List.mem_map, List.mem_filter, decide_eq_true_eq]
    constructor
    · rintro ⟨kept, ⟨hkept, hother⟩, rfl⟩
      exact ⟨⟨kept, hkept, rfl⟩, Ne.symm hother⟩
    · rintro ⟨⟨kept, hkept, rfl⟩, hother⟩
      exact ⟨kept, ⟨hkept, Ne.symm hother⟩, rfl⟩
  refine ⟨hperm.nodup_iff.mpr h.nodup, ?_, ?_, ?_, ?_, ?_, ?_, ?_, ?_⟩
  · exact fun event hevent => h.published event (hperm.mem_iff.mp hevent)
  · exact fun other hother => h.address other (hperm.mem_iff.mp hother)
  · exact fun job hjob => List.mem_append_left _ (h.ended job hjob)
  · exact fun other hother => List.mem_append_left _ (h.created other hother)
  · intro other hother
    rcases List.mem_append.mp hother with hold | hnew
    · exact h.removed other hold
    · obtain rfl : other = deviceId := Job.deviceRemoved.inj (List.mem_singleton.mp hnew)
      exact ((h.exact other).mp hid).1
  · exact h.once.sublist (List.filter_sublist.map _)
  · intro other
    refine (hids other).trans ?_
    rw [h.exact other, List.mem_append, List.mem_singleton, not_or, Job.deviceRemoved.injEq, and_assoc]
  · intro other hother hrunning
    have hmem := h.loops other (hperm.mem_iff.mp hother) hrunning
    refine List.mem_filter.mpr ⟨hmem, decide_eq_true fun hsame => hrunning ?_⟩
    obtain rfl : other = node := List.inj_on_of_nodup_map h.once hmem hnode (hsame.symm.trans hdevice.symm)
    exact hended

theorem kept_insert {journal : Journal} {state : State} {hatch : Hatch} (h : Kept (journal, state))
    (hstarted : .deviceCreated hatch.deviceId ∈ journal.started) (hfresh : hatch.deviceId ∉ journal.created) :
    Kept (journal.note (.created hatch.deviceId), HatchEventHandler.pushBack hatch state) := by
  have hnode : Job.run ⟨hatch, state.nextAddress⟩ ∉ jobs (journal, state) := fun hmem =>
    absurd (h.address _ hmem) (Nat.lt_irrefl _)
  have hjobs : jobs (journal.note (.created hatch.deviceId), HatchEventHandler.pushBack hatch state) =
      jobs (journal, state) ++ [.run ⟨hatch, state.nextAddress⟩] := by
    simp only [jobs, Journal.note, HatchEventHandler.pushBack, List.append_assoc]
  have hids : (HatchEventHandler.pushBack hatch state).deviceIds = state.deviceIds ++ [hatch.deviceId] := by
    simp only [State.deviceIds, HatchEventHandler.pushBack, List.map_append, List.map_cons, List.map_nil]
  refine ⟨?_, ?_, ?_, h.ended, ?_, ?_, ?_, ?_, ?_⟩
  · rw [hjobs, ← List.concat_eq_append]
    exact List.Nodup.concat hnode h.nodup
  · intro event hevent
    rw [hjobs] at hevent
    rcases List.mem_append.mp hevent with hold | hrun
    · exact h.published event hold
    · cases event <;> simp [HatchEvent.handler] at hrun
  · intro node hmem
    rw [hjobs] at hmem
    rcases List.mem_append.mp hmem with hold | hnew
    · exact Nat.lt_succ_of_lt (h.address node hold)
    · rw [Job.run.inj (List.mem_singleton.mp hnew)]
      exact Nat.lt_succ_self _
  · intro deviceId hcreated
    rcases List.mem_append.mp hcreated with hold | hnew
    · exact h.created deviceId hold
    · rw [List.mem_singleton.mp hnew]
      exact hstarted
  · exact fun deviceId hremoved => List.mem_append_left _ (h.removed deviceId hremoved)
  · rw [hids, ← List.concat_eq_append]
    exact List.Nodup.concat (fun hmem => hfresh ((h.exact _).mp hmem).1) h.once
  · intro deviceId
    rw [hids, List.mem_append, List.mem_singleton, h.exact deviceId]
    simp only [Journal.note, List.mem_append, List.mem_singleton]
    constructor
    · rintro (⟨hcreated, hremoved⟩ | rfl)
      · exact ⟨Or.inl hcreated, hremoved⟩
      · exact ⟨Or.inr rfl, fun hremoved => hfresh (h.removed _ hremoved)⟩
    · rintro ⟨hcreated | rfl, hremoved⟩
      · exact Or.inl ⟨hcreated, hremoved⟩
      · exact Or.inr rfl
  · intro node hmem hrunning
    rw [hjobs] at hmem
    rcases List.mem_append.mp hmem with hold | hnew
    · exact List.mem_append_left _ (h.loops node hold hrunning)
    · exact List.mem_append_right _ (List.mem_singleton.mpr (Job.run.inj (List.mem_singleton.mp hnew)))

end Invariant

section Jobs

-- The others leave a suspended job as it is.
def jobContract (job : Job) : Contract orderlyWorld where
  rely first later := Kept later ∧ (Live job first → Live job later) ∧ (Fresh job first → Fresh job later)
  guar := Going job

-- Only a loop may end by an exception.
def bodyPost (job : Job) : Post orderlyWorld Unit where
  ret _ start point := Since job start point ∧ Live job point
  throw _ start point := Since job start point ∧ Live job point ∧ ¬job.IsHandler
  spin start point := Since job start point ∧ Live job point

def jobPost (job : Job) : Post orderlyWorld Unit where
  ret _ start point := Since job start point
  throw _ start point := Since job start point ∧ ¬job.IsHandler
  spin start point := Since job start point ∧ Live job point

abbrev JobWp (job : Job) (task : Task Unit) (start point : Journal × State) : Prop :=
  wp (jobContract job) (bodyPost job) task (start : orderlyWorld.Point) (point : orderlyWorld.Point)

-- The completion only ends this job.
theorem since_completed {job : Job} {start : Journal × State} {journal : Journal} {state : State} (exn : Option Exn)
    (hsince : Since job start (journal, state)) (hlive : Live job (journal, state)) :
    Since job start (journal.note (.completed job exn), state) := by
  have hended : ∀ other, (journal.note (.completed job exn)).Ended other → journal.Ended other ∨ other = job := by
    rintro other ⟨outcome, hmem⟩
    rcases List.mem_append.mp hmem with hold | hnew
    · exact Or.inl ⟨outcome, hold⟩
    · exact Or.inr (Prod.mk.inj (List.mem_singleton.mp hnew)).1
  have hmore : ∀ other, journal.Ended other → (journal.note (.completed job exn)).Ended other :=
    fun other ⟨outcome, hmem⟩ => ⟨outcome, List.mem_append_left _ hmem⟩
  have hkept := hsince.kept
  refine ⟨⟨hkept.nodup, hkept.published, hkept.address, fun other hother => ?_, hkept.created, hkept.removed,
    hkept.once, hkept.exact, fun node hnode hrunning => hkept.loops node hnode fun hold => hrunning (hmore _ hold)⟩,
    hsince.stays, hsince.joins, fun other hother => ?_, hsince.created⟩
  · rcases hended other hother with hold | rfl
    · exact hkept.ended other hold
    · exact hlive.started
  · rcases hended other hother with hold | hself
    · exact hsince.ended other hold
    · exact Or.inr hself

theorem wp_task {config : BrokerConfig} {fuel : Nat} {job : Job} {start point : Journal × State}
    (h : JobWp job (job.body config fuel) start point) :
    wp (jobContract job) (jobPost job) (job.task config fuel) (start : orderlyWorld.Point)
      (point : orderlyWorld.Point) := by
  apply wp_announced
  apply wp_mono h
  · exact fun _ _ _ hret => since_completed none hret.1 hret.2
  · exact fun exn _ _ hthrow => ⟨since_completed (some exn) hthrow.1 hthrow.2.1, hthrow.2.2⟩
  · exact fun _ _ hspin => hspin

variable {job : Job}

-- A handler gets no exception for an answer, and a loop may end by one.
theorem wp_ask (query : CoverQuery) (next : Reply query → Task Unit) (start point : Journal × State)
    (h : Going job start point)
    (hnext : ∀ later, Going job later later → ∀ reply, OrderlyAnswer job query (.ok reply) later →
      JobWp job (next reply) later later) :
    JobWp job ((ask job query).bind next) start point := by
  refine ⟨h, fun later hrely answer hallow => ?_⟩
  have hlater : Going job later later := .refl hrely.1 (hrely.2.1 h.live) (hrely.2.2 h.fresh)
  cases answer with
  | ok reply => exact hnext later hlater reply hallow
  | error exn =>
      refine ⟨hlater.since, hlater.live, fun hhandler => ?_⟩
      obtain ⟨reply, heq⟩ := hallow.1 hhandler
      cases heq

-- A part of a job, after which it goes on.
abbrev JobPart (job : Job) : (α : Type) → Task α → Prop :=
  @Within registrySig State Unit orderlyWorld (jobContract job) (bodyPost job) (Going job)

theorem part_composes : EntityAdapter.Composes (JobPart job) :=
  EntityAdapter.within_composes fun _ _ h => ⟨h.since, h.live⟩

theorem part_ask (query : CoverQuery) : JobPart job (Reply query) (ask job query) :=
  fun next start point h hnext =>
    wp_ask query next start point h fun later hlater reply _ => hnext reply later later hlater

section Creation

variable {deviceId : DeviceId} (identity : DeviceIdentity)

theorem wp_syncState (next : Unit → Task Unit) (start point : Journal × State)
    (h : Going (.deviceCreated deviceId) start point) (hstatus : ∃ status, point.2.status deviceId = .ok status)
    (hnext : ∀ start later, Going (.deviceCreated deviceId) start later →
      JobWp (.deviceCreated deviceId) (next ()) start later) :
    JobWp (.deviceCreated deviceId)
      ((EntityAdapter.asyncSyncState (Hatch.operations (.deviceCreated deviceId) deviceId identity)).bind next) start
      point := by
  obtain ⟨status, hread⟩ := hstatus
  simp only [EntityAdapter.asyncSyncState, Hatch.operations, Hatch.coverState, Coro.bind_eq, Coro.pure_eq, Coro.state,
    Coro.bind, Coro.bind_assoc]
  refine (wp_get _).mpr ?_
  rw [hread]
  by_cases hundefined : Adapter.Hatch.state status = .undefined
  · simp only [Coro.ofExcept, Coro.bind, hundefined, if_true]
    exact hnext start point h
  · simp only [Coro.ofExcept, Coro.bind, hundefined, if_false]
    exact wp_ask (.setState _) _ start point h fun later hlater _ _ => hnext later later hlater

theorem wp_configure (next : Bool → Task Unit) (start point : Journal × State)
    (h : Going (.deviceCreated deviceId) start point)
    (hnext : ∀ configured start later, Going (.deviceCreated deviceId) start later →
      JobWp (.deviceCreated deviceId) (next configured) start later) :
    JobWp (.deviceCreated deviceId)
      ((EntityAdapter.asyncConfigure (Hatch.operations (.deviceCreated deviceId) deviceId identity)).bind next) start
      point := by
  simp only [EntityAdapter.asyncConfigure, Hatch.operations, Coro.bind_eq, Coro.pure_eq, Coro.bind, Coro.bind_assoc]
  refine wp_ask (.configure _) _ start point h fun later hlater failure _ => ?_
  cases failure with
  | some _ => exact hnext false later later hlater
  | none =>
      simp only [Coro.bind_assoc]
      refine wp_ask (.wait 1) _ later later hlater fun waited hwaited _ _ => ?_
      refine wp_ask (.setAvailability .online) _ waited waited hwaited fun available havailable _ hallow => ?_
      have hstatus : ∃ status, available.2.status deviceId = .ok status := hallow.2 deviceId .online rfl rfl
      exact wp_syncState identity _ available available havailable hstatus (hnext true)

theorem wp_init (next : Bool → Task Unit) (start point : Journal × State)
    (h : Going (.deviceCreated deviceId) start point)
    (hnext : ∀ initialized start later, Going (.deviceCreated deviceId) start later →
      JobWp (.deviceCreated deviceId) (next initialized) start later) :
    JobWp (.deviceCreated deviceId)
      ((EntityAdapter.asyncInit (Hatch.operations (.deviceCreated deviceId) deviceId identity)).bind next) start
      point := by
  have hretry : JobPart (.deviceCreated deviceId) Error
      (EntityAdapter.connectRetry (Hatch.operations (.deviceCreated deviceId) deviceId identity)
        initRetryAttempts none) :=
    EntityAdapter.composed_connectRetry part_composes (part_ask .connect) (part_ask (.wait initRetryDelay)) _ _
  simp only [EntityAdapter.asyncInit, Coro.bind_eq, Coro.pure_eq, Coro.bind_assoc]
  refine hretry _ start point h fun error start later hlater => ?_
  cases error with
  | some _ => exact hnext false start later hlater
  | none => exact wp_configure identity next start later hlater hnext

end Creation

section Loops

variable (hloop : ¬job.IsHandler)
include hloop

-- Unlike a handler, a loop may read what its device does not say.
theorem part_status (deviceId : DeviceId) {α : Type} (f : HatchState → Task α)
    (hf : ∀ status, JobPart job α (f status)) :
    JobPart job α (Coro.state.bind fun state : State => (Coro.ofExcept (state.status deviceId)).bind f) := by
  intro next start point h hnext
  refine (wp_get _).mpr ?_
  dsimp only [Coro.bind]
  cases point.2.status deviceId with
  | ok status => exact hf status next start point h hnext
  | error exn => exact ⟨h.since, h.live, hloop⟩

theorem each_operations (deviceId : DeviceId) (identity : DeviceIdentity) :
    EntityAdapter.Each (Hatch.operations job deviceId identity) (JobPart job) where
  connect := part_ask .connect
  configure config _ := part_ask (.configure config)
  setAvailability availability _ := part_ask (.setAvailability availability)
  setState state _ := by
    by_cases hundefined : state = .undefined
    · simp only [Hatch.operations, hundefined, if_true]
      exact part_composes.ret _ _
    · simp only [Hatch.operations, hundefined, if_false]
      exact part_ask (.setState state)
  receive := part_ask .receive
  config := part_composes.ret _ _
  state read hread := by
    obtain rfl : Hatch.coverState deviceId = read := Option.some.inj hread
    exact part_status hloop deviceId _ fun status => part_composes.ret _ _
  handleRecvValue command := by
    cases command with
    | switch _ => exact part_status hloop deviceId _ fun status => part_composes.ret _ _
  wait seconds := part_ask (.wait seconds)

end Loops

theorem wp_run (node : Node) (fuel : Nat) (start point : Journal × State) (h : Going (.run node) start point) :
    JobWp (.run node)
      (EntityAdapter.asyncRun (Hatch.operations (.run node) node.deviceId node.deviceIdentity) fuel) start point := by
  have hloop : ¬(Job.run node).IsHandler := id
  have hops := each_operations hloop node.deviceId node.deviceIdentity
  exact (EntityAdapter.composed_run part_composes hops fuel).wp (fun _ _ _ h => ⟨h.since, h.live⟩) h

theorem createAdapter_ok (entity : Entity) : ∃ adapter, createAdapter entity = .ok adapter :=
  ⟨_, rfl⟩

-- The creation announces its hatch in the segment that inserts it.
theorem since_inserted {deviceId : DeviceId} {start : Journal × State} {journal : Journal} {state : State}
    (identity : DeviceIdentity) (h : Going (.deviceCreated deviceId) start (journal, state)) :
    Since (.deviceCreated deviceId) start
      (journal.note (.created deviceId), HatchEventHandler.pushBack ⟨deviceId, identity⟩ state) := by
  have hfresh : deviceId ∉ journal.created := h.fresh deviceId rfl
  have hkept := @kept_insert journal state ⟨deviceId, identity⟩ h.since.kept h.live.started hfresh
  refine ⟨hkept, h.since.stays, h.since.joins, h.since.ended,
    fun other hother => ?_⟩
  rcases List.mem_append.mp hother with hold | hnew
  · exact h.since.created other hold
  · rw [List.mem_singleton.mp hnew]
    exact Or.inr rfl

theorem wp_deviceCreated (config : BrokerConfig) (deviceId : DeviceId) (start point : Journal × State)
    (h : Going (.deviceCreated deviceId) start point)
    (hidentity : ∃ identity, point.2.identity deviceId = .ok identity) :
    JobWp (.deviceCreated deviceId) (HatchEventHandler.deviceCreated config deviceId) start point := by
  obtain ⟨identity, hidentity⟩ := hidentity
  obtain ⟨adapter, hadapter⟩ := createAdapter_ok (Adapter.Hatch.entity config identity deviceId)
  simp only [HatchEventHandler.deviceCreated, Hatch.asyncCreate, Coro.bind_eq, Coro.pure_eq, Coro.state, Coro.bind,
    Coro.bind_assoc]
  refine (wp_get _).mpr ?_
  simp only [hidentity, hadapter, Coro.ofExcept, Coro.bind]
  refine wp_init identity _ start point h fun initialized start later hlater => ?_
  cases initialized with
  | false => exact ⟨hlater.since, hlater.live⟩
  | true => exact ⟨since_inserted identity hlater, hlater.live.started, hlater.live.running⟩

-- A removal is one segment.
theorem wp_deviceRemoved {journal : Journal} {state : State} {before after : List Job} {deviceId : DeviceId}
    (h : Kept (journal, state)) (hqueue : state.queue = before ++ .deviceRemoved deviceId :: after)
    (hrule : OrderlyStart (.deviceRemoved deviceId) (journal, state)) :
    JobWp (.deviceRemoved deviceId) (HatchEventHandler.deviceRemoved deviceId) (journal, state)
      ({ journal with started := journal.started ++ [.deviceRemoved deviceId] },
        { state with queue := before ++ after }) := by
  obtain ⟨node, hnode, hdevice, hended⟩ := hrule
  have hnew : .deviceRemoved deviceId ∉ journal.started := h.queued hqueue
  have hcount : (state.hatches.countP fun node => deviceId = node.deviceId) ≠ 0 := fun hzero =>
    List.countP_eq_zero.mp hzero node hnode (decide_eq_true hdevice.symm)
  have hkept := kept_remove h hqueue node hnode hdevice hended
  simp only [HatchEventHandler.deviceRemoved, Coro.bind_eq, Coro.pure_eq, Coro.state, Coro.modify, Coro.bind]
  refine (wp_get _).mpr ((wp_get _).mpr ((wp_set _ _).mpr ?_))
  simp only [hcount, if_false]
  refine ⟨⟨hkept, fun hmem => absurd hmem hnew, fun _ => rfl, fun _ => Or.inl, fun _ => Or.inl⟩,
    List.mem_append_right _ (List.mem_singleton.mpr rfl), fun hself => ?_⟩
  exact hnew (h.ended _ hself)

theorem going_start {journal : Journal} {state : State} {before after : List Job} {job : Job}
    (h : Kept (journal, state)) (hqueue : state.queue = before ++ job :: after)
    (hjob : ∀ deviceId, job ≠ .deviceRemoved deviceId) :
    Going job (journal, state)
      ({ journal with started := journal.started ++ [job] }, { state with queue := before ++ after }) := by
  have hnew : job ∉ journal.started := h.queued hqueue
  refine ⟨⟨kept_start h hqueue hjob, fun hmem => absurd hmem hnew, fun _ => rfl, fun _ => Or.inl,
    fun _ => Or.inl⟩,
    ⟨List.mem_append_right _ (List.mem_singleton.mpr rfl), fun hself => hnew (h.ended _ hself)⟩, ?_⟩
  rintro deviceId rfl hcreated
  exact hnew (h.created deviceId hcreated)

end Jobs

section Runs

variable (config : BrokerConfig)

abbrev orderlyArena : Arena orderlyWorld Unit :=
  registryArena config OrderlyAnswer OrderlyStart

theorem kept_env {before after : Journal × State} (henv : RegistryEnv before after) (h : Kept before) :
    Kept after := by
  cases henv with
  | change journal state identity status => exact kept_change journal state identity status h
  | publish journal state event hnew hdue => exact kept_publish journal state event hnew h

-- Of what a job relies on, the surroundings touch only the invariant.
theorem env_journal {before after : Journal × State} (henv : RegistryEnv before after) :
    after.1.started = before.1.started ∧ after.1.completed = before.1.completed ∧
      after.1.created = before.1.created := by
  cases henv with
  | change _ _ _ _ => exact ⟨rfl, rfl, rfl⟩
  | publish _ _ _ _ _ => exact ⟨rfl, rfl, rfl⟩

theorem live_env {job : Job} {before after : Journal × State} (henv : RegistryEnv before after) (h : Live job before) :
    Live job after := by
  obtain ⟨hstarted, hcompleted, -⟩ := env_journal henv
  refine ⟨hstarted ▸ h.started, fun hended => h.running ?_⟩
  obtain ⟨exn, hmem⟩ := hended
  exact ⟨exn, hcompleted ▸ hmem⟩

theorem live_other {job other : Job} {before after : Journal × State} (hne : job ≠ other)
    (heffect : Since other before after) (h : Live job before) : Live job after := by
  refine ⟨?_, fun hended => ?_⟩
  · by_cases hstarted : other ∈ before.1.started
    · rw [heffect.stays hstarted]
      exact h.started
    · rw [heffect.joins hstarted]
      exact List.mem_append_left _ h.started
  · rcases heffect.ended job hended with hold | hself
    · exact h.running hold
    · exact hne hself

theorem fresh_other {job other : Job} {before after : Journal × State} (hne : job ≠ other)
    (heffect : Since other before after) (h : Fresh job before) : Fresh job after := by
  intro deviceId hjob hcreated
  rcases heffect.created deviceId hcreated with hold | hother
  · exact h deviceId hjob hold
  · exact hne (hjob.trans hother.symm)

theorem wp_spawned {before after : Journal × State} {task : Task Unit} (h : Kept before)
    (hspawn : RegistrySpawn config OrderlyStart before after task) :
    ∃ job, job ∉ before.1.started ∧
      wp (jobContract job) (jobPost job) task (before : orderlyWorld.Point) (after : orderlyWorld.Point) := by
  cases hspawn with
  | start journal state waiting rest job fuel hqueue hrule =>
      refine ⟨job, h.queued hqueue, wp_task ?_⟩
      cases job with
      | deviceCreated deviceId =>
          exact wp_deviceCreated config deviceId _ _ (going_start h hqueue fun _ => nofun) hrule
      | deviceRemoved deviceId => exact wp_deviceRemoved h hqueue hrule
      | run node => exact wp_run node fuel _ _ (going_start h hqueue fun _ => nofun)

def registryRoster : Roster (orderlyArena config) Job where
  names point := point.1.started
  inv := Kept
  contract := jobContract
  post := jobPost
  effect := Since
  nodup _ h := (List.nodup_append.mp h.nodup).1
  guar_effect _ _ _ h := h.since
  ret_effect _ _ _ _ h := h
  throw_effect _ _ _ _ h := h.1
  spin_effect _ _ _ h := h.1
  effect_inv _ _ _ heffect _ := heffect.kept
  effect_names _ _ _ heffect hmem := heffect.stays hmem
  effect_joins _ _ _ heffect hnot := heffect.joins hnot
  env_inv _ _ h henv := kept_env henv h
  env_names _ _ henv := (env_journal henv).1
  rely_refl _ _ h := ⟨h, id, id⟩
  rely_env _ _ _ _ hrely h henv :=
    ⟨kept_env henv h, fun hlive => live_env henv (hrely.2.1 hlive), fun hfresh deviceId hjob hcreated =>
      hrely.2.2 hfresh deviceId hjob ((env_journal henv).2.2 ▸ hcreated)⟩
  rely_effect _ _ _ _ _ hne hrely _ heffect :=
    ⟨heffect.kept, fun hlive => live_other hne heffect (hrely.2.1 hlive),
      fun hfresh => fresh_other hne heffect (hrely.2.2 hfresh)⟩
  spawn_wp _ _ _ h hspawn := wp_spawned config h hspawn

theorem kept_initial (identity : DeviceId → Except Exn DeviceIdentity) (status : DeviceId → Except Exn HatchState) :
    Kept (registryStart identity status) where
  nodup := List.nodup_nil
  published _ := nofun
  address _ := nofun
  ended _ := nofun
  created _ := nofun
  removed _ := nofun
  once := List.nodup_nil
  exact _ := ⟨nofun, nofun⟩
  loops _ := nofun

variable {config}

theorem good_of_reach {identity : DeviceId → Except Exn DeviceIdentity} {status : DeviceId → Except Exn HatchState}
    {pool : Pool orderlyWorld Unit}
    (hreach : Pool.Reach (orderlyArena config) ⟨registryStart identity status, []⟩ pool) :
    (registryRoster config).PoolGood pool :=
  (registryRoster config).reach_good hreach ((registryRoster config).empty_good _ (kept_initial identity status) rfl)

theorem Runs.good {pool : Pool orderlyWorld Unit} (h : (registryRoster config).PoolGood pool) {job : Job}
    {task : Task Unit} (hruns : Runs pool job task) : (registryRoster config).TaskGood job pool.point task := by
  obtain ⟨i, hname, htask⟩ := hruns
  exact h.tasks i job task hname htask

-- A task that has not finished is that of a running job.
theorem Runs.running {pool : Pool orderlyWorld Unit} (h : (registryRoster config).PoolGood pool) {job : Job}
    {task : Task Unit} (hruns : Runs pool job task) (hunfinished : task.Unfinished) : Live job pool.point := by
  obtain ⟨-, start, point, hrely, hgood⟩ := hruns.good h
  cases task with
  | await query next => exact hrely.2.1 hgood.1.live
  | spin => exact hrely.2.1 hgood.2
  | ret _ => exact hunfinished.elim
  | throw _ => exact hunfinished.elim
  | get _ => exact hunfinished.elim
  | set _ _ => exact hunfinished.elim
  | enter _ _ => exact hunfinished.elim

theorem registry_follows (identity : DeviceId → Except Exn DeviceIdentity)
    (status : DeviceId → Except Exn HatchState) (pool : Pool orderlyWorld Unit)
    (hreach : Pool.Reach (orderlyArena config) ⟨registryStart identity status, []⟩ pool) : Follows pool := by
  have hgood := good_of_reach hreach
  have hkept : Kept pool.point := hgood.inv
  refine ⟨fun job hhandler exn hruns => ?_, fun _ => ⟨hkept.once, hkept.exact⟩, fun node hnode => ?_⟩
  · obtain ⟨-, start, point, -, hthrow⟩ := hruns.good hgood
    exact hthrow.2 hhandler
  · rcases hnode with hqueue | ⟨task, hruns, hunfinished⟩
    · refine hkept.loops node (List.mem_append_right _ hqueue) fun hended => ?_
      have hstarted := hkept.ended _ hended
      exact (List.nodup_append.mp hkept.nodup).2.2 _ hstarted _ hqueue rfl
    · have hlive := hruns.running hgood hunfinished
      exact hkept.loops node (mem_jobs_of_started hlive.started) hlive.running

end Runs

section Samples

def sampleIdentity : DeviceIdentity := ⟨[], [], [], [], []⟩

def sampleStart : Journal × State :=
  registryStart (fun _ => .ok sampleIdentity) fun _ => .ok .closed

def sampleNode : Node := ⟨⟨1, sampleIdentity⟩, 0⟩

abbrev anyArena : Arena (journalWorld fun _ _ _ _ => True) Unit :=
  registryArena {} (fun _ _ _ _ => True) fun _ _ => True

theorem reach_answer {config : BrokerConfig} {answers : AnswerRule} {starts : Job → Journal × State → Prop}
    {pool last : Pool (journalWorld answers) Unit} (i : Nat) (job : Job) (query : CoverQuery)
    (answer : Except Exn (Reply query)) {next : Except Exn (Reply query) → Task Unit}
    (htask : pool.tasks[i]? = some (.await (job, query) next)) (hallow : answers job query answer pool.point)
    (hreach : Pool.Reach (registryArena config answers starts)
      ⟨(settle (journalWorld answers) (next answer) pool.point).point,
        pool.tasks.set i (settle (journalWorld answers) (next answer) pool.point).task⟩ last) :
    Pool.Reach (registryArena config answers starts) pool last :=
  .head (.resume pool i (job, query) next answer htask hallow) hreach

theorem removal_new : HatchEvent.removed 1 ∉ [HatchEvent.created 1] := by
  simp

theorem removal_due : (HatchEvent.removed 1).Due [.created 1] :=
  List.mem_singleton.mpr rfl

-- The loop of the hatch ends by an exception before the hatch is removed.
theorem registry_follows_ended :
    ∃ pool, Pool.Reach (orderlyArena {}) ⟨sampleStart, []⟩ pool ∧ pool.point.2.deviceIds = [] ∧
      pool.point.1.created = [1] ∧ Follows pool := by
  have horderly : ∀ job query reply journal state, state.status = sampleStart.2.status →
      OrderlyAnswer job query (.ok reply) (journal, state) := by
    intro job query reply journal state hstatus
    refine ⟨fun _ => ⟨reply, rfl⟩, fun deviceId _ _ _ => ⟨.closed, ?_⟩⟩
    simp only [hstatus]
    rfl
  have hthrow : ∀ query exn point, OrderlyAnswer (.run sampleNode) query (.error exn) point :=
    fun _ _ _ => ⟨False.elim, fun _ _ => nofun⟩
  have hended : OrderlyStart (.deviceRemoved 1)
      (⟨[.created 1, .removed 1], [.deviceCreated 1, .run sampleNode],
        [(.deviceCreated 1, none), (.run sampleNode, some (.systemError ""))], [1]⟩,
        { sampleStart.2 with hatches := [sampleNode], nextAddress := 1, queue := [.deviceRemoved 1] }) :=
    ⟨sampleNode, List.mem_singleton.mpr rfl, rfl, some (.systemError ""), by simp⟩
  have hreach : Pool.Reach (orderlyArena {}) ⟨sampleStart, []⟩
      ⟨(⟨[.created 1, .removed 1], [.deviceCreated 1, .run sampleNode, .deviceRemoved 1],
        [(.deviceCreated 1, none), (.run sampleNode, some (.systemError "")), (.deviceRemoved 1, none)], [1]⟩,
        { sampleStart.2 with nextAddress := 1 }), [.ret (), .throw (.systemError ""), .ret ()]⟩ := by
    refine .head (.env _ _ (.publish _ _ (.created 1) nofun trivial)) ?_
    refine .head (.spawn _ _ _ (.start _ _ [] [] (.deviceCreated 1) 0 rfl ⟨_, rfl⟩)) ?_
    refine reach_answer 0 (.deviceCreated 1) .connect (.ok none) rfl (horderly _ _ _ _ _ rfl) ?_
    refine reach_answer 0 (.deviceCreated 1) (.configure (Adapter.Hatch.config sampleIdentity)) (.ok none) rfl
      (horderly _ _ _ _ _ rfl) ?_
    refine reach_answer 0 (.deviceCreated 1) (.wait 1) (.ok ()) rfl (horderly _ _ _ _ _ rfl) ?_
    refine reach_answer 0 (.deviceCreated 1) (.setAvailability .online) (.ok none) rfl (horderly _ _ _ _ _ rfl) ?_
    refine reach_answer 0 (.deviceCreated 1) (.setState .closed) (.ok none) rfl (horderly _ _ _ _ _ rfl) ?_
    refine .head (.spawn _ _ _ (.start _ _ [] [] (.run sampleNode) 1 rfl trivial)) ?_
    refine reach_answer 1 (.run sampleNode) .receive (.error (.systemError "")) rfl (hthrow _ _ _) ?_
    refine .head (.env _ _ (.publish _ _ (.removed 1) removal_new removal_due)) ?_
    exact .head (.spawn _ _ _ (.start _ _ [] [] (.deviceRemoved 1) 0 rfl hended)) .refl
  exact ⟨_, hreach, rfl, rfl, registry_follows _ _ _ hreach⟩

-- In the first run the removal comes while the creation connects: it throws, and the
-- hatch is inserted afterwards. In the second one it comes after the creation, and
-- async_run goes on without its element.
theorem registry_astray :
    (∃ pool, Pool.Reach anyArena ⟨sampleStart, []⟩ pool ∧
      Runs pool (.deviceRemoved 1) (.throw (.runtimeError s!"Hatch device with id: {(1 : DeviceId)} was not found")) ∧
      Job.deviceRemoved 1 ∈ pool.point.1.started ∧ pool.point.2.deviceIds = [1] ∧ ¬Follows pool) ∧
    ∃ pool, Pool.Reach anyArena ⟨sampleStart, []⟩ pool ∧
      (∃ task, Runs pool (.run sampleNode) task ∧ task.Unfinished) ∧ pool.point.2.hatches = [] ∧
        ¬Follows pool := by
  constructor
  · have hreach : Pool.Reach anyArena ⟨sampleStart, []⟩
        ⟨(⟨[.created 1, .removed 1], [.deviceCreated 1, .deviceRemoved 1],
          [(.deviceRemoved 1, some (.runtimeError s!"Hatch device with id: {(1 : DeviceId)} was not found")),
            (.deviceCreated 1, none)], [1]⟩,
          { sampleStart.2 with hatches := [sampleNode], nextAddress := 1, queue := [.run sampleNode] }),
          [.ret (), .throw (.runtimeError s!"Hatch device with id: {(1 : DeviceId)} was not found")]⟩ := by
      refine .head (.env _ _ (.publish _ _ (.created 1) nofun trivial)) ?_
      refine .head (.spawn _ _ _ (.start _ _ [] [] (.deviceCreated 1) 0 rfl trivial)) ?_
      refine .head (.env _ _ (.publish _ _ (.removed 1) removal_new removal_due)) ?_
      refine .head (.spawn _ _ _ (.start _ _ [] [] (.deviceRemoved 1) 0 rfl trivial)) ?_
      refine reach_answer 0 (.deviceCreated 1) .connect (.ok none) rfl trivial ?_
      refine reach_answer 0 (.deviceCreated 1) (.configure (Adapter.Hatch.config sampleIdentity)) (.ok none) rfl
        trivial ?_
      refine reach_answer 0 (.deviceCreated 1) (.wait 1) (.ok ()) rfl trivial ?_
      refine reach_answer 0 (.deviceCreated 1) (.setAvailability .online) (.ok none) rfl trivial ?_
      exact reach_answer 0 (.deviceCreated 1) (.setState .closed) (.ok none) rfl trivial .refl
    refine ⟨_, hreach, ⟨1, rfl, rfl⟩, by simp, rfl, fun hfollows => ?_⟩
    exact hfollows.no_throw (.deviceRemoved 1) trivial _ ⟨1, rfl, rfl⟩
  · have hreach : ∃ next, Pool.Reach anyArena ⟨sampleStart, []⟩
        ⟨(⟨[.created 1, .removed 1], [.deviceCreated 1, .run sampleNode, .deviceRemoved 1],
          [(.deviceCreated 1, none), (.deviceRemoved 1, none)], [1]⟩, { sampleStart.2 with nextAddress := 1 }),
          [.ret (), .await (.run sampleNode, .receive) next, .ret ()]⟩ := by
      refine ⟨_, .head (.env _ _ (.publish _ _ (.created 1) nofun trivial)) <|
        .head (.spawn _ _ _ (.start _ _ [] [] (.deviceCreated 1) 0 rfl trivial)) <|
        reach_answer 0 (.deviceCreated 1) .connect (.ok none) rfl trivial <|
        reach_answer 0 (.deviceCreated 1) (.configure (Adapter.Hatch.config sampleIdentity)) (.ok none) rfl
          trivial <|
        reach_answer 0 (.deviceCreated 1) (.wait 1) (.ok ()) rfl trivial <|
        reach_answer 0 (.deviceCreated 1) (.setAvailability .online) (.ok none) rfl trivial <|
        reach_answer 0 (.deviceCreated 1) (.setState .closed) (.ok none) rfl trivial <|
        .head (.spawn _ _ _ (.start _ _ [] [] (.run sampleNode) 1 rfl trivial)) <|
        .head (.env _ _ (.publish _ _ (.removed 1) removal_new removal_due)) <|
        .head (.spawn _ _ _ (.start _ _ [] [] (.deviceRemoved 1) 0 rfl trivial)) .refl⟩
    obtain ⟨next, hreach⟩ := hreach
    refine ⟨_, hreach, ⟨_, ⟨1, rfl, rfl⟩, trivial⟩, rfl, fun hfollows => ?_⟩
    exact nomatch hfollows.loops sampleNode (Or.inr ⟨_, ⟨1, rfl, rfl⟩, trivial⟩)

end Samples

end HhctrlMgmt.Adapter.Registry
