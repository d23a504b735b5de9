import HhctrlMgmt.Adapter.Inbox

namespace HhctrlMgmt.Adapter

open Common Coroutine Mqtt

-- The command that a packet brings, if any. A button looks at the payload only.
def EntityKind.commandOf : (kind : EntityKind) → Entity → PublishPacket → Except Exn (Option kind.Command)
  | .cover, entity, packet => Cover.mapCommand (Cover.topics entity) packet
  | .button, _, packet => .ok (if packet.payload = ButtonConfig.Default.payloadPress then some .press else none)
  | .binarySensor, _, _ => .ok none
  | .sensor, _, _ => .ok none

theorem commandOf_congr (kind : EntityKind) {origin entity : Entity} (h : SameNames origin entity)
    (packet : PublishPacket) : kind.commandOf entity packet = kind.commandOf origin packet := by
  obtain ⟨name, id, client, pending⟩ := origin
  obtain ⟨name', id', client', pending'⟩ := entity
  obtain ⟨rfl, rfl⟩ : name' = name ∧ id' = id := h
  cases kind with
  | cover | button | binarySensor | sensor => rfl

section Run

variable {kind : EntityKind} {δ : Type} {allowed : (query : Query) → Answer query → Prop}
  (impl : Impl kind.Command kind.State δ) (origin : Entity) (I : Entity → Prop) (K : List PublishPacket → δ → Prop)
  (E : SystemError → Prop) (throw : Exn → List PublishPacket × Entity × δ → Prop)

-- How the device keeps up with the packets.
structure KeepsUp : Prop where
  names : ∀ entity, I entity → SameNames origin entity
  unknownPacket : E (plainError .unknownPacket)
  idle : ∀ packet point, JustIn I K packet point → kind.commandOf origin packet = .ok none → K point.1 point.2.2
  refused : ∀ packet point thrown, JustIn I K packet point → kind.commandOf origin packet = .error thrown →
    throw thrown point
  handled : ∀ packet point command device, JustIn I K packet point → kind.commandOf origin packet = .ok (some command) →
    impl.handleRecvValue command point.2.2 = .ok device → K point.1 device
  failed : ∀ packet point command thrown, JustIn I K packet point → kind.commandOf origin packet = .ok (some command) →
    impl.handleRecvValue command point.2.2 = .error thrown → throw thrown point

-- What async_receive of a kind gives back.
def Obtained : Except Error kind.Command → List PublishPacket × Entity × δ → Prop
  | .ok command, point => ∃ packet, JustIn I K packet point ∧ kind.commandOf origin packet = .ok (some command)
  | .error failure, point => Accounted I K point ∧ ∀ e, failure = some e → E e

variable {impl origin I K E throw} {P : Platform} {fuel : Nat}

-- The same of async_receive of the entity.
def Commanded (origin : Entity) (I : Entity → Prop) (K : List PublishPacket → δ → Prop) (E : SystemError → Prop) :
    Expected kind.Command → List PublishPacket × Entity × δ → Prop
  | .ok command, point => ∃ packet, JustIn I K packet point ∧ kind.commandOf origin packet = .ok (some command)
  | .error e, point => Accounted I K point ∧ E e

theorem fulfils_commandReceive {point : List PublishPacket × Entity × δ}
    {asyncReceive : EntityM (Expected kind.Command)}
    (hreceive : Fulfils (W := (inbox allowed).world (Entity × δ)) (Accounted I K) throw (Commanded origin I K E)
      (onEntity asyncReceive) point) :
    Fulfils (W := (inbox allowed).world (Entity × δ)) (Accounted I K) throw (Obtained origin I K E) (do
      let value ← onEntity asyncReceive
      return value.mapError some) point := by
  refine fulfils_bind hreceive fun result later hlater => fulfils_ret _ ?_
  cases result with
  | ok command => exact hlater
  | error e => exact ⟨hlater.1, fun failure hfailure => Option.some.inj hfailure ▸ hlater.2⟩

variable (kind) in
-- A sensor drops what it receives.
theorem fulfils_stateReceive (hidle : ∀ packet point, JustIn I K packet point → K point.1 point.2.2)
    {point : List PublishPacket × Entity × δ} {asyncReceive : EntityM Error}
    (hreceive : Fulfils (W := (inbox allowed).world (Entity × δ)) (Accounted I K) throw (Received I K E)
      (onEntity (Entity.asyncReceive P fuel)) point)
    (heq : asyncReceive = (Entity.asyncReceive P fuel).bind fun
      | .error e => .ret (some e)
      | .ok _ => .ret none) :
    Fulfils (W := (inbox allowed).world (Entity × δ)) (Accounted I K) throw (Obtained origin I K E) (do
      let error ← onEntity asyncReceive
      return (.error error : Except Error kind.Command)) point := by
  subst heq
  have hresult : onEntity (δ := δ) ((Entity.asyncReceive P fuel).bind fun
      | .error e => .ret (some e)
      | .ok _ => .ret none) = (onEntity (Entity.asyncReceive P fuel)).bind fun
        | .error e => .ret (some e)
        | .ok _ => .ret none := by
    unfold onEntity
    rw [Coro.zoom_bind]
    congr 1
    funext result
    cases result <;> rfl
  rw [hresult, Coro.bind_eq, Coro.bind_assoc]
  refine fulfils_bind hreceive fun result later hlater => ?_
  cases result with
  | ok packet => exact fulfils_ret _ ⟨⟨hlater.1, hidle packet later hlater⟩, fun e he => by cases he⟩
  | error e => exact fulfils_ret _ ⟨hlater.1, fun failure hfailure => Option.some.inj hfailure ▸ hlater.2⟩

theorem fulfils_receive (hrecovers : Recovers I K E P fuel throw allowed)
    (h : KeepsUp impl origin I K E throw) (point : List PublishPacket × Entity × δ) (hpoint : Accounted I K point) :
    Fulfils (W := (inbox allowed).world (Entity × δ)) (Accounted I K) throw (Obtained origin I K E)
      (kind.operations P fuel impl).asyncReceive point := by
  have hreceive := fulfils_entityReceive hrecovers point hpoint
  cases kind with
  | cover =>
      refine fulfils_commandReceive ?_
      have hdecode : onEntity (δ := δ) (Cover.asyncReceive P fuel) =
          (onEntity (Entity.asyncReceive P fuel)).bind fun result => onEntity (decodeCommand result) := by
        rw [cover_asyncReceive_eq]
        exact Coro.zoom_bind _ _ _ _
      rw [hdecode]
      refine fulfils_bind hreceive fun result later hlater => ?_
      cases result with
      | error e => exact fulfils_ret _ hlater
      | ok packet =>
          have hcommand := commandOf_congr .cover (h.names _ hlater.1) packet
          intro start
          cases hmap : Cover.mapCommand (Cover.topics later.2.1) packet with
          | error thrown =>
              simp only [onEntity, decodeCommand, Coro.zoom, wp_get, hmap, ofExcept_error, Coro.bind, wp_throw]
              exact h.refused packet later thrown hlater (hcommand.symm.trans hmap)
          | ok command =>
              simp only [onEntity, decodeCommand, Coro.zoom, wp_get, hmap, ofExcept_ok, Coro.bind]
              have hmapped := hcommand.symm.trans hmap
              cases command with
              | some command => exact ⟨packet, hlater, hmapped⟩
              | none => exact ⟨⟨hlater.1, h.idle packet later hlater hmapped⟩, h.unknownPacket⟩
  | button =>
      refine fulfils_commandReceive ?_
      have hdecode : onEntity (δ := δ) (Button.asyncReceive P fuel) =
          (onEntity (Entity.asyncReceive P fuel)).bind fun result => onEntity (decodePress result) := by
        rw [button_asyncReceive_eq]
        exact Coro.zoom_bind _ _ _ _
      rw [hdecode]
      refine fulfils_bind hreceive fun result later hlater => ?_
      cases result with
      | error e => exact fulfils_ret _ hlater
      | ok packet =>
          by_cases hpress : packet.payload = ButtonConfig.Default.payloadPress
          · simp only [decodePress, if_pos hpress]
            exact fulfils_ret _ ⟨packet, hlater, congrArg Except.ok (if_pos hpress)⟩
          · simp only [decodePress, if_neg hpress]
            have hnone : EntityKind.button.commandOf origin packet = .ok none := congrArg Except.ok (if_neg hpress)
            exact fulfils_ret _ ⟨⟨hlater.1, h.idle packet later hlater hnone⟩, h.unknownPacket⟩
  | binarySensor =>
      exact fulfils_stateReceive .binarySensor (fun packet point hfresh => h.idle packet point hfresh rfl)
        hreceive rfl
  | sensor =>
      exact fulfils_stateReceive .sensor (fun packet point hfresh => h.idle packet point hfresh rfl)
        hreceive rfl

theorem fulfils_handleRecvValue (h : KeepsUp impl origin I K E throw) {command : kind.Command}
    {point : List PublishPacket × Entity × δ} (hpoint : Obtained origin I K E (.ok command) point) :
    Fulfils (W := (inbox allowed).world (Entity × δ)) (Accounted I K) throw (fun _ => Accounted I K)
      ((kind.operations P fuel impl).asyncHandleRecvValue command) point := by
  obtain ⟨packet, hfresh, hcommand⟩ := hpoint
  have hhandle : Fulfils (W := (inbox allowed).world (Entity × δ)) (Accounted I K) throw (fun _ => Accounted I K)
      (.get fun adapter => do
        let device ← .ofExcept (impl.handleRecvValue command adapter.2)
        .modify fun adapter => (adapter.1, device)) point := by
    intro start
    cases hdevice : impl.handleRecvValue command point.2.2 with
    | error thrown =>
        simp only [wp_get, hdevice, ofExcept_error, Coro.bind_eq, Coro.bind, wp_throw]
        exact h.failed packet point command thrown hfresh hcommand hdevice
    | ok device =>
        simp only [wp_get, hdevice, ofExcept_ok, Coro.bind_eq, Coro.bind, Coro.modify, wp_set, wp_ret]
        exact ⟨hfresh.1, h.handled packet point command device hfresh hcommand hdevice⟩
  cases kind with
  | cover | button | binarySensor | sensor => exact hhandle

-- The run loop keeps up with what it receives.
theorem fulfils_run (hrecovers : Recovers I K E P fuel throw allowed) (h : KeepsUp impl origin I K E throw)
    (herror : ∀ failure, (∀ e, failure = some e → E e) → ∀ point, Accounted I K point →
      Fulfils (W := (inbox allowed).world (Entity × δ)) (Accounted I K) throw (fun _ => Accounted I K)
        (EntityAdapter.asyncHandleError (kind.operations P fuel impl) failure) point)
    (rounds : Nat) (point : List PublishPacket × Entity × δ) (hpoint : Accounted I K point) :
    Fulfils (W := (inbox allowed).world (Entity × δ)) (Accounted I K) throw (fun _ _ => False)
      (EntityAdapter.asyncRun (kind.operations P fuel impl) rounds) point := by
  induction rounds generalizing point with
  | zero => exact fulfils_spin hpoint
  | succ rounds ih =>
      rw [asyncRun_succ]
      refine fulfils_bind (fulfils_receive hrecovers h point hpoint) fun result later hlater => ?_
      cases result with
      | ok command => exact fulfils_bind (fulfils_handleRecvValue h hlater) fun _ last hlast => ih last hlast
      | error failure => exact fulfils_bind (herror failure hlater.2 later hlater.1) fun _ last hlast => ih last hlast

end Run

section Anyhow

variable {kind : EntityKind} {δ : Type} {allowed : (query : Query) → Answer query → Prop}
  {impl : Impl kind.Command kind.State δ} {origin : Entity} {K : List PublishPacket → δ → Prop} (P : Platform)
  (fuel : Nat)

-- A packet that has been received makes no difference to the account.
theorem withstands_inbox (hmore : ∀ received packet device, K received device → K (received ++ [packet]) device)
    (asked : Query → Prop) :
    Withstands ((inbox allowed).world (Entity × δ)) asked (Accounted (SameOrigin origin) K) where
  enter _ _ h := h
  issue _ _ h _ := h
  answer point query answer h _ := by
    cases query with
    | recv =>
        cases answer with
        | error e => exact h
        | ok packet =>
            cases packet with
            | publish packet => exact ⟨h.1, hmore _ packet _ h.2⟩
            | connack _ _ | puback _ | suback _ | other _ => exact h
    | resolve _ _ | connect | send _ | acquireUniquePacketId | timer _ | wait _ => exact h

variable (hmore : ∀ received packet device, K received device → K (received ++ [packet]) device)

include hmore

theorem upholds_onEntity {α : Type} {task : EntityM α} (h : EntitySays origin (fun _ => True) task) :
    Upholds (W := (inbox allowed).world (Entity × δ)) (Accounted (SameOrigin origin) K) (onEntity task) :=
  @upholds_zoom sig (Entity × δ) Entity α ((inbox allowed).world (Entity × δ)) (Accounted (SameOrigin origin) K)
    (Query.Hands fun _ => True) (withstands_inbox hmore _) Prod.fst (fun entity adapter => (entity, adapter.2))
    (SameOrigin origin) (fun _ hpoint => hpoint.1) (fun _ _ hentity hpoint => ⟨hentity, hpoint.2⟩) task h

-- Whatever else the adapter does, the device is not told anything.
theorem upholds_each (impl : Impl kind.Command kind.State δ)
    (hhandle : ∀ command device, impl.handleRecvValue command device = .ok device) :
    EntityAdapter.Each (commandOperations P impl fuel (kind.asyncConfigure P fuel) (kind.asyncSetState P) .spin)
      fun α (task : Async (Entity × δ) α) =>
        Upholds (W := (inbox allowed).world (Entity × δ)) (Accounted (SameOrigin origin) K) task where
  connect := upholds_onEntity hmore (says_entityConnect P fuel trivial)
  configure _ _ :=
    upholds_onEntity hmore (says_kindConfigure P fuel trivial kind (fun _ _ _ => trivial) fun _ _ _ => trivial)
  setAvailability availability _ := by
    cases availability with
    | offline =>
        have hpayload : availabilityStateMapper.mapKey .offline = .ok (ascii "offline") := rfl
        exact upholds_onEntity hmore (says_setAvailability P hpayload fun _ => trivial)
    | online =>
        have hpayload : availabilityStateMapper.mapKey .online = .ok (ascii "online") := rfl
        exact upholds_onEntity hmore (says_setAvailability P hpayload fun _ => trivial)
  setState _ _ := upholds_onEntity hmore (says_kindSetState P kind fun _ _ _ => trivial)
  receive := upholds_spin
  config := fun _ hpoint => fulfils_ret _ hpoint
  state read hread := by
    obtain ⟨read, -, rfl⟩ := Option.map_eq_some_iff.mp hread
    intro point hpoint start
    cases hvalue : read point.2.2 with
    | ok value =>
        simp only [wp_get, hvalue, ofExcept_ok]
        exact hpoint
    | error thrown =>
        simp only [wp_get, hvalue, ofExcept_error]
        exact hpoint
  handleRecvValue command := by
    intro point hpoint start
    simp only [commandOperations, wp_get, hhandle, ofExcept_ok, Coro.bind_eq, Coro.bind, Coro.modify, wp_set, wp_ret]
    exact hpoint
  wait seconds := fun point hpoint => by
    refine fulfils_await _ _ hpoint fun later hlater answer _ => ?_
    cases answer with
    | none => exact fulfils_ret _ hlater
    | some code => exact fulfils_throw _ hlater

omit hmore

theorem upholds_composes {S : Sig} {σ : Type} {W : World S σ} {J : W.Point → Prop} :
    EntityAdapter.Composes fun α (task : Coro S σ α) => Upholds J task where
  ret _ := upholds_ret
  spin _ := upholds_spin
  bind _ _ _ _ := upholds_bind

-- The adapter of an implementation that ignores its commands. Only async_run differs.
abbrev idleOperations (impl : Impl kind.Command kind.State δ) : Operations sig (Entity × δ) kind.Command kind.State :=
  commandOperations P { impl with handleRecvValue := fun _ device => .ok device } fuel (kind.asyncConfigure P fuel)
    (kind.asyncSetState P) .spin

include hmore

theorem upholds_idle : EntityAdapter.Each (idleOperations P fuel impl) fun α (task : Async (Entity × δ) α) =>
    Upholds (W := (inbox allowed).world (Entity × δ)) (Accounted (SameOrigin origin) K) task :=
  upholds_each P fuel hmore _ fun _ _ => rfl

theorem upholds_configure :
    Upholds (W := (inbox allowed).world (Entity × δ)) (Accounted (SameOrigin origin) K)
      (EntityAdapter.asyncConfigure (kind.operations P fuel impl)) := by
  rw [kind.asyncConfigure_eq P fuel impl]
  have hidle : Upholds (W := (inbox allowed).world (Entity × δ)) (Accounted (SameOrigin origin) K)
      (EntityAdapter.asyncConfigure (idleOperations P fuel impl)) :=
    EntityAdapter.composed_configure upholds_composes (upholds_idle P fuel hmore)
  exact hidle

theorem upholds_init :
    Upholds (W := (inbox allowed).world (Entity × δ)) (Accounted (SameOrigin origin) K)
      (EntityAdapter.asyncInit (kind.operations P fuel impl)) := by
  rw [kind.asyncInit_eq P fuel impl]
  have hidle : Upholds (W := (inbox allowed).world (Entity × δ)) (Accounted (SameOrigin origin) K)
      (EntityAdapter.asyncInit (idleOperations P fuel impl)) :=
    EntityAdapter.composed_init upholds_composes (upholds_idle P fuel hmore)
  exact hidle

theorem upholds_syncState :
    Upholds (W := (inbox allowed).world (Entity × δ)) (Accounted (SameOrigin origin) K)
      (EntityAdapter.asyncSyncState (kind.operations P fuel impl)) := by
  have hsync : Upholds (W := (inbox allowed).world (Entity × δ)) (Accounted (SameOrigin origin) K)
      (EntityAdapter.asyncSyncState (idleOperations P fuel impl)) :=
    EntityAdapter.composed_syncState upholds_composes (upholds_idle P fuel hmore)
  cases kind with
  | cover => exact hsync
  | button =>
      have hnone : EntityAdapter.asyncSyncState (EntityKind.button.operations P fuel impl) =
          EntityAdapter.asyncSyncState (idleOperations P fuel impl) :=
        congrArg (fun setState => EntityAdapter.asyncSyncState
            (commandOperations P impl fuel (Button.asyncConfigure P fuel) setState .spin))
          (EntityKind.setState_unique _ _)
      rw [hnone]
      exact hsync
  | binarySensor => exact hsync
  | sensor => exact hsync

theorem upholds_handleError (failure : Error) :
    Upholds (W := (inbox allowed).world (Entity × δ)) (Accounted (SameOrigin origin) K)
      (EntityAdapter.asyncHandleError (kind.operations P fuel impl) failure) := by
  have hconnect : Upholds (W := (inbox allowed).world (Entity × δ)) (Accounted (SameOrigin origin) K)
      (kind.operations P fuel impl).asyncConnect := by
    cases kind with
    | cover | button | binarySensor | sensor => exact upholds_onEntity hmore (says_entityConnect P fuel trivial)
  exact EntityAdapter.composed_handleError upholds_composes hconnect (upholds_configure P fuel hmore) failure

theorem recovers_anyhow :
    Recovers (δ := δ) (SameOrigin origin) K (fun _ => True) P fuel (fun _ => Accounted (SameOrigin origin) K)
      allowed where
  erasePending _ _ hentity := ⟨hentity.names, hentity.credentials⟩
  disconnected _ _ _ := trivial
  subscriptionFailure := trivial
  recvError e _ point hpoint := by
    have hclient : ClientSays origin.client (fun _ => True) (handleRecvError P (tryReconnect P fuel) e) :=
      says_handleRecvError P (says_tryReconnect P trivial fuel) e
    exact fulfils_mono (upholds_onEntity hmore (says_onClient hclient) point hpoint) (fun _ _ hthrow => hthrow)
      fun _ _ hlater => ⟨hlater, trivial⟩

theorem upholds_run
    (h : KeepsUp impl origin (SameOrigin origin) K (fun _ => True) fun _ => Accounted (SameOrigin origin) K)
    (rounds : Nat) :
    Upholds (W := (inbox allowed).world (Entity × δ)) (Accounted (SameOrigin origin) K)
      (EntityAdapter.asyncRun (kind.operations P fuel impl) rounds) := by
  intro point hpoint
  have hrun : Fulfils (W := (inbox allowed).world (Entity × δ)) (Accounted (SameOrigin origin) K)
      (fun _ => Accounted (SameOrigin origin) K) (fun _ _ => False)
      (EntityAdapter.asyncRun (kind.operations P fuel impl) rounds) point :=
    fulfils_run (recovers_anyhow P fuel hmore) h
      (fun failure _ point hpoint => upholds_handleError P fuel hmore failure point hpoint) rounds point hpoint
  exact fulfils_mono hrun (fun _ _ hthrow => hthrow) fun _ _ hnever => hnever.elim

end Anyhow

section Actions

variable (kind : EntityKind) {δ ε : Type} {allowed : (query : Query) → Answer query → Prop}
  (impl : Impl kind.Command kind.State δ) (origin : Entity) (done : δ → List ε) (effect : kind.Command → List ε)

-- What is done for a command, as the device has it on record. An exception comes first.
def Acts : Prop :=
  ∀ command device after, impl.handleRecvValue command device = .ok after → done after = done device ++ effect command

-- What a packet asks for.
def asked (packet : PublishPacket) : List ε :=
  match kind.commandOf origin packet with
  | .ok (some command) => effect command
  | _ => []

-- What co_spawn starts for an entity.
inductive KindSpawn (P : Platform) {W : World sig (Entity × δ)} :
    W.Point → W.Point → Async (Entity × δ) Unit → Prop
  | init (point : W.Point) (fuel : Nat) :
      KindSpawn P point point (do
        let _ ← EntityAdapter.asyncInit (kind.operations P fuel impl)
        return ())
  | run (point : W.Point) (fuel rounds : Nat) :
      KindSpawn P point point (EntityAdapter.asyncRun (kind.operations P fuel impl) rounds)
  | syncState (point : W.Point) (fuel : Nat) :
      KindSpawn P point point (EntityAdapter.asyncSyncState (kind.operations P fuel impl))

-- The device changes of itself at any time.
def kindArena (P : Platform) (changes : δ → δ → Prop) (allowed : (query : Query) → Answer query → Prop) :
    Arena ((inbox allowed).world (Entity × δ)) Unit where
  env before after := after.1 = before.1 ∧ after.2.1 = before.2.1 ∧ changes before.2.2 after.2.2
  spawn := KindSpawn kind impl P

variable {kind impl origin done effect}

theorem asked_none {packet : PublishPacket} (h : kind.commandOf origin packet = .ok none) :
    asked kind origin effect packet = [] := by
  simp only [asked, h]

theorem asked_some {packet : PublishPacket} {command : kind.Command}
    (h : kind.commandOf origin packet = .ok (some command)) : asked kind origin effect packet = effect command := by
  simp only [asked, h]

theorem flatMap_asked_append (received : List PublishPacket) (packet : PublishPacket) :
    (received ++ [packet]).flatMap (asked kind origin effect) =
      received.flatMap (asked kind origin effect) ++ asked kind origin effect packet := by
  rw [List.flatMap_append, List.flatMap_singleton]

theorem sublist_more (received : List PublishPacket) (packet : PublishPacket) (device : δ)
    (h : (done device).Sublist (received.flatMap (asked kind origin effect))) :
    (done device).Sublist ((received ++ [packet]).flatMap (asked kind origin effect)) := by
  rw [flatMap_asked_append]
  exact h.trans (List.sublist_append_left _ _)

theorem keepsUp_sublist (h : Acts kind impl done effect) :
    KeepsUp impl origin (SameOrigin origin)
      (fun received device => (done device).Sublist (received.flatMap (asked kind origin effect))) (fun _ => True)
      fun _ => Accounted (SameOrigin origin)
        fun received device => (done device).Sublist (received.flatMap (asked kind origin effect)) where
  names _ hentity := hentity.names
  unknownPacket := trivial
  idle packet point hfresh _ := by
    obtain ⟨-, received, hreceived, hdone⟩ := hfresh
    rw [hreceived]
    exact sublist_more received packet _ hdone
  refused packet point _ hfresh _ := by
    obtain ⟨hentity, received, hreceived, hdone⟩ := hfresh
    refine ⟨hentity, ?_⟩
    rw [hreceived]
    exact sublist_more received packet _ hdone
  handled packet point command device hfresh hcommand hdevice := by
    obtain ⟨-, received, hreceived, hdone⟩ := hfresh
    rw [hreceived, flatMap_asked_append, asked_some hcommand, h command _ device hdevice]
    exact hdone.append_right _
  failed packet point _ _ hfresh _ _ := by
    obtain ⟨hentity, received, hreceived, hdone⟩ := hfresh
    refine ⟨hentity, ?_⟩
    rw [hreceived]
    exact sublist_more received packet _ hdone

-- Whatever else happens, nothing is done that no packet has asked for, nothing is done
-- twice, and nothing before what was asked for first.
theorem done_sublist (P : Platform) {changes : δ → δ → Prop} (h : Acts kind impl done effect)
    (hchanges : ∀ before after, changes before after → done after = done before) {device : δ}
    (hdevice : done device = []) {pool : Pool ((inbox allowed).world (Entity × δ)) Unit}
    (hreach : Pool.Reach (kindArena kind impl P changes allowed) ⟨([], origin, device), []⟩ pool) :
    (done pool.point.2.2).Sublist (pool.point.1.flatMap (asked kind origin effect)) := by
  have hreached := Pool.upholds_reach (J := Accounted (SameOrigin origin)
      fun received device => (done device).Sublist (received.flatMap (asked kind origin effect)))
    (fun before after hbefore henv => ?_) (fun before after task hbefore hspawn => ?_) ?_ hreach
  · exact hreached.2
  · obtain ⟨hreceived, hentity, hdevice⟩ := henv
    refine ⟨hentity ▸ hbefore.1, ?_⟩
    dsimp only
    rw [hreceived, hchanges _ _ hdevice]
    exact hbefore.2
  · cases hspawn with
    | init fuel => exact ⟨hbefore, upholds_bind (upholds_init P fuel sublist_more) fun _ => upholds_ret _⟩
    | run fuel rounds => exact ⟨hbefore, upholds_run P fuel sublist_more (keepsUp_sublist h) rounds⟩
    | syncState fuel => exact ⟨hbefore, upholds_syncState P fuel sublist_more⟩
  · refine ⟨⟨⟨rfl, rfl⟩, rfl, rfl⟩, ?_⟩
    dsimp only
    rw [hdevice]
    exact List.nil_sublist _

section Undisturbed

-- The endpoint reports no error of the connection.
def undisturbed : (query : Query) → Answer query → Prop
  | .recv, answer => ∃ packet, answer = .ok packet
  | _, _ => True

-- Only the device changes meanwhile.
def aloneArena (changes : δ → δ → Prop) : Arena ((inbox undisturbed).world (Entity × δ)) Unit where
  env before after := after.1 = before.1 ∧ after.2.1 = before.2.1 ∧ changes before.2.2 after.2.2
  spawn _ _ _ := False

variable (kind impl origin done effect) (held : δ → Prop)

-- The run loop of an entity has been started, and nothing else.
def startAlone (P : Platform) (fuel rounds : Nat) (device : δ) : Pool ((inbox undisturbed).world (Entity × δ)) Unit :=
  let config := settle ((inbox undisturbed).world (Entity × δ))
    (EntityAdapter.asyncRun (kind.operations P fuel impl) rounds) ([], origin, device)
  ⟨config.point, [config.task]⟩

-- The last packet has ended the run loop: it was malformed, or its command has failed, in
-- one of the states in which the device has been.
def EndedBy (thrown : Exn) (point : List PublishPacket × Entity × δ) : Prop :=
  ∃ received packet, point.1 = received ++ [packet] ∧ done point.2.2 = received.flatMap (asked kind origin effect) ∧
    (kind.commandOf origin packet = .error thrown ∨
      ∃ command device, held device ∧ kind.commandOf origin packet = .ok (some command) ∧
        impl.handleRecvValue command device = .error thrown)

-- The entity of a run loop without disturbance.
def StaysConnected (entity : Entity) : Prop :=
  SameNames origin entity ∧ entity.client.connected = true

-- An error that async_handle_error only logs.
def Harmless (e : SystemError) : Prop :=
  e.code ≠ .mqtt .disconnected ∧ e.code ≠ .mqtt .reconnected

-- Whatever the device has done for the packets, it is in such a state.
def DoneAndHeld (received : List PublishPacket) (device : δ) : Prop :=
  done device = received.flatMap (asked kind origin effect) ∧ held device

variable {kind impl origin done effect held}

theorem recovers_undisturbed (P : Platform) (fuel : Nat) (K : List PublishPacket → δ → Prop)
    (throw : Exn → List PublishPacket × Entity × δ → Prop) :
    Recovers (StaysConnected origin) K Harmless P fuel throw undisturbed where
  erasePending _ _ hentity := ⟨hentity.1, hentity.2⟩
  disconnected _ hentity hconnected := by
    rw [hentity.2] at hconnected
    cases hconnected
  subscriptionFailure := ⟨by decide, by decide⟩
  recvError e hallow := by
    obtain ⟨packet, hpacket⟩ := hallow
    cases hpacket

theorem keepsUp_exactly (h : Acts kind impl done effect)
    (hkeeps : ∀ command device after, held device → impl.handleRecvValue command device = .ok after → held after) :
    KeepsUp impl origin (StaysConnected origin) (DoneAndHeld kind origin done effect held) Harmless
      (EndedBy kind impl origin done effect held) where
  names _ hentity := hentity.1
  unknownPacket := ⟨by decide, by decide⟩
  idle packet point hfresh hnone := by
    obtain ⟨-, received, hreceived, hdone, hheld⟩ := hfresh
    refine ⟨?_, hheld⟩
    rw [hreceived, flatMap_asked_append, asked_none hnone, List.append_nil]
    exact hdone
  refused packet point thrown hfresh herror := by
    obtain ⟨-, received, hreceived, hdone, -⟩ := hfresh
    exact ⟨received, packet, hreceived, hdone, .inl herror⟩
  handled packet point command device hfresh hcommand hdevice := by
    obtain ⟨-, received, hreceived, hdone, hheld⟩ := hfresh
    refine ⟨?_, hkeeps command _ device hheld hdevice⟩
    rw [hreceived, flatMap_asked_append, asked_some hcommand, h command _ device hdevice, hdone]
  failed packet point command thrown hfresh hcommand hfailed := by
    obtain ⟨-, received, hreceived, hdone, hheld⟩ := hfresh
    exact ⟨received, packet, hreceived, hdone, .inr ⟨command, point.2.2, hheld, hcommand, hfailed⟩⟩

theorem handleError_harmless {S : Sig} {σ Command State : Type} {ops : Operations S σ Command State} (failure : Error)
    (h : ∀ e, failure = some e → Harmless e) : EntityAdapter.asyncHandleError ops failure = .ret () := by
  cases failure with
  | none => simp [EntityAdapter.asyncHandleError]
  | some e =>
      obtain ⟨hdisconnected, hreconnected⟩ := h e rfl
      simp [EntityAdapter.asyncHandleError, hdisconnected, hreconnected]

variable (held) in
-- On a connection without disturbance exactly what was asked for is done, up to the packet
-- that ends the run loop.
theorem done_exactly (P : Platform) {changes : δ → δ → Prop} (h : Acts kind impl done effect)
    (hkeeps : ∀ command device after, held device → impl.handleRecvValue command device = .ok after → held after)
    (hchanges : ∀ before after, changes before after → done after = done before ∧ held after) {device : δ}
    (hdevice : done device = []) (hheld : held device) (hconnected : origin.client.connected = true) (fuel rounds : Nat)
    {pool : Pool ((inbox undisturbed).world (Entity × δ)) Unit}
    (hreach : Pool.Reach (aloneArena changes) (startAlone kind impl origin P fuel rounds device) pool) :
    ∃ last, pool.tasks = [last] ∧
      (last.Unfinished ∧ done pool.point.2.2 = pool.point.1.flatMap (asked kind origin effect) ∨
        ∃ thrown, last = .throw thrown ∧ EndedBy kind impl origin done effect held thrown pool.point) := by
  have hpoint : Accounted (StaysConnected origin) (DoneAndHeld kind origin done effect held) ([], origin, device) :=
    ⟨⟨⟨rfl, rfl⟩, hconnected⟩, hdevice, hheld⟩
  have hrun := fulfils_run (recovers_undisturbed P fuel _ _) (keepsUp_exactly h hkeeps)
    (fun failure hharmless point hpoint => by
      rw [handleError_harmless failure hharmless]
      exact fulfils_ret _ hpoint) rounds ([], origin, device) hpoint
  have haccounted (before after : List PublishPacket × Entity × δ)
      (henv : (aloneArena changes).env before after)
      (hbefore : Accounted (StaysConnected origin) (DoneAndHeld kind origin done effect held) before) :
      Accounted (StaysConnected origin) (DoneAndHeld kind origin done effect held) after := by
    obtain ⟨hreceived, hentity, hdevice⟩ := henv
    obtain ⟨hdone, hheld⟩ := hchanges _ _ hdevice
    refine ⟨hentity ▸ hbefore.1, ?_, hheld⟩
    rw [hreceived, hdone]
    exact hbefore.2.1
  have hended (thrown : Exn) (before after : List PublishPacket × Entity × δ)
      (henv : (aloneArena changes).env before after)
      (hbefore : EndedBy kind impl origin done effect held thrown before) :
      EndedBy kind impl origin done effect held thrown after := by
    obtain ⟨hreceived, -, hdevice⟩ := henv
    unfold EndedBy at hbefore ⊢
    rw [hreceived, (hchanges _ _ hdevice).1]
    exact hbefore
  obtain ⟨last, htasks, hlast⟩ := Pool.alone_reach (fun _ _ _ => id) haccounted (fun _ _ _ _ hnever => hnever) hended
    hrun hreach
  refine ⟨last, htasks, ?_⟩
  cases last with
  | ret value => exact hlast.elim
  | throw thrown => exact .inr ⟨thrown, rfl, hlast⟩
  | await query next => exact .inl ⟨trivial, hlast.1.2.1⟩
  | spin => exact .inl ⟨trivial, hlast.2.1⟩
  | get _ | set _ _ | enter _ _ => exact hlast.elim

end Undisturbed

end Actions

end HhctrlMgmt.Adapter
