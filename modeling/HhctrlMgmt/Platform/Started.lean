import HhctrlMgmt.Adapter.Creation
import HhctrlMgmt.Adapter.Identities
import HhctrlMgmt.Platform.Indicators

namespace HhctrlMgmt.Platform

open Adapter Common Coroutine Device Mqtt

-- The events of a process, without what their handlers would have found at that moment.
def Process.events (process : Process) : List DeviceCreated :=
  process.published.map Prod.fst

section Children

variable (machine : Machine) {boardId : DeviceId} {identity : HardwareIdentity} {indicators : List Indicator}

-- Whatever has been published but the board is a child of the board now, and the board is
-- the one that has these indicators.
structure Attached (boardId : DeviceId) (indicators : List Indicator) (process : Process) : Prop where
  children : ∀ event ∈ process.events, event.kind ≠ .mainBoard →
    process.devices.dtree.parent event.deviceId = some boardId
  board : (process.devices.inventory .mainBoard).get boardId = .ok ⟨indicators⟩

theorem kind_ne_board (provider : GenericProvider) (h : provider ∈ genericProviders machine) :
    DeviceKind.mainBoard ≠ provider.kind := by
  simp only [genericProviders, List.mem_cons, List.not_mem_nil, or_false] at h
  rcases h with rfl | rfl | rfl
  · simp [hatchProvider]
  · simp [sysfsDS18B20Provider]
  · simp [sysfsCPUTempSensorProvider]

theorem returns_loader_child {kind : DeviceKind} {loader : GenericLoader} (hloader : LoadsKind machine kind loader)
    (state : Process) :
    Returns (loader ⟨boardId⟩) state fun _ after =>
      after.events = state.events ++ [⟨kind, state.devices.nextId⟩] ∧
        after.devices.dtree = (state.devices.dtree.addChild machine.growth boardId state.devices.nextId none).tree ∧
        after.devices.inventory .mainBoard = state.devices.inventory .mainBoard := by
  obtain ⟨provider, hprovider, rfl, sysfsPath, rfl⟩ := hloader
  -- load
  refine returns_bind (P := fun deviceId after => deviceId = state.devices.nextId ∧
    after.devices.dtree = state.devices.dtree ∧
    after.devices.inventory .mainBoard = state.devices.inventory .mainBoard ∧
    after.published = state.published) ?_ fun deviceId loaded hloaded => ?_
  · refine returns_bind (returns_register machine provider hprovider sysfsPath state) fun deviceId middle hmiddle => ?_
    obtain ⟨hid, ⟨device, hdevice⟩, hpublished⟩ := hmiddle
    refine returns_bind (returns_addPoller deviceId provider.interval _ middle) fun _ after hafter => ?_
    obtain ⟨hdevices, -, hsame⟩ := hafter
    rw [hdevice] at hdevices
    refine returns_pure _ ⟨hid, ?_, ?_, hsame.trans hpublished⟩
    · rw [hdevices]
      rfl
    · rw [hdevices]
      exact Function.update_of_ne (kind_ne_board machine provider hprovider) _ _
  obtain ⟨rfl, hdtree, hinventory, hpublished⟩ := hloaded
  refine returns_modify _ _ (returns_modify _ _ (returns_pure _ ⟨?_, ?_, hinventory⟩))
  · simp only [Process.events, ← hpublished, List.map_append, List.map_cons, List.map_nil]
  · simp only [hdtree]

theorem attached_loader {kinds : List DeviceKind} {kind : DeviceKind} {loader : GenericLoader} {state : Process}
    (hloader : LoadsKind machine kind loader) (h : Running boardId identity kinds state)
    (hattached : Attached boardId indicators state) :
    Returns (loader ⟨boardId⟩) state fun _ after => Attached boardId indicators after := by
  refine (returns_loader_child machine hloader state).mono fun _ after hafter => ?_
  obtain ⟨hevents, hdtree, hinventory⟩ := hafter
  have hnone : state.devices.dtree.parent state.devices.nextId = none := by
    cases hparent : state.devices.dtree.parent state.devices.nextId with
    | none => rfl
    | some parentId => exact absurd (h.linked _ _ hparent) (lt_irrefl _)
  have hparent : after.devices.dtree.parent =
      Function.update state.devices.dtree.parent state.devices.nextId (some boardId) := by
    rw [hdtree, DeviceTree.addChild_parent _ _ h.distinct, if_pos hnone]
  refine ⟨fun event hevent hkind => ?_, hinventory ▸ hattached.board⟩
  rw [hevents] at hevent
  rw [hparent]
  rcases List.mem_append.mp hevent with hold | hnew
  · obtain ⟨entry, hentry, rfl⟩ := List.mem_map.mp hold
    rw [Function.update_of_ne (ne_of_lt (h.below entry hentry))]
    exact hattached.children entry.1 hold hkind
  · obtain rfl := List.mem_singleton.mp hnew
    exact Function.update_self _ _ _

theorem attached_loaders {kinds : List DeviceKind} {loaders : List GenericLoader} {state : Process}
    (hloaders : List.Forall₂ (LoadsKind machine) kinds loaders) (h : Running boardId identity [] state)
    (hattached : Attached boardId indicators state) (hcount : kinds.length + 2 < 2 ^ 31) :
    Returns (loaders.foldlM (fun _ loader => do
      let _ ← loader ⟨boardId⟩
      return ()) ()) state fun _ after =>
      Running boardId identity kinds after ∧ Attached boardId indicators after := by
  have hloop := returns_foldlM (fun (rest : List GenericLoader) (_ : Unit) after => ∃ done todo,
    kinds = done ++ todo ∧ List.Forall₂ (LoadsKind machine) todo rest ∧ Running boardId identity done after ∧
      Attached boardId indicators after)
    (fun _ loader => do
      let _ ← loader ⟨boardId⟩
      return ()) (fun loader rest _ state hdone => ?_) loaders () state ⟨[], kinds, rfl, hloaders, h, hattached⟩
  · refine hloop.mono fun _ after hafter => ?_
    obtain ⟨done, todo, rfl, htodo, hrunning, hattached⟩ := hafter
    cases htodo
    rw [List.append_nil]
    exact ⟨hrunning, hattached⟩
  · obtain ⟨done, todo, rfl, htodo, hrunning, hattached⟩ := hdone
    cases htodo with
    | @cons kind _ todo _ hloader hrest =>
        have hlength : done.length + 3 < 2 ^ 31 := by
          simp only [List.length_append, List.length_cons] at hcount
          omega
        have hrunningNext := returns_loader machine hloader hrunning hlength
        have hattachedNext := attached_loader machine hloader hrunning hattached
        refine returns_bind (fun value after hrun => And.intro (hrunningNext value after hrun)
          (hattachedNext value after hrun)) fun _ after hafter => ?_
        have hkinds : done ++ kind :: todo = done ++ [kind] ++ todo := by
          rw [List.append_assoc, List.singleton_append]
        exact returns_pure () ⟨done ++ [kind], todo, hkinds, hrest, hafter.1, hafter.2⟩

-- What a start-up that returns has left.
theorem mainBoardInit_running (entries : List Json) (hcount : (entries.filterMap describedKind).length + 2 < 2 ^ 31) :
    Returns (mainBoardInit machine (some (.array entries))) .fresh fun _ after => ∃ boardId identity indicators,
      indicators.map Indicator.indicatorType = entries.flatMap describedIndicators ∧
        Running boardId identity (entries.filterMap describedKind) after ∧ Attached boardId indicators after := by
  have hsetup := returns_setup machine (.array entries) .fresh
  have hsame := (same_setup machine (.array entries) ⟨[], []⟩).returns Process.fresh
  refine returns_bind (fun builder after hrun => And.intro (hsetup builder after hrun) (hsame builder after hrun))
    fun builder state hbuilder => ?_
  obtain ⟨⟨found, hfound, -, hindicators, hloaders⟩, hfresh⟩ := hbuilder
  obtain rfl : entries = found := Json.array.inj hfound
  refine returns_board machine builder.indicators _ state hfresh _ fun boardId identity after hrunning _ hboard => ?_
  have hattached : Attached boardId builder.indicators after := by
    refine ⟨fun event hevent hkind => ?_, hboard⟩
    have hkinds : event.kind ∈ after.published.map fun entry => entry.1.kind := by
      obtain ⟨entry, hentry, rfl⟩ := List.mem_map.mp hevent
      exact List.mem_map.mpr ⟨entry, hentry, rfl⟩
    rw [hrunning.published, List.mem_singleton] at hkinds
    exact absurd hkinds hkind
  exact (attached_loaders machine hloaders hrunning hattached hcount).mono fun _ last hlast =>
    ⟨boardId, identity, builder.indicators, hindicators, hlast⟩

end Children

section Handlers

-- What the handler of an event finds when it runs: these devices, with a device that can be
-- read, and no board of its own.
structure FindsBoard (attributes : Attributes) (devices : Devices) (deviceId : DeviceId) (state : Board.State) :
    Prop where
  identity : state.identity = DeviceIdentityProvider.identity devices.hwIdentityStore devices.dtree
  indicatorState : ∀ board, (devices.inventory .mainBoard).get deviceId = .ok board → ∀ indicatorType, ∃ shown,
    board.Reads attributes indicatorType shown ∧ state.indicatorState deviceId indicatorType = .ok shown
  device : state.device = none

structure FindsHatch (devices : Devices) (deviceId : DeviceId) (state : Registry.State) : Prop where
  identity : state.identity = DeviceIdentityProvider.identity devices.hwIdentityStore devices.dtree
  status : ∃ status, state.status deviceId = .ok status

structure FindsSensor (devices : Devices) (deviceId : DeviceId) (state : Sensors.State) : Prop where
  identity : state.identity = DeviceIdentityProvider.identity devices.hwIdentityStore devices.dtree
  value : ∃ value, state.value deviceId = .ok value

-- Where every operation of an entity succeeds, the handler of the event adds these entities
-- to those that it has.
def Creates (broker : BrokerConfig) (arrange : List Board.Indicator → List Board.Indicator) (attributes : Attributes)
    (devices : Devices) (event : DeviceCreated) (entities : List Entity) : Prop :=
  match event.kind with
  | .mainBoard => ∀ journal state spawn, FindsBoard attributes devices event.deviceId state → ∃ later board,
      exec (Board.boardWorld fun _ _ _ _ _ => True) Board.succeeding
          (Board.MainBoardEventHandler.deviceCreated broker arrange spawn event.deviceId) (journal, state) =
        (.ret (), later) ∧
      later.2.device = some board ∧ board.entities broker = entities
  | .hatch => ∀ journal state, FindsHatch devices event.deviceId state → ∃ later,
      exec (Registry.journalWorld fun _ _ _ _ => True) Registry.succeeding
          (Registry.HatchEventHandler.deviceCreated broker event.deviceId) (journal, state) = (.ret (), later) ∧
      later.2.hatches.map (fun node => node.entity broker) =
        state.hatches.map (fun node => node.entity broker) ++ entities
  | .tempSensor => ∀ state, FindsSensor devices event.deviceId state → ∃ later,
      exec Sensors.sensorWorld Sensors.succeeding
          (Sensors.TempSensorEventHandler.deviceCreated broker event.deviceId) ((), state) = (.ret (), later) ∧
      later.2.sensors.map (fun sensor => sensor.entity broker) =
        state.sensors.map (fun sensor => sensor.entity broker) ++ entities

-- Whatever the operations come to, the handler of the board's event throws.
def Refuses (broker : BrokerConfig) (arrange : List Board.Indicator → List Board.Indicator) (attributes : Attributes)
    (devices : Devices) (deviceId : DeviceId) : Prop :=
  ∀ respond journal state spawn, FindsBoard attributes devices deviceId state → ∃ later,
    exec (Board.boardWorld fun _ _ _ _ _ => True) respond
        (Board.MainBoardEventHandler.deviceCreated broker arrange spawn deviceId) (journal, state) =
      (.throw Board.MainBoardEventHandler.cannotCreate, later) ∧
    later.2.device = none

variable {attributes : Attributes} {board : MainBoard} {indicatorType : IndicatorType} {state : IndicatorState}

-- An indicator that there is is on or off.
theorem MainBoard.Reads.available (h : board.Reads attributes indicatorType state)
    (hmem : indicatorType ∈ board.indicators.map Indicator.indicatorType) : state ≠ .notAvailable := by
  obtain ⟨need, hneed⟩ := h
  have hreads := hneed need (Nat.le_refl _)
  obtain ⟨found, hfound, rfl⟩ := List.mem_map.mp hmem
  unfold MainBoard.indicatorState at hreads
  cases hfind : board.indicators.find? fun indicator => indicator.indicatorType = found.indicatorType with
  | none =>
      have hother := List.find?_eq_none.mp hfind found hfound
      exact absurd (decide_eq_true rfl) hother
  | some indicator =>
      rw [hfind] at hreads
      dsimp only at hreads
      unfold Indicator.state at hreads
      cases hled : indicator.rgbLed.brightness attributes need with
      | none =>
          rw [hled] at hreads
          cases hreads
      | some brightness =>
          rw [hled] at hreads
          cases brightness with
          | error thrown => cases hreads
          | ok value =>
              simp only [ExceptT.bind, bind, ExceptT.mk, ExceptT.bindCont, Option.bind_some] at hreads
              split_ifs at hreads
              · cases hreads
                exact nofun
              · cases hreads
                exact nofun

theorem MainBoard.Reads.notAvailable (h : (⟨[]⟩ : MainBoard).Reads attributes indicatorType state) :
    state = .notAvailable := by
  obtain ⟨need, hneed⟩ := h
  cases hneed need (Nat.le_refl _)
  rfl

end Handlers

section Home

variable {boardId : DeviceId} {identity : HardwareIdentity}

theorem describedKind_ne_board (entry : Json) : describedKind entry ≠ some .mainBoard := by
  unfold describedKind genericKind
  split_ifs with hpath
  · cases compatibleOf entry with
    | none => exact fun h => by cases h
    | some compatible =>
        rw [Option.bind_some]
        split_ifs
        · exact fun h => by cases h
        · exact fun h => by cases h
        · exact fun h => by cases h
  · exact fun h => by cases h

-- The board is the first device, and the only board.
theorem Running.board_iff {entries : List Json} {process : Process}
    (h : Running boardId identity (entries.filterMap describedKind) process) (event : DeviceCreated)
    (hevent : event ∈ process.events) : event.kind = .mainBoard ↔ event = ⟨.mainBoard, boardId⟩ := by
  refine ⟨fun hkind => ?_, fun heq => heq ▸ rfl⟩
  obtain ⟨entry, hentry, rfl⟩ := List.mem_map.mp hevent
  have hkinds := h.published
  have hhead := h.head
  cases hpublished : process.published with
  | nil =>
      rw [hpublished] at hhead
      cases hhead
  | cons first rest =>
      rw [hpublished] at hkinds hhead hentry
      rw [List.map_cons, List.cons.injEq] at hkinds
      rcases List.mem_cons.mp hentry with rfl | hrest
      · rw [List.head?_cons, Option.map_some, Option.some.injEq] at hhead
        rw [← hhead, ← hkinds.1]
      · have hmem : entry.1.kind ∈ entries.filterMap describedKind :=
          hkinds.2 ▸ List.mem_map.mpr ⟨entry, hrest, rfl⟩
        obtain ⟨descriptor, -, hdescribed⟩ := List.mem_filterMap.mp hmem
        exact absurd (hkind ▸ hdescribed) (describedKind_ne_board descriptor)

theorem Running.board_mem {kinds : List DeviceKind} {process : Process} (h : Running boardId identity kinds process) :
    ⟨.mainBoard, boardId⟩ ∈ process.events := by
  have hkinds := h.published
  have hhead := h.head
  unfold Process.events
  cases hpublished : process.published with
  | nil =>
      rw [hpublished] at hhead
      cases hhead
  | cons first rest =>
      rw [hpublished] at hkinds hhead
      rw [List.map_cons, List.cons.injEq] at hkinds
      rw [List.head?_cons, Option.map_some, Option.some.injEq] at hhead
      rw [List.map_cons, ← hhead, ← hkinds.1]
      exact List.mem_cons_self

theorem Running.events_nodup {kinds : List DeviceKind} {process : Process}
    (h : Running boardId identity kinds process) : (process.events.map DeviceCreated.deviceId).Nodup := by
  unfold Process.events
  rw [List.map_map]
  exact h.nodup

-- A device id tells the kind of the device.
theorem Running.kind_unique {kinds : List DeviceKind} {process : Process} (h : Running boardId identity kinds process)
    {first second : DeviceCreated} (hfirst : first ∈ process.events) (hsecond : second ∈ process.events)
    (hid : first.deviceId = second.deviceId) : first = second :=
  List.inj_on_of_nodup_map h.events_nodup hfirst hsecond hid

-- The home of a board that has started.
def Running.home {kinds : List DeviceKind} {process : Process} (h : Running boardId identity kinds process)
    (broker : BrokerConfig) : Home where
  identity := DeviceIdentityProvider.deviceIdentity identity
  broker := broker
  boardId := boardId
  hatches := { deviceId | ⟨.hatch, deviceId⟩ ∈ process.events }
  tempSensors := { deviceId | ⟨.tempSensor, deviceId⟩ ∈ process.events }
  disjoint := by
    refine Set.disjoint_left.mpr fun deviceId hhatch hsensor => ?_
    have heq := congrArg DeviceCreated.kind (h.kind_unique hhatch hsensor rfl)
    cases heq
  board_fresh := by
    rintro (hhatch | hsensor)
    · have heq := congrArg DeviceCreated.kind (h.kind_unique hhatch h.board_mem rfl)
      cases heq
    · have heq := congrArg DeviceCreated.kind (h.kind_unique hsensor h.board_mem rfl)
      cases heq

-- The event that a part is created for.
def creation (home : Home) : home.Part → DeviceCreated
  | .hatch deviceId => ⟨.hatch, deviceId⟩
  | .tempSensor deviceId => ⟨.tempSensor, deviceId⟩
  | .indicator _ => ⟨.mainBoard, home.boardId⟩
  | .restartButton => ⟨.mainBoard, home.boardId⟩

-- What is made for the board, in the order in which it is made.
def boardParts (home : Home) : List home.Part :=
  [.indicator .fault, .indicator .status, .indicator .warning, .indicator .maintenance, .restartButton]

theorem boardParts_nodup (home : Home) : (boardParts home).Nodup := by
  simp [boardParts]

theorem mem_boardParts_iff (home : Home) (part : home.Part) :
    part ∈ boardParts home ↔ creation home part = ⟨.mainBoard, home.boardId⟩ := by
  cases part with
  | hatch deviceId => simp [boardParts, creation]
  | tempSensor deviceId => simp [boardParts, creation]
  | indicator indicatorType => cases indicatorType <;> simp [boardParts, creation]
  | restartButton => simp [boardParts, creation]

-- All handlers find the identity of the board.
theorem Running.identified {entries : List Json} {process : Process}
    {indicators : List Indicator} (h : Running boardId identity (entries.filterMap describedKind) process)
    (hattached : Attached boardId indicators process) (event : DeviceCreated) (hevent : event ∈ process.events) :
    DeviceIdentityProvider.identity process.devices.hwIdentityStore process.devices.dtree event.deviceId =
      .ok (DeviceIdentityProvider.deviceIdentity identity) := by
  by_cases hkind : event.kind = .mainBoard
  · rw [(h.board_iff event hevent).mp hkind]
    exact identity_of_board h.store
  · have hne : event.deviceId ≠ boardId := by
      intro hid
      exact hkind (congrArg DeviceCreated.kind (h.kind_unique hevent h.board_mem hid))
    exact identity_of_child h.store hne (hattached.children event hevent hkind)

theorem entity_injective (home : Home) : Function.Injective home.entity := by
  intro part other heq
  have huniqueId := congrArg Entity.uniqueId heq
  rw [home.uniqueId_eq, home.uniqueId_eq] at huniqueId
  exact home.suffix_injective (List.append_cancel_left (List.append_cancel_left huniqueId))

-- A descriptor of indicators.
def DescribesIndicators (entries : List Json) : Prop :=
  ∃ entry ∈ entries, compatibleOf entry = some (ascii "sysfs_rgbled_indicator")

theorem mem_describedIndicators {entries : List Json} (h : DescribesIndicators entries) (indicatorType : IndicatorType) :
    indicatorType ∈ entries.flatMap describedIndicators := by
  obtain ⟨entry, hentry, hcompatible⟩ := h
  refine List.mem_flatMap.mpr ⟨entry, hentry, ?_⟩
  rw [describedIndicators, if_pos hcompatible]
  cases indicatorType <;> decide

theorem describedIndicators_nil {entries : List Json} (h : ¬DescribesIndicators entries) :
    entries.flatMap describedIndicators = [] :=
  List.flatMap_eq_nil_iff.mpr fun entry hentry => if_neg fun hcompatible => h ⟨entry, hentry, hcompatible⟩

-- The handler of each event creates the parts that there is the event for.
theorem creates_parts {entries : List Json} {process : Process} {indicators : List Indicator}
    (h : Running boardId identity (entries.filterMap describedKind) process)
    (hattached : Attached boardId indicators process)
    (hindicators : indicators.map Indicator.indicatorType = entries.flatMap describedIndicators)
    (broker : BrokerConfig) {arrange : List Board.Indicator → List Board.Indicator}
    (harrange : ∀ indicators, (arrange indicators).Perm indicators) (attributes : Attributes) (event : DeviceCreated)
    (hevent : event ∈ process.events) (hdescribed : event.kind = .mainBoard → DescribesIndicators entries) :
    ∃ (parts : List (h.home broker).Part) (entities : List Entity),
      Creates broker arrange attributes process.devices event entities ∧
        entities.Perm (parts.map (h.home broker).entity) ∧ parts.Nodup ∧
        ∀ part, part ∈ parts ↔ creation (h.home broker) part = event := by
  have hidentified := h.identified hattached event hevent
  obtain ⟨kind, deviceId⟩ := event
  cases kind with
  | mainBoard =>
      obtain rfl : deviceId = boardId := congrArg DeviceCreated.deviceId ((h.board_iff _ hevent).mp rfl)
      let deviceIdentity := DeviceIdentityProvider.deviceIdentity identity
      let made : List Board.Indicator := [⟨deviceId, .fault, deviceIdentity⟩, ⟨deviceId, .status, deviceIdentity⟩,
        ⟨deviceId, .warning, deviceIdentity⟩, ⟨deviceId, .maintenance, deviceIdentity⟩]
      let board : Board.MainBoard := ⟨arrange made, ⟨deviceId, deviceIdentity⟩⟩
      refine ⟨boardParts _, board.entities broker, fun journal state spawn hfinds => ?_, ?_, boardParts_nodup _,
        mem_boardParts_iff _⟩
      · have hstates (indicatorType : IndicatorType) : ∃ shown,
            state.indicatorState deviceId indicatorType = .ok shown ∧ shown ≠ .notAvailable := by
          obtain ⟨shown, hreads, hshown⟩ := hfinds.indicatorState _ hattached.board indicatorType
          exact ⟨shown, hshown, hreads.available (hindicators ▸ mem_describedIndicators (hdescribed rfl) indicatorType)⟩
        rw [← hfinds.identity] at hidentified
        obtain ⟨later, hrun, hdevice⟩ := @Board.deviceCreated_emplaces _ broker arrange spawn deviceId _ (journal, state)
          hfinds.device hidentified hstates
        exact ⟨later, board, hrun, hdevice, rfl⟩
      · exact List.Perm.append_right _ ((harrange made).map _)
  | hatch =>
      refine ⟨[.hatch ⟨deviceId, hevent⟩], [_], fun journal state hfinds => ?_, List.Perm.refl _,
        List.nodup_singleton _, fun part => ?_⟩
      · obtain ⟨status, hstatus⟩ := hfinds.status
        rw [← hfinds.identity] at hidentified
        refine ⟨_, Registry.deviceCreated_pushes broker deviceId hidentified hstatus, ?_⟩
        exact List.map_append
      · rw [List.mem_singleton]
        cases part with
        | hatch other => simp [creation, Subtype.ext_iff]
        | tempSensor other => simp [creation]
        | indicator indicatorType => simp [creation]
        | restartButton => simp [creation]
  | tempSensor =>
      refine ⟨[.tempSensor ⟨deviceId, hevent⟩], [_], fun state hfinds => ?_, List.Perm.refl _,
        List.nodup_singleton _, fun part => ?_⟩
      · obtain ⟨value, hvalue⟩ := hfinds.value
        rw [← hfinds.identity] at hidentified
        refine ⟨_, Sensors.deviceCreated_pushes broker deviceId hidentified hvalue, ?_⟩
        exact List.map_append
      · rw [List.mem_singleton]
        cases part with
        | hatch other => simp [creation]
        | tempSensor other => simp [creation, Subtype.ext_iff]
        | indicator indicatorType => simp [creation]
        | restartButton => simp [creation]

theorem refuses_board {entries : List Json} {process : Process} {indicators : List Indicator}
    (h : Running boardId identity (entries.filterMap describedKind) process)
    (hattached : Attached boardId indicators process)
    (hindicators : indicators.map Indicator.indicatorType = entries.flatMap describedIndicators)
    (broker : BrokerConfig) (arrange : List Board.Indicator → List Board.Indicator) (attributes : Attributes)
    (hnone : ¬DescribesIndicators entries) : Refuses broker arrange attributes process.devices boardId := by
  intro respond journal state spawn hfinds
  have hidentified := h.identified hattached _ h.board_mem
  rw [← hfinds.identity] at hidentified
  rw [describedIndicators_nil hnone, List.map_eq_nil_iff] at hindicators
  subst hindicators
  have hstates (indicatorType : IndicatorType) : state.indicatorState boardId indicatorType = .ok .notAvailable := by
    obtain ⟨shown, hreads, hshown⟩ := hfinds.indicatorState _ hattached.board indicatorType
    rw [hshown, hreads.notAvailable]
  exact Board.deviceCreated_refuses broker arrange spawn boardId respond hfinds.device hidentified hstates

end Home

-- The handlers of the events create each part of the home once, and nothing else; but the
-- one of the board creates none if no indicators are described.
structure Composes (entries : List Json) (process : Process) (home : Home) : Prop where
  kinds : process.events.map DeviceCreated.kind = .mainBoard :: entries.filterMap describedKind
  nodup : process.events.Nodup
  complete : ∀ part, creation home part ∈ process.events
  created : ∀ arrange, (∀ indicators, (arrange indicators).Perm indicators) → ∀ attributes,
    ∀ event ∈ process.events, (event.kind = .mainBoard → DescribesIndicators entries) →
    ∃ created, Creates home.broker arrange attributes process.devices event created ∧ created.Nodup ∧
      ∀ entity, entity ∈ created ↔ ∃ part, creation home part = event ∧ home.entity part = entity
  refused : ¬DescribesIndicators entries → ∀ arrange attributes,
    Refuses home.broker arrange attributes process.devices home.boardId

-- The handler of the board's event, where the values of its indicators can be read.
theorem Composes.creates_board {entries : List Json} {process : Process} {home : Home}
    (h : Composes entries process home) (hdescribed : DescribesIndicators entries) {attributes : Attributes}
    (journal : Board.Journal) (state : Board.State) (spawn : Board.Spawn)
    (hfinds : FindsBoard attributes process.devices home.boardId state) : ∃ later board,
      exec (Board.boardWorld fun _ _ _ _ _ => True) Board.succeeding
          (Board.MainBoardEventHandler.deviceCreated home.broker id spawn home.boardId) (journal, state) =
        (.ret (), later) ∧
      later.2.device = some board ∧ (board.entities home.broker).Nodup ∧
      home.entity .restartButton ∈ board.entities home.broker ∧
      ∀ indicatorType, home.entity (.indicator indicatorType) ∈ board.entities home.broker := by
  obtain ⟨created, hcreates, hnodup, hcreated⟩ := h.created id (fun _ => List.Perm.refl _) attributes
    ⟨.mainBoard, home.boardId⟩ (h.complete .restartButton) fun _ => hdescribed
  obtain ⟨later, board, hrun, hdevice, rfl⟩ := hcreates journal state spawn hfinds
  exact ⟨later, board, hrun, hdevice, hnodup, (hcreated _).mpr ⟨.restartButton, rfl, rfl⟩,
    fun indicatorType => (hcreated _).mpr ⟨.indicator indicatorType, rfl, rfl⟩⟩

theorem Running.composes {boardId : DeviceId} {identity : HardwareIdentity} {entries : List Json} {process : Process}
    {indicators : List Indicator} (h : Running boardId identity (entries.filterMap describedKind) process)
    (hattached : Attached boardId indicators process)
    (hindicators : indicators.map Indicator.indicatorType = entries.flatMap describedIndicators)
    (broker : BrokerConfig) : Composes entries process (h.home broker) := by
  refine ⟨?_, List.Nodup.of_map _ h.events_nodup, fun part => ?_, ?_, ?_⟩
  · rw [← h.published]
    unfold Process.events
    rw [List.map_map]
    rfl
  · cases part with
    | hatch deviceId => exact deviceId.2
    | tempSensor deviceId => exact deviceId.2
    | indicator indicatorType => exact h.board_mem
    | restartButton => exact h.board_mem
  · intro arrange harrange attributes event hevent hdescribed
    obtain ⟨parts, entities, hcreates, hperm, hnodup, hparts⟩ :=
      creates_parts h hattached hindicators broker harrange attributes event hevent hdescribed
    refine ⟨entities, hcreates, hperm.nodup_iff.mpr (hnodup.map (entity_injective _)), fun entity => ?_⟩
    rw [hperm.mem_iff, List.mem_map]
    simp only [hparts]
  · exact fun hnone arrange attributes => refuses_board h hattached hindicators broker arrange attributes hnone

-- A start-up that returns has found a home, whatever the machine and the description are.
theorem startUp_composes_home (machine : Machine) (broker : BrokerConfig) (entries : List Json)
    (hcount : (entries.filterMap describedKind).length + 2 < 2 ^ 31) (process : Process)
    (hrun : (mainBoardInit machine (some (.array entries))).run .fresh = .ok () process) :
    ∃ home : Home, home.broker = broker ∧ Composes entries process home := by
  obtain ⟨boardId, identity, indicators, hindicators, hrunning, hattached⟩ :=
    mainBoardInit_running machine entries hcount () process hrun
  exact ⟨hrunning.home broker, rfl, hrunning.composes hattached hindicators broker⟩

section Samples

def ledDescriptor (color : String) : Json :=
  .object [(ascii "color", .string (ascii color)), (ascii "sysfs_path", .string (ascii color))]

def indicatorDescriptor : Json :=
  sampleDescriptor "sysfs_rgbled_indicator"
    [(ascii "leds", .array [ledDescriptor "red", ledDescriptor "green", ledDescriptor "blue"])]

theorem describesIndicators_cons (entries : List Json) : DescribesIndicators (indicatorDescriptor :: entries) :=
  ⟨indicatorDescriptor, List.mem_cons_self, rfl⟩

-- What the handler of the board's event finds while the LED is dark.
def darkState (devices : Devices) : Board.State where
  identity := DeviceIdentityProvider.identity devices.hwIdentityStore devices.dtree
  indicatorState _ _ := .ok .off
  restart _ := .ok ()
  device := none
  queue := []
  nextNumber := 0

theorem reads_dark {board : MainBoard} {indicatorType : IndicatorType}
    (hmem : indicatorType ∈ board.indicators.map Indicator.indicatorType) :
    board.Reads (darkStore.attributes .fresh) indicatorType .off := by
  have hdark (led : SysfsLed) : led.Shows (darkStore.attributes .fresh) 0 :=
    ⟨_, led.brightness_keeps _ 0 (by decide) (Or.inl rfl)⟩
  have hoff (other : IndicatorType) : IndicatorState.off = Indicator.reported ⟨0, 0, 0⟩ other := by
    cases other <;> decide
  unfold MainBoard.Reads MainBoard.indicatorState
  cases hfind : board.indicators.find? fun indicator => indicator.indicatorType = indicatorType with
  | none =>
      obtain ⟨found, hfound, rfl⟩ := List.mem_map.mp hmem
      exact absurd (decide_eq_true rfl) (List.find?_eq_none.mp hfind found hfound)
  | some indicator =>
      have hshows : indicator.rgbLed.Shows (darkStore.attributes .fresh) ⟨0, 0, 0⟩ := ⟨hdark _, hdark _, hdark _⟩
      exact (Indicator.reads_iff hshows rfl .off).mpr (hoff _)

theorem findsBoard_darkState {devices : Devices} {deviceId : DeviceId} {indicators : List Indicator}
    (hboard : (devices.inventory .mainBoard).get deviceId = .ok ⟨indicators⟩)
    (htypes : ∀ indicatorType, indicatorType ∈ indicators.map Indicator.indicatorType) :
    FindsBoard (darkStore.attributes .fresh) devices deviceId (darkState devices) := by
  refine ⟨rfl, fun found hfound indicatorType => ⟨.off, ?_, rfl⟩, rfl⟩
  obtain rfl : ⟨indicators⟩ = found := Except.ok.inj (hboard.symm.trans hfound)
  exact reads_dark (htypes indicatorType)

-- What a start-up has published, evaluated.
theorem returns_of_events {program : Init Unit} {events : List DeviceCreated}
    (h : (match program.run .fresh with
      | .ok () after => some after.events
      | .error _ _ => none) = some events) :
    ∃ process, program.run .fresh = .ok () process ∧ process.events = events := by
  cases hrun : program.run .fresh with
  | ok value process =>
      rw [hrun] at h
      exact ⟨process, rfl, Option.some.inj h⟩
  | error thrown process =>
      rw [hrun] at h
      cases h

-- While the LED is dark, the handler of the board's event makes the four indicators and the
-- button.
def MakesDarkBoard (process : Process) (home : Home) : Prop :=
  ∃ later board,
    exec (Board.boardWorld fun _ _ _ _ _ => True) Board.succeeding
        (Board.MainBoardEventHandler.deviceCreated home.broker id ⟨0, .deviceCreated home.boardId⟩ home.boardId)
        (⟨[], [], []⟩, darkState process.devices) = (.ret (), later) ∧
    later.2.device = some board ∧ (board.entities home.broker).Nodup ∧
    home.entity .restartButton ∈ board.entities home.broker ∧
    ∀ indicatorType, home.entity (.indicator indicatorType) ∈ board.entities home.broker

theorem Composes.makesDarkBoard {machine : Machine} {entries : List Json} {process : Process} {home : Home}
    (h : Composes entries process home)
    (hrun : (mainBoardInit machine (some (.array entries))).run .fresh = .ok () process)
    (hcount : (entries.filterMap describedKind).length + 2 < 2 ^ 31) (hdescribed : DescribesIndicators entries) :
    MakesDarkBoard process home := by
  obtain ⟨boardId, identity, indicators, hindicators, hrunning, hattached⟩ :=
    mainBoardInit_running machine entries hcount () process hrun
  have hid : home.boardId = boardId :=
    congrArg DeviceCreated.deviceId ((hrunning.board_iff _ (h.complete .restartButton)).mp rfl)
  have hfinds := findsBoard_darkState (hid ▸ hattached.board) fun indicatorType =>
    hindicators ▸ mem_describedIndicators hdescribed indicatorType
  exact h.creates_board hdescribed ⟨[], [], []⟩ (darkState process.devices) _ hfinds

theorem startUp_composes_home_sample : ∃ process home,
    (mainBoardInit sampleMachine (some (.array (indicatorDescriptor :: sampleEntries)))).run .fresh = .ok () process ∧
      process.events = [⟨.mainBoard, 1⟩, ⟨.hatch, 2⟩, ⟨.tempSensor, 3⟩] ∧
      Composes (indicatorDescriptor :: sampleEntries) process home ∧ MakesDarkBoard process home := by
  obtain ⟨process, hrun, hevents⟩ : ∃ process,
      (mainBoardInit sampleMachine (some (.array (indicatorDescriptor :: sampleEntries)))).run .fresh = .ok () process ∧
        process.events = [⟨.mainBoard, 1⟩, ⟨.hatch, 2⟩, ⟨.tempSensor, 3⟩] := returns_of_events (by decide +kernel)
  obtain ⟨home, -, hcomposes⟩ :=
    startUp_composes_home sampleMachine {} (indicatorDescriptor :: sampleEntries) (by decide) process hrun
  exact ⟨process, home, hrun, hevents, hcomposes,
    hcomposes.makesDarkBoard hrun (by decide) (describesIndicators_cons sampleEntries)⟩

end Samples

end HhctrlMgmt.Platform
