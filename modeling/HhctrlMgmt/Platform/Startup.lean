import HhctrlMgmt.Common.Effect
import HhctrlMgmt.Platform.Setup

namespace HhctrlMgmt.Platform

open Adapter Common Device

def hasSysfsPath : Json → Bool
  | .object members => Object.contains members (ascii "sysfs_path")
  | _ => false

-- What a generic descriptor with a sysfs_path describes.
def describedKind (entry : Json) : Option DeviceKind :=
  if hasSysfsPath entry then (compatibleOf entry).bind genericKind else none

-- The types of the indicators that a descriptor describes.
def describedIndicators (entry : Json) : List IndicatorType :=
  if compatibleOf entry = some (ascii "sysfs_rgbled_indicator") then [.fault, .maintenance, .status, .warning] else []

def NoProvider (entry : Json) : Prop :=
  ∃ compatible, compatibleOf entry = some compatible ∧ compatible ≠ ascii "sysfs_rgbled_indicator" ∧
    genericKind compatible = none

-- What the handlers of an event rely on.
structure FullyRegistered (boardId : DeviceId) (identity : HardwareIdentity) (event : DeviceCreated)
    (devices : Devices) : Prop where
  registered : (devices.inventory event.kind).deviceExists event.deviceId = true
  polled : devices.pollers.countP (fun poller => poller.deviceId = event.deviceId) = 1
  child : event.kind ≠ .mainBoard → event.deviceId ∈ devices.dtree.allChildren boardId
  identified : DeviceIdentityProvider.identity devices.hwIdentityStore devices.dtree event.deviceId =
    .ok (DeviceIdentityProvider.deviceIdentity identity)

-- `identity` is what hardware_identity() has said once the board was registered.
structure StartedUp (machine : Machine) (entries : List Json) (process : Process) : Prop where
  kinds : process.published.map (fun entry => entry.1.kind) = .mainBoard :: entries.filterMap describedKind
  nodup : (process.published.map fun entry => entry.1.deviceId).Nodup
  registered : ∃ boardId identity, process.published.head?.map (fun entry => entry.1.deviceId) = some boardId ∧
    (∃ before after, (before.devices.inventory .mainBoard).deviceExists boardId = true ∧
      (MainBoard.hardwareIdentity machine).run before = .ok identity after) ∧
    ∀ entry ∈ process.published, FullyRegistered boardId identity entry.1 entry.2

section Untouched

-- Only the files have been accessed.
structure Same (before after : Process) : Prop where
  devices : after.devices = before.devices
  published : after.published = before.published

theorem Same.refl (process : Process) : Same process process := ⟨rfl, rfl⟩

theorem Same.trans (first second third : Process) (h : Same first second) (h' : Same second third) :
    Same first third :=
  ⟨h'.devices.trans h.devices, h'.published.trans h.published⟩

variable {α β : Type}

theorem same_pure (value : α) : Leaves Same (pure value : Init α) :=
  leaves_pure Same.refl value

theorem same_throw (thrown : Exn) : Leaves Same (throw thrown : Init α) :=
  leaves_throw Same.refl thrown

theorem same_bind {first : Init β} {next : β → Init α} (hfirst : Leaves Same first)
    (hnext : ∀ value, Leaves Same (next value)) : Leaves Same (first >>= next) :=
  leaves_bind Same.trans hfirst hnext

variable (machine : Machine)

theorem same_look : Leaves Same (look machine) :=
  fun _ => ⟨rfl, rfl⟩

theorem same_asArray (value : Json) : Leaves Same (asArray machine value) := by
  cases value <;> first | exact same_pure _ | exact same_throw _

theorem same_asObject (value : Json) : Leaves Same (asObject machine value) := by
  cases value <;> first | exact same_pure _ | exact same_throw _

theorem same_asString (value : Json) : Leaves Same (asString machine value) := by
  cases value <;> first | exact same_pure _ | exact same_throw _

theorem same_objectAt (object : Object) (key : Bytes) : Leaves Same (objectAt machine object key) := by
  unfold objectAt
  cases object.lookup key with
  | some value => exact same_pure value
  | none => exact same_throw _

theorem same_pdtreeToString (value : Json) : Leaves Same (pdtreeToString machine value) :=
  same_bind (same_asString machine value) fun _ => same_pure _

theorem same_pdtreeGet (object : Object) (key : Bytes) : Leaves Same (pdtreeGet machine object key) := by
  refine leaves_ite _ (same_throw _) ?_
  refine same_bind (same_objectAt machine object key) fun value => ?_
  refine same_bind (same_asString machine value) fun string => ?_
  exact leaves_ite _ (same_throw _) (same_pure _)

theorem same_getPath (path : Bytes) : Leaves Same (getPath machine path) :=
  same_bind (same_look machine) fun _ => leaves_ite _ (same_throw _) (same_pure _)

theorem same_writeAttr (path : Bytes) (value : Int) : Leaves Same (writeAttr machine path value) :=
  same_bind (same_look machine) fun _ => leaves_ite _ (same_throw _) fun _ => ⟨rfl, rfl⟩

theorem same_setBrightness (led : RGBLed) (red green blue : Int) :
    Leaves Same (led.setBrightness machine red green blue) :=
  same_bind (same_writeAttr machine _ _) fun _ => same_bind (same_writeAttr machine _ _) fun _ =>
    same_writeAttr machine _ _

theorem same_setIndicatorState (board : MainBoard) (indicatorType : IndicatorType) (state : IndicatorState) :
    Leaves Same (board.setIndicatorState machine indicatorType state) := by
  unfold MainBoard.setIndicatorState
  cases board.indicators.find? fun indicator => indicator.indicatorType = indicatorType with
  | none => exact same_pure _
  | some indicator =>
      cases state with
      | on => exact same_setBrightness machine _ _ _ _
      | off => exact same_setBrightness machine _ _ _ _
      | notAvailable => exact same_pure _
      | blinking => exact same_pure _

theorem same_newBoard (indicators : List Indicator) : Leaves Same (MainBoard.new machine indicators) :=
  same_bind (same_setIndicatorState machine _ _ _) fun _ => same_bind (same_setIndicatorState machine _ _ _) fun _ =>
    same_pure _

theorem same_getHwInfoAttr (path : Bytes) : Leaves Same (MainBoard.getHwInfoAttr machine path) := by
  refine same_bind (same_look machine) fun files => ?_
  cases files.content path with
  | none => exact same_pure _
  | some content => exact same_pure _

theorem same_hardwareIdentity : Leaves Same (MainBoard.hardwareIdentity machine) :=
  same_bind (same_getHwInfoAttr machine _) fun _ => same_bind (same_getHwInfoAttr machine _) fun _ => same_pure _

theorem same_loadLed (leds : List Json) (ledLabel : Bytes) :
    Leaves Same (RGBIndicatorProvider.loadLed machine leds ledLabel) := by
  refine same_bind (leaves_findM? Same.refl Same.trans _ _ fun prop => ?_) fun descriptor => ?_
  · refine same_bind (same_asObject machine prop) fun object => leaves_ite _ (same_pure _) ?_
    refine same_bind (same_objectAt machine object _) fun color => ?_
    exact same_bind (same_pdtreeToString machine color) fun _ => same_pure _
  · cases descriptor with
    | none => exact same_pure _
    | some prop =>
        refine same_bind (same_asObject machine prop) fun object => leaves_ite _ (same_pure _) ?_
        refine same_bind (same_objectAt machine object _) fun path => ?_
        refine same_bind (same_pdtreeToString machine path) fun sysfsdir => ?_
        refine same_bind ?_ fun _ => same_pure _
        exact same_bind (same_getPath machine sysfsdir) fun _ => same_pure _

theorem same_spdlogDebug (loggerName : String) : Leaves Same (spdlogDebug loggerName) :=
  leaves_ite _ (same_pure _) (same_throw _)

theorem same_rgbLoad (builder : PlatformBuilder) (object : Object) :
    Leaves Same (RGBIndicatorProvider.load machine builder object) := by
  refine same_bind (same_objectAt machine object _) fun value => ?_
  refine same_bind (same_asArray machine value) fun leds => ?_
  refine same_bind (same_loadLed machine leds _) fun red => ?_
  refine same_bind (same_loadLed machine leds _) fun green => ?_
  refine same_bind (same_loadLed machine leds _) fun blue => ?_
  have hmissing : Leaves Same (do
      spdlogDebug "hw"
      return (false, builder) : Init (Bool × PlatformBuilder)) :=
    same_bind (same_spdlogDebug _) fun _ => same_pure _
  cases red with
  | none => exact hmissing
  | some red =>
      cases green with
      | none => exact hmissing
      | some green =>
          cases blue with
          | none => exact hmissing
          | some blue => exact same_pure _

theorem same_genericLoad (provider : GenericProvider) (builder : PlatformBuilder) (object : Object) :
    Leaves Same (provider.load machine builder object) := by
  refine same_bind (same_objectAt machine object _) fun model => ?_
  refine same_bind (same_pdtreeToString machine model) fun _ => leaves_ite _ (same_pure _) ?_
  exact same_bind (same_pdtreeGet machine object _) fun _ => same_pure _

theorem same_load (builder : PlatformBuilder) (object : Object) (provider : DeviceProvider) :
    Leaves Same (provider.load machine builder object) := by
  cases provider with
  | rgbIndicator => exact same_rgbLoad machine builder object
  | generic provider => exact same_genericLoad machine provider builder object

theorem same_setupEntry (builder : PlatformBuilder) (entry : Json) :
    Leaves Same (PlatformDeviceDiscovery.setupEntry machine builder entry) := by
  refine same_bind (same_asObject machine entry) fun descriptor => ?_
  refine same_bind (same_objectAt machine descriptor _) fun value => ?_
  refine same_bind (same_pdtreeToString machine value) fun compatible => ?_
  cases (PlatformDeviceDiscovery.providers machine).find? fun provider => provider.compatible = compatible with
  | none => exact same_throw _
  | some provider => exact same_bind (same_load machine builder descriptor provider) fun _ => same_pure _

-- The discovery registers no device.
theorem same_setup (content : Json) (builder : PlatformBuilder) :
    Leaves Same (PlatformDeviceDiscovery.setup machine content builder) :=
  same_bind (same_asArray machine content) fun entries =>
    leaves_foldlM Same.refl Same.trans entries _ (fun builder entry => same_setupEntry machine builder entry) builder

end Untouched

section Setup

variable (machine : Machine)

def genericProviders : List GenericProvider :=
  [hatchProvider machine, sysfsDS18B20Provider machine, sysfsCPUTempSensorProvider machine]

-- A loader that setup has left for a device of this kind.
def LoadsKind (kind : DeviceKind) (loader : GenericLoader) : Prop :=
  ∃ provider ∈ genericProviders machine, provider.kind = kind ∧ ∃ sysfsPath,
    loader = fun processor => processor.handle machine kind ⟨provider.loadDevice sysfsPath, GenericProvider.unload⟩

theorem genericKind_compatible (provider : GenericProvider) (h : provider ∈ genericProviders machine) :
    genericKind provider.compatible = some provider.kind := by
  simp only [genericProviders, List.mem_cons, List.not_mem_nil, or_false] at h
  rcases h with rfl | rfl | rfl
  · rfl
  · rfl
  · rfl

theorem returns_asArray (value : Json) (state : Process) :
    Returns (asArray machine value) state fun entries _ => value = .array entries := by
  cases value with
  | array entries => exact returns_pure entries rfl
  | null | boolean _ | int64 _ | uint64 _ | double _ | string _ | object _ => exact returns_throw _

theorem returns_asObject (value : Json) (state : Process) :
    Returns (asObject machine value) state fun object _ => value = .object object := by
  cases value with
  | object members => exact returns_pure members rfl
  | null | boolean _ | int64 _ | uint64 _ | double _ | string _ | array _ => exact returns_throw _

theorem returns_objectAt (object : Object) (key : Bytes) (state : Process) :
    Returns (objectAt machine object key) state fun value _ => object.lookup key = some value := by
  unfold objectAt
  cases object.lookup key with
  | some value => exact returns_pure value rfl
  | none => exact returns_throw _

theorem returns_pdtreeToString (value : Json) (state : Process) :
    Returns (pdtreeToString machine value) state fun bytes _ =>
      ∃ string, value = .string string ∧ bytes = cStr string := by
  cases value with
  | string string => exact returns_pure _ ⟨string, rfl, rfl⟩
  | null | boolean _ | int64 _ | uint64 _ | double _ | object _ | array _ => exact returns_throw _

-- The missing logger stops it.
theorem returns_spdlogDebug_hw (state : Process) : Returns (spdlogDebug "hw") state fun _ _ => False := by
  unfold spdlogDebug
  rw [if_neg (by decide)]
  exact returns_throw _

theorem returns_rgbLoad (builder : PlatformBuilder) (object : Object) (state : Process) :
    Returns (RGBIndicatorProvider.load machine builder object) state fun loaded _ =>
      loaded.2.genericLoaders = builder.genericLoaders ∧ loaded.2.indicators.map Indicator.indicatorType =
        builder.indicators.map Indicator.indicatorType ++ [.fault, .maintenance, .status, .warning] := by
  refine returns_bind (Leaves.returns (same_objectAt machine object _) state) fun value _ _ => ?_
  refine returns_bind (Leaves.returns (same_asArray machine value) _) fun leds _ _ => ?_
  refine returns_bind (Leaves.returns (same_loadLed machine leds _) _) fun red _ _ => ?_
  refine returns_bind (Leaves.returns (same_loadLed machine leds _) _) fun green _ _ => ?_
  refine returns_bind (Leaves.returns (same_loadLed machine leds _) _) fun blue state _ => ?_
  have hmissing : Returns (do
      spdlogDebug "hw"
      return (false, builder) : Init (Bool × PlatformBuilder)) state fun loaded _ =>
        loaded.2.genericLoaders = builder.genericLoaders ∧ loaded.2.indicators.map Indicator.indicatorType =
          builder.indicators.map Indicator.indicatorType ++ [.fault, .maintenance, .status, .warning] :=
    returns_bind (returns_spdlogDebug_hw state) fun _ _ hfalse => hfalse.elim
  cases red with
  | none => exact hmissing
  | some red =>
      cases green with
      | none => exact hmissing
      | some green =>
          cases blue with
          | none => exact hmissing
          | some blue =>
              refine returns_pure _ ⟨rfl, ?_⟩
              simp only [PlatformBuilder.addDevice, List.map_append, List.map_cons, List.map_nil, List.append_assoc,
                List.cons_append, List.nil_append]

theorem returns_genericLoad (provider : GenericProvider) (builder : PlatformBuilder) (object : Object)
    (state : Process) :
    Returns (provider.load machine builder object) state fun loaded _ =>
      if object.contains (ascii "sysfs_path") then
        ∃ sysfsPath, loaded.2 =
          builder.addLoader machine provider.kind ⟨provider.loadDevice sysfsPath, GenericProvider.unload⟩
      else loaded.2 = builder := by
  refine returns_bind (Leaves.returns (same_objectAt machine object _) state) fun model _ _ => ?_
  refine returns_bind (Leaves.returns (same_pdtreeToString machine model) _) fun _ _ _ => ?_
  cases hpath : object.contains (ascii "sysfs_path") with
  | false => exact returns_pure _ rfl
  | true =>
      exact returns_bind (Leaves.returns (same_pdtreeGet machine object _) _) fun sysfsPath _ _ =>
        returns_pure _ ⟨sysfsPath, rfl⟩

-- A round of setup that goes on has found a provider, and leaves at most one loader.
theorem returns_setupEntry (builder : PlatformBuilder) (entry : Json) (state : Process) :
    Returns (PlatformDeviceDiscovery.setupEntry machine builder entry) state fun after _ =>
      ¬NoProvider entry ∧ after.indicators.map Indicator.indicatorType =
        builder.indicators.map Indicator.indicatorType ++ describedIndicators entry ∧
      ∃ loaders, List.Forall₂ (LoadsKind machine) (describedKind entry).toList loaders ∧
        after.genericLoaders = builder.genericLoaders ++ loaders := by
  refine returns_bind (returns_asObject machine entry state) fun descriptor state hentry => ?_
  refine returns_bind (returns_objectAt machine descriptor _ state) fun value state hvalue => ?_
  refine returns_bind (returns_pdtreeToString machine value state) fun compatible state hstring => ?_
  obtain ⟨string, rfl, rfl⟩ := hstring
  subst hentry
  have hcompatible : compatibleOf (.object descriptor) = some (cStr string) := by
    simp only [compatibleOf, hvalue]
  cases hfind : (PlatformDeviceDiscovery.providers machine).find? fun provider => provider.compatible = cStr string with
  | none => exact returns_throw _
  | some provider =>
      have hmem := List.mem_of_find?_eq_some hfind
      have hname : provider.compatible = cStr string := by simpa using List.find?_some hfind
      cases provider with
      | rgbIndicator =>
          have hkind : genericKind (cStr string) = none := by
            rw [← hname]
            rfl
          refine returns_bind (returns_rgbLoad machine builder descriptor state) fun loaded _ hloaded => ?_
          refine returns_pure _ ⟨?_, ?_, [], ?_, by rw [hloaded.1, List.append_nil]⟩
          · rintro ⟨compatible, hother, hne, -⟩
            rw [hcompatible, Option.some.injEq] at hother
            exact hne (hother.symm.trans hname.symm)
          · have hrgb : compatibleOf (.object descriptor) = some (ascii "sysfs_rgbled_indicator") :=
              hcompatible.trans (congrArg some hname.symm)
            rw [describedIndicators, if_pos hrgb]
            exact hloaded.2
          · have hnone : describedKind (.object descriptor) = none := by
              simp only [describedKind, hcompatible, Option.bind_some, hkind, ite_self]
            rw [hnone]
            exact .nil
      | generic provider =>
          have hprovider : provider ∈ genericProviders machine := by
            simpa [PlatformDeviceDiscovery.providers, genericProviders] using hmem
          have hkind : genericKind (cStr string) = some provider.kind := by
            rw [← hname]
            exact genericKind_compatible machine provider hprovider
          refine returns_bind (returns_genericLoad machine provider builder descriptor state) fun loaded _ hloaded => ?_
          refine returns_pure _ ⟨?_, ?_, ?_⟩
          · rintro ⟨compatible, hother, -, hnone⟩
            rw [hcompatible, Option.some.injEq] at hother
            rw [← hother, hkind] at hnone
            cases hnone
          · have hother : describedIndicators (.object descriptor) = [] := by
              refine if_neg fun hrgb => ?_
              obtain hrgb := Option.some.inj (hcompatible.symm.trans hrgb)
              rw [hrgb] at hkind
              cases hkind
            have hsame : loaded.2.indicators = builder.indicators := by
              split_ifs at hloaded
              · obtain ⟨sysfsPath, hloaded⟩ := hloaded
                rw [hloaded]
                rfl
              · rw [hloaded]
            rw [hother, hsame, List.append_nil]
          · have hdescribed : describedKind (.object descriptor) =
                if descriptor.contains (ascii "sysfs_path") then some provider.kind else none := by
              simp only [describedKind, hcompatible, Option.bind_some, hkind, hasSysfsPath]
            rw [hdescribed]
            cases hpath : descriptor.contains (ascii "sysfs_path") with
            | false =>
                rw [hpath] at hloaded
                exact ⟨[], .nil, by rw [show loaded.2 = builder from hloaded, List.append_nil]⟩
            | true =>
                rw [hpath] at hloaded
                obtain ⟨sysfsPath, hloaded⟩ := hloaded
                exact ⟨_, .cons ⟨provider, hprovider, rfl, sysfsPath, rfl⟩ .nil, by rw [hloaded]; rfl⟩

theorem returns_setup (content : Json) (state : Process) :
    Returns (PlatformDeviceDiscovery.setup machine content ⟨[], []⟩) state fun builder _ =>
      ∃ entries, content = .array entries ∧ (∀ entry ∈ entries, ¬NoProvider entry) ∧
        builder.indicators.map Indicator.indicatorType = entries.flatMap describedIndicators ∧
        List.Forall₂ (LoadsKind machine) (entries.filterMap describedKind) builder.genericLoaders := by
  refine returns_bind (returns_asArray machine content state) fun entries state hcontent => ?_
  subst hcontent
  have hloop := returns_foldlM
    (fun rest (builder : PlatformBuilder) (_ : Process) => ∃ done, entries = done ++ rest ∧
      (∀ entry ∈ done, ¬NoProvider entry) ∧
      builder.indicators.map Indicator.indicatorType = done.flatMap describedIndicators ∧
      List.Forall₂ (LoadsKind machine) (done.filterMap describedKind) builder.genericLoaders)
    (PlatformDeviceDiscovery.setupEntry machine) (fun entry rest builder state hdone => ?_) entries ⟨[], []⟩ state
    ⟨[], rfl, fun _ => List.not_mem_nil.elim, rfl, .nil⟩
  · refine hloop.mono fun builder _ hdone => ?_
    obtain ⟨done, rfl, hproviders, hindicators, hloaders⟩ := hdone
    rw [List.append_nil]
    exact ⟨done, rfl, hproviders, hindicators, hloaders⟩
  · obtain ⟨done, rfl, hproviders, hindicators, hloaders⟩ := hdone
    refine (returns_setupEntry machine builder entry state).mono fun after _ hafter => ?_
    obtain ⟨hprovider, hdescribed, loaders, hnew, hafter⟩ := hafter
    refine ⟨done ++ [entry], by rw [List.append_assoc, List.singleton_append], ?_, ?_, ?_⟩
    · rw [List.forall_mem_append, List.forall_mem_singleton]
      exact ⟨hproviders, hprovider⟩
    · rw [hdescribed, hindicators, List.flatMap_append, List.flatMap_singleton]
    · have hsingle : [entry].filterMap describedKind = (describedKind entry).toList := by
        cases hkind : describedKind entry <;> simp [hkind]
      rw [hafter, List.filterMap_append, hsingle]
      exact List.rel_append hloaders hnew

end Setup

section Registration

variable (machine : Machine)

-- What register_device leaves.
def Devices.register (kind : DeviceKind) (device : kind.Device) (devices : Devices) : Devices :=
  { devices with
    nextId := (devices.nextId + 1).bmod (2 ^ 32)
    inventory := Function.update devices.inventory kind
      ((devices.inventory kind).insert devices.nextId device) }

def Registers (kind : DeviceKind) (before : Process) (deviceId : DeviceId) (after : Process) : Prop :=
  deviceId = before.devices.nextId ∧ (∃ device, after.devices = before.devices.register kind device) ∧
    after.published = before.published

theorem registers_of_same {kind : DeviceKind} {first before after : Process} {deviceId : DeviceId}
    (hsame : Same first before) (h : Registers kind before deviceId after) : Registers kind first deviceId after := by
  obtain ⟨hid, ⟨device, hdevice⟩, hpublished⟩ := h
  rw [hsame.devices] at hid hdevice
  exact ⟨hid, ⟨device, hdevice⟩, hpublished.trans hsame.published⟩

theorem returns_registerDevice (kind : DeviceKind) (construct : Init kind.Device) (hconstruct : Leaves Same construct)
    (state : Process) : Returns (registerDevice kind construct) state (Registers kind state) := by
  refine returns_modifyGet _ _ (returns_get _ ?_)
  by_cases hexists : (state.devices.inventory kind).deviceExists state.devices.nextId = true
  · simp only [hexists, if_true]
    exact returns_throw _
  · simp only [hexists]
    refine returns_bind (hconstruct.returns _) fun device after hafter => ?_
    refine returns_modify _ _ (returns_pure _ ⟨rfl, ⟨device, ?_⟩, hafter.published⟩)
    simp only [hafter.devices, Devices.register]

-- A device that has been made before.
theorem returns_registerDevice_pure (kind : DeviceKind) (device : kind.Device) (state : Process) :
    Returns (registerDevice kind (return device)) state fun deviceId after => deviceId = state.devices.nextId ∧
      after.devices = state.devices.register kind device ∧ after.published = state.published := by
  refine returns_modifyGet _ _ (returns_get _ ?_)
  by_cases hexists : (state.devices.inventory kind).deviceExists state.devices.nextId = true
  · simp only [hexists, if_true]
    exact returns_throw _
  · simp only [hexists]
    intro _ after hrun
    cases hrun
    exact ⟨rfl, rfl, rfl⟩

theorem returns_register (provider : GenericProvider) (h : provider ∈ genericProviders machine) (sysfsPath : Bytes)
    (state : Process) : Returns (provider.register sysfsPath) state (Registers provider.kind state) := by
  simp only [genericProviders, List.mem_cons, List.not_mem_nil, or_false] at h
  rcases h with rfl | rfl | rfl
  · exact returns_registerDevice .hatch _ (same_bind (same_getPath machine sysfsPath) fun _ => same_pure _) state
  · refine returns_bind ((same_getPath machine sysfsPath).returns state) fun path after hsame => ?_
    exact (returns_registerDevice .tempSensor _ (same_pure _) after).mono fun _ _ => registers_of_same hsame
  · refine returns_bind ((same_getPath machine sysfsPath).returns state) fun path after hsame => ?_
    exact (returns_registerDevice .tempSensor _ (same_pure _) after).mono fun _ _ => registers_of_same hsame

-- The poller that has been added is the only one of its device.
theorem returns_addPoller (deviceId : DeviceId) (interval : Int) (poll : Poll) (state : Process) :
    Returns (addPoller deviceId interval poll) state fun _ after =>
      after.devices = { state.devices with pollers := state.devices.pollers ++ [⟨deviceId, interval, poll⟩] } ∧
        after.devices.pollers.countP (fun poller => poller.deviceId = deviceId) = 1 ∧
        after.published = state.published := by
  refine returns_get _ ?_
  by_cases hnone : state.devices.pollers.countP (fun poller => poller.deviceId = deviceId) = 0
  · simp only [hnone, ne_eq, not_true_eq_false, if_false]
    intro _ after hrun
    cases hrun
    refine ⟨rfl, ?_, rfl⟩
    rw [List.countP_append, hnone]
    simp
  · simp only [hnone, ne_eq, not_false_eq_true, if_true]
    exact returns_throw _

-- After the board and devices of these kinds have been published.
structure Running (boardId : DeviceId) (identity : HardwareIdentity) (kinds : List DeviceKind) (process : Process) :
    Prop where
  published : process.published.map (fun entry => entry.1.kind) = .mainBoard :: kinds
  head : process.published.head?.map (fun entry => entry.1.deviceId) = some boardId
  nodup : (process.published.map fun entry => entry.1.deviceId).Nodup
  below : ∀ entry ∈ process.published, entry.1.deviceId < process.devices.nextId
  board : boardId < process.devices.nextId
  next : process.devices.nextId = kinds.length + 2
  distinct : process.devices.dtree.DistinctDevices
  linked : ∀ deviceId parentId, process.devices.dtree.parent deviceId = some parentId →
    deviceId < process.devices.nextId
  store : process.devices.hwIdentityStore = Function.update (fun _ => none) boardId (some identity)
  registered : ∀ entry ∈ process.published, FullyRegistered boardId identity entry.1 entry.2

theorem bmod_next (count : Nat) (hcount : count + 3 < 2 ^ 31) :
    ((count : Int) + 2 + 1).bmod (2 ^ 32) = (count : Int) + 2 + 1 :=
  Int.bmod_eq_of_le (by omega) (by omega)

variable {boardId : DeviceId} {identity : HardwareIdentity}

-- A device of the board is identified by its parent.
theorem identity_of_child {store : HardwareIdentityStore} {dtree : DeviceTree Empty} {deviceId : DeviceId}
    (hstore : store = Function.update (fun _ => none) boardId (some identity)) (hne : deviceId ≠ boardId)
    (hparent : dtree.parent deviceId = some boardId) :
    DeviceIdentityProvider.identity store dtree deviceId = .ok (DeviceIdentityProvider.deviceIdentity identity) := by
  simp only [DeviceIdentityProvider.identity, DeviceIdentityProvider.getHardwareIdentity, hstore,
    Function.update_of_ne hne, Option.isSome_none, Bool.false_eq_true, if_false, hparent, Function.update_self]
  rfl

theorem identity_of_board {store : HardwareIdentityStore} {dtree : DeviceTree Empty}
    (hstore : store = Function.update (fun _ => none) boardId (some identity)) :
    DeviceIdentityProvider.identity store dtree boardId = .ok (DeviceIdentityProvider.deviceIdentity identity) := by
  simp only [DeviceIdentityProvider.identity, DeviceIdentityProvider.getHardwareIdentity, hstore,
    Function.update_self, Option.isSome_some, if_true]
  rfl

-- A device that is published as a new child of the board.
theorem running_publish {kinds : List DeviceKind} {kind : DeviceKind} {state after : Process}
    (h : Running boardId identity kinds state) (hcount : kinds.length + 3 < 2 ^ 31)
    (device : kind.Device) (pollers : List Poller)
    (hpolled : pollers.countP (fun poller => poller.deviceId = state.devices.nextId) = 1)
    (hdevices : after.devices = { state.devices.register kind device with
      pollers := pollers
      dtree := (state.devices.dtree.addChild machine.growth boardId state.devices.nextId none).tree })
    (hpublished : after.published = state.published ++ [(⟨kind, state.devices.nextId⟩, after.devices)]) :
    Running boardId identity (kinds ++ [kind]) after := by
  have hnext : after.devices.nextId = state.devices.nextId + 1 := by
    simp only [hdevices, Devices.register, h.next]
    exact bmod_next kinds.length hcount
  have hless : state.devices.nextId < after.devices.nextId := by
    rw [hnext]
    exact Int.lt_succ _
  have hdtree : after.devices.dtree =
      (state.devices.dtree.addChild machine.growth boardId state.devices.nextId none).tree := by
    rw [hdevices]
  have hdistinct : after.devices.dtree.DistinctDevices := by
    rw [hdtree]
    exact DeviceTree.addChild_distinct _ _ _ _ _ h.distinct
  have hnone : state.devices.dtree.parent state.devices.nextId = none := by
    cases hparent : state.devices.dtree.parent state.devices.nextId with
    | none => rfl
    | some parentId => exact absurd (h.linked _ _ hparent) (lt_irrefl _)
  have hparent : after.devices.dtree.parent =
      Function.update state.devices.dtree.parent state.devices.nextId (some boardId) := by
    rw [hdtree, DeviceTree.addChild_parent _ _ h.distinct, if_pos hnone]
  have hstore : after.devices.hwIdentityStore = Function.update (fun _ => none) boardId (some identity) := by
    rw [hdevices]
    exact h.store
  have hne : state.devices.nextId ≠ boardId := (ne_of_lt h.board).symm
  have hchild : after.devices.dtree.parent state.devices.nextId = some boardId := by
    rw [hparent, Function.update_self]
  have hnew : FullyRegistered boardId identity ⟨kind, state.devices.nextId⟩ after.devices := by
    refine ⟨?_, ?_, fun _ => ?_, identity_of_child hstore hne hchild⟩
    · simp only [hdevices, Devices.register, DeviceInventory.deviceExists, DeviceInventory.insert,
        Function.update_self, Option.isSome_some]
    · rw [hdevices]
      exact hpolled
    · rw [DeviceTree.parent_eq_some_iff _ hdistinct, ← DeviceTree.mem_allChildren_iff] at hchild
      exact hchild
  refine ⟨?_, ?_, ?_, ?_, ?_, ?_, hdistinct, ?_, hstore, ?_⟩
  · rw [hpublished, List.map_append, h.published]
    rfl
  · obtain ⟨first, hfirst, hboard⟩ := Option.map_eq_some_iff.mp h.head
    rw [hpublished, List.head?_append, hfirst, Option.some_or, Option.map_some, hboard]
  · rw [hpublished, List.map_append, List.map_cons, List.map_nil, ← List.concat_eq_append]
    refine List.Nodup.concat (fun hmem => ?_) h.nodup
    obtain ⟨entry, hentry, hid⟩ := List.mem_map.mp hmem
    exact absurd hid (ne_of_lt (h.below entry hentry))
  · rw [hpublished, List.forall_mem_append, List.forall_mem_singleton]
    exact ⟨fun entry hold => Int.lt_trans (h.below entry hold) hless, hless⟩
  · exact Int.lt_trans h.board hless
  · rw [hnext, h.next, List.length_append, List.length_singleton, Int.natCast_add, Int.natCast_one]
    exact Int.add_right_comm _ _ _
  · intro deviceId parentId hlink
    rw [hparent] at hlink
    by_cases hself : deviceId = state.devices.nextId
    · rw [hself]
      exact hless
    · rw [Function.update_of_ne hself] at hlink
      exact Int.lt_trans (h.linked deviceId parentId hlink) hless
  · rw [hpublished, List.forall_mem_append, List.forall_mem_singleton]
    exact ⟨h.registered, hnew⟩

-- One loader registers one device and publishes it.
theorem returns_loader {kinds : List DeviceKind} {kind : DeviceKind} {loader : GenericLoader} {state : Process}
    (hloader : LoadsKind machine kind loader) (h : Running boardId identity kinds state)
    (hcount : kinds.length + 3 < 2 ^ 31) :
    Returns (loader ⟨boardId⟩) state fun _ after => Running boardId identity (kinds ++ [kind]) after := by
  obtain ⟨provider, hprovider, rfl, sysfsPath, rfl⟩ := hloader
  -- load
  refine returns_bind (P := fun deviceId after => deviceId = state.devices.nextId ∧
    (∃ device pollers, after.devices = { state.devices.register provider.kind device with pollers := pollers }) ∧
    after.devices.pollers.countP (fun poller => poller.deviceId = deviceId) = 1 ∧
    after.published = state.published) ?_ fun deviceId loaded hloaded => ?_
  · refine returns_bind (returns_register machine provider hprovider sysfsPath state) fun deviceId middle hmiddle => ?_
    obtain ⟨hid, ⟨device, hdevice⟩, hpublished⟩ := hmiddle
    refine returns_bind (returns_addPoller deviceId provider.interval _ middle) fun _ after hafter => ?_
    obtain ⟨hdevices, hcountP, hsame⟩ := hafter
    rw [hdevice] at hdevices
    exact returns_pure _ ⟨hid, ⟨device, _, hdevices⟩, hcountP, hsame.trans hpublished⟩
  obtain ⟨rfl, ⟨device, pollers, hdevices⟩, hpolled, hpublished⟩ := hloaded
  refine returns_modify _ _ (returns_modify _ _ (returns_pure _ ?_))
  refine running_publish machine h hcount device pollers ?_ ?_ ?_
  · rw [hdevices] at hpolled
    exact hpolled
  · simp only [hdevices, Devices.register]
  · rw [← hpublished]

theorem returns_loaders {kinds : List DeviceKind} {loaders : List GenericLoader} {state : Process}
    (hloaders : List.Forall₂ (LoadsKind machine) kinds loaders) (h : Running boardId identity [] state)
    (hcount : kinds.length + 2 < 2 ^ 31) :
    Returns (loaders.foldlM (fun _ loader => do
      let _ ← loader ⟨boardId⟩
      return ()) ()) state fun _ after => Running boardId identity kinds after := by
  have hloop := returns_foldlM (fun (rest : List GenericLoader) (_ : Unit) after => ∃ done todo,
    kinds = done ++ todo ∧ List.Forall₂ (LoadsKind machine) todo rest ∧ Running boardId identity done after)
    (fun _ loader => do
      let _ ← loader ⟨boardId⟩
      return ()) (fun loader rest _ state hdone => ?_) loaders () state ⟨[], kinds, rfl, hloaders, h⟩
  · refine hloop.mono fun _ after hafter => ?_
    obtain ⟨done, todo, rfl, htodo, hrunning⟩ := hafter
    cases htodo
    rw [List.append_nil]
    exact hrunning
  · obtain ⟨done, todo, rfl, htodo, hrunning⟩ := hdone
    cases htodo with
    | @cons kind _ todo _ hloader hrest =>
        have hlength : done.length + 3 < 2 ^ 31 := by
          simp only [List.length_append, List.length_cons] at hcount
          omega
        refine returns_bind (returns_loader machine hloader hrunning hlength) fun _ after hafter => ?_
        have hkinds : done ++ kind :: todo = done ++ [kind] ++ todo := by
          rw [List.append_assoc, List.singleton_append]
        exact returns_pure () ⟨done ++ [kind], todo, hkinds, hrest, hafter⟩

theorem running_board {after : Process} (device : MainBoard) (pollers : List Poller)
    (hpolled : pollers.countP (fun poller => poller.deviceId = 1) = 1)
    (hdevices : after.devices = { Process.fresh.devices.register .mainBoard device with
      hwIdentityStore := Function.update (fun _ => none) 1 (some identity)
      pollers := pollers })
    (hpublished : after.published = [(⟨.mainBoard, 1⟩, after.devices)]) : Running 1 identity [] after := by
  have hstore : after.devices.hwIdentityStore = Function.update (fun _ => none) 1 (some identity) := by
    rw [hdevices]
  have hnext : after.devices.nextId = 2 := by
    rw [hdevices]
    rfl
  have hnew : FullyRegistered 1 identity ⟨.mainBoard, 1⟩ after.devices := by
    refine ⟨?_, ?_, fun hkind => absurd rfl hkind, identity_of_board hstore⟩
    · rw [hdevices]
      rfl
    · rw [hdevices]
      exact hpolled
  refine ⟨?_, ?_, ?_, ?_, ?_, ?_, ?_, ?_, hstore, ?_⟩
  · rw [hpublished]
    rfl
  · rw [hpublished]
    rfl
  · rw [hpublished]
    exact List.nodup_singleton _
  · rw [hpublished, List.forall_mem_singleton, hnext]
    exact Int.lt_succ 1
  · rw [hnext]
    decide
  · exact hnext
  · rw [hdevices]
    exact List.nodup_nil
  · intro deviceId parentId hlink
    rw [hdevices] at hlink
    cases hlink
  · rw [hpublished, List.forall_mem_singleton]
    exact hnew

theorem returns_newBoard (indicators : List Indicator) (state : Process) :
    Returns (MainBoard.new machine indicators) state fun board _ => board = ⟨indicators⟩ := by
  refine returns_bind ((same_setIndicatorState machine _ _ _).returns state) fun _ _ _ => ?_
  exact returns_bind ((same_setIndicatorState machine _ _ _).returns _) fun _ _ _ => returns_pure _ rfl

-- The board is the first device of the process.
theorem returns_board (indicators : List Indicator) (next : DeviceId → Init Unit) (state : Process)
    (hfresh : Same .fresh state) (Q : Unit → Process → Prop)
    (hnext : ∀ boardId identity after, Running boardId identity [] after →
      (∃ before last, (before.devices.inventory .mainBoard).deviceExists boardId = true ∧
        (MainBoard.hardwareIdentity machine).run before = .ok identity last) →
      (after.devices.inventory .mainBoard).get boardId = .ok ⟨indicators⟩ → Returns (next boardId) after Q) :
    Returns (do
      let newBoard ← MainBoard.new machine indicators
      let boardId ← registerDevice .mainBoard (return newBoard)
      let _ ← getDevice .mainBoard boardId
      let identity ← MainBoard.hardwareIdentity machine
      emplaceIdentity boardId identity
      addPoller boardId 5000 ⟨.mainBoard, boardId⟩
      publish ⟨.mainBoard, boardId⟩
      next boardId) state Q := by
  have hmakes := (same_newBoard machine indicators).returns state
  refine returns_bind (fun newBoard made hrun => And.intro (hmakes newBoard made hrun)
    (returns_newBoard machine indicators state newBoard made hrun)) fun newBoard made hmade => ?_
  obtain ⟨hmade, rfl⟩ := hmade
  have hsame := hfresh.trans _ _ _ hmade
  refine returns_bind (returns_registerDevice_pure .mainBoard _ made) fun boardId board hboard => ?_
  obtain ⟨hid, hdevices, hpublished⟩ := hboard
  rw [hsame.devices] at hid hdevices
  rw [hsame.published] at hpublished
  refine returns_bind (P := fun _ after => board = after) (returns_get _ ?_) fun _ after hafter => ?_
  · cases (board.devices.inventory .mainBoard).get boardId with
    | error _ => exact returns_throw _
    | ok found => exact returns_pure found rfl
  subst hafter
  refine returns_bind (P := fun identity after =>
    (MainBoard.hardwareIdentity machine).run board = .ok identity after ∧ Same board after) ?_
    fun identity read hread => ?_
  · exact fun identity after hrun => ⟨hrun, (same_hardwareIdentity machine).returns board identity after hrun⟩
  obtain ⟨hrun, hread⟩ := hread
  have hexists : (board.devices.inventory .mainBoard).deviceExists boardId = true := by
    rw [hdevices, hid]
    rfl
  refine returns_modify _ _ ?_
  refine returns_bind (returns_addPoller boardId 5000 _ _) fun _ polled hpolled => ?_
  obtain ⟨hpollers, hcount, hsamePublished⟩ := hpolled
  have hboardId : boardId = 1 := hid
  subst hboardId
  have hpolledDevices : polled.devices = { Process.fresh.devices.register .mainBoard ⟨indicators⟩ with
      hwIdentityStore := Function.update (fun _ => none) 1 (some identity)
      pollers := polled.devices.pollers } := by
    rw [hpollers, hread.devices, hdevices]
    rfl
  refine returns_modify _ _ (hnext 1 identity _ ?_ ⟨board, read, hexists, hrun⟩ ?_)
  · refine running_board ⟨indicators⟩ polled.devices.pollers hcount hpolledDevices ?_
    rw [show polled.published = [] from hsamePublished.trans (hread.published.trans hpublished)]
    rfl
  · rw [hpolledDevices]
    rfl

theorem returns_mainBoardInit (content : Json) :
    Returns (mainBoardInit machine (some content)) .fresh fun _ after => ∃ entries, content = .array entries ∧
      ((entries.filterMap describedKind).length + 2 < 2 ^ 31 → StartedUp machine entries after) := by
  have hsetup := returns_setup machine content .fresh
  have hsame := (same_setup machine content ⟨[], []⟩).returns Process.fresh
  refine returns_bind (fun builder after hrun => And.intro (hsetup builder after hrun) (hsame builder after hrun))
    fun builder state hbuilder => ?_
  obtain ⟨⟨entries, hcontent, -, -, hloaders⟩, hfresh⟩ := hbuilder
  refine returns_board machine builder.indicators _ state hfresh _ fun boardId identity after hrunning hboard _ => ?_
  by_cases hcount : (entries.filterMap describedKind).length + 2 < 2 ^ 31
  · refine (returns_loaders machine hloaders hrunning hcount).mono fun _ last hlast => ?_
    exact ⟨entries, hcontent, fun _ => ⟨hlast.published, hlast.nodup, boardId, identity, hlast.head, hboard,
      hlast.registered⟩⟩
  · exact fun _ _ _ => ⟨entries, hcontent, fun hless => absurd hless hcount⟩

-- The descriptor without a provider stops setup.
theorem setup_throws (entries : List Json) (entry : Json) (hentry : entry ∈ entries) (hnone : NoProvider entry) :
    ∃ thrown after,
      (PlatformDeviceDiscovery.setup machine (.array entries) ⟨[], []⟩).run .fresh = .error thrown after ∧
        Same .fresh after := by
  have hsame := same_setup machine (.array entries) ⟨[], []⟩ Process.fresh
  cases hrun : (PlatformDeviceDiscovery.setup machine (.array entries) ⟨[], []⟩).run .fresh with
  | error thrown after =>
      rw [hrun] at hsame
      exact ⟨thrown, after, rfl, hsame⟩
  | ok builder after =>
      obtain ⟨found, hfound, hproviders, -⟩ := returns_setup machine (.array entries) .fresh builder after hrun
      cases hfound
      exact absurd hnone (hproviders entry hentry)

theorem mainBoardInit_of_error {content : Json} {thrown : Exn} {after : Process}
    (h : (PlatformDeviceDiscovery.setup machine content ⟨[], []⟩).run .fresh = .error thrown after) :
    (mainBoardInit machine (some content)).run .fresh = .error thrown after :=
  run_bind_of_error h

end Registration

-- main_board_init throws an exception before it has registered anything.
def Rejects (machine : Machine) (pdtreeFile : Option Json) : Prop :=
  ∃ thrown after, (mainBoardInit machine pdtreeFile).run .fresh = .error thrown after ∧ thrown.isException = true ∧
    after.devices = Process.fresh.devices ∧ after.published = []

-- In a fresh process, main_board_init rejects a file with a descriptor that has no
-- provider, and whenever it returns it has published what it has registered.
def RegistersFully (machine : Machine) (pdtreeFile : Option Json) : Prop :=
  (∀ entries, pdtreeFile = some (.array entries) → (∃ entry ∈ entries, NoProvider entry) →
    Rejects machine pdtreeFile) ∧
  ∀ after, (mainBoardInit machine pdtreeFile).run .fresh = .ok () after →
    ∃ entries, pdtreeFile = some (.array entries) ∧
      ((entries.filterMap describedKind).length + 2 < 2 ^ 31 → StartedUp machine entries after)

-- It does so exactly when it comes to no RGB indicator without one of its LEDs before it
-- comes to a descriptor without a provider.
theorem mainBoardInit_registers_iff (machine : Machine) (pdtreeFile : Option Json) :
    RegistersFully machine pdtreeFile ↔ ∀ entries, pdtreeFile = some (.array entries) →
      (∃ entry ∈ entries, NoProvider entry) → ¬ReachesIncomplete machine 0 entries := by
  constructor
  · rintro ⟨hrejects, -⟩ entries rfl hnone hreaches
    obtain ⟨thrown, after, hrun, hexception, -⟩ := hrejects entries rfl hnone
    obtain ⟨crash, last, hcrash, hno⟩ := (@setup_crash_iff machine .fresh entries ⟨[], []⟩).mpr hreaches
    cases hrun.symm.trans (mainBoardInit_of_error machine hcrash)
    cases hno.symm.trans hexception
  · intro hreaches
    refine ⟨?_, fun after hrun => ?_⟩
    · rintro entries rfl ⟨entry, hentry, hnone⟩
      obtain ⟨thrown, after, hrun, hsame⟩ := setup_throws machine entries entry hentry hnone
      refine ⟨thrown, after, mainBoardInit_of_error machine hrun, ?_, hsame.devices, hsame.published⟩
      rw [← Bool.not_eq_false]
      intro hcrash
      exact hreaches entries rfl ⟨entry, hentry, hnone⟩
        ((@setup_crash_iff machine .fresh entries ⟨[], []⟩).mp ⟨thrown, after, hrun, hcrash⟩)
    · cases pdtreeFile with
      | none => cases hrun
      | some content =>
          obtain ⟨entries, rfl, hstarted⟩ := returns_mainBoardInit machine content () after hrun
          exact ⟨entries, rfl, hstarted⟩

-- A machine on which every path exists.
def sampleMachine : Machine where
  files _ := ⟨fun _ => true, fun _ => none, fun _ => true⟩
  jsonWhat _ := ""
  growth := DeviceTree.doubling

def sampleDescriptor (compatible : String) (rest : Object) : Json :=
  .object ([(ascii "compatible", .string (ascii compatible)), (ascii "model", .string (ascii "m"))] ++ rest)

-- A hatch, a sensor without a path, and a sensor.
def sampleEntries : List Json :=
  [sampleDescriptor "sysfs_hatch2sr" [(ascii "sysfs_path", .string (ascii "/h"))],
    sampleDescriptor "sysfs_cpu_temp_sensor" [],
    sampleDescriptor "sysfs_ds18b20" [(ascii "sysfs_path", .string (ascii "/s"))]]

theorem mainBoardInit_registers_sample :
    ∃ after, (mainBoardInit sampleMachine (some (.array sampleEntries))).run .fresh = .ok () after ∧
      StartedUp sampleMachine sampleEntries after ∧
      after.published.map (fun entry => entry.1) = [⟨.mainBoard, 1⟩, ⟨.hatch, 2⟩, ⟨.tempSensor, 3⟩] := by
  have hrun : ∃ after, (mainBoardInit sampleMachine (some (.array sampleEntries))).run .fresh = .ok () after ∧
      after.published.map (fun entry => entry.1) = [⟨.mainBoard, 1⟩, ⟨.hatch, 2⟩, ⟨.tempSensor, 3⟩] :=
    ⟨_, rfl, rfl⟩
  obtain ⟨after, hrun, hevents⟩ := hrun
  have hproviders : ∀ entry ∈ sampleEntries, ¬NoProvider entry := by
    rintro entry hentry ⟨compatible, hcompatible, hne, hkind⟩
    simp only [sampleEntries, List.mem_cons, List.not_mem_nil, or_false] at hentry
    rcases hentry with rfl | rfl | rfl
    · cases hcompatible
      cases hkind
    · cases hcompatible
      cases hkind
    · cases hcompatible
      cases hkind
  obtain ⟨entries, hentries, hstarted⟩ := ((mainBoardInit_registers_iff sampleMachine _).mpr
    fun entries hentries ⟨entry, hentry, hnone⟩ => by
      obtain rfl : sampleEntries = entries := Json.array.inj (Option.some.inj hentries)
      exact absurd hnone (hproviders entry hentry)).2 after hrun
  obtain rfl : sampleEntries = entries := Json.array.inj (Option.some.inj hentries)
  exact ⟨after, hrun, hstarted (by decide), hevents⟩

-- An indicator without LEDs, and a descriptor that has no provider.
def unlitEntries : List Json :=
  [.object [(ascii "compatible", .string (ascii "sysfs_rgbled_indicator")), (ascii "leds", .array [])],
    sampleDescriptor "sysfs_unknown" []]

-- The missing logger ends the program.
theorem mainBoardInit_crashes : ¬RegistersFully sampleMachine (some (.array unlitEntries)) := by
  rintro ⟨hrejects, -⟩
  obtain ⟨thrown, after, hrun, hexception, -⟩ := hrejects unlitEntries rfl
    ⟨_, .tail _ (.head _), ascii "sysfs_unknown", rfl, by decide, by decide⟩
  cases hrun
  cases hexception

end HhctrlMgmt.Platform
