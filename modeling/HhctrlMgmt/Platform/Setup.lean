import HhctrlMgmt.Common.Effect
import HhctrlMgmt.Platform.Discovery

namespace HhctrlMgmt.Platform

open Common

-- The compatible of a descriptor.
def compatibleOf : Json → Option Bytes
  | .object members =>
    match Object.lookup members (ascii "compatible") with
    | some (.string value) => some (cStr value)
    | _ => none
  | _ => none

-- The kind of device that a compatible of a generic descriptor stands for.
def genericKind (compatible : Bytes) : Option DeviceKind :=
  if compatible = ascii "sysfs_hatch2sr" then some .hatch
  else if compatible = ascii "sysfs_ds18b20" ∨ compatible = ascii "sysfs_cpu_temp_sensor" then some .tempSensor
  else none

-- The path that the descriptor of a color gives, if there is one and it gives any. The
-- descriptors before it are objects, too, and their colors are strings.
inductive LedPath (ledLabel : Bytes) : List Json → Option Bytes → Prop
  | missing : LedPath ledLabel [] none
  | colorless (members : Object) (rest : List Json) (path : Option Bytes)
      (hcolor : members.lookup (ascii "color") = none) (h : LedPath ledLabel rest path) :
      LedPath ledLabel (.object members :: rest) path
  | other (members : Object) (color : Bytes) (rest : List Json) (path : Option Bytes)
      (hcolor : members.lookup (ascii "color") = some (.string color)) (hne : cStr color ≠ ledLabel)
      (h : LedPath ledLabel rest path) : LedPath ledLabel (.object members :: rest) path
  | pathless (members : Object) (color : Bytes) (rest : List Json)
      (hcolor : members.lookup (ascii "color") = some (.string color)) (hlabel : cStr color = ledLabel)
      (hpath : members.lookup (ascii "sysfs_path") = none) : LedPath ledLabel (.object members :: rest) none
  | found (members : Object) (color path : Bytes) (rest : List Json)
      (hcolor : members.lookup (ascii "color") = some (.string color)) (hlabel : cStr color = ledLabel)
      (hpath : members.lookup (ascii "sysfs_path") = some (.string path)) :
      LedPath ledLabel (.object members :: rest) (some (cStr path))

section Model

variable (machine : Machine)

-- Each path exists when it is looked up, from one access to the files to another.
inductive Present : Nat → List (Option Bytes) → Nat → Prop
  | nil (clock : Nat) : Present clock [] clock
  | none {clock last : Nat} {paths : List (Option Bytes)} (h : Present clock paths last) :
      Present clock (none :: paths) last
  | some {clock last : Nat} {path : Bytes} {paths : List (Option Bytes)}
      (hexists : (machine.files clock).pathExists path = true) (h : Present (clock + 1) paths last) :
      Present clock (some path :: paths) last

-- The paths of the three LEDs of an RGB indicator.
structure LedPaths (members : Object) (clock : Nat) (red green blue : Option Bytes) (last : Nat) : Prop where
  compatible : compatibleOf (.object members) = some (ascii "sysfs_rgbled_indicator")
  leds : ∃ leds, members.lookup (ascii "leds") = some (.array leds) ∧ LedPath (ascii "red") leds red ∧
    LedPath (ascii "green") leds green ∧ LedPath (ascii "blue") leds blue
  present : Present machine clock [red, green, blue] last

-- An entry that setup accepts.
inductive Accepted (clock : Nat) : Json → Nat → Prop
  | rgbIndicator (members : Object) (red green blue : Bytes) (last : Nat)
      (h : LedPaths machine members clock (some red) (some green) (some blue) last) :
      Accepted clock (.object members) last
  | generic (members : Object) (compatible model : Bytes) (kind : DeviceKind)
      (hcompatible : compatibleOf (.object members) = some compatible) (hkind : genericKind compatible = some kind)
      (hmodel : members.lookup (ascii "model") = some (.string model))
      (hpath : ∀ value, members.lookup (ascii "sysfs_path") = some value →
        ∃ path, value = .string path ∧ firstWord (cStr path) ≠ []) :
      Accepted clock (.object members) clock

-- An RGB indicator that lacks a LED.
def Incomplete (clock : Nat) (entry : Json) : Prop :=
  ∃ members red green blue last, entry = .object members ∧ LedPaths machine members clock red green blue last ∧
    (red = none ∨ green = none ∨ blue = none)

-- Such an indicator comes before any entry that setup does not accept.
inductive ReachesIncomplete : Nat → List Json → Prop
  | here (clock : Nat) (entry : Json) (rest : List Json) (h : Incomplete machine clock entry) :
      ReachesIncomplete clock (entry :: rest)
  | later (clock middle : Nat) (entry : Json) (rest : List Json) (haccepted : Accepted machine clock entry middle)
      (h : ReachesIncomplete middle rest) : ReachesIncomplete clock (entry :: rest)

end Model

section Accepts

variable (machine : Machine) {state after : Process}

theorem asArray_ok_iff (value : Json) (values : List Json) :
    (asArray machine value).run state = .ok values after ↔ value = .array values ∧ after = state := by
  cases value with
  | array found => exact run_pure_ok_iff.trans (by rw [Json.array.injEq])
  | null | boolean _ | int64 _ | uint64 _ | double _ | string _ | object _ => exact iff_of_false nofun nofun

theorem asObject_ok_iff (value : Json) (members : Object) :
    (asObject machine value).run state = .ok members after ↔ value = .object members ∧ after = state := by
  cases value with
  | object found => exact run_pure_ok_iff.trans (by rw [Json.object.injEq])
  | null | boolean _ | int64 _ | uint64 _ | double _ | string _ | array _ => exact iff_of_false nofun nofun

theorem asString_ok_iff (value : Json) (string : Bytes) :
    (asString machine value).run state = .ok string after ↔ value = .string string ∧ after = state := by
  cases value with
  | string found => exact run_pure_ok_iff.trans (by rw [Json.string.injEq])
  | null | boolean _ | int64 _ | uint64 _ | double _ | array _ | object _ => exact iff_of_false nofun nofun

theorem objectAt_ok_iff (object : Object) (key : Bytes) (value : Json) :
    (objectAt machine object key).run state = .ok value after ↔ object.lookup key = some value ∧ after = state := by
  unfold objectAt
  cases object.lookup key with
  | some found => exact run_pure_ok_iff.trans (by rw [Option.some.injEq])
  | none => exact iff_of_false nofun nofun

theorem pdtreeToString_ok_iff (value : Json) (bytes : Bytes) :
    (pdtreeToString machine value).run state = .ok bytes after ↔
      ∃ string, value = .string string ∧ cStr string = bytes ∧ after = state := by
  unfold pdtreeToString
  rw [run_bind_ok_iff]
  simp only [asString_ok_iff, run_pure_ok_iff]
  refine exists_congr fun string => ⟨?_, ?_⟩
  · rintro ⟨_, ⟨rfl, rfl⟩, h⟩
    exact ⟨rfl, h⟩
  · rintro ⟨rfl, h⟩
    exact ⟨state, ⟨rfl, rfl⟩, h⟩

theorem pdtreeGet_ok_iff (object : Object) (key bytes : Bytes) :
    (pdtreeGet machine object key).run state = .ok bytes after ↔
      ∃ string, object.lookup key = some (.string string) ∧ firstWord (cStr string) ≠ [] ∧
        firstWord (cStr string) = bytes ∧ after = state := by
  have hcontains : object.contains key = true ↔ ∃ value, object.lookup key = some value := by
    rw [Object.contains_iff, Option.ne_none_iff_exists']
  unfold pdtreeGet
  by_cases hfound : object.contains key = true
  · simp only [hfound, Bool.not_true, Bool.false_eq_true, if_false, run_bind_ok_iff, objectAt_ok_iff,
      asString_ok_iff]
    constructor
    · rintro ⟨_, _, ⟨hlookup, rfl⟩, string, _, ⟨rfl, rfl⟩, h⟩
      split_ifs at h with hempty
      · exact absurd h nofun
      · exact ⟨string, hlookup, hempty, run_pure_ok_iff.mp h⟩
    · rintro ⟨string, hlookup, hne, h⟩
      refine ⟨_, state, ⟨hlookup, rfl⟩, string, state, ⟨rfl, rfl⟩, ?_⟩
      rw [if_neg hne]
      exact run_pure_ok_iff.mpr h
  · refine iff_of_false ?_ fun ⟨_, hlookup, _⟩ => hfound (hcontains.mpr ⟨_, hlookup⟩)
    simp only [hfound]
    nofun

theorem getPath_ok_iff (path result : Bytes) : (getPath machine path).run state = .ok result after ↔
    (machine.files state.clock).pathExists path = true ∧ path = result ∧
      after = { state with clock := state.clock + 1 } := by
  unfold getPath
  rw [run_bind_ok_iff]
  constructor
  · rintro ⟨files, middle, hlook, h⟩
    cases hlook
    by_cases hexists : (machine.files state.clock).pathExists path = true
    · rw [hexists] at h
      exact ⟨hexists, run_pure_ok_iff.mp h⟩
    · rw [Bool.not_eq_true] at hexists
      rw [hexists] at h
      exact absurd h nofun
  · rintro ⟨hexists, h⟩
    refine ⟨machine.files state.clock, { state with clock := state.clock + 1 }, rfl, ?_⟩
    rw [hexists]
    exact run_pure_ok_iff.mpr h

theorem present_cons_iff {clock last : Nat} {path : Option Bytes} {paths : List (Option Bytes)} :
    Present machine clock (path :: paths) last ↔
      ∃ middle, Present machine clock [path] middle ∧ Present machine middle paths last := by
  constructor
  · intro h
    cases h with
    | none h => exact ⟨_, .none (.nil _), h⟩
    | some hexists h => exact ⟨_, .some hexists (.nil _), h⟩
  · rintro ⟨middle, hpath, hrest⟩
    cases hpath with
    | none h =>
        cases h
        exact .none hrest
    | some hexists h =>
        cases h
        exact .some hexists hrest

theorem isLed_ok_iff (ledLabel : Bytes) (members : Object) (found : Bool) :
    (RGBIndicatorProvider.isLed machine ledLabel (.object members)).run state = .ok found after ↔ after = state ∧
      (members.lookup (ascii "color") = none ∧ found = false ∨
        ∃ color, members.lookup (ascii "color") = some (.string color) ∧ found = decide (cStr color = ledLabel)) := by
  have hrun : (RGBIndicatorProvider.isLed machine ledLabel (.object members)).run state =
      (if !members.contains (ascii "color") then pure false else do
        let color ← objectAt machine members (ascii "color")
        let label ← pdtreeToString machine color
        return label = ledLabel : Init Bool).run state := rfl
  rw [hrun]
  by_cases hcolor : members.contains (ascii "color") = true
  · have hsome := (Object.contains_iff members (ascii "color")).mp hcolor
    simp only [hcolor, Bool.not_true, Bool.false_eq_true, if_false, run_bind_ok_iff, objectAt_ok_iff,
      pdtreeToString_ok_iff, run_pure_ok_iff, hsome, false_and, false_or]
    constructor
    · rintro ⟨_, _, ⟨hlookup, rfl⟩, _, _, ⟨string, rfl, rfl, rfl⟩, rfl, rfl⟩
      exact ⟨rfl, string, hlookup, rfl⟩
    · rintro ⟨rfl, string, hlookup, rfl⟩
      exact ⟨_, _, ⟨hlookup, rfl⟩, _, _, ⟨string, rfl, rfl, rfl⟩, rfl, rfl⟩
  · have hnone : members.lookup (ascii "color") = none := by
      rwa [Object.contains_iff, not_not] at hcolor
    simp only [hcolor, Bool.not_false, if_true, run_pure_ok_iff, hnone, true_and, reduceCtorEq, false_and, exists_false,
      or_false]
    exact ⟨fun h => ⟨h.2, h.1.symm⟩, fun h => ⟨h.2.symm, h.1⟩⟩

theorem ledOf_ok_iff (members : Object) (led : Option SysfsLed) :
    (RGBIndicatorProvider.ledOf machine (.object members)).run state = .ok led after ↔
      members.lookup (ascii "sysfs_path") = none ∧ led = none ∧ after = state ∨
        ∃ path, members.lookup (ascii "sysfs_path") = some (.string path) ∧
          (machine.files state.clock).pathExists (cStr path) = true ∧ led = some ⟨cStr path⟩ ∧
          after = { state with clock := state.clock + 1 } := by
  have hrun : (RGBIndicatorProvider.ledOf machine (.object members)).run state =
      (if !members.contains (ascii "sysfs_path") then pure none else do
        let path ← objectAt machine members (ascii "sysfs_path")
        let sysfsdir ← pdtreeToString machine path
        let led ← SysfsLed.new machine sysfsdir
        return some led : Init (Option SysfsLed)).run state := rfl
  rw [hrun]
  by_cases hpath : members.contains (ascii "sysfs_path") = true
  · have hsome := (Object.contains_iff members (ascii "sysfs_path")).mp hpath
    simp only [hpath, Bool.not_true, Bool.false_eq_true, if_false, SysfsLed.new, run_bind_ok_iff, objectAt_ok_iff,
      pdtreeToString_ok_iff, getPath_ok_iff, run_pure_ok_iff, hsome, false_and, false_or]
    constructor
    · rintro ⟨_, _, ⟨hlookup, rfl⟩, _, _, ⟨string, rfl, rfl, rfl⟩, _, _, ⟨_, _, ⟨hexists, rfl, rfl⟩, rfl, rfl⟩, rfl, rfl⟩
      exact ⟨string, hlookup, hexists, rfl, rfl⟩
    · rintro ⟨string, hlookup, hexists, rfl, rfl⟩
      exact ⟨_, _, ⟨hlookup, rfl⟩, _, _, ⟨string, rfl, rfl, rfl⟩, _, _, ⟨_, _, ⟨hexists, rfl, rfl⟩, rfl, rfl⟩, rfl, rfl⟩
  · have hnone : members.lookup (ascii "sysfs_path") = none := by
      rwa [Object.contains_iff, not_not] at hpath
    simp only [hpath, Bool.not_false, if_true, run_pure_ok_iff, hnone, true_and, reduceCtorEq, false_and, exists_false,
      or_false]
    exact ⟨fun h => ⟨h.1.symm, h.2⟩, fun h => ⟨h.1.symm, h.2⟩⟩

theorem loadLed_cons (ledLabel : Bytes) (prop : Json) (rest : List Json) :
    RGBIndicatorProvider.loadLed machine (prop :: rest) ledLabel =
      RGBIndicatorProvider.isLed machine ledLabel prop >>= fun found =>
        if found then RGBIndicatorProvider.ledOf machine prop
        else RGBIndicatorProvider.loadLed machine rest ledLabel := by
  unfold RGBIndicatorProvider.loadLed
  rw [List.findM?, bind_assoc]
  congr 1
  funext found
  cases found with
  | true | false => rfl

-- load_led finds the LED that the descriptors say.
theorem loadLed_ok_iff (ledLabel : Bytes) (leds : List Json) (led : Option SysfsLed) :
    (RGBIndicatorProvider.loadLed machine leds ledLabel).run state = .ok led after ↔
      ∃ path last, LedPath ledLabel leds path ∧ Present machine state.clock [path] last ∧
        led = path.map SysfsLed.mk ∧ after = { state with clock := last } := by
  induction leds with
  | nil =>
      refine run_pure_ok_iff.trans ⟨?_, ?_⟩
      · rintro ⟨rfl, rfl⟩
        exact ⟨none, _, .missing, .none (.nil _), rfl, rfl⟩
      · rintro ⟨_, last, ⟨⟩, hpresent, rfl, rfl⟩
        cases hpresent with
        | none h =>
            cases h
            exact ⟨rfl, rfl⟩
  | cons prop rest ih =>
      rw [loadLed_cons, run_bind_ok_iff]
      constructor
      · rintro ⟨found, middle, hfound, h⟩
        cases prop with
        | object members =>
            rw [isLed_ok_iff] at hfound
            obtain ⟨rfl, ⟨hcolor, rfl⟩ | ⟨color, hcolor, rfl⟩⟩ := hfound
            · obtain ⟨path, last, hpath, hrest⟩ := ih.mp h
              exact ⟨path, last, .colorless members rest path hcolor hpath, hrest⟩
            · by_cases hlabel : cStr color = ledLabel
              · rw [decide_eq_true hlabel, if_pos rfl, ledOf_ok_iff] at h
                rcases h with ⟨hnone, rfl, rfl⟩ | ⟨path, hpath, hexists, rfl, rfl⟩
                · exact ⟨none, _, .pathless members color rest hcolor hlabel hnone, .none (.nil _), rfl, rfl⟩
                · exact ⟨some (cStr path), _, .found members color path rest hcolor hlabel hpath,
                    .some hexists (.nil _), rfl, rfl⟩
              · rw [decide_eq_false hlabel] at h
                obtain ⟨path, last, hpath, hrest⟩ := ih.mp h
                exact ⟨path, last, .other members color rest path hcolor hlabel hpath, hrest⟩
        | null | boolean _ | int64 _ | uint64 _ | double _ | string _ | array _ => cases hfound
      · rintro ⟨path, last, hpath, hpresent, rfl, rfl⟩
        cases hpath with
        | colorless members _ _ hcolor hpath =>
            exact ⟨false, state, (isLed_ok_iff machine _ _ _).mpr ⟨rfl, .inl ⟨hcolor, rfl⟩⟩,
              ih.mpr ⟨path, last, hpath, hpresent, rfl, rfl⟩⟩
        | other members color _ _ hcolor hne hpath =>
            refine ⟨false, state, (isLed_ok_iff machine _ _ _).mpr ⟨rfl, .inr ⟨color, hcolor, ?_⟩⟩,
              ih.mpr ⟨path, last, hpath, hpresent, rfl, rfl⟩⟩
            rw [decide_eq_false hne]
        | pathless members color _ hcolor hlabel hnone =>
            refine ⟨true, state, (isLed_ok_iff machine _ _ _).mpr ⟨rfl, .inr ⟨color, hcolor, ?_⟩⟩, ?_⟩
            · rw [decide_eq_true hlabel]
            · rw [if_pos rfl, ledOf_ok_iff]
              cases hpresent with
              | none h =>
                  cases h
                  exact .inl ⟨hnone, rfl, rfl⟩
        | found members color path _ hcolor hlabel hfound =>
            refine ⟨true, state, (isLed_ok_iff machine _ _ _).mpr ⟨rfl, .inr ⟨color, hcolor, ?_⟩⟩, ?_⟩
            · rw [decide_eq_true hlabel]
            · rw [if_pos rfl, ledOf_ok_iff]
              cases hpresent with
              | some hexists h =>
                  cases h
                  exact .inr ⟨path, hfound, hexists, rfl, rfl⟩

theorem present_three_iff {clock last : Nat} {red green blue : Option Bytes} :
    Present machine clock [red, green, blue] last ↔ ∃ first second, Present machine clock [red] first ∧
      Present machine first [green] second ∧ Present machine second [blue] last := by
  refine (present_cons_iff machine).trans (exists_congr fun first => ?_)
  refine (and_congr_right fun _ => present_cons_iff machine).trans ?_
  exact exists_and_left.symm

section Exceptions

variable {α : Type}

-- The task ends with no error but an exception.
abbrev Excepts (task : Init α) : Prop :=
  Raises (fun thrown => thrown.isException = true) task

theorem excepts_asArray (value : Json) : Excepts (asArray machine value) := by
  cases value <;> first | exact raises_pure _ | exact raises_throw rfl

theorem excepts_asObject (value : Json) : Excepts (asObject machine value) := by
  cases value <;> first | exact raises_pure _ | exact raises_throw rfl

theorem excepts_asString (value : Json) : Excepts (asString machine value) := by
  cases value <;> first | exact raises_pure _ | exact raises_throw rfl

theorem excepts_objectAt (object : Object) (key : Bytes) : Excepts (objectAt machine object key) := by
  unfold objectAt
  cases object.lookup key with
  | some value => exact raises_pure value
  | none => exact raises_throw rfl

theorem excepts_pdtreeToString (value : Json) : Excepts (pdtreeToString machine value) :=
  raises_bind (excepts_asString machine value) fun _ => raises_pure _

theorem excepts_pdtreeGet (object : Object) (key : Bytes) : Excepts (pdtreeGet machine object key) := by
  refine raises_ite _ (raises_throw rfl) ?_
  refine raises_bind (excepts_objectAt machine object key) fun value => ?_
  refine raises_bind (excepts_asString machine value) fun string => ?_
  exact raises_ite _ (raises_throw rfl) (raises_pure _)

theorem excepts_getPath (path : Bytes) : Excepts (getPath machine path) :=
  raises_bind (fun _ _ _ => nofun) fun _ => raises_ite _ (raises_throw rfl) (raises_pure _)

theorem excepts_isLed (ledLabel : Bytes) (prop : Json) : Excepts (RGBIndicatorProvider.isLed machine ledLabel prop) := by
  refine raises_bind (excepts_asObject machine prop) fun object => raises_ite _ (raises_pure _) ?_
  refine raises_bind (excepts_objectAt machine object _) fun color => ?_
  exact raises_bind (excepts_pdtreeToString machine color) fun _ => raises_pure _

theorem excepts_ledOf (prop : Json) : Excepts (RGBIndicatorProvider.ledOf machine prop) := by
  refine raises_bind (excepts_asObject machine prop) fun object => raises_ite _ (raises_pure _) ?_
  refine raises_bind (excepts_objectAt machine object _) fun path => ?_
  refine raises_bind (excepts_pdtreeToString machine path) fun sysfsdir => ?_
  refine raises_bind ?_ fun _ => raises_pure _
  exact raises_bind (excepts_getPath machine sysfsdir) fun _ => raises_pure _

theorem excepts_loadLed (leds : List Json) (ledLabel : Bytes) :
    Excepts (RGBIndicatorProvider.loadLed machine leds ledLabel) := by
  refine raises_bind (raises_findM? _ _ (excepts_isLed machine ledLabel)) fun descriptor => ?_
  cases descriptor with
  | none => exact raises_pure _
  | some prop => exact excepts_ledOf machine prop

theorem excepts_genericLoad (provider : GenericProvider) (builder : PlatformBuilder) (object : Object) :
    Excepts (provider.load machine builder object) := by
  refine raises_bind (excepts_objectAt machine object _) fun model => ?_
  refine raises_bind (excepts_pdtreeToString machine model) fun _ => raises_ite _ (raises_pure _) ?_
  exact raises_bind (excepts_pdtreeGet machine object _) fun _ => raises_pure _

end Exceptions

-- Once the LEDs have been looked for, load builds the indicators or crashes.
theorem rgbLoad_run {members : Object} {red green blue : Option Bytes} {last : Nat} (builder : PlatformBuilder)
    (h : LedPaths machine members state.clock red green blue last) :
    ∃ loaded, (RGBIndicatorProvider.load machine builder members).run state =
      if red.isSome ∧ green.isSome ∧ blue.isSome then .ok loaded { state with clock := last }
      else .error .nullPointer { state with clock := last } := by
  obtain ⟨leds, hleds, hred, hgreen, hblue⟩ := h.leds
  obtain ⟨first, second, hfirst, hsecond, hlast⟩ := (present_three_iff machine).mp h.present
  have hvalue : (objectAt machine members (ascii "leds")).run state = .ok (.array leds) state :=
    (objectAt_ok_iff machine members _ _).mpr ⟨hleds, rfl⟩
  have harray : (asArray machine (.array leds)).run state = .ok leds state := rfl
  have hrun (label : Bytes) (path : Option Bytes) (before after : Nat) (hpath : LedPath label leds path)
      (hpresent : Present machine before [path] after) :
      (RGBIndicatorProvider.loadLed machine leds label).run { state with clock := before } =
        .ok (path.map SysfsLed.mk) { state with clock := after } :=
    (loadLed_ok_iff machine label leds _).mpr ⟨path, after, hpath, hpresent, rfl, rfl⟩
  unfold RGBIndicatorProvider.load
  rw [run_bind_of_ok hvalue, run_bind_of_ok harray, run_bind_of_ok (hrun _ _ _ _ hred hfirst),
    run_bind_of_ok (hrun _ _ _ _ hgreen hsecond), run_bind_of_ok (hrun _ _ _ _ hblue hlast)]
  cases red with
  | none => exact ⟨(false, builder), rfl⟩
  | some red =>
      cases green with
      | none => exact ⟨(false, builder), rfl⟩
      | some green =>
          cases blue with
          | none => exact ⟨(false, builder), rfl⟩
          | some blue => exact ⟨_, rfl⟩

-- Where the LEDs cannot be looked for, load throws.
theorem rgbLoad_cases (members : Object) (builder : PlatformBuilder)
    (hcompatible : compatibleOf (.object members) = some (ascii "sysfs_rgbled_indicator")) :
    (∃ red green blue last, LedPaths machine members state.clock red green blue last) ∨
      ∃ thrown after, (RGBIndicatorProvider.load machine builder members).run state = .error thrown after ∧
        thrown.isException = true := by
  unfold RGBIndicatorProvider.load
  cases hvalue : (objectAt machine members (ascii "leds")).run state with
  | error thrown after =>
      exact .inr ⟨_, _, run_bind_of_error hvalue, excepts_objectAt machine _ _ _ _ _ hvalue⟩
  | ok value after =>
      rw [run_bind_of_ok hvalue]
      obtain ⟨hlookup, rfl⟩ := (objectAt_ok_iff machine _ _ _).mp hvalue
      cases harray : (asArray machine value).run after with
      | error thrown last => exact .inr ⟨_, _, run_bind_of_error harray, excepts_asArray machine _ _ _ _ harray⟩
      | ok leds last =>
          rw [run_bind_of_ok harray]
          obtain ⟨rfl, rfl⟩ := (asArray_ok_iff machine _ _).mp harray
          cases hred : (RGBIndicatorProvider.loadLed machine leds (ascii "red")).run last with
          | error thrown _ => exact .inr ⟨_, _, run_bind_of_error hred, excepts_loadLed machine _ _ _ _ _ hred⟩
          | ok red first =>
              rw [run_bind_of_ok hred]
              obtain ⟨redPath, _, hredPath, hfirst, rfl, rfl⟩ := (loadLed_ok_iff machine _ _ _).mp hred
              cases hgreen : (RGBIndicatorProvider.loadLed machine leds (ascii "green")).run _ with
              | error thrown _ =>
                  exact .inr ⟨_, _, run_bind_of_error hgreen, excepts_loadLed machine _ _ _ _ _ hgreen⟩
              | ok green second =>
                  rw [run_bind_of_ok hgreen]
                  obtain ⟨greenPath, _, hgreenPath, hsecond, rfl, rfl⟩ := (loadLed_ok_iff machine _ _ _).mp hgreen
                  cases hblue : (RGBIndicatorProvider.loadLed machine leds (ascii "blue")).run _ with
                  | error thrown _ =>
                      exact .inr ⟨_, _, run_bind_of_error hblue, excepts_loadLed machine _ _ _ _ _ hblue⟩
                  | ok blue third =>
                      obtain ⟨bluePath, last, hbluePath, hlast, -, -⟩ := (loadLed_ok_iff machine _ _ _).mp hblue
                      exact .inl ⟨redPath, greenPath, bluePath, last, hcompatible,
                        ⟨leds, hlookup, hredPath, hgreenPath, hbluePath⟩,
                        (present_three_iff machine).mpr ⟨_, _, hfirst, hsecond, hlast⟩⟩

theorem genericLoad_ok_iff (provider : GenericProvider) (members : Object) (builder : PlatformBuilder) :
    (∃ loaded, (provider.load machine builder members).run state = .ok loaded after) ↔
      (∃ model, members.lookup (ascii "model") = some (.string model)) ∧
        (∀ value, members.lookup (ascii "sysfs_path") = some value →
          ∃ path, value = .string path ∧ firstWord (cStr path) ≠ []) ∧ after = state := by
  have hrest : (∃ loaded, (if !members.contains (ascii "sysfs_path") then pure (false, builder) else do
        let sysfsPath ← pdtreeGet machine members (ascii "sysfs_path")
        return (true, builder.addLoader machine provider.kind ⟨provider.loadDevice sysfsPath, GenericProvider.unload⟩) :
        Init (Bool × PlatformBuilder)).run state = .ok loaded after) ↔
      (∀ value, members.lookup (ascii "sysfs_path") = some value →
          ∃ path, value = .string path ∧ firstWord (cStr path) ≠ []) ∧ after = state := by
    by_cases hpath : members.contains (ascii "sysfs_path") = true
    · obtain ⟨value, hvalue⟩ := Option.ne_none_iff_exists'.mp ((Object.contains_iff members _).mp hpath)
      simp only [hpath, Bool.not_true, Bool.false_eq_true, if_false, run_bind_ok_iff, pdtreeGet_ok_iff, run_pure_ok_iff,
        hvalue, Option.some.injEq, forall_eq']
      constructor
      · rintro ⟨_, _, _, ⟨string, rfl, hword, rfl, rfl⟩, -, rfl⟩
        exact ⟨⟨string, rfl, hword⟩, rfl⟩
      · rintro ⟨⟨string, rfl, hword⟩, rfl⟩
        exact ⟨_, _, _, ⟨string, rfl, hword, rfl, rfl⟩, rfl, rfl⟩
    · have hnone : members.lookup (ascii "sysfs_path") = none := by
        rwa [Object.contains_iff, not_not] at hpath
      simp only [hpath, Bool.not_false, if_true, run_pure_ok_iff, hnone, reduceCtorEq, false_implies, implies_true,
        true_and]
      exact ⟨fun ⟨_, _, h⟩ => h, fun h => ⟨_, rfl, h⟩⟩
  unfold GenericProvider.load
  simp only [run_bind_ok_iff, objectAt_ok_iff, pdtreeToString_ok_iff]
  constructor
  · rintro ⟨loaded, _, _, ⟨hmodel, rfl⟩, _, _, ⟨string, rfl, rfl, rfl⟩, h⟩
    exact ⟨⟨string, hmodel⟩, hrest.mp ⟨loaded, h⟩⟩
  · rintro ⟨⟨model, hmodel⟩, h⟩
    obtain ⟨loaded, hloaded⟩ := hrest.mpr h
    exact ⟨loaded, _, _, ⟨hmodel, rfl⟩, _, _, ⟨model, rfl, rfl, rfl⟩, hloaded⟩

-- The provider that setup chooses.
theorem find_provider (compatible : Bytes) :
    compatible = ascii "sysfs_rgbled_indicator" ∧
        (PlatformDeviceDiscovery.providers machine).find? (fun provider => provider.compatible = compatible) =
          some .rgbIndicator ∨
      (∃ kind provider, genericKind compatible = some kind ∧
        (PlatformDeviceDiscovery.providers machine).find? (fun provider => provider.compatible = compatible) =
          some (.generic provider)) ∨
      compatible ≠ ascii "sysfs_rgbled_indicator" ∧ genericKind compatible = none ∧
        (PlatformDeviceDiscovery.providers machine).find? (fun provider => provider.compatible = compatible) =
          none := by
  by_cases hrgb : compatible = ascii "sysfs_rgbled_indicator"
  · subst hrgb
    exact .inl ⟨rfl, rfl⟩
  by_cases hhatch : compatible = ascii "sysfs_hatch2sr"
  · subst hhatch
    exact .inr (.inl ⟨.hatch, _, rfl, rfl⟩)
  by_cases hds18b20 : compatible = ascii "sysfs_ds18b20"
  · subst hds18b20
    exact .inr (.inl ⟨.tempSensor, _, rfl, rfl⟩)
  by_cases hcpu : compatible = ascii "sysfs_cpu_temp_sensor"
  · subst hcpu
    exact .inr (.inl ⟨.tempSensor, _, rfl, rfl⟩)
  refine .inr (.inr ⟨hrgb, by simp [genericKind, hhatch, hds18b20, hcpu], ?_⟩)
  rw [List.find?_eq_none]
  intro provider hprovider
  simp only [PlatformDeviceDiscovery.providers, List.mem_cons, List.not_mem_nil, or_false] at hprovider
  rw [decide_eq_true_iff]
  rcases hprovider with rfl | rfl | rfl | rfl
  · exact Ne.symm hrgb
  · exact Ne.symm hhatch
  · exact Ne.symm hds18b20
  · exact Ne.symm hcpu

theorem compatibleOf_some_iff (members : Object) (compatible : Bytes) :
    compatibleOf (.object members) = some compatible ↔
      ∃ string, members.lookup (ascii "compatible") = some (.string string) ∧ cStr string = compatible := by
  simp only [compatibleOf]
  cases members.lookup (ascii "compatible") with
  | none => simp
  | some value => cases value <;> simp

-- The provider has the rest of the round.
theorem setupEntry_run {members : Object} {compatible : Bytes} (builder : PlatformBuilder)
    (hcompatible : compatibleOf (.object members) = some compatible) {provider : DeviceProvider}
    (hfind : (PlatformDeviceDiscovery.providers machine).find? (fun provider => provider.compatible = compatible) =
      some provider) :
    (PlatformDeviceDiscovery.setupEntry machine builder (.object members)).run state =
      (do
        let loaded ← provider.load machine builder members
        return loaded.2 : Init PlatformBuilder).run state := by
  obtain ⟨string, hlookup, rfl⟩ := (compatibleOf_some_iff members compatible).mp hcompatible
  have hvalue : (objectAt machine members (ascii "compatible")).run state = .ok (.string string) state :=
    (objectAt_ok_iff machine members _ _).mpr ⟨hlookup, rfl⟩
  have hobject : (asObject machine (.object members)).run state = .ok members state := rfl
  have hstring : (pdtreeToString machine (.string string)).run state = .ok (cStr string) state := rfl
  unfold PlatformDeviceDiscovery.setupEntry
  rw [run_bind_of_ok hobject, run_bind_of_ok hvalue, run_bind_of_ok hstring, hfind]

theorem setupEntry_accepted {entry : Json} {last : Nat} (builder : PlatformBuilder)
    (h : Accepted machine state.clock entry last) :
    ∃ built, (PlatformDeviceDiscovery.setupEntry machine builder entry).run state =
      .ok built { state with clock := last } := by
  cases h with
  | rgbIndicator members red green blue last h =>
      obtain ⟨loaded, hload⟩ := rgbLoad_run machine builder h
      rw [if_pos ⟨rfl, rfl, rfl⟩] at hload
      refine ⟨loaded.2, ?_⟩
      rw [setupEntry_run machine builder h.compatible rfl]
      exact run_bind_of_ok hload
  | generic members compatible model kind hcompatible hkind hmodel hpath =>
      rcases find_provider machine compatible with ⟨rfl, -⟩ | ⟨_, provider, -, hfind⟩ | ⟨-, hnone, -⟩
      · cases hkind
      · obtain ⟨loaded, hload⟩ := (genericLoad_ok_iff machine provider members builder).mpr ⟨⟨model, hmodel⟩, hpath, rfl⟩
        refine ⟨loaded.2, ?_⟩
        rw [setupEntry_run machine builder hcompatible hfind]
        exact run_bind_of_ok hload
      · cases hkind.symm.trans hnone

theorem setupEntry_incomplete {entry : Json} (builder : PlatformBuilder) (h : Incomplete machine state.clock entry) :
    ∃ after, (PlatformDeviceDiscovery.setupEntry machine builder entry).run state = .error .nullPointer after := by
  obtain ⟨members, red, green, blue, last, rfl, hpaths, hmissing⟩ := h
  obtain ⟨loaded, hload⟩ := rgbLoad_run machine builder hpaths
  rw [if_neg (by rcases hmissing with rfl | rfl | rfl <;> simp)] at hload
  refine ⟨{ state with clock := last }, ?_⟩
  rw [setupEntry_run machine builder hpaths.compatible rfl]
  exact run_bind_of_error hload

theorem setupEntry_rgbIndicator (members : Object) (builder : PlatformBuilder)
    (hcompatible : compatibleOf (.object members) = some (ascii "sysfs_rgbled_indicator")) :
    (∃ last, Accepted machine state.clock (.object members) last) ∨ Incomplete machine state.clock (.object members) ∨
      ∃ thrown after, (PlatformDeviceDiscovery.setupEntry machine builder (.object members)).run state =
        .error thrown after ∧ thrown.isException = true := by
  rcases rgbLoad_cases machine members builder hcompatible with ⟨red, green, blue, last, h⟩ | ⟨thrown, after, hload, he⟩
  · cases red with
    | none => exact .inr (.inl ⟨members, _, _, _, last, rfl, h, .inl rfl⟩)
    | some red =>
        cases green with
        | none => exact .inr (.inl ⟨members, _, _, _, last, rfl, h, .inr (.inl rfl)⟩)
        | some green =>
            cases blue with
            | none => exact .inr (.inl ⟨members, _, _, _, last, rfl, h, .inr (.inr rfl)⟩)
            | some blue => exact .inl ⟨last, .rgbIndicator members red green blue last h⟩
  · refine .inr (.inr ⟨thrown, after, ?_, he⟩)
    rw [setupEntry_run machine builder hcompatible rfl]
    exact run_bind_of_error hload

-- An entry that is neither accepted nor incomplete ends setup with an exception.
theorem setupEntry_cases (entry : Json) (builder : PlatformBuilder) :
    (∃ last, Accepted machine state.clock entry last) ∨ Incomplete machine state.clock entry ∨
      ∃ thrown after, (PlatformDeviceDiscovery.setupEntry machine builder entry).run state = .error thrown after ∧
        thrown.isException = true := by
  cases hobject : (asObject machine entry).run state with
  | error thrown after =>
      exact .inr (.inr ⟨thrown, after, run_bind_of_error hobject, excepts_asObject machine _ _ _ _ hobject⟩)
  | ok members after =>
      obtain ⟨rfl, rfl⟩ := (asObject_ok_iff machine _ _).mp hobject
      cases hcompatible : compatibleOf (.object members) with
      | none =>
          refine .inr (.inr ?_)
          unfold PlatformDeviceDiscovery.setupEntry
          rw [run_bind_of_ok hobject]
          cases hvalue : (objectAt machine members (ascii "compatible")).run after with
          | error thrown last => exact ⟨thrown, last, run_bind_of_error hvalue, excepts_objectAt machine _ _ _ _ _ hvalue⟩
          | ok value last =>
              obtain ⟨hlookup, rfl⟩ := (objectAt_ok_iff machine _ _ _).mp hvalue
              rw [run_bind_of_ok hvalue]
              cases hstring : (pdtreeToString machine value).run last with
              | error thrown last =>
                  exact ⟨thrown, last, run_bind_of_error hstring, excepts_pdtreeToString machine _ _ _ _ hstring⟩
              | ok bytes last =>
                  obtain ⟨string, rfl, rfl, -⟩ := (pdtreeToString_ok_iff machine _ _).mp hstring
                  cases hcompatible.symm.trans ((compatibleOf_some_iff members _).mpr ⟨string, hlookup, rfl⟩)
      | some compatible =>
          rcases find_provider machine compatible with
            ⟨rfl, -⟩ | ⟨kind, provider, hkind, hfind⟩ | ⟨-, -, hfind⟩
          · exact setupEntry_rgbIndicator machine members builder hcompatible
          · have hrun := @setupEntry_run machine after members compatible builder hcompatible _ hfind
            cases hload : (provider.load machine builder members).run after with
            | error thrown last =>
                exact .inr (.inr ⟨thrown, last, hrun.trans (run_bind_of_error hload),
                  excepts_genericLoad machine _ _ _ _ _ _ hload⟩)
            | ok loaded last =>
                obtain ⟨⟨model, hmodel⟩, hpath, -⟩ := (genericLoad_ok_iff machine provider members builder).mp ⟨_, hload⟩
                exact .inl ⟨_, .generic members compatible model kind hcompatible hkind hmodel hpath⟩
          · refine .inr (.inr ?_)
            obtain ⟨string, hlookup, rfl⟩ := (compatibleOf_some_iff members compatible).mp hcompatible
            have hvalue : (objectAt machine members (ascii "compatible")).run after = .ok (.string string) after :=
              (objectAt_ok_iff machine members _ _).mpr ⟨hlookup, rfl⟩
            have hstring : (pdtreeToString machine (.string string)).run after = .ok (cStr string) after := rfl
            unfold PlatformDeviceDiscovery.setupEntry
            rw [run_bind_of_ok hobject, run_bind_of_ok hvalue, run_bind_of_ok hstring, hfind]
            exact ⟨_, _, rfl, rfl⟩

theorem setupEntries_crash_iff (entries : List Json) (builder : PlatformBuilder) :
    (∃ thrown after, (entries.foldlM (PlatformDeviceDiscovery.setupEntry machine) builder).run state =
        .error thrown after ∧ thrown.isException = false) ↔ ReachesIncomplete machine state.clock entries := by
  constructor
  · induction entries generalizing builder state with
    | nil => exact fun ⟨_, _, hrun, _⟩ => nomatch hrun
    | cons entry rest ih =>
        rw [List.foldlM_cons]
        rintro ⟨thrown, after, hrun, hcrash⟩
        rcases setupEntry_cases machine entry builder with ⟨last, haccepted⟩ | hincomplete | ⟨other, middle, hentry, he⟩
        · obtain ⟨built, hentry⟩ := setupEntry_accepted machine builder haccepted
          rw [run_bind_of_ok hentry] at hrun
          exact .later _ last entry rest haccepted (ih built ⟨thrown, after, hrun, hcrash⟩)
        · exact .here _ entry rest hincomplete
        · rw [run_bind_of_error hentry] at hrun
          cases hrun
          cases hcrash.symm.trans he
  · intro h
    induction entries generalizing builder state with
    | nil => cases h
    | cons entry rest ih =>
        rw [List.foldlM_cons]
        cases h with
        | here _ _ _ hincomplete =>
            obtain ⟨after, hentry⟩ := setupEntry_incomplete machine builder hincomplete
            exact ⟨_, after, run_bind_of_error hentry, rfl⟩
        | later _ middle _ _ haccepted hrest =>
            obtain ⟨built, hentry⟩ := setupEntry_accepted machine builder haccepted
            rw [run_bind_of_ok hentry]
            exact ih built hrest

-- The discovery crashes exactly when it comes to an RGB indicator that lacks a LED.
theorem setup_crash_iff (entries : List Json) (builder : PlatformBuilder) :
    (∃ thrown after, (PlatformDeviceDiscovery.setup machine (.array entries) builder).run state = .error thrown after ∧
        thrown.isException = false) ↔ ReachesIncomplete machine state.clock entries :=
  setupEntries_crash_iff machine entries builder

end Accepts

end HhctrlMgmt.Platform
