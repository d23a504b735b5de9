import HhctrlMgmt.Common.Effect
import HhctrlMgmt.Platform.Leds

namespace HhctrlMgmt.Platform

open Common Device

section Model

variable (attributes : Attributes)

-- RGBIndicator::state
def Indicator.state (indicator : Indicator) (fuel : Nat) : LedM IndicatorState := do
  let brightness ← indicator.rgbLed.brightness attributes fuel
  let config := Indicator.mapping indicator.indicatorType
  if config.1 = brightness.red ∧ config.2.1 = brightness.green ∧ config.2.2 = brightness.blue then
    return .on
  return .off

namespace MainBoard

def indicatorState (board : MainBoard) (indicatorType : IndicatorType) (fuel : Nat) : LedM IndicatorState :=
  match board.indicators.find? fun indicator => indicator.indicatorType = indicatorType with
  | none => return .notAvailable
  | some indicator => indicator.state attributes fuel

end MainBoard

end Model

section Shown

-- Attributes that keep the text that is written to them; some give it back with a newline.
structure Store where
  initial : Attributes
  newline : Bytes → Bool

def Store.write (store : Store) (attributes : Attributes) (write : Bytes × Int) : Attributes :=
  Function.update attributes write.1 (some (decimal write.2 ++ if store.newline write.1 then [10] else []))

-- What they have come to in a process that has started with the initial ones.
def Store.attributes (store : Store) (process : Process) : Attributes :=
  process.written.foldl store.write store.initial

-- A brightness that is read, given enough fuel.
def SysfsLed.Shows (attributes : Attributes) (led : SysfsLed) (value : Int) : Prop :=
  ∃ need, ∀ fuel ≥ need, led.brightness attributes fuel = pure value

structure RGBLed.Shows (attributes : Attributes) (led : RGBLed) (value : RGBLedValue) : Prop where
  red : led.red.Shows attributes value.red
  green : led.green.Shows attributes value.green
  blue : led.blue.Shows attributes value.blue

theorem RGBLed.Shows.brightness {attributes : Attributes} {led : RGBLed} {value : RGBLedValue}
    (h : led.Shows attributes value) : ∃ need, ∀ fuel ≥ need, led.brightness attributes fuel = pure value := by
  obtain ⟨needRed, hred⟩ := h.red
  obtain ⟨needGreen, hgreen⟩ := h.green
  obtain ⟨needBlue, hblue⟩ := h.blue
  refine ⟨needRed + needGreen + needBlue, fun fuel hfuel => ?_⟩
  unfold RGBLed.brightness
  rw [hred fuel (by omega), pure_bind, hgreen fuel (by omega), pure_bind, hblue fuel (by omega), pure_bind]

variable (store : Store) {attributes : Attributes}

theorem SysfsLed.shows_write (led : SysfsLed) (value : Int) (hvalue : IsInt value) :
    led.Shows (store.write attributes (led.path, value)) value := by
  refine ⟨(decimal value).length + 3, fun fuel hfuel => led.brightness_keeps _ value hvalue ?_ fuel hfuel⟩
  have hcontent : store.write attributes (led.path, value) led.path =
      some (decimal value ++ if store.newline led.path then [10] else []) := Function.update_self ..
  unfold Keeps
  rw [hcontent]
  split_ifs
  · exact Or.inr rfl
  · exact Or.inl (by rw [List.append_nil])

-- The other attributes are as they were.
theorem SysfsLed.Shows.write {led : SysfsLed} {value : Int} (h : led.Shows attributes value) (write : Bytes × Int)
    (hother : led.path ≠ write.1) : led.Shows (store.write attributes write) value := by
  obtain ⟨need, hneed⟩ := h
  refine ⟨need, fun fuel hfuel => ?_⟩
  have hsame : store.write attributes write led.path = attributes led.path := Function.update_of_ne hother ..
  rw [← hneed fuel hfuel]
  unfold SysfsLed.brightness
  rw [hsame]

-- The colour after the first writes of an update, in the order of the channels.
def RGBLedValue.mixed (before target : RGBLedValue) (count : Nat) : RGBLedValue where
  red := if 1 ≤ count then target.red else before.red
  green := if 2 ≤ count then target.green else before.green
  blue := if 3 ≤ count then target.blue else before.blue

-- The channels have attributes of their own.
def RGBLed.Distinct (led : RGBLed) : Prop :=
  [led.red.path, led.green.path, led.blue.path].Nodup

instance (led : RGBLed) : Decidable led.Distinct :=
  inferInstanceAs (Decidable (List.Nodup _))

structure RGBLedValue.IsInts (value : RGBLedValue) : Prop where
  red : IsInt value.red
  green : IsInt value.green
  blue : IsInt value.blue

theorem RGBLed.Shows.writes {led : RGBLed} {before : RGBLedValue} (h : led.Shows attributes before)
    (hdistinct : led.Distinct) (target : RGBLedValue) (htarget : target.IsInts) (count : Nat) (hcount : count ≤ 3) :
    led.Shows (((led.writes target).take count).foldl store.write attributes) (before.mixed target count) := by
  obtain ⟨hred, hgreen⟩ := List.nodup_cons.mp hdistinct
  obtain ⟨hgreen, -⟩ := List.nodup_cons.mp hgreen
  simp only [List.mem_cons, List.not_mem_nil, or_false, not_or] at hred hgreen
  obtain ⟨hredGreen, hredBlue⟩ := hred
  have hfirst : led.Shows (store.write attributes (led.red.path, target.red)) (before.mixed target 1) :=
    ⟨led.red.shows_write store target.red htarget.red, h.green.write store _ (Ne.symm hredGreen),
      h.blue.write store _ (Ne.symm hredBlue)⟩
  have hsecond : led.Shows
      (store.write (store.write attributes (led.red.path, target.red)) (led.green.path, target.green))
      (before.mixed target 2) :=
    ⟨hfirst.red.write store _ hredGreen, led.green.shows_write store target.green htarget.green,
      hfirst.blue.write store _ (Ne.symm hgreen)⟩
  match count, hcount with
  | 0, _ => exact h
  | 1, _ => exact hfirst
  | 2, _ => exact hsecond
  | 3, _ =>
      exact ⟨hsecond.red.write store _ hredBlue, hsecond.green.write store _ hgreen,
        led.blue.shows_write store target.blue htarget.blue⟩

end Shown

section Codes

namespace Indicator

-- The entry of IndicatorMapping.
def code (indicatorType : IndicatorType) : RGBLedValue :=
  ⟨(mapping indicatorType).1, (mapping indicatorType).2.1, (mapping indicatorType).2.2⟩

theorem code_injective : Function.Injective code := by
  intro first second hcode
  cases first <;> cases second <;> first | rfl | exact absurd hcode (by decide)

theorem code_isInts (indicatorType : IndicatorType) : (code indicatorType).IsInts := by
  cases indicatorType <;> exact ⟨by decide, by decide, by decide⟩

-- What set_state asks of the LED, if it asks for anything.
def requested (indicatorType : IndicatorType) : IndicatorState → Option RGBLedValue
  | .on => some (code indicatorType)
  | .off => some ⟨0, 0, 0⟩
  | .notAvailable | .blinking => none

theorem requested_isInts {indicatorType : IndicatorType} {state : IndicatorState} {target : RGBLedValue}
    (h : requested indicatorType state = some target) : target.IsInts := by
  cases state with
  | on =>
      obtain rfl := Option.some.inj h
      exact code_isInts indicatorType
  | off =>
      obtain rfl := Option.some.inj h
      exact ⟨by decide, by decide, by decide⟩
  | notAvailable | blinking => cases h

theorem setState_eq (machine : Machine) (indicator : Indicator) {state : IndicatorState} {target : RGBLedValue}
    (h : requested indicator.indicatorType state = some target) :
    indicator.setState machine state = writeAll machine (indicator.rgbLed.writes target) := by
  rw [← RGBLed.setBrightness_eq]
  cases state with
  | on | off =>
      obtain rfl := Option.some.inj h
      rfl
  | notAvailable | blinking => cases h

theorem setState_none (machine : Machine) (indicator : Indicator) {state : IndicatorState}
    (h : requested indicator.indicatorType state = none) : indicator.setState machine state = return () := by
  cases state with
  | on | off => cases h
  | notAvailable | blinking => rfl

-- What an indicator says on a LED of this colour.
def reported (value : RGBLedValue) (indicatorType : IndicatorType) : IndicatorState :=
  if value = code indicatorType then .on else .off

theorem reported_eq_on_iff (value : RGBLedValue) (indicatorType : IndicatorType) :
    reported value indicatorType = .on ↔ value = code indicatorType := by
  unfold reported
  split_ifs with hcode
  · exact iff_of_true rfl hcode
  · exact iff_of_false nofun hcode

-- A state that is read, given enough fuel.
def Reads (attributes : Attributes) (indicator : Indicator) (state : IndicatorState) : Prop :=
  ∃ need, ∀ fuel ≥ need, indicator.state attributes fuel = pure state

variable {attributes : Attributes} {indicator : Indicator} {value : RGBLedValue}

theorem reads_reported (h : indicator.rgbLed.Shows attributes value) :
    indicator.Reads attributes (reported value indicator.indicatorType) := by
  obtain ⟨need, hneed⟩ := h.brightness
  refine ⟨need, fun fuel hfuel => ?_⟩
  have hcode : value = code indicator.indicatorType ↔
      (mapping indicator.indicatorType).1 = value.red ∧ (mapping indicator.indicatorType).2.1 = value.green ∧
        (mapping indicator.indicatorType).2.2 = value.blue := by
    obtain ⟨red, green, blue⟩ := value
    rw [code, RGBLedValue.mk.injEq, eq_comm, eq_comm (a := green), eq_comm (a := blue)]
  unfold Indicator.state reported
  rw [hneed fuel hfuel, pure_bind]
  by_cases h : value = code indicator.indicatorType
  · rw [if_pos h]
    dsimp only
    rw [if_pos (hcode.mp h)]
  · rw [if_neg h]
    dsimp only
    rw [if_neg (hcode.not.mp h)]

theorem reads_iff {led : RGBLed} (h : led.Shows attributes value) (hled : indicator.rgbLed = led)
    (state : IndicatorState) :
    indicator.Reads attributes state ↔ state = reported value indicator.indicatorType := by
  subst hled
  constructor
  · rintro ⟨need, hneed⟩
    obtain ⟨other, hother⟩ := reads_reported h
    have hsame := (hneed (need + other) (by omega)).symm.trans (hother (need + other) (by omega))
    exact Except.ok.inj (Option.some.inj hsame)
  · rintro rfl
    exact reads_reported h

end Indicator

section Throws

variable (machine : Machine) (store : Store)

theorem attributes_withWrites (process : Process) (clock : Nat) (writes : List (Bytes × Int)) :
    store.attributes (process.withWrites clock writes) = writes.foldl store.write (store.attributes process) :=
  List.foldl_append

-- The writes of an update that can be done, and what the LED shows after them.
theorem setState_shows (process : Process) {indicator : Indicator} {state : IndicatorState}
    {before target : RGBLedValue} (hdistinct : indicator.rgbLed.Distinct)
    (h : indicator.rgbLed.Shows (store.attributes process) before)
    (htarget : Indicator.requested indicator.indicatorType state = some target) :
    let count := doable machine process.clock (indicator.rgbLed.writes target)
    count ≤ 3 ∧ ∃ after, indicator.rgbLed.Shows (store.attributes after) (before.mixed target count) ∧
      (count = 3 ∧ indicator.setState machine state process = .ok () after ∨
        count < 3 ∧ ∃ thrown, indicator.setState machine state process = .error thrown after) := by
  intro count
  have hcount : count ≤ 3 := doable_le machine process.clock (indicator.rgbLed.writes target)
  obtain ⟨clock, hrun⟩ := writeAll_eq machine (indicator.rgbLed.writes target) process
  rw [← indicator.setState_eq machine htarget] at hrun
  refine ⟨hcount, _, ?_, hrun⟩
  rw [attributes_withWrites]
  exact h.writes store hdistinct target (Indicator.requested_isInts htarget) count hcount

-- A colour that one of the indicators stands for.
def Coded (value : RGBLedValue) : Prop :=
  ∃ indicatorType, value = Indicator.code indicatorType

-- Between two colours no report changes exactly if they are one colour, or no indicator's.
theorem reported_same_iff (before after : RGBLedValue) :
    (∀ indicatorType, Indicator.reported before indicatorType = Indicator.reported after indicatorType) ↔
      after = before ∨ ¬Coded before ∧ ¬Coded after := by
  constructor
  · intro hsame
    have hon (indicatorType : IndicatorType) :
        before = Indicator.code indicatorType ↔ after = Indicator.code indicatorType := by
      rw [← Indicator.reported_eq_on_iff, ← Indicator.reported_eq_on_iff, hsame]
    by_cases hcoded : Coded before
    · obtain ⟨indicatorType, hcode⟩ := hcoded
      exact Or.inl (((hon indicatorType).mp hcode).trans hcode.symm)
    · right
      refine ⟨hcoded, ?_⟩
      rintro ⟨indicatorType, hcode⟩
      exact hcoded ⟨indicatorType, (hon indicatorType).mpr hcode⟩
  · rintro (rfl | ⟨hbefore, hafter⟩) indicatorType
    · rfl
    · unfold Indicator.reported
      rw [if_neg fun h => hbefore ⟨indicatorType, h⟩, if_neg fun h => hafter ⟨indicatorType, h⟩]

-- An update that throws has set the channels before the failing one.
theorem setState_throws (process after : Process) (indicator : Indicator) (state : IndicatorState)
    (before : RGBLedValue) (thrown : Exn) (hdistinct : indicator.rgbLed.Distinct)
    (h : indicator.rgbLed.Shows (store.attributes process) before)
    (hthrows : indicator.setState machine state process = .error thrown after) :
    ∃ target, Indicator.requested indicator.indicatorType state = some target ∧
      let count := doable machine process.clock (indicator.rgbLed.writes target)
      count < 3 ∧ indicator.rgbLed.Shows (store.attributes after) (before.mixed target count) ∧
      ((∀ other : Indicator, other.rgbLed = indicator.rgbLed → ∀ state,
          other.Reads (store.attributes after) state ↔ other.Reads (store.attributes process) state) ↔
        before.mixed target count = before ∨ ¬Coded before ∧ ¬Coded (before.mixed target count)) := by
  cases htarget : Indicator.requested indicator.indicatorType state with
  | none =>
      rw [indicator.setState_none machine htarget] at hthrows
      cases hthrows
  | some target =>
      obtain ⟨-, later, hshows, ⟨-, hrun⟩ | ⟨hcount, other, hrun⟩⟩ :=
        setState_shows machine store process hdistinct h htarget
      · rw [hrun] at hthrows
        cases hthrows
      · rw [hrun] at hthrows
        injection hthrows with _ hafter
        subst hafter
        refine ⟨target, rfl, hcount, hshows, ?_⟩
        rw [← reported_same_iff]
        constructor
        · intro hsame indicatorType
          let other : Indicator := ⟨indicatorType, indicator.rgbLed⟩
          have hbefore := (Indicator.reads_iff h (rfl : other.rgbLed = _) _).mpr rfl
          have hlater := (hsame other rfl _).mpr hbefore
          exact (Indicator.reads_iff hshows (rfl : other.rgbLed = _) _).mp hlater
        · intro hsame other hled state
          rw [Indicator.reads_iff hshows hled, Indicator.reads_iff h hled, hsame]

-- A LED that is dark, and one whose green channel cannot be written.
def darkStore : Store :=
  ⟨fun _ => some (decimal 0), fun _ => false⟩

def greenFails : Machine where
  files _ := ⟨fun _ => true, fun _ => none, fun path => path ≠ sampleLed.green.path⟩
  jsonWhat _ := ""
  growth := DeviceTree.doubling

theorem darkStore_shows : sampleLed.Shows (darkStore.attributes .fresh) ⟨0, 0, 0⟩ := by
  have hshows (led : SysfsLed) : led.Shows (darkStore.attributes .fresh) 0 :=
    ⟨_, led.brightness_keeps _ 0 (by decide) (Or.inl rfl)⟩
  exact ⟨hshows _, hshows _, hshows _⟩

-- Status needs no red, and is not disturbed.
theorem status_unchanged : ∃ thrown after,
    (⟨.status, sampleLed⟩ : Indicator).setState greenFails .on .fresh = .error thrown after ∧
      ∀ other : Indicator, other.rgbLed = sampleLed → ∀ state,
        other.Reads (darkStore.attributes after) state ↔ other.Reads (darkStore.attributes .fresh) state := by
  refine ⟨_, _, rfl, ?_⟩
  obtain ⟨target, htarget, -, -, hsame⟩ := setState_throws greenFails darkStore .fresh _ ⟨.status, sampleLed⟩ .on
    ⟨0, 0, 0⟩ _ (by decide) darkStore_shows rfl
  obtain rfl := Option.some.inj htarget
  exact hsame.mpr (Or.inl (by decide))

-- Warning is red and green, and its red alone is Fault.
theorem warning_reads_fault : ∃ thrown after,
    (⟨.warning, sampleLed⟩ : Indicator).setState greenFails .on .fresh = .error thrown after ∧
      sampleLed.Shows (darkStore.attributes .fresh) ⟨0, 0, 0⟩ ∧
      (⟨.fault, sampleLed⟩ : Indicator).Reads (darkStore.attributes .fresh) .off ∧
      (⟨.fault, sampleLed⟩ : Indicator).Reads (darkStore.attributes after) .on ∧
      ¬(⟨.fault, sampleLed⟩ : Indicator).Reads (darkStore.attributes after) .off := by
  have hcount : doable greenFails Process.fresh.clock (sampleLed.writes (Indicator.code .warning)) = 1 := by decide
  obtain ⟨-, after, hshows, hrun⟩ := @setState_shows greenFails darkStore .fresh ⟨.warning, sampleLed⟩ .on _ _
    (by decide) darkStore_shows rfl
  have hshows' : sampleLed.Shows (darkStore.attributes after) (Indicator.code .fault) := by
    rw [hcount] at hshows
    exact hshows
  rw [hcount] at hrun
  obtain ⟨-, thrown, hthrown⟩ := hrun.resolve_left (by omega)
  refine ⟨thrown, after, hthrown, darkStore_shows, ?_, ?_, ?_⟩
  · exact (Indicator.reads_iff darkStore_shows rfl _).mpr (by decide)
  · exact (Indicator.reads_iff hshows' rfl _).mpr (by decide)
  · exact fun hoff => absurd ((Indicator.reads_iff hshows' rfl _).mp hoff) (by decide)

end Throws

end Codes

section Board

-- A board with one LED for all of its indicators.
structure MainBoard.SharesLed (board : MainBoard) (led : RGBLed) : Prop where
  indicator : ∀ indicatorType, ∃ indicator,
    board.indicators.find? (fun indicator => indicator.indicatorType = indicatorType) = some indicator ∧
      indicator.rgbLed = led
  distinct : led.Distinct

namespace MainBoard

def Reads (attributes : Attributes) (board : MainBoard) (indicatorType : IndicatorType) (state : IndicatorState) :
    Prop :=
  ∃ need, ∀ fuel ≥ need, board.indicatorState attributes indicatorType fuel = pure state

-- A call of set_indicator_state: whether it has returned, and what it has left.
def call (machine : Machine) (board : MainBoard) (request : IndicatorType × IndicatorState) (process : Process) :
    Bool × Process :=
  match board.setIndicatorState machine request.1 request.2 process with
  | .ok _ after => (true, after)
  | .error _ after => (false, after)

variable {machine : Machine} {store : Store} {board : MainBoard} {led : RGBLed}

theorem SharesLed.reads_iff (h : board.SharesLed led) {attributes : Attributes} {value : RGBLedValue}
    (hshows : led.Shows attributes value) (indicatorType : IndicatorType) (state : IndicatorState) :
    board.Reads attributes indicatorType state ↔ state = Indicator.reported value indicatorType := by
  obtain ⟨indicator, hfind, hled⟩ := h.indicator indicatorType
  have htype : indicator.indicatorType = indicatorType := by simpa using List.find?_some hfind
  have hreads : board.Reads attributes indicatorType state ↔ indicator.Reads attributes state := by
    unfold Reads indicatorState
    rw [hfind]
    rfl
  rw [hreads, Indicator.reads_iff hshows hled, htype]

-- The first write fails, or none.
def Openable (machine : Machine) (led : RGBLed) (process : Process) : Prop :=
  ∀ value, doable machine process.clock (led.writes value) = 0 ∨ doable machine process.clock (led.writes value) = 3

-- The LED has the colour that has been asked for, or the call throws and it has the old one.
theorem SharesLed.call_shows (h : board.SharesLed led) (request : IndicatorType × IndicatorState) {process : Process}
    {before : RGBLedValue} (hshows : led.Shows (store.attributes process) before)
    (hopen : Openable machine led process) :
    ∃ value, led.Shows (store.attributes (board.call machine request process).2) value ∧
      if (board.call machine request process).1 then value = (Indicator.requested request.1 request.2).getD before
      else value = before := by
  obtain ⟨indicator, hfind, rfl⟩ := h.indicator request.1
  have htype : indicator.indicatorType = request.1 := by simpa using List.find?_some hfind
  have hset : board.setIndicatorState machine request.1 request.2 = indicator.setState machine request.2 := by
    unfold setIndicatorState
    rw [hfind]
  unfold call
  rw [hset]
  cases htarget : Indicator.requested request.1 request.2 with
  | none =>
      rw [← htype] at htarget
      rw [indicator.setState_none machine htarget]
      exact ⟨before, hshows, rfl⟩
  | some target =>
      rw [← htype] at htarget
      obtain ⟨-, after, hafter, hrun⟩ := setState_shows machine store process h.distinct hshows htarget
      rcases hrun with ⟨hall, hrun⟩ | ⟨hsome, thrown, hrun⟩
      · rw [hall] at hafter
        rw [hrun]
        exact ⟨target, hafter, rfl⟩
      · rw [(hopen target).resolve_right (by omega)] at hafter
        rw [hrun]
        exact ⟨before, hafter, rfl⟩

-- The indicator that is to read On after a call that has returned.
def litAfter (lit : Option IndicatorType) (request : IndicatorType × IndicatorState) : Option IndicatorType :=
  match request.2 with
  | .on => some request.1
  | .off => if lit = some request.1 then none else lit
  | .notAvailable | .blinking => lit

structure Consistent (attributes : Attributes) (board : MainBoard) (lit : Option IndicatorType) : Prop where
  atMostOne : ∀ first second, board.Reads attributes first .on → board.Reads attributes second .on → first = second
  lit : ∀ indicatorType, lit = some indicatorType → board.Reads attributes indicatorType .on

def Unchanged (before after : Attributes) (board : MainBoard) : Prop :=
  ∀ indicatorType state, board.Reads after indicatorType state ↔ board.Reads before indicatorType state

-- Each call of the run leaves the indicators as they should be.
def Behaves (machine : Machine) (store : Store) (board : MainBoard) :
    Option IndicatorType → Process → List (IndicatorType × IndicatorState) → Prop
  | lit, process, [] => board.Consistent (store.attributes process) lit
  | lit, process, request :: requests =>
      let (returned, after) := board.call machine request process
      board.Consistent (store.attributes process) lit ∧
      (request.2 = .off → ¬board.Reads (store.attributes process) request.1 .on →
        board.Unchanged (store.attributes process) (store.attributes after)) ∧
      Behaves machine store board (if returned then litAfter lit request else lit) after requests

-- Off is only asked of the indicator that reads On, or while none does, and no call fails half way.
def Careful (machine : Machine) (store : Store) (board : MainBoard) (led : RGBLed) :
    Process → List (IndicatorType × IndicatorState) → Prop
  | _, [] => True
  | process, request :: requests =>
      Openable machine led process ∧
      (request.2 = .off → board.Reads (store.attributes process) request.1 .on ∨
        ∀ indicatorType, ¬board.Reads (store.attributes process) indicatorType .on) ∧
      Careful machine store board led (board.call machine request process).2 requests

section Runs

theorem SharesLed.reads_on_iff (h : board.SharesLed led) {attributes : Attributes} {value : RGBLedValue}
    (hshows : led.Shows attributes value) (indicatorType : IndicatorType) :
    board.Reads attributes indicatorType .on ↔ value = Indicator.code indicatorType := by
  rw [h.reads_iff hshows, eq_comm, Indicator.reported_eq_on_iff]

-- The LED has one colour, and no two indicators have the same.
theorem SharesLed.consistent (h : board.SharesLed led) {attributes : Attributes} {value : RGBLedValue}
    (hshows : led.Shows attributes value) (lit : Option IndicatorType)
    (hlit : ∀ indicatorType, lit = some indicatorType → value = Indicator.code indicatorType) :
    board.Consistent attributes lit where
  atMostOne first second hfirst hsecond := by
    rw [h.reads_on_iff hshows] at hfirst hsecond
    exact Indicator.code_injective (hfirst.symm.trans hsecond)
  lit indicatorType heq := (h.reads_on_iff hshows indicatorType).mpr (hlit indicatorType heq)

theorem not_coded_dark : ¬Coded ⟨0, 0, 0⟩ := by
  rintro ⟨indicatorType, hcode⟩
  cases indicatorType <;> exact absurd hcode (by decide)

theorem litAfter_code (lit : Option IndicatorType) (request : IndicatorType × IndicatorState) (before : RGBLedValue)
    (hlit : ∀ indicatorType, lit = some indicatorType → before = Indicator.code indicatorType)
    (hoff : request.2 = .off → before = Indicator.code request.1 ∨ ¬Coded before) (indicatorType : IndicatorType)
    (hafter : litAfter lit request = some indicatorType) :
    (Indicator.requested request.1 request.2).getD before = Indicator.code indicatorType := by
  obtain ⟨requested, state⟩ := request
  cases state with
  | on =>
      obtain rfl := Option.some.inj hafter
      rfl
  | off =>
      unfold litAfter at hafter
      dsimp only at hafter
      split_ifs at hafter with hsame
      have hbefore := hlit indicatorType hafter
      rcases hoff rfl with hon | hnone
      · have htype := Indicator.code_injective (hon.symm.trans hbefore)
        exact absurd (hafter.trans (congrArg some htype.symm)) hsame
      · exact absurd ⟨indicatorType, hbefore⟩ hnone
  | notAvailable | blinking => exact hlit indicatorType hafter

-- Where no indicator reads On, none does after Off.
theorem SharesLed.unchanged (h : board.SharesLed led) {before after : Attributes} {value later : RGBLedValue}
    (hbefore : led.Shows before value) (hafter : led.Shows after later)
    (hsame : later = value ∨ ¬Coded value ∧ ¬Coded later) : board.Unchanged before after := by
  intro indicatorType state
  rw [h.reads_iff hbefore, h.reads_iff hafter, (reported_same_iff value later).mpr hsame]

-- The colour of the LED is the invariant: it is that of the indicator that is to read On.
theorem behaves_of_careful (h : board.SharesLed led) (lit : Option IndicatorType) (process : Process)
    (value : RGBLedValue) (hshows : led.Shows (store.attributes process) value)
    (hlit : ∀ indicatorType, lit = some indicatorType → value = Indicator.code indicatorType)
    (requests : List (IndicatorType × IndicatorState)) (hcareful : board.Careful machine store led process requests) :
    board.Behaves machine store lit process requests := by
  induction requests generalizing lit process value with
  | nil => exact h.consistent hshows lit hlit
  | cons request requests ih =>
      obtain ⟨hopen, hoff, hrest⟩ := hcareful
      have hcalm : request.2 = .off → value = Indicator.code request.1 ∨ ¬Coded value := by
        intro hstate
        rcases hoff hstate with hon | hnone
        · exact Or.inl ((h.reads_on_iff hshows request.1).mp hon)
        · right
          rintro ⟨indicatorType, hcode⟩
          exact hnone indicatorType ((h.reads_on_iff hshows indicatorType).mpr hcode)
      obtain ⟨later, hlater, hvalue⟩ := h.call_shows request hshows hopen
      have hnext : ∀ indicatorType,
          (if (board.call machine request process).1 then litAfter lit request else lit) = some indicatorType →
            later = Indicator.code indicatorType := by
        by_cases hreturned : (board.call machine request process).1 = true
        · rw [if_pos hreturned] at hvalue ⊢
          rw [hvalue]
          exact litAfter_code lit request value hlit hcalm
        · rw [if_neg hreturned] at hvalue ⊢
          rw [hvalue]
          exact hlit
      have hframe (hstate : request.2 = .off) (hnotOn : ¬board.Reads (store.attributes process) request.1 .on) :
          later = value ∨ ¬Coded value ∧ ¬Coded later := by
        have hnone := (hcalm hstate).resolve_left ((h.reads_on_iff hshows request.1).not.mp hnotOn)
        by_cases hreturned : (board.call machine request process).1 = true
        · rw [if_pos hreturned, hstate] at hvalue
          rw [hvalue]
          exact Or.inr ⟨hnone, not_coded_dark⟩
        · rw [if_neg hreturned] at hvalue
          exact Or.inl hvalue
      exact ⟨h.consistent hshows lit hlit, fun hstate hnotOn => h.unchanged hshows hlater (hframe hstate hnotOn),
        ih _ _ later hlater hnext hrest⟩

-- In a run of careful calls no indicator disturbs another.
theorem indicators_undisturbed (h : board.SharesLed led) (process : Process) (value : RGBLedValue)
    (hshows : led.Shows (store.attributes process) value) (requests : List (IndicatorType × IndicatorState))
    (hcareful : board.Careful machine store led process requests) : board.Behaves machine store none process requests :=
  behaves_of_careful h none process value hshows nofun requests hcareful

end Runs

section Samples

-- As RGBIndicatorProvider makes it.
def sampleBoard : MainBoard :=
  ⟨[⟨.fault, sampleLed⟩, ⟨.maintenance, sampleLed⟩, ⟨.status, sampleLed⟩, ⟨.warning, sampleLed⟩]⟩

theorem sampleBoard_sharesLed : sampleBoard.SharesLed sampleLed where
  indicator indicatorType := by cases indicatorType <;> exact ⟨_, rfl, rfl⟩
  distinct := by decide

theorem openable_sampleMachine (led : RGBLed) (process : Process) : Openable sampleMachine led process :=
  fun _ => Or.inr rfl

-- The two calls of the constructor of MainBoard.
theorem constructor_behaves :
    sampleBoard.Behaves sampleMachine darkStore none .fresh [(.status, .off), (.status, .on)] := by
  apply indicators_undisturbed sampleBoard_sharesLed .fresh ⟨0, 0, 0⟩ darkStore_shows
  refine ⟨openable_sampleMachine _ _, fun _ => Or.inr fun indicatorType hon => ?_, openable_sampleMachine _ _, nofun,
    trivial⟩
  exact not_coded_dark ⟨indicatorType, (sampleBoard_sharesLed.reads_on_iff darkStore_shows indicatorType).mp hon⟩

-- Status is set On, and Warning, which does not read On, is set Off.
theorem off_disturbs :
    ¬sampleBoard.Behaves sampleMachine darkStore none .fresh [(.status, .on), (.warning, .off)] := by
  rintro ⟨-, -, -, hframe, -⟩
  obtain ⟨first, hfirst, hstatus⟩ := sampleBoard_sharesLed.call_shows (.status, .on) darkStore_shows
    (openable_sampleMachine _ _ : Openable sampleMachine sampleLed .fresh)
  obtain ⟨second, hsecond, hdark⟩ := sampleBoard_sharesLed.call_shows (.warning, .off) hfirst
    (openable_sampleMachine sampleLed _)
  obtain rfl : first = Indicator.code .status := hstatus
  obtain rfl : second = ⟨0, 0, 0⟩ := hdark
  have hwarning := (sampleBoard_sharesLed.reads_on_iff hfirst .warning).not.mpr (by decide)
  have hlater := (hframe rfl hwarning .status .on).mpr
    ((sampleBoard_sharesLed.reads_on_iff hfirst .status).mpr rfl)
  exact absurd ((sampleBoard_sharesLed.reads_on_iff hsecond .status).mp hlater) (by decide)

end Samples

end MainBoard

end Board

end HhctrlMgmt.Platform
