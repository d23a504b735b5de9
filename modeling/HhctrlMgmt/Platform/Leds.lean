import HhctrlMgmt.Platform.Attributes

namespace HhctrlMgmt.Platform

open Common Reading

-- What reading a brightness can throw; std::stoi also throws std::out_of_range.
inductive LedExn where
  | thrown (error : Exn)
  | outOfRange (what : String)
deriving DecidableEq

section Stoi

def isDigit (byte : UInt8) : Bool :=
  48 ≤ byte && byte ≤ 57

-- The sign of a number, and what follows it.
def takeSign : Bytes → Bool × Bytes
  | 43 :: rest => (false, rest)
  | 45 :: rest => (true, rest)
  | text => (false, text)

def digitsValue (digits : Bytes) : Nat :=
  digits.foldl (fun value digit => 10 * value + (digit.toNat - 48)) 0

def IsInt (value : Int) : Prop :=
  -2147483648 ≤ value ∧ value ≤ 2147483647

instance (value : Int) : Decidable (IsInt value) :=
  inferInstanceAs (Decidable (_ ∧ _))

def signedValue (negative : Bool) (digits : Bytes) : Int :=
  if negative then -digitsValue digits else digitsValue digits

def ofDigits (negative : Bool) (digits : Bytes) : Except LedExn Int :=
  if digits = [] then .error (.thrown (.invalidArgument "stoi"))
  else if IsInt (signedValue negative digits) then .ok (signedValue negative digits)
  else .error (.outOfRange "stoi")

-- std::stoi: what follows the digits is not looked at.
def stoi (text : Bytes) : Except LedExn Int :=
  let signed := takeSign (text.dropWhile isSpace)
  ofDigits signed.1 (signed.2.takeWhile isDigit)

theorem decimal_nat (value : Nat) :
    decimal value = (Nat.toDigits 10 value).map fun c => c.toNat.toUInt8 := by
  have hdigits : (toString (value : Int)).toList = Nat.toDigits 10 value := Nat.toList_repr
  unfold decimal ascii
  rw [hdigits]

theorem decimal_negSucc (value : Nat) : decimal (Int.negSucc value) = 45 :: decimal (value + 1 : Nat) := by
  have hsign : toString (Int.negSucc value) = "-" ++ toString ((value + 1 : Nat) : Int) := rfl
  unfold decimal
  rw [hsign, ascii_append]
  rfl

theorem toNat_of_mem_toDigits (value : Nat) (c : Char) (hc : c ∈ Nat.toDigits 10 value) :
    c.toNat.toUInt8.toNat = c.toNat ∧ 48 ≤ c.toNat ∧ c.toNat ≤ 57 := by
  have hdigit := Nat.isDigit_of_mem_toDigits (by omega) (by omega) hc
  simp only [Char.isDigit, ge_iff_le, Bool.and_eq_true, decide_eq_true_eq] at hdigit
  have hlow : 48 ≤ c.toNat := hdigit.1
  have hhigh : c.toNat ≤ 57 := hdigit.2
  exact ⟨Nat.mod_eq_of_lt (by omega), hlow, hhigh⟩

theorem isDigit_of_mem_decimal (value : Nat) (byte : UInt8) (hbyte : byte ∈ decimal value) : isDigit byte = true := by
  rw [decimal_nat] at hbyte
  obtain ⟨c, hc, rfl⟩ := List.mem_map.mp hbyte
  obtain ⟨hsame, hlow, hhigh⟩ := toNat_of_mem_toDigits value c hc
  unfold isDigit
  rw [Bool.and_eq_true, decide_eq_true_iff, decide_eq_true_iff, UInt8.le_iff_toNat_le, UInt8.le_iff_toNat_le, hsame]
  exact ⟨hlow, hhigh⟩

theorem digitsValue_decimal (value : Nat) : digitsValue (decimal value) = value := by
  unfold digitsValue
  rw [decimal_nat, List.foldl_map]
  have hsame : (Nat.toDigits 10 value).foldl (fun value c => 10 * value + (c.toNat.toUInt8.toNat - 48)) 0 =
      Nat.ofDigitChars 10 (Nat.toDigits 10 value) 0 := by
    rw [Nat.ofDigitChars_eq_foldl]
    apply List.foldl_ext
    intro sofar c hc
    rw [(toNat_of_mem_toDigits value c hc).1]
    rfl
  rw [hsame, Nat.ofDigitChars_ten_toDigits]

theorem decimal_ne_nil (value : Int) : decimal value ≠ [] := by
  cases value with
  | ofNat value =>
      show decimal (value : Int) ≠ []
      rw [decimal_nat]
      simp
  | negSucc value =>
      rw [decimal_negSucc]
      exact List.cons_ne_nil _ _

theorem takeSign_digit (digit : UInt8) (rest : Bytes) (hdigit : isDigit digit = true) :
    takeSign (digit :: rest) = (false, digit :: rest) := by
  unfold takeSign
  split
  · rename_i heq
    obtain ⟨rfl, -⟩ := List.cons.inj heq
    exact absurd hdigit (by decide)
  · rename_i heq
    obtain ⟨rfl, -⟩ := List.cons.inj heq
    exact absurd hdigit (by decide)
  · rfl

theorem isSpace_of_mem_decimal (value : Int) (byte : UInt8) (hbyte : byte ∈ decimal value) : isSpace byte = false := by
  have hlow := (mem_decimal value byte hbyte).1
  unfold isSpace
  rw [decide_eq_false_iff_not, UInt8.le_iff_toNat_le, UInt8.le_iff_toNat_le]
  rintro (rfl | ⟨-, hhigh⟩)
  · exact absurd hlow (by decide)
  · have hthirteen : (13 : UInt8).toNat = 13 := rfl
    omega

-- stoi reads back what operator<< has printed.
theorem stoi_decimal (value : Int) (hvalue : IsInt value) : stoi (decimal value) = .ok value := by
  have hdigits (value : Nat) : (decimal value).takeWhile isDigit = decimal value :=
    List.takeWhile_eq_self_iff.mpr (isDigit_of_mem_decimal value)
  have hspace : (decimal value).dropWhile isSpace = decimal value := by
    rw [List.dropWhile_eq_self_iff]
    intro hlength
    rw [isSpace_of_mem_decimal value _ (List.getElem_mem hlength)]
    exact Bool.false_ne_true
  have hread (negative : Bool) (digits : Nat) (hsign : takeSign (decimal value) = (negative, decimal digits))
      (hsigned : (if negative then -(digits : Int) else digits) = value) : stoi (decimal value) = .ok value := by
    have hsignedValue : signedValue negative (decimal digits) = value := by
      unfold signedValue
      rw [digitsValue_decimal, hsigned]
    unfold stoi ofDigits
    rw [hspace, hsign]
    dsimp only
    rw [hdigits, if_neg (decimal_ne_nil digits), hsignedValue, if_pos hvalue]
  cases value with
  | ofNat value =>
      apply hread false value _ rfl
      obtain ⟨digit, rest, hcons⟩ := List.exists_cons_of_ne_nil (decimal_ne_nil value)
      have hdigit := isDigit_of_mem_decimal value digit (by rw [hcons]; exact List.mem_cons_self)
      show takeSign (decimal (value : Int)) = (false, decimal (value : Int))
      rw [hcons]
      exact takeSign_digit digit rest hdigit
  | negSucc value =>
      apply hread true (value + 1) _ rfl
      rw [decimal_negSucc]
      rfl

end Stoi

section Leds

-- What is read from the attributes; `none` is one that cannot be opened.
abbrev Attributes := Bytes → Option Bytes

-- `none` if the fuel has run out.
abbrev LedM := ExceptT LedExn Option

structure RGBLedValue where
  red : Int
  green : Int
  blue : Int
deriving DecidableEq

def SysfsLed.path (led : SysfsLed) : Bytes :=
  joinPath led.sysfsdir (ascii "brightness")

def SysfsLed.brightness (attributes : Attributes) (led : SysfsLed) (fuel : Nat) : LedM Int := do
  let attr ← ExceptT.mk ((readAttr (text led.path) ((attributes led.path).map fileOf) fuel).map (·.mapError .thrown))
  ExceptT.mk (some (stoi attr))

def RGBLed.brightness (attributes : Attributes) (led : RGBLed) (fuel : Nat) : LedM RGBLedValue := do
  let red ← led.red.brightness attributes fuel
  let green ← led.green.brightness attributes fuel
  let blue ← led.blue.brightness attributes fuel
  return ⟨red, green, blue⟩

-- An attribute that keeps the text that has been written to it, with or without a newline.
def Keeps (attributes : Attributes) (path : Bytes) (value : Int) : Prop :=
  attributes path = some (decimal value) ∨ attributes path = some (decimal value ++ [10])

-- A newline after a number is not part of the last word.
theorem lastWord_decimal (value : Int) (newline word : Bytes) (hnewline : newline = [] ∨ newline = [10])
    (hword : LastWord [] (decimal value ++ newline) word) : word = decimal value := by
  have hspace : ∀ byte ∈ newline, isSpace byte = true := by
    rcases hnewline with rfl | rfl
    · exact nofun
    · intro byte hbyte
      rw [List.mem_singleton.mp hbyte]
      rfl
  rw [hword.eq, List.reverse_append, ← List.append_nil (newline.reverse ++ _), firstWord_append, List.reverse_reverse]
  · exact List.reverse_ne_nil_iff.mpr (decimal_ne_nil value)
  · simpa using hspace
  · intro byte hbyte
    exact isSpace_of_mem_decimal value byte (List.mem_reverse.mp hbyte)
  · exact nofun

theorem SysfsLed.brightness_keeps (attributes : Attributes) (led : SysfsLed) (value : Int) (hvalue : IsInt value)
    (hkeeps : Keeps attributes led.path value) (fuel : Nat) (hfuel : (decimal value).length + 3 ≤ fuel) :
    led.brightness attributes fuel = pure value := by
  obtain ⟨newline, hnewline, hcontent⟩ :
      ∃ newline : Bytes, (newline = [] ∨ newline = [10]) ∧ attributes led.path = some (decimal value ++ newline) := by
    rcases hkeeps with hplain | hline
    · exact ⟨[], Or.inl rfl, by rw [hplain, List.append_nil]⟩
    · exact ⟨[10], Or.inr rfl, hline⟩
  have hlength : newline.length ≤ 1 := by
    rcases hnewline with rfl | rfl
    · exact Nat.zero_le 1
    · exact Nat.le_refl 1
  obtain ⟨word, hread, hword⟩ := readAttr_lastWord (text led.path) (decimal value ++ newline) fuel
    (by rw [List.length_append]; omega)
  rw [lastWord_decimal value newline word hnewline hword] at hread
  unfold SysfsLed.brightness
  rw [hcontent, Option.map_some, hread]
  show ExceptT.mk (some (stoi (decimal value))) = _
  rw [stoi_decimal value hvalue]
  rfl

theorem RGBLed.brightness_keeps (attributes : Attributes) (led : RGBLed) (value : RGBLedValue)
    (hred : IsInt value.red) (hgreen : IsInt value.green) (hblue : IsInt value.blue)
    (hkeepsRed : Keeps attributes led.red.path value.red) (hkeepsGreen : Keeps attributes led.green.path value.green)
    (hkeepsBlue : Keeps attributes led.blue.path value.blue) (fuel : Nat)
    (hfuel : (decimal value.red).length + (decimal value.green).length + (decimal value.blue).length + 3 ≤ fuel) :
    led.brightness attributes fuel = pure value := by
  unfold RGBLed.brightness
  rw [led.red.brightness_keeps attributes value.red hred hkeepsRed fuel (by omega), pure_bind,
    led.green.brightness_keeps attributes value.green hgreen hkeepsGreen fuel (by omega), pure_bind,
    led.blue.brightness_keeps attributes value.blue hblue hkeepsBlue fuel (by omega), pure_bind]

end Leds

section Writes

variable (machine : Machine)

theorem writeAttr_eq (path : Bytes) (value : Int) (process : Process) :
    writeAttr machine path value process =
      if (machine.files process.clock).writable path then
        .ok () { process with clock := process.clock + 1, written := process.written ++ [(path, value)] }
      else .error (.runtimeError ("Attribute does not exist. Path: " ++ text path))
        { process with clock := process.clock + 1 } := by
  unfold writeAttr
  show (if (!(machine.files process.clock).writable path) = true then _ else _ : Init Unit)
    { process with clock := process.clock + 1 } = _
  cases (machine.files process.clock).writable path with
  | true => rfl
  | false => rfl

def writeAll : List (Bytes × Int) → Init Unit
  | [] => return ()
  | (path, value) :: rest => do
    writeAttr machine path value
    writeAll rest

-- How many of these writes can be done, one after the other.
def doable (clock : Nat) : List (Bytes × Int) → Nat
  | [] => 0
  | (path, _) :: rest => if (machine.files clock).writable path then doable (clock + 1) rest + 1 else 0

theorem doable_le (clock : Nat) (writes : List (Bytes × Int)) : doable machine clock writes ≤ writes.length := by
  induction writes generalizing clock with
  | nil => exact Nat.le_refl 0
  | cons write rest ih =>
      have hrest := ih (clock + 1)
      unfold doable
      rw [List.length_cons]
      split_ifs
      · omega
      · omega

-- What has been done after so many writes.
def Process.withWrites (process : Process) (clock : Nat) (writes : List (Bytes × Int)) : Process :=
  { process with clock := clock, written := process.written ++ writes }

-- The writes before the first that fails are done, and that one is reported.
theorem writeAll_eq (writes : List (Bytes × Int)) (process : Process) :
    ∃ clock, let after := process.withWrites clock (writes.take (doable machine process.clock writes))
      doable machine process.clock writes = writes.length ∧ writeAll machine writes process = .ok () after ∨
      doable machine process.clock writes < writes.length ∧
        ∃ thrown, writeAll machine writes process = .error thrown after := by
  induction writes generalizing process with
  | nil =>
      refine ⟨process.clock, Or.inl ⟨rfl, ?_⟩⟩
      rw [List.take_nil, Process.withWrites, List.append_nil]
      rfl
  | cons write rest ih =>
      obtain ⟨path, value⟩ := write
      have hfirst := writeAttr_eq machine path value process
      have hrun : writeAll machine ((path, value) :: rest) process =
          EStateM.bind (writeAttr machine path value) (fun _ => writeAll machine rest) process := rfl
      unfold doable
      rw [hrun]
      unfold EStateM.bind
      by_cases hwritable : (machine.files process.clock).writable path = true
      · rw [if_pos hwritable] at hfirst ⊢
        obtain ⟨clock, hrest⟩ :=
          ih { process with clock := process.clock + 1, written := process.written ++ [(path, value)] }
        refine ⟨clock, ?_⟩
        rw [hfirst]
        simp only [Process.withWrites, List.take_succ_cons, List.length_cons, Nat.add_right_cancel_iff,
          Nat.add_lt_add_iff_right, List.append_assoc, List.singleton_append] at hrest ⊢
        exact hrest
      · rw [if_neg hwritable] at hfirst ⊢
        refine ⟨process.clock + 1, Or.inr ⟨Nat.succ_pos _, ?_⟩⟩
        rw [hfirst, List.take_zero, Process.withWrites, List.append_nil]
        exact ⟨_, rfl⟩

-- The writes of RGBLed::set_brightness.
def RGBLed.writes (led : RGBLed) (value : RGBLedValue) : List (Bytes × Int) :=
  [(led.red.path, value.red), (led.green.path, value.green), (led.blue.path, value.blue)]

theorem RGBLed.setBrightness_eq (led : RGBLed) (value : RGBLedValue) :
    led.setBrightness machine value.red value.green value.blue = writeAll machine (led.writes value) := by
  have hlast : writeAll machine [(led.blue.path, value.blue)] = writeAttr machine led.blue.path value.blue :=
    bind_pure_unit
  unfold RGBLed.writes writeAll writeAll
  rw [hlast]
  rfl

end Writes

-- A read of an attribute comes to its last word, and so the brightness of a LED to what has been
-- set, if the attributes keep that.
theorem leds_read_back :
    (∀ (path : String) (content : Bytes) (fuel : Nat), content.length + 2 ≤ fuel →
      ∃ word, readAttr path (some (fileOf content)) fuel = some (.ok word) ∧ LastWord [] content word) ∧
    ∀ (machine : Machine) (led : RGBLed) (value : RGBLedValue) (process after : Process) (attributes : Attributes)
      (fuel : Nat), IsInt value.red → IsInt value.green → IsInt value.blue →
      led.setBrightness machine value.red value.green value.blue process = .ok () after →
      (∀ write ∈ after.written.drop process.written.length, Keeps attributes write.1 write.2) →
      (decimal value.red).length + (decimal value.green).length + (decimal value.blue).length + 3 ≤ fuel →
      led.brightness attributes fuel = pure value := by
  refine ⟨readAttr_lastWord, ?_⟩
  intro machine led value process after attributes fuel hred hgreen hblue hset hkeeps hfuel
  have hwritten : after.written = process.written ++ led.writes value := by
    rw [led.setBrightness_eq machine value] at hset
    obtain ⟨clock, ⟨hall, hrun⟩ | ⟨-, thrown, hrun⟩⟩ := writeAll_eq machine (led.writes value) process
    · rw [hrun, hall, List.take_length] at hset
      injection hset with _ hafter
      rw [← hafter]
      rfl
    · rw [hrun] at hset
      cases hset
  rw [hwritten, List.drop_left] at hkeeps
  exact led.brightness_keeps attributes value hred hgreen hblue
    (hkeeps (led.red.path, value.red) (by simp [RGBLed.writes]))
    (hkeeps (led.green.path, value.green) (by simp [RGBLed.writes]))
    (hkeeps (led.blue.path, value.blue) (by simp [RGBLed.writes])) fuel hfuel

section Samples

def sampleLed : RGBLed :=
  ⟨⟨ascii "/red"⟩, ⟨ascii "/green"⟩, ⟨ascii "/blue"⟩⟩

-- The green attribute is read without a newline.
def sampleAttributes (path : Bytes) : Option Bytes :=
  if path = sampleLed.red.path then some (decimal (-5) ++ [10])
  else if path = sampleLed.green.path then some (decimal 0)
  else some (decimal 255 ++ [10])

theorem sampleLed_reads_back : sampleLed.brightness sampleAttributes
    ((decimal (-5)).length + (decimal 0).length + (decimal 255).length + 3) = pure ⟨-5, 0, 255⟩ := by
  apply leds_read_back.2 sampleMachine sampleLed ⟨-5, 0, 255⟩ .fresh _ sampleAttributes _ (by decide) (by decide)
    (by decide) rfl _ (Nat.le_refl _)
  intro write hwrite
  have hwrites : write ∈ sampleLed.writes ⟨-5, 0, 255⟩ := hwrite
  simp only [RGBLed.writes, List.mem_cons, List.not_mem_nil, or_false] at hwrites
  rcases hwrites with rfl | rfl | rfl
  · exact Or.inr (if_pos rfl)
  · exact Or.inl ((if_neg (by decide)).trans (if_pos rfl))
  · exact Or.inr ((if_neg (by decide)).trans (if_neg (by decide)))

end Samples

end HhctrlMgmt.Platform
