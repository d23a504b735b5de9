import Mathlib.Data.List.Basic
import Std.Data.String.ToInt
import HhctrlMgmt.Common.Exception

namespace HhctrlMgmt.Common

-- The characters of the bytes of a text whose characters are one byte wide.
theorem ascii_chars (text : String) (htext : ∀ c ∈ text.toList, c.toNat < 256) :
    (ascii text).map (fun byte => Char.ofNat byte.toNat) = text.toList := by
  rw [ascii, List.map_map]
  conv => rhs; rw [← List.map_id text.toList]
  apply List.map_congr_left
  intro c hc
  have hbyte : c.toNat.toUInt8.toNat = c.toNat := Nat.mod_eq_of_lt (htext c hc)
  simp only [Function.comp_apply, id_eq, hbyte, Char.ofNat_toNat]

theorem ascii_append (first second : String) : ascii (first ++ second) = ascii first ++ ascii second := by
  simp only [ascii, String.toList_append, List.map_append]

-- How fmt prints an integer.
def decimal (value : Int) : Bytes :=
  ascii (toString value)

theorem mem_toString_nat (value : Nat) (c : Char) (hc : c ∈ (toString value).toList) : c.isDigit := by
  have hdigits : (toString value).toList = Nat.toDigits 10 value := Nat.toList_repr
  rw [hdigits] at hc
  exact Nat.isDigit_of_mem_toDigits (by omega) (by omega) hc

theorem mem_toString_int (value : Int) (c : Char) (hc : c ∈ (toString value).toList) : c.isDigit ∨ c = '-' := by
  cases value with
  | ofNat value => exact Or.inl (mem_toString_nat value c hc)
  | negSucc value =>
      have hsign : (toString (Int.negSucc value)).toList = '-' :: (toString (value + 1)).toList := by
        show ("-" ++ toString (value + 1)).toList = _
        simp
      rw [hsign] at hc
      rcases List.mem_cons.mp hc with hminus | hdigit
      · exact Or.inr hminus
      · exact Or.inl (mem_toString_nat (value + 1) c hdigit)

theorem toNat_lt_of_isDigit (c : Char) (hc : c.isDigit ∨ c = '-') : 45 ≤ c.toNat ∧ c.toNat ≤ 57 ∧ c.toNat ≠ 47 := by
  rcases hc with hdigit | rfl
  · simp only [Char.isDigit, ge_iff_le, Bool.and_eq_true, decide_eq_true_eq] at hdigit
    have hlow : 48 ≤ c.toNat := hdigit.1
    have hhigh : c.toNat ≤ 57 := hdigit.2
    omega
  · decide

theorem decimal_injective : Function.Injective decimal := by
  intro first second heq
  have hchars : ∀ value : Int, ∀ c ∈ (toString value).toList, c.toNat < 256 := by
    intro value c hc
    have hrange := toNat_lt_of_isDigit c (mem_toString_int value c hc)
    omega
  have htext : (toString first).toList = (toString second).toList := by
    rw [← ascii_chars _ (hchars first), ← ascii_chars _ (hchars second)]
    exact congrArg _ heq
  exact Int.repr_injective (String.toList_injective htext)

-- A printed integer is made of digits and of the sign, 45.
theorem mem_decimal (value : Int) (byte : UInt8) (hbyte : byte ∈ decimal value) :
    45 ≤ byte.toNat ∧ byte.toNat ≤ 57 ∧ byte.toNat ≠ 47 := by
  obtain ⟨c, hc, rfl⟩ := List.mem_map.mp hbyte
  have hrange := toNat_lt_of_isDigit c (mem_toString_int value c hc)
  have hsame : c.toNat.toUInt8.toNat = c.toNat := Nat.mod_eq_of_lt (by omega)
  rw [hsame]
  exact hrange

theorem underscore_notMem_decimal (value : Int) : 95 ∉ decimal value := by
  intro hmem
  have hrange := mem_decimal value 95 hmem
  have h95 : (95 : UInt8).toNat = 95 := rfl
  omega

theorem slash_notMem_decimal (value : Int) : 47 ∉ decimal value := by
  intro hmem
  exact (mem_decimal value 47 hmem).2.2 rfl

-- Where a text is split at a mark, and also at the first mark of it.
theorem append_mark_cases {mark : UInt8} {front rest first later : Bytes} (hfirst : mark ∉ first)
    (heq : front ++ mark :: rest = first ++ mark :: later) :
    (front = first ∧ rest = later) ∨ ∃ more, front = first ++ mark :: more ∧ later = more ++ mark :: rest := by
  rcases List.append_eq_append_iff.mp heq with ⟨between, rfl, hrest⟩ | ⟨between, rfl, hlater⟩
  · cases between with
    | nil => exact .inl ⟨(List.append_nil front).symm, (List.cons.inj hrest).2⟩
    | cons byte between =>
        obtain ⟨rfl, -⟩ := List.cons.inj hrest
        exact absurd (List.mem_append_right front List.mem_cons_self) hfirst
  · cases between with
    | nil => exact .inl ⟨List.append_nil first, (List.cons.inj hlater).2.symm⟩
    | cons byte between =>
        obtain ⟨rfl, rfl⟩ := List.cons.inj hlater
        exact .inr ⟨between, rfl, rfl⟩

-- A text is split at its last mark in one way only.
theorem append_last_mark_inj {mark : UInt8} {front rest other otherRest : Bytes} (hrest : mark ∉ rest)
    (hother : mark ∉ otherRest) (heq : front ++ mark :: rest = other ++ mark :: otherRest) :
    front = other ∧ rest = otherRest := by
  rcases List.append_eq_append_iff.mp heq with ⟨between, rfl, hsplit⟩ | ⟨between, rfl, hsplit⟩
  · cases between with
    | nil => exact ⟨(List.append_nil front).symm, (List.cons.inj hsplit).2⟩
    | cons byte between =>
        obtain ⟨-, rfl⟩ := List.cons.inj hsplit
        exact absurd (List.mem_append_right between List.mem_cons_self) hrest
  · cases between with
    | nil => exact ⟨List.append_nil other, (List.cons.inj hsplit).2.symm⟩
    | cons byte between =>
        obtain ⟨-, rfl⟩ := List.cons.inj hsplit
        exact absurd (List.mem_append_right between List.mem_cons_self) hother

-- The last byte of a text that goes on after a mark.
theorem getLast_append_mark {mark last : UInt8} {front rest : Bytes} (hmark : mark ≠ last)
    (hlast : (front ++ mark :: rest).getLast? = some last) : rest.getLast? = some last := by
  cases rest with
  | nil =>
      rw [List.getLast?_concat] at hlast
      exact absurd (Option.some.inj hlast) hmark
  | cons byte rest =>
      rw [List.getLast?_append_of_ne_nil front (List.cons_ne_nil mark _)] at hlast
      exact hlast

-- What starts with a word of a prefix-free list starts with no other word of it.
theorem append_inj_of_prefixFree {words : List Bytes}
    (hfree : ∀ word ∈ words, ∀ other ∈ words, word <+: other → word = other) {word other : Bytes}
    (hword : word ∈ words) (hother : other ∈ words) {rest otherRest : Bytes}
    (heq : word ++ rest = other ++ otherRest) : word = other ∧ rest = otherRest := by
  have hprefix : word <+: other ++ otherRest := heq ▸ List.prefix_append word rest
  have hsame : word = other := by
    rcases List.prefix_or_prefix_of_prefix hprefix (List.prefix_append other otherRest) with hle | hge
    · exact hfree word hword other hother hle
    · exact (hfree other hother word hword hge).symm
  rw [hsame] at heq
  exact ⟨hsame, List.append_cancel_left heq⟩

end HhctrlMgmt.Common
