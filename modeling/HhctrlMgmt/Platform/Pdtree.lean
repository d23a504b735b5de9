import HhctrlMgmt.Platform.Startup
import Mathlib.Data.List.TakeWhile

namespace HhctrlMgmt.Platform

open Common

theorem isSpace_of_mem_firstWord {bytes : Bytes} {byte : UInt8} (hbyte : byte ∈ firstWord bytes) :
    isSpace byte = false := by
  have hword : (!isSpace byte) = true := @List.mem_takeWhile_imp _ (fun byte => !isSpace byte) _ byte hbyte
  simpa using hword

-- operator>> skips and stops at white space, and so keeps a text only if it has none.
theorem firstWord_eq_self_iff (bytes : Bytes) : firstWord bytes = bytes ↔ ∀ byte ∈ bytes, isSpace byte = false := by
  constructor
  · intro hsame byte hbyte
    rw [← hsame] at hbyte
    exact isSpace_of_mem_firstWord hbyte
  · intro hword
    have hstart : bytes.dropWhile isSpace = bytes := by
      rw [List.dropWhile_eq_self_iff]
      intro hlength
      rw [hword _ (List.getElem_mem hlength)]
      exact Bool.false_ne_true
    unfold firstWord
    rw [hstart, List.takeWhile_eq_self_iff]
    intro byte hbyte
    rw [hword byte hbyte]
    rfl

theorem cStr_eq_self (bytes : Bytes) (hnul : 0 ∉ bytes) : cStr bytes = bytes := by
  unfold cStr
  rw [List.takeWhile_eq_self_iff]
  rintro byte hbyte
  apply decide_eq_true
  rintro rfl
  exact hnul hbyte

section Readers

variable (machine : Machine) {object : Object} {key value : Bytes}

theorem objectAt_eq (hvalue : object.lookup key = some (.string value)) :
    objectAt machine object key = return .string value := by
  unfold objectAt
  rw [hvalue]

theorem pdtreeToString_eq (hvalue : object.lookup key = some (.string value)) (hnul : 0 ∉ value) :
    (objectAt machine object key >>= pdtreeToString machine) = return value := by
  rw [objectAt_eq machine hvalue, pure_bind]
  show (return cStr value : Init Bytes) = _
  rw [cStr_eq_self value hnul]

theorem pdtreeGet_eq (hvalue : object.lookup key = some (.string value)) (hnul : 0 ∉ value) :
    pdtreeGet machine object key =
      if firstWord value = [] then throw (.runtimeError ("Cannot read property '" ++ text key ++ "' from pdtree"))
      else return firstWord value := by
  have hcontains : object.contains key = true := by
    rw [Object.contains_iff, hvalue]
    exact nofun
  unfold pdtreeGet
  rw [hcontains, objectAt_eq machine hvalue]
  show (if firstWord (cStr value) = [] then _ else _) = _
  rw [cStr_eq_self value hnul]
  rfl

-- The two readers of a string agree on one word without white space around it, and on nothing
-- else.
theorem pdtreeGet_agrees_iff (process : Process) (hvalue : object.lookup key = some (.string value))
    (hnul : 0 ∉ value) :
    pdtreeGet machine object key process = (objectAt machine object key >>= pdtreeToString machine) process ↔
      value ≠ [] ∧ ∀ byte ∈ value, isSpace byte = false := by
  rw [pdtreeGet_eq machine hvalue hnul, pdtreeToString_eq machine hvalue hnul]
  by_cases hword : firstWord value = []
  · rw [if_pos hword]
    apply iff_of_false nofun
    rintro ⟨hvalue, hspaces⟩
    rw [(firstWord_eq_self_iff value).mpr hspaces] at hword
    exact hvalue hword
  · rw [if_neg hword, ← firstWord_eq_self_iff]
    constructor
    · intro hsame
      have hvalues : firstWord value = value := by injection hsame
      exact ⟨fun hempty => hword (hvalues.trans hempty), hvalues⟩
    · rintro ⟨-, hvalues⟩
      rw [hvalues]

-- The path of a hatch, in a directory that has a space in its name and in one that has not.
def hatchObject (sysfsPath : String) : Object :=
  [(ascii "sysfs_path", .string (ascii sysfsPath))]

theorem pdtreeGet_agrees_word :
    pdtreeGet sampleMachine (hatchObject "/sys/hatch") (ascii "sysfs_path") .fresh =
      (objectAt sampleMachine (hatchObject "/sys/hatch") (ascii "sysfs_path") >>=
        pdtreeToString sampleMachine) .fresh := by
  apply (@pdtreeGet_agrees_iff sampleMachine _ _ (ascii "/sys/hatch") .fresh rfl (by decide)).mpr
  refine ⟨by decide, fun byte hbyte => ?_⟩
  have hword : (ascii "/sys/hatch").all (fun byte => !isSpace byte) = true := by decide
  simpa using List.all_eq_true.mp hword byte hbyte

theorem pdtreeGet_disagrees :
    ¬∀ (machine : Machine) (process : Process) (object : Object) (key value : Bytes),
      object.lookup key = some (.string value) → 0 ∉ value →
        pdtreeGet machine object key process = (objectAt machine object key >>= pdtreeToString machine) process := by
  intro hagree
  have hsame := hagree sampleMachine .fresh (hatchObject "/sys/my led") (ascii "sysfs_path") (ascii "/sys/my led")
    rfl (by decide)
  have hfirst : pdtreeGet sampleMachine (hatchObject "/sys/my led") (ascii "sysfs_path") .fresh =
      .ok (ascii "/sys/my") .fresh := rfl
  have hwhole : (objectAt sampleMachine (hatchObject "/sys/my led") (ascii "sysfs_path") >>=
      pdtreeToString sampleMachine) .fresh = .ok (ascii "/sys/my led") .fresh := rfl
  rw [hfirst, hwhole] at hsame
  have hpaths : ascii "/sys/my" = ascii "/sys/my led" := by injection hsame
  exact absurd hpaths (by decide)

end Readers

end HhctrlMgmt.Platform
