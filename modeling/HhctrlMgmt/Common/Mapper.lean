import HhctrlMgmt.Common.Exception
import Mathlib.Data.Prod.Basic

namespace HhctrlMgmt.Common

-- Mapper<KV, Rest...>: the base case of the template holds the last pair.
inductive Mapper (κ ν : Type) where
  | last (key : κ) (value : ν)
  | more (key : κ) (value : ν) (next : Mapper κ ν)

namespace Mapper

variable {κ ν : Type}

-- automap of the base case
def automap {α β : Type} [DecidableEq α] (provided actual : α) (ret : β) : Except Exn β :=
  if provided ≠ actual then .error (.invalidArgument "Key does not exist") else .ok ret

-- map by key
def mapKey [DecidableEq κ] : Mapper κ ν → κ → Except Exn ν
  | last k v, key => automap key k v
  | more k v next, key => if key = k then .ok v else next.mapKey key

-- map by value
def mapValue [DecidableEq ν] : Mapper κ ν → ν → Except Exn κ
  | last k v, value => automap value v k
  | more k v next, value => if value = v then .ok k else next.mapValue value

-- The pairs of the table.
def entries : Mapper κ ν → List (κ × ν)
  | last k v => [(k, v)]
  | more k v next => (k, v) :: next.entries

theorem mem_of_mapKey [DecidableEq κ] (mapper : Mapper κ ν) (key : κ) (value : ν) (h : mapper.mapKey key = .ok value) :
    (key, value) ∈ mapper.entries := by
  induction mapper with
  | last k v =>
      unfold mapKey automap at h
      split_ifs at h with hkey
      simp_all [entries]
  | more k v next ih =>
      unfold mapKey at h
      split_ifs at h with hkey
      · simp_all [entries]
      · exact List.mem_cons_of_mem _ (ih h)

theorem mapKey_of_mem [DecidableEq κ] (mapper : Mapper κ ν) (hkeys : (mapper.entries.map Prod.fst).Nodup) (key : κ)
    (value : ν) (h : (key, value) ∈ mapper.entries) : mapper.mapKey key = .ok value := by
  induction mapper with
  | last k v => simp_all [entries, mapKey, automap]
  | more k v next ih =>
      simp only [entries, List.map_cons, List.nodup_cons] at hkeys
      unfold mapKey
      rcases List.mem_cons.mp h with heq | hmem
      · simp_all
      · have hne : key ≠ k := fun heq => hkeys.1 (heq ▸ List.mem_map_of_mem hmem)
        rw [if_neg hne, ih hkeys.2 hmem]

-- The table read from the values to the keys.
def swap : Mapper κ ν → Mapper ν κ
  | last k v => last v k
  | more k v next => more v k next.swap

theorem swap_mapKey [DecidableEq ν] (mapper : Mapper κ ν) (value : ν) :
    mapper.swap.mapKey value = mapper.mapValue value := by
  induction mapper with
  | last k v => rfl
  | more k v next ih =>
      unfold swap mapKey mapValue
      rw [ih]

theorem entries_swap (mapper : Mapper κ ν) : mapper.swap.entries = mapper.entries.map Prod.swap := by
  induction mapper with
  | last k v => rfl
  | more k v next ih =>
      unfold swap entries
      rw [ih]
      rfl

theorem mapKey_ok_iff [DecidableEq κ] (mapper : Mapper κ ν) (hkeys : (mapper.entries.map Prod.fst).Nodup) (key : κ)
    (value : ν) : mapper.mapKey key = .ok value ↔ (key, value) ∈ mapper.entries :=
  ⟨mem_of_mapKey mapper key value, mapKey_of_mem mapper hkeys key value⟩

theorem mapValue_ok_iff_mem [DecidableEq ν] (mapper : Mapper κ ν) (hvalues : (mapper.entries.map Prod.snd).Nodup)
    (key : κ) (value : ν) : mapper.mapValue value = .ok key ↔ (key, value) ∈ mapper.entries := by
  have hswapped : (mapper.swap.entries.map Prod.fst).Nodup := by
    rw [entries_swap, List.map_map]
    exact hvalues
  rw [← swap_mapKey, mapKey_ok_iff mapper.swap hswapped, entries_swap, ← Prod.swap_prod_mk,
    List.mem_map_of_injective Prod.swap_injective]

theorem mapValue_ok_iff [DecidableEq κ] [DecidableEq ν] (mapper : Mapper κ ν)
    (hkeys : (mapper.entries.map Prod.fst).Nodup)
    (hvalues : (mapper.entries.map Prod.snd).Nodup) (key : κ) (value : ν) :
    mapper.mapValue value = .ok key ↔ mapper.mapKey key = .ok value := by
  rw [mapValue_ok_iff_mem mapper hvalues, mapKey_ok_iff mapper hkeys]

-- The constructor.
def ofPairs : κ × ν → List (κ × ν) → Mapper κ ν
  | (k, v), [] => last k v
  | (k, v), next :: rest => more k v (ofPairs next rest)

theorem entries_ofPairs (first : κ × ν) (rest : List (κ × ν)) : (ofPairs first rest).entries = first :: rest := by
  induction rest generalizing first with
  | nil => rfl
  | cons next rest ih =>
      unfold ofPairs entries
      rw [ih]

end Mapper

-- The place of a call. A compiler completes the path of the file and the signature of the
-- function.
structure SourceLocation where
  fileName : String
  line : Nat
  column : Nat
  functionName : String

-- common::logger::source
def source (location : SourceLocation) : String :=
  s!"file name: {location.fileName}({location.line}:{location.column})\nfunc name: {location.functionName}"

-- StaticMap<TKey, TValue, size> as the list of its data.
structure StaticMap (κ ν : Type) where
  data : List (κ × ν)

namespace StaticMap

variable {κ ν : Type} [DecidableEq κ]

-- at(const TKey&)
def atKey (map : StaticMap κ ν) (key : κ) : Except Exn ν :=
  match map.data.find? fun elem => key = elem.1 with
  | some elem => .ok elem.2
  | none => .error (.rangeError ("range error, details: " ++ source ⟨"static_map.hpp", 32, 70, "at"⟩))

-- at(const TValue&)
def atValue {κ ν : Type} [DecidableEq ν] (map : StaticMap κ ν) (value : ν) : Except Exn κ :=
  match map.data.find? fun elem => value = elem.2 with
  | some elem => .ok elem.1
  | none => .error (.rangeError ("range error, details: " ++ source ⟨"static_map.hpp", 45, 70, "at"⟩))

def contains (map : StaticMap κ ν) (key : κ) : Bool :=
  (map.data.find? fun elem => key = elem.1).isSome

theorem atKey_ok_iff (map : StaticMap κ ν) (hkeys : (map.data.map Prod.fst).Nodup) (key : κ) (value : ν) :
    map.atKey key = .ok value ↔ (key, value) ∈ map.data := by
  obtain ⟨data⟩ := map
  unfold atKey
  dsimp only at hkeys ⊢
  induction data with
  | nil => simp
  | cons elem data ih =>
      obtain ⟨hnot, hrest⟩ := List.nodup_cons.mp hkeys
      rw [List.find?_cons, List.mem_cons]
      by_cases hkey : key = elem.1
      · have habsent : (key, value) ∉ data := by
          intro hmem
          exact hnot (List.mem_map.mpr ⟨_, hmem, hkey⟩)
        rw [decide_eq_true hkey, or_iff_left habsent]
        subst hkey
        rw [Prod.ext_iff]
        simp [eq_comm]
      · have hother : (key, value) ≠ elem := fun heq => hkey (congrArg Prod.fst heq)
        rw [decide_eq_false hkey, or_iff_right hother]
        exact ih hrest

-- The table read from the values to the keys.
def swap (map : StaticMap κ ν) : StaticMap ν κ :=
  ⟨map.data.map Prod.swap⟩

omit [DecidableEq κ] in
theorem swap_atKey_ok_iff [DecidableEq ν] (map : StaticMap κ ν) (key : κ) (value : ν) :
    map.swap.atKey value = .ok key ↔ map.atValue value = .ok key := by
  have hfind : map.swap.data.find? (fun elem => value = elem.1) =
      (map.data.find? fun elem => value = elem.2).map Prod.swap := List.find?_map ..
  unfold atKey atValue
  rw [hfind]
  cases map.data.find? fun elem => value = elem.2 with
  | none => exact iff_of_false nofun nofun
  | some elem => rfl

omit [DecidableEq κ] in
theorem atValue_ok_iff [DecidableEq ν] (map : StaticMap κ ν) (hvalues : (map.data.map Prod.snd).Nodup) (key : κ)
    (value : ν) : map.atValue value = .ok key ↔ (key, value) ∈ map.data := by
  have hswapped : (map.swap.data.map Prod.fst).Nodup := by
    unfold swap
    rw [List.map_map]
    exact hvalues
  rw [← swap_atKey_ok_iff, atKey_ok_iff map.swap hswapped, ← Prod.swap_prod_mk]
  exact List.mem_map_of_injective Prod.swap_injective

theorem contains_iff (map : StaticMap κ ν) (key : κ) :
    map.contains key = true ↔ ∃ value, map.atKey key = .ok value := by
  unfold contains atKey
  cases map.data.find? fun elem => key = elem.1 with
  | none => simp
  | some elem => simp

end StaticMap

def Throws {α : Type} (result : Except Exn α) : Prop :=
  ∃ thrown, result = .error thrown

theorem throws_iff {α : Type} (result : Except Exn α) : Throws result ↔ ¬∃ value, result = .ok value := by
  unfold Throws
  cases result with
  | ok value => simp
  | error thrown => simp

-- Where no key and no value occurs twice, the searches of both classes are the two directions
-- of one table.
theorem tables_agree {κ ν : Type} [DecidableEq κ] [DecidableEq ν] (first : κ × ν) (rest : List (κ × ν))
    (hkeys : ((first :: rest).map Prod.fst).Nodup) (hvalues : ((first :: rest).map Prod.snd).Nodup) :
    let mapper := Mapper.ofPairs first rest
    let map : StaticMap κ ν := ⟨first :: rest⟩
    (∀ entry ∈ first :: rest, mapper.mapKey entry.1 = .ok entry.2 ∧ mapper.mapValue entry.2 = .ok entry.1) ∧
    (∀ key value, mapper.mapKey key = .ok value ↔ mapper.mapValue value = .ok key) ∧
    (∀ key, Throws (mapper.mapKey key) ↔ key ∉ (first :: rest).map Prod.fst) ∧
    (∀ value, Throws (mapper.mapValue value) ↔ value ∉ (first :: rest).map Prod.snd) ∧
    (∀ key value, map.atKey key = .ok value ↔ mapper.mapKey key = .ok value) ∧
    (∀ key value, map.atValue value = .ok key ↔ mapper.mapValue value = .ok key) ∧
    (∀ key, Throws (map.atKey key) ↔ Throws (mapper.mapKey key)) ∧
    (∀ value, Throws (map.atValue value) ↔ Throws (mapper.mapValue value)) ∧
    ∀ key, map.contains key = true ↔ ¬Throws (map.atKey key) := by
  intro mapper map
  have hentries : mapper.entries = first :: rest := Mapper.entries_ofPairs first rest
  rw [← hentries] at hkeys hvalues
  have hkey (key : κ) (value : ν) : mapper.mapKey key = .ok value ↔ (key, value) ∈ first :: rest := by
    rw [Mapper.mapKey_ok_iff mapper hkeys, hentries]
  have hvalue (key : κ) (value : ν) : mapper.mapValue value = .ok key ↔ (key, value) ∈ first :: rest := by
    rw [Mapper.mapValue_ok_iff_mem mapper hvalues, hentries]
  rw [hentries] at hkeys hvalues
  have hatKey (key : κ) (value : ν) : map.atKey key = .ok value ↔ mapper.mapKey key = .ok value := by
    rw [map.atKey_ok_iff hkeys, hkey]
  have hatValue (key : κ) (value : ν) : map.atValue value = .ok key ↔ mapper.mapValue value = .ok key := by
    rw [map.atValue_ok_iff hvalues, hvalue]
  refine ⟨fun entry hentry => ⟨(hkey _ _).mpr hentry, (hvalue _ _).mpr hentry⟩,
    fun key value => by rw [hkey, hvalue], fun key => ?_, fun value => ?_, hatKey, hatValue, fun key => ?_,
    fun value => ?_, fun key => ?_⟩
  · rw [throws_iff, List.mem_map]
    simp only [hkey, Prod.exists, exists_and_right, exists_eq_right]
  · rw [throws_iff, List.mem_map]
    simp only [hvalue, Prod.exists, exists_eq_right]
  · rw [throws_iff, throws_iff]
    simp only [hatKey]
  · rw [throws_iff, throws_iff]
    simp only [hatValue]
  · rw [map.contains_iff, throws_iff, not_not]

theorem tables_agree_sample : (StaticMap.mk [(1, true), (2, false)]).contains 3 = true ↔
    ¬Throws ((StaticMap.mk [(1, true), (2, false)]).atKey 3) :=
  (tables_agree (1, true) [(2, false)] (by decide) (by decide)).2.2.2.2.2.2.2.2 3

end HhctrlMgmt.Common
