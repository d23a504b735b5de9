import HhctrlMgmt.Common.Json
import Mathlib.Data.List.Nodup
import Mathlib.Logic.Function.Basic

namespace HhctrlMgmt.Scheduling

structure TaskEntity (Id : Type) where
  id : Id
  owner : Bytes
  timestamp : Int
deriving DecidableEq

-- ITaskStore over the states `Store` of an implementation, which holds a partial map
-- from ids to entities. An operation throws and changes nothing, or does what the
-- laws say; they leave open when it throws.
structure ITaskStore (Id Store : Type) [DecidableEq Id] where
  add : TaskEntity Id → Store → Except Exn Store
  exist : Id → Store → Except Exn Bool
  find : Id → Store → Except Exn (Option (TaskEntity Id))
  remove : Id → Store → Except Exn Store
  content : Store → Id → Option (TaskEntity Id)
  add_content : ∀ entity before after, add entity before = .ok after →
    content after = Function.update (content before) entity.id (some entity)
  exist_content : ∀ id store found, exist id store = .ok found → found = (content store id).isSome
  find_content : ∀ id store found, find id store = .ok found → found = content store id
  remove_content : ∀ id before after, remove id before = .ok after →
    content after = Function.update (content before) id none

-- A store that only throws where the id is present, or absent.
structure ITaskStore.Reliable {Id Store : Type} [DecidableEq Id] (tasksStore : ITaskStore Id Store) : Prop where
  add : ∀ entity store, tasksStore.content store entity.id = none → ∃ after, tasksStore.add entity store = .ok after
  find : ∀ id store, ∃ found, tasksStore.find id store = .ok found
  remove : ∀ id store, tasksStore.content store id ≠ none → ∃ after, tasksStore.remove id store = .ok after

-- What FileTaskStore does to the tasks it caches.
namespace Cache

variable {Id : Type} [DecidableEq Id]

def find (id : Id) (tasks : List (TaskEntity Id)) : Option (TaskEntity Id) :=
  tasks.find? fun task => id = task.id

def exist (id : Id) (tasks : List (TaskEntity Id)) : Bool :=
  (find id tasks).isSome

def add (entity : TaskEntity Id) (tasks : List (TaskEntity Id)) : Except Exn (List (TaskEntity Id)) :=
  match find entity.id tasks with
  | some _ => .error (.runtimeError "ITask already exist.")
  | none => .ok (tasks ++ [entity])

def remove (id : Id) (tasks : List (TaskEntity Id)) : Except Exn (List (TaskEntity Id)) :=
  match tasks.findIdx? fun task => id = task.id with
  | none => .error (.runtimeError "ITask does not exist")
  | some index => .ok (tasks.eraseIdx index)

theorem find_eq_none_iff (id : Id) (tasks : List (TaskEntity Id)) :
    find id tasks = none ↔ id ∉ tasks.map TaskEntity.id := by
  simp only [find, List.find?_eq_none, List.mem_map, decide_eq_true_eq]
  constructor
  · rintro h ⟨task, hmem, rfl⟩
    exact h task hmem rfl
  · rintro h task hmem rfl
    exact h ⟨task, hmem, rfl⟩

theorem add_ok_iff (entity : TaskEntity Id) (before after : List (TaskEntity Id)) :
    add entity before = .ok after ↔ find entity.id before = none ∧ after = before ++ [entity] := by
  unfold add
  cases find entity.id before with
  | some _ => simp
  | none => simp [eq_comm]

-- The first entry with the id is erased.
theorem remove_ok_iff (id : Id) (before after : List (TaskEntity Id)) :
    remove id before = .ok after ↔ find id before ≠ none ∧ after = before.eraseP fun task => id = task.id := by
  unfold remove
  rw [ne_eq, find_eq_none_iff, not_not, List.eraseP_eq_eraseIdx]
  cases hindex : before.findIdx? fun task => id = task.id with
  | none =>
      have habsent := List.findIdx?_eq_none_iff.mp hindex
      simp only [reduceCtorEq, List.mem_map, false_iff, not_and]
      rintro ⟨task, hmem, rfl⟩
      simpa using habsent task hmem
  | some index =>
      have hpresent : id ∈ before.map TaskEntity.id := by
        have hfound := List.findIdx?_eq_some_iff_findIdx_eq.mp hindex
        have hbound : index < before.length := hfound.1
        have hid := List.of_findIdx?_eq_some hindex
        rw [List.getElem?_eq_getElem hbound] at hid
        exact List.mem_map.mpr ⟨_, List.getElem_mem hbound, (of_decide_eq_true hid).symm⟩
      simp [hpresent, eq_comm]

theorem find_append (entity : TaskEntity Id) (tasks : List (TaskEntity Id)) (hfresh : find entity.id tasks = none)
    (id : Id) : find id (tasks ++ [entity]) = Function.update (find · tasks) entity.id (some entity) id := by
  by_cases hid : id = entity.id
  · subst hid
    simp only [find] at hfresh
    simp [find, List.find?_append, hfresh]
  · have hlast : find id [entity] = none := by simp [find, hid]
    simp only [find] at hlast
    simp [find, List.find?_append, hlast, hid]

theorem find_eraseP (removed : Id) (tasks : List (TaskEntity Id)) (hnodup : (tasks.map TaskEntity.id).Nodup) (id : Id) :
    find id (tasks.eraseP fun task => removed = task.id) = Function.update (find · tasks) removed none id := by
  induction tasks with
  | nil => by_cases hid : id = removed <;> simp [find, hid]
  | cons task tasks ih =>
      have htail := ih (List.nodup_cons.mp hnodup).2
      have hfresh : task.id ∉ tasks.map TaskEntity.id := (List.nodup_cons.mp hnodup).1
      by_cases hremoved : removed = task.id
      · simp only [hremoved, decide_true, List.eraseP_cons_of_pos]
        by_cases hid : id = task.id
        · rw [hid, Function.update_self]
          exact (find_eq_none_iff task.id tasks).mpr hfresh
        · simp [find, hid]
      · rw [List.eraseP_cons_of_neg (by simpa using hremoved)]
        by_cases hid : id = task.id
        · have hother : id ≠ removed := fun heq => hremoved (heq.symm.trans hid)
          simp [find, hid, Ne.symm hremoved]
        · by_cases hown : id = removed
          · rw [hown, Function.update_self] at htail ⊢
            simpa [find, hremoved] using htail
          · rw [Function.update_of_ne hown] at htail ⊢
            simpa [find, hid] using htail

end Cache

-- The tasks that a store holds, whose ids are distinct.
abbrev TaskMap (Id : Type) := { tasks : List (TaskEntity Id) // (tasks.map TaskEntity.id).Nodup }

namespace TaskMap

variable {Id : Type} [DecidableEq Id]

theorem nodup_add (entity : TaskEntity Id) (before after : List (TaskEntity Id))
    (hadd : Cache.add entity before = .ok after) (hnodup : (before.map TaskEntity.id).Nodup) :
    (after.map TaskEntity.id).Nodup := by
  obtain ⟨hfresh, rfl⟩ := (Cache.add_ok_iff entity before after).mp hadd
  have hnew := (Cache.find_eq_none_iff entity.id before).mp hfresh
  rw [List.map_append, List.map_singleton, List.nodup_append]
  refine ⟨hnodup, List.nodup_singleton _, ?_⟩
  rintro id hid other hother rfl
  rw [List.mem_singleton.mp hother] at hid
  exact hnew hid

theorem nodup_remove (id : Id) (before after : List (TaskEntity Id)) (hremove : Cache.remove id before = .ok after)
    (hnodup : (before.map TaskEntity.id).Nodup) : (after.map TaskEntity.id).Nodup := by
  obtain ⟨-, rfl⟩ := (Cache.remove_ok_iff id before after).mp hremove
  exact hnodup.sublist (List.eraseP_sublist.map _)

def add (entity : TaskEntity Id) (tasks : TaskMap Id) : Except Exn (TaskMap Id) :=
  match hadd : Cache.add entity tasks.1 with
  | .ok added => .ok ⟨added, nodup_add entity tasks.1 added hadd tasks.2⟩
  | .error thrown => .error thrown

def remove (id : Id) (tasks : TaskMap Id) : Except Exn (TaskMap Id) :=
  match hremove : Cache.remove id tasks.1 with
  | .ok removed => .ok ⟨removed, nodup_remove id tasks.1 removed hremove tasks.2⟩
  | .error thrown => .error thrown

theorem add_ok_iff (entity : TaskEntity Id) (before after : TaskMap Id) :
    add entity before = .ok after ↔ Cache.add entity before.1 = .ok after.1 := by
  unfold add
  split
  · rename_i added hadd
    simp only [hadd, Except.ok.injEq, Subtype.ext_iff]
  · rename_i thrown hadd
    simp [hadd]

theorem remove_ok_iff (id : Id) (before after : TaskMap Id) :
    remove id before = .ok after ↔ Cache.remove id before.1 = .ok after.1 := by
  unfold remove
  split
  · rename_i removed hremove
    simp only [hremove, Except.ok.injEq, Subtype.ext_iff]
  · rename_i thrown hremove
    simp [hremove]

def store : ITaskStore Id (TaskMap Id) where
  add := add
  exist id tasks := .ok (Cache.exist id tasks.1)
  find id tasks := .ok (Cache.find id tasks.1)
  remove := remove
  content tasks id := Cache.find id tasks.1
  add_content entity before after hadd := by
    obtain ⟨hfresh, hafter⟩ := (Cache.add_ok_iff _ _ _).mp ((add_ok_iff entity before after).mp hadd)
    rw [hafter]
    exact funext (Cache.find_append entity before.1 hfresh)
  exist_content _ _ _ hexist := (Except.ok.inj hexist).symm
  find_content _ _ _ hfind := (Except.ok.inj hfind).symm
  remove_content id before after hremove := by
    obtain ⟨-, hafter⟩ := (Cache.remove_ok_iff _ _ _).mp ((remove_ok_iff id before after).mp hremove)
    rw [hafter]
    exact funext (Cache.find_eraseP id before.1 before.2)

theorem store_reliable : (@store Id _).Reliable where
  add entity tasks hfresh := by
    have hadd := (Cache.add_ok_iff entity tasks.1 _).mpr ⟨hfresh, rfl⟩
    exact ⟨⟨_, nodup_add entity tasks.1 _ hadd tasks.2⟩, (add_ok_iff _ _ _).mpr hadd⟩
  find _ _ := ⟨_, rfl⟩
  remove id tasks hpresent := by
    have hremove := (Cache.remove_ok_iff id tasks.1 _).mpr ⟨hpresent, rfl⟩
    exact ⟨⟨_, nodup_remove id tasks.1 _ hremove tasks.2⟩, (remove_ok_iff _ _ _).mpr hremove⟩

end TaskMap

end HhctrlMgmt.Scheduling
