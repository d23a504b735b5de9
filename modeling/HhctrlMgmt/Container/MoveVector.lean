import Mathlib.Data.List.Basic

namespace HhctrlMgmt

-- How a vector grows when it is full.
structure Growth where
  next : Nat → Nat
  hnext : ∀ capacity, capacity < next capacity

-- A std::vector: its elements, and the room that is allocated for them.
structure MoveVector (α : Type) where
  slots : List α
  capacity : Nat
  hslots : slots.length ≤ capacity

namespace MoveVector

variable {α : Type}

def empty : MoveVector α := ⟨[], 0, Nat.le_refl 0⟩

-- The operations take `moved`, which says what a move leaves in the slot it
-- takes the value from, and return what they destroy next to the vector, in
-- the order of destruction. A value that is overwritten is not destroyed.
section Operations

variable (moved : α → α)

theorem length_le_room (vector : MoveVector α) (value : α) (hroom : vector.slots.length < vector.capacity) :
    (vector.slots ++ [value]).length ≤ vector.capacity := by
  rw [List.length_append, List.length_singleton]
  exact hroom

theorem length_le_grown (growth : Growth) (vector : MoveVector α) (value : α) :
    (vector.slots ++ [value]).length ≤ growth.next vector.capacity := by
  have hsize := vector.hslots
  have hgrown := growth.hnext vector.capacity
  rw [List.length_append, List.length_singleton]
  omega

-- A full vector moves its elements into new storage and destroys what the moves
-- have left of the old one.
def emplaceBack (growth : Growth) (vector : MoveVector α) (value : α) : MoveVector α × List α :=
  if hroom : vector.slots.length < vector.capacity then
    (⟨vector.slots ++ [value], vector.capacity, length_le_room vector value hroom⟩, [])
  else
    (⟨vector.slots ++ [value], growth.next vector.capacity, length_le_grown growth vector value⟩, vector.slots.map moved)

-- Each element is moved one slot down, the first one over `hole`. The second
-- component is what the last slot holds in the end.
def shift (hole : α) : List α → List α × α
  | [] => ([], hole)
  | value :: rest =>
    let shifted := shift (moved value) rest
    (value :: shifted.1, shifted.2)

theorem shift_fst (hole : α) (rest : List α) : (shift moved hole rest).1 = rest := by
  induction rest generalizing hole with
  | nil => rfl
  | cons value rest ih => simp only [shift, ih]

theorem shift_snd (hole : α) (rest : List α) :
    (shift moved hole rest).2 = hole ∧ rest = [] ∨
      ∃ value ∈ rest, (shift moved hole rest).2 = moved value := by
  induction rest generalizing hole with
  | nil => exact Or.inl ⟨rfl, rfl⟩
  | cons value rest ih =>
      refine Or.inr ?_
      cases ih (moved value) with
      | inl hlast =>
          exact ⟨value, by simp, hlast.1⟩
      | inr hlater =>
          obtain ⟨later, hmem, hlast⟩ := hlater
          exact ⟨later, by simp [hmem], hlast⟩

-- erase(begin + index)
def erase (vector : MoveVector α) (index : Fin vector.slots.length) : MoveVector α × List α :=
  let shifted := shift moved vector.slots[index] (vector.slots.drop (index + 1))
  (⟨vector.slots.take index ++ shifted.1, vector.capacity, by
    have hsize := vector.hslots
    have hindex := index.isLt
    simp only [shifted, shift_fst, List.length_append, List.length_take, List.length_drop]
    omega⟩, [shifted.2])

theorem erase_slots (vector : MoveVector α) (index : Fin vector.slots.length) :
    (erase moved vector index).1.slots = vector.slots.eraseIdx index := by
  simp only [erase, shift_fst, List.eraseIdx_eq_take_drop_succ]

-- What is destroyed is the erased element, where it is the last one, and
-- otherwise what a move has left.
theorem erase_destroyed (vector : MoveVector α) (index : Fin vector.slots.length) :
    (erase moved vector index).2 = [vector.slots[index]] ∨
      ∃ value, (erase moved vector index).2 = [moved value] := by
  cases shift_snd moved vector.slots[index] (vector.slots.drop (index + 1)) with
  | inl hlast => exact Or.inl (by simp only [erase, hlast.1])
  | inr hlater =>
      obtain ⟨value, _, hvalue⟩ := hlater
      exact Or.inr ⟨value, by simp only [erase, hvalue]⟩

-- The loop of std::remove_if. `kept` are the slots it has filled, `gap` those
-- between the one it fills next and the one it looks at.
def removeLoop (removed : α → Bool) (kept gap : List α) : List α → List α × List α
  | [] => (kept, gap)
  | value :: rest =>
    if removed value then
      removeLoop removed kept (gap ++ [value]) rest
    else
      match gap with
      | [] => removeLoop removed (kept ++ [value]) [] rest
      | _ :: gap => removeLoop removed (kept ++ [value]) (gap ++ [moved value]) rest

theorem removeLoop_fst (removed : α → Bool) (kept gap rest : List α) :
    (removeLoop moved removed kept gap rest).1 =
      kept ++ rest.filter (fun value => !removed value) := by
  induction rest generalizing kept gap with
  | nil => simp only [removeLoop, List.filter_nil, List.append_nil]
  | cons value rest ih =>
      by_cases hvalue : removed value = true
      · simp only [removeLoop, hvalue, if_true, ih, List.filter_cons, Bool.not_true,
          Bool.false_eq_true, if_false]
      · cases gap <;> simp [removeLoop, hvalue, ih]

-- What a slot behind the filled ones holds: a removed element still stands in
-- its slot, a kept one has been moved down.
def leftover (removed : α → Bool) (value : α) : α :=
  if removed value then value else moved value

-- `done` are the elements the loop has looked at. It has filled as many slots as
-- it has kept elements, and the gap is what it has left of the others.
theorem removeLoop_snd (removed : α → Bool) (done kept gap rest : List α)
    (hlen : kept.length ≤ done.length)
    (hgap : gap = (done.drop kept.length).map (leftover moved removed)) :
    (removeLoop moved removed kept gap rest).2 =
      ((done ++ rest).drop (removeLoop moved removed kept gap rest).1.length).map
        (leftover moved removed) := by
  induction rest generalizing done kept gap with
  | nil => simp only [removeLoop, List.append_nil, hgap]
  | cons value rest ih =>
      have hassoc : done ++ value :: rest = (done ++ [value]) ++ rest := by simp
      by_cases hvalue : removed value = true
      · have hnext : gap ++ [value] =
            ((done ++ [value]).drop kept.length).map (leftover moved removed) := by
          simp [List.drop_append_of_le_length hlen, hgap, leftover, hvalue]
        simp only [removeLoop, hvalue, if_true, hassoc]
        exact ih (done ++ [value]) kept (gap ++ [value]) (by simp; omega) hnext
      · cases gap with
        | nil =>
            -- nothing has been removed so far, and the element stays where it is
            have hfull : done.length ≤ kept.length := by
              have := congrArg List.length hgap
              simp at this
              omega
            have hnext : ([] : List α) =
                ((done ++ [value]).drop (kept ++ [value]).length).map (leftover moved removed) := by
              rw [List.drop_eq_nil_of_le (by simp; omega), List.map_nil]
            simp only [removeLoop, hvalue, Bool.false_eq_true, if_false, hassoc]
            exact ih (done ++ [value]) (kept ++ [value]) [] (by simp; omega) hnext
        | cons hole gap =>
            have hroom : kept.length < done.length := by
              have := congrArg List.length hgap
              simp at this
              omega
            have htail : gap = (done.drop (kept.length + 1)).map (leftover moved removed) := by
              have := congrArg List.tail hgap
              simpa using this
            have hnext : gap ++ [moved value] =
                ((done ++ [value]).drop (kept ++ [value]).length).map (leftover moved removed) := by
              rw [List.length_append, List.length_singleton, List.drop_append_of_le_length hroom,
                List.map_append, ← htail]
              simp [leftover, hvalue]
            simp only [removeLoop, hvalue, Bool.false_eq_true, if_false, hassoc]
            exact ih (done ++ [value]) (kept ++ [value]) (gap ++ [moved value])
              (by simp; omega) hnext

-- std::erase_if: remove_if, then the slots behind the filled ones are destroyed
def eraseIf (removed : α → Bool) (vector : MoveVector α) : MoveVector α × List α :=
  let result := removeLoop moved removed [] [] vector.slots
  (⟨result.1, vector.capacity, by
    have hsize := vector.hslots
    have hfilter := List.length_filter_le (fun value => !removed value) vector.slots
    simp only [result, removeLoop_fst, List.nil_append]
    omega⟩, result.2)

theorem eraseIf_slots (removed : α → Bool) (vector : MoveVector α) :
    (eraseIf moved removed vector).1.slots =
      vector.slots.filter fun value => !removed value := by
  simp only [eraseIf, removeLoop_fst, List.nil_append]

theorem eraseIf_destroyed (removed : α → Bool) (vector : MoveVector α) :
    (eraseIf moved removed vector).2 =
      (vector.slots.drop (vector.slots.filter fun value => !removed value).length).map
        (leftover moved removed) := by
  have hrest := removeLoop_snd moved removed [] [] [] vector.slots (Nat.le_refl 0) rfl
  simpa only [eraseIf, removeLoop_fst, List.nil_append] using hrest

theorem emplaceBack_slots (growth : Growth) (vector : MoveVector α) (value : α) :
    (emplaceBack moved growth vector value).1.slots = vector.slots ++ [value] := by
  unfold emplaceBack
  split <;> rfl

theorem emplaceBack_destroyed (growth : Growth) (vector : MoveVector α) (value : α) :
    ∀ old ∈ (emplaceBack moved growth vector value).2, ∃ source, old = moved source := by
  intro old hold
  unfold emplaceBack at hold
  split at hold
  · simp at hold
  · obtain ⟨source, _, hsource⟩ := List.mem_map.mp hold
    exact ⟨source, hsource.symm⟩

end Operations

end MoveVector

end HhctrlMgmt
