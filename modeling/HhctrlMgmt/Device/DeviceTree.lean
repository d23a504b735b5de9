import HhctrlMgmt.Container.MoveVector
import HhctrlMgmt.Device.Hatch
import Mathlib.Data.List.Perm.Basic
import Mathlib.Data.List.Nodup

namespace HhctrlMgmt.Device

-- OnNodeRemoved_t is a std::function. A callback is what its call leaves in the
-- record of calls, and none is the empty function.
structure Node (Callback : Type) where
  parentDeviceId : DeviceId
  deviceId : DeviceId
  func : Option Callback

namespace Node

variable {Callback : Type}

-- A move takes the function and leaves an empty one. The ids are numbers, and
-- stay.
def moved (node : Node Callback) : Node Callback :=
  { node with func := none }

-- ~Node
def destroy (node : Node Callback) : List Callback :=
  node.func.toList

@[simp] theorem destroy_moved (node : Node Callback) : node.moved.destroy = [] := rfl

end Node

structure DeviceTree (Callback : Type) where
  nodes : MoveVector (Node Callback)

-- What an operation returns, what it leaves, and the callbacks it has run.
structure TreeResult (Callback : Type) where
  value : Bool
  tree : DeviceTree Callback
  fired : List Callback

namespace DeviceTree

variable {Callback : Type}

def new : DeviceTree Callback := ⟨.empty⟩

-- The callback of a device that is there already is dropped with the parameter
-- that holds it.
def addChild (growth : Growth) (tree : DeviceTree Callback) (parentDeviceId deviceId : DeviceId)
    (onParentRemoved : Option Callback) : TreeResult Callback :=
  match tree.nodes.slots.find? fun node => node.deviceId = deviceId with
  | some node => ⟨node.parentDeviceId = parentDeviceId, tree, []⟩
  | none =>
    let added := tree.nodes.emplaceBack Node.moved growth ⟨parentDeviceId, deviceId, onParentRemoved⟩
    ⟨true, ⟨added.1⟩, added.2.flatMap Node.destroy⟩

-- node->func = nullptr
def clearFunc (nodes : MoveVector (Node Callback)) (index : Fin nodes.slots.length) :
    MoveVector (Node Callback) where
  slots := nodes.slots.set index { nodes.slots[index] with func := none }
  capacity := nodes.capacity
  hslots := by
    have hsize := nodes.hslots
    simpa using hsize

theorem clearFunc_length (nodes : MoveVector (Node Callback)) (index : Fin nodes.slots.length) :
    nodes.slots.length = (clearFunc nodes index).slots.length := by
  simp [clearFunc]

def removeChild (tree : DeviceTree Callback) (parentDeviceId deviceId : DeviceId) :
    TreeResult Callback :=
  match tree.nodes.slots.findFinIdx? fun node =>
      node.parentDeviceId = parentDeviceId ∧ node.deviceId = deviceId with
  | none => ⟨false, tree, []⟩
  | some index =>
    let erased := (clearFunc tree.nodes index).erase Node.moved
      (index.cast (clearFunc_length tree.nodes index))
    ⟨true, ⟨erased.1⟩, erased.2.flatMap Node.destroy⟩

def hasParent (parentDeviceId : DeviceId) (node : Node Callback) : Bool :=
  node.parentDeviceId = parentDeviceId

def remove (tree : DeviceTree Callback) (parentDeviceId : DeviceId) : TreeResult Callback :=
  let erased := tree.nodes.eraseIf Node.moved (hasParent parentDeviceId)
  ⟨tree.nodes.slots.length - erased.1.slots.length ≠ 0, ⟨erased.1⟩, erased.2.flatMap Node.destroy⟩

def parent (tree : DeviceTree Callback) (deviceId : DeviceId) : Option DeviceId :=
  (tree.nodes.slots.find? fun node => node.deviceId = deviceId).map Node.parentDeviceId

def allChildren (tree : DeviceTree Callback) (parentDeviceId : DeviceId) : List DeviceId :=
  (tree.nodes.slots.filter (hasParent parentDeviceId)).map Node.deviceId

inductive Call (Callback : Type) where
  | addChild (parentDeviceId deviceId : DeviceId) (onParentRemoved : Option Callback)
  | removeChild (parentDeviceId deviceId : DeviceId)
  | remove (parentDeviceId : DeviceId)

def call (growth : Growth) (tree : DeviceTree Callback) : Call Callback → TreeResult Callback
  | .addChild parentDeviceId deviceId onParentRemoved =>
    tree.addChild growth parentDeviceId deviceId onParentRemoved
  | .removeChild parentDeviceId deviceId => tree.removeChild parentDeviceId deviceId
  | .remove parentDeviceId => tree.remove parentDeviceId

-- The tree that a sequence of calls leaves.
def after (growth : Growth) (calls : List (Call Callback)) : DeviceTree Callback :=
  calls.foldl (fun tree request => (tree.call growth request).tree) new

-- The callbacks of the nodes whose parent is the given one.
def removalCallbacks (tree : DeviceTree Callback) (parentDeviceId : DeviceId) : List Callback :=
  (tree.nodes.slots.filter (hasParent parentDeviceId)).flatMap Node.destroy

-- How many nodes stay when the given parent is removed. So many slots are
-- filled again, from the front.
def keptCount (tree : DeviceTree Callback) (parentDeviceId : DeviceId) : Nat :=
  (tree.nodes.slots.filter fun node => !hasParent parentDeviceId node).length

-- No node that is removed from one of the slots filled again has a callback.
def CallbacksBehindKept (tree : DeviceTree Callback) (parentDeviceId : DeviceId) : Prop :=
  ∀ node ∈ tree.nodes.slots.take (tree.keptCount parentDeviceId),
    node.parentDeviceId = parentDeviceId → node.func = none

section Operations

theorem flatMap_destroy_moved (nodes : List (Node Callback))
    (hmoved : ∀ node ∈ nodes, ∃ source : Node Callback, node = source.moved) :
    nodes.flatMap Node.destroy = [] := by
  rw [List.flatMap_eq_nil_iff]
  intro node hnode
  obtain ⟨source, rfl⟩ := hmoved node hnode
  rfl

theorem addChild_fired (growth : Growth) (tree : DeviceTree Callback)
    (parentDeviceId deviceId : DeviceId) (onParentRemoved : Option Callback) :
    (tree.addChild growth parentDeviceId deviceId onParentRemoved).fired = [] := by
  unfold addChild
  split
  · rfl
  · exact flatMap_destroy_moved _ (MoveVector.emplaceBack_destroyed Node.moved growth tree.nodes _)

-- Whatever stands in the last slot has lost its callback: the erased node by the
-- assignment before, any other one by the move.
theorem removeChild_fired (tree : DeviceTree Callback) (parentDeviceId deviceId : DeviceId) :
    (tree.removeChild parentDeviceId deviceId).fired = [] := by
  unfold removeChild
  split
  · rfl
  · rename_i index _
    refine flatMap_destroy_moved _ fun node hnode => ?_
    cases MoveVector.erase_destroyed Node.moved (clearFunc tree.nodes index)
        (index.cast (clearFunc_length tree.nodes index)) with
    | inl hlast =>
        rw [hlast] at hnode
        have hcleared :
            (clearFunc tree.nodes index).slots[index.cast (clearFunc_length tree.nodes index)] =
              tree.nodes.slots[index].moved := List.getElem_set_self _
        exact ⟨tree.nodes.slots[index], (List.mem_singleton.mp hnode).trans hcleared⟩
    | inr hlater =>
        obtain ⟨source, hsource⟩ := hlater
        rw [hsource] at hnode
        exact ⟨source, List.mem_singleton.mp hnode⟩

theorem remove_slots (tree : DeviceTree Callback) (parentDeviceId : DeviceId) :
    (tree.remove parentDeviceId).tree.nodes.slots =
      tree.nodes.slots.filter fun node => !hasParent parentDeviceId node := by
  simp only [remove, MoveVector.eraseIf_slots]

theorem destroy_leftover (parentDeviceId : DeviceId) (nodes : List (Node Callback)) :
    (nodes.map (MoveVector.leftover Node.moved (hasParent parentDeviceId))).flatMap Node.destroy =
      (nodes.filter (hasParent parentDeviceId)).flatMap Node.destroy := by
  induction nodes with
  | nil => rfl
  | cons node nodes ih =>
      by_cases hnode : hasParent parentDeviceId node = true
      · simp [MoveVector.leftover, hnode, ih]
      · simp [MoveVector.leftover, hnode, ih]

-- remove runs the callbacks of the removed nodes behind the slots filled again.
theorem remove_fired (tree : DeviceTree Callback) (parentDeviceId : DeviceId) :
    (tree.remove parentDeviceId).fired =
      ((tree.nodes.slots.drop (tree.keptCount parentDeviceId)).filter
        (hasParent parentDeviceId)).flatMap Node.destroy := by
  have hdestroyed := MoveVector.eraseIf_destroyed Node.moved (hasParent parentDeviceId) tree.nodes
  simp only [remove, hdestroyed, destroy_leftover, keptCount]

theorem removalCallbacks_split (tree : DeviceTree Callback) (parentDeviceId : DeviceId) :
    tree.removalCallbacks parentDeviceId =
      ((tree.nodes.slots.take (tree.keptCount parentDeviceId)).filter
        (hasParent parentDeviceId)).flatMap Node.destroy ++
        (tree.remove parentDeviceId).fired := by
  rw [remove_fired, ← List.flatMap_append, ← List.filter_append, List.take_append_drop]
  rfl

theorem callbacksBehindKept_iff (tree : DeviceTree Callback) (parentDeviceId : DeviceId) :
    tree.CallbacksBehindKept parentDeviceId ↔
      ((tree.nodes.slots.take (tree.keptCount parentDeviceId)).filter
        (hasParent parentDeviceId)).flatMap Node.destroy = [] := by
  rw [List.flatMap_eq_nil_iff]
  constructor
  · intro hbehind node hnode
    obtain ⟨hmem, hparent⟩ := List.mem_filter.mp hnode
    have hfunc := hbehind node hmem (of_decide_eq_true hparent)
    rw [Node.destroy, hfunc]
    rfl
  · intro hsilent node hmem hparent
    have hdestroy := hsilent node (List.mem_filter.mpr ⟨hmem, decide_eq_true hparent⟩)
    cases hfunc : node.func with
    | none => rfl
    | some callback => simp [Node.destroy, hfunc] at hdestroy

-- The callbacks of the removed nodes run once each, unless one of them is
-- overwritten.
theorem remove_fired_perm_iff (tree : DeviceTree Callback) (parentDeviceId : DeviceId) :
    (tree.remove parentDeviceId).fired.Perm (tree.removalCallbacks parentDeviceId) ↔
      tree.CallbacksBehindKept parentDeviceId := by
  rw [callbacksBehindKept_iff, removalCallbacks_split]
  constructor
  · intro hperm
    have hlength := hperm.length_eq
    rw [List.length_append] at hlength
    exact List.eq_nil_of_length_eq_zero (by omega)
  · intro hnil
    rw [hnil, List.nil_append]

end Operations

-- In every tree that calls leave, adding and removing a child run no callback,
-- and the removal of a parent runs the callback of each of its nodes once, and
-- no other, exactly when none of these callbacks stands in a slot filled again.
theorem after_fired_iff (growth : Growth) (calls : List (Call Callback)) :
    (∀ parentDeviceId deviceId onParentRemoved,
      ((after growth calls).addChild growth parentDeviceId deviceId onParentRemoved).fired = []) ∧
    (∀ parentDeviceId deviceId,
      ((after growth calls).removeChild parentDeviceId deviceId).fired = []) ∧
    ∀ parentDeviceId,
      ((after growth calls).remove parentDeviceId).fired.Perm
          ((after growth calls).removalCallbacks parentDeviceId) ↔
        (after growth calls).CallbacksBehindKept parentDeviceId :=
  ⟨addChild_fired growth (after growth calls), removeChild_fired (after growth calls),
    remove_fired_perm_iff (after growth calls)⟩

-- The vector doubles.
def doubling : Growth := ⟨fun capacity => max 1 (2 * capacity), fun capacity => by omega⟩

-- The node of device 20 is moved over that of device 10, whose callback is lost.
theorem remove_loses_callback :
    ¬((after doubling [.addChild 1 10 (some "first"), .addChild 2 20 (some "second")]).remove
        1).fired.Perm
      ((after doubling [.addChild 1 10 (some "first"), .addChild 2 20 (some "second")]).removalCallbacks
        1) := by
  decide

section Devices

-- No two nodes stand for one device.
def DistinctDevices (tree : DeviceTree Callback) : Prop :=
  (tree.nodes.slots.map Node.deviceId).Nodup

theorem addChild_distinct (growth : Growth) (tree : DeviceTree Callback)
    (parentDeviceId deviceId : DeviceId) (onParentRemoved : Option Callback)
    (htree : tree.DistinctDevices) :
    (tree.addChild growth parentDeviceId deviceId onParentRemoved).tree.DistinctDevices := by
  unfold addChild
  split
  · exact htree
  · rename_i habsent
    have hfresh : deviceId ∉ tree.nodes.slots.map Node.deviceId := by
      intro hmem
      obtain ⟨node, hnode, hid⟩ := List.mem_map.mp hmem
      have hother := List.find?_eq_none.mp habsent node hnode
      simp [hid] at hother
    simp only [DistinctDevices, MoveVector.emplaceBack_slots, List.map_append, List.map_cons,
      List.map_nil]
    exact htree.append (List.nodup_singleton deviceId) (by simpa using hfresh)

theorem removeChild_distinct (tree : DeviceTree Callback) (parentDeviceId deviceId : DeviceId)
    (htree : tree.DistinctDevices) :
    (tree.removeChild parentDeviceId deviceId).tree.DistinctDevices := by
  unfold removeChild
  split
  · exact htree
  · rename_i index _
    have hids : (clearFunc tree.nodes index).slots.map Node.deviceId =
        tree.nodes.slots.map Node.deviceId := by
      have hindex : index.val < (tree.nodes.slots.map Node.deviceId).length := by simp
      have hid : tree.nodes.slots[index].deviceId =
          (tree.nodes.slots.map Node.deviceId)[index.val] := by
        simp
      simp only [clearFunc, List.map_set, hid]
      exact List.set_getElem_self _
    have hsublist := (List.eraseIdx_sublist (clearFunc tree.nodes index).slots index).map
      Node.deviceId
    simp only [DistinctDevices, MoveVector.erase_slots]
    exact (hids ▸ htree : ((clearFunc tree.nodes index).slots.map Node.deviceId).Nodup).sublist
      hsublist

theorem remove_distinct (tree : DeviceTree Callback) (parentDeviceId : DeviceId)
    (htree : tree.DistinctDevices) : (tree.remove parentDeviceId).tree.DistinctDevices := by
  rw [DistinctDevices, remove_slots]
  exact htree.sublist (List.filter_sublist.map Node.deviceId)

theorem call_distinct (growth : Growth) (tree : DeviceTree Callback) (request : Call Callback)
    (htree : tree.DistinctDevices) : (tree.call growth request).tree.DistinctDevices := by
  cases request with
  | addChild parentDeviceId deviceId onParentRemoved =>
      exact addChild_distinct growth tree parentDeviceId deviceId onParentRemoved htree
  | removeChild parentDeviceId deviceId =>
      exact removeChild_distinct tree parentDeviceId deviceId htree
  | remove parentDeviceId => exact remove_distinct tree parentDeviceId htree

theorem after_distinct (growth : Growth) (calls : List (Call Callback)) :
    (after growth calls).DistinctDevices := by
  unfold after
  generalize hstart : (new : DeviceTree Callback) = start
  have hdistinct : start.DistinctDevices := by
    rw [← hstart]
    exact List.nodup_nil
  clear hstart
  induction calls generalizing start with
  | nil => exact hdistinct
  | cons request calls ih => exact ih _ (call_distinct growth start request hdistinct)

-- What a removed parent leaves: none of its own children, and all others.
theorem remove_allChildren (tree : DeviceTree Callback) (removed parentDeviceId : DeviceId) :
    (tree.remove removed).tree.allChildren parentDeviceId =
      if parentDeviceId = removed then [] else tree.allChildren parentDeviceId := by
  simp only [allChildren, remove_slots, List.filter_filter]
  by_cases hsame : parentDeviceId = removed
  · have hnone : tree.nodes.slots.filter
        (fun node => hasParent parentDeviceId node && !hasParent removed node) = [] := by
      simp [hsame]
    rw [hnone, if_pos hsame, List.map_nil]
  · have hall : ∀ node : Node Callback,
        (hasParent parentDeviceId node && !hasParent removed node) = hasParent parentDeviceId node := by
      intro node
      by_cases hnode : node.parentDeviceId = parentDeviceId
      · simp [hasParent, hnode, hsame]
      · simp [hasParent, hnode]
    simp only [hall, if_neg hsame]

end Devices

end DeviceTree

end HhctrlMgmt.Device
