import HhctrlMgmt.Device.DeviceTree

namespace HhctrlMgmt.Device

namespace Node

-- The child and its parent.
def link {Callback : Type} (node : Node Callback) : DeviceId × DeviceId :=
  (node.deviceId, node.parentDeviceId)

end Node

namespace DeviceTree

variable {Callback : Type}

def links (tree : DeviceTree Callback) : List (DeviceId × DeviceId) :=
  tree.nodes.slots.map Node.link

section Links

theorem map_fst_links (tree : DeviceTree Callback) : tree.links.map Prod.fst = tree.nodes.slots.map Node.deviceId := by
  rw [links, List.map_map]
  rfl

theorem allChildren_eq (tree : DeviceTree Callback) (parentDeviceId : DeviceId) :
    tree.allChildren parentDeviceId = (tree.links.filter fun link => link.2 = parentDeviceId).map Prod.fst := by
  rw [links, List.filter_map, List.map_map]
  rfl

theorem mem_allChildren_iff (tree : DeviceTree Callback) (parentDeviceId deviceId : DeviceId) :
    deviceId ∈ tree.allChildren parentDeviceId ↔ (deviceId, parentDeviceId) ∈ tree.links := by
  rw [allChildren_eq]
  constructor
  · intro hmem
    obtain ⟨⟨child, parent⟩, hlink, rfl⟩ := List.mem_map.mp hmem
    obtain ⟨hlinks, hparent⟩ := List.mem_filter.mp hlink
    have heq : parent = parentDeviceId := of_decide_eq_true hparent
    rwa [heq] at hlinks
  · intro hlinks
    exact List.mem_map.mpr ⟨_, List.mem_filter.mpr ⟨hlinks, decide_eq_true rfl⟩, rfl⟩

theorem parent_eq_none_iff (tree : DeviceTree Callback) (deviceId : DeviceId) :
    tree.parent deviceId = none ↔ ∀ parentDeviceId, (deviceId, parentDeviceId) ∉ tree.links := by
  simp only [parent, Option.map_eq_none_iff, List.find?_eq_none, decide_eq_true_eq]
  constructor
  · intro hnone parentDeviceId hlink
    obtain ⟨node, hnode, heq⟩ := List.mem_map.mp hlink
    exact hnone node hnode (congrArg Prod.fst heq)
  · rintro hnone node hnode rfl
    exact hnone node.parentDeviceId (List.mem_map_of_mem hnode)

theorem parent_eq_some_iff (tree : DeviceTree Callback) (htree : tree.DistinctDevices)
    (deviceId parentDeviceId : DeviceId) :
    tree.parent deviceId = some parentDeviceId ↔ (deviceId, parentDeviceId) ∈ tree.links := by
  constructor
  · intro hparent
    obtain ⟨node, hfind, hnode⟩ := Option.map_eq_some_iff.mp hparent
    have hdevice : node.deviceId = deviceId := by simpa using List.find?_some hfind
    have hlink : node.link = (deviceId, parentDeviceId) := Prod.ext hdevice hnode
    exact hlink ▸ List.mem_map_of_mem (List.mem_of_find?_eq_some hfind)
  · intro hlink
    cases hparent : tree.parent deviceId with
    | none => exact absurd hlink ((tree.parent_eq_none_iff deviceId).mp hparent parentDeviceId)
    | some other =>
        -- the node that is found first is the only one of the device
        obtain ⟨node, hfind, hnode⟩ := Option.map_eq_some_iff.mp hparent
        have hdevice : node.deviceId = deviceId := by simpa using List.find?_some hfind
        obtain ⟨linked, hlinked, heq⟩ := List.mem_map.mp hlink
        have hsame : node = linked := List.inj_on_of_nodup_map htree (List.mem_of_find?_eq_some hfind) hlinked
          (hdevice.trans (congrArg Prod.fst heq).symm)
        have hother : linked.parentDeviceId = parentDeviceId := congrArg Prod.snd heq
        rw [← hnode, hsame, hother]

end Links

section Updates

theorem addChild_links (growth : Growth) (tree : DeviceTree Callback) (parentDeviceId deviceId : DeviceId)
    (onParentRemoved : Option Callback) :
    (tree.addChild growth parentDeviceId deviceId onParentRemoved).tree.links =
      if tree.parent deviceId = none then tree.links ++ [(deviceId, parentDeviceId)] else tree.links := by
  unfold addChild parent
  cases hfind : tree.nodes.slots.find? fun node => node.deviceId = deviceId with
  | some node => rfl
  | none =>
      simp only [Option.map_none, if_true, links, MoveVector.emplaceBack_slots, List.map_append]
      rfl

theorem addChild_value (growth : Growth) (tree : DeviceTree Callback) (parentDeviceId deviceId : DeviceId)
    (onParentRemoved : Option Callback) :
    (tree.addChild growth parentDeviceId deviceId onParentRemoved).value = true ↔
      tree.parent deviceId = none ∨ tree.parent deviceId = some parentDeviceId := by
  unfold addChild parent
  cases hfind : tree.nodes.slots.find? fun node => node.deviceId = deviceId with
  | some node => simp
  | none => simp

-- remove_child looks for the first node with the link.
def hasLink (parentDeviceId deviceId : DeviceId) (node : Node Callback) : Bool :=
  node.parentDeviceId = parentDeviceId ∧ node.deviceId = deviceId

theorem erase_links (tree : DeviceTree Callback) (parentDeviceId deviceId : DeviceId) :
    tree.links.erase (deviceId, parentDeviceId) =
      (tree.nodes.slots.eraseP (hasLink parentDeviceId deviceId)).map Node.link := by
  have hpred : (fun link => (deviceId, parentDeviceId) == link) ∘ Node.link =
      @hasLink Callback parentDeviceId deviceId := by
    funext node
    rw [Bool.eq_iff_iff]
    simp only [Function.comp, Node.link, hasLink, beq_iff_eq, Prod.mk.injEq, decide_eq_true_eq]
    exact ⟨fun h => ⟨h.2.symm, h.1.symm⟩, fun h => ⟨h.2.symm, h.1.symm⟩⟩
  rw [links, List.erase_eq_eraseP, List.eraseP_map, hpred]

theorem removeChild_links (tree : DeviceTree Callback) (parentDeviceId deviceId : DeviceId) :
    (tree.removeChild parentDeviceId deviceId).tree.links = tree.links.erase (deviceId, parentDeviceId) := by
  rw [erase_links, List.eraseP_eq_eraseIdx]
  have hindex : tree.nodes.slots.findIdx? (hasLink parentDeviceId deviceId) =
      (tree.nodes.slots.findFinIdx? (hasLink parentDeviceId deviceId)).map fun index => index.val :=
    List.findIdx?_eq_map_findFinIdx?_val
  unfold removeChild
  unfold hasLink at hindex ⊢
  cases hfind : tree.nodes.slots.findFinIdx? fun node =>
      node.parentDeviceId = parentDeviceId ∧ node.deviceId = deviceId with
  | none =>
      simp only [hfind, Option.map_none] at hindex
      simp only [hindex]
      rfl
  | some index =>
      simp only [hfind, Option.map_some] at hindex
      simp only [hindex, links, MoveVector.erase_slots, clearFunc]
      exact congrArg (List.map Node.link) List.eraseIdx_set_eq

theorem removeChild_value (tree : DeviceTree Callback) (parentDeviceId deviceId : DeviceId) :
    (tree.removeChild parentDeviceId deviceId).value = true ↔ (deviceId, parentDeviceId) ∈ tree.links := by
  unfold removeChild
  cases hfind : tree.nodes.slots.findFinIdx? fun node =>
      node.parentDeviceId = parentDeviceId ∧ node.deviceId = deviceId with
  | none =>
      refine iff_of_false Bool.false_ne_true fun hlink => ?_
      obtain ⟨node, hnode, heq⟩ := List.mem_map.mp hlink
      have habsent := List.findFinIdx?_eq_none_iff.mp hfind node hnode
      have hdevice : node.deviceId = deviceId := congrArg Prod.fst heq
      have hparent : node.parentDeviceId = parentDeviceId := congrArg Prod.snd heq
      simp [hdevice, hparent] at habsent
  | some index =>
      have hfound := (List.findFinIdx?_eq_some_iff.mp hfind).1
      obtain ⟨hparent, hdevice⟩ : tree.nodes.slots[index].parentDeviceId = parentDeviceId ∧
          tree.nodes.slots[index].deviceId = deviceId := by simpa using hfound
      have hlink : tree.nodes.slots[index].link = (deviceId, parentDeviceId) := Prod.ext hdevice hparent
      exact iff_of_true rfl (hlink ▸ List.mem_map_of_mem (List.getElem_mem index.isLt))

theorem remove_links (tree : DeviceTree Callback) (parentDeviceId : DeviceId) :
    (tree.remove parentDeviceId).tree.links = tree.links.filter fun link => link.2 ≠ parentDeviceId := by
  rw [links, remove_slots, links, List.filter_map]
  refine congrArg (List.map Node.link) (List.filter_congr fun node _ => ?_)
  by_cases hparent : node.parentDeviceId = parentDeviceId <;> simp [hasParent, Node.link, hparent]

theorem remove_value (tree : DeviceTree Callback) (parentDeviceId : DeviceId) :
    (tree.remove parentDeviceId).value = true ↔ tree.allChildren parentDeviceId ≠ [] := by
  have hcount : tree.nodes.slots.length = (tree.nodes.slots.filter (hasParent parentDeviceId)).length +
      (tree.nodes.slots.filter fun node => !hasParent parentDeviceId node).length :=
    List.length_eq_length_filter_add (hasParent parentDeviceId)
  have hchildren : (tree.allChildren parentDeviceId).length =
      (tree.nodes.slots.filter (hasParent parentDeviceId)).length := List.length_map _
  have hvalue : (tree.remove parentDeviceId).value =
      decide (tree.nodes.slots.length - (tree.remove parentDeviceId).tree.nodes.slots.length ≠ 0) := rfl
  rw [hvalue, remove_slots, decide_eq_true_eq, ← List.length_pos_iff_ne_nil]
  omega

end Updates

-- What a call makes of a partial function from children to parents, whose links are
-- listed in the order of their insertion.
def linkAfter (links : List (DeviceId × DeviceId)) : Call Callback → List (DeviceId × DeviceId)
  | .addChild parentDeviceId deviceId _ =>
    if deviceId ∈ links.map Prod.fst then links else links ++ [(deviceId, parentDeviceId)]
  | .removeChild parentDeviceId deviceId => links.erase (deviceId, parentDeviceId)
  | .remove parentDeviceId => links.filter fun link => link.2 ≠ parentDeviceId

def linksAfter (calls : List (Call Callback)) : List (DeviceId × DeviceId) :=
  calls.foldl linkAfter []

section Refinement

theorem parent_eq_none_iff_notMem (tree : DeviceTree Callback) (deviceId : DeviceId) :
    tree.parent deviceId = none ↔ deviceId ∉ tree.links.map Prod.fst := by
  rw [parent_eq_none_iff]
  constructor
  · intro hnone hmem
    obtain ⟨⟨child, parentDeviceId⟩, hlink, rfl⟩ := List.mem_map.mp hmem
    exact hnone parentDeviceId hlink
  · intro hnot parentDeviceId hlink
    exact hnot (List.mem_map_of_mem hlink)

theorem call_links (growth : Growth) (tree : DeviceTree Callback) (request : Call Callback) :
    (tree.call growth request).tree.links = linkAfter tree.links request := by
  cases request with
  | addChild parentDeviceId deviceId onParentRemoved =>
      have hlinks := addChild_links growth tree parentDeviceId deviceId onParentRemoved
      simp only [parent_eq_none_iff_notMem, ite_not] at hlinks
      exact hlinks
  | removeChild parentDeviceId deviceId => exact removeChild_links tree parentDeviceId deviceId
  | remove parentDeviceId => exact remove_links tree parentDeviceId

theorem after_links (growth : Growth) (calls : List (Call Callback)) :
    (after growth calls).links = linksAfter calls := by
  have hfold (start : DeviceTree Callback) :
      (calls.foldl (fun tree request => (tree.call growth request).tree) start).links =
        calls.foldl linkAfter start.links := by
    induction calls generalizing start with
    | nil => rfl
    | cons request calls ih =>
        rw [List.foldl_cons, List.foldl_cons, ih, call_links]
  exact hfold new

end Refinement

section Parents

theorem parent_eq_of_links {changed : DeviceTree Callback} (hchanged : changed.DistinctDevices)
    (parents : DeviceId → Option DeviceId)
    (hlinks : ∀ deviceId parentDeviceId, (deviceId, parentDeviceId) ∈ changed.links ↔
      parents deviceId = some parentDeviceId) : changed.parent = parents := by
  funext deviceId
  refine Option.ext fun parentDeviceId => ?_
  rw [parent_eq_some_iff changed hchanged, hlinks]

variable (growth : Growth) (tree : DeviceTree Callback) (htree : tree.DistinctDevices)

include htree

theorem addChild_parent (parentDeviceId deviceId : DeviceId) (onParentRemoved : Option Callback) :
    (tree.addChild growth parentDeviceId deviceId onParentRemoved).tree.parent =
      if tree.parent deviceId = none then Function.update tree.parent deviceId (some parentDeviceId)
      else tree.parent := by
  have hdistinct := addChild_distinct growth tree parentDeviceId deviceId onParentRemoved htree
  refine parent_eq_of_links hdistinct _ fun child parent => ?_
  rw [addChild_links]
  by_cases hnone : tree.parent deviceId = none
  · rw [if_pos hnone, if_pos hnone, List.mem_append, ← parent_eq_some_iff tree htree, List.mem_singleton]
    by_cases hchild : child = deviceId
    · subst hchild
      simp [hnone, eq_comm]
    · simp [hchild]
  · rw [if_neg hnone, if_neg hnone, ← parent_eq_some_iff tree htree]

theorem removeChild_parent (parentDeviceId deviceId : DeviceId) :
    (tree.removeChild parentDeviceId deviceId).tree.parent =
      if tree.parent deviceId = some parentDeviceId then Function.update tree.parent deviceId none
      else tree.parent := by
  have hdistinct := removeChild_distinct tree parentDeviceId deviceId htree
  have hnodup : tree.links.Nodup := List.Nodup.of_map Prod.fst (by rw [map_fst_links]; exact htree)
  refine parent_eq_of_links hdistinct _ fun child parent => ?_
  rw [removeChild_links, hnodup.mem_erase_iff, ← parent_eq_some_iff tree htree]
  by_cases hlinked : tree.parent deviceId = some parentDeviceId
  · rw [if_pos hlinked]
    by_cases hchild : child = deviceId
    · subst hchild
      simp [hlinked, eq_comm]
    · simp [hchild]
  · rw [if_neg hlinked]
    refine and_iff_right_of_imp fun hparent heq => ?_
    rw [Prod.mk.injEq] at heq
    obtain ⟨rfl, rfl⟩ := heq
    exact hlinked hparent

theorem remove_parent (parentDeviceId deviceId : DeviceId) :
    (tree.remove parentDeviceId).tree.parent deviceId =
      if tree.parent deviceId = some parentDeviceId then none else tree.parent deviceId := by
  have hdistinct := remove_distinct tree parentDeviceId htree
  have hparents := parent_eq_of_links hdistinct
    (fun child => if tree.parent child = some parentDeviceId then none else tree.parent child) fun child parent => ?_
  · exact congrFun hparents deviceId
  · rw [remove_links, List.mem_filter, ← parent_eq_some_iff tree htree]
    by_cases hlinked : tree.parent child = some parentDeviceId
    · rw [if_pos hlinked, hlinked]
      refine iff_of_false ?_ nofun
      rintro ⟨heq, hother⟩
      exact of_decide_eq_true hother (Option.some.inj heq).symm
    · rw [if_neg hlinked, and_iff_left_iff_imp]
      rintro hparent
      have hother : parent ≠ parentDeviceId := fun heq => hlinked (heq ▸ hparent)
      exact decide_eq_true hother

theorem nodup_allChildren (parentDeviceId : DeviceId) : (tree.allChildren parentDeviceId).Nodup := by
  have hids : (tree.links.map Prod.fst).Nodup := by
    rw [map_fst_links]
    exact htree
  rw [allChildren_eq]
  exact hids.sublist (List.filter_sublist.map Prod.fst)

omit htree in
theorem addChild_allChildren (parentDeviceId deviceId other : DeviceId) (onParentRemoved : Option Callback) :
    (tree.addChild growth parentDeviceId deviceId onParentRemoved).tree.allChildren other =
      if tree.parent deviceId = none ∧ other = parentDeviceId then tree.allChildren other ++ [deviceId]
      else tree.allChildren other := by
  rw [allChildren_eq, allChildren_eq, addChild_links]
  by_cases hnone : tree.parent deviceId = none
  · rw [if_pos hnone, List.filter_append, List.map_append]
    by_cases hother : other = parentDeviceId
    · rw [if_pos ⟨hnone, hother⟩]
      simp [hother]
    · rw [if_neg fun h => hother h.2]
      simp [Ne.symm hother]
  · rw [if_neg hnone, if_neg fun h => hnone h.1]

theorem removeChild_allChildren (parentDeviceId deviceId other : DeviceId) :
    (tree.removeChild parentDeviceId deviceId).tree.allChildren other =
      if other = parentDeviceId then (tree.allChildren other).erase deviceId else tree.allChildren other := by
  have hnodup : tree.links.Nodup := List.Nodup.of_map Prod.fst (by rw [map_fst_links]; exact htree)
  have hchildren := tree.nodup_allChildren htree other
  by_cases hother : other = parentDeviceId
  · rw [if_pos hother, hchildren.erase_eq_filter, allChildren_eq, allChildren_eq, removeChild_links,
      hnodup.erase_eq_filter, List.filter_map, List.filter_filter, List.filter_filter]
    refine congrArg (List.map Prod.fst) (List.filter_congr fun link _ => ?_)
    obtain ⟨child, parent⟩ := link
    subst hother
    rw [Bool.eq_iff_iff]
    simp only [Function.comp, Bool.and_eq_true, bne_iff_ne, ne_eq, Prod.mk.injEq, decide_eq_true_eq]
    constructor
    · rintro ⟨rfl, hlink⟩
      exact ⟨fun hchild => hlink ⟨hchild, rfl⟩, rfl⟩
    · rintro ⟨hchild, rfl⟩
      exact ⟨rfl, fun hlink => hchild hlink.1⟩
  · rw [if_neg hother, allChildren_eq, allChildren_eq, removeChild_links, hnodup.erase_eq_filter, List.filter_filter]
    refine congrArg (List.map Prod.fst) (List.filter_congr fun link _ => ?_)
    obtain ⟨child, parent⟩ := link
    by_cases hparent : parent = other
    · simp [hparent, hother]
    · simp [hparent]

end Parents

-- The tree is a partial function from children to parents, and an operation reports
-- and does to it what its name says.
structure ActsAsParents (growth : Growth) (tree : DeviceTree Callback) : Prop where
  distinct : tree.DistinctDevices
  parent : ∀ parentDeviceId deviceId,
    tree.parent deviceId = some parentDeviceId ↔ deviceId ∈ tree.allChildren parentDeviceId
  once : ∀ parentDeviceId deviceId, deviceId ∈ tree.allChildren parentDeviceId →
    (tree.allChildren parentDeviceId).count deviceId = 1
  addChild_value : ∀ parentDeviceId deviceId onParentRemoved,
    (tree.addChild growth parentDeviceId deviceId onParentRemoved).value = true ↔
      (tree.addChild growth parentDeviceId deviceId onParentRemoved).tree.parent deviceId = some parentDeviceId
  addChild_parent : ∀ parentDeviceId deviceId onParentRemoved,
    (tree.addChild growth parentDeviceId deviceId onParentRemoved).tree.parent =
      if tree.parent deviceId = none then Function.update tree.parent deviceId (some parentDeviceId)
      else tree.parent
  addChild_allChildren : ∀ parentDeviceId deviceId other onParentRemoved,
    (tree.addChild growth parentDeviceId deviceId onParentRemoved).tree.allChildren other =
      if tree.parent deviceId = none ∧ other = parentDeviceId then tree.allChildren other ++ [deviceId]
      else tree.allChildren other
  removeChild_value : ∀ parentDeviceId deviceId,
    (tree.removeChild parentDeviceId deviceId).value = true ↔ tree.parent deviceId = some parentDeviceId
  removeChild_parent : ∀ parentDeviceId deviceId,
    (tree.removeChild parentDeviceId deviceId).tree.parent =
      if tree.parent deviceId = some parentDeviceId then Function.update tree.parent deviceId none
      else tree.parent
  removeChild_allChildren : ∀ parentDeviceId deviceId other,
    (tree.removeChild parentDeviceId deviceId).tree.allChildren other =
      if other = parentDeviceId then (tree.allChildren other).erase deviceId else tree.allChildren other
  remove_value : ∀ parentDeviceId,
    (tree.remove parentDeviceId).value = true ↔ ∃ deviceId, tree.parent deviceId = some parentDeviceId
  remove_parent : ∀ parentDeviceId deviceId, (tree.remove parentDeviceId).tree.parent deviceId =
    if tree.parent deviceId = some parentDeviceId then none else tree.parent deviceId
  remove_allChildren : ∀ removed parentDeviceId, (tree.remove removed).tree.allChildren parentDeviceId =
    if parentDeviceId = removed then [] else tree.allChildren parentDeviceId

theorem actsAsParents (growth : Growth) (tree : DeviceTree Callback) (htree : tree.DistinctDevices) :
    tree.ActsAsParents growth where
  distinct := htree
  parent parentDeviceId deviceId := by
    rw [parent_eq_some_iff tree htree, mem_allChildren_iff]
  once parentDeviceId deviceId hmem := List.count_eq_one_of_mem (tree.nodup_allChildren htree parentDeviceId) hmem
  addChild_value parentDeviceId deviceId onParentRemoved := by
    rw [addChild_value, addChild_parent growth tree htree]
    by_cases hnone : tree.parent deviceId = none
    · simp [hnone]
    · simp [hnone]
  addChild_parent := addChild_parent growth tree htree
  addChild_allChildren := addChild_allChildren growth tree
  removeChild_value parentDeviceId deviceId := by
    rw [removeChild_value, parent_eq_some_iff tree htree]
  removeChild_parent := removeChild_parent tree htree
  removeChild_allChildren := removeChild_allChildren tree htree
  remove_value parentDeviceId := by
    simp only [remove_value, parent_eq_some_iff tree htree, ← mem_allChildren_iff]
    constructor
    · exact List.exists_mem_of_ne_nil _
    · rintro ⟨deviceId, hmem⟩
      exact List.ne_nil_of_mem hmem
  remove_parent := remove_parent tree htree
  remove_allChildren := remove_allChildren tree

-- Every tree that calls leave is such a function, and lists the children of a parent
-- in the order of their insertion.
theorem after_actsAsParents (growth : Growth) (calls : List (Call Callback)) :
    (after growth calls).ActsAsParents growth ∧
      (∀ parentDeviceId, (after growth calls).allChildren parentDeviceId =
        ((linksAfter calls).filter fun link => link.2 = parentDeviceId).map Prod.fst) ∧
      ∀ request, ((after growth calls).call growth request).tree.links =
        linkAfter (after growth calls).links request := by
  refine ⟨actsAsParents growth _ (after_distinct growth calls), fun parentDeviceId => ?_, fun request => ?_⟩
  · rw [allChildren_eq, after_links]
  · exact call_links growth (after growth calls) request

end DeviceTree

end HhctrlMgmt.Device
