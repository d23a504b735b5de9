import HhctrlMgmt.Mqtt.Error

namespace HhctrlMgmt.Mqtt

open Common

structure EntityConfig where
  object : Object := []

namespace EntityConfig

def setOverride (key : Bytes) (value : Json) (config : EntityConfig) : EntityConfig :=
  ⟨config.object.assign key value⟩

def set (key : Bytes) (value : Json) (config : EntityConfig) : EntityConfig :=
  if config.object.contains key then config else config.setOverride key value

def setOverrideIfNotNull (key : Bytes) (value : Json) (config : EntityConfig) : EntityConfig :=
  if config.object.contains key && (config.object.lookup key).any Json.isNull then config
  else config.setOverride key value

def parse (P : Platform) (config : EntityConfig) : Bytes :=
  P.serialize config.object

-- The rules by which an entity completes the configuration that it is given.
inductive Rule where
  | override
  | overrideIfNotNull
  | set
deriving DecidableEq

structure Edit where
  rule : Rule
  key : Bytes
  value : Json

def Edit.apply (config : EntityConfig) (edit : Edit) : EntityConfig :=
  match edit.rule with
  | .override => config.setOverride edit.key edit.value
  | .overrideIfNotNull => config.setOverrideIfNotNull edit.key edit.value
  | .set => config.set edit.key edit.value

def edited (edits : List Edit) (config : EntityConfig) : EntityConfig :=
  edits.foldl Edit.apply config

section

variable (config : EntityConfig) (key : Bytes) (value : Json) (edits : List Edit)

theorem edited_nil : edited [] config = config := by rfl

theorem edited_override :
    edited (⟨.override, key, value⟩ :: edits) config = edited edits (config.setOverride key value) := by rfl

theorem edited_overrideIfNotNull :
    edited (⟨.overrideIfNotNull, key, value⟩ :: edits) config =
      edited edits (config.setOverrideIfNotNull key value) := by rfl

theorem edited_set :
    edited (⟨.set, key, value⟩ :: edits) config = edited edits (config.set key value) := by rfl

end

-- What an edit makes of the value that was given for its key.
def Edit.result (edit : Edit) (given : Option Json) : Json :=
  match edit.rule with
  | .override => edit.value
  | .overrideIfNotNull => if given.any Json.isNull then .null else edit.value
  | .set => given.getD edit.value

section Edits

variable (config : EntityConfig)

theorem lookup_setOverrideIfNotNull (key : Bytes) (value : Json) :
    (config.setOverrideIfNotNull key value).object.lookup key =
      some (if (config.object.lookup key).any Json.isNull then .null else value) := by
  unfold setOverrideIfNotNull
  cases hgiven : config.object.lookup key with
  | none => simp [setOverride]
  | some given =>
      have hcontains : config.object.contains key = true :=
        (Object.contains_iff _ key).mpr (hgiven ▸ Option.some_ne_none given)
      by_cases hnull : given.isNull = true
      · have hvalue : given = .null := by
          cases given <;> simp_all [Json.isNull]
        simp [hcontains, hgiven, hvalue, Json.isNull]
      · simp [hcontains, hnull, setOverride]

theorem lookup_set (key : Bytes) (value : Json) :
    (config.set key value).object.lookup key = some ((config.object.lookup key).getD value) := by
  unfold set
  by_cases hcontains : config.object.contains key = true
  · obtain ⟨given, hgiven⟩ := Option.ne_none_iff_exists'.mp ((Object.contains_iff _ key).mp hcontains)
    rw [if_pos hcontains, hgiven]
    rfl
  · have habsent : config.object.lookup key = none := not_not.mp ((Object.contains_iff _ key).not.mp hcontains)
    simp [hcontains, habsent, setOverride]

theorem Edit.lookup_apply (edit : Edit) :
    (edit.apply config).object.lookup edit.key = some (edit.result (config.object.lookup edit.key)) := by
  unfold apply result
  cases edit.rule with
  | override => exact Object.lookup_assign_self _ _ _
  | overrideIfNotNull => exact lookup_setOverrideIfNotNull config _ _
  | set => exact lookup_set config _ _

theorem Edit.lookup_apply_ne (edit : Edit) (key : Bytes) (hkey : key ≠ edit.key) :
    (edit.apply config).object.lookup key = config.object.lookup key := by
  have hassign (value : Json) : (config.setOverride edit.key value).object.lookup key = config.object.lookup key :=
    Object.lookup_assign_ne _ _ _ _ hkey
  unfold apply
  cases edit.rule with
  | override => exact hassign _
  | overrideIfNotNull =>
      simp only [setOverrideIfNotNull]
      split_ifs
      · rfl
      · exact hassign _
  | set =>
      simp only [set]
      split_ifs
      · rfl
      · exact hassign _

theorem lookup_edited_ne (edits : List Edit) (key : Bytes) (hkey : key ∉ edits.map Edit.key) :
    (edited edits config).object.lookup key = config.object.lookup key := by
  induction edits generalizing config with
  | nil => rfl
  | cons edit edits ih =>
      rw [List.map_cons, List.mem_cons, not_or] at hkey
      exact (ih (edit.apply config) hkey.2).trans (edit.lookup_apply_ne config key hkey.1)

-- Where every key is edited once, an edit sees the value that was given.
theorem lookup_edited (edits : List Edit) (hdistinct : (edits.map Edit.key).Nodup) (edit : Edit)
    (hedit : edit ∈ edits) :
    (edited edits config).object.lookup edit.key = some (edit.result (config.object.lookup edit.key)) := by
  induction edits generalizing config with
  | nil => exact absurd hedit List.not_mem_nil
  | cons first edits ih =>
      rw [List.map_cons, List.nodup_cons] at hdistinct
      rcases List.mem_cons.mp hedit with rfl | hlater
      · exact (lookup_edited_ne _ edits edit.key hdistinct.1).trans (edit.lookup_apply config)
      · have hne : edit.key ≠ first.key := fun heq => hdistinct.1 (heq ▸ List.mem_map_of_mem hlater)
        have hkept := first.lookup_apply_ne config edit.key hne
        exact (ih (first.apply config) hdistinct.2 hlater).trans (by rw [hkept])

end Edits

end EntityConfig

structure DeviceIdentity where
  manufacturer : Bytes
  model : Bytes
  serialNumber : Bytes
  hwRevision : Bytes
  swRevision : Bytes

-- helper::entity_config_basic_device
def entityConfigBasicDevice (identity : DeviceIdentity) : Json :=
  .object [
    (ascii "identifiers", .array [.string identity.serialNumber]),
    (ascii "manufacturer", .string identity.manufacturer),
    (ascii "model", .string identity.model),
    (ascii "name", .string (identity.manufacturer ++ ascii " " ++ identity.model ++ ascii " " ++ identity.hwRevision)),
    (ascii "sw_version", .string identity.swRevision)]

end HhctrlMgmt.Mqtt
