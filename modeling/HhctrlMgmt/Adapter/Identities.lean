import HhctrlMgmt.Adapter.EntityFactory
import HhctrlMgmt.Mqtt.Configured
import Mathlib.Data.Set.BooleanAlgebra
import Mathlib.Order.CompletePartialOrder

namespace HhctrlMgmt.Adapter

open Common Device Mqtt

-- A board and its generic devices. Whichever serial number the board has, no two of
-- them share a device id.
structure Home where
  identity : DeviceIdentity
  broker : BrokerConfig
  boardId : DeviceId
  hatches : Set DeviceId
  tempSensors : Set DeviceId
  disjoint : Disjoint hatches tempSensors
  board_fresh : boardId ∉ hatches ∪ tempSensors

-- The topics of an entity: those below its own name, and the discovery topic.
inductive TopicName where
  | state
  | set
  | availability
  | jsonAttributes
  | config
deriving DecidableEq, Repr

def TopicName.topic (entity : Entity) : TopicName → Bytes
  | .state => entity.topic (ascii "state")
  | .set => entity.topic (ascii "set")
  | .availability => entity.topic GenericEntityConfig.availabilityTopic
  | .jsonAttributes => entity.topic GenericEntityConfig.jsonAttributesTopic
  | .config => setConfigTopic entity

namespace Home

variable (home : Home)

-- Whatever connects to the broker for a device of the home.
inductive Part where
  | hatch (deviceId : home.hatches)
  | tempSensor (deviceId : home.tempSensors)
  | indicator (indicatorType : IndicatorType)
  | restartButton

def entity : home.Part → Entity
  | .hatch deviceId => Hatch.entity home.broker home.identity deviceId
  | .tempSensor deviceId => TempSensor.entity home.broker home.identity deviceId
  | .indicator indicatorType => Indicator.entity home.broker home.identity home.boardId indicatorType
  | .restartButton => RestartButton.entity home.broker home.identity home.boardId

-- What a unique id says after the number of the device.
def rest : home.Part → Bytes
  | .hatch _ => []
  | .tempSensor _ => []
  | .indicator indicatorType => ascii "_i_" ++ decimal indicatorType.value
  | .restartButton => ascii "_restart_btn"

def number : home.Part → DeviceId
  | .hatch deviceId => deviceId
  | .tempSensor deviceId => deviceId
  | .indicator _ => home.boardId
  | .restartButton => home.boardId

-- The unique id of a part after the serial number and an underscore.
def suffix (part : home.Part) : Bytes :=
  decimal (home.number part) ++ home.rest part

theorem uniqueId_eq (part : home.Part) :
    (home.entity part).uniqueId = home.identity.serialNumber ++ (ascii "_" ++ home.suffix part) := by
  cases part with
  | hatch deviceId =>
      show getUniqueId deviceId home.identity = _
      simp only [getUniqueId, suffix, number, rest, List.append_assoc, List.append_nil]
  | tempSensor deviceId =>
      show getUniqueId deviceId home.identity = _
      simp only [getUniqueId, suffix, number, rest, List.append_assoc, List.append_nil]
  | indicator indicatorType =>
      show getUniqueId home.boardId home.identity ++ ascii "_i_" ++ decimal indicatorType.value = _
      simp only [getUniqueId, suffix, number, rest, List.append_assoc]
  | restartButton =>
      show getUniqueId home.boardId home.identity ++ ascii "_restart_btn" = _
      simp only [getUniqueId, suffix, number, rest, List.append_assoc]

-- The client id of a part is its unique id.
theorem clientId_eq (part : home.Part) :
    (home.entity part).client.config.uniqueId = (home.entity part).uniqueId := by
  cases part <;> rfl

theorem takeWhile_suffix (part : home.Part) :
    (home.suffix part).takeWhile (· ≠ 95) = decimal (home.number part) := by
  have hdecimal : ∀ byte ∈ decimal (home.number part), decide (byte ≠ 95) = true := by
    intro byte hbyte
    apply decide_eq_true
    rintro rfl
    exact underscore_notMem_decimal _ hbyte
  have hrest : (home.rest part).takeWhile (· ≠ 95) = [] := by
    cases part <;> rfl
  rw [suffix, List.takeWhile_append_of_pos hdecimal, hrest, List.append_nil]

-- A decimal number holds no underscore, so that the first one of a suffix ends it.
theorem suffix_inj (part other : home.Part) (heq : home.suffix part = home.suffix other) :
    home.number part = home.number other ∧ home.rest part = home.rest other := by
  have hnumber : decimal (home.number part) = decimal (home.number other) := by
    rw [← takeWhile_suffix, ← takeWhile_suffix, heq]
  refine ⟨decimal_injective hnumber, ?_⟩
  unfold suffix at heq
  rw [hnumber] at heq
  exact List.append_cancel_left heq

theorem suffix_injective : Function.Injective home.suffix := by
  intro part other heq
  obtain ⟨hnumber, hrest⟩ := home.suffix_inj part other heq
  have hboard : ∀ deviceId, deviceId ∈ home.hatches ∨ deviceId ∈ home.tempSensors → deviceId ≠ home.boardId := by
    rintro deviceId hdevice rfl
    exact home.board_fresh hdevice
  have hapart : ∀ hatch ∈ home.hatches, ∀ tempSensor ∈ home.tempSensors, hatch ≠ tempSensor := by
    rintro hatch hhatch _ hsensor rfl
    exact Set.disjoint_left.mp home.disjoint hhatch hsensor
  cases part with
  | hatch deviceId =>
      cases other with
      | hatch otherId => exact congrArg Part.hatch (Subtype.ext hnumber)
      | tempSensor otherId => exact absurd hnumber (hapart _ deviceId.2 _ otherId.2)
      | indicator _ => exact absurd hnumber (hboard _ (Or.inl deviceId.2))
      | restartButton => exact absurd hnumber (hboard _ (Or.inl deviceId.2))
  | tempSensor deviceId =>
      cases other with
      | hatch otherId => exact absurd hnumber.symm (hapart _ otherId.2 _ deviceId.2)
      | tempSensor otherId => exact congrArg Part.tempSensor (Subtype.ext hnumber)
      | indicator _ => exact absurd hnumber (hboard _ (Or.inr deviceId.2))
      | restartButton => exact absurd hnumber (hboard _ (Or.inr deviceId.2))
  | indicator indicatorType =>
      cases other with
      | hatch otherId => exact absurd hnumber.symm (hboard _ (Or.inl otherId.2))
      | tempSensor otherId => exact absurd hnumber.symm (hboard _ (Or.inr otherId.2))
      | indicator otherType =>
          have hvalue := decimal_injective (List.append_cancel_left hrest)
          exact congrArg Part.indicator (IndicatorType.value_injective hvalue)
      | restartButton => cases hrest
  | restartButton =>
      cases other with
      | hatch otherId => exact absurd hnumber.symm (hboard _ (Or.inl otherId.2))
      | tempSensor otherId => exact absurd hnumber.symm (hboard _ (Or.inr otherId.2))
      | indicator otherType => cases hrest
      | restartButton => rfl

theorem slash_notMem_suffix (part : home.Part) : 47 ∉ home.suffix part := by
  intro hmem
  rcases List.mem_append.mp hmem with hnumber | hrest
  · exact slash_notMem_decimal _ hnumber
  · cases part with
    | hatch _ => cases hrest
    | tempSensor _ => cases hrest
    | indicator indicatorType =>
        rcases List.mem_append.mp hrest with htext | hvalue
        · exact absurd htext (by decide)
        · exact slash_notMem_decimal _ hvalue
    | restartButton =>
        have habsent : 47 ∉ ascii "_restart_btn" := by decide
        exact habsent hrest

-- The topics_ that the class of a part keeps.
def classTopics (part : home.Part) : StaticMap Bytes Bytes :=
  match part with
  | .hatch _ => Cover.topics (home.entity part)
  | .tempSensor _ => Sensor.topics (home.entity part)
  | .indicator _ => BinarySensor.topics (home.entity part)
  | .restartButton => Button.topics (home.entity part)

theorem classTopics_named (part : home.Part) (entry : Bytes × Bytes) (hentry : entry ∈ (home.classTopics part).data) :
    ∃ name, TopicName.topic (home.entity part) name = entry.2 := by
  cases part with
  | hatch _ =>
      simp only [classTopics, Cover.topics, List.mem_cons, List.not_mem_nil, or_false] at hentry
      rcases hentry with rfl | rfl | rfl
      exacts [⟨.set, rfl⟩, ⟨.state, rfl⟩, ⟨.jsonAttributes, rfl⟩]
  | tempSensor _ =>
      simp only [classTopics, Sensor.topics, List.mem_cons, List.not_mem_nil, or_false] at hentry
      rcases hentry with rfl | rfl
      exacts [⟨.state, rfl⟩, ⟨.jsonAttributes, rfl⟩]
  | indicator _ =>
      simp only [classTopics, BinarySensor.topics, List.mem_cons, List.not_mem_nil, or_false] at hentry
      rcases hentry with rfl | rfl
      exacts [⟨.state, rfl⟩, ⟨.jsonAttributes, rfl⟩]
  | restartButton =>
      simp only [classTopics, Button.topics, List.mem_cons, List.not_mem_nil, or_false] at hentry
      rcases hentry with rfl
      exact ⟨.set, rfl⟩

end Home

-- The last level of a topic below the name of its entity.
def TopicName.level : TopicName → Bytes
  | .state => ascii "state"
  | .set => ascii "set"
  | .availability => ascii "availability_topic"
  | .jsonAttributes => ascii "json_attributes_topic"
  | .config => ascii "config"

theorem TopicName.level_injective (name other : TopicName) (hlevel : name.level = other.level) : name = other := by
  cases name <;> cases other <;> first | rfl | exact absurd hlevel (by decide)

theorem TopicName.slash_notMem_level (name : TopicName) : 47 ∉ name.level := by
  cases name <;> decide

-- How the topics of the entities start. The discovery topics are told apart from
-- the others by the first word.
def TopicName.word (entityName : Bytes) : TopicName → Bytes
  | .config => ascii "homeassistant/" ++ entityName ++ ascii "/"
  | _ => entityName ++ ascii "_"

namespace Home

variable (home : Home)

def entityNames : List Bytes :=
  [CoverConfig.entityName, SensorConfig.entityName, BinarySensorConfig.entityName, ButtonConfig.entityName]

def words : List Bytes :=
  entityNames.map (TopicName.word · .config) ++ entityNames.map (TopicName.word · .state)

theorem words_prefixFree : ∀ word ∈ words, ∀ other ∈ words, word <+: other → word = other := by
  decide

theorem entityName_mem (part : home.Part) : (home.entity part).entityName ∈ entityNames := by
  cases part with
  | hatch _ => exact List.mem_cons_self
  | tempSensor _ => exact List.mem_cons_of_mem _ List.mem_cons_self
  | indicator _ => exact List.mem_cons_of_mem _ (List.mem_cons_of_mem _ List.mem_cons_self)
  | restartButton => exact List.mem_cons_of_mem _ (List.mem_cons_of_mem _ (List.mem_cons_of_mem _ List.mem_cons_self))

theorem mem_words (part : home.Part) (name : TopicName) : name.word (home.entity part).entityName ∈ words := by
  have hname := home.entityName_mem part
  by_cases hconfig : name = .config
  · subst hconfig
    exact List.mem_append_left _ (List.mem_map_of_mem hname)
  · have hword : name.word (home.entity part).entityName = TopicName.state.word (home.entity part).entityName := by
      cases name <;> first | rfl | exact absurd rfl hconfig
    rw [hword]
    exact List.mem_append_right _ (List.mem_map_of_mem hname)

theorem topic_eq (part : home.Part) (name : TopicName) :
    name.topic (home.entity part) = name.word (home.entity part).entityName ++
      (home.identity.serialNumber ++ ascii "_" ++ (home.suffix part ++ 47 :: name.level)) := by
  have hid := home.uniqueId_eq part
  have hbelow : ∀ below : Bytes, (home.entity part).topic below = (home.entity part).entityName ++ ascii "_" ++
      (home.identity.serialNumber ++ ascii "_" ++ (home.suffix part ++ 47 :: below)) := by
    intro below
    have hcut : ascii "/" ++ below = 47 :: below := rfl
    simp only [Entity.topic, hid, List.append_assoc, hcut]
  cases name with
  | state => exact hbelow _
  | set => exact hbelow _
  | availability => exact hbelow _
  | jsonAttributes => exact hbelow _
  | config =>
      have hconfig : ascii "/config" = 47 :: ascii "config" := rfl
      simp only [TopicName.topic, setConfigTopic, TopicName.word, TopicName.level, hid, List.append_assoc, hconfig]

theorem topic_injective :
    Function.Injective fun place : home.Part × TopicName => place.2.topic (home.entity place.1) := by
  rintro ⟨part, name⟩ ⟨other, otherName⟩ heq
  simp only [topic_eq] at heq
  obtain ⟨-, htail⟩ :=
    append_inj_of_prefixFree words_prefixFree (home.mem_words part name) (home.mem_words other otherName) heq
  have hbody := List.append_cancel_left htail
  obtain ⟨hsuffix, -, hlevel⟩ :=
    (List.append_cons_inj_of_notMem (home.slash_notMem_suffix part) name.slash_notMem_level).mp hbody
  exact Prod.ext (home.suffix_injective hsuffix) (TopicName.level_injective name otherName hlevel)

-- The client id of an entity is its unique id, and a broker drops the older of two
-- clients of one id.
theorem identities_distinct :
    (Function.Injective fun part : home.Part => (home.entity part).uniqueId) ∧
    (Function.Injective fun part : home.Part => (home.entity part).client.config.uniqueId) ∧
    Function.Injective fun place : home.Part × TopicName => place.2.topic (home.entity place.1) := by
  have huniqueId : Function.Injective fun part : home.Part => (home.entity part).uniqueId := by
    intro part other heq
    simp only [uniqueId_eq] at heq
    have hsuffix := List.append_cancel_left (List.append_cancel_left heq)
    exact home.suffix_injective hsuffix
  refine ⟨huniqueId, ?_, home.topic_injective⟩
  intro part other heq
  simp only [clientId_eq] at heq
  exact huniqueId heq

end Home
end HhctrlMgmt.Adapter
