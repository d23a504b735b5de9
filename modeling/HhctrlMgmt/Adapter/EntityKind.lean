import HhctrlMgmt.Adapter.EntityAdapter
import HhctrlMgmt.Mqtt.Advertised
import HhctrlMgmt.Mqtt.BinarySensor
import HhctrlMgmt.Mqtt.Sensor

namespace HhctrlMgmt.Adapter

open Common Coroutine Mqtt

section Operations

variable {State δ : Type} (P : Platform) (impl : Impl Empty State δ) (fuel : Nat)

-- The adapter of a sensor: its class has no commands, and its async_receive only gives
-- back an error.
def stateOperations (asyncConfigure : EntityConfig → Pubopts → EntityM Error)
    (asyncSetState : State → Pubopts → EntityM Error) (asyncReceive : EntityM Error) :
    Operations sig (Entity × δ) Empty State :=
  { commandOperations P impl fuel asyncConfigure asyncSetState .spin with
    asyncReceive := do
      let error ← onEntity asyncReceive
      return .error error }

end Operations

-- The entity classes of the program.
inductive EntityKind where
  | cover
  | button
  | binarySensor
  | sensor
deriving DecidableEq

namespace EntityKind

abbrev Command : EntityKind → Type
  | .cover => CoverCommand
  | .button => ButtonCommand
  | .binarySensor | .sensor => Empty

abbrev State : EntityKind → Type
  | .cover => CoverState
  | .button => Empty
  | .binarySensor => BinarySensorState
  | .sensor => SensorState

def completeConfig : EntityKind → Entity → EntityConfig → Except Exn EntityConfig
  | .cover => Cover.completeConfig
  | .button => Button.completeConfig
  | .binarySensor => BinarySensor.completeConfig
  | .sensor => Sensor.completeConfig

-- The last part of the topic that the entity subscribes to, if any.
def commandTopic : EntityKind → Option Bytes
  | .cover => some CoverConfig.Default.switchCommandTopic
  | .button => some ButtonConfig.Default.commandTopic
  | .binarySensor | .sensor => none

-- The last part of the topic of a state.
def stateTopic : Bytes := ascii "state"

-- What is published for a state, if anything.
def statePayload : (kind : EntityKind) → kind.State → Option Bytes
  | .cover, state => if state = .undefined then none else (coverStateMapper.mapKey state).toOption
  | .button, state => state.elim
  | .binarySensor, state => (binarySensorStateMapper.mapKey state).toOption
  | .sensor, state => some state

section Operations

variable (P : Platform) (fuel : Nat) {δ : Type}

def asyncConfigure : EntityKind → EntityConfig → Pubopts → EntityM Error
  | .cover => Cover.asyncConfigure P fuel
  | .button => Button.asyncConfigure P fuel
  | .binarySensor => BinarySensor.asyncConfigure P fuel
  | .sensor => Sensor.asyncConfigure P fuel

def asyncSetState : (kind : EntityKind) → kind.State → Pubopts → EntityM Error
  | .cover => Cover.asyncSetState P
  | .button => Empty.elim
  | .binarySensor => BinarySensor.asyncSetState P
  | .sensor => Sensor.asyncSetState P

def operations : (kind : EntityKind) → Impl kind.Command kind.State δ →
    Operations sig (Entity × δ) kind.Command kind.State
  | .cover, impl => coverOperations P fuel impl
  | .button, impl => buttonOperations P fuel impl
  | .binarySensor, impl =>
      stateOperations P impl fuel (BinarySensor.asyncConfigure P fuel) (BinarySensor.asyncSetState P)
        (BinarySensor.asyncReceive P fuel)
  | .sensor, impl =>
      stateOperations P impl fuel (Sensor.asyncConfigure P fuel) (Sensor.asyncSetState P) (Sensor.asyncReceive P fuel)

-- A button has no states.
theorem setState_unique (first second : Empty → Pubopts → EntityM Error) : first = second :=
  funext fun state => state.elim

-- All kinds initialise alike: only async_receive differs.
theorem asyncConfigure_eq (kind : EntityKind) (impl : Impl kind.Command kind.State δ) :
    EntityAdapter.asyncConfigure (kind.operations P fuel impl) =
      EntityAdapter.asyncConfigure (commandOperations P impl fuel (kind.asyncConfigure P fuel)
        (kind.asyncSetState P) .spin) := by
  cases kind with
  | cover | binarySensor | sensor => rfl
  | button =>
      exact congrArg (fun setState => EntityAdapter.asyncConfigure
        (commandOperations P impl fuel (Button.asyncConfigure P fuel) setState .spin)) (setState_unique _ _)

theorem asyncInit_eq (kind : EntityKind) (impl : Impl kind.Command kind.State δ) :
    EntityAdapter.asyncInit (kind.operations P fuel impl) =
      EntityAdapter.asyncInit (commandOperations P impl fuel (kind.asyncConfigure P fuel)
        (kind.asyncSetState P) .spin) := by
  cases kind with
  | cover | binarySensor | sensor => rfl
  | button =>
      exact congrArg (fun setState => EntityAdapter.asyncInit
        (commandOperations P impl fuel (Button.asyncConfigure P fuel) setState .spin)) (setState_unique _ _)

end Operations

end EntityKind

section Journal

variable {α : Type} (P : Platform) (fuel : Nat)

-- A part of an entity whose packets are not restricted.
abbrev EntityLogs (ret : α → Diary × Entity → Prop) (task : EntityM α) (point : Diary × Entity) : Prop :=
  EntityHands (fun _ => True) ret task point

theorem requests_any (log : Diary) : Requests (fun _ => True) log :=
  fun _ _ => trivial

-- The result of async_configure that is no error: the config publish has been
-- acknowledged, then the subscription, if there is one.
def KindConfigured (kind : EntityKind) (config : EntityConfig) (pubopts : Pubopts) (before later : Diary × Entity) : Prop :=
  ∃ complete configured, kind.completeConfig before.2 config = .ok complete ∧
    ConfigSent (P.serialize (configObject before.2 complete)) pubopts before configured ∧
    match kind.commandTopic with
    | none => later = configured
    | some topic => SubscribeSent [before.2.topic topic] configured later

theorem logs_command (kind : EntityKind) (config : EntityConfig) (pubopts : Pubopts) (topic : Bytes)
    (complete : EntityConfig) (point : Diary × Entity) (hcomplete : kind.completeConfig point.2 config = .ok complete)
    (hkind : kind.commandTopic = some topic) (commandTopic : Entity → Except Exn Bytes)
    (htopic : commandTopic point.2 = .ok (point.2.topic topic)) :
    EntityLogs (fun result later => result = none → KindConfigured P kind config pubopts point later)
      (configureWith P fuel (fun entity => kind.completeConfig entity config) commandTopic pubopts) point := by
  refine Surroundings.keeps_mono (entityHands_configureWith P fuel (fun _ => trivial) _ commandTopic pubopts point
    complete (point.2.topic topic) hcomplete htopic (fun _ => trivial) (fun _ => trivial) (requests_any _))
    fun result later hlater hnone => ?_
  obtain ⟨configured, hconfig, hsubscribe⟩ := hlater.2 hnone
  refine ⟨complete, configured, hcomplete, hconfig, ?_⟩
  rw [hkind]
  exact hsubscribe

-- A class without commands only publishes its configuration.
theorem logs_state (kind : EntityKind) (config : EntityConfig) (pubopts : Pubopts) (point : Diary × Entity)
    (hkind : kind.commandTopic = none) :
    EntityLogs (fun result later => result = none → KindConfigured P kind config pubopts point later)
      (do
        .label (.entity .asyncConfigure)
        let entity ← .state
        let config ← .ofExcept (kind.completeConfig entity config)
        Entity.asyncSetConfig P fuel config pubopts) point := by
  simp only [Coro.bind_eq, Coro.label, Coro.state, Coro.bind]
  refine Surroundings.keeps_enter _ _ (Surroundings.keeps_get _ (Surroundings.keeps_ofExcept _ _ (requests_any _)
    fun complete hcomplete => ?_))
  refine Surroundings.keeps_mono (entityHands_setConfig P fuel (fun _ => trivial) complete pubopts point
    (fun _ => trivial) (requests_any _)) fun result later hlater hnone => ?_
  refine ⟨complete, later, hcomplete, hlater.2 hnone, ?_⟩
  rw [hkind]

theorem logs_configure (kind : EntityKind) (config : EntityConfig) (pubopts : Pubopts) (point : Diary × Entity) :
    EntityLogs (fun result later => result = none → KindConfigured P kind config pubopts point later)
      (kind.asyncConfigure P fuel config pubopts) point := by
  cases kind with
  | cover =>
      obtain ⟨complete, hcomplete⟩ : ∃ complete, Cover.completeConfig point.2 config = .ok complete := ⟨_, rfl⟩
      have hconfigure := cover_asyncConfigure_eq P fuel config pubopts
      rw [EntityKind.asyncConfigure, hconfigure]
      exact logs_command P fuel .cover config pubopts _ complete point hcomplete rfl _ rfl
  | button =>
      obtain ⟨complete, hcomplete⟩ : ∃ complete, Button.completeConfig point.2 config = .ok complete := ⟨_, rfl⟩
      have hconfigure := button_asyncConfigure_eq P fuel config pubopts
      rw [EntityKind.asyncConfigure, hconfigure]
      exact logs_command P fuel .button config pubopts _ complete point hcomplete rfl _ rfl
  | binarySensor => exact logs_state P fuel .binarySensor config pubopts point rfl
  | sensor => exact logs_state P fuel .sensor config pubopts point rfl

theorem logs_setAvailability (availability : Availability) (payload : Bytes) (pubopts : Pubopts)
    (point : Diary × Entity) (hpayload : availabilityStateMapper.mapKey availability = .ok payload) :
    EntityLogs (fun result later => PublishEnds P (point.2.topic GenericEntityConfig.availabilityTopic) payload pubopts
        point result later) (Entity.asyncSetAvailability P availability pubopts) point := by
  simp only [Entity.asyncSetAvailability, Coro.bind_eq, Coro.label, Coro.state, Coro.bind, hpayload, ofExcept_ok]
  refine Surroundings.keeps_enter _ _ (Surroundings.keeps_get _ ?_)
  exact Surroundings.keeps_mono (entityHands_publish P _ payload pubopts (fun _ => trivial) point (requests_any _))
    fun result later hlater => hlater.2

-- How async_set_state ends.
def StateEnds (kind : EntityKind) (state : kind.State) (pubopts : Pubopts) (before : Diary × Entity) (result : Error)
    (later : Diary × Entity) : Prop :=
  match kind.statePayload state with
  | none => later = before
  | some payload => PublishEnds P (before.2.topic EntityKind.stateTopic) payload pubopts before result later

theorem logs_publishState (kind : EntityKind) (state : kind.State) (payload : Except Exn Bytes) (pubopts : Pubopts)
    (point : Diary × Entity) (hpayload : kind.statePayload state = payload.toOption) :
    EntityLogs (StateEnds P kind state pubopts point)
      ((Coro.ofExcept payload).bind fun payload =>
        Entity.asyncPublish P (point.2.topic EntityKind.stateTopic) payload pubopts) point := by
  refine Surroundings.keeps_ofExcept _ _ (requests_any _) fun value hvalue => ?_
  refine Surroundings.keeps_mono (entityHands_publish P _ value pubopts (fun _ => trivial) point (requests_any _))
    fun result later hlater => ?_
  unfold StateEnds
  rw [hpayload, hvalue]
  exact hlater.2

theorem logs_setState (kind : EntityKind) (state : kind.State) (pubopts : Pubopts) (point : Diary × Entity) :
    EntityLogs (StateEnds P kind state pubopts point) (kind.asyncSetState P state pubopts) point := by
  cases kind with
  | button => exact state.elim
  | cover =>
      by_cases hundefined : state = .undefined
      · have hnone : EntityKind.cover.statePayload state = none := if_pos hundefined
        simp only [EntityKind.asyncSetState, Cover.asyncSetState, Coro.bind_eq, Coro.label, Coro.bind, hundefined,
          if_true]
        refine Surroundings.keeps_enter _ _ (Surroundings.keeps_ret _ ?_)
        unfold StateEnds
        rw [hundefined] at hnone
        rw [hnone]
      · have hpayload : EntityKind.cover.statePayload state = (coverStateMapper.mapKey state).toOption :=
          if_neg hundefined
        have htopic := (cover_topics point.2).2.1
        simp only [EntityKind.asyncSetState, Cover.asyncSetState, Coro.bind_eq, Coro.label, Coro.state, Coro.bind,
          hundefined, if_false]
        refine Surroundings.keeps_enter _ _ (Surroundings.keeps_get _ ?_)
        rw [htopic]
        exact logs_publishState P .cover state _ pubopts point hpayload
  | binarySensor =>
      refine Surroundings.keeps_enter _ _ (Surroundings.keeps_get _ ?_)
      exact logs_publishState P .binarySensor state (binarySensorStateMapper.mapKey state) pubopts point rfl
  | sensor =>
      refine Surroundings.keeps_enter _ _ (Surroundings.keeps_get _ ?_)
      exact logs_publishState P .sensor state (.ok state) pubopts point rfl

end Journal

end HhctrlMgmt.Adapter
