import HhctrlMgmt.Adapter.Board
import HhctrlMgmt.Adapter.Registry
import HhctrlMgmt.Adapter.TempSensor

namespace HhctrlMgmt.Adapter

open Common Coroutine Device Mqtt

section Init

variable {S : Sig} {σ Command State : Type} (W : World S σ)
  (respond : W.State → σ → (query : S.Query) → S.Answer query)

-- At this point every operation succeeds, and leaves it as it is.
structure Smooth (ops : Operations S σ Command State) (point : W.Point) : Prop where
  connect : exec W respond ops.asyncConnect point = (.ret none, point)
  config : ∃ config, exec W respond ops.config point = (.ret config, point)
  configure : ∀ config, exec W respond (ops.asyncConfigure config adapterDefaultPubopts) point = (.ret none, point)
  wait : exec W respond (ops.asyncWait 1) point = (.ret (), point)
  setAvailability :
    exec W respond (ops.asyncSetAvailability .online adapterDefaultPubopts) point = (.ret none, point)
  state : ∀ state, ops.state = some state → ∃ value, exec W respond state point = (.ret value, point)
  setState : ∀ state, exec W respond (ops.asyncSetState state adapterDefaultPubopts) point = (.ret none, point)

variable {W respond} {ops : Operations S σ Command State} {point : W.Point}

theorem Smooth.asyncSyncState (h : Smooth W respond ops point) :
    exec W respond (EntityAdapter.asyncSyncState ops) point = (.ret (), point) := by
  unfold EntityAdapter.asyncSyncState
  cases hstate : ops.state with
  | none => rfl
  | some state =>
      obtain ⟨value, hvalue⟩ := h.state state hstate
      exact (exec_bind_of_ret hvalue).trans (exec_bind_of_ret (h.setState value))

theorem Smooth.asyncConfigure (h : Smooth W respond ops point) :
    exec W respond (EntityAdapter.asyncConfigure ops) point = (.ret true, point) := by
  obtain ⟨config, hconfig⟩ := h.config
  refine (exec_bind_of_ret hconfig).trans ((exec_bind_of_ret (h.configure config)).trans ?_)
  refine (exec_bind_of_ret h.wait).trans ((exec_bind_of_ret h.setAvailability).trans ?_)
  exact exec_bind_of_ret h.asyncSyncState

theorem Smooth.asyncInit (h : Smooth W respond ops point) :
    exec W respond (EntityAdapter.asyncInit ops) point = (.ret true, point) := by
  have hretry : exec W respond (EntityAdapter.connectRetry ops initRetryAttempts none) point = (.ret none, point) :=
    exec_bind_of_ret h.connect
  exact (exec_bind_of_ret hretry).trans h.asyncConfigure

end Init

namespace Board

variable {rule : AnswerRule} (broker : BrokerConfig) (arrange : List Indicator → List Indicator) (spawn : Spawn)
  (deviceId : DeviceId) {identity : DeviceIdentity} {point : Journal × State}

-- The entities of a board.
def MainBoard.entities (board : MainBoard) : List Entity :=
  board.indicators.map (fun indicator =>
    Adapter.Indicator.entity broker indicator.identity indicator.deviceId indicator.indicatorType) ++
  [Adapter.RestartButton.entity broker board.restartButton.identity board.restartButton.deviceId]

theorem smooth_operations (part : Part) (config : EntityConfig) (state : Option (Task BinarySensorState))
    (handleRecvValue : part.Command → Task Unit)
    (hstate : ∀ task, state = some task → ∃ value, exec (boardWorld rule) succeeding task point = (.ret value, point)) :
    Smooth (boardWorld rule) succeeding (operations spawn part config state handleRecvValue) point :=
  ⟨rfl, ⟨config, rfl⟩, fun _ => rfl, rfl, rfl, hstate, fun _ => rfl⟩

variable (identity) in
theorem exec_createIndicator (indicatorType : IndicatorType) {state : Platform.IndicatorState}
    (hstate : point.2.indicatorState deviceId indicatorType = .ok state) (havailable : state ≠ .notAvailable) :
    exec (boardWorld rule) succeeding (Indicator.asyncCreate broker spawn deviceId indicatorType identity) point =
      (.ret (some ⟨deviceId, indicatorType, identity⟩), point) := by
  have hread : exec (boardWorld rule) succeeding (.ofExcept (point.2.indicatorState deviceId indicatorType)) point =
      (.ret state, point) := exec_ofExcept hstate
  have hsmooth : Smooth (boardWorld rule) succeeding
      (Indicator.adapter spawn ⟨deviceId, indicatorType, identity⟩) point := by
    refine smooth_operations spawn _ _ _ _ fun task htask => ?_
    obtain rfl := Option.some.inj htask
    cases state with
    | on => exact ⟨.on, exec_bind_of_ret hread⟩
    | notAvailable | off | blinking => exact ⟨.off, exec_bind_of_ret hread⟩
  refine (exec_bind_of_ret hread).trans ?_
  simp only [havailable, if_false]
  exact exec_bind_of_ret hsmooth.asyncInit

variable (identity) (point) in
theorem exec_createButton :
    exec (boardWorld rule) succeeding (RestartButton.asyncCreate broker spawn deviceId identity) point =
      (.ret (some ⟨deviceId, identity⟩), point) := by
  have hsmooth : Smooth (boardWorld rule) succeeding (RestartButton.adapter spawn ⟨deviceId, identity⟩) point :=
    smooth_operations spawn _ _ _ _ nofun
  exact (exec_bind_of_ret rfl).trans (exec_bind_of_ret hsmooth.asyncInit)

-- A board that is made where there is none is emplaced and spawned.
theorem exec_deviceCreated {respond : Respond} {board : MainBoard} {later : Journal × State}
    (hdevice : point.2.device = none)
    (hcreate : exec (boardWorld rule) respond (MainBoard.asyncCreate broker arrange spawn deviceId) point =
      (.ret (some board), later)) :
    exec (boardWorld rule) respond (MainBoardEventHandler.deviceCreated broker arrange spawn deviceId) point =
      (.ret (), (later.1.note (.emplaced spawn board),
        State.coSpawn (.run board) (MainBoardEventHandler.emplace board later.2))) := by
  simp only [MainBoardEventHandler.deviceCreated, Coro.bind_eq, Coro.state, Coro.bind, exec, hdevice,
    Option.isSome_none, Bool.false_eq_true, if_false]
  exact exec_bind_of_ret hcreate

-- A board with all its indicators is emplaced.
theorem deviceCreated_emplaces (hdevice : point.2.device = none) (hidentity : point.2.identity deviceId = .ok identity)
    (hstates : ∀ indicatorType, ∃ state, point.2.indicatorState deviceId indicatorType = .ok state ∧
      state ≠ .notAvailable) :
    ∃ later, exec (boardWorld rule) succeeding (MainBoardEventHandler.deviceCreated broker arrange spawn deviceId) point =
      (.ret (), later) ∧ later.2.device = some ⟨arrange [⟨deviceId, .fault, identity⟩, ⟨deviceId, .status, identity⟩,
        ⟨deviceId, .warning, identity⟩, ⟨deviceId, .maintenance, identity⟩], ⟨deviceId, identity⟩⟩ := by
  have hread (later : Journal) : exec (boardWorld rule) succeeding (.ofExcept (point.2.identity deviceId))
      (later, point.2) = (.ret identity, (later, point.2)) := exec_ofExcept hidentity
  have hindicator (indicatorType : IndicatorType) (journal : Journal) :
      exec (boardWorld rule) succeeding (Indicator.asyncCreate broker spawn deviceId indicatorType identity)
        (journal, point.2) = (.ret (some ⟨deviceId, indicatorType, identity⟩), (journal, point.2)) := by
    obtain ⟨state, hstate, havailable⟩ := hstates indicatorType
    exact exec_createIndicator broker spawn deviceId identity indicatorType hstate havailable
  have hcreate : exec (boardWorld rule) succeeding (MainBoard.asyncCreate broker arrange spawn deviceId) point =
      (.ret (some ⟨arrange [⟨deviceId, .fault, identity⟩, ⟨deviceId, .status, identity⟩,
        ⟨deviceId, .warning, identity⟩, ⟨deviceId, .maintenance, identity⟩], ⟨deviceId, identity⟩⟩),
        (point.1.note (.creating spawn), point.2)) := by
    refine (exec_bind_of_ret (hread _)).trans ((exec_bind_of_ret (hindicator .fault _)).trans ?_)
    refine (exec_bind_of_ret (hindicator .status _)).trans ((exec_bind_of_ret (hindicator .warning _)).trans ?_)
    refine (exec_bind_of_ret (hindicator .maintenance _)).trans ?_
    exact exec_bind_of_ret (exec_createButton broker spawn deviceId identity _)
  exact ⟨_, exec_deviceCreated broker arrange spawn deviceId hdevice hcreate, rfl⟩

-- A board without indicators is refused, whatever is answered.
theorem deviceCreated_refuses (respond : Respond) (hdevice : point.2.device = none)
    (hidentity : point.2.identity deviceId = .ok identity)
    (hstates : ∀ indicatorType, point.2.indicatorState deviceId indicatorType = .ok .notAvailable) :
    ∃ later, exec (boardWorld rule) respond (MainBoardEventHandler.deviceCreated broker arrange spawn deviceId) point =
      (.throw MainBoardEventHandler.cannotCreate, later) ∧ later.2.device = none := by
  refine ⟨(point.1.note (.creating spawn), point.2), ?_, hdevice⟩
  simp only [MainBoardEventHandler.deviceCreated, MainBoard.asyncCreate, Indicator.asyncCreate, Coro.bind_eq, Coro.state,
    Coro.label, Coro.bind, exec, hdevice, hidentity, hstates, Coro.ofExcept, Option.isSome_none, Bool.false_eq_true,
    if_false, if_true, Coro.pure_eq]

end Board

namespace Registry

-- The entity of a hatch.
def Hatch.entity (broker : BrokerConfig) (hatch : Hatch) : Entity :=
  Adapter.Hatch.entity broker hatch.deviceIdentity hatch.deviceId

-- Every operation succeeds.
def succeeding (_ : Journal) (_ : State) : (asked : registrySig.Query) → registrySig.Answer asked
  | (_, .connect) | (_, .configure _) | (_, .setAvailability _) | (_, .setState _) => .ok (none : Error)
  | (_, .receive) => .ok (Except.error none)
  | (_, .wait _) => .ok ()

variable {rule : AnswerRule} (broker : BrokerConfig) (deviceId : DeviceId) {identity : DeviceIdentity}
  {status : HatchState} {point : Journal × State}

theorem deviceCreated_pushes (hidentity : point.2.identity deviceId = .ok identity)
    (hstatus : point.2.status deviceId = .ok status) :
    exec (journalWorld rule) succeeding (HatchEventHandler.deviceCreated broker deviceId) point =
      (.ret (), (point.1.note (.created deviceId), HatchEventHandler.pushBack ⟨deviceId, identity⟩ point.2)) := by
  have hread : exec (journalWorld rule) succeeding (.ofExcept (point.2.identity deviceId)) point =
      (.ret identity, point) := exec_ofExcept hidentity
  have hstate : exec (journalWorld rule) succeeding (.ofExcept (point.2.status deviceId)) point =
      (.ret status, point) := exec_ofExcept hstatus
  have hsmooth : Smooth (journalWorld rule) succeeding (Hatch.operations (.deviceCreated deviceId) deviceId identity)
      point := by
    refine ⟨rfl, ⟨_, rfl⟩, fun _ => rfl, rfl, rfl, fun task htask => ?_, fun state => ?_⟩
    · obtain rfl := Option.some.inj htask
      exact ⟨_, exec_bind_of_ret hstate⟩
    · cases state with
      | undefined | «open» | opening | closing | closed => rfl
  have hcreate : exec (journalWorld rule) succeeding (Hatch.asyncCreate broker deviceId) point =
      (.ret (some ⟨deviceId, identity⟩), (point.1.note (.created deviceId), point.2)) :=
    (exec_bind_of_ret hread).trans ((exec_bind_of_ret rfl).trans (exec_bind_of_ret hsmooth.asyncInit))
  exact exec_bind_of_ret hcreate

end Registry

namespace Sensors

-- The entity of a sensor.
def TempSensor.entity (broker : BrokerConfig) (sensor : TempSensor) : Entity :=
  Adapter.TempSensor.entity broker sensor.deviceIdentity sensor.deviceId

-- Surroundings that keep no records.
abbrev sensorWorld : World sensorSig State where
  State := Unit
  enter _ _ := ()
  issue _ _ := ()
  allows _ _ _ _ := True
  answer _ _ _ := ()

-- Every operation succeeds.
def succeeding (_ : Unit) (_ : State) : (operation : Operation) → sensorSig.Answer operation
  | .connect | .configure _ | .setAvailability _ | .setState _ => .ok (none : Error)
  | .receive => .ok (Except.error none)
  | .wait _ => .ok ()

variable (broker : BrokerConfig) (deviceId : DeviceId) {identity : DeviceIdentity} {value : SensorState}
  {point : sensorWorld.Point}

theorem deviceCreated_pushes (hidentity : point.2.identity deviceId = .ok identity)
    (hvalue : point.2.value deviceId = .ok value) :
    exec sensorWorld succeeding (TempSensorEventHandler.deviceCreated broker deviceId) point =
      (.ret (), ((), TempSensorEventHandler.pushBack ⟨deviceId, identity⟩ point.2)) := by
  have hread : exec sensorWorld succeeding (.ofExcept (point.2.identity deviceId)) point = (.ret identity, point) :=
    exec_ofExcept hidentity
  have hstate : exec sensorWorld succeeding (.ofExcept (point.2.value deviceId)) point = (.ret value, point) :=
    exec_ofExcept hvalue
  have hsmooth : Smooth sensorWorld succeeding (TempSensor.operations ⟨deviceId, identity⟩) point := by
    refine ⟨rfl, ⟨_, rfl⟩, fun _ => rfl, rfl, rfl, fun task htask => ?_, fun _ => rfl⟩
    obtain rfl := Option.some.inj htask
    exact ⟨value, hstate⟩
  have hcreate : exec sensorWorld succeeding (TempSensor.asyncCreate broker deviceId) point =
      (.ret (some ⟨deviceId, identity⟩), point) :=
    (exec_bind_of_ret hread).trans ((exec_bind_of_ret rfl).trans (exec_bind_of_ret hsmooth.asyncInit))
  exact exec_bind_of_ret hcreate

end Sensors

end HhctrlMgmt.Adapter
