import HhctrlMgmt.Event.Delivery
import HhctrlMgmt.Platform.Discovery
import HhctrlMgmt.Sampling.Timers

namespace HhctrlMgmt.Platform

open Common Device Event Sampling

-- DeviceCreated<D>, DeviceRemoved<D> and DeviceStateChanged<D>
inductive Change where
  | created
  | removed
  | stateChanged
deriving DecidableEq, Repr

abbrev EventType := Change × DeviceKind

abbrev EventPayload (_ : EventType) := DeviceId

-- The handlers of the program are MainBoardEventHandler, HatchEventHandler and
-- TempSensorEventHandler: static variables, one for each kind of device.
abbrev DeviceBus := AsyncEventBus EventType DeviceKind Empty

abbrev DeviceCall := Call DeviceKind Empty EventPayload

abbrev DeviceInvocation := Invocation DeviceKind Empty EventPayload

-- The subscriptions of home_assistant_init, the latest first.
def homeAssistantSubscriptions : List DeviceCall :=
  [.subscribe (.stateChanged, .tempSensor) (.lvalue .tempSensor),
    .subscribe (.removed, .tempSensor) (.lvalue .tempSensor),
    .subscribe (.created, .tempSensor) (.lvalue .tempSensor),
    .subscribe (.stateChanged, .hatch) (.lvalue .hatch),
    .subscribe (.removed, .hatch) (.lvalue .hatch),
    .subscribe (.created, .hatch) (.lvalue .hatch),
    .subscribe (.stateChanged, .mainBoard) (.lvalue .mainBoard),
    .subscribe (.removed, .mainBoard) (.lvalue .mainBoard),
    .subscribe (.created, .mainBoard) (.lvalue .mainBoard)]

-- What a poller compares with what it has seen before.
structure PollerClass (σ : Type) where
  Value : Type
  -- the value that it begins with
  cached : Value
  -- operator!=, of the value that is read and the one that it has
  differs : Value → Value → Bool
  current : DeviceId → σ → Except Exn Value

-- What the pollers read of the devices, and what boost and the floating-point numbers do
-- with it.
structure Readings (σ τ : Type) where
  hatchStatus : DeviceId → σ → Except Exn HatchState
  indicatorState : DeviceId → IndicatorType → σ → Except Exn IndicatorState
  temperature : DeviceId → σ → Except Exn τ
  hashCombine : Nat → IndicatorState → Nat
  zero : τ
  notEqual : τ → τ → Bool

namespace Readings

variable {σ τ : Type} (R : Readings σ τ)

def hatchPoller : PollerClass σ where
  Value := Nat
  cached := 0
  differs tmpHash hash := tmpHash ≠ hash
  current deviceId devices := (R.hatchStatus deviceId devices).map HatchState.hash

def mainBoardPoller : PollerClass σ where
  Value := Nat
  cached := 0
  differs tmpHash hash := tmpHash ≠ hash
  current deviceId devices := do
    let tmpHash := R.hashCombine 0 (← R.indicatorState deviceId .fault devices)
    let tmpHash := R.hashCombine tmpHash (← R.indicatorState deviceId .maintenance devices)
    let tmpHash := R.hashCombine tmpHash (← R.indicatorState deviceId .warning devices)
    return R.hashCombine tmpHash (← R.indicatorState deviceId .status devices)

def tempSensorPoller : PollerClass σ where
  Value := τ
  cached := R.zero
  differs := R.notEqual
  current := R.temperature

def pollerClass : DeviceKind → PollerClass σ
  | .mainBoard => R.mainBoardPoller
  | .hatch => R.hatchPoller
  | .tempSensor => R.tempSensorPoller

end Readings

-- What a poller has cached, what it has read and when, and what it has announced, each
-- with the handlers that its event has reached.
structure Watch {σ : Type} (C : PollerClass σ) where
  cached : C.Value
  observed : List (Int × C.Value)
  announced : List (C.Value × List DeviceInvocation)

def Watch.new {σ : Type} (C : PollerClass σ) : Watch C := ⟨C.cached, [], []⟩

-- What comes out of the coroutine of a poller ends the program.
inductive PollFailure where
  | reading (thrown : Exn)
  | publishing (thrown : BusExn)

section Service

variable {σ τ : Type} (R : Readings σ τ) (pollers : List Poller)

abbrev classOf (i : Fin pollers.length) : PollerClass σ :=
  R.pollerClass (pollers.get i).poll.kind

-- The polling service with its coroutines, and what they work on.
structure PollingService where
  timers : Timers (Fin pollers.length)
  devices : σ
  bus : DeviceBus
  watch : (i : Fin pollers.length) → Watch (classOf R pollers i)
  thrown : Option PollFailure

-- The event that a poller publishes.
def changeOf (i : Fin pollers.length) : Sigma EventPayload :=
  ⟨(.stateChanged, (pollers.get i).poll.kind), (pollers.get i).poll.deviceId⟩

namespace PollingService

variable {R pollers}

def setWatch (i : Fin pollers.length) (watch : Watch (classOf R pollers i)) (service : PollingService R pollers) :
    PollingService R pollers :=
  { service with watch := Function.update service.watch i watch }

-- What the poller of a device reads.
def reading (service : PollingService R pollers) (i : Fin pollers.length) : Except Exn (classOf R pollers i).Value :=
  (classOf R pollers i).current (pollers.get i).poll.deviceId service.devices

-- operator() of a poller
def poll (i : Fin pollers.length) (service : PollingService R pollers) : PollingService R pollers :=
  let watch := service.watch i
  match service.reading i with
  | .error thrown => { service with thrown := some (.reading thrown) }
  | .ok value =>
    let observed := watch.observed ++ [(service.timers.now, value)]
    if (classOf R pollers i).differs value watch.cached then
      match service.bus.publish id (changeOf pollers i) with
      | .error thrown => { service with thrown := some (.publishing thrown) }
      | .ok (invocations, bus) =>
        { service with bus := bus }.setWatch i ⟨value, observed, watch.announced ++ [(value, invocations)]⟩
    else service.setWatch i { watch with observed := observed }

variable (R pollers) (latency : Int)

abbrev intervals (i : Fin pollers.length) : Int := (pollers.get i).interval

-- Time passes or a loop sets its timer; the timer of a loop has expired and its device is
-- polled; the devices change; or another event is published. An exception ends all.
inductive Step : PollingService R pollers → PollingService R pollers → Prop
  | wait (service : PollingService R pollers) (timers : Timers (Fin pollers.length)) (hthrown : service.thrown = none)
      (hstep : Timers.Step (intervals pollers) latency service.timers none timers) :
      Step service { service with timers := timers }
  | poll (service : PollingService R pollers) (i : Fin pollers.length) (timers : Timers (Fin pollers.length))
      (hthrown : service.thrown = none)
      (hstep : Timers.Step (intervals pollers) latency service.timers (some i) timers) :
      Step service (PollingService.poll i { service with timers := timers })
  | change (service : PollingService R pollers) (devices : σ) (hthrown : service.thrown = none) :
      Step service { service with devices := devices }
  | publish (service : PollingService R pollers) (event : Sigma EventPayload) (invocations : List DeviceInvocation)
      (bus : DeviceBus) (hthrown : service.thrown = none)
      (hpublish : service.bus.publish id event = .ok (invocations, bus)) : Step service { service with bus := bus }

-- The pollers have been added since, and home_assistant_init has made its subscriptions.
-- Other event types may have got their ids before.
structure Starts (generator : EventIdGenerator EventType) (service : PollingService R pollers) : Prop where
  ready : ∀ i, service.timers.phase i = .ready service.timers.now
  bus : Event.after id generator homeAssistantSubscriptions = .ok service.bus
  watch : ∀ i, service.watch i = .new _
  thrown : service.thrown = none

def Reach : PollingService R pollers → PollingService R pollers → Prop :=
  Relation.ReflTransGen (Step R pollers latency)

end PollingService
end Service

section Bus

-- Each event type has one handler, the one of its kind of device.
theorem subscriptions_wired (published : List (Sigma EventPayload)) (type : EventType) :
    ∃ count, subscriptions type (published.map Call.publish ++ homeAssistantSubscriptions) =
      [(.lvalue type.2, count)] := by
  induction published with
  | nil =>
      obtain ⟨change, kind⟩ := type
      refine ⟨0, ?_⟩
      cases change with
      | created | removed | stateChanged => cases kind <;> rfl
  | cons event published ih =>
      obtain ⟨count, hcount⟩ := ih
      rw [List.map_cons, List.cons_append, subscriptions, hcount]
      by_cases htype : event.1 = type
      · rw [if_pos htype]
        exact ⟨count + 1, rfl⟩
      · rw [if_neg htype]
        exact ⟨count, rfl⟩

-- A bus on which nothing but home_assistant_init has subscribed.
def Wired (bus : DeviceBus) : Prop :=
  ∃ published : List (Sigma EventPayload), Tracks id (published.map Call.publish ++ homeAssistantSubscriptions) bus

theorem wired_start {generator : EventIdGenerator EventType} {bus : DeviceBus}
    (h : Event.after id generator homeAssistantSubscriptions = .ok bus) : Wired bus := by
  obtain ⟨first, hfirst, htracks⟩ : ∃ first, Event.after id generator homeAssistantSubscriptions = .ok first ∧
      Tracks id homeAssistantSubscriptions first := tracks_after generator _
  obtain rfl : first = bus := Except.ok.inj (hfirst.symm.trans h)
  exact ⟨[], htracks⟩

-- What an event leads to.
def reached (event : Sigma EventPayload) : List DeviceInvocation :=
  [⟨.reference event.1.2, event⟩]

theorem Wired.publish {bus : DeviceBus} (h : Wired bus) (event : Sigma EventPayload) :
    ∃ later, bus.publish id event = .ok (reached event, later) ∧ Wired later := by
  obtain ⟨published, htracks⟩ := h
  obtain ⟨later, hpublish, hlater⟩ := tracks_publish htracks event
  obtain ⟨count, hcount⟩ := subscriptions_wired published event.1
  refine ⟨later, ?_, event :: published, hlater⟩
  rw [hpublish, hcount, List.map_cons, List.map_nil]
  simp only [captureFwd, left_iterate_reference]
  rfl

end Bus

section Watches

variable {σ : Type} {C : PollerClass σ}

-- The values that a poller has announced, after the one that it began with.
def Watch.values (watch : Watch C) : List C.Value :=
  C.cached :: watch.announced.map Prod.fst

-- What a poller has announced are the changes of what it has read, and each announcement
-- has led to the same.
structure Watch.Faithful (invocations : List DeviceInvocation) (watch : Watch C) : Prop where
  changes : (watch.observed.map Prod.snd).destutter' (fun earlier later => C.differs later earlier = true) C.cached =
    watch.values
  cached : watch.values.getLast? = some watch.cached
  reached : ∀ entry ∈ watch.announced, entry.2 = invocations

-- A poller need not announce a value any more.
def Watch.Settled (value : C.Value) (watch : Watch C) : Prop :=
  watch.cached = value ∨ C.differs value watch.cached = false

namespace Watch.Faithful

variable {invocations : List DeviceInvocation} {watch : Watch C}

theorem changes_concat (h : watch.Faithful invocations) (time : Int) (value : C.Value) :
    ((watch.observed ++ [(time, value)]).map Prod.snd).destutter'
        (fun earlier later => C.differs later earlier = true) C.cached =
      watch.values ++ if C.differs value watch.cached = true then [value] else [] := by
  obtain ⟨front, hfront⟩ := List.getLast?_eq_some_iff.mp h.cached
  have hconcat := destutter'_concat _ _ value watch.cached front (h.changes.trans hfront)
  rw [List.map_append, List.map_cons, List.map_nil, hconcat, ← hfront]

theorem same (h : watch.Faithful invocations) (time : Int) (value : C.Value)
    (hsame : C.differs value watch.cached = false) :
    Watch.Faithful invocations { watch with observed := watch.observed ++ [(time, value)] } := by
  refine ⟨?_, h.cached, h.reached⟩
  have hconcat := h.changes_concat time value
  rw [hsame, if_neg Bool.false_ne_true, List.append_nil] at hconcat
  exact hconcat

theorem announce (h : watch.Faithful invocations) (time : Int) (value : C.Value)
    (hdiffers : C.differs value watch.cached = true) :
    Watch.Faithful invocations
      ⟨value, watch.observed ++ [(time, value)], watch.announced ++ [(value, invocations)]⟩ := by
  have hvalues : Watch.values ⟨value, watch.observed ++ [(time, value)], watch.announced ++ [(value, invocations)]⟩ =
      watch.values ++ [value] := by
    simp only [Watch.values, List.map_append, List.map_cons, List.map_nil, List.cons_append]
  refine ⟨?_, ?_, fun entry hentry => ?_⟩
  · rw [hvalues]
    have hconcat := h.changes_concat time value
    rw [if_pos hdiffers] at hconcat
    exact hconcat
  · rw [hvalues]
    exact List.getLast?_concat
  · rcases List.mem_append.mp hentry with hbefore | hnow
    · exact h.reached entry hbefore
    · rw [List.mem_singleton.mp hnow]

end Watch.Faithful

theorem Watch.new_faithful (invocations : List DeviceInvocation) : (Watch.new C).Faithful invocations :=
  ⟨rfl, rfl, fun _ hentry => absurd hentry List.not_mem_nil⟩

end Watches

namespace PollingService

variable {σ τ : Type} {R : Readings σ τ} {pollers : List Poller}

@[simp] theorem setWatch_watch_self (i : Fin pollers.length) (watch : Watch (classOf R pollers i))
    (service : PollingService R pollers) : (setWatch i watch service).watch i = watch :=
  Function.update_self _ _ _

theorem setWatch_watch_ne {i other : Fin pollers.length} (h : other ≠ i) (watch : Watch (classOf R pollers i))
    (service : PollingService R pollers) : (setWatch i watch service).watch other = service.watch other :=
  Function.update_of_ne h _ _

-- A poll fails to read its device, reads a value that is no change, or announces it.
theorem poll_cases (service : PollingService R pollers) (hbus : Wired service.bus) (i : Fin pollers.length) :
    (∃ thrown, service.reading i = .error thrown ∧
      poll i service = { service with thrown := some (.reading thrown) }) ∨
    ∃ value, service.reading i = .ok value ∧
      ((classOf R pollers i).differs value (service.watch i).cached = false ∧
          poll i service = setWatch i
            { service.watch i with observed := (service.watch i).observed ++ [(service.timers.now, value)] } service ∨
        (classOf R pollers i).differs value (service.watch i).cached = true ∧ ∃ later, Wired later ∧
          poll i service = setWatch i
            ⟨value, (service.watch i).observed ++ [(service.timers.now, value)],
              (service.watch i).announced ++ [(value, reached (changeOf pollers i))]⟩
            { service with bus := later }) := by
  cases hread : service.reading i with
  | error thrown =>
      refine .inl ⟨thrown, rfl, ?_⟩
      unfold poll
      simp only [hread]
  | ok value =>
      refine .inr ⟨value, rfl, ?_⟩
      cases hdiffers : (classOf R pollers i).differs value (service.watch i).cached with
      | false =>
          refine .inl ⟨rfl, ?_⟩
          unfold poll
          simp only [hread, hdiffers, Bool.false_eq_true, if_false]
      | true =>
          obtain ⟨later, hpublish, hlater⟩ := hbus.publish (changeOf pollers i)
          refine .inr ⟨rfl, later, hlater, ?_⟩
          unfold poll
          simp only [hread, hdiffers, if_true, hpublish]

theorem poll_timers (i : Fin pollers.length) (service : PollingService R pollers) :
    (poll i service).timers = service.timers := by
  unfold poll
  split
  · rfl
  · dsimp only
    split_ifs
    · split <;> rfl
    · rfl

-- The pollers are faithful, and nothing but a reading has thrown.
structure Sound (service : PollingService R pollers) : Prop where
  bus : Wired service.bus
  watch : ∀ i, (service.watch i).Faithful (reached (changeOf pollers i))
  thrown : ∀ failure, service.thrown = some failure →
    ∃ i thrown, service.reading i = .error thrown ∧ failure = .reading thrown

theorem Starts.sound {generator : EventIdGenerator EventType} {service : PollingService R pollers}
    (h : service.Starts R pollers generator) : service.Sound := by
  refine ⟨wired_start h.bus, fun i => ?_, fun failure hfailure => ?_⟩
  · rw [h.watch i]
    exact Watch.new_faithful _
  · rw [h.thrown] at hfailure
    cases hfailure

theorem Sound.setWatch {service : PollingService R pollers} (h : service.Sound) (i : Fin pollers.length)
    (watch : Watch (classOf R pollers i)) (hwatch : watch.Faithful (reached (changeOf pollers i))) :
    (service.setWatch i watch).Sound := by
  refine ⟨h.bus, fun other => ?_, h.thrown⟩
  by_cases hother : other = i
  · subst hother
    rw [setWatch_watch_self]
    exact hwatch
  · rw [setWatch_watch_ne hother]
    exact h.watch other

theorem Sound.poll {service : PollingService R pollers} (h : service.Sound) (i : Fin pollers.length) :
    (PollingService.poll i service).Sound := by
  rcases poll_cases service h.bus i with
    ⟨thrown, hread, heq⟩ | ⟨value, hread, ⟨hsame, heq⟩ | ⟨hdiffers, later, hlater, heq⟩⟩
  · rw [heq]
    exact ⟨h.bus, h.watch, fun failure hfailure => ⟨i, thrown, hread, (Option.some.inj hfailure).symm⟩⟩
  · rw [heq]
    exact h.setWatch i _ ((h.watch i).same _ value hsame)
  · rw [heq]
    have hbus : Sound { service with bus := later } := ⟨hlater, h.watch, h.thrown⟩
    exact hbus.setWatch i _ ((h.watch i).announce _ value hdiffers)

section Run

variable {latency : Int} {first last : PollingService R pollers}

theorem Sound.step (h : first.Sound) (hstep : Step R pollers latency first last) : last.Sound := by
  cases hstep with
  | wait timers _ _ => exact ⟨h.bus, h.watch, h.thrown⟩
  | poll i timers _ _ =>
      have htimers : Sound { first with timers := timers } := ⟨h.bus, h.watch, h.thrown⟩
      exact htimers.poll i
  | change devices hthrown =>
      refine ⟨h.bus, h.watch, fun failure hfailure => ?_⟩
      rw [hthrown] at hfailure
      cases hfailure
  | publish event invocations bus hthrown hpublish =>
      obtain ⟨later, hlater, hwired⟩ := h.bus.publish event
      obtain ⟨rfl, rfl⟩ := Prod.mk.inj (Except.ok.inj (hpublish.symm.trans hlater))
      exact ⟨hwired, h.watch, h.thrown⟩

theorem Sound.run (h : first.Sound) (hreach : Reach R pollers latency first last) : last.Sound := by
  induction hreach with
  | refl => exact h
  | tail _ hstep ih => exact ih.step hstep

-- When the devices have been polled: each round of a loop polls its device, but for one
-- that throws.
structure Polled (first : PollingService R pollers) (fired : List (Fin pollers.length × Int))
    (service : PollingService R pollers) : Prop where
  begun : ∀ i, (service.watch i).observed.map Prod.fst <+:
    (first.watch i).observed.map Prod.fst ++ Timers.times i fired
  running : service.thrown = none → ∀ i, (service.watch i).observed.map Prod.fst =
    (first.watch i).observed.map Prod.fst ++ Timers.times i fired

theorem polled_refl (first : PollingService R pollers) : Polled first [] first := by
  refine ⟨fun i => List.prefix_append _ _, fun _ i => ?_⟩
  rw [Timers.times, List.filter_nil, List.map_nil, List.append_nil]

-- A step of which the timers are the only part that the watches depend on.
theorem Polled.keep {fired : List (Fin pollers.length × Int)} {service later : PollingService R pollers}
    (h : Polled first fired service) (hthrown : service.thrown = none) (hwatch : later.watch = service.watch) :
    Polled first fired later := by
  refine ⟨fun i => ?_, fun _ i => ?_⟩
  · rw [hwatch]
    exact h.begun i
  · rw [hwatch]
    exact h.running hthrown i

theorem Polled.poll {fired : List (Fin pollers.length × Int)} {service : PollingService R pollers}
    (h : Polled first fired service) (hthrown : service.thrown = none) (hbus : Wired service.bus)
    (i : Fin pollers.length) :
    Polled first (fired ++ [(i, service.timers.now)]) (PollingService.poll i service) := by
  have hobserved : (PollingService.poll i service).thrown ≠ none ∧
        (PollingService.poll i service).watch = service.watch ∨
      ∃ watch bus value, PollingService.poll i service = PollingService.setWatch i watch { service with bus := bus } ∧
        watch.observed = (service.watch i).observed ++ [(service.timers.now, value)] := by
    rcases poll_cases service hbus i with ⟨thrown, _, heq⟩ | ⟨value, _, ⟨_, heq⟩ | ⟨_, later, _, heq⟩⟩
    · rw [heq]
      exact .inl ⟨by simp, rfl⟩
    · exact .inr ⟨_, service.bus, value, heq, rfl⟩
    · exact .inr ⟨_, later, value, heq, rfl⟩
  have htimes (other : Fin pollers.length) : Timers.times other (fired ++ [(i, service.timers.now)]) =
      Timers.times other fired ++ Timers.times other [(i, service.timers.now)] := Timers.times_append _ _ _
  rcases hobserved with ⟨hended, hwatch⟩ | ⟨watch, bus, value, heq, hobserved⟩
  · refine ⟨fun other => ?_, fun hnone => absurd hnone hended⟩
    rw [hwatch, h.running hthrown other, htimes, ← List.append_assoc]
    exact List.prefix_append _ _
  · have hrounds (other : Fin pollers.length) : ((PollingService.poll i service).watch other).observed.map Prod.fst =
        (first.watch other).observed.map Prod.fst ++ Timers.times other (fired ++ [(i, service.timers.now)]) := by
      rw [heq, htimes, ← List.append_assoc, ← h.running hthrown other]
      by_cases hother : other = i
      · subst hother
        rw [setWatch_watch_self, hobserved, Timers.times_self, List.map_append]
        rfl
      · rw [setWatch_watch_ne hother, Timers.times_ne (Ne.symm hother), List.append_nil]
    refine ⟨fun other => ?_, fun _ other => hrounds other⟩
    rw [hrounds other]

theorem Reach.polled (h : first.Sound) (hreach : Reach R pollers latency first last) :
    ∃ fired, Timers.Run (intervals pollers) latency first.timers fired last.timers ∧ Polled first fired last := by
  induction hreach with
  | refl => exact ⟨[], .refl, polled_refl first⟩
  | @tail before after hreach hstep ih =>
      obtain ⟨fired, hrun, hpolled⟩ := ih
      have hbefore := h.run hreach
      cases hstep with
      | wait timers hthrown hstep =>
          refine ⟨fired, ?_, hpolled.keep hthrown rfl⟩
          simpa only [Option.toList_none, List.map_nil, List.append_nil] using hrun.step hstep
      | change devices hthrown => exact ⟨fired, hrun, hpolled.keep hthrown rfl⟩
      | publish event invocations bus hthrown _ => exact ⟨fired, hrun, hpolled.keep hthrown rfl⟩
      | poll i timers hthrown hstep =>
          have hnow : timers.now = before.timers.now := by cases hstep with | fire expiry _ _ => rfl
          have htimers : Polled first fired { before with timers := timers } := hpolled.keep hthrown rfl
          refine ⟨fired ++ [(i, before.timers.now)], ?_, ?_⟩
          · rw [poll_timers]
            exact hrun.step hstep
          · rw [← hnow]
            exact htimers.poll hthrown hbefore.bus i

theorem poll_settled (service : PollingService R pollers) (hbus : Wired service.bus) {i : Fin pollers.length}
    {value : (classOf R pollers i).Value} (hread : service.reading i = .ok value) :
    ((PollingService.poll i service).watch i).Settled value := by
  rcases poll_cases service hbus i with ⟨thrown, herror, _⟩ | ⟨other, hother, ⟨hsame, heq⟩ | ⟨_, later, _, heq⟩⟩
  · rw [hread] at herror
    cases herror
  · obtain rfl := Except.ok.inj (hread.symm.trans hother)
    rw [heq, setWatch_watch_self]
    exact .inr hsame
  · obtain rfl := Except.ok.inj (hread.symm.trans hother)
    rw [heq, setWatch_watch_self]
    exact .inl rfl

theorem poll_watch_ne (service : PollingService R pollers) (hbus : Wired service.bus) {i other : Fin pollers.length}
    (h : other ≠ i) : (PollingService.poll i service).watch other = service.watch other := by
  rcases poll_cases service hbus i with ⟨thrown, _, heq⟩ | ⟨value, _, ⟨_, heq⟩ | ⟨_, later, _, heq⟩⟩
  · rw [heq]
  · rw [heq, setWatch_watch_ne h]
  · rw [heq, setWatch_watch_ne h]

-- Steps after which a device still has a value.
def Keeps (R : Readings σ τ) (pollers : List Poller) (latency : Int) (i : Fin pollers.length)
    (value : (classOf R pollers i).Value) (before after : PollingService R pollers) : Prop :=
  Step R pollers latency before after ∧ after.reading i = .ok value

theorem Keeps.reach {i : Fin pollers.length} {value : (classOf R pollers i).Value}
    (h : Relation.ReflTransGen (Keeps R pollers latency i value) first last) : Reach R pollers latency first last :=
  h.lift id fun _ _ hkeeps => hkeeps.1

-- One poll in such a stretch is enough.
theorem settled_run (h : first.Sound) {i : Fin pollers.length} {value : (classOf R pollers i).Value}
    (hfirst : first.reading i = .ok value)
    (hrun : Relation.ReflTransGen (Keeps R pollers latency i value) first last) :
    last.Sound ∧ last.reading i = .ok value ∧
      ∃ fired, Timers.Run (intervals pollers) latency first.timers fired last.timers ∧
        (Timers.times i fired ≠ [] → (last.watch i).Settled value) := by
  induction hrun with
  | refl => exact ⟨h, hfirst, [], .refl, fun hnone => absurd rfl hnone⟩
  | @tail before after _ hstep ih =>
      obtain ⟨hsound, hread, fired, hrun, hsettled⟩ := ih
      obtain ⟨hstep, hkept⟩ := hstep
      refine ⟨hsound.step hstep, hkept, ?_⟩
      cases hstep with
      | wait timers hthrown htimers =>
          refine ⟨fired, ?_, hsettled⟩
          simpa only [Option.toList_none, List.map_nil, List.append_nil] using hrun.step htimers
      | change devices hthrown => exact ⟨fired, hrun, hsettled⟩
      | publish event invocations bus hthrown _ => exact ⟨fired, hrun, hsettled⟩
      | poll polled timers hthrown htimers =>
          refine ⟨fired ++ [(polled, before.timers.now)], ?_, fun htimes => ?_⟩
          · rw [poll_timers]
            exact hrun.step htimers
          · by_cases hpolled : i = polled
            · subst hpolled
              exact poll_settled { before with timers := timers } hsound.bus hread
            · rw [poll_watch_ne { before with timers := timers } hsound.bus hpolled]
              rw [Timers.times_append, Timers.times_ne (Ne.symm hpolled), List.append_nil] at htimes
              exact hsettled htimes

theorem Starts.timely {generator : EventIdGenerator EventType} (h : first.Starts R pollers generator)
    (hlatency : 0 ≤ latency) : first.timers.Timely (intervals pollers) latency := by
  refine ⟨fun i since hphase => ?_, fun i expiry hphase => ?_, fun i => ?_⟩
  · rw [h.ready i] at hphase
    cases hphase
    exact Int.le_refl _
  · rw [h.ready i] at hphase
    cases hphase
  · rw [h.ready i]
    exact Int.le_add_of_nonneg_right hlatency

end Run

-- Each poller announces the changes of what it has read to the handler of its kind, at an
-- interval. The program ends on a reading that throws, and not on an event.
theorem pollers_announce_changes (R : Readings σ τ) (pollers : List Poller) (latency : Int) (hlatency : 0 ≤ latency)
    (hinterval : ∀ i, 0 ≤ intervals pollers i) (generator : EventIdGenerator EventType)
    (start service : PollingService R pollers) (hstart : start.Starts R pollers generator)
    (hreach : Reach R pollers latency start service) :
    (∀ i, ((service.watch i).observed.map Prod.snd).destutter'
          (fun earlier later => (classOf R pollers i).differs later earlier = true) (classOf R pollers i).cached =
        (classOf R pollers i).cached :: (service.watch i).announced.map Prod.fst ∧
      (∀ entry ∈ (service.watch i).announced, entry.2 = [⟨.reference (pollers.get i).poll.kind, changeOf pollers i⟩]) ∧
      ((service.watch i).observed.map Prod.fst).IsChain (Timers.Spaced (intervals pollers) latency i)) ∧
    ∀ failure, service.thrown = some failure →
      ∃ i thrown, service.reading i = .error thrown ∧ failure = .reading thrown := by
  have hsound := hstart.sound.run hreach
  obtain ⟨fired, hrun, hpolled⟩ := hreach.polled hstart.sound
  refine ⟨fun i => ⟨(hsound.watch i).changes, (hsound.watch i).reached, ?_⟩, hsound.thrown⟩
  have hbegun := hpolled.begun i
  rw [hstart.watch i] at hbegun
  have hspaced := (hrun.spaced (hstart.timely hlatency) hlatency hinterval i).1
  exact hspaced.infix hbegun.isInfix

section Sample

def sampleReadings : Readings HatchState Int where
  hatchStatus _ status := .ok status
  indicatorState _ _ _ := .ok .off
  temperature _ _ := .ok 0
  hashCombine seed _ := seed
  zero := 0
  notEqual first second := first ≠ second

def samplePollers : List Poller := [⟨2, 1000, ⟨.hatch, 2⟩⟩]

abbrev sampleHatch : Fin samplePollers.length := ⟨0, by decide⟩

abbrev SampleService := PollingService sampleReadings samplePollers

def sampleTimers (now : Int) (phase : Phase) : Timers (Fin samplePollers.length) := ⟨now, fun _ => phase⟩

abbrev SampleStep := Timers.Step (intervals samplePollers) 5

theorem sample_setPhase (now : Int) (before phase : Phase) :
    (sampleTimers now before).setPhase sampleHatch phase = sampleTimers now phase := by
  have hphase (i : Fin samplePollers.length) : Function.update (fun _ => before) sampleHatch phase i = phase := by
    obtain rfl : i = sampleHatch := Fin.ext (Nat.lt_one_iff.mp i.isLt)
    exact Function.update_self _ _ _
  exact congrArg (Timers.mk now) (funext hphase)

theorem sample_pass (now later : Int) (phase : Phase) (hlater : now ≤ later) (hserved : later ≤ phase.due + 5) :
    SampleStep (sampleTimers now phase) none (sampleTimers later phase) :=
  .pass _ later hlater fun _ => hserved

theorem sample_arm (now since : Int) :
    SampleStep (sampleTimers now (.ready since)) none (sampleTimers now (.waiting (now + 1000))) := by
  rw [← sample_setPhase now (.ready since) (.waiting (now + 1000))]
  exact .arm (sampleTimers now (.ready since)) sampleHatch since rfl

theorem sample_fire (now expiry : Int) (hexpired : expiry ≤ now) :
    SampleStep (sampleTimers now (.waiting expiry)) (some sampleHatch) (sampleTimers now (.ready now)) := by
  rw [← sample_setPhase now (.waiting expiry) (.ready now)]
  exact .fire (sampleTimers now (.waiting expiry)) sampleHatch expiry rfl hexpired

theorem sample_interval (i : Fin samplePollers.length) : 0 ≤ intervals samplePollers i := by
  obtain rfl : i = sampleHatch := Fin.ext (Nat.lt_one_iff.mp i.isLt)
  decide

-- An open hatch is polled once, and the timer is set for the next time.
theorem sample_run : ∃ start last : SampleService,
    start.Starts sampleReadings samplePollers ⟨[], List.nodup_nil⟩ ∧ start.timers.now = 0 ∧ last.timers.now = 1500 ∧
      start.reading sampleHatch = .ok HatchState.open.hash ∧
      (last.watch sampleHatch).announced.map Prod.fst = [HatchState.open.hash] ∧
      Relation.ReflTransGen (Keeps sampleReadings samplePollers 5 sampleHatch HatchState.open.hash) start last := by
  obtain ⟨bus, hbus, -⟩ : ∃ bus, Event.after id ⟨[], List.nodup_nil⟩ homeAssistantSubscriptions = .ok bus ∧
      Tracks id homeAssistantSubscriptions bus := tracks_after _ _
  let start : SampleService := ⟨sampleTimers 0 (.ready 0), .open, bus, fun _ => .new _, none⟩
  let armed : SampleService := { start with timers := sampleTimers 0 (.waiting 1000) }
  let expired : SampleService := { start with timers := sampleTimers 1000 (.waiting 1000) }
  let fired : SampleService := { start with timers := sampleTimers 1000 (.ready 1000) }
  let watch : Watch (classOf sampleReadings samplePollers sampleHatch) :=
    ⟨HatchState.open.hash, [(1000, HatchState.open.hash)],
      [(HatchState.open.hash, reached (changeOf samplePollers sampleHatch))]⟩
  have hpoll : ∃ later, PollingService.poll sampleHatch fired =
      setWatch sampleHatch watch { fired with bus := later } := by
    have hread : fired.reading sampleHatch = .ok HatchState.open.hash := rfl
    rcases poll_cases fired (wired_start hbus) sampleHatch with
      ⟨thrown, herror, _⟩ | ⟨value, hvalue, ⟨hsame, _⟩ | ⟨_, later, _, heq⟩⟩
    · rw [hread] at herror
      cases herror
    · obtain rfl := Except.ok.inj (hread.symm.trans hvalue)
      cases hsame
    · obtain rfl := Except.ok.inj (hread.symm.trans hvalue)
      exact ⟨later, heq⟩
  obtain ⟨later, hpoll⟩ := hpoll
  let polled : SampleService := setWatch sampleHatch watch { fired with bus := later }
  let rearmed : SampleService := { polled with timers := sampleTimers 1000 (.waiting 2000) }
  let last : SampleService := { polled with timers := sampleTimers 1500 (.waiting 2000) }
  have harm : Step sampleReadings samplePollers 5 start armed := .wait start _ rfl (sample_arm 0 0)
  have hexpire : Step sampleReadings samplePollers 5 armed expired :=
    .wait armed _ rfl (sample_pass 0 1000 _ (by decide) (by decide))
  have hfire : Step sampleReadings samplePollers 5 expired (PollingService.poll sampleHatch fired) :=
    .poll expired sampleHatch _ rfl (sample_fire 1000 1000 (Int.le_refl 1000))
  rw [hpoll] at hfire
  have hrearm : Step sampleReadings samplePollers 5 polled rearmed := .wait polled _ rfl (sample_arm 1000 1000)
  have hlast : Step sampleReadings samplePollers 5 rearmed last :=
    .wait rearmed _ rfl (sample_pass 1000 1500 _ (by decide) (by decide))
  refine ⟨start, last, ⟨fun _ => rfl, hbus, fun _ => rfl, rfl⟩, rfl, rfl, rfl, ?_, ?_⟩
  · have hwatch : last.watch sampleHatch = watch := setWatch_watch_self sampleHatch watch { fired with bus := later }
    rw [hwatch]
    rfl
  · exact ((((Relation.ReflTransGen.single ⟨harm, rfl⟩).tail ⟨hexpire, rfl⟩).tail ⟨hfire, rfl⟩).tail ⟨hrearm, rfl⟩).tail
      ⟨hlast, rfl⟩

end Sample

theorem pollers_announce_changes_sample : ∃ start service : SampleService,
    start.Starts sampleReadings samplePollers ⟨[], List.nodup_nil⟩ ∧
      Reach sampleReadings samplePollers 5 start service ∧
      (service.watch sampleHatch).announced.map Prod.fst = [HatchState.open.hash] ∧
      ∀ entry ∈ (service.watch sampleHatch).announced,
        entry.2 = [⟨.reference .hatch, ⟨(.stateChanged, .hatch), 2⟩⟩] := by
  obtain ⟨start, service, hstart, -, -, -, hannounced, hrun⟩ := sample_run
  have hchanges := pollers_announce_changes sampleReadings samplePollers 5 (by decide) sample_interval
    ⟨[], List.nodup_nil⟩ start service hstart (Keeps.reach hrun)
  exact ⟨start, service, hstart, Keeps.reach hrun, hannounced, (hchanges.1 sampleHatch).2.1⟩

-- A value that lasts for longer than the interval, and twice the latency, is announced.
theorem lasting_value_announced (R : Readings σ τ) (pollers : List Poller) (latency : Int) (hlatency : 0 ≤ latency)
    (hinterval : ∀ i, 0 ≤ intervals pollers i) (generator : EventIdGenerator EventType)
    (start first last : PollingService R pollers) (hstart : start.Starts R pollers generator)
    (hreach : Reach R pollers latency start first) (i : Fin pollers.length) (value : (classOf R pollers i).Value)
    (hvalue : first.reading i = .ok value)
    (hlast : Relation.ReflTransGen (Keeps R pollers latency i value) first last)
    (hlong : intervals pollers i + 2 * latency < last.timers.now - first.timers.now) :
    ∃ announced ∈ (last.watch i).values.getLast?,
      announced = value ∨ (classOf R pollers i).differs value announced = false := by
  obtain ⟨before, hrun, _⟩ := hreach.polled hstart.sound
  have htimely := (hstart.timely hlatency).run hlatency hinterval hrun
  obtain ⟨hsound, _, fired, hstretch, hsettled⟩ := settled_run (hstart.sound.run hreach) hvalue hlast
  refine ⟨(last.watch i).cached, (hsound.watch i).cached, hsettled ?_⟩
  exact hstretch.goes_round htimely hlatency hinterval i hlong

theorem lasting_value_announced_sample : ∃ start last : SampleService,
    start.Starts sampleReadings samplePollers ⟨[], List.nodup_nil⟩ ∧
      Reach sampleReadings samplePollers 5 start last ∧
      ∃ announced ∈ (last.watch sampleHatch).values.getLast?,
        announced = HatchState.open.hash ∨
          sampleReadings.hatchPoller.differs HatchState.open.hash announced = false := by
  obtain ⟨start, last, hstart, hbegin, hend, hvalue, -, hrun⟩ := sample_run
  have hlong : intervals samplePollers sampleHatch + 2 * 5 < last.timers.now - start.timers.now := by
    rw [hbegin, hend]
    decide
  have hlasting := lasting_value_announced sampleReadings samplePollers 5 (by decide) sample_interval
    ⟨[], List.nodup_nil⟩ start start last hstart .refl sampleHatch HatchState.open.hash hvalue hrun hlong
  exact ⟨start, last, hstart, Keeps.reach hrun, hlasting⟩

end PollingService
end HhctrlMgmt.Platform
