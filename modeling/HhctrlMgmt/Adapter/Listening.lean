import HhctrlMgmt.Adapter.Commands
import HhctrlMgmt.Mqtt.Client.Script
import HhctrlMgmt.Mqtt.Configured
import Mathlib.Data.Finset.Card

namespace HhctrlMgmt.Adapter

open Coroutine Mqtt

-- async_init, and where it returns true, async_run.
def initThenRun {S : Sig} {σ Command State : Type} (ops : Operations S σ Command State) (rounds : Nat) :
    Coro S σ Unit := do
  if ← EntityAdapter.asyncInit ops then
    EntityAdapter.asyncRun ops rounds

section Adapter

variable {Command State δ : Type} (P : Platform) (fuel : Nat) (origin : Entity) {topics : Topics}

-- An assertion about the client of an adapter.
def OnAdapter (client : Monitor × AsyncMqttClient → Prop) (point : Monitor × Entity × δ) : Prop :=
  OnClient origin client (point.1, point.2.1)

theorem keeps_onEntity {α : Type} {ret : α → Monitor × AsyncMqttClient → Prop} (task : EntityM α)
    (point : Monitor × Entity × δ)
    (h : (calm topics).Keeps Monitor.Heard (fun value => OnClient origin (ret value)) task (point.1, point.2.1)) :
    (calm topics).Keeps Monitor.Heard (fun value => OnAdapter origin (ret value)) (onEntity task) point := by
  have hzoom : (calm topics).Keeps Monitor.Heard
      (fun value later => OnClient origin (ret value) (later.1, later.2.1) ∧ later.2 = (later.2.1, point.2.2))
      (onEntity task) point :=
    Surroundings.keeps_zoom (U := calm topics) (I := Monitor.Heard) (fun value => OnClient origin (ret value))
      (entityLens δ) task point h
  exact Surroundings.keeps_mono hzoom fun value later hlater => hlater.1

theorem keeps_wait (seconds : Int) (client : Monitor × AsyncMqttClient → Prop) (point : Monitor × Entity × δ)
    (h : OnAdapter origin client point) (hheard : point.1.Heard) :
    (calm topics).Keeps Monitor.Heard (fun _ => OnAdapter origin client) (asyncWait P seconds) point := by
  refine Surroundings.keeps_await _ _ hheard fun waited _ => ?_
  cases waited with
  | none => exact Surroundings.keeps_ret _ h
  | some code => exact Surroundings.keeps_throw _ hheard

-- What the class of an entity has to provide: its own three functions keep to
-- what is said of configuring, of publishing and of receiving.
structure CommandEntity (topics : Topics) (asyncConfigure : EntityConfig → Pubopts → EntityM Error)
    (asyncSetState : State → Pubopts → EntityM Error) (asyncReceive : EntityM (Expected Command)) : Prop where
  configure : ∀ config sure point, OnClient origin (Fresh sure) point →
    (calm topics).Keeps Monitor.Heard (fun result => OnClient origin (Configured sure result))
      (asyncConfigure config adapterDefaultPubopts) point
  setState : ∀ state point, OnClient origin Listening point →
    (calm topics).Keeps Monitor.Heard (fun _ => OnClient origin Listening)
      (asyncSetState state adapterDefaultPubopts) point
  receive : ∀ point, OnClient origin Listening point →
    (calm topics).Keeps Monitor.Heard (fun result => OnClient origin (EntityReceived result)) asyncReceive point

theorem coverEntity : CommandEntity origin (coverTopics origin) (Cover.asyncConfigure P fuel) (Cover.asyncSetState P)
    (Cover.asyncReceive P fuel) where
  configure config sure point h := keeps_coverConfigure P fuel origin config true sure point h
  setState state point h := keeps_setState P origin state adapterDefaultPubopts point h
  receive point h := keeps_coverReceive P fuel origin point h

theorem buttonEntity : CommandEntity origin (buttonTopics origin) (Button.asyncConfigure P fuel)
    (nofun : Empty → Pubopts → EntityM Error) (Button.asyncReceive P fuel) where
  configure config sure point h := keeps_buttonConfigure P fuel origin config true sure point h
  setState state := state.elim
  receive point h := keeps_buttonReceive P fuel origin point h

variable (impl : Impl Command State δ) (asyncConfigure : EntityConfig → Pubopts → EntityM Error)
  (asyncSetState : State → Pubopts → EntityM Error) (asyncReceive : EntityM (Expected Command))
  (hentity : CommandEntity origin topics asyncConfigure asyncSetState asyncReceive)

-- async_configure on a new connection.
def AdapterConfigured (sure : Bool) (configured : Bool) (later : Monitor × AsyncMqttClient) : Prop :=
  later.1.Heard ∧ (configured = true → Listening later) ∧ (configured = false → sure = true → Gone true true later)

theorem AdapterConfigured.done {sure : Bool} {later : Monitor × AsyncMqttClient} (h : Listening later) :
    AdapterConfigured sure true later :=
  ⟨h.heard, fun _ => h, nofun⟩

theorem AdapterConfigured.failed {sure : Bool} {e : SystemError} {later : Monitor × AsyncMqttClient}
    (h : Configured sure (some e) later) : AdapterConfigured sure false later :=
  ⟨h.1, nofun, fun _ => h.2.2 (Option.some_ne_none e)⟩

include hentity

theorem keeps_adapterConfigure (sure : Bool) (point : Monitor × Entity × δ) (h : OnAdapter origin (Fresh sure) point) :
    (calm topics).Keeps Monitor.Heard (fun configured => OnAdapter origin (AdapterConfigured sure configured))
      (EntityAdapter.asyncConfigure (commandOperations P impl fuel asyncConfigure asyncSetState asyncReceive))
      point := by
  have hdone (later : Monitor × Entity × δ) (hlater : OnAdapter origin Listening later) :
      OnAdapter origin (AdapterConfigured sure true) later :=
    ⟨hlater.name, hlater.id, .done hlater.client⟩
  simp only [EntityAdapter.asyncConfigure, commandOperations, Coro.bind_eq, Coro.pure_eq, Coro.bind]
  refine Surroundings.keeps_get _ ?_
  refine Surroundings.keeps_bind (keeps_onEntity origin _ point (hentity.configure _ sure _ h))
    fun result later hlater => ?_
  cases result with
  | some e =>
      exact Surroundings.keeps_ret _ ⟨hlater.name, hlater.id, .failed hlater.client⟩
  | none =>
      have hlistening : OnAdapter origin Listening later := ⟨hlater.name, hlater.id, hlater.client.2.1 rfl⟩
      refine Surroundings.keeps_bind (keeps_wait P origin 1 _ later hlistening hlistening.client.heard)
        fun _ waited hwaited => ?_
      refine Surroundings.keeps_bind (keeps_onEntity origin _ _
        (keeps_setAvailability P origin .online adapterDefaultPubopts _ hwaited)) fun _ online honline => ?_
      cases hstate : impl.state with
      | none =>
          simp only [EntityAdapter.asyncSyncState, Option.map_none, Coro.pure_eq, Coro.bind]
          exact Surroundings.keeps_ret _ (hdone online honline)
      | some state =>
          simp only [EntityAdapter.asyncSyncState, Option.map_some, Coro.bind_eq, Coro.pure_eq, Coro.bind,
            Coro.bind_assoc]
          refine Surroundings.keeps_get _ (Surroundings.keeps_ofExcept _ _ honline.client.heard fun value _ => ?_)
          refine Surroundings.keeps_bind (keeps_onEntity origin _ _ (hentity.setState value _ honline))
            fun _ last hlast => ?_
          exact Surroundings.keeps_ret _ (hdone last hlast)

omit hentity in
theorem keeps_connectRetry (attempts : Nat) (error : Error) (herror : attempts = 0 → error ≠ none)
    (point : Monitor × Entity × δ) (h : OnAdapter origin (Gone false false) point) :
    (calm topics).Keeps Monitor.Heard (fun result => OnAdapter origin (Connected false false result))
      (EntityAdapter.connectRetry (commandOperations P impl fuel asyncConfigure asyncSetState asyncReceive)
        attempts error) point := by
  induction attempts generalizing error point with
  | zero => exact Surroundings.keeps_ret _ ⟨h.name, h.id, fun hnone => absurd hnone (herror rfl), fun _ => h.client⟩
  | succ attempts ih =>
      simp only [EntityAdapter.connectRetry, Coro.bind_eq, Coro.pure_eq]
      refine Surroundings.keeps_bind (keeps_onEntity origin _ point (keeps_entityConnect P fuel origin false _ h))
        fun result later hlater => ?_
      cases result with
      | none => exact Surroundings.keeps_ret _ hlater
      | some e =>
          have hgone : OnAdapter origin (Gone false false) later := 
            ⟨hlater.name, hlater.id, hlater.client.2 (Option.some_ne_none e)⟩
          simp only [Option.isNone_some, Bool.false_eq_true, if_false]
          exact Surroundings.keeps_bind (keeps_wait P origin initRetryDelay _ later hgone hgone.client.heard)
            fun _ waited hwaited => ih (some e) (fun _ => nofun) waited hwaited

theorem keeps_asyncInit (point : Monitor × Entity × δ) (h : OnAdapter origin (Gone false false) point) :
    (calm topics).Keeps Monitor.Heard
      (fun ready => OnAdapter origin fun later => later.1.Heard ∧ (ready = true → Listening later))
      (EntityAdapter.asyncInit (commandOperations P impl fuel asyncConfigure asyncSetState asyncReceive)) point := by
  simp only [EntityAdapter.asyncInit, Coro.bind_eq, Coro.pure_eq]
  refine Surroundings.keeps_bind (keeps_connectRetry P fuel origin impl asyncConfigure asyncSetState asyncReceive
    initRetryAttempts none (fun hzero => absurd hzero (by decide)) point h) fun result later hlater => ?_
  cases result with
  | some e =>
      exact Surroundings.keeps_ret _ ⟨hlater.name, hlater.id, (hlater.client.2 (Option.some_ne_none e)).heard, nofun⟩
  | none =>
      refine Surroundings.keeps_mono (keeps_adapterConfigure P fuel origin impl asyncConfigure asyncSetState
        asyncReceive hentity false later ⟨hlater.name, hlater.id, (hlater.client.1 rfl).2⟩) fun ready last hlast => ?_
      exact ⟨hlast.name, hlast.id, hlast.client.1, hlast.client.2.1⟩

-- After an error the entity is configured on any live connection again.
theorem keeps_reconfigure (point : Monitor × Entity × δ) (h : OnAdapter origin (Fresh true) point) :
    (calm topics).Keeps Monitor.Heard (fun _ => OnAdapter origin Listening)
      (EntityAdapter.asyncConfigure (commandOperations P impl fuel asyncConfigure asyncSetState asyncReceive))
      point := by
  refine Surroundings.keeps_mono (keeps_adapterConfigure P fuel origin impl asyncConfigure asyncSetState asyncReceive
    hentity true point h) fun configured later hlater => ⟨hlater.name, hlater.id, ?_⟩
  cases configured with
  | true => exact hlater.client.2.1 rfl
  | false => exact (hlater.client.2.2 rfl rfl).listening

theorem keeps_asyncHandleError (e : SystemError) (point : Monitor × Entity × δ)
    (h : OnAdapter origin (EntityReceived (.error e : Expected Command)) point) :
    (calm topics).Keeps Monitor.Heard (fun _ => OnAdapter origin Listening)
      (EntityAdapter.asyncHandleError (commandOperations P impl fuel asyncConfigure asyncSetState asyncReceive)
        (some e)) point := by
  have hreconfigure := keeps_reconfigure P fuel origin impl asyncConfigure asyncSetState asyncReceive hentity
  simp only [EntityAdapter.asyncHandleError, EntityAdapter.asyncHandleDisconnectedError,
    EntityAdapter.asyncHandleReconnectedError, Option.map_some, Option.some.injEq, Coro.bind_eq, Coro.pure_eq]
  by_cases hdisconnected : e.code = .mqtt .disconnected
  · rw [if_pos hdisconnected]
    have hgone : OnAdapter origin (Gone true false) point := ⟨h.name, h.id, h.client.2.2 hdisconnected⟩
    refine Surroundings.keeps_bind (Surroundings.keeps_bind (keeps_onEntity origin _ point
      (keeps_entityConnect P fuel origin true _ hgone)) fun result later hlater => ?_)
      fun _ later hlater => Surroundings.keeps_ret _ hlater
    cases result with
    | some e =>
        exact Surroundings.keeps_ret _ ⟨hlater.name, hlater.id, (hlater.client.2 (Option.some_ne_none e)).listening⟩
    | none => exact hreconfigure later ⟨hlater.name, hlater.id, (hlater.client.1 rfl).2⟩
  · rw [if_neg hdisconnected]
    by_cases hreconnected : e.code = .mqtt .reconnected
    · rw [if_pos hreconnected]
      exact Surroundings.keeps_bind (hreconfigure point ⟨h.name, h.id, h.client.1 hreconnected⟩)
        fun _ later hlater => Surroundings.keeps_ret _ hlater
    · rw [if_neg hreconnected]
      exact Surroundings.keeps_ret _ ⟨h.name, h.id, h.client.2.1 hreconnected⟩

-- The results of the operation async_receive, whose errors may be empty.
def AdapterReceived (result : Except Error Command) (later : Monitor × AsyncMqttClient) : Prop :=
  ∃ received : Expected Command, result = received.mapError some ∧ EntityReceived received later

theorem keeps_asyncRun (rounds : Nat) (point : Monitor × Entity × δ) (h : OnAdapter origin Listening point) :
    (calm topics).Keeps Monitor.Heard (fun _ => OnAdapter origin Listening)
      (EntityAdapter.asyncRun (commandOperations P impl fuel asyncConfigure asyncSetState asyncReceive) rounds)
      point := by
  induction rounds generalizing point with
  | zero => exact Surroundings.keeps_spin h.client.heard
  | succ rounds ih =>
      have hreceive : (calm topics).Keeps Monitor.Heard (fun result => OnAdapter origin (AdapterReceived result))
          (commandOperations P impl fuel asyncConfigure asyncSetState asyncReceive).asyncReceive point :=
        Surroundings.keeps_bind (keeps_onEntity origin _ point (hentity.receive _ h)) fun received later hlater =>
          Surroundings.keeps_ret _ ⟨hlater.name, hlater.id, received, rfl, hlater.client⟩
      simp only [EntityAdapter.asyncRun, Coro.bind_eq]
      refine Surroundings.keeps_bind hreceive fun result later hlater => ?_
      obtain ⟨received, rfl, hreceived⟩ := hlater.client
      cases received with
      | ok command =>
          have hlistening : OnAdapter origin Listening later := ⟨hlater.name, hlater.id, hreceived⟩
          simp only [Except.mapError, commandOperations, Coro.bind_eq, Coro.modify, Coro.bind, Coro.bind_assoc]
          refine Surroundings.keeps_get _ (Surroundings.keeps_ofExcept _ _ hlistening.client.heard fun device _ => ?_)
          exact Surroundings.keeps_get _ (Surroundings.keeps_set _ _ (ih _ hlistening))
      | error e =>
          refine Surroundings.keeps_bind (keeps_asyncHandleError P fuel origin impl asyncConfigure asyncSetState
            asyncReceive hentity e later ⟨hlater.name, hlater.id, hreceived⟩) fun _ last hlast => ?_
          exact ih last hlast

theorem keeps_initThenRun (rounds : Nat) (point : Monitor × Entity × δ)
    (h : OnAdapter origin (Gone false false) point) :
    (calm topics).Keeps Monitor.Heard (fun _ later => later.1.Heard)
      (initThenRun (commandOperations P impl fuel asyncConfigure asyncSetState asyncReceive) rounds) point := by
  refine Surroundings.keeps_bind (keeps_asyncInit P fuel origin impl asyncConfigure asyncSetState asyncReceive hentity
    point h) fun ready later hlater => ?_
  cases ready with
  | false => exact Surroundings.keeps_ret _ hlater.client.1
  | true =>
      refine Surroundings.keeps_mono (keeps_asyncRun P fuel origin impl asyncConfigure asyncSetState asyncReceive
        hentity rounds later ⟨hlater.name, hlater.id, hlater.client.2 rfl⟩) fun _ last hlast => hlast.client.heard

end Adapter

-- Whenever the adapter of a cover or a button waits for commands on a live
-- connection, it has been configured and subscribed on it, as long as nothing
-- disturbs a configuration.
theorem undisturbed_never_deaf {δ : Type} (P : Platform) (fuel rounds : Nat) (entity : Entity) (device : δ)
    (cover : Impl CoverCommand CoverState δ) (button : Impl ButtonCommand Empty δ) :
    (∀ config, Reach ((calm (coverTopics entity)).world (Entity × δ))
        (settle _ (initThenRun (coverOperations P fuel cover) rounds) (Monitor.start, entity, device)) config →
      config.point.1.deaf = false) ∧
    ∀ config, Reach ((calm (buttonTopics entity)).world (Entity × δ))
        (settle _ (initThenRun (buttonOperations P fuel button) rounds) (Monitor.start, entity, device)) config →
      config.point.1.deaf = false := by
  have hstart : OnAdapter entity (Gone false false) (Monitor.start, entity, device) :=
    ⟨rfl, rfl, ⟨rfl, nofun, rfl⟩, Or.inl rfl⟩
  constructor
  · intro config hreach
    exact (keeps_initThenRun P fuel entity cover _ _ _ (coverEntity P fuel entity) rounds _ hstart).reach
      (fun _ _ hheard => hheard) hreach
  · intro config hreach
    exact (keeps_initThenRun P fuel entity button _ _ _ (buttonEntity P fuel entity) rounds _ hstart).reach
      (fun _ _ hheard => hheard) hreach

section Samples

-- The acknowledgement that the configuration waits for, if any.
def acknowledgement (monitor : Monitor) : Except SystemError Packet :=
  let pending := if monitor.configured then monitor.subscribeId else monitor.configId
  match pending with
  | none => .error endOfFile
  | some packetId =>
    if monitor.configured then .ok (.suback ⟨packetId, [.successMaximumQos1]⟩) else .ok (.puback packetId)

-- A broker that acknowledges the first configuration. Later it sends nothing but
-- PINGRESP, or, where `breaks`, every connection is lost as soon as a packet has
-- completed its handshake.
def respond (breaks : Bool) (monitor : Monitor) (adapter : Entity × Unit) : (query : Query) → Answer query
  | .resolve _ _ => none
  | .connect => none
  | .send _ => none
  | .recv =>
    if monitor.stage = .greeted ∧ (breaks ∨ ¬(monitor.configuring ∧ ¬monitor.subscribed)) then
      .ok (.connack false .accepted)
    else if monitor.stage = .live ∧ monitor.configuring ∧ ¬monitor.subscribed ∧
        (¬breaks ∨ adapter.1.pendingPuback.card = 1) then
      acknowledgement monitor
    else if monitor.stage = .live ∧ ¬breaks ∧ ¬(monitor.configuring ∧ ¬monitor.subscribed) then
      .ok (.other .pingresp)
    else .error endOfFile
  | .acquireUniquePacketId => some (adapter.1.pendingPuback.card + 1)
  | .timer _ => none
  | .wait _ => none

def newCover : Entity := Cover.create (ascii "1") (AsyncMqttClient.create {})

def coverRun (fuel : Nat) : Async (Entity × Unit) Unit :=
  initThenRun (coverOperations samplePlatform fuel sampleCover) 2

abbrev free (topics : Topics) : Surroundings sig := watched topics fun _ _ _ => True

-- The entity waits for its PUBACK for the second time when the connection is lost
-- again. The reconnection succeeds, the configuration is given up, and the entity
-- waits for commands on a connection on which it has subscribed to nothing.
theorem second_disconnect_deaf :
    ∃ config, Reach ((free (coverTopics newCover)).world (Entity × Unit))
        (settle _ (coverRun 3) (Monitor.start, newCover, ())) config ∧
      config.point.1.deaf = true := by
  refine ⟨_, exec_reach ((free (coverTopics newCover)).world (Entity × Unit)) (respond true) (fun _ _ _ => trivial)
    (coverRun 3) _, ?_⟩
  decide +kernel

theorem acknowledgement_expected (monitor : Monitor) (packet : Packet)
    (hack : acknowledgement monitor = .ok packet) : monitor.Expects packet := by
  unfold acknowledgement at hack
  cases hconfigured : monitor.configured with
  | true =>
      cases hid : monitor.subscribeId with
      | none => simp [hconfigured, hid] at hack
      | some packetId =>
          obtain rfl : Packet.suback ⟨packetId, [.successMaximumQos1]⟩ = packet := by
            simpa [hconfigured, hid] using hack
          exact ⟨hconfigured, hid, rfl⟩
  | false =>
      cases hid : monitor.configId with
      | none => simp [hconfigured, hid] at hack
      | some packetId =>
          obtain rfl : Packet.puback packetId = packet := by
            simpa [hconfigured, hid] using hack
          exact ⟨hconfigured, hid⟩

theorem respond_undisturbed (monitor : Monitor) (adapter : Entity × Unit) (query : Query) :
    monitor.Undisturbed query (respond false monitor adapter query) := by
  cases query with
  | resolve _ _ => trivial
  | connect => trivial
  | acquireUniquePacketId => trivial
  | timer _ => trivial
  | wait _ => trivial
  | send packet =>
      cases packet with
      | connect _ => trivial
      | publish _ => exact fun _ => rfl
      | subscribe _ => exact fun _ => rfl
  | recv =>
      cases hanswer : respond false monitor adapter .recv with
      | error e => trivial
      | ok packet =>
          intro hconfiguring
          by_cases hstage : monitor.stage = .live
          · have hack : acknowledgement monitor = .ok packet := by
              simpa [respond, hstage, hconfiguring.1, hconfiguring.2] using hanswer
            exact ⟨hstage, acknowledgement_expected monitor packet hack⟩
          · simp [respond, hstage, hconfiguring.1, hconfiguring.2] at hanswer

-- The cover waits for commands on a live connection, configured and subscribed.
theorem undisturbed_never_deaf_cover :
    ∃ config, Reach ((calm (coverTopics newCover)).world (Entity × Unit))
        (settle _ (coverRun 3) (Monitor.start, newCover, ())) config ∧
      config.point.1.stage = .live ∧ config.point.1.subscribed = true ∧ config.point.1.deaf = false := by
  have hreach := exec_reach ((calm (coverTopics newCover)).world (Entity × Unit)) (respond false) respond_undisturbed
    (coverRun 3) (Monitor.start, newCover, ())
  exact ⟨_, hreach, by decide +kernel, by decide +kernel,
    (undisturbed_never_deaf samplePlatform 3 2 newCover () sampleCover sampleButton).1 _ hreach⟩

end Samples

end HhctrlMgmt.Adapter
