import HhctrlMgmt.Adapter.EntityAdapter
import HhctrlMgmt.Coroutine.Wp

namespace HhctrlMgmt.Adapter

open Common Coroutine Mqtt

-- The packets that arrive, in their order; `none` is the end of a finite
-- sequence, after which receiving never completes.
abbrev Arrivals := Nat → Option PublishPacket

-- A connection on which nothing but these packets is received. Its state is the
-- number of packets that have been received.
abbrev inboundWorld (arrivals : Arrivals) (σ : Type) : World sig σ where
  State := Nat
  enter received _ := received
  issue received _ := received
  allows received _ query answer :=
    match query, answer with
    | .recv, answer => ∃ packet, arrivals received = some packet ∧ answer = .ok (.publish packet)
    | _, _ => True
  answer received query _ :=
    match query with
    | .recv => received + 1
    | _ => received

section Receive

variable {α β δ : Type} (P : Platform) (fuel : Nat) (arrivals : Arrivals)

-- On a connected client Entity::async_receive returns the next packet.
theorem wp_entityReceive (I : Nat × Entity × δ → Prop) (Q : Post (inboundWorld arrivals (Entity × δ)) β)
    (f : Expected PublishPacket → EntityM α) (g : α → Async (Entity × δ) β)
    (start : Nat × Entity × δ) (received : Nat) (entity : Entity) (device : δ)
    (hconnected : entity.client.connected = true) (hI : I (received, entity, device))
    (h : ∀ packet, arrivals received = some packet →
      wp (Contract.alone I) Q ((onEntity (f (.ok packet))).bind g) (received, entity, device)
        (received + 1, entity, device)) :
    wp (Contract.alone I) Q ((onEntity ((Entity.asyncReceive P (fuel + 1)).bind f)).bind g) start
      (received, entity, device) := by
  simp only [onEntity, Entity.asyncReceive, Entity.asyncReceiveLoop, Entity.onClient, Mqtt.asyncReceive,
    asyncReceiveLoop, epRecv, Coro.label, Coro.state, Coro.bind_eq, Coro.bind, Coro.zoom, wp_enter, wp_get, hconnected,
    Bool.not_true, Bool.false_eq_true, if_false, wp_await_alone]
  refine ⟨hI, ?_⟩
  rintro _ ⟨packet, harrives, rfl⟩
  exact h packet harrives

theorem reach_entityReceive (f : Expected PublishPacket → EntityM α) (g : α → Async (Entity × δ) β) (received : Nat)
    (entity : Entity) (device : δ) (hconnected : entity.client.connected = true) (packet : PublishPacket)
    (harrives : arrivals received = some packet) :
    Reach (inboundWorld arrivals (Entity × δ))
      (settle _ ((onEntity ((Entity.asyncReceive P (fuel + 1)).bind f)).bind g) (received, entity, device))
      (settle _ ((onEntity (f (.ok packet))).bind g) (received + 1, entity, device)) := by
  simp only [onEntity, Entity.asyncReceive, Entity.asyncReceiveLoop, Entity.onClient, Mqtt.asyncReceive,
    asyncReceiveLoop, epRecv, Coro.label, Coro.state, Coro.bind_eq, Coro.bind, Coro.zoom, settle, hconnected,
    Bool.not_true, Bool.false_eq_true, if_false]
  exact Reach.await (Except.ok (Packet.publish packet)) ⟨packet, harrives, rfl⟩ rfl

-- The packets are delivered.
def deliver (arrivals : Arrivals) {σ : Type} (received : Nat) (_ : σ) : (query : Query) → Answer query
  | .resolve _ _ => none
  | .connect => none
  | .send _ => none
  | .recv =>
      match arrivals received with
      | some packet => .ok (.publish packet)
      | none => .ok (.other .pingresp)
  | .acquireUniquePacketId => none
  | .timer _ => none
  | .wait _ => none

theorem exec_entityReceive (f : Expected PublishPacket → EntityM α) (g : α → Async (Entity × δ) β) (received : Nat)
    (entity : Entity) (device : δ) (hconnected : entity.client.connected = true) (packet : PublishPacket)
    (harrives : arrivals received = some packet) :
    exec (inboundWorld arrivals (Entity × δ)) (deliver arrivals)
        ((onEntity ((Entity.asyncReceive P (fuel + 1)).bind f)).bind g) (received, entity, device) =
      exec (inboundWorld arrivals (Entity × δ)) (deliver arrivals) ((onEntity (f (.ok packet))).bind g)
        (received + 1, entity, device) := by
  simp [onEntity, Entity.asyncReceive, Entity.asyncReceiveLoop, Entity.onClient, Mqtt.asyncReceive, asyncReceiveLoop,
    Coro.zoom, hconnected, exec, deliver, harrives, Packet.receiveResult]

end Receive

section Cover

-- A packet on the command topic whose payload names no command.
def Malformed (entity : Entity) (packet : PublishPacket) : Prop :=
  packet.topic = entity.topic CoverConfig.Default.switchCommandTopic ∧
    ∀ command, coverSwitchCommandMapper.mapKey command ≠ .ok packet.payload

-- The command that a packet on the command topic names.
def Brings (entity : Entity) (packet : PublishPacket) : CoverCommand → Prop
  | .switch command => packet.topic = entity.topic CoverConfig.Default.switchCommandTopic ∧
      coverSwitchCommandMapper.mapKey command = .ok packet.payload

-- What Cover::async_receive is to make of a packet: the command that it brings, and
-- UnknownPacket where it brings none.
def CommandOf (entity : Entity) (packet : PublishPacket) (result : Expected CoverCommand) : Prop :=
  (∃ command, Brings entity packet command ∧ result = .ok command) ∨
    (∀ command, ¬Brings entity packet command) ∧ result = .error (plainError .unknownPacket)

-- What Cover::async_receive does with a packet from Entity::async_receive.
def decodeCommand (received : Expected PublishPacket) : EntityM (Expected CoverCommand) :=
  match received with
  | .error e => .ret (.error e)
  | .ok packet => .get fun entity =>
      (Coro.ofExcept (Cover.mapCommand (Cover.topics entity) packet)).bind fun
        | some command => .ret (.ok command)
        | none => .ret (.error (plainError .unknownPacket))

theorem cover_asyncReceive_eq (P : Platform) (fuel : Nat) :
    Cover.asyncReceive P fuel = (Entity.asyncReceive P fuel).bind decodeCommand := rfl

theorem coverSwitchCommandMapper_iff (command : CoverSwitchCommand) (payload : Bytes) :
    coverSwitchCommandMapper.mapValue payload = .ok command ↔ coverSwitchCommandMapper.mapKey command = .ok payload :=
  Mapper.mapValue_ok_iff _ (by decide) (by decide) command payload

-- map_command answers unless the packet is malformed.
theorem mapCommand_cases (entity : Entity) (packet : PublishPacket) :
    (Malformed entity packet ∧ ∃ thrown, Cover.mapCommand (Cover.topics entity) packet = .error thrown) ∨
      (¬Malformed entity packet ∧ ∃ result, Cover.mapCommand (Cover.topics entity) packet = .ok result ∧
        CommandOf entity packet (result.elim (.error (plainError .unknownPacket)) .ok)) := by
  have hmapCommand : Cover.mapCommand (Cover.topics entity) packet =
      if packet.topic = entity.topic CoverConfig.Default.switchCommandTopic then
        (coverSwitchCommandMapper.mapValue packet.payload).bind fun command => .ok (some (.switch command))
      else .ok none := rfl
  rw [hmapCommand]
  unfold Malformed CommandOf
  by_cases hcommand : packet.topic = entity.topic CoverConfig.Default.switchCommandTopic
  · cases hmap : coverSwitchCommandMapper.mapValue packet.payload with
    | error thrown =>
        refine .inl ⟨⟨hcommand, fun command hkey => ?_⟩, thrown, by simp [hcommand, Except.bind]⟩
        rw [(coverSwitchCommandMapper_iff command packet.payload).mpr hkey] at hmap
        cases hmap
    | ok command =>
        have hkey := (coverSwitchCommandMapper_iff command packet.payload).mp hmap
        exact .inr ⟨fun h => h.2 command hkey, some (.switch command), by simp [hcommand, Except.bind],
          .inl ⟨.switch command, ⟨hcommand, hkey⟩, rfl⟩⟩
  · exact .inr ⟨fun h => hcommand h.1, none, by simp [hcommand], .inr ⟨fun ⟨_⟩ hbrings => hcommand hbrings.1, rfl⟩⟩

theorem mapCommand_some_iff (entity : Entity) (packet : PublishPacket) (command : CoverCommand) :
    Cover.mapCommand (Cover.topics entity) packet = .ok (some command) ↔ Brings entity packet command := by
  obtain ⟨command⟩ := command
  have hmapCommand : Cover.mapCommand (Cover.topics entity) packet =
      if packet.topic = entity.topic CoverConfig.Default.switchCommandTopic then
        (coverSwitchCommandMapper.mapValue packet.payload).bind fun command => .ok (some (.switch command))
      else .ok none := rfl
  rw [hmapCommand]
  simp only [Brings]
  split_ifs with htopic
  · rw [and_iff_right htopic, ← coverSwitchCommandMapper_iff]
    cases coverSwitchCommandMapper.mapValue packet.payload with
    | error thrown => simp [Except.bind]
    | ok named => simp [Except.bind]
  · exact iff_of_false (by simp) fun hbrings => htopic hbrings.1

def decodePress (received : Expected PublishPacket) : EntityM (Expected ButtonCommand) :=
  match received with
  | .error e => .ret (.error e)
  | .ok packet =>
      if packet.payload = ButtonConfig.Default.payloadPress then .ret (.ok .press)
      else .ret (.error (plainError .unknownPacket))

-- The command of a packet for a button, if any.
def mapPress (packet : PublishPacket) : Except Exn (Option ButtonCommand) :=
  .ok (if packet.payload = ButtonConfig.Default.payloadPress then some .press else none)

theorem button_asyncReceive_eq (P : Platform) (fuel : Nat) :
    Button.asyncReceive P fuel = (Entity.asyncReceive P fuel).bind decodePress := rfl

-- What Button::async_receive is to make of a packet, on whatever topic.
def PressOf (packet : PublishPacket) (result : Expected ButtonCommand) : Prop :=
  packet.payload = ascii "press" ∧ result = .ok .press ∨
    packet.payload ≠ ascii "press" ∧ result = .error (plainError .unknownPacket)

-- The receive of an entity completes with one of these results when the packet arrives.
def Answers {Command : Type} (receive : Nat → EntityM (Expected Command)) (results : Expected Command → Prop)
    (entity : Entity) (packet : PublishPacket) : Prop :=
  ∃ bound, ∀ fuel, bound ≤ fuel → ∃ result, results result ∧
    exec (inboundWorld (fun _ => some packet) (Entity × Unit)) (deliver fun _ => some packet)
      (onEntity (receive fuel)) (0, entity, ()) = (.ret result, (1, entity, ()))

def AnswersPacket (P : Platform) (entity : Entity) (packet : PublishPacket) : Prop :=
  Answers (Cover.asyncReceive P) (CommandOf entity packet) entity packet

def AnswersPress (P : Platform) (entity : Entity) (packet : PublishPacket) : Prop :=
  Answers (Button.asyncReceive P) (PressOf packet) entity packet

theorem exec_receive {Command : Type} (P : Platform) (decode : Expected PublishPacket → EntityM (Expected Command))
    (entity : Entity) (hconnected : entity.client.connected = true) (packet : PublishPacket) (fuel : Nat) :
    exec (inboundWorld (fun _ => some packet) (Entity × Unit)) (deliver fun _ => some packet)
        (onEntity ((Entity.asyncReceive P (fuel + 1)).bind decode)) (0, entity, ()) =
      exec (inboundWorld (fun _ => some packet) (Entity × Unit)) (deliver fun _ => some packet)
        (onEntity (decode (.ok packet))) (1, entity, ()) := by
  have hround := exec_entityReceive P fuel (fun _ => some packet) decode .ret 0 entity () hconnected packet rfl
  rwa [Coro.bind_ret, Coro.bind_ret] at hround

theorem answersPacket_iff (P : Platform) (entity : Entity) (hconnected : entity.client.connected = true)
    (packet : PublishPacket) : AnswersPacket P entity packet ↔ ¬Malformed entity packet := by
  rcases mapCommand_cases entity packet with ⟨hmalformed, thrown, hmap⟩ | ⟨hnot, result, hmap, hcommand⟩
  · refine iff_of_false ?_ (not_not.mpr hmalformed)
    rintro ⟨bound, h⟩
    obtain ⟨result, -, hexec⟩ := h (bound + 1) (by omega)
    rw [cover_asyncReceive_eq, exec_receive P decodeCommand entity hconnected packet bound] at hexec
    simp [decodeCommand, onEntity, Coro.zoom, exec, hmap] at hexec
  · refine iff_of_true ⟨1, fun fuel hfuel => ⟨_, hcommand, ?_⟩⟩ hnot
    obtain ⟨fuel, rfl⟩ : ∃ f, fuel = f + 1 := ⟨fuel - 1, by omega⟩
    rw [cover_asyncReceive_eq, exec_receive P decodeCommand entity hconnected packet fuel]
    cases result <;> simp [decodeCommand, onEntity, Coro.zoom, exec, hmap]

theorem answersPress (P : Platform) (entity : Entity) (hconnected : entity.client.connected = true)
    (packet : PublishPacket) : AnswersPress P entity packet := by
  have hexec (fuel : Nat) := exec_receive P decodePress entity hconnected packet fuel
  simp only [← button_asyncReceive_eq] at hexec
  by_cases hpress : packet.payload = ButtonConfig.Default.payloadPress
  · refine ⟨1, fun fuel hfuel => ⟨.ok .press, .inl ⟨hpress, rfl⟩, ?_⟩⟩
    obtain ⟨fuel, rfl⟩ : ∃ f, fuel = f + 1 := ⟨fuel - 1, by omega⟩
    rw [hexec, decodePress, if_pos hpress]
    rfl
  · refine ⟨1, fun fuel hfuel => ⟨.error (plainError .unknownPacket), .inr ⟨hpress, rfl⟩, ?_⟩⟩
    obtain ⟨fuel, rfl⟩ : ∃ f, fuel = f + 1 := ⟨fuel - 1, by omega⟩
    rw [hexec, decodePress, if_neg hpress]
    rfl

end Cover

section Run

variable {δ : Type} (arrivals : Arrivals) (entity : Entity) (device : δ)

-- The run loop neither returns nor throws. It is suspended, or has used up the
-- rounds it was given: one for each packet.
def KeepsRunning (run : Nat → Async (Entity × δ) Unit) : Prop :=
  ∀ rounds config, Reach (inboundWorld arrivals (Entity × δ)) (settle _ (run rounds) (0, entity, device)) config →
    (∃ query next, config.task = .await query next) ∨ (config.task = .spin ∧ rounds ≤ config.point.1)

-- The packet arrives, after others that do.
def Arrives (packet : PublishPacket) : Prop :=
  ∃ n, arrivals n = some packet ∧ ∀ m < n, arrivals m ≠ none

variable (P : Platform) (fuel : Nat)

-- The rest of a round of async_run after its receive.
def afterReceive {S : Sig} {σ Command State : Type} (ops : Operations S σ Command State) (rounds : Nat) :
    Except Error Command → Coro S σ Unit
  | .ok value => (ops.asyncHandleRecvValue value).bind fun _ => EntityAdapter.asyncRun ops rounds
  | .error error => (EntityAdapter.asyncHandleError ops error).bind fun _ => EntityAdapter.asyncRun ops rounds

theorem asyncRun_succ {S : Sig} {σ Command State : Type} (ops : Operations S σ Command State) (rounds : Nat) :
    EntityAdapter.asyncRun ops (rounds + 1) = ops.asyncReceive.bind (afterReceive ops rounds) := by
  simp only [EntityAdapter.asyncRun, Coro.bind_eq]
  congr

theorem asyncRun_cover (impl : Impl CoverCommand CoverState δ) (rounds : Nat) :
    EntityAdapter.asyncRun (coverOperations P fuel impl) (rounds + 1) =
      (onEntity ((Entity.asyncReceive P fuel).bind decodeCommand)).bind fun value =>
        afterReceive (coverOperations P fuel impl) rounds (value.mapError some) := by
  rw [asyncRun_succ, ← cover_asyncReceive_eq]
  unfold coverOperations commandOperations
  simp [Coro.bind_assoc]

theorem asyncRun_button (impl : Impl ButtonCommand Empty δ) (rounds : Nat) :
    EntityAdapter.asyncRun (buttonOperations P fuel impl) (rounds + 1) =
      (onEntity ((Entity.asyncReceive P fuel).bind decodePress)).bind fun value =>
        afterReceive (buttonOperations P fuel impl) rounds (value.mapError some) := by
  rw [asyncRun_succ, ← button_asyncReceive_eq]
  unfold buttonOperations commandOperations
  simp [Coro.bind_assoc]

theorem arrived_succ {arrivals : Arrivals} {n : Nat} {packet : PublishPacket} (hpacket : arrivals n = some packet)
    (hbefore : ∀ m < n, arrivals m ≠ none) : ∀ m < n + 1, arrivals m ≠ none := by
  intro m hm
  rcases Nat.lt_succ_iff_lt_or_eq.mp hm with hlt | rfl
  · exact hbefore m hlt
  · rw [hpacket]
    exact Option.some_ne_none packet

section Rounds

variable (handle : PublishPacket → δ → Except Exn δ)

-- The device once the first packets have been handled, unless one of them ends the run loop.
def handlePackets : Nat → Except Exn δ
  | 0 => .ok device
  | n + 1 =>
      match handlePackets n, arrivals n with
      | .ok before, some packet => handle packet before
      | handled, _ => handled

variable {arrivals device handle}

theorem handlePackets_succ {n : Nat} {before : δ} {packet : PublishPacket}
    (h : handlePackets arrivals device handle n = .ok before) (hpacket : arrivals n = some packet) :
    handlePackets arrivals device handle (n + 1) = handle packet before := by
  simp [handlePackets, h, hpacket]

variable {entity P fuel} {run : Nat → Async (Entity × δ) Unit} {α : Type}
  {decode : Expected PublishPacket → EntityM α} {after : Nat → α → Async (Entity × δ) Unit}

variable (hsucc : ∀ rounds, run (rounds + 1) =
    (onEntity ((Entity.asyncReceive P (fuel + 1)).bind decode)).bind (after rounds))
  (hround : ∀ rounds packet received device,
    settle (inboundWorld arrivals (Entity × δ)) ((onEntity (decode (.ok packet))).bind (after rounds))
        (received, entity, device) =
      match handle packet device with
      | .ok later => settle _ (run rounds) (received, entity, later)
      | .error thrown => ⟨(received, entity, device), .throw thrown⟩)
  (hconnected : entity.client.connected = true)

include hsucc hround hconnected

-- The rounds for the first packets.
theorem reach_rounds (rounds n : Nat) (before : δ) (harrived : ∀ m < n, arrivals m ≠ none)
    (h : handlePackets arrivals device handle n = .ok before) :
    Reach (inboundWorld arrivals (Entity × δ)) (settle _ (run (rounds + n)) (0, entity, device))
      (settle _ (run rounds) (n, entity, before)) := by
  induction n generalizing rounds before with
  | zero =>
      obtain rfl := Except.ok.inj h
      exact .refl
  | succ n ih =>
      obtain ⟨packet, hpacket⟩ := Option.ne_none_iff_exists'.mp (harrived n (by omega))
      cases hn : handlePackets arrivals device handle n with
      | error thrown => simp [handlePackets, hn] at h
      | ok middle =>
          rw [handlePackets_succ hn hpacket] at h
          have hbefore := ih (rounds + 1) middle (fun m hm => harrived m (by omega)) hn
          have hlast := reach_entityReceive P fuel arrivals decode (after rounds) n entity middle hconnected packet hpacket
          rw [← hsucc, hround, h] at hlast
          rw [← Nat.add_assoc, Nat.add_right_comm]
          exact hbefore.trans hlast

-- A run loop keeps running exactly when all packets that arrive can be handled.
theorem keepsRunning_iff (hzero : run 0 = .spin) :
    KeepsRunning arrivals entity device run ↔
      ∀ n, (∀ m < n, arrivals m ≠ none) → ∃ later, handlePackets arrivals device handle n = .ok later := by
  constructor
  · intro hkeeps n harrived
    induction n with
    | zero => exact ⟨device, rfl⟩
    | succ n ih =>
        obtain ⟨before, hbefore⟩ := ih fun m hm => harrived m (by omega)
        obtain ⟨packet, hpacket⟩ := Option.ne_none_iff_exists'.mp (harrived n (by omega))
        rw [handlePackets_succ hbefore hpacket]
        cases hhandle : handle packet before with
        | ok later => exact ⟨later, rfl⟩
        | error thrown =>
            have hfirst := reach_rounds hsucc hround hconnected 1 n before (fun m hm => harrived m (by omega)) hbefore
            have hlast := reach_entityReceive P fuel arrivals decode (after 0) n entity before hconnected packet hpacket
            rw [← hsucc, hround, hhandle] at hlast
            rcases hkeeps _ _ (hfirst.trans hlast) with ⟨query, next, htask⟩ | ⟨htask, -⟩ <;> cases htask
  · intro hhandled total config hreach
    have hwp (rounds received : Nat) (start : Nat × Entity × δ) (before : δ) (htotal : rounds + received = total)
        (harrived : ∀ m < received, arrivals m ≠ none)
        (hbefore : handlePackets arrivals device handle received = .ok before) :
        wp (Contract.alone fun _ => True) (Post.of (fun _ _ => False) (fun _ _ => False) fun point => total ≤ point.1)
          (run rounds) start ((received, entity, before) : (inboundWorld arrivals (Entity × δ)).Point) := by
      induction rounds generalizing received start before with
      | zero =>
          rw [hzero]
          exact Nat.le_of_eq (by omega)
      | succ rounds ih =>
          rw [hsucc]
          refine wp_entityReceive P fuel arrivals _ _ decode (after rounds) start received entity before hconnected
            trivial fun packet hpacket => ?_
          have hnext := arrived_succ hpacket harrived
          obtain ⟨later, hlater⟩ := hhandled (received + 1) hnext
          have hhandle := (handlePackets_succ hbefore hpacket).symm.trans hlater
          rw [← good_settle, hround, hhandle, good_settle]
          exact ih (received + 1) _ later (by omega) hnext hlater
    rcases wp_stands (hwp total 0 (0, entity, device) device rfl (fun m hm => by omega) rfl) hreach with
      ⟨query, next, htask, -⟩ | ⟨value, start, -, hret⟩ | ⟨thrown, start, -, hthrow⟩ | ⟨htask, start, hspin⟩
    · exact .inl ⟨query, next, htask⟩
    · exact absurd hret id
    · exact absurd hthrow id
    · exact .inr ⟨htask, hspin⟩

end Rounds

section Handles

variable {Command State : Type} (brings : PublishPacket → Command → Prop) (impl : Impl Command State δ)

-- What the device becomes with the first packets, each command among them being handled.
inductive Becomes : Nat → δ → Prop
  | start : Becomes 0 device
  | idle {n : Nat} {before : δ} (packet : PublishPacket) (h : Becomes n before) (hpacket : arrivals n = some packet)
      (hidle : ∀ command, ¬brings packet command) : Becomes (n + 1) before
  | handled {n : Nat} {before : δ} (packet : PublishPacket) (command : Command) (after : δ) (h : Becomes n before)
      (hpacket : arrivals n = some packet) (hbrings : brings packet command)
      (hafter : impl.handleRecvValue command before = .ok after) : Becomes (n + 1) after

-- The handler of the implementation returns from every command that arrives.
def Handles : Prop :=
  ∀ n before packet command, Becomes arrivals device brings impl n before → arrivals n = some packet →
    brings packet command → ∃ after, impl.handleRecvValue command before = .ok after

-- What one round makes of a packet.
def handlePacket (decode : PublishPacket → Except Exn (Option Command)) (packet : PublishPacket) (device : δ) :
    Except Exn δ :=
  match decode packet with
  | .ok (some command) => impl.handleRecvValue command device
  | .ok none => .ok device
  | .error thrown => .error thrown

variable {arrivals device brings impl}

theorem Becomes.arrived {n : Nat} {before : δ} (h : Becomes arrivals device brings impl n before) :
    ∀ m < n, arrivals m ≠ none := by
  induction h with
  | start => exact fun m hm => by omega
  | idle _ _ hpacket _ ih => exact arrived_succ hpacket ih
  | handled _ _ _ _ hpacket _ _ ih => exact arrived_succ hpacket ih

-- While the handler returns, every packet has its turn.
theorem Handles.becomes (h : Handles arrivals device brings impl) (n : Nat) (harrived : ∀ m < n, arrivals m ≠ none) :
    ∃ before, Becomes arrivals device brings impl n before := by
  induction n with
  | zero => exact ⟨device, .start⟩
  | succ n ih =>
      obtain ⟨before, hbefore⟩ := ih fun m hm => harrived m (by omega)
      obtain ⟨packet, hpacket⟩ := Option.ne_none_iff_exists'.mp (harrived n (by omega))
      by_cases hbrings : ∃ command, brings packet command
      · obtain ⟨command, hcommand⟩ := hbrings
        obtain ⟨after, hafter⟩ := h n before packet command hbefore hpacket hcommand
        exact ⟨after, .handled packet command after hbefore hpacket hcommand hafter⟩
      · exact ⟨before, .idle packet hbefore hpacket (not_exists.mp hbrings)⟩

section Decode

variable {decode : PublishPacket → Except Exn (Option Command)}
  (hdecode : ∀ packet command, decode packet = .ok (some command) ↔ brings packet command)

include hdecode

theorem Becomes.handlePackets_eq {n : Nat} {before : δ} (h : Becomes arrivals device brings impl n before)
    (hdecoded : ∀ packet, Arrives arrivals packet → ∀ thrown, decode packet ≠ .error thrown) :
    handlePackets arrivals device (handlePacket impl decode) n = .ok before := by
  induction h with
  | start => rfl
  | @idle n before packet h hpacket hidle ih =>
      rw [handlePackets_succ ih hpacket]
      cases hcommand : decode packet with
      | error thrown => exact absurd hcommand (hdecoded packet ⟨n, hpacket, h.arrived⟩ thrown)
      | ok command =>
          cases command with
          | none => simp [handlePacket, hcommand]
          | some command => exact absurd ((hdecode packet command).mp hcommand) (hidle command)
  | handled packet command after h hpacket hbrings hafter ih =>
      rw [handlePackets_succ ih hpacket]
      simpa [handlePacket, (hdecode packet command).mpr hbrings] using hafter

-- All packets can be handled exactly when none is refused and the handler always returns.
theorem handlePackets_iff :
    (∀ n, (∀ m < n, arrivals m ≠ none) → ∃ later,
        handlePackets arrivals device (handlePacket impl decode) n = .ok later) ↔
      (∀ packet, Arrives arrivals packet → ∀ thrown, decode packet ≠ .error thrown) ∧
        Handles arrivals device brings impl := by
  constructor
  · intro hhandled
    have hdecoded (packet : PublishPacket) (harrives : Arrives arrivals packet) (thrown : Exn) :
        decode packet ≠ .error thrown := by
      obtain ⟨n, hpacket, hbefore⟩ := harrives
      obtain ⟨before, hn⟩ := hhandled n hbefore
      obtain ⟨later, hlater⟩ := hhandled (n + 1) (arrived_succ hpacket hbefore)
      rw [handlePackets_succ hn hpacket] at hlater
      intro hthrown
      simp [handlePacket, hthrown] at hlater
    refine ⟨hdecoded, fun n before packet command hbecomes hpacket hbrings => ?_⟩
    obtain ⟨later, hlater⟩ := hhandled (n + 1) (arrived_succ hpacket hbecomes.arrived)
    rw [handlePackets_succ (hbecomes.handlePackets_eq hdecode hdecoded) hpacket] at hlater
    exact ⟨later, by simpa [handlePacket, (hdecode packet command).mpr hbrings] using hlater⟩
  · rintro ⟨hdecoded, hhandles⟩ n harrived
    obtain ⟨later, hlater⟩ := hhandles.becomes n harrived
    exact ⟨later, hlater.handlePackets_eq hdecode hdecoded⟩

end Decode
end Handles

theorem settle_coverRound (impl : Impl CoverCommand CoverState δ) (rounds : Nat) (packet : PublishPacket)
    (received : Nat) (device : δ) :
    settle (inboundWorld arrivals (Entity × δ)) ((onEntity (decodeCommand (.ok packet))).bind fun value =>
        afterReceive (coverOperations P fuel impl) rounds (value.mapError some)) (received, entity, device) =
      match handlePacket impl (Cover.mapCommand (Cover.topics entity)) packet device with
      | .ok later => settle _ (EntityAdapter.asyncRun (coverOperations P fuel impl) rounds) (received, entity, later)
      | .error thrown => ⟨(received, entity, device), .throw thrown⟩ := by
  cases hmap : Cover.mapCommand (Cover.topics entity) packet with
  | error thrown => simp [onEntity, decodeCommand, Coro.zoom, settle, handlePacket, hmap]
  | ok command =>
      cases command with
      | none =>
          simp [onEntity, decodeCommand, Coro.zoom, settle, handlePacket, hmap, afterReceive,
            EntityAdapter.asyncHandleError, Except.mapError, plainError]
      | some command =>
          cases hdevice : impl.handleRecvValue command device with
          | error thrown | ok later =>
              simp [onEntity, decodeCommand, Coro.zoom, settle, handlePacket, hmap, afterReceive, coverOperations,
                commandOperations, Except.mapError, hdevice]

theorem keepsRunning_cover_iff (impl : Impl CoverCommand CoverState δ) (hconnected : entity.client.connected = true) :
    KeepsRunning arrivals entity device (EntityAdapter.asyncRun (coverOperations P (fuel + 1) impl)) ↔
      (∀ packet, Arrives arrivals packet → ¬Malformed entity packet) ∧
        Handles arrivals device (Brings entity) impl := by
  refine ((keepsRunning_iff (asyncRun_cover P (fuel + 1) impl)
    (settle_coverRound arrivals entity P (fuel + 1) impl) hconnected rfl).trans
    (handlePackets_iff (mapCommand_some_iff entity))).trans (and_congr_left fun _ => ?_)
  refine forall₂_congr fun packet _ => ?_
  rcases mapCommand_cases entity packet with ⟨hmalformed, thrown, hmap⟩ | ⟨hnot, result, hmap, -⟩
  · exact iff_of_false (fun h => h thrown hmap) (not_not.mpr hmalformed)
  · refine iff_of_true (fun thrown hthrown => ?_) hnot
    cases hmap.symm.trans hthrown

theorem settle_buttonRound (impl : Impl ButtonCommand Empty δ) (rounds : Nat) (packet : PublishPacket)
    (received : Nat) (device : δ) :
    settle (inboundWorld arrivals (Entity × δ)) ((onEntity (decodePress (.ok packet))).bind fun value =>
        afterReceive (buttonOperations P fuel impl) rounds (value.mapError some)) (received, entity, device) =
      match handlePacket impl mapPress packet device with
      | .ok later => settle _ (EntityAdapter.asyncRun (buttonOperations P fuel impl) rounds) (received, entity, later)
      | .error thrown => ⟨(received, entity, device), .throw thrown⟩ := by
  by_cases hpress : packet.payload = ButtonConfig.Default.payloadPress
  · cases hdevice : impl.handleRecvValue .press device with
    | error thrown | ok later =>
        simp [onEntity, decodePress, Coro.zoom, settle, handlePacket, mapPress, hpress, afterReceive, buttonOperations,
          commandOperations, Except.mapError, hdevice]
  · simp [onEntity, decodePress, Coro.zoom, handlePacket, mapPress, hpress, afterReceive,
      EntityAdapter.asyncHandleError, Except.mapError, plainError]

theorem keepsRunning_button_iff (impl : Impl ButtonCommand Empty δ) (hconnected : entity.client.connected = true) :
    KeepsRunning arrivals entity device (EntityAdapter.asyncRun (buttonOperations P (fuel + 1) impl)) ↔
      Handles arrivals device (fun packet _ => packet.payload = ascii "press") impl := by
  have hpress (packet : PublishPacket) (command : ButtonCommand) :
      mapPress packet = .ok (some command) ↔ packet.payload = ascii "press" := by
    obtain ⟨⟩ := command
    unfold mapPress
    split_ifs with h
    · exact iff_of_true rfl h
    · exact iff_of_false (by simp) h
  refine ((keepsRunning_iff (asyncRun_button P (fuel + 1) impl)
    (settle_buttonRound arrivals entity P (fuel + 1) impl) hconnected rfl).trans
    (handlePackets_iff hpress)).trans (and_iff_right fun packet _ thrown hthrown => ?_)
  cases hthrown

-- Cover answers every packet that arrives, and its run loop goes on, exactly when none of
-- them is malformed and the implementation handles the commands. Button answers every
-- packet, and its run loop goes on exactly when the implementation handles the presses.
theorem inbound_answered_iff (cover : Impl CoverCommand CoverState δ) (button : Impl ButtonCommand Empty δ)
    (hconnected : entity.client.connected = true) :
    (((∀ packet, Arrives arrivals packet → AnswersPacket P entity packet) ∧
        KeepsRunning arrivals entity device (EntityAdapter.asyncRun (coverOperations P (fuel + 1) cover))) ↔
      (∀ packet, Arrives arrivals packet → ¬Malformed entity packet) ∧
        Handles arrivals device (Brings entity) cover) ∧
    (∀ packet, AnswersPress P entity packet) ∧
    (KeepsRunning arrivals entity device (EntityAdapter.asyncRun (buttonOperations P (fuel + 1) button)) ↔
      Handles arrivals device (fun packet _ => packet.payload = ascii "press") button) := by
  refine ⟨?_, answersPress P entity hconnected, keepsRunning_button_iff arrivals entity device P fuel button hconnected⟩
  rw [keepsRunning_cover_iff arrivals entity device P fuel cover hconnected]
  simp only [answersPacket_iff P entity hconnected, ← and_assoc, and_self]

end Run

section Samples

-- A cover and a button whose devices ignore what they are told.
def sampleCover : Impl CoverCommand CoverState Unit := ⟨fun _ => {}, some fun _ => .ok .open, fun _ _ => .ok ()⟩

def sampleButton : Impl ButtonCommand Empty Unit := ⟨fun _ => {}, none, fun _ _ => .ok ()⟩

def sampleEntity : Entity :=
  Cover.create (ascii "1") (AsyncMqttClient.create {}).setConnected

-- One packet on the command topic.
def once (payload : Bytes) : Arrivals
  | 0 => some ⟨1, ascii "cover_1/set", payload, ⟨.atLeastOnce, false⟩⟩
  | _ + 1 => none

theorem arrives_once (payload : Bytes) (packet : PublishPacket) (h : Arrives (once payload) packet) :
    packet.payload = payload := by
  obtain ⟨n, hpacket, -⟩ := h
  cases n with
  | zero =>
      cases hpacket
      rfl
  | succ n => cases hpacket

theorem inbound_answered_open :
    KeepsRunning (once (ascii "open")) sampleEntity ()
      (EntityAdapter.asyncRun (coverOperations samplePlatform 1 sampleCover)) := by
  have hiff := (inbound_answered_iff (once (ascii "open")) sampleEntity () samplePlatform 0 sampleCover sampleButton
    rfl).1
  refine (hiff.mpr ⟨fun packet harrives hmalformed => ?_, fun _ _ _ _ _ _ _ => ⟨(), rfl⟩⟩).2
  exact hmalformed.2 .open (by rw [arrives_once _ packet harrives]; decide)

-- The payload OPEN in capitals ends the run loop.
theorem run_ended_by_capitals :
    (∃ packet, Arrives (once (ascii "OPEN")) packet ∧ ¬AnswersPacket samplePlatform sampleEntity packet) ∧
      ¬KeepsRunning (once (ascii "OPEN")) sampleEntity ()
        (EntityAdapter.asyncRun (coverOperations samplePlatform 1 sampleCover)) := by
  have harrives : Arrives (once (ascii "OPEN")) ⟨1, ascii "cover_1/set", ascii "OPEN", ⟨.atLeastOnce, false⟩⟩ :=
    ⟨0, rfl, fun m hm => by omega⟩
  have hmalformed : Malformed sampleEntity ⟨1, ascii "cover_1/set", ascii "OPEN", ⟨.atLeastOnce, false⟩⟩ :=
    ⟨by decide, fun command => by cases command <;> decide⟩
  refine ⟨⟨_, harrives, ?_⟩, ?_⟩
  · rw [answersPacket_iff samplePlatform sampleEntity rfl]
    exact not_not.mpr hmalformed
  · rw [keepsRunning_cover_iff (once (ascii "OPEN")) sampleEntity () samplePlatform 0 sampleCover rfl]
    exact fun h => h.1 _ harrives hmalformed

end Samples

end HhctrlMgmt.Adapter
