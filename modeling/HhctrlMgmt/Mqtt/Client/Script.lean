import HhctrlMgmt.Coroutine.World
import HhctrlMgmt.Mqtt.Client

namespace HhctrlMgmt.Mqtt

open Coroutine

-- The outcomes of one execution of async_connect, and of the timer that
-- try_reconnect awaits before it.
structure Attempt where
  timer : Option SystemCode
  resolve : Option SystemCode
  connect : Option SystemCode
  send : Option SystemError
  recv : Except SystemError Packet

-- Everything that the transport answers to one operation of the client: the
-- k-th execution of async_connect gets the k-th attempt.
structure Script where
  attempts : Nat → Attempt
  acquire : Option PacketId
  send : Option SystemError
  recv : Nat → Except SystemError Packet

-- How far a script has been played.
structure Progress where
  connects : Nat
  handshake : Bool
  received : Nat
deriving DecidableEq

namespace Script

variable (script : Script)

def respond (progress : Progress) (_ : AsyncMqttClient) : (query : Query) → Answer query
  | .resolve _ _ => (script.attempts (progress.connects - 1)).resolve
  | .connect => (script.attempts (progress.connects - 1)).connect
  | .send (.connect _) => (script.attempts (progress.connects - 1)).send
  | .send (.publish _) => script.send
  | .send (.subscribe _) => script.send
  | .recv => if progress.handshake then (script.attempts (progress.connects - 1)).recv
      else script.recv progress.received
  | .acquireUniquePacketId => script.acquire
  | .timer _ => (script.attempts progress.connects).timer
  | .wait _ => none

end Script

def Progress.enter (progress : Progress) (label : Label) : Progress :=
  if label = .client .asyncConnect then { progress with connects := progress.connects + 1 } else progress

def Progress.answer (progress : Progress) : (query : Query) → Answer query → Progress
  | .send (.connect _), answer => { progress with handshake := @Option.isNone SystemError answer }
  | .recv, _ => if progress.handshake then { progress with handshake := false }
      else { progress with received := progress.received + 1 }
  | _, _ => progress

-- One execution of async_connect more.
def Progress.attempted (progress : Progress) : Progress :=
  { progress with connects := progress.connects + 1 }

@[simp] theorem Progress.enter_asyncConnect (progress : Progress) :
    progress.enter (.client .asyncConnect) = progress.attempted := rfl

@[simp] theorem Progress.enter_tryReconnect (progress : Progress) :
    progress.enter (.client .tryReconnect) = progress := rfl

@[simp] theorem Progress.attempted_connects (progress : Progress) :
    progress.attempted.connects = progress.connects + 1 := rfl

abbrev scriptWorld (script : Script) : World sig AsyncMqttClient where
  State := Progress
  enter := Progress.enter
  issue progress _ := progress
  allows progress client query answer := answer = script.respond progress client query
  answer := Progress.answer

def play (script : Script) {α : Type} (task : ClientM α) (progress : Progress) (client : AsyncMqttClient) :
    Outcome sig α × Progress × AsyncMqttClient :=
  exec (scriptWorld script) script.respond task (progress, client)

def Progress.start : Progress := ⟨0, false, 0⟩

-- The codes that map_error_code maps.
def Mapped (P : Platform) (code : SystemCode) : Prop :=
  code.value P = timed_out ∨ code.value P = network_unreachable ∨
    code.value P = no_such_file_or_directory ∨ code.value P = connection_refused

instance (P : Platform) (code : SystemCode) : Decidable (Mapped P code) := by
  unfold Mapped; infer_instance

theorem mapErrorCode_ok_iff (P : Platform) (code : SystemCode) :
    (∃ mapped, mapErrorCode P code = .ok mapped) ↔ Mapped P code := by
  unfold mapErrorCode Mapped
  split_ifs with h110 h101 h111
  · simp [h110]
  · rcases h101 with h101 | h2 <;> simp [*]
  · simp [h111]
  · push Not at h101
    simp [h110, h101, h111]

theorem mapErrorCode_of_not_mapped (P : Platform) (code : SystemCode) (h : ¬Mapped P code) :
    ∃ thrown, mapErrorCode P code = .error thrown := by
  cases hm : mapErrorCode P code with
  | error thrown => exact ⟨thrown, rfl⟩
  | ok mapped => exact absurd ((mapErrorCode_ok_iff P code).mp ⟨mapped, hm⟩) h

-- Whatever the address of the category is, the value of a wrapped code keeps
-- its last three digits.
theorem not_mapped_mqtt (P : Platform) (code : ErrorCode) (h : code ≠ .noService) :
    ¬Mapped P (.mqtt code) := by
  unfold Mapped SystemCode.value timed_out network_unreachable no_such_file_or_directory connection_refused
  cases code <;> simp only [ErrorCode.toInt] <;> first | omega | exact absurd rfl h

namespace Attempt

variable (P : Platform) (io : Attempt)

-- The transport is up, and this is the first packet that arrives.
def Opens (packet : Packet) : Prop :=
  io.resolve = none ∧ io.connect = none ∧ io.send = none ∧ io.recv = .ok packet

-- The transport is up and the first packet arrives.
def Succeeds : Prop :=
  io.resolve = none ∧ io.connect = none ∧ io.send = none ∧ ∃ packet, io.recv = .ok packet

-- The connection is lost while the client waits for the CONNACK.
def LostWith (e : SystemError) : Prop :=
  io.resolve = none ∧ io.connect = none ∧ io.send = none ∧ io.recv = .error e

def Lost : Prop := ∃ e, io.LostWith e

-- A stage before the CONNACK fails with a code outside map_error_code.
def Unmapped : Prop :=
  io.resolve = none ∧
    ((∃ ec, io.connect = some ec ∧ ¬Mapped P ec) ∨
      io.connect = none ∧ ∃ e, io.send = some e ∧ ¬Mapped P e.code)

-- A stage before the CONNACK fails, with a code that async_connect reports.
def Refused : Prop :=
  (∃ ec, io.resolve = some ec) ∨
    io.resolve = none ∧
      ((∃ ec, io.connect = some ec ∧ Mapped P ec) ∨
        io.connect = none ∧ ∃ e, io.send = some e ∧ Mapped P e.code)

theorem cases : io.Succeeds ∨ io.Refused P ∨ io.Unmapped P ∨ io.Lost := by
  unfold Succeeds Refused Unmapped Lost LostWith
  cases io.resolve with
  | some ec => simp
  | none =>
      cases io.connect with
      | some ec => by_cases hm : Mapped P ec <;> simp [hm]
      | none =>
          cases io.send with
          | some e => by_cases hm : Mapped P e.code <;> simp [hm]
          | none => cases io.recv <;> simp

variable {P io}

theorem Refused.not_succeeds (h : io.Refused P) : ¬io.Succeeds := by
  unfold Succeeds
  rcases h with ⟨ec, hresolve⟩ | ⟨hresolve, ⟨ec, hconnect, hmap⟩ | ⟨hconnect, e, hsend, hmap⟩⟩ <;> simp [*]

theorem Succeeds.not_lost (h : io.Succeeds) : ¬io.Lost := by
  unfold Lost LostWith
  obtain ⟨-, -, -, packet, hrecv⟩ := h
  simp [hrecv]

theorem Succeeds.not_unmapped (h : io.Succeeds) : ¬io.Unmapped P := by
  unfold Unmapped
  obtain ⟨-, hconnect, hsend, -⟩ := h
  simp [hconnect, hsend]

theorem LostWith.unique {e other : SystemError} (h : io.LostWith e) (hother : io.LostWith other) : e = other := by
  obtain ⟨-, -, -, hrecv⟩ := h
  obtain ⟨-, -, -, hrecv'⟩ := hother
  simpa using hrecv.symm.trans hrecv'

theorem Unmapped.not_lost (h : io.Unmapped P) : ¬io.Lost := by
  unfold Lost LostWith
  obtain ⟨-, ⟨ec, hconnect, -⟩ | ⟨-, e, hsend, -⟩⟩ := h <;> simp [*]

theorem Refused.not_broken (h : io.Refused P) : ¬(io.Lost ∨ io.Unmapped P) := by
  unfold Lost LostWith Unmapped
  rcases h with ⟨ec, hresolve⟩ | ⟨hresolve, ⟨ec, hconnect, hmap⟩ | ⟨hconnect, e, hsend, hmap⟩⟩ <;> simp [*]

end Attempt

-- What the first packet after CONNECT does to the client.
def afterHandshake : Packet → AsyncMqttClient → AsyncMqttClient
  | .connack _ _, client => client.setConnected
  | _, client => client

section Play

variable (P : Platform) (script : Script) {α β : Type}

@[simp] theorem play_ret (value : α) (progress : Progress) (client : AsyncMqttClient) :
    play script (.ret value) progress client = (.ret value, progress, client) := rfl

@[simp] theorem play_throw (thrown : Exn) (progress : Progress) (client : AsyncMqttClient) :
    play script (.throw thrown : ClientM α) progress client = (.throw thrown, progress, client) := rfl

@[simp] theorem play_spin (progress : Progress) (client : AsyncMqttClient) :
    play script (.spin : ClientM α) progress client = (.spin, progress, client) := rfl

@[simp] theorem play_get (next : AsyncMqttClient → ClientM α) (progress : Progress) (client : AsyncMqttClient) :
    play script (.get next) progress client = play script (next client) progress client := rfl

@[simp] theorem play_set (state : AsyncMqttClient) (next : ClientM α) (progress : Progress)
    (client : AsyncMqttClient) :
    play script (.set state next) progress client = play script next progress state := rfl

@[simp] theorem play_enter (label : Label) (next : ClientM α) (progress : Progress) (client : AsyncMqttClient) :
    play script (.enter label next) progress client = play script next (progress.enter label) client := rfl

@[simp] theorem play_await (query : Query) (next : Answer query → ClientM α) (progress : Progress)
    (client : AsyncMqttClient) :
    play script (.await query next) progress client =
      play script (next (script.respond progress client query))
        (progress.answer query (script.respond progress client query)) client := rfl

theorem play_bind (first : ClientM α) (f : α → ClientM β) (progress : Progress) (client : AsyncMqttClient) :
    play script (first.bind f) progress client =
      execBind (scriptWorld script) script.respond (play script first progress client) f :=
  exec_bind _ _ _ _ _

@[simp] theorem execBind_play (value : α) (progress : Progress) (client : AsyncMqttClient) (f : α → ClientM β) :
    execBind (scriptWorld script) script.respond (.ret value, progress, client) f =
      play script (f value) progress client := rfl

-- The number of executions of async_connect never falls.
theorem play_connects_le (task : ClientM α) (progress : Progress) (client : AsyncMqttClient) :
    progress.connects ≤ (play script task progress client).2.1.connects := by
  induction task generalizing progress client with
  | ret _ => exact Nat.le_refl _
  | throw _ => exact Nat.le_refl _
  | spin => exact Nat.le_refl _
  | get next ih => exact ih _ _ _
  | set state next ih => exact ih _ _
  | enter label next ih =>
      refine Nat.le_trans ?_ (ih (progress.enter label) client)
      unfold Progress.enter
      split <;> simp
  | await query next ih =>
      refine Nat.le_trans ?_ (ih _ (progress.answer query _) client)
      unfold Progress.answer
      split
      · exact Nat.le_refl _
      · split <;> exact Nat.le_refl _
      · exact Nat.le_refl _

theorem execBind_connects_le (result : Outcome sig α × Progress × AsyncMqttClient) (f : α → ClientM β) :
    result.2.1.connects ≤ (execBind (scriptWorld script) script.respond result f).2.1.connects := by
  obtain ⟨outcome, progress, client⟩ := result
  cases outcome with
  | ret value => exact play_connects_le script (f value) progress client
  | throw _ => exact Nat.le_refl _
  | spin => exact Nat.le_refl _

section Attempts

variable (tryReconnect : ClientM Bool) (progress : Progress) (client : AsyncMqttClient)

theorem play_asyncConnect_connects :
    progress.connects + 1 ≤ (play script (asyncConnect P tryReconnect) progress client).2.1.connects :=
  play_connects_le script _ progress.attempted client

theorem play_asyncConnect_opens (hidle : progress.handshake = false) (packet : Packet)
    (h : (script.attempts progress.connects).Opens packet) :
    play script (asyncConnect P tryReconnect) progress client =
      (.ret none, progress.attempted, (afterHandshake packet client).setAttempt 0) := by
  obtain ⟨hresolve, hconnect, hsend, hrecv⟩ := h
  cases packet <;>
    simp [asyncConnect, asyncSendCon, asyncRecvConack, Script.respond, Progress.answer, Progress.attempted,
      afterHandshake, hidle, hresolve, hconnect, hsend, hrecv]

theorem play_asyncConnect_succeeds (hidle : progress.handshake = false)
    (h : (script.attempts progress.connects).Succeeds) :
    ∃ packet, play script (asyncConnect P tryReconnect) progress client =
      (.ret none, progress.attempted, (afterHandshake packet client).setAttempt 0) := by
  obtain ⟨hresolve, hconnect, hsend, packet, hrecv⟩ := h
  have hopens : (script.attempts progress.connects).Opens packet := ⟨hresolve, hconnect, hsend, hrecv⟩
  exact ⟨packet, play_asyncConnect_opens P script tryReconnect progress client hidle packet hopens⟩

theorem play_asyncConnect_refused (hidle : progress.handshake = false)
    (h : (script.attempts progress.connects).Refused P) :
    ∃ e, play script (asyncConnect P tryReconnect) progress client = (.ret (some e), progress.attempted, client) := by
  rcases h with ⟨ec, hresolve⟩ | ⟨hresolve, ⟨ec, hconnect, hmap⟩ | ⟨hconnect, e, hsend, hmap⟩⟩
  · refine ⟨error .noService "Error while resolving name of the broker", ?_⟩
    simp [asyncConnect, Script.respond, Progress.answer, Progress.attempted, hresolve]
  · obtain ⟨code, hcode⟩ := (mapErrorCode_ok_iff P ec).mpr hmap
    refine ⟨error code "Error while establishing connection", ?_⟩
    simp [asyncConnect, Script.respond, Progress.answer, Progress.attempted, hresolve, hconnect, hcode]
  · obtain ⟨code, hcode⟩ := (mapErrorCode_ok_iff P e.code).mpr hmap
    refine ⟨error code "Error while sending ConnectPacket", ?_⟩
    simp [asyncConnect, asyncSendCon, Script.respond, Progress.answer, Progress.attempted, hidle, hresolve, hconnect,
      hsend, hcode]

theorem play_asyncConnect_unmapped (hidle : progress.handshake = false)
    (h : (script.attempts progress.connects).Unmapped P) :
    ∃ thrown, play script (asyncConnect P tryReconnect) progress client =
      (.throw thrown, progress.attempted, client) := by
  obtain ⟨hresolve, ⟨ec, hconnect, hmap⟩ | ⟨hconnect, e, hsend, hmap⟩⟩ := h
  · obtain ⟨thrown, hthrown⟩ := mapErrorCode_of_not_mapped P ec hmap
    refine ⟨thrown, ?_⟩
    simp [asyncConnect, Script.respond, Progress.answer, Progress.attempted, hresolve, hconnect, hthrown]
  · obtain ⟨thrown, hthrown⟩ := mapErrorCode_of_not_mapped P e.code hmap
    refine ⟨thrown, ?_⟩
    simp [asyncConnect, asyncSendCon, Script.respond, Progress.answer, Progress.attempted, hidle, hresolve, hconnect,
      hsend, hthrown]

-- What async_connect does with the error that async_recv_conack reports.
def reportRecvError (e : SystemError) : ClientM Error := do
  let code ← .ofExcept (mapErrorCode P e.code)
  return some (error code "Error while receiving ConnectAckPacket")

theorem play_asyncConnect_lost (hidle : progress.handshake = false) (e : SystemError)
    (h : (script.attempts progress.connects).LostWith e) :
    play script (asyncConnect P tryReconnect) progress client =
      execBind (scriptWorld script) script.respond
        (play script (handleRecvError P tryReconnect e) progress.attempted client) (reportRecvError P) := by
  obtain ⟨hresolve, hconnect, hsend, hrecv⟩ := h
  rw [← play_bind]
  unfold reportRecvError
  simp [asyncConnect, asyncSendCon, asyncRecvConack, Script.respond, Progress.answer, Progress.attempted, hidle,
    hresolve, hconnect, hsend, hrecv, Coro.bind_assoc]

end Attempts
end Play

section Samples

def endOfFile : SystemError := ⟨.boost 2 "asio.misc", none⟩

def sampleClient : AsyncMqttClient := (AsyncMqttClient.create { maxAttempts := 1 }).setConnected

-- The name of the broker is not resolved.
def unresolved : Attempt := ⟨none, some (.boost 1 "asio.netdb"), none, none, .ok (.other .pingresp)⟩

-- The broker closes the connection instead of sending a CONNACK.
def closed : Attempt := ⟨none, none, none, none, .error endOfFile⟩

def unresolvedScript : Script := ⟨fun _ => unresolved, none, none, fun _ => .error endOfFile⟩

def closedScript : Script := ⟨fun k => if k = 0 then closed else unresolved, none, none, fun _ => .error endOfFile⟩

end Samples

end HhctrlMgmt.Mqtt
