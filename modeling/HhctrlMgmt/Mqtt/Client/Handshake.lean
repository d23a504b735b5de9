import HhctrlMgmt.Mqtt.Client.Failures

namespace HhctrlMgmt.Mqtt

open Coroutine

-- A CONNACK whose return code is accepted.
def Packet.Accepts (packet : Packet) : Prop :=
  ∃ sessionPresent, packet = .connack sessionPresent .accepted

namespace Attempt

-- The stages of async_connect at which a transport error is reported.
inductive Stage where
  | connect
  | send
  | receive
deriving DecidableEq

-- The error strikes at this stage, the stages before it succeed.
def Strikes (io : Attempt) (e : SystemError) : Stage → Prop
  | .connect => io.resolve = none ∧ io.connect = some e.code
  | .send => io.resolve = none ∧ io.connect = none ∧ io.send = some e
  | .receive => io.LostWith e

end Attempt

section Play

variable (P : Platform) (script : Script) (tryReconnect : ClientM Bool) (client : AsyncMqttClient)

-- Without a packet there is no success.
theorem play_asyncConnect_not_opens (hnew : client.connected = false)
    (h : ∀ packet, ¬(script.attempts 0).Opens packet) :
    (play script (asyncConnect P tryReconnect) .start client).1 ≠ .ret none := by
  rcases (script.attempts 0).cases P with hsucceeds | hrefused | hunmapped | ⟨e, hlost⟩
  · obtain ⟨hresolve, hconnect, hsend, packet, hrecv⟩ := hsucceeds
    exact absurd ⟨hresolve, hconnect, hsend, hrecv⟩ (h packet)
  · obtain ⟨e, hplay⟩ := play_asyncConnect_refused P script tryReconnect .start client rfl hrefused
    simp [hplay]
  · obtain ⟨thrown, hplay⟩ := play_asyncConnect_unmapped P script tryReconnect .start client rfl hunmapped
    simp [hplay]
  · rw [play_asyncConnect_lost_new P script client tryReconnect hnew e hlost]
    cases hmap : mapErrorCode P e.code with
    | error thrown => simp
    | ok code => cases hagain : mapErrorCode P (.mqtt code) <;> simp [reportRecvError, plainError, hagain]

end Play

-- async_connect succeeds exactly on an accepted CONNACK, with the flag set, and any
-- other first packet is an error that leaves it cleared.
structure HandshakeSound (io : Attempt) (outcome : Outcome sig Error) (client : AsyncMqttClient) : Prop where
  success : outcome = .ret none ↔ ∃ packet, io.Opens packet ∧ packet.Accepts
  connected : outcome = .ret none → client.connected = true
  rejected : ∀ packet, io.Opens packet → ¬packet.Accepts → (∃ e, outcome = .ret (some e)) ∧ client.connected = false

-- One execution of async_connect: how it ends and what it leaves of the client.
def handshake (P : Platform) (script : Script) (fuel : Nat) (client : AsyncMqttClient) :
    Outcome sig Error × AsyncMqttClient :=
  let final := play script (asyncConnect P (tryReconnect P fuel)) .start client
  (final.1, final.2.2)

theorem handshake_sound_iff (P : Platform) (script : Script) (fuel : Nat) (client : AsyncMqttClient)
    (hnew : client.connected = false) :
    HandshakeSound (script.attempts 0) (handshake P script fuel client).1 (handshake P script fuel client).2 ↔
      ∀ packet, (script.attempts 0).Opens packet → packet.Accepts := by
  by_cases hopens : ∃ packet, (script.attempts 0).Opens packet
  · obtain ⟨packet, hopens⟩ := hopens
    have hfinal : handshake P script fuel client = (.ret none, (afterHandshake packet client).setAttempt 0) := by
      rw [handshake, play_asyncConnect_opens P script _ .start client rfl packet hopens]
    rw [hfinal]
    have hunique (other : Packet) (h : (script.attempts 0).Opens other) : other = packet := by
      have heq := h.2.2.2.symm.trans hopens.2.2.2
      simpa using heq
    constructor
    · intro hsound other hother
      obtain ⟨accepting, haccepting, haccepts⟩ := hsound.success.mp rfl
      rw [hunique other hother, ← hunique accepting haccepting]
      exact haccepts
    · intro haccept
      have haccepts := haccept packet hopens
      refine ⟨iff_of_true rfl ⟨packet, hopens, haccepts⟩, fun _ => ?_, fun other hother hrejects => ?_⟩
      · obtain ⟨sessionPresent, rfl⟩ := haccepts
        rfl
      · exact absurd (haccept other hother) hrejects
  · have hnone (packet : Packet) (h : (script.attempts 0).Opens packet) : False := hopens ⟨packet, h⟩
    have houtcome : (handshake P script fuel client).1 ≠ .ret none :=
      play_asyncConnect_not_opens P script (tryReconnect P fuel) client hnew hnone
    refine iff_of_true ⟨iff_of_false houtcome ?_, fun hsuccess => absurd hsuccess houtcome, fun packet h => ?_⟩
      fun packet h => (hnone packet h).elim
    · rintro ⟨packet, h, -⟩
      exact hnone packet h
    · exact (hnone packet h).elim

section Samples

-- The transport works, and this is the first packet.
def answered (packet : Packet) : Script :=
  ⟨fun _ => ⟨none, none, none, none, .ok packet⟩, none, none, fun _ => .error endOfFile⟩

def freshClient : AsyncMqttClient := .create {}

theorem handshake_sound_accepted :
    HandshakeSound ((answered (.connack false .accepted)).attempts 0)
      (handshake samplePlatform (answered (.connack false .accepted)) 0 freshClient).1
      (handshake samplePlatform (answered (.connack false .accepted)) 0 freshClient).2 := by
  refine (handshake_sound_iff samplePlatform _ 0 freshClient rfl).mpr fun packet hopens => ?_
  obtain ⟨-, -, -, hrecv⟩ := hopens
  obtain rfl : .connack false .accepted = packet := Except.ok.inj hrecv
  exact ⟨false, rfl⟩

-- The broker refuses the credentials, or sends something else first.
theorem handshake_refused :
    (handshake samplePlatform (answered (.connack false .notAuthorized)) 0 freshClient).1 = .ret none ∧
      (handshake samplePlatform (answered (.connack false .notAuthorized)) 0 freshClient).2.connected = true ∧
      (handshake samplePlatform (answered (.other .pingresp)) 0 freshClient).1 = .ret none ∧
      (handshake samplePlatform (answered (.other .pingresp)) 0 freshClient).2.connected = false ∧
      ¬HandshakeSound ((answered (.connack false .notAuthorized)).attempts 0)
        (handshake samplePlatform (answered (.connack false .notAuthorized)) 0 freshClient).1
        (handshake samplePlatform (answered (.connack false .notAuthorized)) 0 freshClient).2 := by
  refine ⟨rfl, rfl, rfl, rfl, fun hsound => ?_⟩
  have hrejects : ¬(Packet.connack false .notAuthorized).Accepts := by
    rintro ⟨sessionPresent, heq⟩
    cases heq
  have hcleared := (hsound.rejected _ ⟨rfl, rfl, rfl, rfl⟩ hrejects).2
  cases hcleared

end Samples

section Stages

variable (P : Platform) (e : SystemError)

namespace Attempt.Stage

def text : Stage → String
  | .connect => "Error while establishing connection"
  | .send => "Error while sending ConnectPacket"
  | .receive => "Error while receiving ConnectAckPacket"

-- The error passes map_error_code once, or twice while the CONNACK is awaited.
def report : Stage → Except Exn ErrorCode
  | .connect | .send => mapErrorCode P e.code
  | .receive => (mapErrorCode P e.code).bind fun code => mapErrorCode P (.mqtt code)

end Attempt.Stage

-- The outcome of a report.
def answerOf (stage : Attempt.Stage) : Except Exn ErrorCode → Outcome sig Error
  | .ok code => .ret (some (error code stage.text))
  | .error thrown => .throw thrown

theorem handshake_strikes (script : Script) (fuel : Nat) (client : AsyncMqttClient) (hnew : client.connected = false)
    (stage : Attempt.Stage) (h : (script.attempts 0).Strikes e stage) :
    (handshake P script fuel client).1 = answerOf stage (stage.report P e) := by
  unfold handshake
  cases stage with
  | connect =>
      obtain ⟨hresolve, hconnect⟩ := h
      cases hmap : mapErrorCode P e.code <;>
        simp [asyncConnect, Script.respond, Progress.answer, Progress.attempted, Progress.start, hresolve, hconnect,
          hmap, Attempt.Stage.report, answerOf, Attempt.Stage.text]
  | send =>
      obtain ⟨hresolve, hconnect, hsend⟩ := h
      cases hmap : mapErrorCode P e.code <;>
        simp [asyncConnect, asyncSendCon, Script.respond, Progress.answer, Progress.attempted, Progress.start, hresolve,
          hconnect, hsend, hmap, Attempt.Stage.report, answerOf, Attempt.Stage.text]
  | receive =>
      rw [play_asyncConnect_lost_new P script client (tryReconnect P fuel) hnew e h]
      cases hmap : mapErrorCode P e.code with
      | error thrown => simp [Attempt.Stage.report, answerOf, hmap, Except.bind]
      | ok code =>
          cases hagain : mapErrorCode P (.mqtt code) <;>
            simp [reportRecvError, plainError, Attempt.Stage.report, answerOf, Attempt.Stage.text, hmap, hagain,
              Except.bind]

-- The run reports this code, with whatever text.
def ReportsCode (outcome : Outcome sig Error) (code : ErrorCode) : Prop :=
  ∃ text, outcome = .ret (some (error code text))

-- Both runs report the code of the error, or both fail by the same exception.
structure SameAnswer (first second : Outcome sig Error) : Prop where
  mapped : ∀ code, mapErrorCode P e.code = .ok code → ReportsCode first code ∧ ReportsCode second code
  unmapped : ¬Mapped P e.code → first = second ∧ ∃ thrown, first = .throw thrown

-- The CONNACK is not awaited, or mapping the code once more changes nothing.
def SurvivesStage (stage : Attempt.Stage) : Prop :=
  stage = .receive → Mapped P e.code → mapErrorCode P e.code = .ok .noService ∧ P.categoryHash = 0

theorem mapErrorCode_noService (hhash : P.categoryHash = 0) :
    mapErrorCode P (.mqtt .noService) = .ok .noService := by
  simp [mapErrorCode, SystemCode.value, ErrorCode.toInt, hhash, timed_out, network_unreachable,
    no_such_file_or_directory]

theorem reportsCode_answerOf (stage : Attempt.Stage) (report : Except Exn ErrorCode) (code : ErrorCode) :
    ReportsCode (answerOf stage report) code ↔ report = .ok code := by
  cases report with
  | error thrown => simp [ReportsCode, answerOf]
  | ok other => simp [ReportsCode, answerOf, error]

theorem report_eq_iff (stage : Attempt.Stage) (code : ErrorCode) (hmap : mapErrorCode P e.code = .ok code) :
    stage.report P e = .ok code ↔ SurvivesStage P e stage := by
  have hmapped : Mapped P e.code := (mapErrorCode_ok_iff P e.code).mp ⟨code, hmap⟩
  cases stage with
  | connect | send => exact iff_of_true hmap fun hreceive => by cases hreceive
  | receive =>
      have hreport : Attempt.Stage.report P e .receive = mapErrorCode P (.mqtt code) := by
        simp [Attempt.Stage.report, hmap, Except.bind]
      rw [hreport]
      constructor
      · intro hagain _ _
        obtain ⟨rfl, hhash⟩ := (mapped_mqtt_iff P code).mp ((mapErrorCode_ok_iff P _).mp ⟨code, hagain⟩)
        exact ⟨hmap, hhash⟩
      · intro hsurvives
        obtain ⟨hcode, hhash⟩ := hsurvives rfl hmapped
        obtain rfl : code = .noService := Except.ok.inj (hmap.symm.trans hcode)
        exact mapErrorCode_noService P hhash

theorem report_thrown (stage : Attempt.Stage) (thrown : Exn) (hmap : mapErrorCode P e.code = .error thrown) :
    stage.report P e = .error thrown := by
  cases stage with
  | connect | send => exact hmap
  | receive => simp [Attempt.Stage.report, hmap, Except.bind]

theorem same_answer_iff (first second : Attempt.Stage) (script other : Script) (fuel : Nat) (client : AsyncMqttClient)
    (hnew : client.connected = false) (hfirst : (script.attempts 0).Strikes e first)
    (hsecond : (other.attempts 0).Strikes e second) :
    SameAnswer P e (handshake P script fuel client).1 (handshake P other fuel client).1 ↔
      SurvivesStage P e first ∧ SurvivesStage P e second := by
  rw [handshake_strikes P e script fuel client hnew first hfirst,
    handshake_strikes P e other fuel client hnew second hsecond]
  cases hmap : mapErrorCode P e.code with
  | ok code =>
      have hmapped : Mapped P e.code := (mapErrorCode_ok_iff P e.code).mp ⟨code, hmap⟩
      rw [← report_eq_iff P e first code hmap, ← report_eq_iff P e second code hmap]
      constructor
      · intro hsame
        obtain ⟨hreports, hreports'⟩ := hsame.mapped code hmap
        exact ⟨(reportsCode_answerOf first _ code).mp hreports, (reportsCode_answerOf second _ code).mp hreports'⟩
      · rintro ⟨hreport, hreport'⟩
        refine ⟨fun again hagain => ?_, fun hunmapped => absurd hmapped hunmapped⟩
        obtain rfl : code = again := Except.ok.inj (hmap.symm.trans hagain)
        exact ⟨(reportsCode_answerOf first _ code).mpr hreport, (reportsCode_answerOf second _ code).mpr hreport'⟩
  | error thrown =>
      have hunmapped : ¬Mapped P e.code := not_mapped_of_error P e.code thrown hmap
      refine iff_of_true ⟨fun code hcode => ?_, fun _ => ?_⟩
        ⟨fun _ hmapped => absurd hmapped hunmapped, fun _ hmapped => absurd hmapped hunmapped⟩
      · exact absurd ((mapErrorCode_ok_iff P e.code).mp ⟨code, hcode⟩) hunmapped
      · rw [report_thrown P e first thrown hmap, report_thrown P e second thrown hmap]
        exact ⟨rfl, thrown, rfl⟩

end Stages

section Samples

-- The connection is refused at this stage and at those after it.
def refusing (stage : Attempt.Stage) : Script :=
  ⟨fun _ =>
    ⟨none, none, if stage = .connect then some connectionRefused.code else none,
      if stage = .receive then none else some connectionRefused, .error connectionRefused⟩,
    none, none, fun _ => .error endOfFile⟩

theorem strikes_refusing (stage : Attempt.Stage) : ((refusing stage).attempts 0).Strikes connectionRefused stage := by
  cases stage with
  | connect => exact ⟨rfl, rfl⟩
  | send => exact ⟨rfl, rfl, rfl⟩
  | receive => exact ⟨rfl, rfl, rfl, rfl⟩

theorem same_answer_before_connack :
    SameAnswer samplePlatform connectionRefused (handshake samplePlatform (refusing .connect) 0 freshClient).1
      (handshake samplePlatform (refusing .send) 0 freshClient).1 := by
  refine (same_answer_iff samplePlatform connectionRefused .connect .send (refusing .connect) (refusing .send) 0
    freshClient rfl (strikes_refusing .connect) (strikes_refusing .send)).mpr ⟨fun h => ?_, fun h => ?_⟩
  · cases h
  · cases h

-- At the CONNACK the code that is reported elsewhere ends in an exception.
theorem connack_answer_differs :
    ReportsCode (handshake samplePlatform (refusing .connect) 0 freshClient).1 .connectionRefused ∧
      (∃ thrown, (handshake samplePlatform (refusing .receive) 0 freshClient).1 = .throw thrown) ∧
      ¬SameAnswer samplePlatform connectionRefused (handshake samplePlatform (refusing .connect) 0 freshClient).1
        (handshake samplePlatform (refusing .receive) 0 freshClient).1 := by
  have hthrown : ∃ thrown, (handshake samplePlatform (refusing .receive) 0 freshClient).1 = .throw thrown := ⟨_, rfl⟩
  refine ⟨⟨"Error while establishing connection", rfl⟩, hthrown, fun hsame => ?_⟩
  obtain ⟨thrown, hthrow⟩ := hthrown
  obtain ⟨text, hreport⟩ := (hsame.mapped .connectionRefused rfl).2
  rw [hthrow] at hreport
  cases hreport

end Samples

end HhctrlMgmt.Mqtt
