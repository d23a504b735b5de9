import HhctrlMgmt.Mqtt.Client.Script

namespace HhctrlMgmt.Mqtt

open Coroutine

-- Of the first `left` attempts, refused ones lead up to one whose failure
-- async_connect does not report: the lost connection is handled inside of it.
def Derails (P : Platform) (attempts : Nat → Attempt) (left : Nat) : Prop :=
  ∃ k < left, (∀ j ≤ k, (attempts j).timer = none) ∧ (∀ j < k, (attempts j).Refused P) ∧
    ((attempts k).Lost ∨ (attempts k).Unmapped P)

theorem not_broken_of_not_derails (P : Platform) (attempts : Nat → Attempt) (left : Nat)
    (htimer : (attempts 0).timer = none) (h : ¬Derails P attempts (left + 1)) :
    ¬((attempts 0).Lost ∨ (attempts 0).Unmapped P) := by
  refine fun hbroken => h ⟨0, by omega, fun j hj => ?_, fun j hj => by omega, hbroken⟩
  obtain rfl : j = 0 := by omega
  exact htimer

theorem derails_succ (P : Platform) (attempts : Nat → Attempt) (left : Nat)
    (htimer : (attempts 0).timer = none) (hrefused : (attempts 0).Refused P) :
    Derails P attempts (left + 1) ↔ Derails P (fun j => attempts (j + 1)) left := by
  constructor
  · rintro ⟨k, hk, htimers, hrefuseds, hlast⟩
    obtain _ | k := k
    · exact absurd hlast hrefused.not_broken
    · refine ⟨k, by omega, fun j hj => htimers (j + 1) (by omega), fun j hj => hrefuseds (j + 1) (by omega), hlast⟩
  · rintro ⟨k, hk, htimers, hrefuseds, hlast⟩
    refine ⟨k + 1, by omega, fun j hj => ?_, fun j hj => ?_, hlast⟩
    · obtain _ | j := j
      · exact htimer
      · exact htimers j (by omega)
    · obtain _ | j := j
      · exact hrefused
      · exact hrefuseds j (by omega)

theorem Derails.timer {P : Platform} {attempts : Nat → Attempt} {left : Nat} (h : Derails P attempts left) :
    (attempts 0).timer = none := by
  obtain ⟨k, hk, htimers, -⟩ := h
  exact htimers 0 (by omega)

theorem Derails.refused_or_broken {P : Platform} {attempts : Nat → Attempt} {left : Nat}
    (h : Derails P attempts left) :
    (attempts 0).Refused P ∨ (attempts 0).Lost ∨ (attempts 0).Unmapped P := by
  obtain ⟨k, hk, -, hrefuseds, hlast⟩ := h
  cases k with
  | zero => exact .inr hlast
  | succ k => exact .inl (hrefuseds 0 (by omega))

section Handle

variable (P : Platform) (script : Script) (progress : Progress) (client : AsyncMqttClient)

-- What handle_recv_error answers once try_reconnect has returned.
def answerReconnect (reconnected : Bool) : ClientM SystemError := do
  if reconnected then
    return error .reconnected "Client got reconnected"
  else
    let client ← .state
    return error .disconnected ("Client got disconnected " ++
      if client.reconnect.attempt = client.reconnect.maxAttempts then "after auto-reconnect failure" else "")

theorem play_answerReconnect (reconnected : Bool) :
    ∃ answer, play script (answerReconnect reconnected) progress client = (.ret answer, progress, client) ∧
      answer.code = .mqtt (if reconnected then .reconnected else .disconnected) := by
  cases reconnected <;> exact ⟨_, rfl, rfl⟩

theorem play_handleRecvError_connected (tryReconnect : ClientM Bool) (e : SystemError)
    (hconnected : client.connected = true) :
    play script (handleRecvError P tryReconnect e) progress client =
      execBind (scriptWorld script) script.respond (play script tryReconnect progress client) answerReconnect := by
  rw [← play_bind]
  unfold handleRecvError answerReconnect
  simp [hconnected]

theorem play_tryReconnectWith (loop : ClientM Bool) :
    play script (tryReconnectWith loop) progress client =
      if client.reconnect.maxAttempts = 0 then (.ret false, progress, client)
      else play script loop progress (client.setAttempt 0) := by
  unfold tryReconnectWith
  split_ifs with hmax <;> simp [hmax]

-- A connection that is lost during the handshake of a connected client is
-- answered with a code of this program, which map_error_code does not map.
theorem play_asyncConnect_lost_not_ret (tryReconnect : ClientM Bool) (hidle : progress.handshake = false)
    (hconnected : client.connected = true) (h : (script.attempts progress.connects).Lost)
    (result : Error) (point : Progress × AsyncMqttClient) :
    play script (asyncConnect P tryReconnect) progress client ≠ (.ret result, point) := by
  obtain ⟨e, h⟩ := h
  rw [play_asyncConnect_lost P script tryReconnect progress client hidle e h,
    play_handleRecvError_connected P script _ client tryReconnect e hconnected]
  obtain ⟨outcome, p, c⟩ := play script tryReconnect progress.attempted client
  cases outcome with
  | throw _ => simp [execBind]
  | spin => simp [execBind]
  | ret reconnected =>
      obtain ⟨answer, hplay, hcode⟩ := play_answerReconnect script p c reconnected
      obtain ⟨thrown, hthrown⟩ := mapErrorCode_of_not_mapped P answer.code (by
        rw [hcode]
        cases reconnected <;> exact not_mapped_mqtt P _ (by decide))
      rw [execBind_play, hplay, execBind_play]
      simp [reportRecvError, hthrown]

end Handle

section Loop

variable (P : Platform) (script : Script) (progress : Progress) (client : AsyncMqttClient) (fuel : Nat)

-- The rest of a round of the loop of try_reconnect after the timer.
def tryReconnectRound (result : Error) : ClientM Bool :=
  match result with
  | none => .ret true
  | some _ => tryReconnectLoop P fuel

def nextAttempt (client : AsyncMqttClient) : AsyncMqttClient :=
  client.setAttempt (client.reconnect.attempt + 1)

@[simp] theorem nextAttempt_attempt :
    (nextAttempt client).reconnect.attempt = client.reconnect.attempt + 1 := rfl

@[simp] theorem nextAttempt_maxAttempts :
    (nextAttempt client).reconnect.maxAttempts = client.reconnect.maxAttempts := rfl

@[simp] theorem nextAttempt_connected : (nextAttempt client).connected = client.connected := rfl

theorem play_loop_exhausted (h : client.reconnect.maxAttempts ≤ client.reconnect.attempt) :
    play script (tryReconnectLoop P (fuel + 1)) progress client = (.ret false, progress, nextAttempt client) := by
  have hle : ¬client.reconnect.attempt + 1 ≤ client.reconnect.maxAttempts := by omega
  simp [tryReconnectLoop, nextAttempt, AsyncMqttClient.setAttempt, hle]

theorem play_loop_timer (ec : SystemCode) (h : client.reconnect.attempt < client.reconnect.maxAttempts)
    (htimer : (script.attempts progress.connects).timer = some ec) :
    play script (tryReconnectLoop P (fuel + 1)) progress client = (.ret false, progress, nextAttempt client) := by
  have hle : client.reconnect.attempt + 1 ≤ client.reconnect.maxAttempts := by omega
  simp [tryReconnectLoop, nextAttempt, AsyncMqttClient.setAttempt, hle, Script.respond, Progress.answer, htimer]

theorem play_loop_round (h : client.reconnect.attempt < client.reconnect.maxAttempts)
    (htimer : (script.attempts progress.connects).timer = none) :
    play script (tryReconnectLoop P (fuel + 1)) progress client =
      execBind (scriptWorld script) script.respond
        (play script (asyncConnect P (tryReconnectWith (tryReconnectLoop P fuel))) progress (nextAttempt client))
        (tryReconnectRound P fuel) := by
  have hle : client.reconnect.attempt + 1 ≤ client.reconnect.maxAttempts := by omega
  rw [← play_bind]
  simp only [tryReconnectLoop, Coro.bind_eq, Coro.modify, Coro.state, timerAsyncWait, Coro.bind, play_get, play_set,
    AsyncMqttClient.setAttempt, hle, if_true, play_await, Script.respond, Progress.answer, htimer, nextAttempt]
  rfl

theorem attempts_succ : (fun j => script.attempts (progress.connects + (j + 1))) =
    fun j => script.attempts (progress.attempted.connects + j) := by
  funext j
  rw [Progress.attempted_connects, Nat.add_assoc, Nat.add_comm 1]

-- Without a derailing attempt the loop returns, within the attempts that are left.
theorem play_loop_returns (left : Nat) (hidle : progress.handshake = false)
    (hleft : (client.reconnect.maxAttempts - client.reconnect.attempt).toNat = left) (hfuel : left < fuel)
    (hnot : ¬Derails P (fun j => script.attempts (progress.connects + j)) left) :
    ∃ reconnected done client', done ≤ left ∧
      play script (tryReconnectLoop P fuel) progress client =
        (.ret reconnected, { progress with connects := progress.connects + done }, client') ∧
      (reconnected = true ↔ ∃ k < done, (script.attempts (progress.connects + k)).Succeeds) := by
  induction left generalizing progress client fuel with
  | zero =>
      obtain ⟨fuel, rfl⟩ : ∃ f, fuel = f + 1 := ⟨fuel - 1, by omega⟩
      exact ⟨false, 0, nextAttempt client, Nat.le_refl 0,
        play_loop_exhausted P script progress client fuel (by omega), by simp⟩
  | succ left ih =>
      obtain ⟨fuel, rfl⟩ : ∃ f, fuel = f + 1 := ⟨fuel - 1, by omega⟩
      cases htimer : (script.attempts progress.connects).timer with
      | some ec =>
          exact ⟨false, 0, nextAttempt client, by omega,
            play_loop_timer P script progress client fuel ec (by omega) htimer, by simp⟩
      | none =>
          rw [play_loop_round P script progress client fuel (by omega) htimer]
          rcases (script.attempts progress.connects).cases P with hsucceeds | hrefused | hbroken
          · obtain ⟨packet, hplay⟩ := play_asyncConnect_succeeds P script _ progress _ hidle hsucceeds
            rw [hplay]
            exact ⟨true, 1, _, by omega, rfl, by simpa using hsucceeds⟩
          · obtain ⟨e, hplay⟩ := play_asyncConnect_refused P script _ progress _ hidle hrefused
            rw [hplay]
            rw [derails_succ P _ left htimer hrefused] at hnot
            obtain ⟨reconnected, done, client', hdone, hloop, hiff⟩ :=
              ih progress.attempted (nextAttempt client) fuel hidle (by simp; omega) (by omega)
                (attempts_succ script progress ▸ hnot)
            refine ⟨reconnected, done + 1, client', by omega, ?_, hiff.trans ?_⟩
            · have hconnects : progress.connects + (done + 1) = progress.attempted.connects + done := by
                rw [Progress.attempted_connects]
                omega
              rw [hconnects]
              exact hloop
            · have hnone : ¬(script.attempts progress.connects).Succeeds := hrefused.not_succeeds
              rw [Nat.exists_lt_succ_left]
              simp only [Nat.add_zero, hnone, false_or, Progress.attempted_connects, Nat.add_assoc, Nat.add_comm 1]
          · exact absurd hbroken (Or.comm.not.mp (not_broken_of_not_derails P _ left htimer hnot))

-- With a derailing attempt the loop of a connected client never returns.
theorem play_loop_not_ret (left : Nat) (hidle : progress.handshake = false) (hconnected : client.connected = true)
    (hleft : (client.reconnect.maxAttempts - client.reconnect.attempt).toNat = left)
    (h : Derails P (fun j => script.attempts (progress.connects + j)) left)
    (reconnected : Bool) (point : Progress × AsyncMqttClient) :
    play script (tryReconnectLoop P fuel) progress client ≠ (.ret reconnected, point) := by
  induction left generalizing progress client fuel with
  | zero =>
      obtain ⟨k, hk, -⟩ := h
      omega
  | succ left ih =>
      cases fuel with
      | zero => simp [tryReconnectLoop]
      | succ fuel =>
          have htimer := h.timer
          rw [play_loop_round P script progress client fuel (by omega) htimer]
          rcases h.refused_or_broken with hrefused | hlost | hunmapped
          · obtain ⟨e, hplay⟩ := play_asyncConnect_refused P script _ progress _ hidle hrefused
            rw [hplay]
            rw [derails_succ P _ left htimer hrefused] at h
            exact ih progress.attempted (nextAttempt client) fuel hidle hconnected (by simp; omega)
              (attempts_succ script progress ▸ h)
          · refine execBind_not_ret (scriptWorld script) _ _ _ (fun value point => ?_) reconnected point
            exact play_asyncConnect_lost_not_ret P script progress (nextAttempt client) _
              hidle hconnected hlost value point
          · obtain ⟨thrown, hplay⟩ := play_asyncConnect_unmapped P script _ progress _ hidle hunmapped
            rw [hplay]
            simp [execBind]

end Loop

-- Handling one recv error ends after at most max_attempts executions of
-- async_connect and reports whether one of them has succeeded.
def BoundedReconnect (P : Platform) (script : Script) (client : AsyncMqttClient) (e : SystemError) : Prop :=
  ∃ bound, ∀ fuel, bound ≤ fuel → ∃ answer final client',
    play script (handleRecvError P (tryReconnect P fuel) e) .start client = (.ret answer, final, client') ∧
    (final.connects : Int) ≤ client.reconnect.maxAttempts ∧
    ((∃ k < final.connects, (script.attempts k).Succeeds) ∧ answer.code = .mqtt .reconnected ∨
      (¬∃ k < final.connects, (script.attempts k).Succeeds) ∧ answer.code = .mqtt .disconnected)

-- A call of async_connect ends after one execution of it.
def SingleAttempt (P : Platform) (script : Script) (client : AsyncMqttClient) : Prop :=
  ∃ bound, ∀ fuel, bound ≤ fuel → ∃ outcome final client', outcome ≠ .spin ∧
    play script (asyncConnect P (tryReconnect P fuel)) .start client = (outcome, final, client') ∧
    final.connects = 1

section Bounded

variable (P : Platform) (script : Script) (client : AsyncMqttClient)

@[simp] theorem Progress.start_connects : Progress.start.connects = 0 := rfl

-- What try_reconnect returns to a client that may reconnect.
theorem play_tryReconnect_returns (fuel : Nat) (hfuel : client.reconnect.maxAttempts.toNat < fuel)
    (progress : Progress) (hidle : progress.handshake = false)
    (hnot : ¬Derails P (fun j => script.attempts (progress.connects + j)) client.reconnect.maxAttempts.toNat) :
    ∃ reconnected done client', done ≤ client.reconnect.maxAttempts.toNat ∧
      play script (tryReconnect P fuel) progress client =
        (.ret reconnected, { progress with connects := progress.connects + done }, client') ∧
      (reconnected = true ↔ ∃ k < done, (script.attempts (progress.connects + k)).Succeeds) := by
  unfold tryReconnect
  rw [play_tryReconnectWith]
  split_ifs with hmax
  · exact ⟨false, 0, client, by omega, rfl, by simp⟩
  · exact play_loop_returns P script progress (client.setAttempt 0) fuel _ hidle
      (by simp [AsyncMqttClient.setAttempt]) hfuel hnot

theorem play_tryReconnect_not_ret (fuel : Nat) (progress : Progress) (hidle : progress.handshake = false)
    (hconnected : client.connected = true)
    (h : Derails P (fun j => script.attempts (progress.connects + j)) client.reconnect.maxAttempts.toNat)
    (reconnected : Bool) (point : Progress × AsyncMqttClient) :
    play script (tryReconnect P fuel) progress client ≠ (.ret reconnected, point) := by
  unfold tryReconnect
  rw [play_tryReconnectWith, if_neg]
  · exact play_loop_not_ret P script progress (client.setAttempt 0) fuel _ hidle hconnected
      (by simp [AsyncMqttClient.setAttempt]) h reconnected point
  · intro hmax
    obtain ⟨k, hk, -⟩ := h
    omega

theorem boundedReconnect_iff (hconnected : client.connected = true) (hmax : 1 ≤ client.reconnect.maxAttempts)
    (e : SystemError) :
    BoundedReconnect P script client e ↔ ¬Derails P script.attempts client.reconnect.maxAttempts.toNat := by
  have hstart : (fun j => script.attempts (Progress.start.connects + j)) = script.attempts := by simp
  constructor
  · rintro ⟨bound, h⟩ hderails
    obtain ⟨answer, final, client', hplay, -⟩ := h bound (Nat.le_refl _)
    rw [play_handleRecvError_connected P script _ client _ e hconnected] at hplay
    refine execBind_not_ret (scriptWorld script) _ _ _ (fun reconnected point => ?_) _ _ hplay
    exact play_tryReconnect_not_ret P script client bound .start rfl hconnected (by rwa [hstart])
      reconnected point
  · intro hnot
    refine ⟨client.reconnect.maxAttempts.toNat + 1, fun fuel hfuel => ?_⟩
    obtain ⟨reconnected, done, client', hdone, hplay, hiff⟩ :=
      play_tryReconnect_returns P script client fuel hfuel .start rfl (by rwa [hstart])
    obtain ⟨answer, hanswer, hcode⟩ :=
      play_answerReconnect script { Progress.start with connects := done } client' reconnected
    refine ⟨answer, { Progress.start with connects := done }, client', ?_, by simp; omega, ?_⟩
    · rw [play_handleRecvError_connected P script _ client _ e hconnected, hplay, Progress.start_connects,
        Nat.zero_add, execBind_play, hanswer]
    · simp only [Progress.start_connects, Nat.zero_add] at hiff
      rw [hcode, ← hiff]
      cases reconnected <;> simp

-- A connection that is lost during the handshake starts a reconnection.
theorem play_asyncConnect_lost_connects (fuel : Nat) (hconnected : client.connected = true)
    (hmax : 1 ≤ client.reconnect.maxAttempts) (hlost : (script.attempts 0).Lost)
    (htimer : (script.attempts 1).timer = none) :
    2 ≤ (play script (asyncConnect P (tryReconnect P (fuel + 1))) .start client).2.1.connects := by
  obtain ⟨e, hlost⟩ := hlost
  rw [play_asyncConnect_lost P script _ .start client rfl e hlost,
    play_handleRecvError_connected P script _ client _ e hconnected]
  unfold tryReconnect
  rw [play_tryReconnectWith, if_neg (by omega),
    play_loop_round P script Progress.start.attempted (client.setAttempt 0) fuel
      (by simp [AsyncMqttClient.setAttempt]; omega) htimer]
  refine Nat.le_trans ?_ (execBind_connects_le script _ _)
  refine Nat.le_trans ?_ (execBind_connects_le script _ _)
  refine Nat.le_trans ?_ (execBind_connects_le script _ _)
  exact play_asyncConnect_connects P script _ Progress.start.attempted _

theorem play_asyncConnect_lost_timer (fuel : Nat) (hconnected : client.connected = true)
    (hmax : 1 ≤ client.reconnect.maxAttempts) (hlost : (script.attempts 0).Lost) (ec : SystemCode)
    (htimer : (script.attempts 1).timer = some ec) :
    ∃ thrown client', play script (asyncConnect P (tryReconnect P (fuel + 1))) .start client =
      (.throw thrown, Progress.start.attempted, client') := by
  obtain ⟨e, hlost⟩ := hlost
  obtain ⟨answer, hanswer, hcode⟩ :=
    play_answerReconnect script Progress.start.attempted (nextAttempt (client.setAttempt 0)) false
  obtain ⟨thrown, hthrown⟩ := mapErrorCode_of_not_mapped P answer.code (hcode ▸ not_mapped_mqtt P _ (by decide))
  refine ⟨thrown, nextAttempt (client.setAttempt 0), ?_⟩
  rw [play_asyncConnect_lost P script _ .start client rfl e hlost,
    play_handleRecvError_connected P script _ client _ e hconnected]
  unfold tryReconnect
  rw [play_tryReconnectWith, if_neg (by omega),
    play_loop_timer P script Progress.start.attempted (client.setAttempt 0) fuel ec
      (by simp [AsyncMqttClient.setAttempt]; omega) htimer, execBind_play, hanswer, execBind_play]
  simp [reportRecvError, hthrown]

theorem singleAttempt_iff (hconnected : client.connected = true) (hmax : 1 ≤ client.reconnect.maxAttempts) :
    SingleAttempt P script client ↔ ¬((script.attempts 0).Lost ∧ (script.attempts 1).timer = none) := by
  constructor
  · rintro ⟨bound, h⟩ ⟨hlost, htimer⟩
    obtain ⟨outcome, final, client', -, hplay, hconnects⟩ := h (bound + 1) (by omega)
    have htwice := play_asyncConnect_lost_connects P script client bound hconnected hmax hlost htimer
    rw [hplay, hconnects] at htwice
    exact absurd htwice (by decide)
  · intro hnot
    refine ⟨1, fun fuel hfuel => ?_⟩
    obtain ⟨fuel, rfl⟩ : ∃ f, fuel = f + 1 := ⟨fuel - 1, by omega⟩
    rcases (script.attempts 0).cases P with hsucceeds | hrefused | hunmapped | hlost
    · obtain ⟨packet, hplay⟩ := play_asyncConnect_succeeds P script _ .start client rfl hsucceeds
      exact ⟨_, _, _, by simp, hplay, rfl⟩
    · obtain ⟨e, hplay⟩ := play_asyncConnect_refused P script _ .start client rfl hrefused
      exact ⟨_, _, _, by simp, hplay, rfl⟩
    · obtain ⟨thrown, hplay⟩ := play_asyncConnect_unmapped P script _ .start client rfl hunmapped
      exact ⟨_, _, _, by simp, hplay, rfl⟩
    · cases htimer : (script.attempts 1).timer with
      | none => exact absurd ⟨hlost, htimer⟩ hnot
      | some ec =>
          obtain ⟨thrown, client', hplay⟩ :=
            play_asyncConnect_lost_timer P script client fuel hconnected hmax hlost ec htimer
          exact ⟨_, _, _, by simp, hplay, rfl⟩

-- Reconnection is bounded exactly when no connection is lost during a
-- handshake that a recv error or a call leads to.
theorem reconnection_bounded_iff (e : SystemError) (hconnected : client.connected = true)
    (hmax : 1 ≤ client.reconnect.maxAttempts) :
    (BoundedReconnect P script client e ∧ SingleAttempt P script client) ↔
      ¬Derails P script.attempts client.reconnect.maxAttempts.toNat ∧
        ¬((script.attempts 0).Lost ∧ (script.attempts 1).timer = none) :=
  and_congr (boundedReconnect_iff P script client hconnected hmax e)
    (singleAttempt_iff P script client hconnected hmax)

end Bounded

section Samples

theorem unresolved_refused (P : Platform) : unresolved.Refused P := .inl ⟨_, rfl⟩

theorem reconnection_bounded_unresolved :
    BoundedReconnect samplePlatform unresolvedScript sampleClient endOfFile ∧
      SingleAttempt samplePlatform unresolvedScript sampleClient := by
  refine (reconnection_bounded_iff samplePlatform unresolvedScript sampleClient endOfFile rfl (by decide)).mpr ⟨?_, ?_⟩
  · rintro ⟨k, -, -, -, hbroken⟩
    exact (unresolved_refused samplePlatform).not_broken hbroken
  · rintro ⟨hlost, -⟩
    exact (unresolved_refused samplePlatform).not_broken (.inl hlost)

theorem reconnection_unbounded_closed :
    ¬BoundedReconnect samplePlatform closedScript sampleClient endOfFile ∧
      ¬SingleAttempt samplePlatform closedScript sampleClient := by
  have hlost : (closedScript.attempts 0).Lost := ⟨endOfFile, rfl, rfl, rfl, rfl⟩
  constructor
  · rw [boundedReconnect_iff samplePlatform closedScript sampleClient rfl (by decide), not_not]
    exact ⟨0, by decide, fun j _ => by simp only [closedScript]; split <;> rfl, fun j hj => by omega, .inl hlost⟩
  · rw [singleAttempt_iff samplePlatform closedScript sampleClient rfl (by decide), not_not]
    exact ⟨hlost, rfl⟩

end Samples

end HhctrlMgmt.Mqtt
