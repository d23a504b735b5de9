import Mathlib.Logic.Function.Basic
import Mathlib.Tactic.SplitIfs

namespace HhctrlMgmt.PubSub

-- A message, and whether the broker keeps it for those who subscribe later.
structure Message (Topic Symbol : Type) where
  topic : Topic
  payload : List Symbol
  retain : Bool
deriving DecidableEq

-- What a broker sees of its clients, and that it starts again. A session ends without a
-- farewell.
inductive Event (Client Topic Symbol : Type) where
  | connected (client : Client) (will : Option (Message Topic Symbol))
  | published (client : Client) (message : Message Topic Symbol)
  | lost (client : Client)
  | restarted

-- A broker, as far as it can be observed: the clients that have a session, each with the
-- message that is to be published for the client when it loses it; what is retained; and
-- what the broker may come to at an event. A client whose will is still due has its session.
structure Broker (Client Topic Symbol : Type) where
  State : Type
  sessions : State → Client → Option (Option (Message Topic Symbol))
  retained : State → Topic → Option (List Symbol)
  Moves : State → Event Client Topic Symbol → State → Prop

section Retained

variable {Topic Symbol : Type}

-- An empty payload removes what is retained.
def kept (payload : List Symbol) : Option (List Symbol) :=
  if payload.isEmpty then none else some payload

theorem kept_eq_some {payload other : List Symbol} (h : kept payload = some other) : other = payload := by
  unfold kept at h
  split_ifs at h
  exact (Option.some.inj h).symm

variable [DecidableEq Topic]

-- What is retained once a message has been published.
def store (message : Message Topic Symbol) (retained : Topic → Option (List Symbol)) : Topic → Option (List Symbol) :=
  if message.retain then Function.update retained message.topic (kept message.payload) else retained

-- What is retained once the will of a session has been published, if there is one.
def close (session : Option (Option (Message Topic Symbol))) (retained : Topic → Option (List Symbol)) :
    Topic → Option (List Symbol) :=
  match session with
  | some (some will) => store will retained
  | _ => retained

variable (retained : Topic → Option (List Symbol))

theorem store_ne (message : Message Topic Symbol) {topic : Topic} (h : topic ≠ message.topic) :
    store message retained topic = retained topic := by
  unfold store
  split_ifs
  · exact Function.update_of_ne h _ _
  · rfl

theorem store_self (message : Message Topic Symbol) (h : message.retain = true) :
    store message retained message.topic = kept message.payload := by
  unfold store
  rw [if_pos h]
  exact Function.update_self _ _ _

end Retained

namespace Broker

variable {Client Topic Symbol : Type} (B : Broker Client Topic Symbol)

-- A broker that has seen nobody.
structure Fresh (state : B.State) : Prop where
  sessions : ∀ client, B.sessions state client = none
  retained : ∀ topic, B.retained state topic = none

-- These events come to the broker in their order.
def Takes : B.State → List (Event Client Topic Symbol) → B.State → Prop
  | before, [], after => after = before
  | before, event :: events, after => ∃ middle, B.Moves before event middle ∧ Takes middle events after

-- A session that a restart has not kept, and the message that is retained for it then.
def Drops (before after : B.State) (will : Message Topic Symbol) : Prop :=
  ∃ client, B.sessions before client = some (some will) ∧ B.sessions after client = none ∧ will.retain = true

-- What a broker is known to do.
structure Conforms [DecidableEq Client] [DecidableEq Topic] : Prop where
  -- A client that connects again takes over from its older session, whose will may be
  -- published.
  connected : ∀ {before client will after}, B.Moves before (.connected client will) after →
    B.sessions after = Function.update (B.sessions before) client (some will) ∧
      (B.retained after = B.retained before ∨
        B.retained after = close (B.sessions before client) (B.retained before))
  -- What comes from a client without a session is ignored.
  published : ∀ {before client message after}, B.Moves before (.published client message) after →
    B.sessions after = B.sessions before ∧ B.retained after =
      if (B.sessions before client).isSome then store message (B.retained before) else B.retained before
  -- The will is published.
  lost : ∀ {before client after}, B.Moves before (.lost client) after →
    B.sessions after = Function.update (B.sessions before) client none ∧
      B.retained after = close (B.sessions before client) (B.retained before)
  -- A restart may forget retained messages. It may not keep a session, but publishes the
  -- will of such a one.
  restarted : ∀ {before after}, B.Moves before .restarted after →
    (∀ client, B.sessions after client = none ∨ B.sessions after client = B.sessions before client) ∧
      ∀ topic payload, B.retained after topic = some payload →
        (∃ will, B.Drops before after will ∧ will.topic = topic ∧ will.payload = payload) ∨
          B.retained before topic = some payload ∧ ∀ will, B.Drops before after will → will.topic ≠ topic

variable {B} [DecidableEq Client] [DecidableEq Topic] {before after : B.State} {event : Event Client Topic Symbol}

section Ownership

-- Who may retain what on which topic.
variable (owns : Topic → List Symbol → Prop)

-- An event that asks a broker to retain only such messages.
def Permits : Event Client Topic Symbol → Prop
  | .connected _ will => ∀ message ∈ will, message.retain = true → owns message.topic message.payload
  | .published _ message => message.retain = true → owns message.topic message.payload
  | .lost _ | .restarted => True

def OwnsAll (retained : Topic → Option (List Symbol)) : Prop :=
  ∀ topic payload, retained topic = some payload → owns topic payload

variable (B) in
-- All that a broker retains, and all that it will retain for those that it loses.
structure Owned (state : B.State) : Prop where
  retained : OwnsAll owns (B.retained state)
  wills : ∀ client will, B.sessions state client = some (some will) → will.retain = true → owns will.topic will.payload

variable {owns}

omit [DecidableEq Client] [DecidableEq Topic] in
theorem owned_fresh {state : B.State} (h : B.Fresh state) : B.Owned owns state :=
  ⟨fun topic _ hretained => absurd (h.retained topic ▸ hretained.symm) (Option.some_ne_none _),
    fun client _ hwill => absurd (h.sessions client ▸ hwill.symm) (Option.some_ne_none _)⟩

omit [DecidableEq Client] in
theorem ownsAll_store {retained : Topic → Option (List Symbol)} (h : OwnsAll owns retained)
    {message : Message Topic Symbol} (hmessage : message.retain = true → owns message.topic message.payload) :
    OwnsAll owns (store message retained) := by
  intro topic payload hpayload
  by_cases hretain : message.retain = true
  · by_cases htopic : topic = message.topic
    · subst htopic
      rw [store_self _ _ hretain] at hpayload
      obtain rfl := kept_eq_some hpayload
      exact hmessage hretain
    · rw [store_ne _ _ htopic] at hpayload
      exact h topic payload hpayload
  · rw [store, if_neg hretain] at hpayload
    exact h topic payload hpayload

omit [DecidableEq Client] in
theorem Owned.close (h : B.Owned owns before) (client : Client) :
    OwnsAll owns (close (B.sessions before client) (B.retained before)) := by
  cases hsession : B.sessions before client with
  | none => exact h.retained
  | some will =>
      cases will with
      | none => exact h.retained
      | some will => exact ownsAll_store h.retained (h.wills client will hsession)

theorem Owned.moves (h : B.Owned owns before) (hconforms : B.Conforms) (hmoves : B.Moves before event after)
    (hevent : Permits owns event) : B.Owned owns after := by
  cases event with
  | connected client will =>
      obtain ⟨hsessions, hretained⟩ := hconforms.connected hmoves
      refine ⟨?_, fun other message hmessage => ?_⟩
      · rcases hretained with hsame | hclosed
        · exact hsame ▸ h.retained
        · exact hclosed ▸ h.close client
      · rw [hsessions] at hmessage
        by_cases hother : other = client
        · subst hother
          rw [Function.update_self] at hmessage
          exact hevent message (Option.some.inj hmessage)
        · rw [Function.update_of_ne hother] at hmessage
          exact h.wills other message hmessage
  | published client message =>
      obtain ⟨hsessions, hretained⟩ := hconforms.published hmoves
      refine ⟨?_, hsessions ▸ h.wills⟩
      rw [hretained]
      split_ifs
      · exact ownsAll_store h.retained hevent
      · exact h.retained
  | lost client =>
      obtain ⟨hsessions, hretained⟩ := hconforms.lost hmoves
      refine ⟨hretained ▸ h.close client, fun other message hmessage => ?_⟩
      rw [hsessions] at hmessage
      by_cases hother : other = client
      · subst hother
        rw [Function.update_self] at hmessage
        cases hmessage
      · rw [Function.update_of_ne hother] at hmessage
        exact h.wills other message hmessage
  | restarted =>
      obtain ⟨hsessions, hretained⟩ := hconforms.restarted hmoves
      refine ⟨fun topic payload hpayload => ?_, fun client will hwill => ?_⟩
      · rcases hretained topic payload hpayload with ⟨will, ⟨client, hwill, -, hretain⟩, rfl, rfl⟩ | ⟨hbefore, -⟩
        · exact h.wills client will hwill hretain
        · exact h.retained topic payload hbefore
      · rcases hsessions client with hnone | hsame
        · cases hnone.symm.trans hwill
        · exact h.wills client will (hsame.symm.trans hwill)

end Ownership

section Presence

variable {ι : Type} (name : ι → Client) (presence : ι → Topic) (online offline : List Symbol)

-- The will of a client that says on its own topic that it is gone.
def farewell (i : ι) : Message Topic Symbol := ⟨presence i, offline, true⟩

-- A client that connects with such a will, and a topic on which nobody but its client
-- publishes, and nothing but whether it is there.
inductive Heralds : Event Client Topic Symbol → Prop
  | connected (i : ι) : Heralds (.connected (name i) (some (farewell presence offline i)))
  | published (i : ι) (message : Message Topic Symbol)
      (hown : ∀ j, message.topic = presence j → j = i ∧ (message.payload = online ∨ message.payload = offline)) :
      Heralds (.published (name i) message)
  | lost (client : Client) : Heralds (.lost client)
  | restarted : Heralds .restarted

variable (B) in
-- What is retained of a client is that it is gone, or that it is there, and it is.
structure Truthful (state : B.State) : Prop where
  sessions : ∀ client will, B.sessions state client = some will →
    ∃ i, client = name i ∧ will = some (farewell presence offline i)
  present : ∀ i payload, B.retained state (presence i) = some payload →
    payload = offline ∨ payload = online ∧ B.sessions state (name i) ≠ none

variable {name presence online offline}

omit [DecidableEq Client] [DecidableEq Topic] in
theorem truthful_fresh {state : B.State} (h : B.Fresh state) : B.Truthful name presence online offline state :=
  ⟨fun client _ hwill => absurd (h.sessions client ▸ hwill.symm) (Option.some_ne_none _),
    fun i _ hpayload => absurd (h.retained (presence i) ▸ hpayload.symm) (Option.some_ne_none _)⟩

omit [DecidableEq Client] in
-- The will of a session only says of its client that it is gone.
theorem Truthful.close (h : B.Truthful name presence online offline before) (hname : Function.Injective name)
    (client : Client) {i : ι} {payload : List Symbol}
    (hpayload : close (B.sessions before client) (B.retained before) (presence i) = some payload) :
    payload = offline ∨ payload = online ∧ name i ≠ client ∧ B.sessions before (name i) ≠ none := by
  cases hsession : B.sessions before client with
  | none =>
      rw [hsession] at hpayload
      refine (h.present i payload hpayload).imp_right fun hpresent => ⟨hpresent.1, ?_, hpresent.2⟩
      rintro rfl
      exact hpresent.2 hsession
  | some will =>
      obtain ⟨j, rfl, rfl⟩ := h.sessions client will hsession
      rw [hsession] at hpayload
      by_cases htopic : presence i = presence j
      · rw [htopic] at hpayload
        have hstored := store_self (B.retained before) (farewell presence offline j) rfl
        exact Or.inl (kept_eq_some (hstored.symm.trans hpayload))
      · have hstored := store_ne (B.retained before) (farewell presence offline j) htopic
        refine (h.present i payload (hstored.symm.trans hpayload)).imp_right fun hpresent => ⟨hpresent.1, ?_, hpresent.2⟩
        exact fun heq => htopic (congrArg presence (hname heq))

theorem Truthful.moves (h : B.Truthful name presence online offline before) (hconforms : B.Conforms)
    (hname : Function.Injective name) (hmoves : B.Moves before event after)
    (hevent : Heralds name presence online offline event) : B.Truthful name presence online offline after := by
  cases hevent with
  | connected i =>
      obtain ⟨hsessions, hretained⟩ := hconforms.connected hmoves
      refine ⟨fun client will hwill => ?_, fun j payload hpayload => ?_⟩
      · rw [hsessions] at hwill
        by_cases hclient : client = name i
        · subst hclient
          rw [Function.update_self] at hwill
          exact ⟨i, rfl, (Option.some.inj hwill).symm⟩
        · rw [Function.update_of_ne hclient] at hwill
          exact h.sessions client will hwill
      · have hpresent : payload = offline ∨ payload = online ∧ B.sessions before (name j) ≠ none := by
          rcases hretained with hsame | hclosed
          · exact h.present j payload (hsame ▸ hpayload)
          · exact (h.close hname (name i) (hclosed ▸ hpayload)).imp_right fun hpresent => ⟨hpresent.1, hpresent.2.2⟩
        refine hpresent.imp_right fun hpresent => ⟨hpresent.1, ?_⟩
        rw [hsessions]
        by_cases hclient : name j = name i
        · rw [hclient, Function.update_self]
          exact Option.some_ne_none _
        · rw [Function.update_of_ne hclient]
          exact hpresent.2
  | published i message hown =>
      obtain ⟨hsessions, hretained⟩ := hconforms.published hmoves
      refine ⟨hsessions ▸ h.sessions, fun j payload hpayload => ?_⟩
      rw [hsessions]
      rw [hretained] at hpayload
      split_ifs at hpayload with hsession
      · by_cases hretain : message.retain = true
        · by_cases htopic : presence j = message.topic
          · obtain ⟨rfl, hvalue⟩ := hown j htopic.symm
            rw [htopic, store_self _ _ hretain] at hpayload
            obtain rfl := kept_eq_some hpayload
            exact hvalue.symm.imp_right fun honline => ⟨honline, Option.isSome_iff_ne_none.mp hsession⟩
          · rw [store_ne _ _ htopic] at hpayload
            exact h.present j payload hpayload
        · rw [store, if_neg hretain] at hpayload
          exact h.present j payload hpayload
      · exact h.present j payload hpayload
  | lost client =>
      obtain ⟨hsessions, hretained⟩ := hconforms.lost hmoves
      refine ⟨fun other will hwill => ?_, fun i payload hpayload => ?_⟩
      · rw [hsessions] at hwill
        by_cases hother : other = client
        · subst hother
          rw [Function.update_self] at hwill
          cases hwill
        · rw [Function.update_of_ne hother] at hwill
          exact h.sessions other will hwill
      · rw [hretained] at hpayload
        refine (h.close hname client hpayload).imp_right fun hpresent => ⟨hpresent.1, ?_⟩
        rw [hsessions, Function.update_of_ne hpresent.2.1]
        exact hpresent.2.2
  | restarted =>
      obtain ⟨hsessions, hretained⟩ := hconforms.restarted hmoves
      refine ⟨fun client will hwill => ?_, fun i payload hpayload => ?_⟩
      · rcases hsessions client with hnone | hsame
        · cases hnone.symm.trans hwill
        · exact h.sessions client will (hsame.symm.trans hwill)
      · rcases hretained (presence i) payload hpayload with ⟨will, ⟨client, hwill, -, -⟩, -, rfl⟩ | ⟨hbefore, hkept⟩
        · obtain ⟨j, -, hfarewell⟩ := h.sessions client _ hwill
          obtain rfl := Option.some.inj hfarewell
          exact Or.inl rfl
        · refine (h.present i payload hbefore).imp_right fun hpresent => ⟨hpresent.1, fun hnone => ?_⟩
          -- a session that was there has been dropped, and so has the message that its client is there
          obtain ⟨will, hwill⟩ := Option.ne_none_iff_exists'.mp hpresent.2
          obtain ⟨j, hj, rfl⟩ := h.sessions (name i) will hwill
          obtain rfl := hname hj
          exact hkept (farewell presence offline i) ⟨name i, hwill, hnone, rfl⟩ rfl

-- Whoever is lost is retained as gone.
theorem Truthful.lost (h : B.Truthful name presence online offline before) (hconforms : B.Conforms)
    (hname : Function.Injective name) {i : ι} (hoffline : offline ≠ []) (hsession : B.sessions before (name i) ≠ none)
    (hmoves : B.Moves before (.lost (name i)) after) : B.retained after (presence i) = some offline := by
  obtain ⟨will, hwill⟩ := Option.ne_none_iff_exists'.mp hsession
  obtain ⟨j, hj, rfl⟩ := h.sessions (name i) will hwill
  obtain rfl := hname hj
  have hretained := (hconforms.lost hmoves).2
  rw [hwill] at hretained
  have hstored := store_self (B.retained before) (farewell presence offline i) rfl
  have hkept : kept offline = some offline := if_neg (by simpa using hoffline)
  rw [hretained]
  exact hstored.trans hkept

end Presence
end Broker

-- The records of a broker that loses none of them.
structure Ledger (Client Topic Symbol : Type) where
  sessions : Client → Option (Option (Message Topic Symbol))
  retained : Topic → Option (List Symbol)

namespace Ledger

variable {Client Topic Symbol : Type}

def empty : Ledger Client Topic Symbol := ⟨fun _ => none, fun _ => none⟩

variable [DecidableEq Client] [DecidableEq Topic]

def step (ledger : Ledger Client Topic Symbol) : Event Client Topic Symbol → Ledger Client Topic Symbol
  | .connected client will =>
      ⟨Function.update ledger.sessions client (some will), close (ledger.sessions client) ledger.retained⟩
  | .published client message =>
      ⟨ledger.sessions, if (ledger.sessions client).isSome then store message ledger.retained else ledger.retained⟩
  | .lost client => ⟨Function.update ledger.sessions client none, close (ledger.sessions client) ledger.retained⟩
  | .restarted => ledger

variable (Client Topic Symbol) in
def broker : Broker Client Topic Symbol where
  State := Ledger Client Topic Symbol
  sessions := sessions
  retained := retained
  Moves before event after := after = before.step event

variable (Client Topic Symbol) in
theorem fresh_empty : (broker Client Topic Symbol).Fresh empty :=
  ⟨fun _ => rfl, fun _ => rfl⟩

variable (Client Topic Symbol) in
theorem conforms : (broker Client Topic Symbol).Conforms where
  connected := by
    rintro before client will _ rfl
    exact ⟨rfl, Or.inr rfl⟩
  published := by
    rintro before client message _ rfl
    exact ⟨rfl, rfl⟩
  lost := by
    rintro before client _ rfl
    exact ⟨rfl, rfl⟩
  restarted := by
    rintro before _ rfl
    refine ⟨fun _ => Or.inr rfl, fun topic payload hpayload => Or.inr ⟨hpayload, ?_⟩⟩
    rintro will ⟨client, hwill, hnone, -⟩
    cases hnone.symm.trans hwill

-- What these events come to.
theorem takes_foldl (ledger : Ledger Client Topic Symbol) (events : List (Event Client Topic Symbol)) :
    (broker Client Topic Symbol).Takes ledger events (events.foldl step ledger) := by
  induction events generalizing ledger with
  | nil => rfl
  | cons event events ih => exact ⟨_, rfl, ih _⟩

end Ledger
end HhctrlMgmt.PubSub
