import HhctrlMgmt.Coroutine.Surroundings

namespace HhctrlMgmt.Coroutine

variable {S : Sig} {σ α : Type}

-- What a coroutine asks of its surroundings, and what it is answered.
inductive Entry (S : Sig) where
  | asked (query : S.Query)
  | answered (query : S.Query) (answer : S.Answer query)

abbrev Journal (S : Sig) := List (Entry S)

-- Surroundings that answer in any way and keep a journal.
abbrev journal (S : Sig) : Surroundings S where
  State := Journal S
  enter log _ := log
  issue log query := log ++ [.asked query]
  allows _ _ _ := True
  answer log query answer := log ++ [.answered query answer]

-- An operation that has completed.
def exchange (query : S.Query) (answer : S.Answer query) : Journal S :=
  [.asked query, .answered query answer]

theorem Surroundings.keeps_ask {I : Journal S → Prop} {ret : α → Journal S × σ → Prop} {log : Journal S} {state : σ}
    (query : S.Query) (next : S.Answer query → Coro S σ α) (hI : I (log ++ [.asked query]))
    (h : ∀ answer, (journal S).Keeps I ret (next answer) (log ++ exchange query answer, state)) :
    (journal S).Keeps I ret (.await query next) (log, state) := by
  refine keeps_await query next hI fun answer _ => ?_
  have hlog : log ++ [.asked query] ++ [.answered query answer] = log ++ exchange query answer := by
    rw [List.append_assoc]
    rfl
  have hnext := h answer
  rw [← hlog] at hnext
  exact hnext

end HhctrlMgmt.Coroutine
