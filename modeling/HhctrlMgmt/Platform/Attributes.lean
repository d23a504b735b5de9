import HhctrlMgmt.Platform.Pdtree
import HhctrlMgmt.Platform.Reading

namespace HhctrlMgmt.Platform.Reading

open Common FileStream

section Words

-- A maximal run of characters that are no white space, with only white space after it.
def LastRun (content run : Bytes) : Prop :=
  ∃ before after, content = before ++ run ++ after ∧ run ≠ [] ∧ (∀ byte ∈ run, isSpace byte = false) ∧
    (∀ byte ∈ after, isSpace byte = true) ∧
    (before = [] ∨ ∃ front space, before = front ++ [space] ∧ isSpace space = true)

-- The last word of a text, or another text where it has none.
def LastWord (other content word : Bytes) : Prop :=
  LastRun content word ∨ (∀ byte ∈ content, isSpace byte = true) ∧ word = other

theorem LastRun.prepend {content run : Bytes} (h : LastRun content run) (front : Bytes)
    (hspace : ∀ byte ∈ content.head?, isSpace byte = true) : LastRun (front ++ content) run := by
  obtain ⟨before, after, rfl, hne, hrun, hafter, hbefore⟩ := h
  refine ⟨front ++ before, after, by simp only [List.append_assoc], hne, hrun, hafter, Or.inr ?_⟩
  rcases hbefore with rfl | ⟨rest, space, rfl, hlast⟩
  · obtain ⟨first, run, rfl⟩ := List.exists_cons_of_ne_nil hne
    have hfirst := hspace first (by simp)
    rw [hrun first List.mem_cons_self] at hfirst
    cases hfirst
  · exact ⟨front ++ rest, space, by rw [List.append_assoc], hlast⟩

-- The last word after a first one.
theorem LastWord.lastRun {space word rest last : Bytes} (h : LastWord word rest last) (hword : word ≠ [])
    (hwordBytes : ∀ byte ∈ word, isSpace byte = false) (hspace : ∀ byte ∈ space, isSpace byte = true)
    (hrest : ∀ byte ∈ rest.head?, isSpace byte = true) : LastRun (space ++ word ++ rest) last := by
  rcases h with hrun | ⟨hspaces, rfl⟩
  · exact hrun.prepend (space ++ word) hrest
  · refine ⟨space, rest, rfl, hword, hwordBytes, hspaces, ?_⟩
    rcases List.eq_nil_or_concat' space with rfl | ⟨front, last, rfl⟩
    · exact Or.inl rfl
    · exact Or.inr ⟨front, last, rfl, hspace last (by simp)⟩

end Words

-- The streams and the strings have the same white space.
theorem isSpace_eq (byte : UInt8) : FileStream.isSpace byte = isSpace byte := by
  unfold FileStream.isSpace isSpace
  rw [Bool.decide_or, Bool.decide_and]

-- What operator>> leaves after the first word.
def afterWord (bytes : Bytes) : Bytes :=
  (bytes.dropWhile isSpace).dropWhile (!isSpace ·)

theorem firstWord_eq_nil_iff (bytes : Bytes) : firstWord bytes = [] ↔ bytes.dropWhile isSpace = [] := by
  unfold firstWord
  constructor
  · intro hnone
    by_contra hword
    obtain ⟨byte, tail, hcons⟩ := List.exists_cons_of_ne_nil hword
    have hhead := List.head?_dropWhile_not isSpace bytes
    rw [hcons] at hhead hnone
    have hbyte : (!isSpace byte) = true := by simpa using hhead
    rw [List.takeWhile_cons, if_pos hbyte] at hnone
    cases hnone
  · intro hspaces
    rw [hspaces]
    rfl

-- How a text is made of the first word, of what is before it and of what it leaves.
theorem firstWord_split (bytes : Bytes) :
    bytes.takeWhile isSpace ++ firstWord bytes ++ afterWord bytes = bytes := by
  unfold firstWord afterWord
  rw [List.append_assoc, List.takeWhile_append_dropWhile, List.takeWhile_append_dropWhile]

theorem firstWord_append {spaces word rest : Bytes} (hword : word ≠ []) (hspaces : ∀ byte ∈ spaces, isSpace byte = true)
    (hwordBytes : ∀ byte ∈ word, isSpace byte = false) (hrest : ∀ byte ∈ rest.head?, isSpace byte = true) :
    firstWord (spaces ++ word ++ rest) = word := by
  have hstop : rest.takeWhile (fun byte => !isSpace byte) = [] := by
    cases rest with
    | nil => rfl
    | cons byte rest =>
        have hbyte : ¬(!isSpace byte) = true := by simp [hrest byte rfl]
        rw [List.takeWhile_cons, if_neg hbyte]
  have hstart : (word ++ rest).dropWhile isSpace = word ++ rest := by
    obtain ⟨first, word, rfl⟩ := List.exists_cons_of_ne_nil hword
    have hfirst : ¬isSpace first = true := by simp [hwordBytes first List.mem_cons_self]
    rw [List.cons_append, List.dropWhile_cons_of_neg hfirst]
  unfold firstWord
  rw [List.append_assoc, List.dropWhile_append_of_pos hspaces, hstart, List.takeWhile_append_of_pos, hstop,
    List.append_nil]
  intro byte hbyte
  simp [hwordBytes byte hbyte]

-- Read backwards, the last word is the first one.
theorem LastWord.eq {content last : Bytes} (h : LastWord [] content last) :
    last = (firstWord content.reverse).reverse := by
  rcases h with ⟨before, after, rfl, hne, hrun, hafter, hbefore⟩ | ⟨hspaces, rfl⟩
  · rw [List.reverse_append, List.reverse_append, ← List.append_assoc, firstWord_append, List.reverse_reverse]
    · exact List.reverse_ne_nil_iff.mpr hne
    · simpa using hafter
    · simpa using hrun
    · rcases hbefore with rfl | ⟨front, space, rfl, hspace⟩
      · exact nofun
      · simpa using hspace
  · have hnone : firstWord content.reverse = [] := by
      rw [firstWord_eq_nil_iff, List.dropWhile_eq_nil_iff]
      simpa using hspaces
    rw [hnone]
    rfl

section Stream

variable {stream : FileStream} {rest : Bytes}

-- A stream that is good, and what is left of its file.
structure Holds (stream : FileStream) (rest : Bytes) : Prop where
  good : stream.good = true
  source : ∀ i, stream.source (stream.position + i) = fileOf rest i

theorem holds_opened (content : Bytes) : Holds (opened (some (fileOf content))) content where
  good := rfl
  source i := congrArg (fileOf content) (Nat.zero_add i)

theorem Holds.next (h : Holds stream rest) : stream.source stream.position = fileOf rest 0 :=
  h.source 0

theorem Holds.advance {byte : UInt8} (h : Holds stream (byte :: rest)) : Holds (stream.advance 1) rest where
  good := h.good
  source i := by
    have hlater := h.source (i + 1)
    rw [Nat.add_comm i 1, ← Nat.add_assoc] at hlater
    exact hlater.trans (by rw [Nat.add_comm 1 i]; rfl)

-- The sentry of operator>> comes to the next word, or to the end of the file.
theorem Holds.skipSpace (h : Holds stream rest) (fuel : Nat) (hfuel : rest.length < fuel) :
    ∃ later, FileStream.skipSpace fuel stream = some later ∧
      (rest.dropWhile isSpace = [] ∧ later.eof = true ∧ later.good = false ∨
        rest.dropWhile isSpace ≠ [] ∧ Holds later (rest.dropWhile isSpace)) := by
  induction rest generalizing stream fuel with
  | nil =>
      obtain ⟨fuel, rfl⟩ := Nat.exists_eq_add_of_lt hfuel
      have hround : stream.skipRound = .inr { stream with eofbit := true, failbit := true } := by
        unfold skipRound
        rw [h.next]
        rfl
      refine ⟨{ stream with eofbit := true, failbit := true }, ?_, Or.inl ⟨rfl, rfl, rfl⟩⟩
      unfold FileStream.skipSpace loop
      rw [hround]
  | cons byte rest ih =>
      obtain ⟨fuel, rfl⟩ := Nat.exists_eq_add_of_lt hfuel
      have hbyte : stream.source stream.position = .byte byte := h.next
      by_cases hspace : isSpace byte = true
      · have hround : stream.skipRound = .inl (stream.advance 1) := by
          unfold skipRound
          rw [hbyte]
          exact if_pos ((isSpace_eq byte).trans hspace)
        rw [List.dropWhile_cons_of_pos hspace]
        obtain ⟨later, hlater, hrest⟩ := ih h.advance ((byte :: rest).length + fuel) (by rw [List.length_cons]; omega)
        refine ⟨later, ?_, hrest⟩
        rw [← hlater]
        conv_lhs => unfold FileStream.skipSpace loop
        rw [hround]
        rfl
      · have hround : stream.skipRound = .inr stream := by
          unfold skipRound
          rw [hbyte]
          exact if_neg fun h => hspace ((isSpace_eq byte).symm.trans h)
        rw [List.dropWhile_cons_of_neg hspace]
        refine ⟨stream, ?_, Or.inr ⟨List.cons_ne_nil _ _, h⟩⟩
        unfold FileStream.skipSpace loop
        rw [hround]

-- What follows is a word up to the next white space, or up to the end of the file.
theorem Holds.takeWord (h : Holds stream rest) (word : Bytes) (fuel : Nat) (hfuel : rest.length < fuel) :
    ∃ later, FileStream.takeWord fuel (word, stream) = some (word ++ rest.takeWhile (!isSpace ·), later) ∧
      (rest.dropWhile (!isSpace ·) = [] ∧ later.eof = true ∨ Holds later (rest.dropWhile (!isSpace ·))) := by
  induction rest generalizing stream word fuel with
  | nil =>
      obtain ⟨fuel, rfl⟩ := Nat.exists_eq_add_of_lt hfuel
      have hround : wordRound (word, stream) = .inr (word, { stream with eofbit := true }) := by
        unfold wordRound
        rw [h.next]
        rfl
      refine ⟨{ stream with eofbit := true }, ?_, Or.inl ⟨rfl, rfl⟩⟩
      unfold FileStream.takeWord loop
      rw [hround, List.takeWhile_nil, List.append_nil]
  | cons byte rest ih =>
      obtain ⟨fuel, rfl⟩ := Nat.exists_eq_add_of_lt hfuel
      have hbyte : stream.source stream.position = .byte byte := h.next
      by_cases hspace : isSpace byte = true
      · have hround : wordRound (word, stream) = .inr (word, stream) := by
          unfold wordRound
          rw [hbyte]
          exact if_pos ((isSpace_eq byte).trans hspace)
        have hstop : ¬(!isSpace byte) = true := by simp [hspace]
        rw [List.takeWhile_cons, List.dropWhile_cons, if_neg hstop, if_neg hstop]
        refine ⟨stream, ?_, Or.inr h⟩
        unfold FileStream.takeWord loop
        rw [hround, List.append_nil]
      · have hround : wordRound (word, stream) = .inl (word ++ [byte], stream.advance 1) := by
          unfold wordRound
          rw [hbyte]
          exact if_neg fun h => hspace ((isSpace_eq byte).symm.trans h)
        have hgo : (!isSpace byte) = true := by simp [hspace]
        rw [List.takeWhile_cons, List.dropWhile_cons, if_pos hgo, if_pos hgo]
        obtain ⟨later, hlater, hrest⟩ :=
          ih h.advance (word ++ [byte]) ((byte :: rest).length + fuel) (by rw [List.length_cons]; omega)
        refine ⟨later, ?_, hrest⟩
        rw [List.append_assoc, List.singleton_append] at hlater
        rw [← hlater]
        conv_lhs => unfold FileStream.takeWord loop
        rw [hround]
        rfl

-- operator>> reads the first word that is left, and leaves the string as it is if there is none.
theorem Holds.extract (h : Holds stream rest) (value : Bytes) (fuel : Nat) (hfuel : rest.length < fuel) :
    ∃ later, FileStream.extract fuel value stream =
        some (if firstWord rest = [] then value else firstWord rest, later) ∧
      (afterWord rest = [] ∧ later.eof = true ∨ firstWord rest ≠ [] ∧ Holds later (afterWord rest)) := by
  have hlength : (rest.dropWhile isSpace).length ≤ rest.length := (List.dropWhile_sublist isSpace).length_le
  obtain ⟨skipped, hskip, hskipped⟩ := h.skipSpace fuel hfuel
  unfold FileStream.extract
  rw [if_neg (by simp [h.good]), hskip]
  rcases hskipped with ⟨hnone, heof, hgood⟩ | ⟨hword, hskipped⟩
  · have hafter : afterWord rest = [] := by
      unfold afterWord
      rw [hnone]
      rfl
    refine ⟨skipped, ?_, Or.inl ⟨hafter, heof⟩⟩
    rw [if_pos ((firstWord_eq_nil_iff rest).mpr hnone)]
    show (if (!skipped.good) = true then some (value, skipped) else _) = _
    rw [if_pos (by simp [hgood])]
  · obtain ⟨later, hlater, hrest⟩ := hskipped.takeWord [] fuel (by omega)
    have hfirst : firstWord rest ≠ [] := fun hnone => hword ((firstWord_eq_nil_iff rest).mp hnone)
    refine ⟨later, ?_, hrest.imp_right fun hholds => ⟨hfirst, hholds⟩⟩
    rw [if_neg hfirst]
    show (if (!skipped.good) = true then some (value, skipped) else FileStream.takeWord fuel ([], skipped)) = _
    rw [if_neg (by simp [hskipped.good]), hlater]
    rfl

end Stream

section Loop

theorem lastWord_nil (other : Bytes) : LastWord other [] other :=
  Or.inr ⟨nofun, rfl⟩

theorem LastWord.eq_of_nil {other last : Bytes} (h : LastWord other [] last) : last = other := by
  rcases h with ⟨before, after, hcontent, hne, -⟩ | ⟨-, heq⟩
  · simp_all
  · exact heq

theorem lastWord_of_firstWord (other rest last : Bytes)
    (h : LastWord (if firstWord rest = [] then other else firstWord rest) (afterWord rest) last) :
    LastWord other rest last := by
  by_cases hnone : firstWord rest = []
  · have hspaces := (firstWord_eq_nil_iff rest).mp hnone
    have hafter : afterWord rest = [] := by
      unfold afterWord
      rw [hspaces]
      rfl
    rw [if_pos hnone, hafter] at h
    exact Or.inr ⟨List.dropWhile_eq_nil_iff.mp hspaces, h.eq_of_nil⟩
  · rw [if_neg hnone] at h
    left
    rw [← firstWord_split rest]
    apply h.lastRun hnone
    · intro byte hbyte
      exact isSpace_of_mem_firstWord hbyte
    · intro byte hbyte
      exact List.mem_takeWhile_imp hbyte
    · intro byte hbyte
      have hhead := List.head?_dropWhile_not (fun byte => !isSpace byte) (rest.dropWhile isSpace)
      rw [show (rest.dropWhile isSpace).dropWhile (fun byte => !isSpace byte) = afterWord rest from rfl,
        Option.mem_def.mp hbyte] at hhead
      simpa using hhead

-- The loop keeps the last word that it has read: the read that fails does not touch it.
theorem loop_attrRound (rest : Bytes) (value : Bytes) (stream : FileStream) (fuel : Nat) (h : Holds stream rest)
    (hfuel : rest.length + 2 ≤ fuel) :
    ∃ last, loop attrRound fuel (value, stream) = some last ∧ LastWord value rest last := by
  induction fuel generalizing rest value stream with
  | zero => omega
  | succ fuel ih =>
      have heof : stream.eof = false := (good_iff.mp h.good).1
      obtain ⟨later, hextract, hlater⟩ := h.extract value fuel (by omega)
      have hround : attrRound fuel (value, stream) =
          some (.inl (if firstWord rest = [] then value else firstWord rest, later)) := by
        unfold attrRound
        rw [heof, if_neg Bool.false_ne_true, hextract]
        rfl
      unfold loop
      rw [hround]
      rcases hlater with ⟨hafter, hend⟩ | ⟨hword, hlater⟩
      · obtain ⟨fuel, rfl⟩ := Nat.exists_eq_add_of_le' (by omega : 1 ≤ fuel)
        refine ⟨if firstWord rest = [] then value else firstWord rest, ?_, ?_⟩
        · show loop attrRound (fuel + 1) (_, later) = _
          unfold loop attrRound
          rw [if_pos hend]
        · apply lastWord_of_firstWord
          rw [hafter]
          exact lastWord_nil _
      · have hlength := congrArg List.length (firstWord_split rest)
        have hpositive := List.length_pos_iff.mpr hword
        simp only [List.length_append] at hlength
        obtain ⟨last, hlast, hspec⟩ := ih (afterWord rest) _ later hlater (by omega)
        exact ⟨last, hlast, lastWord_of_firstWord value rest last hspec⟩

-- read_attr returns the last word of the file, or the empty string where it has none.
theorem readAttr_lastWord (path : String) (content : Bytes) (fuel : Nat) (hfuel : content.length + 2 ≤ fuel) :
    ∃ word, readAttr path (some (fileOf content)) fuel = some (.ok word) ∧ LastWord [] content word := by
  obtain ⟨word, hloop, hword⟩ := loop_attrRound content [] _ fuel (holds_opened content) hfuel
  refine ⟨word, ?_, hword⟩
  unfold readAttr
  show (loop attrRound fuel ([], opened (some (fileOf content)))).bind _ = _
  rw [hloop]
  rfl

end Loop

end HhctrlMgmt.Platform.Reading
