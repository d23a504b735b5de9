import HhctrlMgmt.Common.Exception
import HhctrlMgmt.Common.Loop

namespace HhctrlMgmt.Common

-- What it comes to to read one more byte of a file.
inductive Input where
  | byte (value : UInt8)
  | endOfFile
  | failure
deriving DecidableEq

abbrev Source := Nat → Input

-- A std::ifstream, or a std::fstream opened for reading, with its three flags.
structure FileStream where
  source : Source
  position : Nat
  eofbit : Bool
  failbit : Bool
  badbit : Bool

namespace FileStream

-- The constructor; `none` is a file that cannot be opened.
def opened : Option Source → FileStream
  | some source => ⟨source, 0, false, false, false⟩
  | none => ⟨fun _ => .endOfFile, 0, false, true, false⟩

def eof (stream : FileStream) : Bool := stream.eofbit

-- operator! is fail().
def fail (stream : FileStream) : Bool := stream.failbit || stream.badbit

def bad (stream : FileStream) : Bool := stream.badbit

def good (stream : FileStream) : Bool := !stream.eofbit && !stream.failbit && !stream.badbit

def advance (count : Nat) (stream : FileStream) : FileStream :=
  { stream with position := stream.position + count }

-- The bytes that come next, at most `count`, and what they end with if there are fewer.
def readBytes (source : Source) (position : Nat) : Nat → Bytes × Option Input
  | 0 => ([], none)
  | count + 1 =>
      match source position with
      | .byte value =>
          let rest := readBytes source (position + 1) count
          (value :: rest.1, rest.2)
      | stop => ([], some stop)

-- read, and gcount() of the bytes. The file buffer throws on a failure, which sets
-- badbit, and what it has read by then is not counted.
def read (count : Nat) (stream : FileStream) : Bytes × FileStream :=
  if !stream.good then ([], { stream with failbit := true })
  else
    match readBytes stream.source stream.position count with
    | (bytes, none) => (bytes, stream.advance count)
    | (_, some .failure) => ([], { stream with badbit := true })
    | (bytes, some _) => (bytes, { stream.advance bytes.length with eofbit := true, failbit := true })

-- get; `none` is traits::eof().
def get (stream : FileStream) : Option UInt8 × FileStream :=
  if !stream.good then (none, { stream with failbit := true })
  else
    match stream.source stream.position with
    | .byte value => (some value, stream.advance 1)
    | .endOfFile => (none, { stream with eofbit := true, failbit := true })
    | .failure => (none, { stream with failbit := true, badbit := true })

-- std::isspace in the C locale
def isSpace (byte : UInt8) : Bool :=
  byte = 32 || (9 ≤ byte && byte ≤ 13)

-- One character of what the sentry of operator>> skips, and one of what follows.
def skipRound (stream : FileStream) : FileStream ⊕ FileStream :=
  match stream.source stream.position with
  | .byte value => if isSpace value then .inl (stream.advance 1) else .inr stream
  | .endOfFile => .inr { stream with eofbit := true, failbit := true }
  | .failure => .inr { stream with failbit := true, badbit := true }

def wordRound (word : Bytes × FileStream) : Bytes × FileStream ⊕ Bytes × FileStream :=
  match word.2.source word.2.position with
  | .byte value => if isSpace value then .inr word else .inl (word.1 ++ [value], word.2.advance 1)
  | .endOfFile => .inr (word.1, { word.2 with eofbit := true })
  | .failure => .inr (word.1, { word.2 with badbit := true })

def skipSpace : Nat → FileStream → Option FileStream :=
  loop fun _ stream => some (skipRound stream)

def takeWord : Nat → Bytes × FileStream → Option (Bytes × FileStream) :=
  loop fun _ word => some (wordRound word)

-- operator>>(std::string&). Where the sentry fails the string keeps its value.
def extract (fuel : Nat) (value : Bytes) (stream : FileStream) : Option (Bytes × FileStream) :=
  if !stream.good then some (value, { stream with failbit := true })
  else do
    let stream ← skipSpace fuel stream
    if !stream.good then return (value, stream)
    takeWord fuel ([], stream)

section Ends

variable {source : Source} {stream : FileStream} {last : Nat}

-- The file ends after so many bytes.
def EndsAt (source : Source) (last : Nat) : Prop :=
  source last = .endOfFile ∧ ∀ m < last, ∃ value, source m = .byte value

-- The end of the file comes, and no failure before it.
def Finite (source : Source) : Prop :=
  ∃ last, EndsAt source last

-- What a stream knows of its file: there are bytes up to its position, and eofbit is only
-- set at the end.
structure Follows (source : Source) (stream : FileStream) : Prop where
  same : stream.source = source
  read : ∀ m < stream.position, ∃ value, source m = .byte value
  eof : stream.eofbit = true → source stream.position = .endOfFile

theorem follows_opened (source : Source) : Follows source (opened (some source)) :=
  ⟨rfl, fun _ hm => absurd hm (Nat.not_lt_zero _), fun heof => absurd heof Bool.false_ne_true⟩

theorem Follows.finite (h : Follows source stream) (heof : stream.eof = true) : Finite source :=
  ⟨stream.position, h.eof heof, h.read⟩

theorem Follows.position_le (h : Follows source stream) (hends : EndsAt source last) : stream.position ≤ last := by
  by_contra hlt
  obtain ⟨value, hvalue⟩ := h.read last (by omega)
  rw [hends.1] at hvalue
  cases hvalue

-- Before the end there is a byte, and a failure never comes.
theorem Follows.next (h : Follows source stream) (hends : EndsAt source last) :
    (∃ value, source stream.position = .byte value) ∨ source stream.position = .endOfFile := by
  rcases Nat.lt_or_eq_of_le (h.position_le hends) with hless | hlast
  · exact Or.inl (hends.2 stream.position hless)
  · rw [hlast]
    exact Or.inr hends.1

theorem good_iff : stream.good = true ↔ stream.eofbit = false ∧ stream.failbit = false ∧ stream.badbit = false := by
  simp [good, and_assoc]

theorem get_byte (hgood : stream.good = true) (value : UInt8) (hvalue : stream.source stream.position = .byte value) :
    stream.get = (some value, stream.advance 1) := by
  unfold FileStream.get
  rw [if_neg (by simp [hgood]), hvalue]

theorem get_endOfFile (hgood : stream.good = true) (hend : stream.source stream.position = .endOfFile) :
    stream.get = (none, { stream with eofbit := true, failbit := true }) := by
  unfold FileStream.get
  rw [if_neg (by simp [hgood]), hend]

theorem byte_of_get {value : UInt8} (hvalue : stream.get.1 = some value) :
    stream.source stream.position = .byte value := by
  unfold FileStream.get at hvalue
  split_ifs at hvalue
  cases hnext : stream.source stream.position with
  | byte next =>
      rw [hnext] at hvalue
      exact congrArg Input.byte (Option.some.inj hvalue)
  | endOfFile | failure =>
      rw [hnext] at hvalue
      cases hvalue

theorem Follows.advance (h : Follows source stream) (heof : stream.eofbit = false) (count : Nat)
    (hbytes : ∀ i < count, ∃ value, source (stream.position + i) = .byte value) :
    Follows source (stream.advance count) := by
  refine ⟨h.same, fun m hm => ?_, fun hset => absurd (heof.symm.trans hset) Bool.false_ne_true⟩
  by_cases hread : m < stream.position
  · exact h.read m hread
  · have hposition : m < stream.position + count := hm
    obtain ⟨value, hvalue⟩ := hbytes (m - stream.position) (by omega)
    exact ⟨value, by rwa [Nat.add_sub_cancel' (by omega)] at hvalue⟩

theorem Follows.advance_one (h : Follows source stream) (heof : stream.eofbit = false) (value : UInt8)
    (hvalue : source stream.position = .byte value) : Follows source (stream.advance 1) := by
  refine h.advance heof 1 fun i hi => ⟨value, ?_⟩
  obtain rfl : i = 0 := by omega
  exact hvalue

theorem readBytes_byte (source : Source) (position count i : Nat)
    (hi : i < (readBytes source position count).1.length) :
    ∃ value, source (position + i) = .byte value := by
  induction count generalizing position i with
  | zero => exact absurd hi (Nat.not_lt_zero i)
  | succ count ih =>
      unfold readBytes at hi
      cases hfirst : source position with
      | byte value =>
          rw [hfirst] at hi
          cases i with
          | zero => exact ⟨value, hfirst⟩
          | succ i =>
              have hnext := ih (position + 1) i (Nat.lt_of_succ_lt_succ hi)
              rwa [Nat.add_assoc, Nat.add_comm 1 i] at hnext
      | endOfFile | failure =>
          rw [hfirst] at hi
          exact absurd hi (Nat.not_lt_zero i)

theorem readBytes_stop (source : Source) (position count : Nat) :
    match (readBytes source position count).2 with
    | none => (readBytes source position count).1.length = count
    | some stop => source (position + (readBytes source position count).1.length) = stop ∧
        ∀ value, stop ≠ .byte value := by
  induction count generalizing position with
  | zero => rfl
  | succ count ih =>
      have hrest := ih (position + 1)
      unfold readBytes
      cases hfirst : source position with
      | byte value =>
          dsimp only
          cases hstop : (readBytes source (position + 1) count).2 with
          | none =>
              rw [hstop] at hrest
              exact congrArg Nat.succ hrest
          | some stop =>
              rw [hstop] at hrest
              refine ⟨?_, hrest.2⟩
              rw [List.length_cons, Nat.add_comm _ 1, ← Nat.add_assoc]
              exact hrest.1
      | endOfFile => exact ⟨hfirst, nofun⟩
      | failure => exact ⟨hfirst, nofun⟩

theorem Follows.atEnd (h : Follows source stream) (hend : source stream.position = .endOfFile) (failbit : Bool) :
    Follows source { stream with eofbit := true, failbit := failbit } :=
  ⟨h.same, h.read, fun _ => hend⟩

theorem Follows.flags (h : Follows source stream) (failbit badbit : Bool) :
    Follows source { stream with failbit := failbit, badbit := badbit } :=
  ⟨h.same, h.read, h.eof⟩

theorem Follows.afterRead (h : Follows source stream) (count : Nat) : Follows source (stream.read count).2 := by
  obtain rfl := h.same
  unfold FileStream.read
  by_cases hgood : stream.good = true
  · rw [if_neg (by simp [hgood])]
    have heof := (good_iff.mp hgood).1
    have hbytes := readBytes_byte stream.source stream.position count
    have hstop := readBytes_stop stream.source stream.position count
    generalize readBytes stream.source stream.position count = result at hbytes hstop ⊢
    obtain ⟨bytes, stop⟩ := result
    cases stop with
    | none =>
        have hlength : bytes.length = count := hstop
        rw [hlength] at hbytes
        exact h.advance heof count hbytes
    | some stop =>
        have hread := h.advance heof bytes.length hbytes
        cases stop with
        | byte value => exact absurd rfl (hstop.2 value)
        | endOfFile => exact hread.atEnd hstop.1 true
        | failure => exact h.flags stream.failbit true
  · rw [if_pos (by simp [hgood])]
    exact h.flags true stream.badbit

-- Reading gets on, up to the end of the file.
theorem read_progress (h : Follows source stream) (hends : EndsAt source last) (hgood : stream.good = true)
    {count : Nat} (hcount : 0 < count) : (stream.read count).2.eof = true ∨
      (stream.read count).2.good = true ∧ last - (stream.read count).2.position < last - stream.position := by
  have hlater := (h.afterRead count).position_le hends
  obtain rfl := h.same
  unfold FileStream.read at hlater ⊢
  rw [if_neg (by simp [hgood])] at hlater ⊢
  have heof := (good_iff.mp hgood).1
  have hbytes := readBytes_byte stream.source stream.position count
  have hstop := readBytes_stop stream.source stream.position count
  generalize readBytes stream.source stream.position count = result at hbytes hstop hlater ⊢
  obtain ⟨bytes, stop⟩ := result
  cases stop with
  | none =>
      have hposition : stream.position + count ≤ last := hlater
      refine Or.inr ⟨hgood, ?_⟩
      show last - (stream.position + count) < last - stream.position
      omega
  | some stop =>
      cases stop with
      | byte value => exact absurd rfl (hstop.2 value)
      | endOfFile => exact Or.inl rfl
      | failure =>
          rcases (h.advance heof bytes.length hbytes).next hends with ⟨value, hvalue⟩ | hend
          · exact absurd (hstop.1.symm.trans hvalue) nofun
          · exact absurd (hstop.1.symm.trans hend) nofun

theorem Follows.afterGet (h : Follows source stream) : Follows source stream.get.2 := by
  obtain rfl := h.same
  unfold get
  by_cases hgood : stream.good = true
  · rw [if_neg (by simp [hgood])]
    cases hnext : stream.source stream.position with
    | byte value => exact h.advance_one (good_iff.mp hgood).1 value hnext
    | endOfFile => exact h.atEnd hnext true
    | failure => exact h.flags true true
  · rw [if_pos (by simp [hgood])]
    exact h.flags true stream.badbit

-- Characters are taken one by one, from a stream that is good.
theorem Follows.skipRound (h : Follows source stream) (hgood : stream.good = true) :
    stream.skipRound.elim
      (fun next => (Follows source next ∧ next.good = true) ∧ stream.position < next.position)
      (fun later => Follows source later ∧ stream.position ≤ later.position) := by
  obtain rfl := h.same
  unfold FileStream.skipRound
  cases hnext : stream.source stream.position with
  | byte value =>
      dsimp only
      split_ifs
      · exact ⟨⟨h.advance_one (good_iff.mp hgood).1 value hnext, hgood⟩, Nat.lt_succ_self _⟩
      · exact ⟨h, Nat.le_refl _⟩
  | endOfFile => exact ⟨h.atEnd hnext true, Nat.le_refl _⟩
  | failure => exact ⟨h.flags true true, Nat.le_refl _⟩

theorem Follows.wordRound (word : Bytes) (h : Follows source stream) (hgood : stream.good = true) :
    (FileStream.wordRound (word, stream)).elim
      (fun next => (Follows source next.2 ∧ next.2.good = true) ∧ stream.position < next.2.position)
      (fun later => Follows source later.2 ∧ stream.position ≤ later.2.position) := by
  obtain rfl := h.same
  unfold FileStream.wordRound
  cases hnext : stream.source stream.position with
  | byte value =>
      dsimp only
      split_ifs
      · exact ⟨h, Nat.le_refl _⟩
      · exact ⟨⟨h.advance_one (good_iff.mp hgood).1 value hnext, hgood⟩, Nat.lt_succ_self _⟩
  | endOfFile => exact ⟨h.atEnd hnext stream.failbit, Nat.le_refl _⟩
  | failure => exact ⟨h.flags stream.failbit true, Nat.le_refl _⟩

theorem Follows.afterSkip (h : Follows source stream) (hgood : stream.good = true) (fuel : Nat) (later : FileStream)
    (hresult : skipSpace fuel stream = some later) : Follows source later := by
  refine loop_result (fun state => Follows source state ∧ state.good = true) (Follows source)
    (fun _ state outcome hstate hround => ?_) fuel stream ⟨h, hgood⟩ later hresult
  have hspec := hstate.1.skipRound hstate.2
  rw [Option.some.inj hround] at hspec
  cases outcome with
  | inl next => exact hspec.1
  | inr last => exact hspec.1

theorem Follows.afterWord (h : Follows source stream) (hgood : stream.good = true) (fuel : Nat) (word : Bytes)
    (later : Bytes × FileStream) (hresult : takeWord fuel (word, stream) = some later) : Follows source later.2 := by
  refine loop_result (fun state => Follows source state.2 ∧ state.2.good = true) (fun result => Follows source result.2)
    (fun _ state outcome hstate hround => ?_) fuel (word, stream) ⟨h, hgood⟩ later hresult
  have hspec := hstate.1.wordRound state.1 hstate.2
  rw [Option.some.inj hround] at hspec
  cases outcome with
  | inl next => exact hspec.1
  | inr last => exact hspec.1

theorem Follows.afterExtract (h : Follows source stream) (fuel : Nat) (value : Bytes) (later : Bytes × FileStream)
    (hresult : extract fuel value stream = some later) : Follows source later.2 := by
  unfold extract at hresult
  by_cases hgood : stream.good = true
  · rw [if_neg (by simp [hgood]), Option.bind_eq_bind, Option.bind_eq_some_iff] at hresult
    obtain ⟨skipped, hskip, hword⟩ := hresult
    have hskipped := h.afterSkip hgood fuel skipped hskip
    by_cases hword' : skipped.good = true
    · rw [if_neg (by simp [hword'])] at hword
      exact hskipped.afterWord hword' fuel [] later hword
    · rw [if_pos (by simp [hword'])] at hword
      obtain rfl := Option.some.inj hword
      exact hskipped
  · rw [if_pos (by simp [hgood])] at hresult
    obtain rfl := Option.some.inj hresult
    exact h.flags true stream.badbit

-- A stream that gets to the end of its file, or stands at a word.
def AtWord (source : Source) (stream : FileStream) : Prop :=
  stream.eof = true ∨ stream.good = true ∧ ∃ value, source stream.position = .byte value ∧ isSpace value = false

theorem skipSpace_total (h : Follows source stream) (hgood : stream.good = true) (hends : EndsAt source last)
    (fuel : Nat) (hfuel : last - stream.position < fuel) : ∃ later, skipSpace fuel stream = some later ∧
      (Follows source later ∧ stream.position ≤ later.position) ∧ AtWord source later := by
  refine loop_total (fun state => (Follows source state ∧ state.good = true) ∧ stream.position ≤ state.position) _
    (fun state => last - state.position) 0 (fun _ state hstate _ => ⟨state.skipRound, rfl, ?_⟩) fuel stream
    ⟨⟨h, hgood⟩, Nat.le_refl _⟩ (by omega)
  obtain ⟨⟨hfollows, hopen⟩, hposition⟩ := hstate
  have hspec := hfollows.skipRound hopen
  have hword : state.skipRound.elim (fun _ => True) (AtWord source) := by
    obtain rfl := hfollows.same
    unfold FileStream.skipRound
    rcases hfollows.next hends with ⟨value, hvalue⟩ | hend
    · rw [hvalue]
      by_cases hspace : isSpace value = true
      · simp [hspace]
      · simp only [hspace]
        exact Or.inr ⟨hopen, value, hvalue, Bool.not_eq_true _ ▸ hspace⟩
    · rw [hend]
      exact Or.inl rfl
  cases hround : state.skipRound with
  | inl next =>
      rw [hround] at hspec
      have hless : state.position < next.position := hspec.2
      have hle := hspec.1.1.position_le hends
      exact ⟨⟨hspec.1, by omega⟩, by omega⟩
  | inr later =>
      rw [hround] at hspec hword
      have hlater : state.position ≤ later.position := hspec.2
      exact ⟨⟨hspec.1, by omega⟩, hword⟩

-- A word takes the stream on.
theorem takeWord_total (word : Bytes) (h : Follows source stream) (hword : AtWord source stream)
    (hgood : stream.good = true) (hends : EndsAt source last) (fuel : Nat) (hfuel : last - stream.position < fuel) :
    ∃ later, takeWord fuel (word, stream) = some later ∧ Follows source later.2 ∧
      (later.2.eof = true ∨ later.2.good = true ∧ stream.position < later.2.position) := by
  obtain ⟨first, hfirst, hnonspace⟩ : ∃ value, source stream.position = .byte value ∧ isSpace value = false := by
    rcases hword with heof | hword
    · exact absurd (heof.symm.trans (good_iff.mp hgood).1) nofun
    · exact hword.2
  refine loop_total (fun state => (Follows source state.2 ∧ state.2.good = true) ∧ stream.position ≤ state.2.position) _
    (fun state => last - state.2.position) 0 (fun _ state hstate _ => ⟨wordRound state, rfl, ?_⟩) fuel (word, stream)
    ⟨⟨h, hgood⟩, Nat.le_refl _⟩ (by rw [Nat.zero_add]; exact hfuel)
  obtain ⟨⟨hfollows, hopen⟩, hposition⟩ := hstate
  have hspec := hfollows.wordRound state.1 hopen
  have hlast : (wordRound state).elim (fun _ => True)
      fun later => later.2.eof = true ∨ later.2.good = true ∧ stream.position < later.2.position := by
    obtain rfl := hfollows.same
    unfold FileStream.wordRound
    rcases hfollows.next hends with ⟨value, hvalue⟩ | hend
    · rw [hvalue]
      by_cases hspace : isSpace value = true
      · have hmoved : state.2.position ≠ stream.position := by
          intro heq
          rw [heq, hfirst] at hvalue
          obtain rfl := Input.byte.inj hvalue
          exact absurd (hspace.symm.trans hnonspace) nofun
        simp only [hspace]
        exact Or.inr ⟨hopen, by omega⟩
      · simp [hspace]
    · rw [hend]
      exact Or.inl rfl
  cases hround : wordRound state with
  | inl next =>
      rw [hround] at hspec
      have hless : state.2.position < next.2.position := hspec.2
      have hle := hspec.1.1.position_le hends
      exact ⟨⟨hspec.1, by omega⟩, by omega⟩
  | inr later =>
      rw [hround] at hspec hlast
      exact ⟨hspec.1, hlast⟩

-- operator>> gets on, up to the end of the file.
theorem extract_progress (h : Follows source stream) (hends : EndsAt source last) (hgood : stream.good = true)
    (fuel : Nat) (hfuel : last < fuel) (value : Bytes) :
    ∃ later, extract fuel value stream = some later ∧ Follows source later.2 ∧
      (later.2.eof = true ∨ later.2.good = true ∧ last - later.2.position < last - stream.position) := by
  obtain ⟨skipped, hskip, ⟨hskipped, hposition⟩, hword⟩ := skipSpace_total h hgood hends fuel (by omega)
  unfold extract
  rw [if_neg (by simp [hgood]), Option.bind_eq_bind, hskip, Option.bind_some]
  by_cases hopen : skipped.good = true
  · rw [if_neg (by simp [hopen])]
    obtain ⟨later, hlater, hfollows, hprogress⟩ :=
      takeWord_total [] hskipped hword hopen hends fuel (by omega)
    have hle := hfollows.position_le hends
    exact ⟨later, hlater, hfollows, hprogress.imp_right fun hmoved => ⟨hmoved.1, by omega⟩⟩
  · rw [if_pos (by simp [hopen])]
    exact ⟨_, rfl, hskipped, Or.inl (hword.resolve_right fun hgood => hopen hgood.1)⟩

end Ends

end FileStream

end HhctrlMgmt.Common
