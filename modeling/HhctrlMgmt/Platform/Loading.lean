import HhctrlMgmt.Platform.Reading

namespace HhctrlMgmt.Platform.Reading

open Common Coroutine FileStream Scheduling

-- What a stream parser is: its error code stays, an error means that the text is no JSON
-- document, and without an error finish gives the value of the text, however that has been
-- split.
structure Incremental {π : Type} (start : π) (write : π → Bytes → π) (failed : π → Bool)
    (finish : π → Option Json) (parse : Bytes → Option Json) : Prop where
  sticky : ∀ parser chunk, failed parser = true → failed (write parser chunk) = true
  error : ∀ chunks : List Bytes, failed (chunks.foldl write start) = true → parse chunks.flatten = none
  value : ∀ chunks : List Bytes, (∀ before, before <+: chunks → failed (before.foldl write start) = false) →
    finish (chunks.foldl write start) = parse chunks.flatten

section Parser

variable {π : Type} {start : π} {write : π → Bytes → π} {failed : π → Bool} {finish : π → Option Json}
  {parse : Bytes → Option Json}

theorem Incremental.foldl_failed (h : Incremental start write failed finish parse) (parser : π) (chunks : List Bytes)
    (hfailed : failed parser = true) : failed (chunks.foldl write parser) = true := by
  induction chunks generalizing parser with
  | nil => exact hfailed
  | cons chunk chunks ih => exact ih (write parser chunk) (h.sticky parser chunk hfailed)

-- Without an error after the last write there is none after an earlier one.
theorem Incremental.finished (h : Incremental start write failed finish parse) (chunks : List Bytes)
    (hfailed : failed (chunks.foldl write start) = false) :
    finish (chunks.foldl write start) = parse chunks.flatten := by
  apply h.value
  rintro before ⟨after, rfl⟩
  rw [List.foldl_append] at hfailed
  by_contra herror
  have hlast := h.foldl_failed _ after (Bool.eq_true_of_not_eq_false herror)
  exact absurd (hlast.symm.trans hfailed) nofun

end Parser

section Chunks

variable (content : Bytes)

theorem readBytes_fileOf (position count : Nat) :
    readBytes (fileOf content) position count = ((content.drop position).take count,
      if content.length - position < count then some .endOfFile else none) := by
  induction count generalizing position with
  | zero => simp [readBytes]
  | succ count ih =>
      unfold readBytes
      by_cases hend : content.length ≤ position
      · have hnext : fileOf content position = .endOfFile := by
          unfold fileOf
          rw [List.getElem?_eq_none hend]
        have hrest : content.drop position = [] := List.drop_eq_nil_of_le hend
        have hless : content.length - position < count + 1 := by omega
        rw [hnext, hrest, if_pos hless]
        rfl
      · have hbyte : position < content.length := Nat.lt_of_not_le hend
        have hnext : fileOf content position = .byte content[position] := by
          unfold fileOf
          rw [List.getElem?_eq_getElem hbyte]
        have hcount : content.length - (position + 1) < count ↔ content.length - position < count + 1 := by omega
        rw [hnext, List.drop_eq_getElem_cons hbyte, List.take_succ_cons]
        simp only [ih, hcount]

-- A stream that has read so many bytes.
def openedAt (position : Nat) : FileStream :=
  (opened (some (fileOf content))).advance position

theorem read_openedAt (position count : Nat) :
    (openedAt content position).read count = ((content.drop position).take count,
      if content.length - position < count then
        { (openedAt content position).advance (content.length - position) with eofbit := true, failbit := true }
      else openedAt content (position + count)) := by
  have hgood : (openedAt content position).good = true := rfl
  have hsource : (openedAt content position).source = fileOf content := rfl
  have hposition : (openedAt content position).position = position := Nat.zero_add position
  unfold FileStream.read
  rw [if_neg (by simp [hgood]), hsource, hposition, readBytes_fileOf]
  by_cases hlast : content.length - position < count
  · have hlength : ((content.drop position).take count).length = content.length - position := by
      rw [List.length_take, List.length_drop]
      omega
    simp only [hlast, if_true, hlength]
  · simp only [hlast, if_false]
    simp [openedAt, advance, Nat.add_assoc]

-- The last chunk is shorter than the buffer, and empty where the rest of the file is a
-- multiple of it.
theorem readFile_last {π : Type} (write : π → Bytes → π) (parser : π) (position fuel : Nat)
    (hlast : content.length - position < bufferSize) :
    readFile write (fuel + 1) (parser, openedAt content position) = some (write parser (content.drop position)) := by
  have hall : (content.drop position).take bufferSize = content.drop position := by
    apply List.take_of_length_le
    rw [List.length_drop]
    omega
  rw [readFile_succ, read_openedAt, if_pos hlast, hall]
  rfl

theorem readFile_full {π : Type} (write : π → Bytes → π) (parser : π) (position fuel : Nat)
    (hfull : ¬content.length - position < bufferSize) :
    readFile write (fuel + 1) (parser, openedAt content position) =
      readFile write fuel (write parser ((content.drop position).take bufferSize),
        openedAt content (position + bufferSize)) := by
  rw [readFile_succ, read_openedAt, if_neg hfull]
  rfl

-- The chunks are the rest of the file, whatever parser they are given to.
theorem readFile_chunks (left position : Nat) (hleft : content.length - position ≤ left) :
    ∃ chunks : List Bytes, chunks.flatten = content.drop position ∧
      ∀ {π : Type} (write : π → Bytes → π) (parser : π) (fuel : Nat), left < fuel →
        readFile write fuel (parser, openedAt content position) = some (chunks.foldl write parser) := by
  have hpositive : 0 < bufferSize := by decide
  induction left generalizing position with
  | zero =>
      refine ⟨[content.drop position], by simp, fun write parser fuel hfuel => ?_⟩
      obtain ⟨fuel, rfl⟩ := Nat.exists_eq_add_of_lt hfuel
      exact readFile_last content write parser position _ (by omega)
  | succ left ih =>
      by_cases hlast : content.length - position < bufferSize
      · refine ⟨[content.drop position], by simp, fun write parser fuel hfuel => ?_⟩
        obtain ⟨fuel, rfl⟩ := Nat.exists_eq_add_of_lt hfuel
        exact readFile_last content write parser position _ hlast
      · obtain ⟨chunks, hflatten, hread⟩ := ih (position + bufferSize) (by omega)
        refine ⟨(content.drop position).take bufferSize :: chunks, ?_, fun write parser fuel hfuel => ?_⟩
        · rw [List.flatten_cons, hflatten, ← List.drop_drop, List.take_append_drop]
        · obtain ⟨fuel, rfl⟩ := Nat.exists_eq_add_of_lt hfuel
          rw [readFile_full content write parser position _ hlast]
          exact hread write _ _ (by omega)

theorem readFile_opened : ∃ chunks : List Bytes, chunks.flatten = content ∧
    ∀ {π : Type} (write : π → Bytes → π) (parser : π) (fuel : Nat), content.length < fuel →
      readFile write fuel (parser, opened (some (fileOf content))) = some (chunks.foldl write parser) :=
  readFile_chunks content content.length 0 (Nat.sub_le _ _)

end Chunks

section Loaders

variable {Id : Type} (reader : JsonReader) (C : Codec Id) {content : Bytes} {parse : Bytes → Option Json}
  {chunks : List Bytes} {fuel : Nat}

-- What a loader has, given what it makes of a value; a text that is not well formed is
-- reported.
def Loads {α : Type} (result : Option (Except Exn α)) (parsed : Option Json) (convert : Json → Except Exn α) : Prop :=
  match parsed with
  | some value => result = some (convert value)
  | none => ∃ message, result = some (.error (.runtimeError message))

theorem pdtreeLoad_chunks (filePath : String)
    (h : Incremental reader.start reader.write reader.failed reader.finish parse)
    (hread : readFile reader.write fuel (reader.start, opened (some (fileOf content))) =
      some (chunks.foldl reader.write reader.start)) :
    pdtreeLoad reader filePath (some (fileOf content)) fuel = some (.ok ((parse chunks.flatten).getD .null)) := by
  have hbad : (opened (some (fileOf content))).bad = false := rfl
  unfold pdtreeLoad
  simp only [hbad, hread, Option.bind_eq_bind, Option.bind_some, Bool.false_eq_true, if_false]
  cases hfailed : reader.failed (chunks.foldl reader.write reader.start) with
  | true =>
      rw [h.error chunks hfailed]
      rfl
  | false =>
      rw [← h.finished chunks hfailed]
      cases reader.finish (chunks.foldl reader.write reader.start) with
      | none => rfl
      | some value => rfl

theorem loadConfig_chunks (h : Incremental reader.start reader.write reader.failed reader.finish parse)
    (hread : readFile reader.write fuel (reader.start, opened (some (fileOf content))) =
      some (chunks.foldl reader.write reader.start)) :
    Loads (loadConfig reader (some (fileOf content)) fuel) (parse chunks.flatten) (toAppConfig reader) := by
  have hopen : (opened (some (fileOf content))).fail = false := rfl
  unfold loadConfig
  simp only [hopen, hread, Option.bind_eq_bind, Option.bind_some, Bool.false_eq_true, if_false]
  cases hfailed : reader.failed (chunks.foldl reader.write reader.start) with
  | true =>
      rw [h.error chunks hfailed]
      exact ⟨_, rfl⟩
  | false =>
      rw [← h.finished chunks hfailed]
      cases reader.finish (chunks.foldl reader.write reader.start) with
      | none => exact ⟨_, rfl⟩
      | some value => rfl

theorem storeLoad_chunks (store : FileTaskStore Id) (h : Incremental C.start C.write C.failed C.finish parse)
    (hread : readFile C.write fuel (C.start, opened (some (fileOf content))) = some (chunks.foldl C.write C.start)) :
    Loads (storeLoad C (some (fileOf content)) store fuel) (parse chunks.flatten)
      fun value => (tasksFromJson C value).map FileTaskStore.mk := by
  obtain ⟨later, hload⟩ := exec_load C (some (fileOf content)) rfl store fuel
  unfold storeLoad
  rw [hload, hread, Option.elim_some, execBind_ret]
  unfold parsed
  cases hfailed : C.failed (chunks.foldl C.write C.start) with
  | true =>
      rw [h.error chunks hfailed]
      exact ⟨_, rfl⟩
  | false =>
      rw [← h.finished chunks hfailed]
      cases C.finish (chunks.foldl C.write C.start) with
      | none => exact ⟨_, rfl⟩
      | some value =>
          unfold Loads
          cases hvalue : tasksFromJson C value with
          | error thrown => simp [hvalue, Coro.ofExcept, exec, Except.map]
          | ok tasks => simp [hvalue, FileTaskStore.setCachedTasks, Coro.ofExcept, exec, Except.map]

-- The parser gets the bytes of the file, in order and once each, before finish is called,
-- and so every loader has the value of the whole text.
theorem loads_whole_file (store : FileTaskStore Id) (filePath : String) (content : Bytes) (parse : Bytes → Option Json)
    (hreader : Incremental reader.start reader.write reader.failed reader.finish parse)
    (hcodec : Incremental C.start C.write C.failed C.finish parse) :
    ∃ chunks : List Bytes, chunks.flatten = content ∧ ∀ fuel > content.length,
      (∀ {π : Type} (write : π → Bytes → π) (parser : π),
        readFile write fuel (parser, opened (some (fileOf content))) = some (chunks.foldl write parser)) ∧
      (∃ later, exec (fileWorld Id (some (fileOf content))) (respond (some (fileOf content)))
        (FileTaskStore.readLoop C fuel C.start) (opened (some (fileOf content)), store) =
          (.ret (chunks.foldl C.write C.start), (later, store))) ∧
      pdtreeLoad reader filePath (some (fileOf content)) fuel = some (.ok ((parse content).getD .null)) ∧
      Loads (loadConfig reader (some (fileOf content)) fuel) (parse content) (toAppConfig reader) ∧
      Loads (storeLoad C (some (fileOf content)) store fuel) (parse content)
        fun value => (tasksFromJson C value).map FileTaskStore.mk := by
  obtain ⟨chunks, hflatten, hread⟩ := readFile_opened content
  refine ⟨chunks, hflatten, fun fuel hfuel => ⟨fun write parser => hread write parser fuel hfuel, ?_, ?_⟩⟩
  · obtain ⟨later, hloop⟩ := exec_readLoop C (some (fileOf content)) fuel C.start (opened (some (fileOf content))) store
    rw [hread C.write C.start fuel hfuel] at hloop
    exact ⟨later, hloop⟩
  · rw [← hflatten]
    rw [← hflatten] at hread hfuel
    have hreaderRead := hread reader.write reader.start fuel hfuel
    have hcodecRead := hread C.write C.start fuel hfuel
    exact ⟨pdtreeLoad_chunks reader filePath hreader hreaderRead, loadConfig_chunks reader hreader hreaderRead,
      storeLoad_chunks C store hcodec hcodecRead⟩

end Loaders

section Samples

-- A parser of the empty array, with spaces anywhere; it fails at the first byte that is
-- out of place, and remains failed.
inductive Brackets where
  | start
  | opened
  | closed
  | failed
deriving DecidableEq

namespace Brackets

def step (parser : Brackets) (byte : UInt8) : Brackets :=
  if byte = 32 then parser
  else if parser = .start ∧ byte = 91 then .opened
  else if parser = .opened ∧ byte = 93 then .closed
  else .failed

def write (parser : Brackets) (chunk : Bytes) : Brackets :=
  chunk.foldl step parser

def finish (parser : Brackets) : Option Json :=
  if parser = .closed then some (.array []) else none

def parse (text : Bytes) : Option Json :=
  (write .start text).finish

theorem step_failed (byte : UInt8) : step .failed byte = .failed := by
  simp [step]

theorem write_failed (chunk : Bytes) : write .failed chunk = .failed := by
  induction chunk with
  | nil => rfl
  | cons byte chunk ih =>
      unfold write at ih ⊢
      rw [List.foldl_cons, step_failed, ih]

theorem write_flatten (chunks : List Bytes) : chunks.foldl write .start = write .start chunks.flatten :=
  List.foldl_flatten.symm

theorem write_spaces (parser : Brackets) (count : Nat) : write parser (List.replicate count 32) = parser := by
  induction count with
  | zero => rfl
  | succ count ih => exact ih

theorem incremental : Incremental .start write (fun parser => parser = .failed) finish parse where
  sticky parser chunk h := by
    obtain rfl := of_decide_eq_true h
    exact decide_eq_true (write_failed chunk)
  error chunks h := by
    have hfailed := of_decide_eq_true h
    rw [write_flatten] at hfailed
    unfold parse
    rw [hfailed]
    rfl
  value chunks _ := congrArg finish (write_flatten chunks)

def reader : JsonReader where
  Parser := Brackets
  start := .start
  write := write
  failed parser := parser = .failed
  finish := finish
  wrongKind := .runtimeError "not_object"
  missingKey := .runtimeError "out_of_range"

def codec : Codec Nat where
  toString _ := []
  stringGenerator _ := none
  serialize _ := []
  Parser := Brackets
  start := .start
  write := write
  failed parser := parser = .failed
  finish := finish
  wrongKind := .runtimeError "not_object"
  missingKey := .runtimeError "out_of_range"

-- The brackets, and as many spaces between them.
def apart (count : Nat) : Bytes := ascii "[" ++ (List.replicate count 32 ++ ascii "]")

theorem length_apart (count : Nat) : (apart count).length = count + 2 := by
  have hopening : (ascii "[").length = 1 := rfl
  have hclosing : (ascii "]").length = 1 := rfl
  rw [apart, List.length_append, List.length_append, List.length_replicate, hopening, hclosing]
  omega

theorem parse_apart (count : Nat) : parse (apart count) = some (.array []) := by
  have hspaces := write_spaces .opened count
  unfold parse apart write at *
  rw [List.foldl_append, List.foldl_append]
  have hopened : (ascii "[").foldl step .start = .opened := by decide
  rw [hopened, hspaces]
  rfl

-- What follows a byte that is out of place is of no account.
theorem parse_misplaced (text : Bytes) : parse (93 :: text) = none := by
  have hfailed : write .start (93 :: text) = write .failed text := rfl
  unfold parse
  rw [hfailed, write_failed]
  rfl

end Brackets

-- The texts are longer than the buffer.
theorem loads_emptyArray :
    pdtreeLoad Brackets.reader "/etc/pdtree.json" (some (fileOf (Brackets.apart 5000))) 5003 =
        some (.ok (.array [])) ∧
      Loads (storeLoad Brackets.codec (some (fileOf (Brackets.apart 5000))) ⟨[⟨7, [], 0⟩]⟩ 5003) (some (.array []))
        (fun value => (tasksFromJson Brackets.codec value).map FileTaskStore.mk) ∧
      pdtreeLoad Brackets.reader "/etc/pdtree.json" (some (fileOf (93 :: Brackets.apart 5000))) 5004 =
        some (.ok .null) := by
  generalize hcount : 5000 = count
  obtain ⟨chunks, -, hload⟩ := loads_whole_file Brackets.reader Brackets.codec ⟨[⟨7, [], 0⟩]⟩ "/etc/pdtree.json"
    (Brackets.apart count) Brackets.parse Brackets.incremental Brackets.incremental
  obtain ⟨misplaced, -, hmisplaced⟩ := loads_whole_file Brackets.reader Brackets.codec ⟨[]⟩ "/etc/pdtree.json"
    (93 :: Brackets.apart count) Brackets.parse Brackets.incremental Brackets.incremental
  obtain ⟨-, -, hpdtree, -, hstore⟩ := hload 5003 (by rw [Brackets.length_apart]; omega)
  obtain ⟨-, -, hnull, -, -⟩ := hmisplaced 5004 (by rw [List.length_cons, Brackets.length_apart]; omega)
  rw [Brackets.parse_apart] at hpdtree hstore
  rw [Brackets.parse_misplaced] at hnull
  exact ⟨hpdtree, hstore, hnull⟩

end Samples

end HhctrlMgmt.Platform.Reading
