import HhctrlMgmt.Common.FileStream
import HhctrlMgmt.Platform.Discovery
import HhctrlMgmt.Scheduling.FileTaskStore

namespace HhctrlMgmt.Platform.Reading

open Common Coroutine FileStream Scheduling

-- The stream parser of boost::json, and what its conversions throw. `failed` is the error
-- code of the last write, and `finish` is `none` where finish() reports an error.
structure JsonReader where
  Parser : Type
  start : Parser
  write : Parser → Bytes → Parser
  failed : Parser → Bool
  finish : Parser → Option Json
  wrongKind : Exn
  missingKey : Exn

-- One round of the loops that read a file into a buffer.
def bufferRound {π : Type} (write : π → Bytes → π) (state : π × FileStream) : π × FileStream ⊕ π :=
  let chunk := state.2.read bufferSize
  let parser := write state.1 chunk.1
  if chunk.2.eof then .inr parser else .inl (parser, chunk.2)

def readFile {π : Type} (write : π → Bytes → π) : Nat → π × FileStream → Option π :=
  loop fun _ state => some (bufferRound write state)

section Functions

variable (reader : JsonReader)

-- Only bad() is asked for after opening.
def pdtreeLoad (filePath : String) (source : Option Source) (fuel : Nat) : Option (Except Exn Json) := do
  let file := opened source
  if file.bad then
    return .error (.runtimeError ("Cannot open platform device file: " ++ filePath))
  let parser ← readFile reader.write fuel (reader.start, file)
  if reader.failed parser then
    return .ok .null
  match reader.finish parser with
  | none => return .ok .null
  | some value => return .ok value

structure EntityClientConfig where
  username : Bytes
  password : Bytes
  serverAddress : Bytes
  serverPort : Int
  keepAliveInterval : Int
  maxReconnectAttempts : Int
  reconnectDelay : Int

structure AppConfig where
  logDir : Bytes
  dtreeFile : Bytes
  entityClientConfig : EntityClientConfig

def asObject : Json → Except Exn Object
  | .object members => .ok members
  | _ => .error reader.wrongKind

def objectAt (object : Object) (key : String) : Except Exn Json :=
  match object.lookup (ascii key) with
  | some value => .ok value
  | none => .error reader.missingKey

def toBytes : Json → Except Exn Bytes
  | .string value => .ok value
  | _ => .error reader.wrongKind

-- value_to<T> for an integral type with this range
def toIntegral (least greatest : Int) (value : Json) : Except Exn Int :=
  match value.toNumber with
  | some number => if least ≤ number ∧ number ≤ greatest then .ok number else .error reader.wrongKind
  | none => .error reader.wrongKind

def toInt : Json → Except Exn Int := toIntegral reader (-2147483648) 2147483647

def toUint16 : Json → Except Exn Int := toIntegral reader 0 65535

def toEntityClientConfig (value : Json) : Except Exn EntityClientConfig := do
  let object ← asObject reader value
  let username ← toBytes reader (← objectAt reader object "username")
  let password ← toBytes reader (← objectAt reader object "password")
  let serverAddress ← toBytes reader (← objectAt reader object "server_address")
  let serverPort ← toInt reader (← objectAt reader object "server_port")
  let keepAliveInterval ← toUint16 reader (← objectAt reader object "keep_alive_interval")
  let maxReconnectAttempts ← toInt reader (← objectAt reader object "max_reconnect_attempts")
  let reconnectDelay ← toInt reader (← objectAt reader object "reconnect_delay_seconds")
  return ⟨username, password, serverAddress, serverPort, keepAliveInterval, maxReconnectAttempts, reconnectDelay⟩

def toAppConfig (value : Json) : Except Exn AppConfig := do
  let object ← asObject reader value
  let logDir ← toBytes reader (← objectAt reader object "log_dir")
  let dtreeFile ← toBytes reader (← objectAt reader object "dtree_file")
  let entityClientConfig ← toEntityClientConfig reader (← objectAt reader object "entity_client_config")
  return ⟨logDir, dtreeFile, entityClientConfig⟩

def loadConfig (source : Option Source) (fuel : Nat) : Option (Except Exn AppConfig) := do
  let file := opened source
  if file.fail then
    return .error (.runtimeError "Error while reading file.")
  let parser ← readFile reader.write fuel (reader.start, file)
  if reader.failed parser then
    return .error (.runtimeError "Error while reading file.")
  match reader.finish parser with
  | none => return .error (.runtimeError "Error while parsing file. File may be malformed.")
  | some value => return toAppConfig reader value

-- One round of the loop in sysfs::read_attr.
def attrRound (fuel : Nat) (state : Bytes × FileStream) : Option (Bytes × FileStream ⊕ Bytes) :=
  if state.2.eof then some (.inr state.1) else (state.2.extract fuel state.1).map .inl

def readAttr (path : String) (source : Option Source) (fuel : Nat) : Option (Except Exn Bytes) := do
  let fstream := opened source
  if fstream.fail then
    return .error (.runtimeError ("Attribute does not exist. Path: " ++ path))
  let ret ← loop attrRound fuel ([], fstream)
  return .ok ret

-- One round of the loop in get_hw_info_attr. EOF is -1, which is the char 255.
def charRound (state : Bytes × FileStream) : Bytes × FileStream ⊕ Bytes :=
  if state.2.eof then .inr state.1
  else
    let got := state.2.get
    let val := got.1.getD 255
    if val = 10 ∨ val = 0 then .inr state.1 else .inl (state.1 ++ [val], got.2)

def getHwInfoAttr (path : Bytes) (source : Option Source) (fuel : Nat) : Option Bytes :=
  let file := opened source
  if file.fail then some (ascii "default-" ++ path)
  else loop (fun _ state => some (charRound state)) fuel ([], file)

end Functions

section Halting

variable {source : Source}

-- The file has a first line that is read without a failure.
def FiniteLine (source : Source) : Prop :=
  ∃ last, (source last = .endOfFile ∨ source last = .byte 10 ∨ source last = .byte 0) ∧
    ∀ m < last, ∃ value, source m = .byte value

theorem readFile_halts_iff {π : Type} (write : π → Bytes → π) (parser : π) :
    Halts (fun fuel => readFile write fuel (parser, opened (some source))) ↔ Finite source := by
  constructor
  · rintro ⟨fuel, result, hresult⟩
    refine loop_result (fun state : π × FileStream => Follows source state.2) (fun _ => Finite source)
      (fun _ state outcome hstate hround => ?_) fuel _ (follows_opened source) result hresult
    obtain rfl := Option.some.inj hround
    have hread := hstate.afterRead bufferSize
    unfold bufferRound
    dsimp only
    split_ifs with heof
    · exact hread.finite heof
    · exact hread
  · rintro ⟨last, hends⟩
    have hround (state : π × FileStream) (hstate : Follows source state.2 ∧ state.2.good = true) :
        (bufferRound write state).elim (fun next => (Follows source next.2 ∧ next.2.good = true) ∧
          last - next.2.position < last - state.2.position) fun _ => True := by
      have hread := hstate.1.afterRead bufferSize
      have hpositive : 0 < bufferSize := by decide
      unfold bufferRound
      dsimp only
      split_ifs with heof
      · trivial
      · rcases read_progress hstate.1 hends hstate.2 hpositive with hend | ⟨hgood, hless⟩
        · exact absurd hend heof
        · exact ⟨⟨hread, hgood⟩, hless⟩
    obtain ⟨result, hresult, -⟩ := loop_total _ _ (fun state : π × FileStream => last - state.2.position) 0
      (fun _ state hstate _ => ⟨bufferRound write state, rfl, hround state hstate⟩) (last + 1)
      (parser, opened (some source)) ⟨follows_opened source, rfl⟩ (by simp [opened])
    exact ⟨last + 1, result, hresult⟩

-- The loop over a file that has not been opened never ends.
theorem readFile_unopened {π : Type} (write : π → Bytes → π) (parser : π) :
    ¬Halts fun fuel => readFile write fuel (parser, opened none) := by
  rintro ⟨fuel, result, hresult⟩
  refine loop_result (fun state : π × FileStream => state.2.failbit = true ∧ state.2.eofbit = false) (fun _ => False)
    (fun _ state outcome hstate hround => ?_) fuel _ ⟨rfl, rfl⟩ result hresult
  obtain rfl := Option.some.inj hround
  have hread : state.2.read bufferSize = ([], { state.2 with failbit := true }) := by
    have hgood : state.2.good = false := by simp [good, hstate.1]
    unfold FileStream.read
    rw [hgood]
    rfl
  unfold bufferRound
  simp only [hread, eof, hstate.2, Bool.false_eq_true, if_false]
  exact ⟨rfl, rfl⟩

-- The rounds of read_attr that are left: the last one finds eofbit set.
def attrMeasure (last : Nat) (state : Bytes × FileStream) : Nat :=
  if state.2.eof then 0 else last - state.2.position + 1

theorem readAttr_halts_iff (path : String) : Halts (readAttr path (some source)) ↔ Finite source := by
  have hloop : Halts (readAttr path (some source)) ↔ Halts fun fuel => loop attrRound fuel ([], opened (some source)) :=
    halts_bind_iff _ _ fun ret => ⟨.ok ret, rfl⟩
  rw [hloop]
  constructor
  · rintro ⟨fuel, result, hresult⟩
    refine loop_result (fun state => Follows source state.2) (fun _ => Finite source)
      (fun fuel state outcome hstate hround => ?_) fuel _ (follows_opened source) result hresult
    unfold attrRound at hround
    split_ifs at hround with heof
    · obtain rfl := Option.some.inj hround
      exact hstate.finite heof
    · obtain ⟨later, hextract, rfl⟩ := Option.map_eq_some_iff.mp hround
      exact hstate.afterExtract fuel state.1 later hextract
  · rintro ⟨last, hends⟩
    have hround (fuel : Nat) (state : Bytes × FileStream)
        (hstate : Follows source state.2 ∧ (state.2.eof = true ∨ state.2.good = true)) (hfuel : last + 1 ≤ fuel) :
        ∃ outcome, attrRound fuel state = some outcome ∧
          outcome.elim (fun next => (Follows source next.2 ∧ (next.2.eof = true ∨ next.2.good = true)) ∧
            attrMeasure last next < attrMeasure last state) fun _ => True := by
      unfold attrRound
      by_cases heof : state.2.eof = true
      · exact ⟨.inr state.1, if_pos heof, trivial⟩
      · obtain ⟨later, hextract, hfollows, hprogress⟩ :=
          extract_progress hstate.1 hends (hstate.2.resolve_left heof) fuel hfuel state.1
        refine ⟨.inl later, by rw [if_neg heof, hextract]; rfl, ⟨hfollows, hprogress.imp_right And.left⟩, ?_⟩
        unfold attrMeasure
        rw [if_neg heof]
        rcases hprogress with hend | ⟨-, hless⟩
        · rw [if_pos hend]
          omega
        · split_ifs
          · omega
          · omega
    obtain ⟨result, hresult, -⟩ := loop_total _ _ (attrMeasure last) (last + 1) hround (2 * last + 3)
      ([], opened (some source)) ⟨follows_opened source, Or.inr rfl⟩ (by simp [attrMeasure, opened, eof]; omega)
    exact ⟨2 * last + 3, result, hresult⟩

theorem getHwInfoAttr_halts_iff (path : Bytes) : Halts (getHwInfoAttr path (some source)) ↔ FiniteLine source := by
  constructor
  · rintro ⟨fuel, result, hresult⟩
    refine loop_result (fun state => Follows source state.2) (fun _ => FiniteLine source)
      (fun fuel state outcome hstate hround => ?_) fuel _ (follows_opened source) result hresult
    obtain rfl := Option.some.inj hround
    unfold charRound
    by_cases heof : state.2.eof = true
    · rw [if_pos heof]
      exact ⟨state.2.position, Or.inl (hstate.eof heof), hstate.read⟩
    · rw [if_neg heof]
      dsimp only
      split_ifs with hval
      · cases hgot : state.2.get.1 with
        | none =>
            rw [hgot] at hval
            exact absurd hval (by decide)
        | some value =>
            have hbyte := byte_of_get hgot
            rw [hgot, Option.getD_some] at hval
            rw [hstate.same] at hbyte
            refine ⟨state.2.position, Or.inr ?_, hstate.read⟩
            rcases hval with hnewline | hzero
            · exact Or.inl (hnewline ▸ hbyte)
            · exact Or.inr (hzero ▸ hbyte)
      · exact hstate.afterGet
  · rintro ⟨last, hlast, hbytes⟩
    have hround (state : Bytes × FileStream)
        (hstate : Follows source state.2 ∧ (state.2.eof = true ∨ state.2.good = true ∧ state.2.position ≤ last)) :
        (charRound state).elim (fun next => (Follows source next.2 ∧
            (next.2.eof = true ∨ next.2.good = true ∧ next.2.position ≤ last)) ∧
          attrMeasure last next < attrMeasure last state) fun _ => True := by
      have hnext := hstate.1.afterGet
      unfold charRound
      by_cases heof : state.2.eof = true
      · rw [if_pos heof]
        trivial
      · obtain ⟨hgood, hposition⟩ := hstate.2.resolve_left heof
        obtain rfl := hstate.1.same
        rw [if_neg heof]
        -- the next byte is the last one only if it ends the line
        have hinput : (∃ value, state.2.source state.2.position = .byte value ∧
            (state.2.position < last ∨ value = 10 ∨ value = 0)) ∨ state.2.source state.2.position = .endOfFile := by
          rcases Nat.lt_or_eq_of_le hposition with hless | heq
          · obtain ⟨value, hvalue⟩ := hbytes state.2.position hless
            exact Or.inl ⟨value, hvalue, Or.inl hless⟩
          · rw [heq]
            rcases hlast with hend | hnewline | hzero
            · exact Or.inr hend
            · exact Or.inl ⟨10, hnewline, Or.inr (Or.inl rfl)⟩
            · exact Or.inl ⟨0, hzero, Or.inr (Or.inr rfl)⟩
        rcases hinput with ⟨value, hvalue, hstop⟩ | hend
        · rw [get_byte hgood value hvalue] at hnext ⊢
          dsimp only [Option.getD_some]
          split_ifs with hval
          · trivial
          · have hless : state.2.position < last := hstop.resolve_right hval
            refine ⟨⟨hnext, Or.inr ⟨hgood, hless⟩⟩, ?_⟩
            have heof' : ¬(state.2.advance 1).eof = true := heof
            unfold attrMeasure
            rw [if_neg heof, if_neg heof']
            show last - (state.2.position + 1) + 1 < last - state.2.position + 1
            omega
        · rw [get_endOfFile hgood hend] at hnext ⊢
          refine ⟨⟨hnext, Or.inl rfl⟩, ?_⟩
          unfold attrMeasure
          rw [if_neg heof]
          exact Nat.succ_pos _
    obtain ⟨result, hresult, -⟩ := loop_total _ _ (attrMeasure last) 0
      (fun _ state hstate _ => ⟨charRound state, rfl, hround state hstate⟩) (last + 2)
      ([], opened (some source)) ⟨follows_opened source, Or.inr ⟨rfl, Nat.zero_le last⟩⟩
      (by simp [attrMeasure, opened, eof])
    exact ⟨last + 2, result, hresult⟩

-- A file with this content.
def fileOf (content : Bytes) : Source := fun position =>
  match content[position]? with
  | some value => .byte value
  | none => .endOfFile

-- On a file that can be read, the loop makes the value that hardware_identity uses.
theorem getHwInfoAttr_fileOf (path content : Bytes) (fuel : Nat) (hfuel : content.length + 2 ≤ fuel) :
    getHwInfoAttr path (some (fileOf content)) fuel = some (MainBoard.hwInfoValue content) := by
  have hopen (before : Bytes) : ((opened (some (fileOf content))).advance before.length).eofbit = false := rfl
  suffices hloop : ∀ (rest before value : Bytes) (fuel : Nat), content = before ++ rest → rest.length + 2 ≤ fuel →
      loop (fun _ state => some (charRound state)) fuel
          (value, (opened (some (fileOf content))).advance before.length) =
        some (value ++ MainBoard.hwInfoValue rest) from hloop content [] [] fuel rfl hfuel
  intro rest
  induction rest with
  | nil =>
      rintro before value fuel hcontent hfuel
      obtain ⟨fuel, rfl⟩ : ∃ n, fuel = n + 2 := ⟨fuel - 2, by omega⟩
      have hend : ((opened (some (fileOf content))).advance before.length).source
          ((opened (some (fileOf content))).advance before.length).position = .endOfFile := by
        simp [fileOf, hcontent, opened, advance]
      simp [loop, charRound, hopen, get_endOfFile rfl hend, eof, MainBoard.hwInfoValue]
  | cons byte rest ih =>
      rintro before value fuel hcontent hfuel
      rw [List.length_cons] at hfuel
      obtain ⟨fuel, rfl⟩ : ∃ n, fuel = n + 1 := ⟨fuel - 1, by omega⟩
      have hbyte : ((opened (some (fileOf content))).advance before.length).source
          ((opened (some (fileOf content))).advance before.length).position = .byte byte := by
        simp [fileOf, hcontent, opened, advance]
      have hnext := ih (before ++ [byte]) (value ++ [byte]) fuel (by rw [hcontent, List.append_assoc]; rfl) (by omega)
      by_cases hstop : byte = 10 ∨ byte = 0
      · simp [loop, charRound, get_byte rfl byte hbyte, hstop, MainBoard.hwInfoValue]
      · rw [List.length_append, List.append_assoc] at hnext
        simp only [loop, charRound, eof, hopen, get_byte rfl byte hbyte, Option.getD_some, hstop, Bool.false_eq_true,
          if_false, MainBoard.hwInfoValue]
        exact hnext

end Halting

section Store

variable {Id : Type} (C : Codec Id) (source : Option Source)

-- A file that the store reads. The state is the stream it has opened.
def respond (stream : FileStream) (_ : FileTaskStore Id) : (query : FileQuery) → FileAnswer query
  | .fileExists => source.isSome
  | .openOut => true
  | .write text => text.length
  | .openIn => !(opened source).fail
  | .read => ⟨(stream.read bufferSize).1, (stream.read bufferSize).2.eof⟩

abbrev fileWorld (Id : Type) (source : Option Source) : World fileSig (FileTaskStore Id) where
  State := FileStream
  enter stream _ := stream
  issue stream _ := stream
  allows stream store query answer := answer = respond source stream store query
  answer stream query _ :=
    match query with
    | .openIn => opened source
    | .read => (stream.read bufferSize).2
    | _ => stream

-- FileTaskStore::load on this file; `none` if the fuel has run out.
def storeLoad (store : FileTaskStore Id) (fuel : Nat) : Option (Except Exn (FileTaskStore Id)) :=
  match exec (fileWorld Id source) (respond source) (FileTaskStore.load C fuel) (opened none, store) with
  | (.ret _, point) => some (.ok point.2)
  | (.throw thrown, _) => some (.error thrown)
  | (.spin, _) => none

theorem readFile_succ {π : Type} (write : π → Bytes → π) (fuel : Nat) (parser : π) (stream : FileStream) :
    readFile write (fuel + 1) (parser, stream) =
      if (stream.read bufferSize).2.eof then some (write parser (stream.read bufferSize).1)
      else readFile write fuel (write parser (stream.read bufferSize).1, (stream.read bufferSize).2) := by
  by_cases heof : (stream.read bufferSize).2.eof = true <;> simp [readFile, loop, bufferRound, heof]

-- The loop of load is the loop of the other readers.
theorem exec_readLoop (fuel : Nat) (parser : C.Parser) (stream : FileStream) (store : FileTaskStore Id) :
    ∃ later, exec (fileWorld Id source) (respond source) (FileTaskStore.readLoop C fuel parser) (stream, store) =
      ((readFile C.write fuel (parser, stream)).elim .spin .ret, (later, store)) := by
  induction fuel generalizing parser stream with
  | zero => exact ⟨stream, rfl⟩
  | succ fuel ih =>
      simp only [FileTaskStore.readLoop, FileTaskStore.readBuffer, Coro.bind_eq, Coro.pure_eq, Coro.bind, exec, respond,
        readFile_succ]
      by_cases heof : (stream.read bufferSize).2.eof = true
      · exact ⟨(stream.read bufferSize).2, by simp [heof, exec]⟩
      · obtain ⟨later, hlater⟩ := ih (C.write parser (stream.read bufferSize).1) (stream.read bufferSize).2
        exact ⟨later, by simpa [heof] using hlater⟩

-- What load does with the parser after the loop.
def parsed (parser : C.Parser) : StoreM Id Unit := do
  if C.failed parser then
    .throw (.runtimeError "Error while reading file.")
  match C.finish parser with
  | none => .throw (.runtimeError "Error while parsing file. File may be malformed.")
  | some value =>
    let tasks ← .ofExcept (tasksFromJson C value)
    FileTaskStore.setCachedTasks tasks

theorem exec_parsed_ne_spin (parser : C.Parser) (stream : FileStream) (store : FileTaskStore Id) :
    (exec (fileWorld Id source) (respond source) (parsed C parser) (stream, store)).1 ≠ .spin := by
  unfold parsed
  cases C.failed parser with
  | true => exact nofun
  | false =>
      cases C.finish parser with
      | none => exact nofun
      | some value =>
          cases hvalue : tasksFromJson C value <;> simp [hvalue, FileTaskStore.setCachedTasks, Coro.ofExcept, exec]

theorem exec_load (hopen : (opened source).fail = false) (store : FileTaskStore Id) (fuel : Nat) :
    ∃ later, exec (fileWorld Id source) (respond source) (FileTaskStore.load C fuel) (opened none, store) =
      execBind (fileWorld Id source) (respond source)
        ((readFile C.write fuel (C.start, opened source)).elim .spin .ret, (later, store)) (parsed C) := by
  obtain ⟨later, hread⟩ := exec_readLoop C source fuel C.start (opened source) store
  refine ⟨later, ?_⟩
  rw [← hread, ← exec_bind]
  simp only [FileTaskStore.load, FileTaskStore.openIn, Coro.bind_eq, Coro.bind, exec, respond, hopen]
  rfl

theorem storeLoad_iff (store : FileTaskStore Id) (fuel : Nat) :
    (∃ result, storeLoad C source store fuel = some result) ↔
    (opened source).fail = true ∨ ∃ parser, readFile C.write fuel (C.start, opened source) = some parser := by
  unfold storeLoad
  cases hfail : (opened source).fail with
  | true => simp [FileTaskStore.load, FileTaskStore.openIn, exec, respond, hfail]
  | false =>
      obtain ⟨later, hload⟩ := exec_load C source hfail store fuel
      rw [hload]
      cases hparser : readFile C.write fuel (C.start, opened source) with
      | none => simp
      | some parser =>
          have hend := exec_parsed_ne_spin C source parser later store
          simp only [Option.elim_some, execBind_ret]
          generalize exec (fileWorld Id source) (respond source) (parsed C parser) (later, store) = outcome at hend ⊢
          obtain ⟨ended, point⟩ := outcome
          cases ended with
          | ret _ => simp
          | throw thrown => simp
          | spin => exact absurd rfl hend

theorem storeLoad_halts_iff (store : FileTaskStore Id) :
    Halts (storeLoad C source store) ↔ ∀ file, source = some file → Finite file := by
  cases source with
  | none => exact iff_of_true ⟨0, (storeLoad_iff C none store 0).mpr (Or.inl rfl)⟩ nofun
  | some file =>
      have hloop : Halts (storeLoad C (some file) store) ↔
          Halts fun fuel => readFile C.write fuel (C.start, opened (some file)) :=
        exists_congr fun fuel => (storeLoad_iff C (some file) store fuel).trans (or_iff_right Bool.false_ne_true)
      rw [hloop]
      simp [readFile_halts_iff]

end Store

theorem pdtreeLoad_halts_iff (reader : JsonReader) (filePath : String) (source : Option Source) :
    Halts (pdtreeLoad reader filePath source) ↔ ∃ file, source = some file ∧ Finite file := by
  have hloop : Halts (pdtreeLoad reader filePath source) ↔
      Halts fun fuel => readFile reader.write fuel (reader.start, opened source) := by
    have hbad : (opened source).bad = false := by cases source <;> rfl
    unfold pdtreeLoad
    simp only [hbad]
    refine halts_bind_iff _ _ fun parser => ?_
    split_ifs
    · exact ⟨_, rfl⟩
    · cases reader.finish parser with
      | none => exact ⟨_, rfl⟩
      | some value => exact ⟨_, rfl⟩
  rw [hloop]
  cases source with
  | none => exact iff_of_false (readFile_unopened _ _) nofun
  | some file => simp [readFile_halts_iff]

theorem loadConfig_halts_iff (reader : JsonReader) (source : Option Source) :
    Halts (loadConfig reader source) ↔ ∀ file, source = some file → Finite file := by
  cases source with
  | none => exact iff_of_true ⟨0, _, rfl⟩ nofun
  | some file =>
      have hloop : Halts (loadConfig reader (some file)) ↔
          Halts fun fuel => readFile reader.write fuel (reader.start, opened (some file)) := by
        refine halts_bind_iff _ _ fun parser => ?_
        split_ifs
        · exact ⟨_, rfl⟩
        · cases reader.finish parser with
          | none => exact ⟨_, rfl⟩
          | some value => exact ⟨_, rfl⟩
      rw [hloop]
      simp [readFile_halts_iff]

-- Reading ends exactly if the file is read up to its end before a failure (a hardware
-- attribute: up to the end of its first line). A file that cannot be opened is reported,
-- except by pdtree_load, which reads it for ever.
theorem reading_halts_iff {Id : Type} (reader : JsonReader) (C : Codec Id) (store : FileTaskStore Id)
    (filePath attrPath : String) (hwPath : Bytes) (source : Option Source) :
    (Halts (pdtreeLoad reader filePath source) ↔ ∃ file, source = some file ∧ Finite file) ∧
    (Halts (loadConfig reader source) ↔ ∀ file, source = some file → Finite file) ∧
    (Halts (storeLoad C source store) ↔ ∀ file, source = some file → Finite file) ∧
    (Halts (readAttr attrPath source) ↔ ∀ file, source = some file → Finite file) ∧
    (Halts (getHwInfoAttr hwPath source) ↔ ∀ file, source = some file → FiniteLine file) := by
  refine ⟨pdtreeLoad_halts_iff reader filePath source, loadConfig_halts_iff reader source,
    storeLoad_halts_iff C source store, ?_, ?_⟩
  · cases source with
    | none => exact iff_of_true ⟨0, _, rfl⟩ nofun
    | some file => simp [readAttr_halts_iff]
  · cases source with
    | none => exact iff_of_true ⟨0, _, rfl⟩ nofun
    | some file => simp [getHwInfoAttr_halts_iff]

section Samples

def sampleReader : JsonReader where
  Parser := Unit
  start := ()
  write _ _ := ()
  failed _ := false
  finish _ := some .null
  wrongKind := .runtimeError "not_object"
  missingKey := .runtimeError "out_of_range"

-- A device tree file that cannot be opened, and a sensor whose attribute fails to be read.
theorem reading_hangs :
    ¬Halts (pdtreeLoad sampleReader "/etc/pdtree.json" none) ∧
      ¬Halts (readAttr "/sys/bus/w1/devices/28-0/temperature" (some fun _ => .failure)) := by
  constructor
  · rw [pdtreeLoad_halts_iff]
    rintro ⟨file, hfile, -⟩
    cases hfile
  · rw [readAttr_halts_iff]
    rintro ⟨last, hend, -⟩
    cases hend

end Samples

end HhctrlMgmt.Platform.Reading
