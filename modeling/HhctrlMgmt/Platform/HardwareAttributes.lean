import HhctrlMgmt.Adapter.Identities
import HhctrlMgmt.Platform.Reading

namespace HhctrlMgmt.Platform

open Adapter Common Device FileStream

-- The bytes of a hardware attribute: those before the first newline, NUL or end of the file.
def firstLine (content : Bytes) : Bytes :=
  content.takeWhile fun byte => byte ≠ 10 ∧ byte ≠ 0

-- The file does not end within its first line.
def Terminated (content : Bytes) : Prop :=
  10 ∈ content ∨ 0 ∈ content

instance (content : Bytes) : Decidable (Terminated content) :=
  inferInstanceAs (Decidable (10 ∈ content ∨ 0 ∈ content))

theorem terminated_cons (byte : UInt8) (rest : Bytes) :
    Terminated (byte :: rest) ↔ (byte = 10 ∨ byte = 0) ∨ Terminated rest := by
  unfold Terminated
  rw [List.mem_cons, List.mem_cons, eq_comm, eq_comm (a := 0)]
  tauto

theorem mem_of_mem_firstLine {content : Bytes} {byte : UInt8} (hbyte : byte ∈ firstLine content) : byte ∈ content :=
  (List.takeWhile_prefix _).subset hbyte

-- What comes after the line: the EOF that the loop has appended.
def endOfLine (content : Bytes) : Bytes :=
  if Terminated content then [] else [255]

theorem hwInfoValue_eq (content : Bytes) : MainBoard.hwInfoValue content = firstLine content ++ endOfLine content := by
  unfold firstLine endOfLine
  induction content with
  | nil => rfl
  | cons byte rest ih =>
      unfold MainBoard.hwInfoValue
      by_cases hstop : byte = 10 ∨ byte = 0
      · have hterminated : Terminated (byte :: rest) := (terminated_cons byte rest).mpr (Or.inl hstop)
        have hline : ¬decide (byte ≠ 10 ∧ byte ≠ 0) = true := by
          rw [decide_eq_true_iff]
          exact fun h => hstop.elim h.1 h.2
        rw [if_pos hstop, if_pos hterminated, List.takeWhile_cons, if_neg hline]
        rfl
      · have hrest : Terminated (byte :: rest) ↔ Terminated rest :=
          (terminated_cons byte rest).trans (or_iff_right hstop)
        have hline : decide (byte ≠ 10 ∧ byte ≠ 0) = true := decide_eq_true (not_or.mp hstop)
        rw [if_neg hstop, List.takeWhile_cons, if_pos hline, ih]
        simp only [hrest, List.cons_append]

theorem endOfLine_eq_nil_iff (content : Bytes) : endOfLine content = [] ↔ Terminated content := by
  unfold endOfLine
  split_ifs with hterminated
  · exact iff_of_true rfl hterminated
  · exact iff_of_false nofun hterminated

-- Nothing but the line stands between two texts exactly if the line is terminated.
theorem verbatim_iff (before content after : Bytes) :
    before ++ (MainBoard.hwInfoValue content ++ after) = before ++ (firstLine content ++ after) ↔
      Terminated content := by
  rw [List.append_cancel_left_eq, hwInfoValue_eq, List.append_cancel_right_eq, List.append_right_eq_self,
    endOfLine_eq_nil_iff]

theorem bytes_iff (content : Bytes) :
    (∀ byte ∈ MainBoard.hwInfoValue content, byte ∈ content) ↔ Terminated content ∨ 255 ∈ content := by
  rw [hwInfoValue_eq]
  constructor
  · intro hbytes
    by_cases hterminated : Terminated content
    · exact Or.inl hterminated
    · right
      apply hbytes 255
      rw [endOfLine, if_neg hterminated]
      exact List.mem_append_right _ List.mem_cons_self
  · intro h byte hbyte
    rcases List.mem_append.mp hbyte with hline | hend
    · exact mem_of_mem_firstLine hline
    · unfold endOfLine at hend
      split_ifs at hend with hterminated
      · exact absurd hend List.not_mem_nil
      · rw [List.mem_singleton.mp hend]
        exact h.resolve_left hterminated

section Identity

variable (machine : Machine) (process : Process) {name serial : Bytes}

-- The two files are looked at one after the other.
theorem hardwareIdentity_eq (hname : (machine.files process.clock).content (ascii "/etc/hw-name") = some name)
    (hserial : (machine.files (process.clock + 1)).content (ascii "/etc/hw-serial") = some serial) :
    MainBoard.hardwareIdentity machine process =
      .ok ⟨ascii "BHome", MainBoard.hwInfoValue name, ascii "R1", MainBoard.hwInfoValue serial⟩
        { process with clock := process.clock + 2 } := by
  have hgot (path content : Bytes) (process : Process)
      (hcontent : (machine.files process.clock).content path = some content) :
      MainBoard.getHwInfoAttr machine path process =
        .ok (MainBoard.hwInfoValue content) { process with clock := process.clock + 1 } := by
    have hlook : look machine process =
        .ok (machine.files process.clock) { process with clock := process.clock + 1 } := rfl
    unfold MainBoard.getHwInfoAttr
    show EStateM.bind _ _ process = _
    unfold EStateM.bind
    rw [hlook]
    dsimp only
    rw [hcontent]
    rfl
  unfold MainBoard.hardwareIdentity
  show EStateM.bind _ _ process = _
  unfold EStateM.bind
  rw [hgot _ name process hname]
  show EStateM.bind _ _ { process with clock := process.clock + 1 } = _
  unfold EStateM.bind
  rw [hgot _ serial { process with clock := process.clock + 1 } hserial]
  rfl

-- At the end of a file that ends within its first line, the attribute gets the EOF of get() as
-- one more byte, and with it the serial number, every unique id and every topic.
theorem hardwareAttributes_iff (hname : (machine.files process.clock).content (ascii "/etc/hw-name") = some name)
    (hserial : (machine.files (process.clock + 1)).content (ascii "/etc/hw-serial") = some serial) :
    (∀ path content fuel, content.length + 2 ≤ fuel →
      (Reading.getHwInfoAttr path (some (Reading.fileOf content)) fuel = some (firstLine content) ↔
        Terminated content)) ∧
    ∃ identity after, MainBoard.hardwareIdentity machine process = .ok identity after ∧
      (identity.model = firstLine name ↔ Terminated name) ∧
      (identity.serialNumber = firstLine serial ↔ Terminated serial) ∧
      ((∀ byte ∈ identity.serialNumber, byte ∈ serial) ↔ Terminated serial ∨ 255 ∈ serial) ∧
      ∀ home : Home, home.identity = DeviceIdentityProvider.deviceIdentity identity → ∀ part : home.Part,
        ((home.entity part).uniqueId = firstLine serial ++ (ascii "_" ++ home.suffix part) ↔ Terminated serial) ∧
        ∀ topic : TopicName, (topic.topic (home.entity part) = topic.word (home.entity part).entityName ++
          (firstLine serial ++ ascii "_" ++ (home.suffix part ++ 47 :: topic.level)) ↔ Terminated serial) := by
  have hattr (content : Bytes) : MainBoard.hwInfoValue content = firstLine content ↔ Terminated content := by
    simpa using verbatim_iff [] content []
  refine ⟨fun path content fuel hfuel => ?_, _, _, hardwareIdentity_eq machine process hname hserial, hattr name,
    hattr serial, bytes_iff serial, ?_⟩
  · rw [Reading.getHwInfoAttr_fileOf path content fuel hfuel, Option.some.injEq]
    exact hattr content
  · intro home hidentity part
    have hserialNumber : home.identity.serialNumber = MainBoard.hwInfoValue serial := by
      rw [hidentity]
      rfl
    constructor
    · rw [home.uniqueId_eq, hserialNumber]
      exact verbatim_iff [] serial _
    · intro topic
      rw [home.topic_eq, hserialNumber, List.append_assoc, List.append_assoc]
      exact verbatim_iff _ serial _

-- The name is an empty file, and the serial number ends with a newline.
def labelledMachine : Machine where
  files _ := ⟨fun _ => true, fun path => some (if path = ascii "/etc/hw-serial" then ascii "A1\n" else []),
    fun _ => true⟩
  jsonWhat _ := ""
  growth := DeviceTree.doubling

theorem hardwareAttributes_labelled : ∃ identity after,
    MainBoard.hardwareIdentity labelledMachine .fresh = .ok identity after ∧ identity.serialNumber = ascii "A1" ∧
      identity.model ≠ [] := by
  obtain ⟨-, identity, after, hrun, hmodel, hserial, -⟩ :=
    @hardwareAttributes_iff labelledMachine .fresh [] (ascii "A1\n") rfl rfl
  exact ⟨identity, after, hrun, hserial.mpr (by decide), fun hblank => absurd (hmodel.mp hblank) (by decide)⟩

-- Both attributes are empty files.
def blankMachine : Machine where
  files _ := ⟨fun _ => true, fun _ => some [], fun _ => true⟩
  jsonWhat _ := ""
  growth := DeviceTree.doubling

theorem hardwareAttributes_not_verbatim :
    ¬(∀ path content fuel, content.length + 2 ≤ fuel →
      Reading.getHwInfoAttr path (some (Reading.fileOf content)) fuel = some (firstLine content)) ∧
    ∃ identity after, MainBoard.hardwareIdentity blankMachine .fresh = .ok identity after ∧
      ¬∀ byte ∈ identity.serialNumber, byte ∈ ([] : Bytes) := by
  constructor
  · intro hverbatim
    exact absurd (hverbatim (ascii "/etc/hw-serial") [] 2 (by decide)) (by decide)
  · refine ⟨_, _, rfl, fun hbytes => ?_⟩
    exact List.not_mem_nil (hbytes 255 (List.mem_singleton_self 255))

end Identity

end HhctrlMgmt.Platform
