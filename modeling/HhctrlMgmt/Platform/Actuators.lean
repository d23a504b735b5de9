import HhctrlMgmt.Adapter.Board
import HhctrlMgmt.Adapter.Hatch
import HhctrlMgmt.Adapter.Obeys
import HhctrlMgmt.Platform.Attributes

namespace HhctrlMgmt.Platform

open Adapter Common Coroutine Device Mqtt

-- The attributes of a device, and what it has been told through them, in its order.
structure Sysfs where
  files : Files
  written : List (Bytes × Bytes)

namespace Sysfs

variable {path : Bytes} {sysfs : Sysfs}

-- The loop of read_attr ends within this many rounds.
def readAttr (path : Bytes) (sysfs : Sysfs) : Except Exn Bytes :=
  let content := sysfs.files.content path
  (Reading.readAttr (text path) (content.map Reading.fileOf) ((content.getD []).length + 2)).getD (.ok [])

def writeAttr (path value : Bytes) (sysfs : Sysfs) : Except Exn Sysfs :=
  if sysfs.files.writable path then .ok { sysfs with written := sysfs.written ++ [(path, value)] }
  else .error (.runtimeError ("Attribute does not exist. Path: " ++ text path))

theorem readAttr_some {content : Bytes} (h : sysfs.files.content path = some content) :
    ∃ word, sysfs.readAttr path = .ok word ∧ Reading.LastWord [] content word := by
  obtain ⟨word, hread, hword⟩ := Reading.readAttr_lastWord (text path) content (content.length + 2) le_rfl
  refine ⟨word, ?_, hword⟩
  simp only [readAttr, h, Option.map_some, Option.getD_some, hread]

theorem readAttr_none (h : sysfs.files.content path = none) :
    sysfs.readAttr path = .error (.runtimeError ("Attribute does not exist. Path: " ++ text path)) := by
  simp only [readAttr, h, Option.map_none]
  rfl

theorem writeAttr_ok_iff {value : Bytes} {after : Sysfs} : sysfs.writeAttr path value = .ok after ↔
    sysfs.files.writable path = true ∧ after = { sysfs with written := sysfs.written ++ [(path, value)] } := by
  unfold writeAttr
  split_ifs with hwritable
  · rw [Except.ok.injEq, and_iff_right hwritable]
    exact eq_comm
  · exact iff_of_false (fun h => by cases h) fun h => hwritable h.1

end Sysfs

namespace SysfsHatch

def statusMapping : StaticMap HatchState Bytes :=
  ⟨[(.open, ascii "open"), (.closed, ascii "closed"), (.changingPosition, ascii "changing_position"),
    (.faulty, ascii "faulty"), (.undefined, ascii "undefined")]⟩

variable (hatch : SysfsHatch)

def changePosition : Bytes := joinPath hatch.sysfsdir (ascii "change_position")

def statusPath : Bytes := joinPath hatch.sysfsdir (ascii "status")

def «open» (sysfs : Sysfs) : Except Exn Sysfs := sysfs.writeAttr hatch.changePosition (ascii "open")

def close (sysfs : Sysfs) : Except Exn Sysfs := sysfs.writeAttr hatch.changePosition (ascii "close")

-- The text is looked up as a C string.
def status (sysfs : Sysfs) : Except Exn HatchState := do
  let attrVal ← sysfs.readAttr hatch.statusPath
  statusMapping.atValue (cStr attrVal)

-- The status is that of the last word of the attribute, up to its first NUL.
theorem status_ok_iff (sysfs : Sysfs) (state : HatchState) : hatch.status sysfs = .ok state ↔
    ∃ content word, sysfs.files.content hatch.statusPath = some content ∧ Reading.LastWord [] content word ∧
      (state, cStr word) ∈ statusMapping.data := by
  have hmapping (value : Bytes) : statusMapping.atValue value = .ok state ↔ (state, value) ∈ statusMapping.data :=
    StaticMap.atValue_ok_iff statusMapping (by decide) state value
  unfold status
  cases hcontent : sysfs.files.content hatch.statusPath with
  | none =>
      rw [Sysfs.readAttr_none hcontent]
      refine iff_of_false (fun h => by cases h) ?_
      rintro ⟨content, word, hsome, -⟩
      cases hsome
  | some content =>
      obtain ⟨word, hread, hword⟩ := Sysfs.readAttr_some hcontent
      rw [hread]
      refine (hmapping (cStr word)).trans ⟨fun hmem => ⟨content, word, rfl, hword, hmem⟩, ?_⟩
      rintro ⟨other, last, hother, hlast, hmem⟩
      obtain rfl := Option.some.inj hother
      rw [hword.eq, ← hlast.eq]
      exact hmem

end SysfsHatch

section Hatch

variable (identity : DeviceIdentity) (hatch : SysfsHatch)

-- The members of the Hatch adapter over its device. The status is only read to be logged.
def hatchImpl : Impl CoverCommand CoverState Sysfs where
  config _ := Hatch.config identity
  state := some fun sysfs => (hatch.status sysfs).map Hatch.state
  handleRecvValue
    | .switch cmd, sysfs => do
      let _ ← hatch.status sysfs
      match cmd with
      | .open => hatch.open sysfs
      | .close => hatch.close sysfs
      | .stop => return sysfs

-- What the hatch is told for a command.
def positionOf : CoverCommand → List (Bytes × Bytes)
  | .switch .open => [(hatch.changePosition, ascii "open")]
  | .switch .close => [(hatch.changePosition, ascii "close")]
  | .switch .stop => []

-- The command is carried out where the status is known and the position can be written.
theorem hatchImpl_ok_iff (cmd : CoverSwitchCommand) (sysfs after : Sysfs) :
    (hatchImpl identity hatch).handleRecvValue (.switch cmd) sysfs = .ok after ↔
      (∃ state, hatch.status sysfs = .ok state) ∧ (cmd = .stop ∨ sysfs.files.writable hatch.changePosition = true) ∧
        after = { sysfs with written := sysfs.written ++ positionOf hatch (.switch cmd) } := by
  unfold hatchImpl
  cases hstatus : hatch.status sysfs with
  | error thrown =>
      simp only [hstatus]
      refine iff_of_false (fun h => by cases h) ?_
      rintro ⟨⟨state, hstate⟩, -⟩
      cases hstate
  | ok state =>
      have hknown : ∃ state', (Except.ok state : Except Exn HatchState) = .ok state' := ⟨state, rfl⟩
      rw [and_iff_right hknown]
      cases cmd with
      | «open» =>
          simp only [hstatus, reduceCtorEq, false_or]
          exact Sysfs.writeAttr_ok_iff
      | close =>
          simp only [hstatus, reduceCtorEq, false_or]
          exact Sysfs.writeAttr_ok_iff
      | stop =>
          simp only [hstatus, true_or, true_and, positionOf, List.append_nil]
          exact ⟨fun h => (Except.ok.inj h).symm, fun h => congrArg Except.ok h.symm⟩

section KeepsRunning

variable (arrivals : Arrivals) (entity : Entity) (files : Files)

-- While its files stay as they are, a hatch handles every command that arrives exactly when
-- the status is known and the position can be written, as far as the commands need it.
theorem hatch_handles_iff :
    Handles arrivals (⟨files, []⟩ : Sysfs) (Brings entity) (hatchImpl identity hatch) ↔
      ∀ packet cmd, Arrives arrivals packet → Brings entity packet (.switch cmd) →
        (∃ state, hatch.status ⟨files, []⟩ = .ok state) ∧
          (cmd = .stop ∨ files.writable hatch.changePosition = true) := by
  have hfiles {n : Nat} {before : Sysfs}
      (h : Becomes arrivals (⟨files, []⟩ : Sysfs) (Brings entity) (hatchImpl identity hatch) n before) :
      before.files = files := by
    induction h with
    | start => rfl
    | idle _ _ _ _ ih => exact ih
    | handled _ command after _ _ _ hafter ih =>
        obtain ⟨cmd⟩ := command
        rw [((hatchImpl_ok_iff identity hatch cmd _ after).mp hafter).2.2]
        exact ih
  constructor
  · rintro hhandles packet cmd ⟨n, hpacket, hbefore⟩ hbrings
    obtain ⟨before, hbecomes⟩ := hhandles.becomes n hbefore
    obtain ⟨after, hafter⟩ := hhandles n before packet _ hbecomes hpacket hbrings
    obtain ⟨hstatus, hposition, -⟩ := (hatchImpl_ok_iff identity hatch cmd before after).mp hafter
    obtain ⟨held, written⟩ := before
    obtain rfl : held = files := hfiles hbecomes
    exact ⟨hstatus, hposition⟩
  · rintro h n ⟨held, written⟩ packet ⟨cmd⟩ hbecomes hpacket hbrings
    obtain rfl : held = files := hfiles hbecomes
    obtain ⟨hstatus, hposition⟩ := h packet cmd ⟨n, hpacket, hbecomes.arrived⟩ hbrings
    exact ⟨_, (hatchImpl_ok_iff identity hatch cmd ⟨held, written⟩ _).mpr ⟨hstatus, hposition, rfl⟩⟩

theorem hatch_keepsRunning_iff (P : Platform) (fuel : Nat) (hconnected : entity.client.connected = true) :
    KeepsRunning arrivals entity (⟨files, []⟩ : Sysfs)
        (EntityAdapter.asyncRun (coverOperations P (fuel + 1) (hatchImpl identity hatch))) ↔
      (∀ packet, Arrives arrivals packet → ¬Malformed entity packet) ∧
        ∀ packet cmd, Arrives arrivals packet → Brings entity packet (.switch cmd) →
          (∃ state, hatch.status ⟨files, []⟩ = .ok state) ∧
            (cmd = .stop ∨ files.writable hatch.changePosition = true) := by
  rw [keepsRunning_cover_iff arrivals entity _ P fuel _ hconnected, hatch_handles_iff]

end KeepsRunning

theorem hatchImpl_acts : Acts .cover (hatchImpl identity hatch) Sysfs.written (positionOf hatch) := by
  rintro ⟨cmd⟩ sysfs after hafter
  rw [((hatchImpl_ok_iff identity hatch cmd sysfs after).mp hafter).2.2]

-- A packet that tells the hatch to move.
def Moves (entity : Entity) (packet : PublishPacket) : Prop :=
  packet.topic = entity.topic CoverConfig.Default.switchCommandTopic ∧
    (packet.payload = ascii "open" ∨ packet.payload = ascii "close")

instance (entity : Entity) (packet : PublishPacket) : Decidable (Moves entity packet) :=
  inferInstanceAs (Decidable (_ ∧ _))

-- What the hatch is told for these packets: their payloads, in their order.
def positions (entity : Entity) (received : List PublishPacket) : List (Bytes × Bytes) :=
  (received.filter fun packet => Moves entity packet).map fun packet => (hatch.changePosition, packet.payload)

theorem switch_of_commandOf {entity : Entity} {packet : PublishPacket} {cmd : CoverSwitchCommand}
    (h : EntityKind.cover.commandOf entity packet = .ok (some (.switch cmd))) :
    packet.topic = entity.topic CoverConfig.Default.switchCommandTopic ∧
      coverSwitchCommandMapper.mapKey cmd = .ok packet.payload := by
  exact (mapCommand_some_iff entity packet (.switch cmd)).mp h

theorem malformed_of_commandOf {entity : Entity} {packet : PublishPacket} {thrown : Exn}
    (h : EntityKind.cover.commandOf entity packet = .error thrown) : Malformed entity packet := by
  rcases mapCommand_cases entity packet with ⟨hmalformed, -⟩ | ⟨-, result, hmap, -⟩
  · exact hmalformed
  · cases hmap.symm.trans h

theorem moves_of_switch {entity : Entity} {packet : PublishPacket} {cmd : CoverSwitchCommand}
    (h : EntityKind.cover.commandOf entity packet = .ok (some (.switch cmd))) : Moves entity packet ↔ cmd ≠ .stop := by
  obtain ⟨htopic, hkey⟩ := switch_of_commandOf h
  unfold Moves
  rw [and_iff_right htopic]
  cases cmd with
  | «open» | close | stop =>
      rw [← Except.ok.inj hkey]
      decide

theorem asked_position (entity : Entity) (packet : PublishPacket) :
    asked .cover entity (positionOf hatch) packet =
      if Moves entity packet then [(hatch.changePosition, packet.payload)] else [] := by
  cases hcommand : EntityKind.cover.commandOf entity packet with
  | error thrown =>
      have hstill : ¬Moves entity packet := by
        have hmalformed := malformed_of_commandOf hcommand
        rintro ⟨-, hopen | hclose⟩
        · exact hmalformed.2 .open (congrArg Except.ok hopen.symm)
        · exact hmalformed.2 .close (congrArg Except.ok hclose.symm)
      simp only [asked, hcommand, if_neg hstill]
  | ok command =>
      cases command with
      | none =>
          have hstill : ¬Moves entity packet := fun h => (mapCommand_ok_none_iff entity packet).mp hcommand h.1
          rw [asked_none hcommand, if_neg hstill]
      | some command =>
          obtain ⟨cmd⟩ := command
          have hkey := (switch_of_commandOf hcommand).2
          rw [asked_some hcommand]
          cases cmd with
          | «open» =>
              rw [if_pos ((moves_of_switch hcommand).mpr (by decide)), ← Except.ok.inj hkey]
              rfl
          | close =>
              rw [if_pos ((moves_of_switch hcommand).mpr (by decide)), ← Except.ok.inj hkey]
              rfl
          | stop =>
              rw [if_neg fun hmoves => (moves_of_switch hcommand).mp hmoves rfl]
              rfl

theorem flatMap_asked_position (entity : Entity) (received : List PublishPacket) :
    received.flatMap (asked .cover entity (positionOf hatch)) = positions hatch entity received := by
  unfold positions
  induction received with
  | nil => rfl
  | cons packet received ih =>
      rw [List.flatMap_cons, asked_position, ih]
      by_cases hmoves : Moves entity packet
      · simp only [List.filter_cons, hmoves, decide_true, if_true, List.map_cons, List.singleton_append]
      · simp only [List.filter_cons, hmoves, decide_false, Bool.false_eq_true, if_false, List.nil_append]

-- Other programs and the hatch itself change the files.
def FilesChange (before after : Sysfs) : Prop :=
  after.written = before.written

def sampleHatch : SysfsHatch := ⟨ascii "/hatch"⟩

def sampleFiles : Files where
  pathExists _ := true
  content path := if path = sampleHatch.statusPath then some (ascii "closed\n") else none
  writable path := path = sampleHatch.changePosition

def sampleImpl : Impl CoverCommand CoverState Sysfs := hatchImpl ⟨[], [], [], [], []⟩ sampleHatch

def openPacket : PublishPacket := ⟨1, ascii "cover_1/set", ascii "open", ⟨.atLeastOnce, false⟩⟩

-- Whatever its coroutines do, in any order and on any connection, a hatch is only moved
-- by a command: each write is one that a packet has asked for, in the order of the packets.
theorem hatch_moved_by_commands (P : Platform) (entity : Entity) (files : Files)
    (allowed : (query : Query) → Answer query → Prop) {pool : Pool ((inbox allowed).world (Entity × Sysfs)) Unit}
    (hreach : Pool.Reach (kindArena .cover (hatchImpl identity hatch) P FilesChange allowed)
      ⟨([], entity, ⟨files, []⟩), []⟩ pool) :
    pool.point.2.2.written.Sublist (positions hatch entity pool.point.1) := by
  have hdone := done_sublist P (hatchImpl_acts identity hatch) (fun _ _ hchange => hchange) rfl hreach
  rw [flatMap_asked_position] at hdone
  exact hdone

theorem hatch_moved_by_commands_sample : ∃ pool : Pool ((inbox undisturbed).world (Entity × Sysfs)) Unit,
    Pool.Reach (kindArena .cover sampleImpl samplePlatform FilesChange undisturbed)
      ⟨([], sampleEntity, ⟨sampleFiles, []⟩), []⟩ pool ∧
      pool.point.2.2.written = [(ascii "/hatch/change_position", ascii "open")] ∧
      pool.point.2.2.written.Sublist (positions sampleHatch sampleEntity pool.point.1) := by
  have hallow : undisturbed Query.recv (Except.ok (Packet.publish openPacket)) := ⟨_, rfl⟩
  have hreach := Relation.ReflTransGen.head
    (Pool.Step.spawn (A := kindArena .cover sampleImpl samplePlatform FilesChange undisturbed)
      ⟨([], sampleEntity, ⟨sampleFiles, []⟩), []⟩ _ _ (.run _ 1 2))
    (.single (.resume _ 0 Query.recv _ (Except.ok (Packet.publish openPacket)) rfl hallow))
  exact ⟨_, hreach, by decide,
    hatch_moved_by_commands _ sampleHatch samplePlatform sampleEntity sampleFiles undisturbed hreach⟩

-- The same within some states of the files.
def FilesWithin (held : Files → Prop) (before after : Sysfs) : Prop :=
  after.written = before.written ∧ held after.files

variable (held : Files → Prop)

-- What ends the run loop of a hatch.
inductive Stuck (entity : Entity) (packet : PublishPacket) : Prop
  | malformed (h : Malformed entity packet)
  | status (sysfs : Sysfs) (hheld : held sysfs.files) (hstatus : ∀ state, hatch.status sysfs ≠ .ok state)
      (htopic : packet.topic = entity.topic CoverConfig.Default.switchCommandTopic)
  | position (sysfs : Sysfs) (hheld : held sysfs.files) (hposition : sysfs.files.writable hatch.changePosition = false)
      (h : Moves entity packet)

variable {held}

theorem hatchImpl_keeps (cmd : CoverCommand) (sysfs after : Sysfs) (hheld : held sysfs.files)
    (hafter : (hatchImpl identity hatch).handleRecvValue cmd sysfs = .ok after) : held after.files := by
  obtain ⟨cmd⟩ := cmd
  rw [((hatchImpl_ok_iff identity hatch cmd sysfs after).mp hafter).2.2]
  exact hheld

theorem stuck_of_endedBy {entity : Entity} {thrown : Exn} {point : List PublishPacket × Entity × Sysfs}
    (h : EndedBy .cover (hatchImpl identity hatch) entity Sysfs.written (positionOf hatch)
      (fun sysfs => held sysfs.files) thrown point) :
    ∃ received packet, point.1 = received ++ [packet] ∧ point.2.2.written = positions hatch entity received ∧
      Stuck hatch held entity packet := by
  obtain ⟨received, packet, hreceived, hwritten, hended⟩ := h
  rw [flatMap_asked_position] at hwritten
  refine ⟨received, packet, hreceived, hwritten, ?_⟩
  rcases hended with hrefused | ⟨⟨cmd⟩, sysfs, hheld, hcommand, hfailed⟩
  · exact .malformed (malformed_of_commandOf hrefused)
  · by_cases hstatus : ∃ state, hatch.status sysfs = .ok state
    · have hposition : ¬(cmd = .stop ∨ sysfs.files.writable hatch.changePosition = true) := by
        intro hable
        have hok := (hatchImpl_ok_iff identity hatch cmd sysfs _).mpr ⟨hstatus, hable, rfl⟩
        cases hok.symm.trans hfailed
      rw [not_or, Bool.not_eq_true] at hposition
      exact .position sysfs hheld hposition.2 ((moves_of_switch hcommand).mpr hposition.1)
    · exact .status sysfs hheld (not_exists.mp hstatus) (switch_of_commandOf hcommand).1

-- While the connection reports no error, what is written is exactly what has been asked
-- for, whatever the files hold meanwhile; only a packet that cannot be obeyed in one of the
-- states of the files ends the run loop, and nothing is written for it.
theorem hatch_obeys (P : Platform) (entity : Entity) (hconnected : entity.client.connected = true)
    (held : Files → Prop) (files : Files) (hfiles : held files) (fuel rounds : Nat)
    {pool : Pool ((inbox undisturbed).world (Entity × Sysfs)) Unit}
    (hreach : Pool.Reach (aloneArena (FilesWithin held))
      (startAlone .cover (hatchImpl identity hatch) entity P fuel rounds ⟨files, []⟩) pool) :
    ∃ last, pool.tasks = [last] ∧
      (last.Unfinished ∧ pool.point.2.2.written = positions hatch entity pool.point.1 ∨
        ∃ thrown received packet, last = .throw thrown ∧ pool.point.1 = received ++ [packet] ∧
          pool.point.2.2.written = positions hatch entity received ∧ Stuck hatch held entity packet) := by
  have hrun := done_exactly (fun sysfs : Sysfs => held sysfs.files) P (hatchImpl_acts identity hatch)
    (hatchImpl_keeps identity hatch) (fun _ _ hchange => hchange) rfl hfiles hconnected fuel rounds hreach
  obtain ⟨last, htasks, hlast⟩ := hrun
  refine ⟨last, htasks, ?_⟩
  rcases hlast with ⟨hunfinished, hwritten⟩ | ⟨thrown, hthrow, hended⟩
  · rw [flatMap_asked_position] at hwritten
    exact .inl ⟨hunfinished, hwritten⟩
  · obtain ⟨received, packet, hreceived, hwritten, hstuck⟩ := stuck_of_endedBy identity hatch hended
    exact .inr ⟨thrown, received, packet, hthrow, hreceived, hwritten, hstuck⟩

-- The hatch is opened; a packet that names no command ends the run loop.
theorem hatch_obeys_sample : ∃ pool : Pool ((inbox undisturbed).world (Entity × Sysfs)) Unit,
    Pool.Reach (aloneArena (FilesWithin (· = sampleFiles)))
      (startAlone .cover sampleImpl sampleEntity samplePlatform 1 3 ⟨sampleFiles, []⟩) pool ∧
      pool.point.1 = [openPacket, { openPacket with payload := ascii "OPEN" }] ∧
      pool.point.2.2.written = [(ascii "/hatch/change_position", ascii "open")] ∧
      ∃ last, pool.tasks = [last] ∧
        (last.Unfinished ∧ pool.point.2.2.written = positions sampleHatch sampleEntity pool.point.1 ∨
          ∃ thrown received packet, last = .throw thrown ∧ pool.point.1 = received ++ [packet] ∧
            pool.point.2.2.written = positions sampleHatch sampleEntity received ∧
            Stuck sampleHatch (· = sampleFiles) sampleEntity packet) := by
  have hallow (packet : PublishPacket) : undisturbed Query.recv (Except.ok (Packet.publish packet)) := ⟨_, rfl⟩
  have hreach := Relation.ReflTransGen.head
    (Pool.Step.resume (A := aloneArena (FilesWithin (· = sampleFiles)))
      (startAlone .cover sampleImpl sampleEntity samplePlatform 1 3 ⟨sampleFiles, []⟩) 0 Query.recv _ _ rfl
      (hallow openPacket))
    (.single (.resume _ 0 Query.recv _ _ rfl (hallow { openPacket with payload := ascii "OPEN" })))
  exact ⟨_, hreach, rfl, by decide,
    hatch_obeys _ sampleHatch samplePlatform sampleEntity rfl (· = sampleFiles) sampleFiles rfl 1 3 hreach⟩

end Hatch

section RestartButton

-- What MainBoard::restart asks of the kernel. If it comes back from the reboot, that has
-- failed, and the program runs on.
inductive SystemCall where
  | sync
  | reboot
deriving DecidableEq, Repr

-- The main boards, and what they have asked of the kernel, in its order.
structure Boards where
  inventory : DeviceInventory MainBoard
  called : List SystemCall

def MainBoard.restart (_ : MainBoard) (boards : Boards) : Boards :=
  { boards with called := boards.called ++ [.sync, .reboot] }

variable (deviceId : DeviceId) (identity : DeviceIdentity)

-- The members of RestartButton over the boards.
def restartImpl : Impl ButtonCommand Empty Boards where
  config _ := Board.RestartButton.config ⟨deviceId, identity⟩
  state := none
  handleRecvValue
    | .press, boards => do
      let device ← boards.inventory.get deviceId
      return device.restart boards

def restartCalls : ButtonCommand → List SystemCall
  | .press => [.sync, .reboot]

theorem restartImpl_ok_iff (boards after : Boards) :
    (restartImpl deviceId identity).handleRecvValue .press boards = .ok after ↔
      boards.inventory.deviceExists deviceId = true ∧
        after = { boards with called := boards.called ++ restartCalls .press } := by
  unfold restartImpl DeviceInventory.get DeviceInventory.deviceExists
  cases hdevice : boards.inventory.devices deviceId with
  | none =>
      simp only [hdevice]
      exact iff_of_false (fun h => by cases h) fun h => by cases h.1
  | some device =>
      simp only [hdevice, Option.isSome_some, true_and]
      exact ⟨fun h => (Except.ok.inj h).symm, fun h => congrArg Except.ok h.symm⟩

theorem restartImpl_acts : Acts .button (restartImpl deviceId identity) Boards.called restartCalls := by
  rintro ⟨⟩ boards after hafter
  rw [((restartImpl_ok_iff deviceId identity boards after).mp hafter).2]

-- A button does not look at the topic.
def Presses (packet : PublishPacket) : Prop :=
  packet.payload = ascii "press"

instance (packet : PublishPacket) : Decidable (Presses packet) :=
  inferInstanceAs (Decidable (_ = _))

def restarts (received : List PublishPacket) : List SystemCall :=
  (received.filter fun packet => Presses packet).flatMap fun _ => [.sync, .reboot]

theorem asked_restart (entity : Entity) (packet : PublishPacket) :
    asked .button entity restartCalls packet = if Presses packet then [.sync, .reboot] else [] := by
  unfold asked EntityKind.commandOf
  by_cases hpresses : Presses packet
  · have hpayload : packet.payload = ButtonConfig.Default.payloadPress := hpresses
    simp only [if_pos hpresses, if_pos hpayload, restartCalls]
  · have hpayload : packet.payload ≠ ButtonConfig.Default.payloadPress := hpresses
    simp only [if_neg hpresses, if_neg hpayload]

theorem flatMap_asked_restart (entity : Entity) (received : List PublishPacket) :
    received.flatMap (asked .button entity restartCalls) = restarts received := by
  unfold restarts
  induction received with
  | nil => rfl
  | cons packet received ih =>
      rw [List.flatMap_cons, asked_restart, ih]
      by_cases hpresses : Presses packet
      · simp only [List.filter_cons, hpresses, decide_true, if_true, List.flatMap_cons]
      · simp only [List.filter_cons, hpresses, decide_false, Bool.false_eq_true, if_false, List.nil_append]

-- Devices come and go.
def BoardsChange (before after : Boards) : Prop :=
  after.called = before.called

def sampleInventory : DeviceInventory MainBoard := ⟨fun deviceId => if deviceId = 1 then some ⟨[]⟩ else none⟩

def sampleRestart : Impl ButtonCommand Empty Boards := restartImpl 1 ⟨[], [], [], [], []⟩

def buttonEntity : Entity :=
  Button.create (ascii "1_restart_btn") (AsyncMqttClient.create {}).setConnected

def pressPacket : PublishPacket := ⟨1, ascii "button_1_restart_btn/set", ascii "press", ⟨.atLeastOnce, false⟩⟩

-- Only a press of the button restarts the board, and no press does so twice.
theorem board_restarted_by_presses (P : Platform) (entity : Entity) (inventory : DeviceInventory MainBoard)
    (allowed : (query : Query) → Answer query → Prop) {pool : Pool ((inbox allowed).world (Entity × Boards)) Unit}
    (hreach : Pool.Reach (kindArena .button (restartImpl deviceId identity) P BoardsChange allowed)
      ⟨([], entity, ⟨inventory, []⟩), []⟩ pool) :
    pool.point.2.2.called.Sublist (restarts pool.point.1) := by
  have hdone := done_sublist P (restartImpl_acts deviceId identity) (fun _ _ hchange => hchange) rfl hreach
  rw [flatMap_asked_restart] at hdone
  exact hdone

theorem board_restarted_by_presses_sample : ∃ pool : Pool ((inbox undisturbed).world (Entity × Boards)) Unit,
    Pool.Reach (kindArena .button sampleRestart samplePlatform BoardsChange undisturbed)
      ⟨([], buttonEntity, ⟨sampleInventory, []⟩), []⟩ pool ∧
      pool.point.2.2.called = [.sync, .reboot] ∧ pool.point.2.2.called.Sublist (restarts pool.point.1) := by
  have hallow : undisturbed Query.recv (Except.ok (Packet.publish pressPacket)) := ⟨_, rfl⟩
  have hreach := Relation.ReflTransGen.head
    (Pool.Step.spawn (A := kindArena .button sampleRestart samplePlatform BoardsChange undisturbed)
      ⟨([], buttonEntity, ⟨sampleInventory, []⟩), []⟩ _ _ (.run _ 1 2))
    (.single (.resume _ 0 Query.recv _ (Except.ok (Packet.publish pressPacket)) rfl hallow))
  exact ⟨_, hreach, by decide,
    board_restarted_by_presses 1 _ samplePlatform buttonEntity sampleInventory undisturbed hreach⟩

-- The board itself stays.
def BoardStays (before after : Boards) : Prop :=
  after.called = before.called ∧ after.inventory.deviceExists deviceId = true

-- While the connection reports no error, every press restarts the board, and no packet
-- whatever ends the run loop.
theorem board_restarts (P : Platform) (entity : Entity) (hconnected : entity.client.connected = true)
    (inventory : DeviceInventory MainBoard) (hboard : inventory.deviceExists deviceId = true) (fuel rounds : Nat)
    {pool : Pool ((inbox undisturbed).world (Entity × Boards)) Unit}
    (hreach : Pool.Reach (aloneArena (BoardStays deviceId))
      (startAlone .button (restartImpl deviceId identity) entity P fuel rounds ⟨inventory, []⟩) pool) :
    ∃ last, pool.tasks = [last] ∧ last.Unfinished ∧ pool.point.2.2.called = restarts pool.point.1 := by
  have hkeeps (command : ButtonCommand) (boards after : Boards)
      (hheld : boards.inventory.deviceExists deviceId = true)
      (hafter : (restartImpl deviceId identity).handleRecvValue command boards = .ok after) :
      after.inventory.deviceExists deviceId = true := by
    obtain ⟨⟩ := command
    rw [((restartImpl_ok_iff deviceId identity boards after).mp hafter).2]
    exact hheld
  have hrun := done_exactly (fun boards : Boards => boards.inventory.deviceExists deviceId = true) P
    (restartImpl_acts deviceId identity) hkeeps (fun _ _ hchange => hchange) rfl hboard hconnected fuel rounds hreach
  obtain ⟨last, htasks, hlast⟩ := hrun
  refine ⟨last, htasks, ?_⟩
  rcases hlast with ⟨hunfinished, hcalled⟩ | ⟨thrown, -, received, packet, -, -, hended⟩
  · rw [flatMap_asked_restart] at hcalled
    exact ⟨hunfinished, hcalled⟩
  · rcases hended with hrefused | ⟨⟨⟩, boards, hheld, -, hfailed⟩
    · cases hrefused
    · have hok := (restartImpl_ok_iff deviceId identity boards _).mpr ⟨hheld, rfl⟩
      cases hok.symm.trans hfailed

theorem board_restarts_sample : ∃ pool : Pool ((inbox undisturbed).world (Entity × Boards)) Unit,
    Pool.Reach (aloneArena (BoardStays 1))
      (startAlone .button sampleRestart buttonEntity samplePlatform 1 3 ⟨sampleInventory, []⟩) pool ∧
      pool.point.1 = [pressPacket, { pressPacket with payload := ascii "PRESS" }] ∧
      ∃ last, pool.tasks = [last] ∧ last.Unfinished ∧ pool.point.2.2.called = restarts pool.point.1 := by
  have hallow (packet : PublishPacket) : undisturbed Query.recv (Except.ok (Packet.publish packet)) := ⟨_, rfl⟩
  have hreach := Relation.ReflTransGen.head
    (Pool.Step.resume (A := aloneArena (BoardStays 1))
      (startAlone .button sampleRestart buttonEntity samplePlatform 1 3 ⟨sampleInventory, []⟩) 0 Query.recv _ _ rfl
      (hallow pressPacket))
    (.single (.resume _ 0 Query.recv _ _ rfl (hallow { pressPacket with payload := ascii "PRESS" })))
  exact ⟨_, hreach, rfl, board_restarts 1 _ samplePlatform buttonEntity rfl sampleInventory (by decide) 1 3 hreach⟩

end RestartButton

end HhctrlMgmt.Platform
