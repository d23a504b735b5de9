import HhctrlMgmt.Adapter.Presence
import HhctrlMgmt.Platform.Loading
import HhctrlMgmt.Platform.Started

namespace HhctrlMgmt.Platform.Program

open Adapter Common Device Mqtt Reading

section Model

-- What home_assistant_init gives to the clients.
def brokerConfig (config : EntityClientConfig) : BrokerConfig where
  username := config.username
  password := config.password
  host := config.serverAddress
  port := decimal config.serverPort
  keepAliveInterval := config.keepAliveInterval.toNat
  maxReconnectAttempts := config.maxReconnectAttempts
  reconnectDelay := config.reconnectDelay

variable (reader : JsonReader) (machine : Machine)

-- pdtree_load of a file that exists, and what main_board_init makes of it. The loops that
-- read the files end within these many rounds.
def startBoard (path : Bytes) (content : Bytes) : Option (Except Exn Process) := do
  match ← pdtreeLoad reader (text path) (some (fileOf content)) (content.length + 1) with
  | .error thrown => return .error thrown
  | .ok pdtreeContent =>
    match (mainBoardInit machine (some pdtreeContent)).run .fresh with
    | .error thrown _ => return .error thrown
    | .ok () process => return .ok process

-- What main has of its configuration file and of the platform that this names, where it
-- does not throw.
def start (configFile : Bytes) (files : Bytes → Option Bytes) : Option (Except Exn (AppConfig × Process)) := do
  match ← loadConfig reader (some (fileOf configFile)) (configFile.length + 1) with
  | .error thrown => return .error thrown
  | .ok config =>
    match files config.dtreeFile with
    | none => return .error (.runtimeError "Platform device tree file does not exist")
    | some content =>
      match ← startBoard reader machine config.dtreeFile content with
      | .error thrown => return .error thrown
      | .ok process => return .ok (config, process)

end Model

section Configuration

def HasString (object : Object) (key : String) (value : Bytes) : Prop :=
  object.lookup (ascii key) = some (.string value)

-- A number of any kind that is equal to an integer in the range.
def HasInteger (least greatest : Int) (object : Object) (key : String) (value : Int) : Prop :=
  ∃ number, object.lookup (ascii key) = some number ∧ number.toNumber = some value ∧ least ≤ value ∧ value ≤ greatest

structure DescribesClient (object : Object) (config : EntityClientConfig) : Prop where
  username : HasString object "username" config.username
  password : HasString object "password" config.password
  serverAddress : HasString object "server_address" config.serverAddress
  serverPort : HasInteger (-2147483648) 2147483647 object "server_port" config.serverPort
  keepAliveInterval : HasInteger 0 65535 object "keep_alive_interval" config.keepAliveInterval
  maxReconnectAttempts : HasInteger (-2147483648) 2147483647 object "max_reconnect_attempts" config.maxReconnectAttempts
  reconnectDelay : HasInteger (-2147483648) 2147483647 object "reconnect_delay_seconds" config.reconnectDelay

structure Describes (value : Json) (config : AppConfig) : Prop where
  object : ∃ object client : Object, value = .object object ∧ HasString object "log_dir" config.logDir ∧
    HasString object "dtree_file" config.dtreeFile ∧
    object.lookup (ascii "entity_client_config") = some (.object client) ∧
    DescribesClient client config.entityClientConfig

variable (reader : JsonReader) {α : Type} {object : Object} {key : String} {result : α}

theorem bind_ok_iff {β : Type} (first : Except Exn β) (rest : β → Except Exn α) :
    first >>= rest = .ok result ↔ ∃ value, first = .ok value ∧ rest value = .ok result := by
  cases first with
  | error thrown => exact iff_of_false (fun h => by cases h) fun ⟨_, h, _⟩ => by cases h
  | ok value => exact ⟨fun h => ⟨value, rfl, h⟩, fun ⟨_, hvalue, h⟩ => Except.ok.inj hvalue ▸ h⟩

theorem objectAt_ok_iff (value : Json) :
    Reading.objectAt reader object key = .ok value ↔ object.lookup (ascii key) = some value := by
  unfold Reading.objectAt
  cases object.lookup (ascii key) with
  | none => exact iff_of_false (fun h => by cases h) fun h => by cases h
  | some found => exact ⟨fun h => congrArg some (Except.ok.inj h), fun h => congrArg Except.ok (Option.some.inj h)⟩

theorem toBytes_ok_iff (value : Json) (bytes : Bytes) : toBytes reader value = .ok bytes ↔ value = .string bytes := by
  cases value with
  | string other => exact ⟨fun h => congrArg Json.string (Except.ok.inj h), fun h => by cases h; rfl⟩
  | null | boolean _ | int64 _ | uint64 _ | double _ | array _ | object _ =>
      exact iff_of_false (fun h => by cases h) fun h => by cases h

theorem toIntegral_ok_iff (least greatest : Int) (value : Json) (integer : Int) :
    toIntegral reader least greatest value = .ok integer ↔
      value.toNumber = some integer ∧ least ≤ integer ∧ integer ≤ greatest := by
  unfold toIntegral
  cases value.toNumber with
  | none => exact iff_of_false (fun h => by cases h) fun h => by cases h.1
  | some number =>
      dsimp only
      split_ifs with hrange
      · refine ⟨fun h => ?_, fun h => congrArg Except.ok (Option.some.inj h.1)⟩
        obtain rfl := Except.ok.inj h
        exact ⟨rfl, hrange⟩
      · refine iff_of_false (fun h => by cases h) fun h => hrange ?_
        obtain rfl := Option.some.inj h.1
        exact h.2

theorem asObject_ok_iff (value : Json) : Reading.asObject reader value = .ok object ↔ value = .object object := by
  cases value with
  | object other => exact ⟨fun h => congrArg Json.object (Except.ok.inj h), fun h => by cases h; rfl⟩
  | null | boolean _ | int64 _ | uint64 _ | double _ | string _ | array _ =>
      exact iff_of_false (fun h => by cases h) fun h => by cases h

theorem string_iff (rest : Bytes → Except Exn α) :
    (Reading.objectAt reader object key >>= fun value => toBytes reader value >>= rest) = .ok result ↔
      ∃ value, HasString object key value ∧ rest value = .ok result := by
  simp only [bind_ok_iff, objectAt_ok_iff, toBytes_ok_iff, HasString]
  refine ⟨?_, fun ⟨value, hvalue, h⟩ => ⟨.string value, hvalue, value, rfl, h⟩⟩
  rintro ⟨_, hvalue, value, rfl, h⟩
  exact ⟨value, hvalue, h⟩

theorem integer_iff (least greatest : Int) (rest : Int → Except Exn α) :
    (Reading.objectAt reader object key >>= fun value => toIntegral reader least greatest value >>= rest) = .ok result ↔
      ∃ value, HasInteger least greatest object key value ∧ rest value = .ok result := by
  simp only [bind_ok_iff, objectAt_ok_iff, toIntegral_ok_iff]
  refine ⟨?_, fun ⟨value, ⟨number, hnumber, hvalue⟩, h⟩ => ⟨number, hnumber, value, hvalue, h⟩⟩
  rintro ⟨number, hnumber, value, hvalue, h⟩
  exact ⟨value, ⟨number, hnumber, hvalue⟩, h⟩

theorem toEntityClientConfig_ok_iff (value : Json) (config : EntityClientConfig) :
    toEntityClientConfig reader value = .ok config ↔
      ∃ object : Object, value = .object object ∧ DescribesClient object config := by
  unfold toEntityClientConfig toInt toUint16
  rw [bind_ok_iff]
  simp only [asObject_ok_iff, string_iff, integer_iff]
  refine exists_congr fun object => and_congr_right fun _ => ⟨?_, fun h => ?_⟩
  · rintro ⟨username, husername, password, hpassword, address, haddress, port, hport, keepAlive, hkeepAlive, attempts,
      hattempts, delay, hdelay, hconfig⟩
    obtain rfl := Except.ok.inj hconfig
    exact ⟨husername, hpassword, haddress, hport, hkeepAlive, hattempts, hdelay⟩
  · exact ⟨_, h.username, _, h.password, _, h.serverAddress, _, h.serverPort, _, h.keepAliveInterval, _,
      h.maxReconnectAttempts, _, h.reconnectDelay, rfl⟩

-- The configurations that are accepted, and what is made of them.
theorem toAppConfig_ok_iff (value : Json) (config : AppConfig) :
    toAppConfig reader value = .ok config ↔ Describes value config := by
  unfold toAppConfig
  rw [bind_ok_iff]
  simp only [asObject_ok_iff, string_iff]
  refine ⟨?_, ?_⟩
  · rintro ⟨object, rfl, logDir, hlogDir, dtreeFile, hdtreeFile, hrest⟩
    simp only [bind_ok_iff, objectAt_ok_iff, toEntityClientConfig_ok_iff] at hrest
    obtain ⟨_, hclient, client, ⟨members, rfl, hmembers⟩, hconfig⟩ := hrest
    obtain rfl := Except.ok.inj hconfig
    exact ⟨object, members, rfl, hlogDir, hdtreeFile, hclient, hmembers⟩
  · rintro ⟨object, members, rfl, hlogDir, hdtreeFile, hclient, hmembers⟩
    refine ⟨object, rfl, _, hlogDir, _, hdtreeFile, ?_⟩
    simp only [bind_ok_iff, objectAt_ok_iff, toEntityClientConfig_ok_iff]
    exact ⟨_, hclient, _, ⟨members, rfl, hmembers⟩, rfl⟩

end Configuration

section Start

variable {reader : JsonReader} {machine : Machine} {parse : Bytes → Option Json}

theorem mainBoardInit_array {value : Json} {process : Process}
    (h : (mainBoardInit machine (some value)).run .fresh = .ok () process) : ∃ entries, value = .array entries := by
  cases value with
  | array entries => exact ⟨entries, rfl⟩
  | null | boolean _ | int64 _ | uint64 _ | double _ | string _ | object _ => cases h

variable (hreader : Incremental reader.start reader.write reader.failed reader.finish parse)

include hreader

theorem startBoard_ok {path content : Bytes} {process : Process}
    (h : startBoard reader machine path content = some (.ok process)) :
    ∃ entries, parse content = some (.array entries) ∧
      (mainBoardInit machine (some (.array entries))).run .fresh = .ok () process := by
  obtain ⟨chunks, rfl, hread⟩ := readFile_opened content
  have hload := pdtreeLoad_chunks reader (text path) hreader
    (hread reader.write reader.start _ (Nat.lt_succ_self _))
  have hrun : (mainBoardInit machine (some ((parse chunks.flatten).getD .null))).run .fresh = .ok () process := by
    unfold startBoard at h
    rw [hload] at h
    simp only [Option.bind_eq_bind, Option.bind_some] at h
    cases hinit : (mainBoardInit machine (some ((parse chunks.flatten).getD .null))).run .fresh with
    | error thrown state =>
        rw [hinit] at h
        cases h
    | ok value state =>
        rw [hinit] at h
        cases h
        rfl
  obtain ⟨entries, hentries⟩ := mainBoardInit_array hrun
  rw [hentries] at hrun
  refine ⟨entries, ?_, hrun⟩
  cases hparse : parse chunks.flatten with
  | none =>
      rw [hparse] at hentries
      cases hentries
  | some value =>
      rw [hparse] at hentries
      exact congrArg some hentries

theorem start_ok {configFile : Bytes} {files : Bytes → Option Bytes} {config : AppConfig} {process : Process}
    (h : start reader machine configFile files = some (.ok (config, process))) :
    (∃ value, parse configFile = some value ∧ Describes value config) ∧
      ∃ content entries, files config.dtreeFile = some content ∧ parse content = some (.array entries) ∧
        (mainBoardInit machine (some (.array entries))).run .fresh = .ok () process := by
  obtain ⟨chunks, rfl, hread⟩ := readFile_opened configFile
  have hload := loadConfig_chunks reader hreader (hread reader.write reader.start _ (Nat.lt_succ_self _))
  unfold start at h
  cases hparse : parse chunks.flatten with
  | none =>
      rw [hparse] at hload
      obtain ⟨message, hload⟩ := hload
      rw [hload] at h
      cases h
  | some value =>
      rw [hparse] at hload
      unfold Loads at hload
      simp only [hload, Option.bind_eq_bind, Option.bind_some] at h
      cases hconfig : toAppConfig reader value with
      | error thrown =>
          rw [hconfig] at h
          cases h
      | ok loaded =>
          simp only [hconfig] at h
          cases hfile : files loaded.dtreeFile with
          | none =>
              rw [hfile] at h
              cases h
          | some content =>
              simp only [hfile] at h
              cases hboard : startBoard reader machine loaded.dtreeFile content with
              | none =>
                  rw [hboard] at h
                  cases h
              | some started =>
                  simp only [hboard, Option.bind_some] at h
                  cases started with
                  | error thrown => cases h
                  | ok running =>
                      cases h
                      obtain ⟨entries, hentries, hrun⟩ := startBoard_ok hreader hboard
                      exact ⟨⟨value, rfl, (toAppConfig_ok_iff reader value _).mp hconfig⟩, content, entries, hfile,
                        hentries, hrun⟩

theorem start_of {configFile content : Bytes} {files : Bytes → Option Bytes} {value pdtreeContent : Json}
    {config : AppConfig} {process : Process} (hvalue : parse configFile = some value) (hconfig : Describes value config)
    (hcontent : files config.dtreeFile = some content) (hpdtree : parse content = some pdtreeContent)
    (hrun : (mainBoardInit machine (some pdtreeContent)).run .fresh = .ok () process) :
    start reader machine configFile files = some (.ok (config, process)) := by
  obtain ⟨chunks, rfl, hread⟩ := readFile_opened configFile
  obtain ⟨pieces, rfl, hpieces⟩ := readFile_opened content
  have hload := loadConfig_chunks reader hreader (hread reader.write reader.start _ (Nat.lt_succ_self _))
  have hboard := pdtreeLoad_chunks reader (text config.dtreeFile) hreader
    (hpieces reader.write reader.start _ (Nat.lt_succ_self _))
  simp only [hvalue, Loads, (toAppConfig_ok_iff reader value config).mpr hconfig] at hload
  rw [hpdtree, Option.getD_some] at hboard
  simp only [start, startBoard, hload, hcontent, hboard, hrun, Option.bind_eq_bind, Option.bind_some]
  rfl

end Start

section Speech

-- What a part of the home sends: it connects, publishes and subscribes under its own
-- names, as the configuration says.
def SpeaksAs (config : EntityClientConfig) (home : Home) (part : home.Part) : Outgoing → Prop
  | .connect packet => packet = {
      cleanSession := true
      keepAlive := config.keepAliveInterval.toNat
      clientId := home.clientId part
      will := some ⟨home.availabilityTopic part, ascii "offline", ⟨.atMostOnce, true⟩⟩
      userName := getCredential config.username
      password := getCredential config.password }
  | .publish packet => (∃ name : TopicName, packet.topic = name.topic (home.entity part)) ∧
      packet.opts = adapterDefaultPubopts
  | .subscribe packet => packet.entries = [(TopicName.set.topic (home.entity part), defaultQos)]

theorem connectPacket_eq (home : Home) (part : home.Part) : connectPacket (home.adapterEntity part).client = {
    cleanSession := true
    keepAlive := home.broker.keepAliveInterval
    clientId := home.clientId part
    will := some ⟨home.availabilityTopic part, ascii "offline", ⟨.atMostOnce, true⟩⟩
    userName := getCredential home.broker.username
    password := getCredential home.broker.password } := by
  cases part with
  | hatch deviceId | tempSensor deviceId | indicator indicatorType | restartButton => rfl

theorem speaksAs {home : Home} {P : Mqtt.Platform} {E : Equipment home} {config : EntityClientConfig} (part : home.Part)
    (hbroker : home.broker = brokerConfig config) {packet : Outgoing} (h : E.PartSpeaks P part packet) :
    SpeaksAs config home part packet := by
  cases h with
  | connect =>
      refine (connectPacket_eq home part).trans ?_
      rw [hbroker]
      rfl
  | config device complete packetId hcomplete => exact ⟨⟨.config, rfl⟩, rfl⟩
  | subscribe topic packetId hkind =>
      cases part with
      | hatch deviceId => cases hkind; rfl
      | restartButton => cases hkind; rfl
      | tempSensor deviceId => cases hkind
      | indicator indicatorType => cases hkind
  | online packetId => exact ⟨⟨.availability, rfl⟩, rfl⟩
  | state read device value payload packetId hread hvalue hpayload => exact ⟨⟨.state, rfl⟩, rfl⟩

-- The whole program. Where main gets through its start-up, the two files are what they
-- should be; the handlers create the parts of a home from the described platform; and
-- whatever happens then, each part sends only what the configuration says.
theorem program_speaks_as_configured (reader : JsonReader) (machine : Machine) (parse : Bytes → Option Json)
    (hreader : Incremental reader.start reader.write reader.failed reader.finish parse) (configFile : Bytes)
    (files : Bytes → Option Bytes) (config : AppConfig) (process : Process)
    (hstart : start reader machine configFile files = some (.ok (config, process)))
    (hcount : ∀ content entries, files config.dtreeFile = some content → parse content = some (.array entries) →
      (entries.filterMap describedKind).length + 2 < 2 ^ 31) :
    (∃ value, parse configFile = some value ∧ Describes value config) ∧
      ∃ content entries home, files config.dtreeFile = some content ∧ parse content = some (.array entries) ∧
        Composes entries process home ∧
        ∀ (P : Mqtt.Platform) (E : Equipment home) (devices : (place : home.Part × Nat) → E.Device place.1)
          (pools : E.Pools), Equipment.Pools.Reach P E (E.newPools devices) pools →
          ∀ place, ∀ packet ∈ (pools place).point.1, SpeaksAs config.entityClientConfig home place.1 packet := by
  obtain ⟨hconfig, content, entries, hcontent, hentries, hrun⟩ := start_ok hreader hstart
  obtain ⟨boardId, identity, indicators, hindicators, hrunning, hattached⟩ :=
    mainBoardInit_running machine entries (hcount content entries hcontent hentries) () process hrun
  let broker := brokerConfig config.entityClientConfig
  refine ⟨hconfig, content, entries, hrunning.home broker, hcontent, hentries,
    hrunning.composes hattached hindicators broker, ?_⟩
  intro P E devices pools hreach place packet hpacket
  have hquiet := hreach.quiet (Equipment.quiet_newPools devices) place
  exact speaksAs place.1 rfl (hquiet.world packet hpacket)

def configText : Bytes :=
  ascii "\x7b\"log_dir\":\"/log\",\"dtree_file\":\"/pdtree\",\"entity_client_config\":\x7b" ++
    ascii "\"username\":\"user\",\"password\":\"\",\"server_address\":\"broker\",\"server_port\":1883," ++
    ascii "\"keep_alive_interval\":30,\"max_reconnect_attempts\":5,\"reconnect_delay_seconds\":5\x7d\x7d"

def clientObject : Object :=
  [(ascii "username", .string (ascii "user")), (ascii "password", .string []),
    (ascii "server_address", .string (ascii "broker")), (ascii "server_port", .int64 1883),
    (ascii "keep_alive_interval", .int64 30), (ascii "max_reconnect_attempts", .int64 5),
    (ascii "reconnect_delay_seconds", .int64 5)]

def configObject : Object :=
  [(ascii "log_dir", .string (ascii "/log")), (ascii "dtree_file", .string (ascii "/pdtree")),
    (ascii "entity_client_config", .object clientObject)]

def sampleConfig : AppConfig := ⟨ascii "/log", ascii "/pdtree", ascii "user", [], ascii "broker", 1883, 30, 5, 5⟩

def ledText (color : String) : String :=
  "\x7b\"color\":\"" ++ color ++ "\",\"sysfs_path\":\"" ++ color ++ "\"\x7d"

def platformText : Bytes := ascii ("[\x7b\"compatible\":\"sysfs_rgbled_indicator\",\"model\":\"m\",\"leds\":[" ++
  ledText "red" ++ "," ++ ledText "green" ++ "," ++ ledText "blue" ++ "]\x7d," ++
  "\x7b\"compatible\":\"sysfs_hatch2sr\",\"model\":\"m\",\"sysfs_path\":\"/h\"\x7d]")

def platformEntries : List Json :=
  [indicatorDescriptor, sampleDescriptor "sysfs_hatch2sr" [(ascii "sysfs_path", .string (ascii "/h"))]]

-- A parser of these two texts, which keeps what it has been given.
def twoTexts (text : Bytes) : Option Json :=
  if text = platformText then some (.array platformEntries)
  else if text = configText then some (.object configObject) else none

def twoTextsReader : JsonReader where
  Parser := Bytes
  start := []
  write := List.append
  failed _ := false
  finish := twoTexts
  wrongKind := .runtimeError "not_object"
  missingKey := .runtimeError "out_of_range"

theorem incremental_twoTexts : Incremental [] List.append (fun _ => false) twoTexts twoTexts where
  sticky _ _ h := h
  error _ h := Bool.noConfusion h
  value chunks _ := by
    have hflatten (chunks : List Bytes) (before : Bytes) :
        chunks.foldl List.append before = before ++ chunks.flatten := by
      induction chunks generalizing before with
      | nil => simp
      | cons chunk chunks ih =>
          rw [List.foldl_cons, ih, List.flatten_cons, ← List.append_assoc]
          rfl
    rw [hflatten]
    rfl

theorem program_speaks_as_configured_sample : ∃ process home,
    start twoTextsReader sampleMachine configText (fun _ => some platformText) = some (.ok (sampleConfig, process)) ∧
      process.events = [⟨.mainBoard, 1⟩, ⟨.hatch, 2⟩] ∧ Composes platformEntries process home ∧
      MakesDarkBoard process home ∧
      ∀ (P : Mqtt.Platform) (E : Equipment home) (devices : (place : home.Part × Nat) → E.Device place.1)
        (pools : E.Pools), Equipment.Pools.Reach P E (E.newPools devices) pools →
        ∀ place, ∀ packet ∈ (pools place).point.1, SpeaksAs sampleConfig.entityClientConfig home place.1 packet := by
  obtain ⟨process, hrun, hevents⟩ : ∃ process,
      (mainBoardInit sampleMachine (some (.array platformEntries))).run .fresh = .ok () process ∧
        process.events = [⟨.mainBoard, 1⟩, ⟨.hatch, 2⟩] := returns_of_events (by decide +kernel)
  have hplatform : twoTexts platformText = some (.array platformEntries) := if_pos rfl
  have hconfig : twoTexts configText = some (.object configObject) := (if_neg (by decide +kernel)).trans (if_pos rfl)
  have hdescribes : Describes (.object configObject) sampleConfig :=
    ⟨configObject, clientObject, rfl, rfl, rfl, rfl, rfl, rfl, rfl, ⟨_, rfl, rfl, by decide⟩, ⟨_, rfl, rfl, by decide⟩,
      ⟨_, rfl, rfl, by decide⟩, ⟨_, rfl, rfl, by decide⟩⟩
  have hstart : start twoTextsReader sampleMachine configText (fun _ => some platformText) =
      some (.ok (sampleConfig, process)) :=
    start_of incremental_twoTexts hconfig hdescribes rfl hplatform hrun
  have hcount (content : Bytes) (entries : List Json) (hcontent : some platformText = some content)
      (hentries : twoTexts content = some (.array entries)) :
      (entries.filterMap describedKind).length + 2 < 2 ^ 31 := by
    obtain rfl := Option.some.inj hcontent
    obtain rfl : platformEntries = entries := Json.array.inj (Option.some.inj (hplatform.symm.trans hentries))
    decide
  obtain ⟨-, content, entries, home, hcontent, hentries, hcomposes, hspeaks⟩ :=
    program_speaks_as_configured twoTextsReader sampleMachine twoTexts incremental_twoTexts configText
      (fun _ => some platformText) sampleConfig process hstart hcount
  obtain rfl : platformText = content := Option.some.inj hcontent
  obtain rfl : platformEntries = entries := Json.array.inj (Option.some.inj (hplatform.symm.trans hentries))
  exact ⟨process, home, hstart, hevents, hcomposes,
    hcomposes.makesDarkBoard hrun (by decide) (describesIndicators_cons _), hspeaks⟩

end Speech

end HhctrlMgmt.Platform.Program
