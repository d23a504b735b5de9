import HhctrlMgmt.Common.Json
import HhctrlMgmt.Platform.Process

namespace HhctrlMgmt.Platform

open Common Device

-- A text in a message, one character for each byte.
def text (bytes : Bytes) : String :=
  String.ofList (bytes.map fun byte => Char.ofNat byte.toNat)

-- std::string::c_str, as long as it is read as a C string
def cStr (bytes : Bytes) : Bytes :=
  bytes.takeWhile (· ≠ 0)

-- The white space of the C locale.
def isSpace (byte : UInt8) : Bool :=
  byte = 32 ∨ 9 ≤ byte ∧ byte ≤ 13

-- What operator>> reads into a string; nothing, if it fails.
def firstWord (bytes : Bytes) : Bytes :=
  (bytes.dropWhile isSpace).takeWhile fun byte => !isSpace byte

-- sysfsdir / name
def joinPath (sysfsdir name : Bytes) : Bytes :=
  if sysfsdir = [] ∨ sysfsdir.getLast? = some 47 then sysfsdir ++ name else sysfsdir ++ [47] ++ name

section Model

variable (machine : Machine)

section Json

def jsonError {α : Type} (error : JsonError) : Init α :=
  throw (.systemError (machine.jsonWhat error))

def asArray : Json → Init (List Json)
  | .array values => return values
  | _ => jsonError machine .notArray

def asObject : Json → Init Object
  | .object members => return members
  | _ => jsonError machine .notObject

def asString : Json → Init Bytes
  | .string value => return value
  | _ => jsonError machine .notString

-- boost::json::object::at
def objectAt (object : Object) (key : Bytes) : Init Json :=
  match object.lookup key with
  | some value => return value
  | none => jsonError machine .outOfRange

def pdtreeToString (value : Json) : Init Bytes := do
  let string ← asString machine value
  return cStr string

-- pdtree_get<std::string>
def pdtreeGet (object : Object) (key : Bytes) : Init Bytes := do
  if !object.contains key then
    throw (.runtimeError ("Property '" ++ text key ++ "' does not exist in pdtree"))
  let value ← objectAt machine object key
  let string ← asString machine value
  if firstWord (cStr string) = [] then
    throw (.runtimeError ("Cannot read property '" ++ text key ++ "' from pdtree"))
  return firstWord (cStr string)

end Json

section Sysfs

def getPath (path : Bytes) : Init Bytes := do
  let files ← look machine
  if !files.pathExists path then
    throw (.runtimeError ("Sysfs directory: " ++ text path ++ " does not exist"))
  return path

def writeAttr (path : Bytes) (value : Int) : Init Unit := do
  let files ← look machine
  if !files.writable path then
    throw (.runtimeError ("Attribute does not exist. Path: " ++ text path))
  modify fun process => { process with written := process.written ++ [(path, value)] }

end Sysfs

def SysfsLed.new (sysfsdir : Bytes) : Init SysfsLed := do
  let path ← getPath machine sysfsdir
  return ⟨path⟩

def SysfsLed.setBrightness (led : SysfsLed) (value : Int) : Init Unit :=
  writeAttr machine (joinPath led.sysfsdir (ascii "brightness")) value

def RGBLed.setBrightness (led : RGBLed) (red green blue : Int) : Init Unit := do
  led.red.setBrightness machine red
  led.green.setBrightness machine green
  led.blue.setBrightness machine blue

inductive IndicatorState where
  | notAvailable
  | off
  | on
  | blinking
deriving DecidableEq, Repr

namespace Indicator

-- IndicatorMapping: red, green and blue
def mapping : IndicatorType → Int × Int × Int
  | .status => (0, 255, 0)
  | .warning => (255, 255, 0)
  | .maintenance => (0, 0, 255)
  | .fault => (255, 0, 0)

def setState (indicator : Indicator) : IndicatorState → Init Unit
  | .on =>
      let config := mapping indicator.indicatorType
      indicator.rgbLed.setBrightness machine config.1 config.2.1 config.2.2
  | .off => indicator.rgbLed.setBrightness machine 0 0 0
  | .notAvailable | .blinking => return ()

end Indicator

namespace MainBoard

def setIndicatorState (board : MainBoard) (indicatorType : IndicatorType) (state : IndicatorState) : Init Unit :=
  match board.indicators.find? fun indicator => indicator.indicatorType = indicatorType with
  | none => return ()
  | some indicator => indicator.setState machine state

def new (indicators : List Indicator) : Init MainBoard := do
  let board : MainBoard := ⟨indicators⟩
  board.setIndicatorState machine .status .off
  board.setIndicatorState machine .status .on
  return board

-- The loop of get_hw_info_attr. At the end of the file get() returns EOF, which is
-- appended as a char before the loop ends.
def hwInfoValue : Bytes → Bytes
  | [] => [255]
  | byte :: rest => if byte = 10 ∨ byte = 0 then [] else byte :: hwInfoValue rest

def getHwInfoAttr (path : Bytes) : Init Bytes := do
  let files ← look machine
  match files.content path with
  | none => return ascii "default-" ++ path
  | some content => return hwInfoValue content

def hardwareIdentity : Init HardwareIdentity := do
  let model ← getHwInfoAttr machine (ascii "/etc/hw-name")
  let serialNumber ← getHwInfoAttr machine (ascii "/etc/hw-serial")
  return ⟨ascii "BHome", model, ascii "R1", serialNumber⟩

end MainBoard

structure DeviceLoader where
  load : Init DeviceId
  unload : DeviceId → Init Unit

structure DefaultGenericDeviceLoadingStrategy where
  boardId : DeviceId

-- handle<D>
def DefaultGenericDeviceLoadingStrategy.handle (strategy : DefaultGenericDeviceLoadingStrategy) (kind : DeviceKind)
    (loader : DeviceLoader) : Init Bool := do
  let deviceId ← loader.load
  addChild machine strategy.boardId deviceId
  publish ⟨kind, deviceId⟩
  return true

abbrev GenericLoader := DefaultGenericDeviceLoadingStrategy → Init Bool

structure PlatformBuilder where
  indicators : List Indicator
  genericLoaders : List GenericLoader

namespace PlatformBuilder

def addDevice (indicator : Indicator) (builder : PlatformBuilder) : PlatformBuilder :=
  { builder with indicators := builder.indicators ++ [indicator] }

-- add_loader<D>
def addLoader (kind : DeviceKind) (devLoader : DeviceLoader) (builder : PlatformBuilder) : PlatformBuilder :=
  { builder with
    genericLoaders := builder.genericLoaders ++ [fun processor => processor.handle machine kind devLoader] }

end PlatformBuilder

-- The loggers that logger_init registers.
def registeredLoggers : List String :=
  ["mgmt", "mgmt:app", "mgmt:home_assistant_adapter", "mgmt:poller", "mgmt:device", "async_mqtt_client", "entity"]

-- spdlog::get(loggerName)->debug(..): spdlog::get returns null for a name that nobody has registered.
def spdlogDebug (loggerName : String) : Init Unit :=
  if loggerName ∈ registeredLoggers then return () else throw .nullPointer

namespace RGBIndicatorProvider

-- The predicate of find_if.
def isLed (ledLabel : Bytes) (prop : Json) : Init Bool := do
  let object ← asObject machine prop
  if !object.contains (ascii "color") then
    return false
  let color ← objectAt machine object (ascii "color")
  let label ← pdtreeToString machine color
  return label = ledLabel

def ledOf (ledDescriptor : Json) : Init (Option SysfsLed) := do
  let descriptorObj ← asObject machine ledDescriptor
  if !descriptorObj.contains (ascii "sysfs_path") then
    return none
  let path ← objectAt machine descriptorObj (ascii "sysfs_path")
  let sysfsdir ← pdtreeToString machine path
  let led ← SysfsLed.new machine sysfsdir
  return some led

def loadLed (leds : List Json) (ledLabel : Bytes) : Init (Option SysfsLed) := do
  let ledDescriptor ← leds.findM? (isLed machine ledLabel)
  match ledDescriptor with
  | none => return none
  | some prop => ledOf machine prop

def load (builder : PlatformBuilder) (object : Object) : Init (Bool × PlatformBuilder) := do
  let value ← objectAt machine object (ascii "leds")
  let leds ← asArray machine value
  let red ← loadLed machine leds (ascii "red")
  let green ← loadLed machine leds (ascii "green")
  let blue ← loadLed machine leds (ascii "blue")
  match red, green, blue with
  | some red, some green, some blue =>
    let rgbLed : RGBLed := ⟨red, green, blue⟩
    return (true, builder
      |>.addDevice ⟨.fault, rgbLed⟩
      |>.addDevice ⟨.maintenance, rgbLed⟩
      |>.addDevice ⟨.status, rgbLed⟩
      |>.addDevice ⟨.warning, rgbLed⟩)
  | _, _, _ =>
    -- "hw" is none of the registered loggers
    spdlogDebug "hw"
    return (false, builder)

end RGBIndicatorProvider

-- The providers of generic devices differ in their compatible, in the device that
-- they register, and in the interval of its poller.
structure GenericProvider where
  compatible : Bytes
  kind : DeviceKind
  register : Bytes → Init DeviceId
  interval : Int

namespace GenericProvider

-- The load of the DeviceLoader.
def loadDevice (provider : GenericProvider) (sysfsPath : Bytes) : Init DeviceId := do
  let deviceId ← provider.register sysfsPath
  addPoller deviceId provider.interval ⟨provider.kind, deviceId⟩
  return deviceId

def unload (_ : DeviceId) : Init Unit :=
  throw (.runtimeError "Not supported")

-- The model is only logged, but it has to be there.
def load (provider : GenericProvider) (builder : PlatformBuilder) (object : Object) :
    Init (Bool × PlatformBuilder) := do
  let model ← objectAt machine object (ascii "model")
  let _ ← pdtreeToString machine model
  if !object.contains (ascii "sysfs_path") then
    return (false, builder)
  let sysfsPath ← pdtreeGet machine object (ascii "sysfs_path")
  return (true, builder.addLoader machine provider.kind ⟨provider.loadDevice sysfsPath, unload⟩)

end GenericProvider

-- The hatch is made in the inventory, after it has got its id; a sensor is made before.
def hatchProvider : GenericProvider where
  compatible := ascii "sysfs_hatch2sr"
  kind := .hatch
  register sysfsPath := registerDevice .hatch do
    let path ← getPath machine sysfsPath
    return ⟨path⟩
  interval := 2000

def sysfsDS18B20Provider : GenericProvider where
  compatible := ascii "sysfs_ds18b20"
  kind := .tempSensor
  register sysfsPath := do
    let path ← getPath machine sysfsPath
    registerDevice .tempSensor (return .ds18b20 path)
  interval := 10000

def sysfsCPUTempSensorProvider : GenericProvider where
  compatible := ascii "sysfs_cpu_temp_sensor"
  kind := .tempSensor
  register sysfsPath := do
    let path ← getPath machine sysfsPath
    registerDevice .tempSensor (return .cpu path)
  interval := 2000

-- std::variant<Provider...>
inductive DeviceProvider where
  | rgbIndicator
  | generic (provider : GenericProvider)

namespace DeviceProvider

def compatible : DeviceProvider → Bytes
  | rgbIndicator => ascii "sysfs_rgbled_indicator"
  | generic provider => provider.compatible

def load (builder : PlatformBuilder) (object : Object) : DeviceProvider → Init (Bool × PlatformBuilder)
  | rgbIndicator => RGBIndicatorProvider.load machine builder object
  | generic provider => provider.load machine builder object

end DeviceProvider

namespace PlatformDeviceDiscovery

-- The providers that main_board_init gives.
def providers : List DeviceProvider :=
  [.rgbIndicator, .generic (hatchProvider machine), .generic (sysfsDS18B20Provider machine),
    .generic (sysfsCPUTempSensorProvider machine)]

-- One round of the loop in setup.
def setupEntry (builder : PlatformBuilder) (entry : Json) : Init PlatformBuilder := do
  let descriptor ← asObject machine entry
  let value ← objectAt machine descriptor (ascii "compatible")
  let compatible ← pdtreeToString machine value
  match (providers machine).find? fun provider => provider.compatible = compatible with
  | none => throw (.runtimeError ("Cannot find loader for device with compatible: " ++ text compatible))
  | some provider =>
    let loaded ← provider.load machine builder descriptor
    return loaded.2

def setup (pdtreeContent : Json) (builder : PlatformBuilder) : Init PlatformBuilder := do
  let entries ← asArray machine pdtreeContent
  entries.foldlM (setupEntry machine) builder

end PlatformDeviceDiscovery

-- The file is what pdtree_load makes of it (null, if it is no JSON), or it does not
-- exist.
def mainBoardInit (pdtreeFile : Option Json) : Init Unit := do
  match pdtreeFile with
  | none => throw (.runtimeError "Platform device tree file does not exist")
  | some pdtreeContent =>
    let builder ← PlatformDeviceDiscovery.setup machine pdtreeContent ⟨[], []⟩
    -- Handle main board
    let newBoard ← MainBoard.new machine builder.indicators
    let boardId ← registerDevice .mainBoard (return newBoard)
    let _ ← getDevice .mainBoard boardId
    let identity ← MainBoard.hardwareIdentity machine
    emplaceIdentity boardId identity
    addPoller boardId 5000 ⟨.mainBoard, boardId⟩
    publish ⟨.mainBoard, boardId⟩
    -- Handle generic devices connected to board
    builder.genericLoaders.foldlM (fun _ loader => do
      let _ ← loader ⟨boardId⟩
      return ()) ()

end Model

end HhctrlMgmt.Platform
