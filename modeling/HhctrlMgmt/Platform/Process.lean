import HhctrlMgmt.Adapter.EntityFactory
import HhctrlMgmt.Device.HardwareIdentity
import HhctrlMgmt.Device.ParentFunction
import Mathlib.Algebra.Group.Nat.Defs
import Mathlib.Logic.Function.Basic

namespace HhctrlMgmt.Platform

open Common Device

-- What std::filesystem and the file streams find.
structure Files where
  pathExists : Bytes → Bool
  -- what an input stream reads, if it opens
  content : Bytes → Option Bytes
  writable : Bytes → Bool

inductive JsonError where
  | notArray
  | notObject
  | notString
  | outOfRange
deriving DecidableEq, Repr

-- The surroundings of the program. Others change the files: `files` counts the
-- accesses to them.
structure Machine where
  files : Nat → Files
  -- what() of the system_error that boost::json throws
  jsonWhat : JsonError → String
  growth : Growth

-- The types of devices that there is an inventory of.
inductive DeviceKind where
  | mainBoard
  | hatch
  | tempSensor
deriving DecidableEq, Repr

structure SysfsLed where
  sysfsdir : Bytes

structure RGBLed where
  red : SysfsLed
  green : SysfsLed
  blue : SysfsLed

-- RGBIndicator, the only kind of Indicator_t that is ever made
structure Indicator where
  indicatorType : IndicatorType
  rgbLed : RGBLed

structure MainBoard where
  indicators : List Indicator

structure SysfsHatch where
  sysfsdir : Bytes

-- TempSensorProxy<SysfsDS18B20, SysfsCPUTempSensor>
inductive TempSensor where
  | ds18b20 (sysfsdir : Bytes)
  | cpu (sysfsdir : Bytes)

abbrev DeviceKind.Device : DeviceKind → Type
  | .mainBoard => MainBoard
  | .hatch => SysfsHatch
  | .tempSensor => TempSensor

structure DeviceInventory (D : Type) where
  devices : DeviceId → Option D

namespace DeviceInventory

variable {D : Type}

def deviceExists (inventory : DeviceInventory D) (deviceId : DeviceId) : Bool :=
  (inventory.devices deviceId).isSome

def insert (inventory : DeviceInventory D) (deviceId : DeviceId) (device : D) : DeviceInventory D :=
  ⟨Function.update inventory.devices deviceId (some device)⟩

def get (inventory : DeviceInventory D) (deviceId : DeviceId) : Except Exn D :=
  match inventory.devices deviceId with
  | none => .error (.runtimeError "Device does not exist")
  | some device => .ok device

end DeviceInventory

-- MainBoardPoller, HatchPoller or TempSensorPoller
structure Poll where
  kind : DeviceKind
  deviceId : DeviceId

-- The interval is in milliseconds.
structure Poller where
  deviceId : DeviceId
  interval : Int
  poll : Poll

-- DeviceCreated<D>
structure DeviceCreated where
  kind : DeviceKind
  deviceId : DeviceId
deriving DecidableEq

-- What the program knows of its devices.
structure Devices where
  nextId : DeviceId
  inventory : (kind : DeviceKind) → DeviceInventory kind.Device
  dtree : DeviceTree Empty
  hwIdentityStore : HardwareIdentityStore
  pollers : List Poller

-- `published` are the events in their order, each with the devices that its handlers
-- would find at that moment; `written` are the sysfs attributes that have been set.
structure Process where
  clock : Nat
  devices : Devices
  published : List (DeviceCreated × Devices)
  written : List (Bytes × Int)

def Process.fresh : Process where
  clock := 0
  devices := ⟨1, fun _ => ⟨fun _ => none⟩, .new, fun _ => none, []⟩
  published := []
  written := []

-- What is done before an exception stays done.
abbrev Init := EStateM Exn Process

section Operations

variable (machine : Machine)

def look : Init Files :=
  modifyGet fun process => (machine.files process.clock, { process with clock := process.clock + 1 })

def onDevices (change : Devices → Devices) : Init Unit :=
  modify fun process => { process with devices := change process.devices }

-- The counter is an int.
def newId : Init DeviceId :=
  modifyGet fun process => (process.devices.nextId,
    { process with devices := { process.devices with nextId := (process.devices.nextId + 1).bmod (2 ^ 32) } })

-- register_device: the arguments make the device in its place in the inventory, or it
-- is there already and is moved.
def registerDevice (kind : DeviceKind) (construct : Init kind.Device) : Init DeviceId := do
  let deviceId ← newId
  let process ← get
  if (process.devices.inventory kind).deviceExists deviceId then
    throw (.runtimeError "Duplicate instance of the key")
  let device ← construct
  onDevices fun devices => { devices with
    inventory := Function.update devices.inventory kind ((devices.inventory kind).insert deviceId device) }
  return deviceId

def getDevice (kind : DeviceKind) (deviceId : DeviceId) : Init kind.Device := do
  let process ← get
  match (process.devices.inventory kind).get deviceId with
  | .error thrown => throw thrown
  | .ok device => return device

-- PollingService::add_poller. The coroutine that start_poller spawns runs later.
def addPoller (deviceId : DeviceId) (interval : Int) (poll : Poll) : Init Unit := do
  let process ← get
  if process.devices.pollers.countP (fun poller => poller.deviceId = deviceId) ≠ 0 then
    throw (.runtimeError "Poller for requested device id, already exists")
  onDevices fun devices => { devices with pollers := devices.pollers ++ [⟨deviceId, interval, poll⟩] }

-- The handlers that AsyncEventBus::publish spawns run later.
def publish (event : DeviceCreated) : Init Unit :=
  modify fun process => { process with published := process.published ++ [(event, process.devices)] }

def addChild (parentDeviceId deviceId : DeviceId) : Init Unit :=
  onDevices fun devices => { devices with
    dtree := (devices.dtree.addChild machine.growth parentDeviceId deviceId none).tree }

-- HardwareIdentityStore_t::emplace
def emplaceIdentity (deviceId : DeviceId) (identity : HardwareIdentity) : Init Unit :=
  onDevices fun devices =>
    if (devices.hwIdentityStore deviceId).isSome then devices
    else { devices with hwIdentityStore := Function.update devices.hwIdentityStore deviceId (some identity) }

end Operations

end HhctrlMgmt.Platform
