import HhctrlMgmt.Device.DeviceTree
import HhctrlMgmt.Mqtt.EntityConfig

namespace HhctrlMgmt.Device

structure HardwareIdentity where
  manufacturer : Bytes
  model : Bytes
  revision : Bytes
  serialNumber : Bytes

-- std::unordered_map<DeviceId_t, HardwareIdentity>
abbrev HardwareIdentityStore := DeviceId → Option HardwareIdentity

end HhctrlMgmt.Device

namespace HhctrlMgmt.Adapter.DeviceIdentityProvider

open Device Mqtt

variable {Callback : Type} (hwIdentity : HardwareIdentityStore) (dtree : DeviceTree Callback)

def getHardwareIdentity (deviceId : DeviceId) : Except Exn HardwareIdentity :=
  let doGetHardwareIdentity (deviceId : DeviceId) : Except Exn HardwareIdentity :=
    match hwIdentity deviceId with
    | none => .error (.runtimeError "Cannot get HardwareIdentity for requested device id")
    | some identity => .ok identity
  if (hwIdentity deviceId).isSome then doGetHardwareIdentity deviceId
  else
    match dtree.parent deviceId with
    | none => .error (.runtimeError "Cannot get DeviceInfo - parent does not exist")
    | some parentId => doGetHardwareIdentity parentId

def deviceIdentity (hwIdentity : HardwareIdentity) : DeviceIdentity where
  manufacturer := hwIdentity.manufacturer
  model := hwIdentity.model
  serialNumber := hwIdentity.serialNumber
  hwRevision := hwIdentity.revision
  swRevision := ascii "Sw rev default"

def identity (deviceId : DeviceId) : Except Exn DeviceIdentity :=
  (getHardwareIdentity hwIdentity dtree deviceId).map deviceIdentity

end HhctrlMgmt.Adapter.DeviceIdentityProvider
