import HhctrlMgmt.Mqtt.Client

namespace HhctrlMgmt.Mqtt

open Coroutine

-- The operations that AsyncMqttClient offers, under one type.
inductive Operation where
  | connect
  | publish (topic payload : Bytes) (pubopts : Pubopts)
  | subscribe (topics : List Bytes)
  | receive
deriving DecidableEq

inductive OperationResult where
  | connected (result : Error)
  | published (result : Expected PacketId)
  | subscribed (result : Expected PacketId)
  | received (result : Expected ReceiveResult)

-- The result is an Error that is set, or Unexpected.
def OperationResult.Failed : OperationResult → Prop
  | .connected result => result ≠ none
  | .published result => ∃ e, result = .error e
  | .subscribed result => ∃ e, result = .error e
  | .received result => ∃ e, result = .error e

namespace Operation

def task (P : Platform) (fuel : Nat) : Operation → ClientM OperationResult
  | connect => do
      let result ← asyncConnect P (tryReconnect P fuel)
      return .connected result
  | publish topic payload pubopts => do
      let result ← asyncPublish P topic payload pubopts
      return .published result
  | subscribe topics => do
      let result ← asyncSubscribe P topics
      return .subscribed result
  | receive => do
      let result ← asyncReceive P fuel
      return .received result

end Operation

end HhctrlMgmt.Mqtt
