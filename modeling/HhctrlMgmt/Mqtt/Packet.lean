import HhctrlMgmt.Coroutine
import HhctrlMgmt.Mqtt.Error

namespace HhctrlMgmt.Mqtt

open Coroutine

inductive Qos where
  | atMostOnce
  | atLeastOnce
  | exactlyOnce
deriving DecidableEq, Repr

def supportedQos (qos : Qos) : Bool :=
  qos = .atLeastOnce || qos = .atMostOnce

-- pub::opts, without the dup bit, which no function of the program sets.
structure Pubopts where
  qos : Qos
  retain : Bool
deriving DecidableEq, Repr

abbrev PacketId := Nat

structure PublishPacket where
  packetId : PacketId
  topic : Bytes
  payload : Bytes
  opts : Pubopts
deriving DecidableEq, Repr

inductive SubackReturnCode where
  | successMaximumQos0
  | successMaximumQos1
  | successMaximumQos2
  | failure
deriving DecidableEq, Repr

structure SubackPacket where
  packetId : PacketId
  entries : List SubackReturnCode
deriving DecidableEq, Repr

def anySubackFailure (suback : SubackPacket) : Bool :=
  suback.entries.any fun code => code = .failure

inductive ConnectReturnCode where
  | accepted
  | unacceptableProtocolVersion
  | identifierRejected
  | serverUnavailable
  | badUserNameOrPassword
  | notAuthorized
deriving DecidableEq, Repr

-- The packet types that the program receives without looking into them.
inductive OtherPacket where
  | connect
  | pubrec
  | pubrel
  | pubcomp
  | subscribe
  | unsubscribe
  | unsuback
  | pingreq
  | pingresp
  | disconnect
deriving DecidableEq, Repr

-- async_mqtt::packet_variant that holds a packet
inductive Packet where
  | connack (sessionPresent : Bool) (code : ConnectReturnCode)
  | publish (packet : PublishPacket)
  | puback (packetId : PacketId)
  | suback (packet : SubackPacket)
  | other (type : OtherPacket)
deriving DecidableEq, Repr

structure Will where
  topic : Bytes
  message : Bytes
  opts : Pubopts
deriving DecidableEq, Repr

structure ConnectPacket where
  cleanSession : Bool
  keepAlive : Nat
  clientId : Bytes
  will : Option Will
  userName : Option Bytes
  password : Option Bytes
deriving DecidableEq, Repr

structure SubscribePacket where
  packetId : PacketId
  entries : List (Bytes × Qos)
deriving DecidableEq, Repr

-- The packets that the program sends.
inductive Outgoing where
  | connect (packet : ConnectPacket)
  | publish (packet : PublishPacket)
  | subscribe (packet : SubscribePacket)
deriving DecidableEq, Repr

inductive ClientFunction where
  | asyncReceive
  | asyncConnect
  | asyncSubscribe
  | asyncPublish
  | tryReconnect
deriving DecidableEq, Repr

inductive EntityFunction where
  | asyncConnect
  | asyncReceive
  | asyncSetConfig
  | asyncSetAvailability
  | asyncPublish
  | asyncSubscribe
  | asyncConfigure
  | asyncSetState
deriving DecidableEq, Repr

-- The functions that announce themselves in the trace log.
inductive Label where
  | client (function : ClientFunction)
  | entity (function : EntityFunction)
deriving DecidableEq, Repr

-- The operations that suspend a coroutine.
inductive Query where
  | resolve (host port : Bytes)
  | connect
  | send (packet : Outgoing)
  | recv
  | acquireUniquePacketId
  -- steady_timer, awaited with redirect_error
  | timer (seconds : Int)
  -- common::coro::async_wait
  | wait (seconds : Int)
deriving DecidableEq, Repr

abbrev Answer : Query → Type
  | .resolve _ _ => Option SystemCode
  | .connect => Option SystemCode
  | .send _ => Option SystemError
  | .recv => Except SystemError Packet
  | .acquireUniquePacketId => Option PacketId
  | .timer _ => Option SystemCode
  | .wait _ => Option SystemCode

abbrev sig : Sig where
  Exn := Exn
  Label := Label
  Query := Query
  Answer := Answer

abbrev Async (σ α : Type) := Coro sig σ α

section Requests

variable {σ α : Type}

@[simp] theorem ofExcept_ok (value : α) : (Coro.ofExcept (.ok value : Except Exn α) : Async σ α) = .ret value := rfl

@[simp] theorem ofExcept_error (thrown : Exn) :
    (Coro.ofExcept (.error thrown : Except Exn α) : Async σ α) = .throw thrown := rfl

@[simp] def asyncResolve (host port : Bytes) : Async σ (Option SystemCode) := .await (.resolve host port) .ret

@[simp] def asyncTcpConnect : Async σ (Option SystemCode) := .await .connect .ret

@[simp] def epSend (packet : Outgoing) : Async σ (Option SystemError) := .await (.send packet) .ret

@[simp] def epRecv : Async σ (Except SystemError Packet) := .await .recv .ret

@[simp] def epAcquireUniquePacketId : Async σ (Option PacketId) := .await .acquireUniquePacketId .ret

@[simp] def timerAsyncWait (seconds : Int) : Async σ (Option SystemCode) := .await (.timer seconds) .ret

-- common::coro::async_wait: without redirect_error a failed wait is thrown.
def asyncWait (P : Platform) (seconds : Int) : Async σ Unit :=
  .await (.wait seconds) fun
    | none => .ret ()
    | some code => .throw (.systemError (P.what code))

end Requests

end HhctrlMgmt.Mqtt
