import HhctrlMgmt.Mqtt.Packet

namespace HhctrlMgmt.Mqtt

open Coroutine

structure ClientConfig where
  uniqueId : Bytes := []
  username : Bytes := []
  password : Bytes := []
  host : Bytes := []
  port : Bytes := []
  cleanSession : Bool := true
  keepAlive : Nat := 0
  maxAttempts : Int := 5
  reconnectDelay : Int := 5

structure Reconnect where
  attempt : Int
  maxAttempts : Int
  reconnectDelay : Int

structure AsyncMqttClient where
  config : ClientConfig
  will : Option Will
  connected : Bool
  reconnect : Reconnect

namespace AsyncMqttClient

def create (config : ClientConfig) : AsyncMqttClient where
  config := config
  will := none
  connected := false
  reconnect := ⟨0, config.maxAttempts, config.reconnectDelay⟩

def setWill (will : Will) (client : AsyncMqttClient) : AsyncMqttClient :=
  { client with will := some will }

def setConnected (client : AsyncMqttClient) : AsyncMqttClient :=
  { client with connected := true }

def setAttempt (attempt : Int) (client : AsyncMqttClient) : AsyncMqttClient :=
  { client with reconnect := { client.reconnect with attempt := attempt } }

end AsyncMqttClient

abbrev ClientM := Async AsyncMqttClient

section Connect

variable (P : Platform)

def getCredential (credential : Bytes) : Option Bytes :=
  if credential.isEmpty then none else some credential

def asyncSendCon : ClientM Error := do
  let client ← .state
  epSend (.connect {
    cleanSession := client.config.cleanSession
    keepAlive := client.config.keepAlive
    clientId := client.config.uniqueId
    will := client.will
    userName := getCredential client.config.username
    password := getCredential client.config.password })

-- async_connect, async_recv_conack, handle_recv_error and try_reconnect call
-- each other in a cycle. The first three take try_reconnect as an argument.
def handleRecvError (tryReconnect : ClientM Bool) (e : SystemError) : ClientM SystemError := do
  let client ← .state
  if client.connected then
    let reconnected ← tryReconnect
    if reconnected then
      return error .reconnected "Client got reconnected"
    else
      let client ← .state
      return error .disconnected ("Client got disconnected " ++
        if client.reconnect.attempt = client.reconnect.maxAttempts then "after auto-reconnect failure" else "")
  else
    let code ← .ofExcept (mapErrorCode P e.code)
    return plainError code

def asyncRecvConack (tryReconnect : ClientM Bool) : ClientM Error := do
  match ← epRecv with
  | .ok (.connack _ _) =>
    .modify AsyncMqttClient.setConnected
    return none
  | .ok _ => return none
  | .error e =>
    let e ← handleRecvError P tryReconnect e
    return some e

def asyncConnect (tryReconnect : ClientM Bool) : ClientM Error := do
  .label (.client .asyncConnect)
  let client ← .state
  if let some _ ← asyncResolve client.config.host client.config.port then
    return some (error .noService "Error while resolving name of the broker")
  if let some ec ← asyncTcpConnect then
    let code ← .ofExcept (mapErrorCode P ec)
    return some (error code "Error while establishing connection")
  if let some e ← asyncSendCon then
    let code ← .ofExcept (mapErrorCode P e.code)
    return some (error code "Error while sending ConnectPacket")
  if let some e ← asyncRecvConack P tryReconnect then
    let code ← .ofExcept (mapErrorCode P e.code)
    return some (error code "Error while receiving ConnectAckPacket")
  .modify (AsyncMqttClient.setAttempt 0)
  return none

-- try_reconnect up to its loop
def tryReconnectWith (loop : ClientM Bool) : ClientM Bool := do
  .label (.client .tryReconnect)
  let client ← .state
  if client.reconnect.maxAttempts = 0 then
    return false
  .modify (AsyncMqttClient.setAttempt 0)
  loop

-- The loop of try_reconnect; the fuel bounds its rounds and the depth of the
-- recursion through async_connect.
def tryReconnectLoop : Nat → ClientM Bool
  | 0 => .spin
  | fuel + 1 => do
    .modify fun client => client.setAttempt (client.reconnect.attempt + 1)
    let client ← .state
    if client.reconnect.attempt ≤ client.reconnect.maxAttempts then
      if let some _ ← timerAsyncWait client.reconnect.reconnectDelay then
        return false
      match ← asyncConnect P (tryReconnectWith (tryReconnectLoop fuel)) with
      | none => return true
      | some _ => tryReconnectLoop fuel
    else
      return false

def tryReconnect (fuel : Nat) : ClientM Bool :=
  tryReconnectWith (tryReconnectLoop P fuel)

end Connect

-- std::variant<PublishPacket_t, PublishAckPacket_t, SubscriptionAckPacket_t>
inductive ReceiveResult where
  | publish (packet : PublishPacket)
  | puback (packetId : PacketId)
  | suback (packet : SubackPacket)
deriving DecidableEq, Repr

section Operations

variable (P : Platform)

-- The switch of async_receive; `none` is its default branch.
def Packet.receiveResult : Packet → Option ReceiveResult
  | .publish packet => some (.publish packet)
  | .puback packetId => some (.puback packetId)
  | .suback packet => some (.suback packet)
  | .connack _ _ => none
  | .other _ => none

-- The packet that a result was made of.
def ReceiveResult.packet : ReceiveResult → Packet
  | .publish packet => .publish packet
  | .puback packetId => .puback packetId
  | .suback packet => .suback packet

theorem Packet.eq_of_receiveResult {packet : Packet} {result : ReceiveResult} (h : packet.receiveResult = some result) :
    packet = result.packet := by
  cases packet with
  | publish _ | puback _ | suback _ => exact congrArg ReceiveResult.packet (Option.some.inj h)
  | connack _ _ | other _ => exact absurd h.symm (Option.some_ne_none result)

-- The loop of async_receive; the fuel bounds its rounds and the recursion of
-- try_reconnect.
def asyncReceiveLoop (tryReconnect : ClientM Bool) : Nat → ClientM (Expected ReceiveResult)
  | 0 => .spin
  | fuel + 1 => do
    match ← epRecv with
    | .ok packet =>
      match packet.receiveResult with
      | some result => return .ok result
      | none => asyncReceiveLoop tryReconnect fuel
    | .error e =>
      let e ← handleRecvError P tryReconnect e
      return .error e

def asyncReceive (fuel : Nat) : ClientM (Expected ReceiveResult) := do
  .label (.client .asyncReceive)
  let client ← .state
  if !client.connected then
    return .error (error .disconnected "Cannot receive on disconnected client ")
  asyncReceiveLoop P (tryReconnect P fuel) fuel

-- acquire_packet_id(); the result is dereferenced unchecked.
def acquirePacketId : ClientM PacketId := do
  match ← epAcquireUniquePacketId with
  | some packetId => return packetId
  | none => .throw .emptyOptional

-- acquire_packet_id(qos)
def acquirePacketIdFor (qos : Qos) : ClientM PacketId :=
  if qos = .atMostOnce then return 0 else acquirePacketId

def defaultQos : Qos := .atLeastOnce

-- The last step of async_subscribe and of async_publish.
def sendWithId (packetId : PacketId) (packet : Outgoing) : ClientM (Expected PacketId) := do
  if let some e ← epSend packet then
    let code ← .ofExcept (mapErrorCode P e.code)
    return .error (plainError code)
  return .ok packetId

def asyncSubscribe (topics : List Bytes) : ClientM (Expected PacketId) := do
  .label (.client .asyncSubscribe)
  let client ← .state
  if !client.connected then
    return .error (error .disconnected "Cannot subscribe when client is disconnected")
  let packetId ← acquirePacketId
  sendWithId P packetId (.subscribe ⟨packetId, topics.map fun topic => (topic, defaultQos)⟩)

-- The assertion on the QoS is compiled out in a release build.
def asyncPublish (topic payload : Bytes) (pubopts : Pubopts) : ClientM (Expected PacketId) := do
  .label (.client .asyncPublish)
  let client ← .state
  if !client.connected then
    return .error (error .disconnected "Cannot publish when client is disconnected")
  if !supportedQos pubopts.qos then
    return .error (plainError .qosNotSupported)
  let packetId ← acquirePacketIdFor pubopts.qos
  sendWithId P packetId (.publish ⟨packetId, topic, payload, pubopts⟩)

end Operations
end HhctrlMgmt.Mqtt
