import HhctrlMgmt.Common.Text
import HhctrlMgmt.Device.Hatch
import HhctrlMgmt.Mqtt.BinarySensor
import HhctrlMgmt.Mqtt.Button
import HhctrlMgmt.Mqtt.Cover
import HhctrlMgmt.Mqtt.Sensor

namespace HhctrlMgmt.Device

inductive IndicatorType where
  | status
  | warning
  | fault
  | maintenance
deriving DecidableEq, Repr

-- static_cast to the underlying type
def IndicatorType.value : IndicatorType → Int
  | .status => 0
  | .warning => 1
  | .fault => 2
  | .maintenance => 3

theorem IndicatorType.value_injective : Function.Injective IndicatorType.value := by
  intro first second hvalue
  cases first <;> cases second <;> simp_all [IndicatorType.value]

end HhctrlMgmt.Device

namespace HhctrlMgmt.Adapter

open Common Device Mqtt

structure BrokerConfig where
  username : Bytes := []
  password : Bytes := []
  host : Bytes := []
  port : Bytes := []
  keepAliveInterval : Nat := 30
  maxReconnectAttempts : Int := 5
  reconnectDelay : Int := 5

namespace MqttClientFactory

def createClient (config : BrokerConfig) (uniqueId : Bytes) : AsyncMqttClient :=
  .create {
    uniqueId := uniqueId
    username := config.username
    password := config.password
    host := config.host
    port := config.port
    cleanSession := true
    keepAlive := config.keepAliveInterval
    maxAttempts := config.maxReconnectAttempts
    reconnectDelay := config.reconnectDelay }

end MqttClientFactory

namespace EntityFactory

variable (config : BrokerConfig) (uniqueId : Bytes)

def createCover : Entity := Cover.create uniqueId (MqttClientFactory.createClient config uniqueId)
def createBinarySensor : Entity := BinarySensor.create uniqueId (MqttClientFactory.createClient config uniqueId)
def createButton : Entity := Button.create uniqueId (MqttClientFactory.createClient config uniqueId)
def createSensor : Entity := Sensor.create uniqueId (MqttClientFactory.createClient config uniqueId)

end EntityFactory

def getUniqueId (deviceId : DeviceId) (identity : DeviceIdentity) : Bytes :=
  identity.serialNumber ++ ascii "_" ++ decimal deviceId

-- The entity that each async_create makes before it connects.
section Entities

variable (config : BrokerConfig) (identity : DeviceIdentity) (deviceId : DeviceId)

def Hatch.entity : Entity :=
  EntityFactory.createCover config (getUniqueId deviceId identity)

def TempSensor.entity : Entity :=
  EntityFactory.createSensor config (getUniqueId deviceId identity)

def Indicator.entity (indicatorType : IndicatorType) : Entity :=
  EntityFactory.createBinarySensor config
    (getUniqueId deviceId identity ++ ascii "_i_" ++ decimal indicatorType.value)

def RestartButton.entity : Entity :=
  EntityFactory.createButton config (getUniqueId deviceId identity ++ ascii "_restart_btn")

end Entities

end HhctrlMgmt.Adapter
