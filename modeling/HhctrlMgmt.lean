import HhctrlMgmt.Coroutine.Pool
import HhctrlMgmt.Common.Mapper
import HhctrlMgmt.Mqtt.Client.Handshake
import HhctrlMgmt.Mqtt.Client.Link
import HhctrlMgmt.Mqtt.Acks
import HhctrlMgmt.Mqtt.Advertised
import HhctrlMgmt.Mqtt.Pending
import HhctrlMgmt.Mqtt.Reception
import HhctrlMgmt.Adapter.Commands
import HhctrlMgmt.Adapter.Delivery
import HhctrlMgmt.Adapter.Listening
import HhctrlMgmt.Adapter.Described
import HhctrlMgmt.Adapter.HatchUpdates
import HhctrlMgmt.Adapter.Identities
import HhctrlMgmt.Adapter.OneBoard
import HhctrlMgmt.Adapter.Online
import HhctrlMgmt.Adapter.Registered
import HhctrlMgmt.Command.Dispatcher
import HhctrlMgmt.Device.ParentFunction
import HhctrlMgmt.Event.Delivery
import HhctrlMgmt.Platform.HardwareAttributes
import HhctrlMgmt.Platform.Indicators
import HhctrlMgmt.Platform.Loading
import HhctrlMgmt.Platform.Actuators
import HhctrlMgmt.Platform.Polling
import HhctrlMgmt.Platform.Program
import HhctrlMgmt.Scheduling.Firings
import HhctrlMgmt.Scheduling.FirstExpiry
import HhctrlMgmt.Scheduling.PersistentMap
import HhctrlMgmt.Scheduling.Restarts
import HhctrlMgmt.Scheduling.SavedExpiry
import HhctrlMgmt.Scheduling.TaskIds
