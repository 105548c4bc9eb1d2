import HnbCloud.Operation.Fencing
import HnbCloud.Operation.Transitions
import HnbCloud.Operation.ApprovalGate
import HnbCloud.Operation.Offline
import HnbCloud.Operation.Batch
import HnbCloud.Operation.IntentRace
import HnbCloud.Operation.CommandFormat
import HnbCloud.Operation.Resume
import HnbCloud.Messaging.Relay
import HnbCloud.Iam.Refresh
import HnbCloud.Iam.ReloadingKeySet
import HnbCloud.Gslb.Switch
import HnbCloud.Gslb.Stream
import HnbCloud.Gslb.Isolation
import HnbCloud.Gslb.ActivePool
import HnbCloud.Gslb.FailoverPlans
import HnbCloud.Gslb.Endpoints
import HnbCloud.Gslb.Health
import HnbCloud.Api.Authorize
import HnbCloud.Observer.Acknowledgement
import HnbCloud.Observer.Inventory
import HnbCloud.Dr.Order
import HnbCloud.Dr.Requests
import HnbCloud.KubernetesProvider.Fencing
import HnbCloud.Lifecycle.Overlap
import HnbCloud.Lifecycle.Frame
import HnbCloud.Lifecycle.Recovery
import HnbCloud.Driver.Providers
import HnbCloud.Lifecycle.Planned
import HnbCloud.Market.RecycleBin
import HnbCloud.Market.Session
import HnbCloud.Market.Immutability
import HnbCloud.ClusterAgent.KubeProxy
import HnbCloud.Alert.Manager
