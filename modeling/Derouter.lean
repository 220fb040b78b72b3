import Derouter.Catalogue.Convergence
import Derouter.ConsumerView.Isolation
import Derouter.Db.Theorems.Exclusion
import Derouter.Db.Theorems.Hashing
import Derouter.Db.Theorems.JobsStatement
import Derouter.JobsView.Current
import Derouter.NodeDatabase.ActiveProviders
import Derouter.NodeDatabase.Attempts
import Derouter.NodeDatabase.Frozen
import Derouter.NodeDatabase.JobIds
import Derouter.OffersView.Current
import Derouter.P2p.HeartbeatLog
import Derouter.P2p.ResponseTxMap
import Derouter.P2p.Theorems.AlreadyConfirmed
import Derouter.P2p.Theorems.Backlog
import Derouter.P2p.Theorems.Completion
import Derouter.P2p.Theorems.Duplicates
import Derouter.P2p.Theorems.Frames
import Derouter.P2p.Theorems.ReadablePeers
import Derouter.P2p.Theorems.Strangers
import Derouter.P2p.Theorems.WakeUps
import Derouter.Parties.Agreement
import Derouter.Parties.Confirmation
import Derouter.Parties.Terms
import Derouter.PeerView
import Derouter.ProviderNode.Signatures
import Derouter.Registry.Refinement
import Derouter.Rpc.Connection.Announcements
import Derouter.Rpc.Connection.Delivery
import Derouter.Rpc.Connection.Events
import Derouter.Rpc.Connection.Queues
import Derouter.Rpc.Connection.Replies
import Derouter.Rpc.Filters
import Derouter.Rpc.JobPages
import Derouter.Rpc.Theorems.Tunnels
import Derouter.Rpc.Theorems.YamuxServer
import Derouter.Server.Accepted
import Derouter.Server.Modules
import Derouter.Settlement.Confirmed
import Derouter.Tasks.CircularWait
