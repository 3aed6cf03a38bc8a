import Tether.Decimal.Binary64
import Tether.Decimal.Shortest
import Tether.Json.Number
import Tether.Json.Value
import Tether.Json.Write
import Tether.Json.Read
import Tether.Json.Decode
import Tether.Topic
import Tether.Text.Blank
import Tether.Text.Printable
import Tether.Time
import Tether.Uuid
import Tether.Model
import Tether.Schema
import Tether.Frame
import Tether.Error
import Tether.Network.AccessPoint
import Tether.Provisioning.Machine
import Tether.Reconnect
import Tether.Plugin.Descriptor
import Tether.Plugin.Catalog
import Tether.Cache
import Tether.Storage
import Tether.Config
import Tether.Net.SocketAddress
import Tether.Settings
import Tether.Net.Uri
import Tether.Link.Dial
import Tether.Link.Pending
import Tether.Link.Transport
import Tether.Bus.Queue
import Tether.Bus.Inbox
import Tether.Bus.Fanout
import Tether.Bus.Handle
import Tether.Bus.Rules
import Tether.Bus.Commands
import Tether.Session.Directory
import Tether.Link.Recovery
import Tether.Link.Handshake
import Tether.Plugin.Registry
import Tether.Host.Basic
import Tether.Host.Provisioning
import Tether.Host.Workers
import Tether.Host.Plugins
import Tether.Host.Clock
import Tether.Host.Connect
import Tether.Host.Start
import Tether.Host.Session
import Tether.Api.Exchange
import Tether.Api.Routes
import Tether.Main
import Tether.Proofs.CacheRefinement
import Tether.Proofs.BusRun
import Tether.Proofs.BusDelivery
import Tether.Proofs.HostSteps
import Tether.Proofs.DirectoryInvariant
import Tether.Proofs.SessionSwitch
import Tether.Proofs.HostFrames
import Tether.Proofs.ConnectRounds
import Tether.Proofs.LinkAgreement
import Tether.Proofs.ProvisioningTable
import Tether.Proofs.ReservedCommands
import Tether.Proofs.ApplyAtomicity
import Tether.Proofs.ProvisioningMoves
import Tether.Proofs.ProvisioningRuns
import Tether.Proofs.LinkLine
import Tether.Proofs.LastSelection
import Tether.Proofs.JsonText
import Tether.Proofs.JsonReadBack
import Tether.Proofs.FrameCodec
import Tether.Proofs.HostKeeps
import Tether.Proofs.PortalRelease
import Tether.Proofs.TopicGrammar
import Tether.Proofs.PluginLifecycle
import Tether.Proofs.PanelView
import Tether.Proofs.HousekeepingTimer
import Tether.Proofs.StateMirror
import Tether.Proofs.SchemaOrder
import Tether.Proofs.PendingAccounting
import Tether.Proofs.CommandPath
import Tether.Proofs.BoundedReconnect
import Tether.Proofs.InstantReadBack
import Tether.Proofs.PrettyReadBack
import Tether.Proofs.LastSessionReadBack
import Tether.Proofs.StoreAgreement
import Tether.Proofs.SelectionHistory
import Tether.Proofs.RecordDecoding
import Tether.Proofs.ConfigDefaults
import Tether.Proofs.ModelRoundTrip
import Tether.Proofs.QueueWindow
import Tether.Proofs.BusCounters
import Tether.Proofs.WifiListing
import Tether.Proofs.AddressAdoption
import Tether.Proofs.PortalProbe
import Tether.Proofs.DriverRounds
import Tether.Proofs.SessionReseed
