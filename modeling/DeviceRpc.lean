import DeviceRpc.Bench.Clients
import DeviceRpc.Bench.Errand
import DeviceRpc.Bench.Filling
import DeviceRpc.Bench.Outcome
import DeviceRpc.Bench.Peers
import DeviceRpc.Bench.Rehearsal
import DeviceRpc.Bench.Rig
import DeviceRpc.Bench.RigService
import DeviceRpc.Bench.Transport
import DeviceRpc.Bench.Work
import DeviceRpc.Binary64.Basic
import DeviceRpc.Binary64.Places
import DeviceRpc.Binary64.Reading
import DeviceRpc.Bytes
import DeviceRpc.Call.Client
import DeviceRpc.Call.Exchange
import DeviceRpc.Call.Failure
import DeviceRpc.Call.Shared
import DeviceRpc.Config.Reading
import DeviceRpc.Config.Settings
import DeviceRpc.Config.SocketAddress
import DeviceRpc.Device.Command
import DeviceRpc.Device.Driver
import DeviceRpc.Device.Health
import DeviceRpc.Device.Object
import DeviceRpc.Device.Scripted
import DeviceRpc.Device.Strip
import DeviceRpc.Dispatch.Service
import DeviceRpc.ErrorCode
import DeviceRpc.Failure
import DeviceRpc.Link.Endpoint
import DeviceRpc.Link.Failure
import DeviceRpc.Link.Handle
import DeviceRpc.Link.Options
import DeviceRpc.Link.Transfer
import DeviceRpc.Main
import DeviceRpc.Metrics.Family
import DeviceRpc.Metrics.Label
import DeviceRpc.Metrics.Node
import DeviceRpc.Node.Basic
import DeviceRpc.Node.Operations
import DeviceRpc.Packet.Access
import DeviceRpc.Packet.Basic
import DeviceRpc.Packet.Envelope
import DeviceRpc.Packet.Field
import DeviceRpc.Packet.Frame
import DeviceRpc.Packet.Name
import DeviceRpc.Path
import DeviceRpc.Pdu.Client
import DeviceRpc.Pdu.CommandLine
import DeviceRpc.Pdu.Exchange
import DeviceRpc.Pdu.Front
import DeviceRpc.Pdu.Service
import DeviceRpc.Program.Act
import DeviceRpc.Program.Basic
import DeviceRpc.Proofs.Binary64.Rounding
import DeviceRpc.Proofs.Call.Blocks
import DeviceRpc.Proofs.Call.Drawing
import DeviceRpc.Proofs.Call.Exact
import DeviceRpc.Proofs.Call.Frames
import DeviceRpc.Proofs.Call.Lookup
import DeviceRpc.Proofs.Call.Prepared
import DeviceRpc.Proofs.Call.Remote
import DeviceRpc.Proofs.Call.Replies
import DeviceRpc.Proofs.Call.Running
import DeviceRpc.Proofs.Call.Session
import DeviceRpc.Proofs.Call.Sharing
import DeviceRpc.Proofs.Config.Validation
import DeviceRpc.Proofs.Device.Driving
import DeviceRpc.Proofs.Device.PlantHost
import DeviceRpc.Proofs.Device.StripHost
import DeviceRpc.Proofs.Device.Units
import DeviceRpc.Proofs.Device.Waiting
import DeviceRpc.Proofs.Dispatch.Decision
import DeviceRpc.Proofs.Dispatch.Envelope
import DeviceRpc.Proofs.Dispatch.Failures
import DeviceRpc.Proofs.Dispatch.Inspecting
import DeviceRpc.Proofs.Dispatch.Leftovers
import DeviceRpc.Proofs.Dispatch.Outward
import DeviceRpc.Proofs.Dispatch.Registering
import DeviceRpc.Proofs.Link.Conduit
import DeviceRpc.Proofs.Link.Drawing
import DeviceRpc.Proofs.Link.Reading
import DeviceRpc.Proofs.Metrics.Changes
import DeviceRpc.Proofs.Metrics.Exposition
import DeviceRpc.Proofs.Metrics.Label
import DeviceRpc.Proofs.Metrics.Series
import DeviceRpc.Proofs.Metrics.Totals
import DeviceRpc.Proofs.Node.Booting
import DeviceRpc.Proofs.Node.Naming
import DeviceRpc.Proofs.Node.Readiness
import DeviceRpc.Proofs.Packet.Capacity
import DeviceRpc.Proofs.Packet.Carrying
import DeviceRpc.Proofs.Packet.Codec
import DeviceRpc.Proofs.Packet.Content
import DeviceRpc.Proofs.Packet.Fields
import DeviceRpc.Proofs.Packet.Framing
import DeviceRpc.Proofs.Packet.Naming
import DeviceRpc.Proofs.Packet.Refusal
import DeviceRpc.Proofs.Packet.Updates
import DeviceRpc.Proofs.Packet.Views
import DeviceRpc.Proofs.Pdu.Addressing
import DeviceRpc.Proofs.Pdu.Crowd
import DeviceRpc.Proofs.Pdu.Dialogue
import DeviceRpc.Proofs.Pdu.Discipline
import DeviceRpc.Proofs.Pdu.History
import DeviceRpc.Proofs.Pdu.Operations
import DeviceRpc.Proofs.Pdu.Power
import DeviceRpc.Proofs.Pdu.Usage
import DeviceRpc.Proofs.Program.Alike
import DeviceRpc.Proofs.Program.Keeps
import DeviceRpc.Proofs.Program.Machine
import DeviceRpc.Proofs.Registry
import DeviceRpc.Proofs.Registry.Callers
import DeviceRpc.Proofs.Relay.Attempt
import DeviceRpc.Proofs.Relay.Chain
import DeviceRpc.Proofs.Relay.Desk
import DeviceRpc.Proofs.Relay.Hop
import DeviceRpc.Proofs.Relay.Inquiry
import DeviceRpc.Proofs.Relay.Reliable
import DeviceRpc.Proofs.Relay.Site
import DeviceRpc.Proofs.Relay.Upstream
import DeviceRpc.Proofs.Server.Course
import DeviceRpc.Proofs.Server.Feed
import DeviceRpc.Proofs.Server.Journal
import DeviceRpc.Proofs.Server.Oblivious
import DeviceRpc.Proofs.Server.Room
import DeviceRpc.Proofs.Server.Traffic
import DeviceRpc.Proofs.Server.Transcript
import DeviceRpc.Proofs.Text.Utf8
import DeviceRpc.Proofs.World.Files
import DeviceRpc.Proofs.World.Moves
import DeviceRpc.Proofs.World.Scheduler
import DeviceRpc.Proofs.World.Sockets
import DeviceRpc.Proofs.World.Untouched
import DeviceRpc.Protocol
import DeviceRpc.Registry
import DeviceRpc.Server
import DeviceRpc.Session.Basic
import DeviceRpc.Session.Deeds
import DeviceRpc.Session.Orders
import DeviceRpc.Session.Run
import DeviceRpc.Session.Step
import DeviceRpc.Text.Blank
import DeviceRpc.Text.JsonString
import DeviceRpc.Text.Numeral
import DeviceRpc.Text.Quoted
import DeviceRpc.Text.Shown
import DeviceRpc.Text.Split
import DeviceRpc.Text.Utf8
import DeviceRpc.World.Basic
import DeviceRpc.World.Cells
import DeviceRpc.World.Files
import DeviceRpc.World.Network
import DeviceRpc.World.Nodes
import DeviceRpc.World.Plant
import DeviceRpc.World.Schedule
import DeviceRpc.Yaml.Cursor
import DeviceRpc.Yaml.Node
import DeviceRpc.Yaml.Scalar
import DeviceRpc.Yaml.Tag
import DeviceRpc.Yaml.Token
import DeviceRpc.Yaml.Written
import DeviceRpc.Proofs.Link.Address
import DeviceRpc.Proofs.Device.Monitoring
import DeviceRpc.Proofs.Link.Inflow
import DeviceRpc.Proofs.Link.Arrivals
import DeviceRpc.Proofs.Link.Timely
