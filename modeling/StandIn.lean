import StandIn.Program
import StandIn.Text.Alphanumeric
import StandIn.Text.Blank
import StandIn.Text.Span
import StandIn.Text.Line
import StandIn.Text.Hidden
import StandIn.Text.Quoted
import StandIn.Text.Decimal
import StandIn.Device
import StandIn.Fault
import StandIn.Roster
import StandIn.Session
import StandIn.Command
import StandIn.Command.Line
import StandIn.Hello
import StandIn.Reply
import StandIn.Stats
import StandIn.Narration
import StandIn.Negotiation
import StandIn.Wire
import StandIn.Controller
import StandIn.Text.Utf8
import StandIn.Tcp.Address
import StandIn.Tcp.Socket
import StandIn.Tcp.Wire
import StandIn.Controller.Step
import StandIn.Rehearsal
import StandIn.Tcp.Literal
import StandIn.Simulation.Names
import StandIn.Simulation.Network
import StandIn.Text.Digit
import StandIn.Text.Numeral
import StandIn.Number.Binary64
import StandIn.Number.Range
import StandIn.Number.Written
import StandIn.Number.Shortest
import StandIn.Toml.Value
import StandIn.Toml.Space
import StandIn.Toml.Quotation
import StandIn.Toml.Numeral
import StandIn.Toml.Moment
import StandIn.Toml.Draft
import StandIn.Toml.Document
import StandIn.Settings
import StandIn.Settings.Document
import StandIn.CommandLine.Arguments
import StandIn.CommandLine.LogFilter
import StandIn.CommandLine.Pattern
import StandIn.CommandLine.Pattern.Nesting
import StandIn.CommandLine.Launch
import StandIn.CommandLine.Terminal
import StandIn.Simulation.Directory
import StandIn.Simulation.Invocation
import StandIn.Live.Network
import StandIn.Main
import StandIn.Proofs.Program.Yields
import StandIn.Proofs.Controller.Execution
import StandIn.Proofs.Controller.History
import StandIn.Proofs.Controller.Moves
import StandIn.Proofs.Controller.Announced
import StandIn.Proofs.Controller.Sessions
import StandIn.Proofs.Wire.Failures
import StandIn.Proofs.Controller.Failures
import StandIn.Proofs.Controller.Scripts
import StandIn.Proofs.Reply.Ports
import StandIn.Proofs.Controller.Statistics
import StandIn.Proofs.Controller.Chronicle
import StandIn.Proofs.Controller.Timeouts
import StandIn.Proofs.Program.Levels
import StandIn.Proofs.Tcp.Outcome
import StandIn.Proofs.Tcp.Timeouts
import StandIn.Proofs.Hello.Reading
import StandIn.Proofs.Controller.Plain
import StandIn.Proofs.Simulation.Peer
import StandIn.Proofs.Simulation.Service
import StandIn.Proofs.Wire.Greetings
import StandIn.Proofs.Simulation.Agreement
import StandIn.Proofs.Text.Lines
import StandIn.Proofs.Command.Script
import StandIn.Proofs.Controller.Orders
import StandIn.Proofs.Controller.Layout
import StandIn.Proofs.Controller.Progress
import StandIn.Proofs.Controller.Composition
import StandIn.Proofs.Text.Utf8
import StandIn.Proofs.Tcp.Bounded
import StandIn.Proofs.Reply.Announcement
import StandIn.Proofs.Simulation.Reached
import StandIn.Proofs.Negotiation.Attempts
import StandIn.Proofs.Roster.Replay
import StandIn.Proofs.Command.Grammar
import StandIn.Proofs.Controller.Beats
import StandIn.Proofs.Controller.Errands
import StandIn.Proofs.Command.Writing
import StandIn.Proofs.Controller.Retelling
import StandIn.Proofs.Reply.Noise
import StandIn.Proofs.Tcp.Addresses
import StandIn.Proofs.Tcp.Listening
import StandIn.Proofs.Controller.Calls
import StandIn.Proofs.Tcp.Footprint
import StandIn.Proofs.Tcp.Interleaving
import StandIn.Proofs.Toml.Proper
import StandIn.Proofs.Toml.Reading
import StandIn.Proofs.Toml.Rearranged
import StandIn.Proofs.Settings.Sections
import StandIn.Proofs.Settings.Acceptance
import StandIn.Proofs.Settings.Contents
