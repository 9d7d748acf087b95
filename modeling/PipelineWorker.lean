import PipelineWorker.BigEndian
import PipelineWorker.Config.ModuleConfig
import PipelineWorker.Config.Toml.Document
import PipelineWorker.Config.Toml.Parser
import PipelineWorker.Config.Toml.Scalar
import PipelineWorker.Config.Toml.Text
import PipelineWorker.Coordinator.Basic
import PipelineWorker.Coordinator.Error
import PipelineWorker.Coordinator.Exchange
import PipelineWorker.Coordinator.Handshake
import PipelineWorker.Coordinator.Losses
import PipelineWorker.Coordinator.Prospects
import PipelineWorker.Coordinator.Queue
import PipelineWorker.Coordinator.State
import PipelineWorker.Coordinator.Waiting
import PipelineWorker.Environment
import PipelineWorker.Failure
import PipelineWorker.Files
import PipelineWorker.Files.Content
import PipelineWorker.Files.Path
import PipelineWorker.Log.Directive
import PipelineWorker.Log.Event
import PipelineWorker.Log.Filter
import PipelineWorker.Log.Pattern
import PipelineWorker.Main
import PipelineWorker.Measure.Binary64
import PipelineWorker.Measure.ResourceUsage
import PipelineWorker.Measure.ResultTable
import PipelineWorker.Measure.Sampling
import PipelineWorker.Measure.ScratchDir
import PipelineWorker.Measure.Stats
import PipelineWorker.Message.Basic
import PipelineWorker.Message.Control
import PipelineWorker.Message.Error
import PipelineWorker.Message.Fields
import PipelineWorker.Message.Frame
import PipelineWorker.Message.Kind
import PipelineWorker.Message.Stream
import PipelineWorker.Net.Address
import PipelineWorker.Net.Connection
import PipelineWorker.Net.Endpoint
import PipelineWorker.Net.Error
import PipelineWorker.Net.Link
import PipelineWorker.Net.Names
import PipelineWorker.Net.Network
import PipelineWorker.Net.Reading
import PipelineWorker.Net.Registry
import PipelineWorker.Program.Arguments
import PipelineWorker.Program.Run
import PipelineWorker.Program.Serve
import PipelineWorker.Program.Usage
import PipelineWorker.Segment.Access
import PipelineWorker.Segment.Error
import PipelineWorker.Segment.Handle
import PipelineWorker.Segment.Mapping
import PipelineWorker.Text.Alphanumeric
import PipelineWorker.Text.Lossy
import PipelineWorker.Text.Quoted
import PipelineWorker.Text.Separated
import PipelineWorker.Text.Unprintable
import PipelineWorker.Total
import PipelineWorker.Proofs.Arrivals
import PipelineWorker.Proofs.Framing
import PipelineWorker.Proofs.Reading
import PipelineWorker.Proofs.Connection
import PipelineWorker.Proofs.Dialing
import PipelineWorker.Proofs.Receiving
import PipelineWorker.Proofs.Registry
import PipelineWorker.Proofs.Polling
import PipelineWorker.Proofs.Using
import PipelineWorker.Proofs.Coordinated
import PipelineWorker.Proofs.Reachable
import PipelineWorker.Proofs.Exchange
import PipelineWorker.Proofs.Deferral
import PipelineWorker.Proofs.Ledger
import PipelineWorker.Proofs.Listening
import PipelineWorker.Proofs.Handshake
import PipelineWorker.Proofs.Standing
import PipelineWorker.Proofs.Fatality
import PipelineWorker.Proofs.Shutdown
import PipelineWorker.Proofs.Peers
import PipelineWorker.Proofs.Timing
import PipelineWorker.Proofs.Punctuality
import PipelineWorker.Proofs.Leftovers
import PipelineWorker.Proofs.Contention
import PipelineWorker.Proofs.Operating
import PipelineWorker.Proofs.Transparency
import PipelineWorker.Proofs.Sending
import PipelineWorker.Proofs.Available
import PipelineWorker.Proofs.Stalling
import PipelineWorker.Proofs.GivingUp
import PipelineWorker.Proofs.Reporting
import PipelineWorker.Proofs.Sharing
import PipelineWorker.Proofs.RoundTrip
import PipelineWorker.Proofs.Decoding
import PipelineWorker.Proofs.Quitting
import PipelineWorker.Proofs.Heeding
import PipelineWorker.Proofs.Destination
import PipelineWorker.Proofs.Deadlines
import PipelineWorker.Proofs.Settling
import PipelineWorker.Proofs.Watching
import PipelineWorker.Proofs.Answering
import PipelineWorker.Proofs.Fields
import PipelineWorker.Proofs.Diary
import PipelineWorker.Proofs.Registering
import PipelineWorker.Proofs.Attachments
import PipelineWorker.Proofs.Payloads
import PipelineWorker.Proofs.Failing
import PipelineWorker.Proofs.Referring
import PipelineWorker.Proofs.Unfiltered
import PipelineWorker.Proofs.Quads
import PipelineWorker.Proofs.Fallback
import PipelineWorker.Proofs.Backlog
import PipelineWorker.Proofs.Rounding
import PipelineWorker.Proofs.Percentiles
