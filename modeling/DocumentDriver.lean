import DocumentDriver.Document.Size
import DocumentDriver.Message.Equality
import DocumentDriver.Message.Stream
import DocumentDriver.Options.Json
import DocumentDriver.Proofs.Topology.Run
import DocumentDriver.Report.Session
import DocumentDriver.Proofs.Topology.Primary
import DocumentDriver.Proofs.Bytes.Reading
import DocumentDriver.Proofs.Document.RoundTrip
import DocumentDriver.Proofs.Document.Keys
import DocumentDriver.Proofs.Message.Bodies
import DocumentDriver.Proofs.Message.Sections
import DocumentDriver.Proofs.Message.RoundTrip
import DocumentDriver.Proofs.Topology.Election
import DocumentDriver.Proofs.Topology.Competition
import DocumentDriver.Proofs.Topology.SetName
import DocumentDriver.Proofs.Topology.Standalone
import DocumentDriver.Proofs.Bytes.Soundness
import DocumentDriver.Proofs.Document.Layout
import DocumentDriver.Proofs.Bytes.Following
import DocumentDriver.Proofs.Document.Soundness
import DocumentDriver.Proofs.Document.Canonical
import DocumentDriver.Proofs.Document.Options
import DocumentDriver.Proofs.Message.Embedded
import DocumentDriver.Proofs.Message.Header
import DocumentDriver.Proofs.Message.Canonical
import DocumentDriver.Proofs.Message.Ceilings
import DocumentDriver.Proofs.Message.Compression
import DocumentDriver.Proofs.Message.Stream
import DocumentDriver.Proofs.Topology.Kind
import DocumentDriver.Proofs.Topology.Absorption
import DocumentDriver.Proofs.Topology.Sharded
import DocumentDriver.Proofs.Topology.Repetition
import DocumentDriver.Proofs.Topology.Sameness
import DocumentDriver.Proofs.Topology.Replay
import DocumentDriver.Proofs.Cluster.Handles
import DocumentDriver.Proofs.Cluster.Bookkeeping
import DocumentDriver.Proofs.Connection.Interleaving
import DocumentDriver.Proofs.Connection.Pairing
import DocumentDriver.Proofs.Connection.PoolSafety
import DocumentDriver.Proofs.Connection.SizeLimit
import DocumentDriver.Proofs.Message.Refusal
import DocumentDriver.Proofs.Client.Envelope
import DocumentDriver.Proofs.Client.ErrorCode
import DocumentDriver.Proofs.Client.Failure
import DocumentDriver.Proofs.Client.Discard
import DocumentDriver.Proofs.Monitor.Run
import DocumentDriver.Proofs.Monitor.Discipline
import DocumentDriver.Proofs.Topology.Provenance
import DocumentDriver.Proofs.Selection.Available
import DocumentDriver.Proofs.Monitor.Measured
import DocumentDriver.Proofs.Monitor.Sampling
import DocumentDriver.Proofs.Monitor.Scans
import DocumentDriver.Proofs.Cluster.Interleaving
import DocumentDriver.Proofs.Cluster.Closing
import DocumentDriver.Proofs.Cluster.Waking
import DocumentDriver.Proofs.Topology.Others
import DocumentDriver.Proofs.Topology.Derived
import DocumentDriver.Proofs.Selection.Routing
import DocumentDriver.Proofs.Selection.Latency
import DocumentDriver.Proofs.Selection.Lag
import DocumentDriver.Proofs.Selection.Freshness
import DocumentDriver.Proofs.Document.Inside
import DocumentDriver.Proofs.Document.Encodable
import DocumentDriver.Proofs.Document.Restriction
import DocumentDriver.Proofs.Message.Delimited
import DocumentDriver.Proofs.Message.Gathered
import DocumentDriver.Proofs.InPlace.Message
import DocumentDriver.Proofs.Server.Spelling
import DocumentDriver.Proofs.Document.Flags
import DocumentDriver.Proofs.Document.ObjectId
import DocumentDriver.Proofs.Options.ConnectionString
import DocumentDriver.Proofs.Text.Hex
