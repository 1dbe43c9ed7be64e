import StoreClient.Accumulator
import StoreClient.Address
import StoreClient.Bytes
import StoreClient.Client
import StoreClient.Client.Typed
import StoreClient.Config
import StoreClient.Config.Json
import StoreClient.Connection
import StoreClient.Exchange
import StoreClient.Fault
import StoreClient.Frame
import StoreClient.Frame.Decoder
import StoreClient.Host
import StoreClient.Json
import StoreClient.Main
import StoreClient.Message.Basic
import StoreClient.Message.Bucket
import StoreClient.Message.Catalogue
import StoreClient.Message.Counter
import StoreClient.Message.Identity
import StoreClient.Message.Listing
import StoreClient.Message.Object
import StoreClient.Message.Query
import StoreClient.Operation
import StoreClient.Operation.Callbacks
import StoreClient.Payload.Cursor
import StoreClient.Payload.Decode
import StoreClient.Payload.Encode
import StoreClient.Payload.Fault
import StoreClient.Payload.Reader
import StoreClient.Payload.Schema
import StoreClient.Payload.Varint
import StoreClient.Pool
import StoreClient.Probe
import StoreClient.Proofs.Accumulator
import StoreClient.Proofs.Answer
import StoreClient.Proofs.Arrangement
import StoreClient.Proofs.Arrival
import StoreClient.Proofs.Canonical
import StoreClient.Proofs.Carry
import StoreClient.Proofs.Chunks
import StoreClient.Proofs.Conduct
import StoreClient.Proofs.Configuration
import StoreClient.Proofs.Conservation
import StoreClient.Proofs.Contention
import StoreClient.Proofs.CrossTalk
import StoreClient.Proofs.Deadline
import StoreClient.Proofs.Decoder
import StoreClient.Proofs.Delivery
import StoreClient.Proofs.Deployment
import StoreClient.Proofs.Eviction
import StoreClient.Proofs.Exchange
import StoreClient.Proofs.Faults
import StoreClient.Proofs.Frame
import StoreClient.Proofs.Grammar
import StoreClient.Proofs.Hosts
import StoreClient.Proofs.JsonParser
import StoreClient.Proofs.JsonText
import StoreClient.Proofs.Layout
import StoreClient.Proofs.Ledger
import StoreClient.Proofs.OneShot
import StoreClient.Proofs.Operation
import StoreClient.Proofs.Outcome
import StoreClient.Proofs.Parses
import StoreClient.Proofs.Peer
import StoreClient.Proofs.Pool
import StoreClient.Proofs.Prefill
import StoreClient.Proofs.Reader
import StoreClient.Proofs.Reception
import StoreClient.Proofs.Refusal
import StoreClient.Proofs.Request
import StoreClient.Proofs.Response
import StoreClient.Proofs.Rotation
import StoreClient.Proofs.RoundTrip
import StoreClient.Proofs.Sending
import StoreClient.Proofs.Session
import StoreClient.Proofs.Stream
import StoreClient.Proofs.Strict
import StoreClient.Proofs.Turns
import StoreClient.Proofs.Validation
import StoreClient.Proofs.World
import StoreClient.Request
import StoreClient.Resolver
import StoreClient.Response
import StoreClient.Simulation.Borrower
import StoreClient.Simulation.Deployment
import StoreClient.Simulation.Line
import StoreClient.Simulation.Network
import StoreClient.Simulation.Paced
import StoreClient.Simulation.Probing
import StoreClient.Simulation.Script
import StoreClient.Tag
import StoreClient.Text.Number
import StoreClient.Text.Utf8
import StoreClient.Transport
