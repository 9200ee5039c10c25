import GrpcRelay.CallBook
import GrpcRelay.Main
import GrpcRelay.Relay.Bench
import GrpcRelay.Session.Backend
import GrpcRelay.Session.Caller
import GrpcRelay.Text.Hex
import GrpcRelay.Proofs.Channel
import GrpcRelay.Proofs.Relay.RequestLoop
import GrpcRelay.Proofs.Relay.HalfClose
import GrpcRelay.Proofs.Relay.Outcome
import GrpcRelay.Proofs.Call.Custody
import GrpcRelay.Proofs.Registry
import GrpcRelay.Proofs.Service.Run
import GrpcRelay.Proofs.Service.Release
import GrpcRelay.Proofs.Call.Flow
import GrpcRelay.Proofs.Call.Loops
import GrpcRelay.Proofs.Service.Fidelity
import GrpcRelay.Proofs.Forest
import GrpcRelay.Proofs.Abort
import GrpcRelay.Proofs.CallBook
import GrpcRelay.Proofs.Call.Stages
import GrpcRelay.Proofs.Service.Drain
import GrpcRelay.Proofs.Service.Report
import GrpcRelay.Proofs.Text.Cut
import GrpcRelay.Proofs.MethodPath
import GrpcRelay.Proofs.Uri
import GrpcRelay.Proofs.Gateway.Policy
import GrpcRelay.Proofs.Relay.Transparency
import GrpcRelay.Proofs.Call.Renaming
import GrpcRelay.Proofs.Service.Alone
import GrpcRelay.Proofs.Service.Isolation
import GrpcRelay.Proofs.Service.Order
import GrpcRelay.Proofs.Frame.RoundTrip
import GrpcRelay.Proofs.Router.Precedence
import GrpcRelay.Proofs.Service.Buffering
import GrpcRelay.Proofs.Service.Override
import GrpcRelay.Proofs.Router.Registration
import GrpcRelay.Proofs.Propagation
import GrpcRelay.Proofs.Authority
import GrpcRelay.Proofs.Gateway.Backends
import GrpcRelay.Proofs.Gateway.Routing
import GrpcRelay.Proofs.Router.Keys
import GrpcRelay.Proofs.Relay.Inflow
import GrpcRelay.Proofs.Call.Bodies
import GrpcRelay.Proofs.Service.Log
import GrpcRelay.Proofs.Service.Limits
import GrpcRelay.Proofs.Call.Silence
import GrpcRelay.Proofs.Service.Aborts
import GrpcRelay.Proofs.Connection
import GrpcRelay.Proofs.Relay.Bench
import GrpcRelay.Proofs.Session
import GrpcRelay.Proofs.Session.Rest
