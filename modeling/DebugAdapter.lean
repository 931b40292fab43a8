import DebugAdapter.Environment.Shell.Programs
import DebugAdapter.Evaluation.Context
import DebugAdapter.Evaluation.System
import DebugAdapter.Main
import DebugAdapter.Session.Server
import DebugAdapter.Settings.CommandLine
import DebugAdapter.Transport.Address
import DebugAdapter.Transport.Stdio
import DebugAdapter.Proofs.Framing.Frames
import DebugAdapter.Proofs.Protocol.RoundTrip
import DebugAdapter.Proofs.Session.Sequence
import DebugAdapter.Proofs.Framing.Progress
import DebugAdapter.Proofs.Session.Lifecycle
import DebugAdapter.Proofs.Debuggee.StopModel
import DebugAdapter.Proofs.Debuggee.Tables
import DebugAdapter.Proofs.Evaluation.Exchanges
import DebugAdapter.Proofs.Evaluation.Forwarding
import DebugAdapter.Proofs.Evaluation.Handoff
import DebugAdapter.Proofs.Evaluation.Handshake
import DebugAdapter.Proofs.Evaluation.Responses
import DebugAdapter.Proofs.Evaluation.Agenda
import DebugAdapter.Proofs.Evaluation.Announcing
import DebugAdapter.Proofs.Evaluation.Delivery
import DebugAdapter.Proofs.Evaluation.Ending
import DebugAdapter.Proofs.Evaluation.Production
import DebugAdapter.Proofs.Evaluation.Telling
import DebugAdapter.Proofs.Evaluation.Transitions
import DebugAdapter.Proofs.Evaluation.Unblocking
import DebugAdapter.Proofs.Session.Repeats
import DebugAdapter.Proofs.Evaluation.Integrity
import DebugAdapter.Proofs.Evaluation.Neighbours
import DebugAdapter.Proofs.Evaluation.Release
import DebugAdapter.Proofs.Session.Silence
import DebugAdapter.Proofs.Session.Reporting
import DebugAdapter.Proofs.Session.Farewells
import DebugAdapter.Proofs.Protocol.Stability
import DebugAdapter.Proofs.Protocol.Bodies
import DebugAdapter.Proofs.Transport.Exclusion
import DebugAdapter.Proofs.Protocol.Rearranging
import DebugAdapter.Proofs.Session.Faithful
import DebugAdapter.Proofs.Framing.Grammar
import DebugAdapter.Proofs.Framing.Contract
import DebugAdapter.Proofs.Evaluation.Paging
import DebugAdapter.Proofs.Interpreter.Transcript
import DebugAdapter.Proofs.Transport.Addresses
import DebugAdapter.Proofs.Settings.Precedence
import DebugAdapter.Proofs.Debuggee.Histories
import DebugAdapter.Proofs.Evaluation.Relay
