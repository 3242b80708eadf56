import Upkeep.Session.Perturbed
import Upkeep.Main
import Upkeep.Proofs.Dispatch.Order
import Upkeep.Proofs.Dispatch.Phase
import Upkeep.Proofs.Dialogue.Refinement
import Upkeep.Proofs.Convergence.Polls
import Upkeep.Proofs.Convergence.Wait
import Upkeep.Proofs.Dialogue.Install
import Upkeep.Proofs.Dispatch.Conclusion
import Upkeep.Proofs.Dispatch.History
import Upkeep.Proofs.Job.Recorded
import Upkeep.Proofs.Plugin.Activation
import Upkeep.Proofs.Plugin.Outcome
import Upkeep.Proofs.Plugin.Retained
import Upkeep.Proofs.CommandLine.Listing
import Upkeep.Proofs.Plugin.Narrowing
import Upkeep.Proofs.Dispatch.Agreement
import Upkeep.Proofs.Pattern.Span
import Upkeep.Proofs.Session.Conservation
import Upkeep.Proofs.Convergence.Columns
import Upkeep.Proofs.Convergence.Table
import Upkeep.Proofs.Dispatch.Connection
import Upkeep.Proofs.Dispatch.Report
import Upkeep.Proofs.Session.Echo
import Upkeep.Proofs.Session.Exchange
import Upkeep.Proofs.Session.Leftover
import Upkeep.Proofs.Session.Received
import Upkeep.Proofs.Session.Destination
import Upkeep.Proofs.Session.Hops
import Upkeep.Proofs.Dispatch.Own
import Upkeep.Proofs.Job.Settings
import Upkeep.Proofs.CommandLine.Bound
import Upkeep.Proofs.Job.Oblivious
import Upkeep.Proofs.Plugin.Dispensable
import Upkeep.Proofs.Dialogue.InService
import Upkeep.Proofs.Plugin.Rounds
import Upkeep.Proofs.Dialogue.Drains
import Upkeep.Proofs.Session.Afresh
import Upkeep.Proofs.Session.Tail
import Upkeep.Proofs.Job.Filing
import Upkeep.Proofs.Plugin.ScriptLog
