import Turnstile.Config.Builder
import Turnstile.Main
import Turnstile.Metrics
import Turnstile.Proofs.Arguments
import Turnstile.Proofs.AuditTrail
import Turnstile.Proofs.Basics
import Turnstile.Proofs.BuilderCalls
import Turnstile.Proofs.ConfiguredLogin
import Turnstile.Proofs.Counters
import Turnstile.Proofs.CountingStores
import Turnstile.Proofs.DefaultRoute
import Turnstile.Proofs.DocumentFields
import Turnstile.Proofs.FirstStop
import Turnstile.Proofs.IndependentChecks
import Turnstile.Proofs.ItemLists
import Turnstile.Proofs.KnownGates
import Turnstile.Proofs.Layers
import Turnstile.Proofs.Leaves
import Turnstile.Proofs.LoaderCalls
import Turnstile.Proofs.LoggedDecisions
import Turnstile.Proofs.LoginRun
import Turnstile.Proofs.Ordering
import Turnstile.Proofs.Overlay
import Turnstile.Proofs.PartialDocuments
import Turnstile.Proofs.Prerequisites
import Turnstile.Proofs.ProgramRun
import Turnstile.Proofs.Records
import Turnstile.Proofs.Secrecy
import Turnstile.Proofs.ServiceNames
import Turnstile.Proofs.SharedCounters
import Turnstile.Proofs.StoreExchange
import Turnstile.Proofs.StoredUsers
import Turnstile.Proofs.TelemetrySetup
import Turnstile.Proofs.UserLists
import Turnstile.Proofs.UserLookup
import Turnstile.Proofs.VariableFile
import Turnstile.Proofs.VariableNames
import Turnstile.Text.Quoted
