import AdmissionControl.Admission.Burst
import AdmissionControl.Admission.Check
import AdmissionControl.Admission.Decision
import AdmissionControl.Admission.Service
import AdmissionControl.CommandLine
import AdmissionControl.Fault
import AdmissionControl.Http.Application
import AdmissionControl.Http.Client
import AdmissionControl.Http.Header
import AdmissionControl.Http.Response
import AdmissionControl.Http.Target
import AdmissionControl.Identity
import AdmissionControl.Log
import AdmissionControl.Log.Filter
import AdmissionControl.Main
import AdmissionControl.Network.Address
import AdmissionControl.Network.Address.Parser
import AdmissionControl.Remote.Adapter
import AdmissionControl.Remote.Address
import AdmissionControl.Remote.Command
import AdmissionControl.Remote.Fault
import AdmissionControl.Remote.Key
import AdmissionControl.Remote.Server
import AdmissionControl.Remote.Value
import AdmissionControl.Serving
import AdmissionControl.Settings
import AdmissionControl.Settings.EnvironmentFile
import AdmissionControl.Settings.StoreAddress
import AdmissionControl.Store.CounterStore
import AdmissionControl.Store.Memory
import AdmissionControl.Store.Operation
import AdmissionControl.Store.Script
import AdmissionControl.Store.Table
import AdmissionControl.Text.Blank
import AdmissionControl.Text.Decimal
import AdmissionControl.Text.Json
import AdmissionControl.Text.Quoted
import AdmissionControl.Text.Search
import AdmissionControl.Time
import AdmissionControl.Time.Text
import AdmissionControl.Proofs.Network.Reading
import AdmissionControl.Proofs.Store.LiveEntries
import AdmissionControl.Proofs.Store.Log
import AdmissionControl.Proofs.Store.Footprint
import AdmissionControl.Proofs.Store.Lifetimes
import AdmissionControl.Proofs.Store.Ledger
import AdmissionControl.Proofs.Store.Agreement
import AdmissionControl.Proofs.Admission.Course
import AdmissionControl.Proofs.Admission.Agenda
import AdmissionControl.Proofs.Admission.TimeLimit
import AdmissionControl.Proofs.Admission.Traffic
import AdmissionControl.Proofs.Admission.Transcript
import AdmissionControl.Proofs.Admission.BlockAuthority
import AdmissionControl.Proofs.Admission.CompliantClient
import AdmissionControl.Proofs.Admission.Rate
import AdmissionControl.Proofs.Admission.Independence
import AdmissionControl.Proofs.Admission.Appeals
import AdmissionControl.Proofs.Admission.Succession
import AdmissionControl.Proofs.Admission.Resumption
import AdmissionControl.Proofs.Remote.Effect
import AdmissionControl.Proofs.Remote.Switchboard
import AdmissionControl.Proofs.Remote.Counters
import AdmissionControl.Proofs.Remote.Mirror
import AdmissionControl.Proofs.Remote.Session
import AdmissionControl.Proofs.Remote.Decisions
import AdmissionControl.Proofs.Remote.Access
import AdmissionControl.Proofs.Remote.Expiries
import AdmissionControl.Proofs.Remote.Spelling
import AdmissionControl.Proofs.Remote.Addresses
import AdmissionControl.Proofs.Http.Metered
import AdmissionControl.Proofs.Http.Resources
import AdmissionControl.Proofs.Http.Punctuality
import AdmissionControl.Proofs.Remote.Raising
import AdmissionControl.Proofs.Remote.Happenings
import AdmissionControl.Proofs.Remote.Separation
import AdmissionControl.Proofs.Admission.Failure
import AdmissionControl.Proofs.Remote.Closing
import AdmissionControl.Proofs.Settings.Validation
import AdmissionControl.Proofs.Network.Writing
import AdmissionControl.Proofs.Http.Headers
import AdmissionControl.Proofs.Http.Sender
import AdmissionControl.Proofs.Store.Upkeep
