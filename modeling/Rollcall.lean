import Rollcall.Address
import Rollcall.Audit
import Rollcall.Backend
import Rollcall.Call
import Rollcall.Cluster
import Rollcall.CommandLine
import Rollcall.Config.Basic
import Rollcall.Config.Document
import Rollcall.Config.Environment
import Rollcall.Config.File
import Rollcall.Config.Validity
import Rollcall.Consul.Agent
import Rollcall.Consul.Client
import Rollcall.Consul.Limits
import Rollcall.Consul.Locks
import Rollcall.Consul.Registry
import Rollcall.Data.SortedSet
import Rollcall.Data.Table
import Rollcall.Document.Basic
import Rollcall.Document.Outcome
import Rollcall.Error
import Rollcall.Fault
import Rollcall.Fleet.App
import Rollcall.Fleet.Basic
import Rollcall.Fleet.Members
import Rollcall.Fleet.Node
import Rollcall.Heartbeat
import Rollcall.Http.Message
import Rollcall.Http.Script
import Rollcall.Http.Status
import Rollcall.Instance
import Rollcall.Journal
import Rollcall.Journal.Document
import Rollcall.Json.Number
import Rollcall.Json.Reader
import Rollcall.Json.Writer
import Rollcall.Lock.Provider
import Rollcall.Lock.Session
import Rollcall.Lock.Store
import Rollcall.Log
import Rollcall.Main
import Rollcall.Plan
import Rollcall.Processor
import Rollcall.Random.Keystream
import Rollcall.Random.Source
import Rollcall.Registry
import Rollcall.Resolver
import Rollcall.Retry
import Rollcall.Retry.Rehearsal
import Rollcall.Scenario.Command
import Rollcall.Scenario.Remote
import Rollcall.Scenario.Run
import Rollcall.Scenario.World
import Rollcall.Service.Client
import Rollcall.Service.Connection
import Rollcall.Signal
import Rollcall.Text.Blank
import Rollcall.Text.CaseTable
import Rollcall.Text.Charset
import Rollcall.Text.Decimal
import Rollcall.Text.Hex
import Rollcall.Text.Lowercase
import Rollcall.Text.Numeral
import Rollcall.Text.Pem
import Rollcall.Text.Quoted
import Rollcall.Text.QuotedTable
import Rollcall.Text.Reading
import Rollcall.Text.Utf8
import Rollcall.Ticker
import Rollcall.Time
import Rollcall.Toml.Moment
import Rollcall.Toml.Number
import Rollcall.Toml.Reader
import Rollcall.Toml.Space
import Rollcall.Toml.Tables
import Rollcall.Toml.Text
import Rollcall.Toml.Value
import Rollcall.Url.Basic
import Rollcall.Url.Fault
import Rollcall.Url.Host
import Rollcall.Url.Percent
import Rollcall.Url.Query
import Rollcall.Url.Reader
import Rollcall.Work
import Rollcall.Proofs.Data.Table
import Rollcall.Proofs.Lock.Store
import Rollcall.Proofs.Lock.Request
import Rollcall.Proofs.Lock.Eager
import Rollcall.Proofs.History
import Rollcall.Proofs.Lock.Run
import Rollcall.Proofs.Lock.Ownership
import Rollcall.Proofs.Data.SortedSet
import Rollcall.Proofs.Registry.Run
import Rollcall.Proofs.Registry.LiveSet
import Rollcall.Proofs.Cluster
import Rollcall.Proofs.Plan
import Rollcall.Proofs.Fleet.Keeps
import Rollcall.Proofs.Fleet.Turn
import Rollcall.Proofs.Fleet.Run
import Rollcall.Proofs.Fleet.Invariant
import Rollcall.Proofs.Fleet.Exclusion
import Rollcall.Proofs.Fleet.Schedule
import Rollcall.Proofs.Audit
import Rollcall.Proofs.Happenings
import Rollcall.Proofs.Fleet.Course
import Rollcall.Proofs.Fleet.Tenancy
import Rollcall.Proofs.Fleet.Ledger
import Rollcall.Proofs.Fleet.Replacement
import Rollcall.Proofs.Fleet.Lapse
import Rollcall.Proofs.Fleet.Punctual
import Rollcall.Proofs.Fleet.Renewal
import Rollcall.Proofs.Config.Validity
import Rollcall.Proofs.Fleet.Beat
import Rollcall.Proofs.Fleet.Tolerance
import Rollcall.Proofs.Fleet.Roster
import Rollcall.Proofs.Fleet.Silence
import Rollcall.Proofs.Fleet.Guards
import Rollcall.Proofs.Fleet.Backstop
import Rollcall.Proofs.Fleet.Signs
import Rollcall.Proofs.Fleet.Settling
import Rollcall.Proofs.Fleet.Departure
import Rollcall.Proofs.Fleet.Startup
import Rollcall.Proofs.Fleet.Phases
import Rollcall.Proofs.Fleet.Joining
import Rollcall.Proofs.Fleet.Custody
import Rollcall.Proofs.Fleet.Running
import Rollcall.Proofs.Fleet.Shutdown
import Rollcall.Proofs.Url.Literal
import Rollcall.Proofs.Consul.Client
import Rollcall.Proofs.Consul.Operations
import Rollcall.Proofs.Consul.Paths
import Rollcall.Proofs.Address
import Rollcall.Proofs.Consul.Addresses
import Rollcall.Proofs.Fleet.Configured
import Rollcall.Proofs.Retry
import Rollcall.Proofs.Service.Client
import Rollcall.Proofs.Progress
import Rollcall.Proofs.Processor.Run
import Rollcall.Proofs.Processor.Passes
import Rollcall.Proofs.Processor.Stopping
import Rollcall.Proofs.Processor.Pauses
import Rollcall.Proofs.Fleet.Working
import Rollcall.Proofs.Fleet.Onward
import Rollcall.Proofs.Audit.Reads
import Rollcall.Proofs.Audit.Outage
import Rollcall.Proofs.Audit.Transient
import Rollcall.Proofs.Consul.Entries
import Rollcall.Proofs.Consul.Outcomes
import Rollcall.Proofs.Retry.Rehearsal
import Rollcall.Proofs.Ticker
import Rollcall.Proofs.Fleet.Cadence
import Rollcall.Proofs.Consul.Sessions
import Rollcall.Proofs.Consul.Dealings
import Rollcall.Proofs.Config.Names
import Rollcall.Proofs.Config.Environment
import Rollcall.Proofs.Resolver
import Rollcall.Proofs.Fleet.AsWritten
import Rollcall.Proofs.Config.Fields
import Rollcall.Proofs.Config.Document
