import Testbed.Json.Text
import Testbed.Session
import Testbed.Text.Inspection
import Testbed.Text.Blank
import Testbed.Text.Excerpt
import Testbed.Text.Numeral
import Testbed.Json.Scan
import Testbed.Json.Reader
import Testbed.Config.Concern
import Testbed.Config.Storage
import Testbed.Log.Event
import Testbed.Poll.Backoff
import Testbed.Poll.Policy
import Testbed.Poll.Retrieve
import Testbed.Service.Catalogue
import Testbed.Settings
import Testbed.Http.Message
import Testbed.Relational.Row
import Testbed.Series.Export
import Testbed.Series.Query
import Testbed.Edges.Message
import Testbed.Broker.ErrorCode
import Testbed.Record
import Testbed.Outside
import Testbed.Broker.TopicAdmin
import Testbed.Poll.Work
import Testbed.Publisher
import Testbed.Relational.Store
import Testbed.Edges.Client
import Testbed.Http.Client
import Testbed.Query.Client
import Testbed.Series.Store
import Testbed.Service.Manager
import Testbed.Teardown
import Testbed.Environment.Compose
import Testbed.Environment.Environment
import Testbed.Scope
import Testbed.Scope.Body
import Testbed.Log.Filter
import Testbed.Case
import Testbed.Rehearsal.Files
import Testbed.Rehearsal.Machine
import Testbed.Rehearsal.Retrieval
import Testbed.Case.Bundled
import Testbed.Json.Decode
import Testbed.Json.Encode
import Testbed.Scenario.Account
import Testbed.Scenario.Concern
import Testbed.Scenario.Launches
import Testbed.Scenario.Policies
import Testbed.Scenario.Faults
import Testbed.Scenario.Messages
import Testbed.Scenario.Run
import Testbed.Scenario.Clients
import Testbed.Scenario.Environments
import Testbed.Scenario.Scopes
import Testbed.Internet.Address4
import Testbed.Internet.Address6
import Testbed.Text.Table
import Testbed.Text.CombiningClass
import Testbed.Text.Composition
import Testbed.Internet.Direction
import Testbed.Internet.Domain
import Testbed.Http.Url.Host
import Testbed.Http.Url.Path
import Testbed.Http.Url.Reader
import Testbed.Text.Numeric
import Testbed.Log.Pattern.Nesting
import Testbed.Log.Pattern
import Testbed.Http.Uri
import Testbed.Rehearsal.Network
import Testbed.Internet.Punycode
import Testbed.Internet.Spelling
import Testbed.Internet.Joining
import Testbed.Proofs.Runs
import Testbed.Proofs.Retrieval
import Testbed.Proofs.Readiness
import Testbed.Proofs.TeardownRuns
import Testbed.Proofs.Provisioning
import Testbed.Proofs.Consistency
import Testbed.Proofs.Stopping
import Testbed.Proofs.Starting
import Testbed.Proofs.ScopedRuns
import Testbed.Proofs.Rendering
import Testbed.Proofs.Cancellation
import Testbed.Proofs.Lives
import Testbed.Proofs.EarlyFinishes
import Testbed.Proofs.Finishing
import Testbed.Proofs.Operations
import Testbed.Proofs.TopicRequests
import Testbed.Proofs.Secrecy
import Testbed.Proofs.Naming
import Testbed.Proofs.Choices
import Testbed.Proofs.Commands
import Testbed.Proofs.ChildVariables
import Testbed.Proofs.Publishing
import Testbed.Proofs.Flushing
import Testbed.Proofs.Delays
import Testbed.Proofs.Listening
import Testbed.Proofs.Additions
import Testbed.Proofs.Distinctness
import Testbed.Proofs.ReadBack
import Testbed.Proofs.Encoding
import Testbed.Proofs.Transactions
import Testbed.Proofs.NumberVariables
import Testbed.Proofs.Independence
import Testbed.Proofs.TrailingBlanks
import Testbed.Proofs.SteadyReaders
import Testbed.Proofs.Exports
import Testbed.Proofs.Tokens
import Testbed.Proofs.Statements
import Testbed.Proofs.Fields
import Testbed.Proofs.Messages
import Testbed.Proofs.Clearing
import Testbed.Proofs.ServiceStarts
import Testbed.Proofs.Excerpts
import Testbed.Proofs.Conversions
import Testbed.Proofs.TeardownHistories
