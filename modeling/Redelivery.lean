import Redelivery.Backoff
import Redelivery.Broker
import Redelivery.Broker.Consumer
import Redelivery.BrokerError
import Redelivery.Chain
import Redelivery.Chain.Routing
import Redelivery.Chain.Spec
import Redelivery.Chain.Stage
import Redelivery.Classifier
import Redelivery.Clock
import Redelivery.Configuration
import Redelivery.ConfigurationError
import Redelivery.Connection
import Redelivery.Container
import Redelivery.Datum
import Redelivery.DeadLetter
import Redelivery.DispatchError
import Redelivery.DueWait
import Redelivery.DueWait.Script
import Redelivery.Failure
import Redelivery.Headers
import Redelivery.Main
import Redelivery.Messaging
import Redelivery.Number.Decimal
import Redelivery.Number.Scientific
import Redelivery.Number.Shortest
import Redelivery.Number.SipHash
import Redelivery.Number.Time
import Redelivery.Pattern
import Redelivery.Pattern.Flaw
import Redelivery.Pattern.Glob
import Redelivery.Pattern.Regex.Category
import Redelivery.Pattern.Regex.Class
import Redelivery.Pattern.Regex.Classes
import Redelivery.Pattern.Regex.Engine
import Redelivery.Pattern.Regex.Expr
import Redelivery.Pattern.Regex.Flaw
import Redelivery.Pattern.Regex.Folding
import Redelivery.Pattern.Regex.Lexer
import Redelivery.Pattern.Regex.Parser
import Redelivery.Pattern.Regex.Property
import Redelivery.Pattern.Regex.Script
import Redelivery.Proofs.Backoff.Walk
import Redelivery.Proofs.Broker.Cursors
import Redelivery.Proofs.Broker.Delivery
import Redelivery.Proofs.Broker.Fairness
import Redelivery.Proofs.Broker.Log
import Redelivery.Proofs.Broker.Refusals
import Redelivery.Proofs.Broker.Session
import Redelivery.Proofs.Broker.Topics
import Redelivery.Proofs.Chain.Layout
import Redelivery.Proofs.Chain.Rules
import Redelivery.Proofs.Chain.Shape
import Redelivery.Proofs.Chain.Suffixes
import Redelivery.Proofs.Classifier.Levels
import Redelivery.Proofs.Container.Lookups
import Redelivery.Proofs.Container.Posts
import Redelivery.Proofs.Container.Requests
import Redelivery.Proofs.DueWait.Course
import Redelivery.Proofs.DueWait.Slices
import Redelivery.Proofs.Failure.Sources
import Redelivery.Proofs.Fleet.Alone
import Redelivery.Proofs.Fleet.Carriage
import Redelivery.Proofs.Fleet.Conservation
import Redelivery.Proofs.Fleet.Destinations
import Redelivery.Proofs.Fleet.Journal
import Redelivery.Proofs.Fleet.Ledger
import Redelivery.Proofs.Fleet.Order
import Redelivery.Proofs.Fleet.Origins
import Redelivery.Proofs.Fleet.Outages
import Redelivery.Proofs.Fleet.Passage
import Redelivery.Proofs.Fleet.Provenance
import Redelivery.Proofs.Fleet.Punctuality
import Redelivery.Proofs.Fleet.Rejections
import Redelivery.Proofs.Fleet.Run
import Redelivery.Proofs.Fleet.Staff
import Redelivery.Proofs.Fleet.Startup
import Redelivery.Proofs.Pattern.Anchors
import Redelivery.Proofs.Pattern.Brackets
import Redelivery.Proofs.Pattern.Engines
import Redelivery.Proofs.Pattern.Groups
import Redelivery.Proofs.Pattern.Readers
import Redelivery.Proofs.Pattern.Spans
import Redelivery.Proofs.Registry.Bindings
import Redelivery.Proofs.Registry.Choice
import Redelivery.Proofs.Registry.Failures
import Redelivery.Proofs.RetryState.Faults
import Redelivery.Proofs.RetryState.Headers
import Redelivery.Proofs.RetryState.Reading
import Redelivery.Proofs.RetryState.Residue
import Redelivery.Proofs.RetryState.RoundTrip
import Redelivery.Proofs.Route.DeadLetters
import Redelivery.Proofs.Route.Offers
import Redelivery.Proofs.Route.Progress
import Redelivery.Proofs.Route.Timeliness
import Redelivery.Proofs.Route.Walk
import Redelivery.Proofs.Settings.Creation
import Redelivery.Proofs.Worker.Abandoned
import Redelivery.Proofs.Worker.Dispatch
import Redelivery.Proofs.Worker.Notes
import Redelivery.Proofs.Worker.Rejections
import Redelivery.Proofs.Worker.Steps
import Redelivery.Proofs.Worker.Waits
import Redelivery.Record
import Redelivery.Registry
import Redelivery.Report
import Redelivery.RetryState
import Redelivery.Route
import Redelivery.Scope
import Redelivery.Settings
import Redelivery.Settings.Document
import Redelivery.Settings.Layers
import Redelivery.Settings.Source
import Redelivery.Shutdown
import Redelivery.Simulation
import Redelivery.Table
import Redelivery.Text.Affix
import Redelivery.Text.Blank
import Redelivery.Text.Invisible
import Redelivery.Text.NameSet
import Redelivery.Text.Quoted
import Redelivery.Text.Utf8
import Redelivery.Worker
import Redelivery.Yaml.Cursor
import Redelivery.Yaml.Flaw
import Redelivery.Yaml.Node
import Redelivery.Yaml.Plain
import Redelivery.Yaml.Scalar
import Redelivery.Yaml.Token
