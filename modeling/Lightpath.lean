import Lightpath.Channel
import Lightpath.Channel.Band
import Lightpath.Channel.Window
import Lightpath.Circuit.Audit
import Lightpath.Circuit.Connection
import Lightpath.Circuit.Edit
import Lightpath.Circuit.Link
import Lightpath.Circuit.Name
import Lightpath.CommandLine
import Lightpath.CommandLine.Arguments
import Lightpath.CommandLine.Help
import Lightpath.Config
import Lightpath.Config.Text
import Lightpath.Controller
import Lightpath.Datastore
import Lightpath.Decimal.Layout
import Lightpath.Decimal.Numeral
import Lightpath.Decimal.Shortest
import Lightpath.Device
import Lightpath.Document
import Lightpath.Document.Draft
import Lightpath.Document.Printer
import Lightpath.Document.Reader
import Lightpath.Encoding
import Lightpath.Encoding.Config
import Lightpath.Encoding.Connection
import Lightpath.Encoding.FlowRule
import Lightpath.Encoding.Yaml
import Lightpath.Error
import Lightpath.FiberSwitch
import Lightpath.FlowRule
import Lightpath.Frequency
import Lightpath.Inventory
import Lightpath.Main
import Lightpath.Model
import Lightpath.ParseError
import Lightpath.Plan
import Lightpath.Port
import Lightpath.Port.Naming
import Lightpath.PowerRange
import Lightpath.Proofs.Action
import Lightpath.Proofs.Channel.Grid
import Lightpath.Proofs.Channel.Width
import Lightpath.Proofs.Channel.Window
import Lightpath.Proofs.Circuit.Audit
import Lightpath.Proofs.Circuit.Cache
import Lightpath.Proofs.Circuit.Documents
import Lightpath.Proofs.Circuit.Holdings
import Lightpath.Proofs.Circuit.Legible
import Lightpath.Proofs.Circuit.Naming
import Lightpath.Proofs.Circuit.ReadBack
import Lightpath.Proofs.Circuit.Shape
import Lightpath.Proofs.Circuit.Sheets
import Lightpath.Proofs.Circuit.Spectrum
import Lightpath.Proofs.CommandLine.Planning
import Lightpath.Proofs.Controller.Address
import Lightpath.Proofs.Controller.Binding
import Lightpath.Proofs.Controller.Isolation
import Lightpath.Proofs.Controller.Limit
import Lightpath.Proofs.Controller.Powers
import Lightpath.Proofs.Controller.Recovery
import Lightpath.Proofs.Controller.Run
import Lightpath.Proofs.Controller.Step
import Lightpath.Proofs.Controller.Writes
import Lightpath.Proofs.Document.Collapse
import Lightpath.Proofs.Document.Leaves
import Lightpath.Proofs.Document.Numbers
import Lightpath.Proofs.Document.Plain
import Lightpath.Proofs.Document.Text
import Lightpath.Proofs.Encoding.Abridged
import Lightpath.Proofs.Encoding.RoundTrip
import Lightpath.Proofs.FiberSwitch.Channels
import Lightpath.Proofs.FiberSwitch.Orders
import Lightpath.Proofs.FiberSwitch.Owed
import Lightpath.Proofs.FiberSwitch.Patches
import Lightpath.Proofs.FiberSwitch.ReadBack
import Lightpath.Proofs.FiberSwitch.Repair
import Lightpath.Proofs.Frequency.Shortest
import Lightpath.Proofs.Frequency.Spelling
import Lightpath.Proofs.Frequency.Text
import Lightpath.Proofs.Plan
import Lightpath.Proofs.Port.Bands
import Lightpath.Proofs.Port.Naming
import Lightpath.Proofs.Port.Number
import Lightpath.Proofs.PowerRange
import Lightpath.Proofs.Roadm.Action
import Lightpath.Proofs.Roadm.AnyOrder
import Lightpath.Proofs.Roadm.Cleanup
import Lightpath.Proofs.Roadm.Collapse
import Lightpath.Proofs.Roadm.Discovery
import Lightpath.Proofs.Roadm.Forgetting
import Lightpath.Proofs.Roadm.Identity
import Lightpath.Proofs.Roadm.Interfaces
import Lightpath.Proofs.Roadm.Mirror
import Lightpath.Proofs.Roadm.Planned
import Lightpath.Proofs.Roadm.Power
import Lightpath.Proofs.Roadm.Provision
import Lightpath.Proofs.Roadm.Reconcile
import Lightpath.Proofs.Roadm.Rehearsal
import Lightpath.Proofs.Roadm.Remembered
import Lightpath.Proofs.Roadm.Restart
import Lightpath.Proofs.Roadm.Roles
import Lightpath.Proofs.Roadm.RoundTrip
import Lightpath.Proofs.Roadm.Run
import Lightpath.Proofs.Roadm.Sequence
import Lightpath.Proofs.Roadm.Sharing
import Lightpath.Proofs.Roadm.Strays
import Lightpath.Proofs.Roadm.Tuning
import Lightpath.Proofs.Roadm.Unlabelled
import Lightpath.Proofs.Roadm.Writes
import Lightpath.Proofs.Session.Exchange
import Lightpath.Proofs.Text.Digits
import Lightpath.Proofs.Text.Ends
import Lightpath.Proofs.Text.Runs
import Lightpath.Proofs.Text.Search
import Lightpath.Roadm
import Lightpath.Roadm.Discovery
import Lightpath.Roadm.Power
import Lightpath.Roadm.Provision
import Lightpath.Roadm.Reconcile
import Lightpath.Sample
import Lightpath.Session.Netconf
import Lightpath.Session.Registry
import Lightpath.Session.Rest
import Lightpath.Table
import Lightpath.Text.Blank
import Lightpath.Text.Digits
import Lightpath.Text.Search
import Lightpath.Yaml.Cursor
import Lightpath.Yaml.Node
import Lightpath.Yaml.Scalar
import Lightpath.Yaml.Token
import Lightpath.Yaml.Token.Block
import Lightpath.Yaml.Token.Lexer
import Lightpath.Yaml.Token.Plain
import Lightpath.Yaml.Token.Quoted
import Lightpath.Yaml.Token.Tag
import Lightpath.Yaml.Tree
