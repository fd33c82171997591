import WirelessControl.Channel.Conversation
import WirelessControl.Channel.Link
import WirelessControl.Channel.Opening
import WirelessControl.Channel.Port
import WirelessControl.Command.Core
import WirelessControl.Command.Recipe
import WirelessControl.Command.State
import WirelessControl.Config.Basic
import WirelessControl.Config.CommandLine
import WirelessControl.Config.Environment
import WirelessControl.Config.Field
import WirelessControl.Config.Loading
import WirelessControl.Config.LogFormat
import WirelessControl.Config.Stored
import WirelessControl.Daemon.Bootstrap
import WirelessControl.Daemon.Health
import WirelessControl.Daemon.Launch
import WirelessControl.Daemon.LogFilter
import WirelessControl.Daemon.Signal
import WirelessControl.Engine.Action
import WirelessControl.Engine.Answer
import WirelessControl.Engine.Cancellation
import WirelessControl.Engine.Dispatch
import WirelessControl.Engine.EventLoop
import WirelessControl.Engine.Exchange
import WirelessControl.Engine.Journal
import WirelessControl.Engine.Operations
import WirelessControl.Engine.Perform
import WirelessControl.Engine.Responder
import WirelessControl.Engine.Session
import WirelessControl.Engine.Shutdown
import WirelessControl.Engine.Tables
import WirelessControl.Engine.Transaction
import WirelessControl.Failure
import WirelessControl.Family
import WirelessControl.Main
import WirelessControl.OsError
import WirelessControl.Pattern.Basic
import WirelessControl.Pattern.Bracket
import WirelessControl.Pattern.Escape
import WirelessControl.Pattern.Reader
import WirelessControl.Proofs.Answers
import WirelessControl.Proofs.AttributeForest
import WirelessControl.Proofs.AttributeRuns
import WirelessControl.Proofs.BreachReports
import WirelessControl.Proofs.Bystanders
import WirelessControl.Proofs.Care
import WirelessControl.Proofs.ChannelReplies
import WirelessControl.Proofs.CommandLife
import WirelessControl.Proofs.Completions
import WirelessControl.Proofs.ConsistentConfigs
import WirelessControl.Proofs.Correlation
import WirelessControl.Proofs.Course
import WirelessControl.Proofs.CutReplies
import WirelessControl.Proofs.Deafness
import WirelessControl.Proofs.Drafting
import WirelessControl.Proofs.Draining
import WirelessControl.Proofs.EventLoop
import WirelessControl.Proofs.EventRouting
import WirelessControl.Proofs.Exchange
import WirelessControl.Proofs.FailedStarts
import WirelessControl.Proofs.Fairness
import WirelessControl.Proofs.FamilyMessages
import WirelessControl.Proofs.FamilyResolution
import WirelessControl.Proofs.FilterPrograms
import WirelessControl.Proofs.Framing
import WirelessControl.Proofs.Hearing
import WirelessControl.Proofs.History
import WirelessControl.Proofs.LateRegistrations
import WirelessControl.Proofs.Layering
import WirelessControl.Proofs.Leftovers
import WirelessControl.Proofs.Monitors
import WirelessControl.Proofs.Moves
import WirelessControl.Proofs.Nesting
import WirelessControl.Proofs.Numbering
import WirelessControl.Proofs.Operations
import WirelessControl.Proofs.Ownership
import WirelessControl.Proofs.Partings
import WirelessControl.Proofs.PortAllocation
import WirelessControl.Proofs.Refusal
import WirelessControl.Proofs.RepeatedStarts
import WirelessControl.Proofs.Restarts
import WirelessControl.Proofs.Rollback
import WirelessControl.Proofs.Room
import WirelessControl.Proofs.Run
import WirelessControl.Proofs.Sending
import WirelessControl.Proofs.SequenceNumbers
import WirelessControl.Proofs.Step
import WirelessControl.Proofs.Strides
import WirelessControl.Proofs.Unsent
import WirelessControl.Proofs.VendorRequests
import WirelessControl.Proofs.Walk
import WirelessControl.Text.Alphanumeric
import WirelessControl.Text.Blank
import WirelessControl.Text.Decimal
import WirelessControl.Text.Hexadecimal
import WirelessControl.Text.Json
import WirelessControl.Text.Printable
import WirelessControl.Text.Quoted
import WirelessControl.Text.Scan
import WirelessControl.Text.Slice
import WirelessControl.Text.Utf8
import WirelessControl.Toml.Basic
import WirelessControl.Toml.Edition
import WirelessControl.Toml.Marked
import WirelessControl.Toml.Reader
import WirelessControl.Toml.Scalar
import WirelessControl.Vendor.Channels
import WirelessControl.Vendor.FeatureSet
import WirelessControl.Vendor.Number
import WirelessControl.Vendor.PacketFilter
import WirelessControl.Vendor.Restart
import WirelessControl.Vendor.Rssi
import WirelessControl.Vendor.Setting
import WirelessControl.Wire.Attribute
import WirelessControl.Wire.Message
import WirelessControl.Wire.Put
import WirelessControl.Wire.Request
import WirelessControl.Wire.Routing
import WirelessControl.Wire.Word
import WirelessControl.Wire.Workbench
