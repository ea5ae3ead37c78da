import DeferredText.Action
import DeferredText.Cache.Register
import DeferredText.Cache.Render
import DeferredText.Cache.Session
import DeferredText.Cache.Setup
import DeferredText.Config.Check
import DeferredText.Config.Environment
import DeferredText.Config.Files
import DeferredText.Config.Loader
import DeferredText.Config.Merge
import DeferredText.Config.Settings
import DeferredText.Expression.Embedded
import DeferredText.Expression.Literal
import DeferredText.Expression.Parse
import DeferredText.Expression.Problem
import DeferredText.Expression.Syntax
import DeferredText.Expression.Token
import DeferredText.Failure
import DeferredText.Format.Field
import DeferredText.Format.Layout
import DeferredText.Format.Message
import DeferredText.Format.Number
import DeferredText.Format.Specification
import DeferredText.Helper.Behaviour
import DeferredText.Helper.Script
import DeferredText.Helper.StandIn
import DeferredText.Log.Event
import DeferredText.Log.Line
import DeferredText.Log.Settings
import DeferredText.Number.Binary64
import DeferredText.Number.Layout
import DeferredText.Number.Shortest
import DeferredText.Placeholder.Shape
import DeferredText.Placeholder.Supply
import DeferredText.Registry.Table
import DeferredText.Report.Catalog
import DeferredText.Report.Standard
import DeferredText.Resolve.Call
import DeferredText.Resolve.Drain
import DeferredText.Resolve.Invoke
import DeferredText.Resolve.Schedule
import DeferredText.Resolve.State
import DeferredText.Resolve.Substitute
import DeferredText.Resolve.Task
import DeferredText.Template.Evaluate
import DeferredText.Template.Filter
import DeferredText.Template.Read
import DeferredText.Template.Segment
import DeferredText.Text.Blank
import DeferredText.Text.Casing
import DeferredText.Text.CodeTable
import DeferredText.Text.Compatibility
import DeferredText.Text.Digit
import DeferredText.Text.Identifier
import DeferredText.Text.Printable
import DeferredText.Text.Quoted
import DeferredText.Text.Search
import DeferredText.Value.Access
import DeferredText.Value.Basic
import DeferredText.Value.Json
import DeferredText.Value.Text
import DeferredText.Waitlist
import DeferredText.Yaml.Cursor
import DeferredText.Yaml.Node
import DeferredText.Yaml.Numeral
import DeferredText.Yaml.Scalar
import DeferredText.Yaml.Schema
import DeferredText.Yaml.Timestamp
import DeferredText.Yaml.Token
import DeferredText.Yaml.Value
import DeferredText.Proofs.Fragments
import DeferredText.Proofs.Effects
import DeferredText.Proofs.Course
import DeferredText.Proofs.Territory
import DeferredText.Proofs.Guarded
import DeferredText.Proofs.Composed
import DeferredText.Proofs.Quiet
import DeferredText.Proofs.Conduct
import DeferredText.Proofs.Turns
import DeferredText.Proofs.Substitution
import DeferredText.Proofs.Overlap
import DeferredText.Proofs.Needed
import DeferredText.Proofs.Discard
import DeferredText.Proofs.Tokens
import DeferredText.Proofs.Contents
import DeferredText.Proofs.Handover
import DeferredText.Proofs.Tokenless
import DeferredText.Proofs.Tidy
import DeferredText.Proofs.Sound
import DeferredText.Proofs.Sessions
import DeferredText.Proofs.Written
import DeferredText.Proofs.Family
import DeferredText.Proofs.Thread
import DeferredText.Proofs.Lockstep
import DeferredText.Proofs.Replay
import DeferredText.Proofs.Agreement
import DeferredText.Proofs.Finished
import DeferredText.Proofs.Retired
import DeferredText.Proofs.Completion
import DeferredText.Proofs.Recount
import DeferredText.Proofs.Calm
import DeferredText.Proofs.Relay
import DeferredText.Proofs.Growth
import DeferredText.Proofs.Rounds
import DeferredText.Proofs.Promised
import DeferredText.Proofs.Reserved
import DeferredText.Proofs.Started
import DeferredText.Proofs.Orderly
import DeferredText.Proofs.Wording
import DeferredText.Proofs.Sinking
import DeferredText.Proofs.Permitted
import DeferredText.Proofs.Delimited
import DeferredText.Proofs.Naming
import DeferredText.Proofs.Faults
import DeferredText.Proofs.Surfacing
import DeferredText.Proofs.Ensemble
import DeferredText.Proofs.Splicing
import DeferredText.Proofs.Nesting
import DeferredText.Proofs.Tellable
import DeferredText.Proofs.Commands
import DeferredText.Proofs.Unheard
import DeferredText.Proofs.Accepted
import DeferredText.Proofs.Ledger
import DeferredText.Proofs.Weaving
import DeferredText.Proofs.Disclosed
import DeferredText.Proofs.Discreet
import DeferredText.Proofs.Noted
import DeferredText.Proofs.Strictness
import DeferredText.Proofs.Sites
import DeferredText.Proofs.Sequence
import DeferredText.Proofs.Validated
import DeferredText.Proofs.Covered
import DeferredText.Proofs.Decided
import DeferredText.Proofs.Aloof
import DeferredText.Proofs.Account
import DeferredText.Proofs.Leftmost
import DeferredText.Proofs.Decoded
import DeferredText.Proofs.Expanded
import DeferredText.Proofs.Formatted
import DeferredText.Proofs.Reported
import DeferredText.Proofs.Sameness
import DeferredText.Proofs.Layers
import DeferredText.Proofs.Reach
import DeferredText.Proofs.Loads
import DeferredText.Proofs.Upkeep
import DeferredText.Proofs.Groups
