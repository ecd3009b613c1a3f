import Jotter.Cap
import Jotter.Text.Alphanumeric
import Jotter.Text.Blank
import Jotter.Text.Case
import Jotter.Text.Digit
import Jotter.Text.Quoted
import Jotter.Text.Search
import Jotter.Text.Split
import Jotter.Calendar.Moment
import Jotter.Calendar.Epoch
import Jotter.Calendar.Timestamp
import Jotter.Number.Shortest
import Jotter.Schedule.Resolution
import Jotter.Command.Registry
import Jotter.Hashtag
import Jotter.History
import Jotter.Services
import Jotter.Console.Theme
import Jotter.Help
import Jotter.Template
import Jotter.Builtin.Set
import Jotter.Panel.Completion
import Jotter.Panel.Exchange
import Jotter.Panel.Suggester
import Jotter.Composer.Creation
import Jotter.Composer.Conversation
import Jotter.Log
import Jotter.Settings.Value
import Jotter.Settings.Reference
import Jotter.Files.Folder
import Jotter.Settings.Configuration
import Jotter.Settings.Cache
import Jotter.CommandLine.Options
import Jotter.CommandLine.Report
import Jotter.Main
import Jotter.Proofs.Panel.Run
import Jotter.Proofs.Panel.Freshness
import Jotter.Proofs.Panel.Coherence
import Jotter.Proofs.Panel.Suggester
import Jotter.Proofs.Command.Names
import Jotter.Proofs.Command.Owners
import Jotter.Proofs.Command.Lookup
import Jotter.Proofs.Command.Narrowing
import Jotter.Proofs.Command.Hooks
import Jotter.Proofs.Session.Run
import Jotter.Proofs.Session.Trace
import Jotter.Proofs.Line.Quoting
import Jotter.Proofs.Line.Draft
import Jotter.Proofs.Line.Tokens
import Jotter.Proofs.Line.Continued
import Jotter.Proofs.Session.Dispatch
import Jotter.Proofs.Builtin.Effect
import Jotter.Proofs.Schedule.Overflow
import Jotter.Proofs.Console.Drawn
import Jotter.Proofs.Composer.Submission
import Jotter.Proofs.Composer.Survival
import Jotter.Proofs.Panel.Completion
import Jotter.Proofs.Vault.Growth
import Jotter.Proofs.Composer.Loss
import Jotter.Proofs.Composer.Notes
import Jotter.Proofs.Composer.Notebook
import Jotter.Proofs.Composer.Escape
import Jotter.Proofs.Text.Separator
import Jotter.Proofs.Schedule.Due
import Jotter.Proofs.Schedule.Ahead
import Jotter.Proofs.Schedule.Forms
import Jotter.Proofs.Builtin.Reminder
import Jotter.Proofs.Builtin.Desk
import Jotter.Proofs.Builtin.Validated
import Jotter.Proofs.Schedule.Grammar
import Jotter.Proofs.Builtin.Readable
import Jotter.Proofs.Vault.Tags
import Jotter.Proofs.Vault.Hashtag
import Jotter.Proofs.Builtin.TagSearch
import Jotter.Proofs.Builtin.TextSearch
import Jotter.Proofs.Text.Joined
import Jotter.Proofs.Panel.Acceptance
import Jotter.Proofs.Panel.Hint
import Jotter.Proofs.Panel.Notebook
import Jotter.Proofs.Builtin.TagInsertion
import Jotter.Proofs.Help.Listing
import Jotter.Proofs.Settings.Shape
import Jotter.Proofs.Settings.Pattern
import Jotter.Proofs.Settings.Reference
import Jotter.Proofs.Settings.Keys
import Jotter.Proofs.Settings.Overlay
import Jotter.Proofs.Calendar.Epoch
import Jotter.Proofs.Calendar.Timestamp
