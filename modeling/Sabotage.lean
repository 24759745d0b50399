import Sabotage.Arrange
import Sabotage.BugKind
import Sabotage.Clock
import Sabotage.Command.Arguments
import Sabotage.Command.Complaint
import Sabotage.Command.Configure
import Sabotage.Command.Console
import Sabotage.Command.Ending
import Sabotage.Command.Inject
import Sabotage.Command.Invocation
import Sabotage.Command.Layout
import Sabotage.Command.Report
import Sabotage.Command.Run
import Sabotage.Command.Watching
import Sabotage.Commentary.Address
import Sabotage.Commentary.Roast
import Sabotage.Decimal.Figure
import Sabotage.Decimal.Layout
import Sabotage.Decimal.Numeral
import Sabotage.Decimal.Shortest
import Sabotage.Digest.Sha256
import Sabotage.Disk.Basic
import Sabotage.Disk.Store
import Sabotage.Disk.StoreText
import Sabotage.Draft
import Sabotage.Edit
import Sabotage.Editor
import Sabotage.History.Entry
import Sabotage.History.Ledger
import Sabotage.Homoglyph
import Sabotage.Injection
import Sabotage.Json.Basic
import Sabotage.Json.Display
import Sabotage.Json.Printer
import Sabotage.Json.Reader
import Sabotage.Literal
import Sabotage.Logging
import Sabotage.Main
import Sabotage.Operator
import Sabotage.Path
import Sabotage.Project
import Sabotage.Proofs.Replay
import Sabotage.Proofs.Rounds
import Sabotage.Random.MersenneTwister
import Sabotage.Random.Source
import Sabotage.Rule.Catalog
import Sabotage.Rule.Negation
import Sabotage.Rule.Plan
import Sabotage.Rule.Rewording
import Sabotage.Rule.Shadowing
import Sabotage.Rule.Swap
import Sabotage.Scope.Binding
import Sabotage.Scope.Shadow
import Sabotage.Scope.Survey
import Sabotage.Selection
import Sabotage.Settings
import Sabotage.Surroundings
import Sabotage.Syntax.Language
import Sabotage.Syntax.Node
import Sabotage.Syntax.ParseTable
import Sabotage.Table
import Sabotage.Text.Blank
import Sabotage.Text.Bytes
import Sabotage.Text.Cased
import Sabotage.Text.ChangeRange
import Sabotage.Text.CharacterName
import Sabotage.Text.CharacterName.Aliases
import Sabotage.Text.CharacterName.EastAsia
import Sabotage.Text.CharacterName.LaterLetters
import Sabotage.Text.CharacterName.Letters
import Sabotage.Text.CharacterName.Notations
import Sabotage.Text.CharacterName.OldScripts
import Sabotage.Text.CharacterName.Pictures
import Sabotage.Text.CharacterName.Symbols
import Sabotage.Text.Columns
import Sabotage.Text.Constant
import Sabotage.Text.Constant.Token
import Sabotage.Text.ControlSequence
import Sabotage.Text.Digit
import Sabotage.Text.Emoji
import Sabotage.Text.Emoji.Names
import Sabotage.Text.Encoding
import Sabotage.Text.Glob
import Sabotage.Text.Grid
import Sabotage.Text.Hex
import Sabotage.Text.Highlight
import Sabotage.Text.Letter
import Sabotage.Text.LineEnding
import Sabotage.Text.Lines
import Sabotage.Text.Lowercase
import Sabotage.Text.Markup
import Sabotage.Text.Pattern
import Sabotage.Text.Printable
import Sabotage.Text.Quoted
import Sabotage.Text.Slice
import Sabotage.Text.Spelling
import Sabotage.Text.Split
import Sabotage.Text.Stretch
import Sabotage.Text.Style
import Sabotage.Text.Utf8Fault
import Sabotage.Text.Wrap
import Sabotage.Watch.Guard
import Sabotage.Watch.Ignored
import Sabotage.Watch.Pending
import Sabotage.Watch.Session
import Sabotage.Watch.Watcher
import Sabotage.Workbench
import Sabotage.Proofs.WellFormed
import Sabotage.Proofs.Bindings
import Sabotage.Proofs.Splices
import Sabotage.Proofs.Contract
import Sabotage.Proofs.Expression
import Sabotage.Proofs.Strata
import Sabotage.Proofs.Lexing
import Sabotage.Proofs.Context
import Sabotage.Proofs.Layout
import Sabotage.Proofs.Regrouping
import Sabotage.Proofs.Breaks
import Sabotage.Proofs.ChangedLines
import Sabotage.Proofs.Seams
import Sabotage.Proofs.Tokens
import Sabotage.Proofs.RulePlans
import Sabotage.Proofs.SmoothPlans
import Sabotage.Proofs.Stretches
import Sabotage.Proofs.Numerals
import Sabotage.Proofs.SmoothRuns
import Sabotage.Proofs.Places
import Sabotage.Proofs.Report
import Sabotage.Proofs.Gains
import Sabotage.Proofs.Signs
import Sabotage.Proofs.RealChange
import Sabotage.Proofs.PathTexts
import Sabotage.Proofs.Disks
import Sabotage.Proofs.Replacing
import Sabotage.Proofs.Watching
import Sabotage.Proofs.Fitting
import Sabotage.Proofs.Failures
import Sabotage.Proofs.Stamps
import Sabotage.Proofs.BackupNames
import Sabotage.Proofs.Restoring
import Sabotage.Proofs.Rehearsing
import Sabotage.Proofs.Failing
import Sabotage.Proofs.Unwritten
import Sabotage.Proofs.Ledgers
import Sabotage.Proofs.Waiting
import Sabotage.Proofs.Logs
import Sabotage.Proofs.Withstanding
import Sabotage.Proofs.Taunts
import Sabotage.Proofs.Overlaps
import Sabotage.Proofs.Patchwork
import Sabotage.Proofs.Margins
import Sabotage.Proofs.Mishaps
import Sabotage.Proofs.Declaring
import Sabotage.Proofs.Operands
import Sabotage.Proofs.Captures
import Sabotage.Proofs.Redeclaring
import Sabotage.Proofs.Rounding
import Sabotage.Proofs.IntegerLiterals
import Sabotage.Proofs.DecimalLiterals
import Sabotage.Proofs.Alterations
import Sabotage.Proofs.SpoofedNames
import Sabotage.Proofs.FinalBreaks
import Sabotage.Proofs.Guarding
import Sabotage.Proofs.Budgets
import Sabotage.Proofs.Scripts
import Sabotage.Proofs.Phrases
import Sabotage.Proofs.PhraseReading
import Sabotage.Proofs.PhraseContexts
import Sabotage.Proofs.PhraseTrees
import Sabotage.Proofs.Negating
import Sabotage.Proofs.Counts
import Sabotage.Proofs.Noticing
import Sabotage.Proofs.Flushing
import Sabotage.Proofs.BackupLists
import Sabotage.Proofs.Comments
import Sabotage.Proofs.Transparency
import Sabotage.Proofs.Traversals
