import Scrutiny.Calendar.Date
import Scrutiny.Calendar.Fields
import Scrutiny.Calendar.Layout
import Scrutiny.Calendar.Moment
import Scrutiny.Check
import Scrutiny.Check.Arguments
import Scrutiny.Check.Choice
import Scrutiny.Check.Form
import Scrutiny.Check.Presence
import Scrutiny.Check.Procedure
import Scrutiny.Check.Size
import Scrutiny.Check.Words
import Scrutiny.CommandLine.Run
import Scrutiny.CommandLine.Trouble
import Scrutiny.CommandLine.Usage
import Scrutiny.Converter
import Scrutiny.Decimal.Literal
import Scrutiny.Decimal.Notation
import Scrutiny.Decimal.Shortest
import Scrutiny.Decimal.Text
import Scrutiny.DeclarationError
import Scrutiny.Described
import Scrutiny.Document
import Scrutiny.Entity
import Scrutiny.Entries
import Scrutiny.ErrorMap
import Scrutiny.Export
import Scrutiny.Json.Printer
import Scrutiny.Json.Reader
import Scrutiny.Json.Token
import Scrutiny.Main
import Scrutiny.Messages
import Scrutiny.Outcome
import Scrutiny.Path
import Scrutiny.Pattern.Basic
import Scrutiny.Pattern.Bracket
import Scrutiny.Pattern.CharSet
import Scrutiny.Pattern.Escape
import Scrutiny.Pattern.Matching
import Scrutiny.Pattern.Reader
import Scrutiny.Populate
import Scrutiny.Proofs.Check.Blank
import Scrutiny.Proofs.Check.Bounds
import Scrutiny.Proofs.Check.Judgement
import Scrutiny.Proofs.Check.MailAddress
import Scrutiny.Proofs.Check.Preparing
import Scrutiny.Proofs.Check.Texts
import Scrutiny.Proofs.Decimal.Encoding
import Scrutiny.Proofs.Decimal.Nearest
import Scrutiny.Proofs.Decimal.Numeral
import Scrutiny.Proofs.Decimal.ReadBack
import Scrutiny.Proofs.Decimal.Reading
import Scrutiny.Proofs.Decimal.Whole
import Scrutiny.Proofs.ErrorMap.Counting
import Scrutiny.Proofs.ErrorMap.Merging
import Scrutiny.Proofs.ErrorMap.Recording
import Scrutiny.Proofs.ErrorMap.Rerooting
import Scrutiny.Proofs.Pattern.Action
import Scrutiny.Proofs.Pattern.Casing
import Scrutiny.Proofs.Pattern.Embedding
import Scrutiny.Proofs.Pattern.Fragment
import Scrutiny.Proofs.Pattern.Groupless
import Scrutiny.Proofs.Pattern.Languages
import Scrutiny.Proofs.Pattern.Meaning
import Scrutiny.Proofs.Pattern.SplicedBracket
import Scrutiny.Proofs.Pattern.Splicing
import Scrutiny.Proofs.Pattern.Threads
import Scrutiny.Proofs.Record.Barring
import Scrutiny.Proofs.Record.Conforming
import Scrutiny.Proofs.Record.Excluding
import Scrutiny.Proofs.Record.Filling
import Scrutiny.Proofs.Record.Filtering
import Scrutiny.Proofs.Record.Fitting
import Scrutiny.Proofs.Record.Mirroring
import Scrutiny.Proofs.Record.Operating
import Scrutiny.Proofs.Record.Overlay
import Scrutiny.Proofs.Record.RoundTrip
import Scrutiny.Proofs.Record.Settling
import Scrutiny.Proofs.Record.Simulation
import Scrutiny.Proofs.Record.Sparing
import Scrutiny.Proofs.Record.Storing
import Scrutiny.Proofs.Record.Tracing
import Scrutiny.Proofs.Schema.Answering
import Scrutiny.Proofs.Schema.Building
import Scrutiny.Proofs.Schema.Resolving
import Scrutiny.Proofs.ScopeNames.Composing
import Scrutiny.Proofs.ScopeNames.Distinct
import Scrutiny.Proofs.ScopeNames.Reading
import Scrutiny.Proofs.Template.Plain
import Scrutiny.Proofs.Value.Equality
import Scrutiny.Proofs.Walk.Abort
import Scrutiny.Proofs.Walk.Account
import Scrutiny.Proofs.Walk.Ancestry
import Scrutiny.Proofs.Walk.Brackets
import Scrutiny.Proofs.Walk.Composition
import Scrutiny.Proofs.Walk.Hooking
import Scrutiny.Proofs.Walk.PreOrder
import Scrutiny.Proofs.Walk.Scoping
import Scrutiny.Proofs.Walk.Simulation
import Scrutiny.Proofs.Walk.Stopping
import Scrutiny.Proofs.Walk.Uniqueness
import Scrutiny.Proofs.Word.Classes
import Scrutiny.Proofs.Word.Compiling
import Scrutiny.Proofs.Word.Components
import Scrutiny.Proofs.Word.Denoting
import Scrutiny.Proofs.Word.Finding
import Scrutiny.Proofs.Word.Following
import Scrutiny.Proofs.Word.Graphemes
import Scrutiny.Proofs.Word.Merging
import Scrutiny.Proofs.Word.Occurrence
import Scrutiny.Proofs.Word.Reading
import Scrutiny.Proofs.Word.Remembering
import Scrutiny.Proofs.Word.Respelling
import Scrutiny.Proofs.Word.Scanning
import Scrutiny.Proofs.Word.Screening
import Scrutiny.Proofs.Word.Splitting
import Scrutiny.Record
import Scrutiny.Registry
import Scrutiny.Rule
import Scrutiny.RuleDecl
import Scrutiny.Schema
import Scrutiny.Schema.Config
import Scrutiny.Scope
import Scrutiny.ScopeNames
import Scrutiny.Shape
import Scrutiny.Template.Basic
import Scrutiny.Template.Located
import Scrutiny.Template.Reader
import Scrutiny.Template.Render
import Scrutiny.Terminal.Color
import Scrutiny.Terminal.Control
import Scrutiny.Terminal.Styled
import Scrutiny.Terminal.Theme
import Scrutiny.Text.Category
import Scrutiny.Text.Category.Letters
import Scrutiny.Text.Category.Marks
import Scrutiny.Text.Category.Numbers
import Scrutiny.Text.Category.Others
import Scrutiny.Text.Category.Punctuation
import Scrutiny.Text.Category.Symbols
import Scrutiny.Text.Folding
import Scrutiny.Text.Property
import Scrutiny.Text.Property.Tables
import Scrutiny.Text.Quoted
import Scrutiny.Text.Ranges
import Scrutiny.Text.Script
import Scrutiny.Text.Script.AtoH
import Scrutiny.Text.Script.ItoO
import Scrutiny.Text.Script.PtoZ
import Scrutiny.Text.WhiteSpace
import Scrutiny.Validation
import Scrutiny.Value
import Scrutiny.Walk
import Scrutiny.Word.Compiled
import Scrutiny.Word.Confusables
import Scrutiny.Word.Policy
import Scrutiny.Word.PolicyReader
import Scrutiny.Word.Screen
import Scrutiny.Word.Spelling
import Scrutiny.Yaml.Block
import Scrutiny.Yaml.Cursor
import Scrutiny.Yaml.Meaning
import Scrutiny.Yaml.Node
import Scrutiny.Yaml.Plain
import Scrutiny.Yaml.Quoted
import Scrutiny.Yaml.Tag
import Scrutiny.Yaml.Token
import Scrutiny.Yaml.Tokens
