import Blueprint.Check.Boundary
import Blueprint.Check.Conflict
import Blueprint.Check.Structure
import Blueprint.Check.Style
import Blueprint.Check.Typing
import Blueprint.Check.Wiring
import Blueprint.CommandLine.Outcome
import Blueprint.CommandLine.Request
import Blueprint.CommandLine.Response
import Blueprint.Constraint
import Blueprint.Declared
import Blueprint.Entity
import Blueprint.Event
import Blueprint.Field.Modifiers
import Blueprint.Field.Type
import Blueprint.FileTree
import Blueprint.Flow
import Blueprint.Integration
import Blueprint.Integration.Capability
import Blueprint.Issue
import Blueprint.Issue.Code
import Blueprint.Issue.Finding
import Blueprint.Json
import Blueprint.Json.Decode
import Blueprint.Main
import Blueprint.Naming
import Blueprint.Proofs.CommandLine.Arguments
import Blueprint.Proofs.CommandLine.Outcome
import Blueprint.Proofs.CommandLine.Rendering
import Blueprint.Proofs.CommandLine.Verdict
import Blueprint.Proofs.Conflict.Clashes
import Blueprint.Proofs.Conflict.Contradictions
import Blueprint.Proofs.Conflict.Exactness
import Blueprint.Proofs.Conflict.Extraction
import Blueprint.Proofs.Conflict.Overload
import Blueprint.Proofs.Conflict.Pairs
import Blueprint.Proofs.Conflict.Symmetry
import Blueprint.Proofs.Conflict.Tested
import Blueprint.Proofs.Declared
import Blueprint.Proofs.FirstDeclaration
import Blueprint.Proofs.Issue.Checks
import Blueprint.Proofs.Issue.Codes
import Blueprint.Proofs.Issue.Selection
import Blueprint.Proofs.Issue.Severity
import Blueprint.Proofs.Json.Records
import Blueprint.Proofs.Json.Restated
import Blueprint.Proofs.Json.RoundTrip
import Blueprint.Proofs.Lookup
import Blueprint.Proofs.OnePerCase
import Blueprint.Proofs.Places.Apart
import Blueprint.Proofs.Places.Checks
import Blueprint.Proofs.Places.Lines
import Blueprint.Proofs.Places.Located
import Blueprint.Proofs.Places.Parts
import Blueprint.Proofs.Prose.Clause
import Blueprint.Proofs.Prose.Mention
import Blueprint.Proofs.Prose.Operator
import Blueprint.Proofs.Prose.Opposition
import Blueprint.Proofs.Prose.Quotation
import Blueprint.Proofs.Prose.Values
import Blueprint.Proofs.Reading.Blockwise
import Blueprint.Proofs.Reading.Bodies
import Blueprint.Proofs.Reading.Cursor
import Blueprint.Proofs.Reading.Declarations
import Blueprint.Proofs.Reading.Indentation
import Blueprint.Proofs.Reading.Layout
import Blueprint.Proofs.Reading.Names
import Blueprint.Proofs.Reading.Relaid
import Blueprint.Proofs.Reordering.Checks
import Blueprint.Proofs.Reordering.Kinds
import Blueprint.Proofs.Reordering.Lookups
import Blueprint.Proofs.Reordering.Verdict
import Blueprint.Proofs.Rule.AiCall
import Blueprint.Proofs.Rule.Arrow
import Blueprint.Proofs.Rule.Asked
import Blueprint.Proofs.Rule.Document
import Blueprint.Proofs.Sound.Document
import Blueprint.Proofs.Sound.Field
import Blueprint.Proofs.Sound.Flow
import Blueprint.Proofs.Sound.Part
import Blueprint.Proofs.Sound.Rule
import Blueprint.Proofs.Sound.Screen
import Blueprint.Proofs.Source.Blame
import Blueprint.Proofs.Source.Blocks
import Blueprint.Proofs.Source.Relaid
import Blueprint.Proofs.Source.Rows
import Blueprint.Proofs.Text.Blank
import Blueprint.Proofs.Text.Cut
import Blueprint.Proofs.Text.Digit
import Blueprint.Proofs.Text.Excerpt
import Blueprint.Proofs.Text.Identifier
import Blueprint.Proofs.Text.LetterCase
import Blueprint.Proofs.Text.Nesting
import Blueprint.Proofs.Text.Pieces
import Blueprint.Proofs.Text.Quoted
import Blueprint.Proofs.Text.Split
import Blueprint.Proofs.Text.TopLevel
import Blueprint.Proofs.Text.Uppercase
import Blueprint.Proofs.Text.Words
import Blueprint.Proofs.Toml.Refusal
import Blueprint.Proofs.Verdict.Answered
import Blueprint.Proofs.Verdict.Duplicates
import Blueprint.Proofs.Verdict.Errors
import Blueprint.Proofs.Verdict.Inputs
import Blueprint.Proofs.Verdict.Renaming
import Blueprint.Proofs.Verdict.Steps
import Blueprint.Proofs.Verdict.Structure
import Blueprint.Proofs.Verdict.Success
import Blueprint.Proofs.Verdict.Tidy
import Blueprint.Proofs.Verdict.Types
import Blueprint.Proofs.Verdict.Warnings
import Blueprint.Proofs.Verdict.WellFormed
import Blueprint.Proofs.Wiring.Circular
import Blueprint.Proofs.Wiring.Unreferenced
import Blueprint.Proofs.Written.Document
import Blueprint.Proofs.Written.Entity
import Blueprint.Proofs.Written.Flow
import Blueprint.Proofs.Written.Modifiers
import Blueprint.Proofs.Written.OpenCall
import Blueprint.Proofs.Written.PropertyOrder
import Blueprint.Proofs.Written.Screen
import Blueprint.Proofs.Written.Type
import Blueprint.Prose.Comparison
import Blueprint.Prose.Opposites
import Blueprint.Prose.Reference
import Blueprint.Report
import Blueprint.Rule
import Blueprint.Rule.AiCall
import Blueprint.Screen
import Blueprint.Screen.Kind
import Blueprint.Settings
import Blueprint.Source.Block
import Blueprint.Source.Fault
import Blueprint.Source.Keyword
import Blueprint.Source.Line
import Blueprint.Source.Location
import Blueprint.Source.Phrase
import Blueprint.Spec
import Blueprint.Spec.Json
import Blueprint.Symbols
import Blueprint.Text.Alphanumeric
import Blueprint.Text.Alphanumeric.Table
import Blueprint.Text.Blank
import Blueprint.Text.CodePoint
import Blueprint.Text.CodeTable
import Blueprint.Text.Cut
import Blueprint.Text.Digit
import Blueprint.Text.Digit.Table
import Blueprint.Text.LetterCase
import Blueprint.Text.LetterCase.Table
import Blueprint.Text.Normalization
import Blueprint.Text.Normalization.Table
import Blueprint.Text.Quoted
import Blueprint.Text.TopLevel
import Blueprint.Text.Words
import Blueprint.Toml.Document
import Blueprint.Toml.Quoted
import Blueprint.Toml.Space
import Blueprint.Toml.Table
import Blueprint.TypeEnv
import Blueprint.Url
import Blueprint.Url.Address
import Blueprint.Url.Domain
import Blueprint.Url.Domain.Script
import Blueprint.Url.Domain.Table
import Blueprint.Url.Host
import Blueprint.Url.Punycode
import Blueprint.Verify
