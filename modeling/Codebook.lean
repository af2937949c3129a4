import Codebook.Catalog.Basic
import Codebook.Catalog.Building
import Codebook.CommandLine.Arguments
import Codebook.CommandLine.Session
import Codebook.CommandLine.Variables
import Codebook.Config.Complete
import Codebook.Config.Form
import Codebook.Config.Load
import Codebook.Config.Settings
import Codebook.Definition.Block
import Codebook.Definition.Lexeme
import Codebook.Definition.Reading
import Codebook.Definition.Rendering
import Codebook.Definition.Token
import Codebook.Document.Basic
import Codebook.Document.Equality
import Codebook.Document.Json
import Codebook.Document.Layout
import Codebook.Document.LongNumber
import Codebook.Document.Moment
import Codebook.Document.Order
import Codebook.Document.Part
import Codebook.Document.SetOrder
import Codebook.Export.Assembly
import Codebook.Export.Bundle
import Codebook.Export.FileTree
import Codebook.Export.Saving
import Codebook.Export.Tables
import Codebook.Expression.Basic
import Codebook.Expression.Matching
import Codebook.Expression.Reading
import Codebook.Failure
import Codebook.ImportRow.Basic
import Codebook.ImportRow.Distinct
import Codebook.ImportRow.Parsing
import Codebook.Keyed
import Codebook.Main
import Codebook.Number.Binary64
import Codebook.Number.Multiple
import Codebook.Number.Reading
import Codebook.Number.Shortest
import Codebook.Proofs.Catalog.Building
import Codebook.Proofs.Catalog.Entries
import Codebook.Proofs.Catalog.RoundTrip
import Codebook.Proofs.Config.Naming
import Codebook.Proofs.Config.Offset
import Codebook.Proofs.Definition.Clause
import Codebook.Proofs.Definition.Concatenation
import Codebook.Proofs.Definition.Descent
import Codebook.Proofs.Definition.Folding
import Codebook.Proofs.Definition.Label
import Codebook.Proofs.Definition.Lines
import Codebook.Proofs.Definition.Nesting
import Codebook.Proofs.Definition.Opening
import Codebook.Proofs.Definition.Ownership
import Codebook.Proofs.Definition.Places
import Codebook.Proofs.Definition.Progress
import Codebook.Proofs.Definition.ReadBack
import Codebook.Proofs.Definition.Recovery
import Codebook.Proofs.Definition.Returning
import Codebook.Proofs.Definition.Written
import Codebook.Proofs.Document.Json
import Codebook.Proofs.Export.AllLists
import Codebook.Proofs.Export.Assembly
import Codebook.Proofs.Export.Captions
import Codebook.Proofs.Export.Combined
import Codebook.Proofs.Export.FileTree
import Codebook.Proofs.Export.Foreknown
import Codebook.Proofs.Export.GroupReferences
import Codebook.Proofs.Export.Saving
import Codebook.Proofs.Export.SavingInTurn
import Codebook.Proofs.Export.TableSheets
import Codebook.Proofs.Expression.Matching
import Codebook.Proofs.ImportRow.Completion
import Codebook.Proofs.ImportRow.Deduplication
import Codebook.Proofs.ImportRow.Failures
import Codebook.Proofs.ImportRow.Nesting
import Codebook.Proofs.ImportRow.OpenAnswer
import Codebook.Proofs.ImportRow.Placing
import Codebook.Proofs.ImportRow.Reading
import Codebook.Proofs.ImportRow.Strictness
import Codebook.Proofs.ImportRow.Tokens
import Codebook.Proofs.ImportRow.Truncation
import Codebook.Proofs.ImportRow.Written
import Codebook.Proofs.Repetition
import Codebook.Proofs.Report
import Codebook.Proofs.Run.Endings
import Codebook.Proofs.Run.Exported
import Codebook.Proofs.Run.Faults
import Codebook.Proofs.Run.IssueLog
import Codebook.Proofs.Run.Layout
import Codebook.Proofs.Run.Market
import Codebook.Proofs.Run.Naming
import Codebook.Proofs.Run.Platforms
import Codebook.Proofs.Run.Saving
import Codebook.Proofs.Run.Shown
import Codebook.Proofs.Run.Stages
import Codebook.Proofs.Schema.Following
import Codebook.Proofs.Schema.Search
import Codebook.Proofs.Sheet.Columns
import Codebook.Proofs.Sheet.Content
import Codebook.Proofs.Sheet.Flags
import Codebook.Proofs.Sheet.Layout
import Codebook.Proofs.Sheet.Loading
import Codebook.Proofs.Sheet.Texts
import Codebook.Proofs.Sorting
import Codebook.Proofs.Taxonomy.Building
import Codebook.Proofs.Taxonomy.Exporting
import Codebook.Proofs.Taxonomy.FreeText
import Codebook.Proofs.Taxonomy.GroupOrder
import Codebook.Proofs.Taxonomy.Grouping
import Codebook.Proofs.Taxonomy.Interleaving
import Codebook.Proofs.Taxonomy.Partition
import Codebook.Proofs.Taxonomy.RoundTrip
import Codebook.Proofs.Taxonomy.SecondOpenAnswer
import Codebook.Proofs.Taxonomy.TakenNames
import Codebook.Proofs.Taxonomy.Writing
import Codebook.Report
import Codebook.Run.Compilation
import Codebook.Run.Console
import Codebook.Run.IssueLog
import Codebook.Run.Market
import Codebook.Run.Progress
import Codebook.Run.Summary
import Codebook.Schema.Address
import Codebook.Schema.Applicator
import Codebook.Schema.Assertion
import Codebook.Schema.Dialect
import Codebook.Schema.Fault
import Codebook.Schema.Metaschema
import Codebook.Schema.Metaschema.Basic
import Codebook.Schema.Metaschema.Draft2019
import Codebook.Schema.Metaschema.Draft2020
import Codebook.Schema.Metaschema.Early
import Codebook.Schema.Metaschema.Middle
import Codebook.Schema.Resource
import Codebook.Schema.Search
import Codebook.Schema.Unevaluated
import Codebook.Schema.Validation
import Codebook.Schema.Violation
import Codebook.Sheet.Archive
import Codebook.Sheet.Archive.Contents
import Codebook.Sheet.Cell
import Codebook.Sheet.Column
import Codebook.Sheet.Exchange
import Codebook.Sheet.Flags
import Codebook.Sheet.Row
import Codebook.Sheet.Spreadsheet
import Codebook.Sheet.Table
import Codebook.Sheet.Unreadable
import Codebook.Taxonomy.Basic
import Codebook.Taxonomy.Building
import Codebook.Text.Blank
import Codebook.Text.Case
import Codebook.Text.CaseTable
import Codebook.Text.CharName
import Codebook.Text.Digit
import Codebook.Text.LetterTable
import Codebook.Text.LineBreak
import Codebook.Text.NameTable.Beyond
import Codebook.Text.NameTable.High
import Codebook.Text.NameTable.Low
import Codebook.Text.NameTable.Other
import Codebook.Text.NameTable.Symbols
import Codebook.Text.Numeral
import Codebook.Text.Printable
import Codebook.Text.Quoted
import Codebook.Text.Word
import Codebook.Yaml.Mark
import Codebook.Yaml.Node
import Codebook.Yaml.Plain
import Codebook.Yaml.Scalar
import Codebook.Yaml.Scanner
import Codebook.Yaml.Source
import Codebook.Yaml.Token
import Codebook.Yaml.Value
