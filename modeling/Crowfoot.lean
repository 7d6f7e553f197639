import Crowfoot.CommandLine.Arguments
import Crowfoot.CommandLine.FileTree
import Crowfoot.CommandLine.Program
import Crowfoot.Csv
import Crowfoot.Csv.Reading
import Crowfoot.Dataset.Basic
import Crowfoot.Dataset.Calendar
import Crowfoot.Dataset.Fallback
import Crowfoot.Dataset.Filling
import Crowfoot.Diagnostic
import Crowfoot.Diagram.Basic
import Crowfoot.Diagram.Line
import Crowfoot.Diagram.Reading
import Crowfoot.Diagram.Writing
import Crowfoot.Main
import Crowfoot.Named
import Crowfoot.Plan
import Crowfoot.Proofs.Abbreviations
import Crowfoot.Proofs.Agreement
import Crowfoot.Proofs.Artifacts
import Crowfoot.Proofs.Columns
import Crowfoot.Proofs.Constraints
import Crowfoot.Proofs.Contexts
import Crowfoot.Proofs.Correlation
import Crowfoot.Proofs.Cycles
import Crowfoot.Proofs.Declaration
import Crowfoot.Proofs.Document
import Crowfoot.Proofs.Draws
import Crowfoot.Proofs.Emission
import Crowfoot.Proofs.Export
import Crowfoot.Proofs.Filling
import Crowfoot.Proofs.Firsts
import Crowfoot.Proofs.Generation
import Crowfoot.Proofs.Grammar
import Crowfoot.Proofs.Headings
import Crowfoot.Proofs.Identifiers
import Crowfoot.Proofs.Integrity
import Crowfoot.Proofs.Joins
import Crowfoot.Proofs.KeyLists
import Crowfoot.Proofs.KeyOrder
import Crowfoot.Proofs.Lexing
import Crowfoot.Proofs.LineNumbers
import Crowfoot.Proofs.Linked
import Crowfoot.Proofs.Log
import Crowfoot.Proofs.Matching
import Crowfoot.Proofs.Meeting
import Crowfoot.Proofs.Names
import Crowfoot.Proofs.Noise
import Crowfoot.Proofs.Outline
import Crowfoot.Proofs.Overriding
import Crowfoot.Proofs.People
import Crowfoot.Proofs.Places
import Crowfoot.Proofs.Questions
import Crowfoot.Proofs.Records
import Crowfoot.Proofs.Recursion
import Crowfoot.Proofs.Reflection
import Crowfoot.Proofs.Resolvable
import Crowfoot.Proofs.Results
import Crowfoot.Proofs.RoundTrip
import Crowfoot.Proofs.Runs
import Crowfoot.Proofs.Script
import Crowfoot.Proofs.ScriptLines
import Crowfoot.Proofs.ScriptText
import Crowfoot.Proofs.Sources
import Crowfoot.Proofs.Spacing
import Crowfoot.Proofs.Statements
import Crowfoot.Proofs.Strictness
import Crowfoot.Proofs.Success
import Crowfoot.Proofs.TableFiles
import Crowfoot.Proofs.TableNames
import Crowfoot.Proofs.Tables
import Crowfoot.Proofs.Tokens
import Crowfoot.Proofs.Topology
import Crowfoot.Proofs.Walk
import Crowfoot.Proofs.Warnings
import Crowfoot.Proofs.WrittenLine
import Crowfoot.Random.ChaCha
import Crowfoot.Random.Generator
import Crowfoot.Random.Shuffle
import Crowfoot.Random.SplitMix
import Crowfoot.Random.Supply
import Crowfoot.Schema.Basic
import Crowfoot.Schema.Order
import Crowfoot.Schema.Resolution
import Crowfoot.Schema.Search
import Crowfoot.Sql.Reading
import Crowfoot.Sql.Script
import Crowfoot.Sql.Statement
import Crowfoot.Text.Alphanumeric
import Crowfoot.Text.Blank
import Crowfoot.Text.CodeRange
import Crowfoot.Text.Folding
import Crowfoot.Text.Lines
import Crowfoot.Text.Numeral
import Crowfoot.Text.Uppercase
import Crowfoot.Vocabulary.Abbreviation
import Crowfoot.Vocabulary.Basic
import Crowfoot.Vocabulary.Rule
import Crowfoot.Vocabulary.Standard
import Crowfoot.Vocabulary.Words
import Crowfoot.Xmi.Element
import Crowfoot.Xmi.Export
