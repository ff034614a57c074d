import FleetSelect.CommandLine
import FleetSelect.Event
import FleetSelect.Failure
import FleetSelect.Glob.Normalize
import FleetSelect.Glob.Pattern
import FleetSelect.HostSet
import FleetSelect.Inventory.Basic
import FleetSelect.Inventory.Document
import FleetSelect.Inventory.Index
import FleetSelect.Json.Fields
import FleetSelect.Json.Parser
import FleetSelect.Json.Printer
import FleetSelect.Json.Token
import FleetSelect.Json.Value
import FleetSelect.Limit.Basic
import FleetSelect.Limit.Document
import FleetSelect.Limit.Parse
import FleetSelect.Main
import FleetSelect.Regex.Basic
import FleetSelect.Regex.Bracket
import FleetSelect.Regex.Compile
import FleetSelect.Regex.Error
import FleetSelect.Regex.Layout
import FleetSelect.Regex.Lexical
import FleetSelect.Regex.Match
import FleetSelect.Regex.Meaning
import FleetSelect.Regex.Memory
import FleetSelect.Regex.Parser
import FleetSelect.Regex.Property
import FleetSelect.Regex.Size
import FleetSelect.Regex.Syntax
import FleetSelect.Regex.Utf8
import FleetSelect.Report
import FleetSelect.Resolve
import FleetSelect.Select
import FleetSelect.Selector.Address
import FleetSelect.Selector.Basic
import FleetSelect.Selector.Classify
import FleetSelect.Settings
import FleetSelect.Text.Blank
import FleetSelect.Text.Digits
import FleetSelect.Text.Order
import FleetSelect.Traced
import FleetSelect.Unicode.Addition
import FleetSelect.Unicode.Age
import FleetSelect.Unicode.CaseFolding
import FleetSelect.Unicode.CodeSet
import FleetSelect.Unicode.DecimalDigit
import FleetSelect.Unicode.GeneralCategory
import FleetSelect.Unicode.Letter
import FleetSelect.Unicode.LowerCase
import FleetSelect.Unicode.Property
import FleetSelect.Unicode.Script
import FleetSelect.Unicode.Segmentation
import FleetSelect.Unicode.Table
import FleetSelect.Proofs.NamedSets
import FleetSelect.Proofs.Address
import FleetSelect.Proofs.CodeSet
import FleetSelect.Proofs.Vocabulary
import FleetSelect.Proofs.Reachability
import FleetSelect.Proofs.GroupExpansion
import FleetSelect.Proofs.Resolution
import FleetSelect.Proofs.Selection
import FleetSelect.Proofs.Glob.Matching
import FleetSelect.Proofs.Correspondence
import FleetSelect.Proofs.Restriction
import FleetSelect.Proofs.Glob.Agreement
import FleetSelect.Proofs.Glob.Closing
import FleetSelect.Proofs.Blank
import FleetSelect.Proofs.Limit.Partition
import FleetSelect.Proofs.Limit.Division
import FleetSelect.Proofs.Limit.Escape
import FleetSelect.Proofs.Grouping
import FleetSelect.Proofs.Limit.Expressible
import FleetSelect.Proofs.Strategy
import FleetSelect.Proofs.Refusal
import FleetSelect.Proofs.Expansion
import FleetSelect.Proofs.Simplification
import FleetSelect.Proofs.NormalForm
import FleetSelect.Proofs.Limit.Cut
import FleetSelect.Proofs.Limit.Places
import FleetSelect.Proofs.Limit.Canonical
import FleetSelect.Proofs.Reordering
import FleetSelect.Proofs.Range
import FleetSelect.Proofs.Complement
import FleetSelect.Proofs.Naming
import FleetSelect.Proofs.Joining
import FleetSelect.Proofs.Intersection
import FleetSelect.Proofs.Json.Tokens
import FleetSelect.Proofs.Json.Scan
import FleetSelect.Proofs.Json.Writing
import FleetSelect.Proofs.Json.Record
import FleetSelect.Proofs.Document
import FleetSelect.Proofs.Description
import FleetSelect.Proofs.Course
import FleetSelect.Proofs.Trace
import FleetSelect.Proofs.Outcome
import FleetSelect.Proofs.Classification
import FleetSelect.Proofs.KindAgreement
import FleetSelect.Proofs.Glob.Literal
import FleetSelect.Proofs.Glob.Stable
import FleetSelect.Proofs.Literal
import FleetSelect.Proofs.Contents
import FleetSelect.Proofs.Moves
