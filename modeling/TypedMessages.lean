import TypedMessages.Check.Format
import TypedMessages.Check.Message
import TypedMessages.Check.Pipeline
import TypedMessages.Check.Project
import TypedMessages.Check.Result
import TypedMessages.CommandLine.Basic
import TypedMessages.Declaration.Basic
import TypedMessages.Declaration.Decode
import TypedMessages.Declaration.Load
import TypedMessages.Declaration.Source
import TypedMessages.Diagnostic.Problem
import TypedMessages.Extension.Fault
import TypedMessages.Extension.Hierarchy
import TypedMessages.Format.Basic
import TypedMessages.Format.Check
import TypedMessages.Format.ParseError
import TypedMessages.Format.Part
import TypedMessages.Format.Pattern
import TypedMessages.Format.Printf
import TypedMessages.Format.Translation
import TypedMessages.Interface.Basic
import TypedMessages.Json.Basic
import TypedMessages.Json.Reader
import TypedMessages.Main
import TypedMessages.Method.Basic
import TypedMessages.Method.Parameter
import TypedMessages.Names.Extremes
import TypedMessages.Names.Unseen
import TypedMessages.Notice.Basic
import TypedMessages.Notice.Session
import TypedMessages.Proofs.Check.Comparison
import TypedMessages.Proofs.Check.Failures
import TypedMessages.Proofs.Check.IdRanges
import TypedMessages.Proofs.Check.MissingMessages
import TypedMessages.Proofs.Check.Owner
import TypedMessages.Proofs.Check.Silence
import TypedMessages.Proofs.Check.Strictness
import TypedMessages.Proofs.Check.UniqueIds
import TypedMessages.Proofs.Errors
import TypedMessages.Proofs.Extension.Agreement
import TypedMessages.Proofs.Extension.Closure
import TypedMessages.Proofs.Extension.Cycle
import TypedMessages.Proofs.Extension.Distance
import TypedMessages.Proofs.Extension.Order
import TypedMessages.Proofs.Extension.Preorder
import TypedMessages.Proofs.Extension.Queue
import TypedMessages.Proofs.Extension.Reach
import TypedMessages.Proofs.Extension.ReportedCycle
import TypedMessages.Proofs.Extension.ShortestWay
import TypedMessages.Proofs.Extension.WellFormed
import TypedMessages.Proofs.Format.Concatenation
import TypedMessages.Proofs.Format.Demands
import TypedMessages.Proofs.Format.FirstFault
import TypedMessages.Proofs.Format.Indices
import TypedMessages.Proofs.Format.Layout
import TypedMessages.Proofs.Format.Numbering
import TypedMessages.Proofs.Format.PatternGrammar
import TypedMessages.Proofs.Format.PatternPieces
import TypedMessages.Proofs.Format.PlaceholderForm
import TypedMessages.Proofs.Format.PrintfGrammar
import TypedMessages.Proofs.Format.References
import TypedMessages.Proofs.Format.Scanning
import TypedMessages.Proofs.Format.SpecifierForm
import TypedMessages.Proofs.Format.SpecifierReading
import TypedMessages.Proofs.Format.Subtypes
import TypedMessages.Proofs.Format.Tokenization
import TypedMessages.Proofs.Format.TranslationClasses
import TypedMessages.Proofs.Format.TranslationSafety
import TypedMessages.Proofs.Interface.Flattening
import TypedMessages.Proofs.Interface.KeptMethods
import TypedMessages.Proofs.Interface.Overrides
import TypedMessages.Proofs.Interface.Signatures
import TypedMessages.Proofs.Interface.TranslationKeys
import TypedMessages.Proofs.Method.Arguments
import TypedMessages.Proofs.Method.Positions
import TypedMessages.Proofs.Names.Extremes
import TypedMessages.Proofs.Report.Accessors
import TypedMessages.Proofs.Report.Causes
import TypedMessages.Proofs.Report.Completion
import TypedMessages.Proofs.Report.ConstructorParameters
import TypedMessages.Proofs.Report.Coverage
import TypedMessages.Proofs.Report.Failures
import TypedMessages.Proofs.Report.Generation
import TypedMessages.Proofs.Report.Interleaving
import TypedMessages.Proofs.Report.Locality
import TypedMessages.Proofs.Report.Order
import TypedMessages.Proofs.Report.Sharding
import TypedMessages.Proofs.Report.Slots
import TypedMessages.Proofs.Resolution.CallPlaces
import TypedMessages.Proofs.Resolution.Completeness
import TypedMessages.Proofs.Resolution.CustomCall
import TypedMessages.Proofs.Resolution.InheritedId
import TypedMessages.Proofs.Resolution.KeptMessage
import TypedMessages.Proofs.Resolution.MessageOrigin
import TypedMessages.Proofs.Resolution.NearestId
import TypedMessages.Proofs.Resolution.Selection
import TypedMessages.Proofs.Resolution.View
import TypedMessages.Proofs.Types.Collecting
import TypedMessages.Proofs.Types.Supertypes
import TypedMessages.Proofs.Types.VisitingOrder
import TypedMessages.Report.Basic
import TypedMessages.Report.Json
import TypedMessages.Report.Schedule
import TypedMessages.Report.Session
import TypedMessages.Report.Steady
import TypedMessages.Resolution.Basic
import TypedMessages.Resolution.Construction
import TypedMessages.Resolution.Failure
import TypedMessages.Text.Ascending
import TypedMessages.Text.Blank
import TypedMessages.Text.Capital
import TypedMessages.Text.Elapsed
import TypedMessages.Text.Numeral
import TypedMessages.Types.Basic
import TypedMessages.Types.Builtin
import TypedMessages.Types.Catalog
import TypedMessages.Yaml.Node
import TypedMessages.Yaml.Resolve
import TypedMessages.Yaml.Scalar
import TypedMessages.Yaml.Token
