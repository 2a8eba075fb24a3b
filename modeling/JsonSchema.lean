import JsonSchema.CommandLine
import JsonSchema.Compile
import JsonSchema.Configuration
import JsonSchema.Directory
import JsonSchema.Draft.Library
import JsonSchema.Evaluation
import JsonSchema.Format
import JsonSchema.Json.Printer
import JsonSchema.Json.Reader
import JsonSchema.Main
import JsonSchema.Pattern
import JsonSchema.Pointer
import JsonSchema.Proofs.Evaluation.DynamicScope
import JsonSchema.Proofs.Evaluation.FailsClosed
import JsonSchema.Proofs.Evaluation.Fragments
import JsonSchema.Proofs.Evaluation.OnDemand
import JsonSchema.Proofs.Evaluation.UnevaluatedItems
import JsonSchema.Proofs.Evaluation.UnevaluatedProperties
import JsonSchema.Proofs.Report.Condensed
import JsonSchema.Proofs.Report.Verdict
import JsonSchema.Report
import JsonSchema.SchemaStore
import JsonSchema.Url.Resolution
import JsonSchema.Proofs.Evaluation.DepthLimit
import JsonSchema.Proofs.Compile.Parallel
import JsonSchema.Proofs.Compile.UnknownKeywords
import JsonSchema.Proofs.Evaluation.Consulted
import JsonSchema.Proofs.Evaluation.UnknownKeywords
import JsonSchema.Proofs.Evaluation.CountedItems
import JsonSchema.Proofs.Compile.Inherited
import JsonSchema.Proofs.Evaluation.Bundled
import JsonSchema.Proofs.Evaluation.Nesting
import JsonSchema.Proofs.Compile.Locations
import JsonSchema.Proofs.Evaluation.Retraced
import JsonSchema.Proofs.Compile.Faults
import JsonSchema.Proofs.Compile.Governed
import JsonSchema.Proofs.Draft.Forms
import JsonSchema.Proofs.Draft.Implied
import JsonSchema.Proofs.Evaluation.Acceptance
import JsonSchema.Proofs.Keyword.Canonical
import JsonSchema.Proofs.Draft.OwnSchema
import JsonSchema.Proofs.Store.History
import JsonSchema.Proofs.Store.Dialects
import JsonSchema.Proofs.Evaluation.ItemsAfterPrefix
import JsonSchema.Proofs.Compile.Bases
import JsonSchema.Proofs.Evaluation.Conditionals
import JsonSchema.Proofs.Evaluation.MatchCounts
import JsonSchema.Proofs.Evaluation.MemberPartition
import JsonSchema.Proofs.Evaluation.TextContent
import JsonSchema.Proofs.Json.Equality
import JsonSchema.Proofs.Keyword.Table
import JsonSchema.Proofs.Pointer.Text
import JsonSchema.Proofs.Text.Utf8
import JsonSchema.Proofs.Pointer.Fragment
import JsonSchema.Proofs.Pattern.Shorthands
import JsonSchema.Proofs.Store.Directory
import JsonSchema.Proofs.Url.Decoding
import JsonSchema.Proofs.Compile.Counts
import JsonSchema.Proofs.Pointer.Routes
import JsonSchema.Proofs.Compile.Places
