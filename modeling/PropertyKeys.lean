import PropertyKeys.Access
import PropertyKeys.Cache
import PropertyKeys.Cancellation
import PropertyKeys.Catalog
import PropertyKeys.CommandLine
import PropertyKeys.CommandLine.Arguments
import PropertyKeys.CommandLine.Report
import PropertyKeys.Digest
import PropertyKeys.Digest.Compression
import PropertyKeys.Digest.Tree
import PropertyKeys.FileTree
import PropertyKeys.IndexScan
import PropertyKeys.Json.Basic
import PropertyKeys.Json.Lenient
import PropertyKeys.Json.Pretty
import PropertyKeys.Json.Reader
import PropertyKeys.Json.Scanner
import PropertyKeys.Json.Skip
import PropertyKeys.Key.Basic
import PropertyKeys.Key.Deprecation
import PropertyKeys.Key.Hint
import PropertyKeys.Key.Origin
import PropertyKeys.KeyParts
import PropertyKeys.KeyPath
import PropertyKeys.KnownTypes
import PropertyKeys.Loader.Basic
import PropertyKeys.Loader.Reading
import PropertyKeys.Loader.Session
import PropertyKeys.Main
import PropertyKeys.Metadata.Declaration
import PropertyKeys.Metadata.Diagnostic
import PropertyKeys.Metadata.Document
import PropertyKeys.Metadata.Hints
import PropertyKeys.Metadata.Provenance
import PropertyKeys.Naming.Dialect
import PropertyKeys.Naming.Relaxed
import PropertyKeys.Naming.Strict
import PropertyKeys.Number.Binary64
import PropertyKeys.Number.Shortest
import PropertyKeys.OrderedMap
import PropertyKeys.Proofs.IndexScan.Bracketing
import PropertyKeys.Proofs.IndexScan.Groups
import PropertyKeys.Proofs.Json.Grammar
import PropertyKeys.Proofs.Json.Layout
import PropertyKeys.Proofs.Json.Stripping
import PropertyKeys.Proofs.KeyParts.Shape
import PropertyKeys.Proofs.KeyPath.Boundary
import PropertyKeys.Proofs.Loader.Provenance
import PropertyKeys.Proofs.Loader.Runs
import PropertyKeys.Proofs.Loader.Snapshots
import PropertyKeys.Proofs.Metadata.Contents
import PropertyKeys.Proofs.Naming.Canonical
import PropertyKeys.Proofs.Naming.RelaxedParts
import PropertyKeys.Proofs.Naming.RelaxedRenderings
import PropertyKeys.Proofs.Naming.RelaxedSoundness
import PropertyKeys.Proofs.Naming.StrictBrackets
import PropertyKeys.Proofs.Naming.StrictSegments
import PropertyKeys.Proofs.Spelling.Folding
import PropertyKeys.Proofs.Spelling.Rounds
import PropertyKeys.Proofs.Spelling.WordForms
import PropertyKeys.Proofs.Text.Cuts
import PropertyKeys.Proofs.Text.Encoding
import PropertyKeys.Proofs.Text.Offsets
import PropertyKeys.Proofs.Unicode.Letters
import PropertyKeys.Resolution
import PropertyKeys.Settings.Basic
import PropertyKeys.Settings.Error
import PropertyKeys.Settings.Reader
import PropertyKeys.Source
import PropertyKeys.Spelling.Variants
import PropertyKeys.Spelling.Words
import PropertyKeys.Text.Basic
import PropertyKeys.Text.Quoted
import PropertyKeys.Text.Range
import PropertyKeys.Text.Reading
import PropertyKeys.Text.Utf8
import PropertyKeys.TypeExpr.Basic
import PropertyKeys.TypeExpr.Parser
import PropertyKeys.Unicode.Alphanumeric
import PropertyKeys.Unicode.Blank
import PropertyKeys.Unicode.Case
import PropertyKeys.Unicode.CaseTable
import PropertyKeys.Unicode.CodeRange
import PropertyKeys.Unicode.Printable
import PropertyKeys.Proofs.TypeExpr.Grammar
import PropertyKeys.Proofs.TypeExpr.Reading
import PropertyKeys.Proofs.Cache.History
import PropertyKeys.Proofs.Json.Denotation
import PropertyKeys.Proofs.Json.Reading
import PropertyKeys.Proofs.Metadata.Entries
import PropertyKeys.Proofs.Json.Unstripping
import PropertyKeys.Proofs.Metadata.Acceptance
import PropertyKeys.Proofs.Metadata.Cancellation
import PropertyKeys.Proofs.Loader.Cancellation
import PropertyKeys.Proofs.Resolution.Agreement
import PropertyKeys.Proofs.IndexScan.ListKeys
import PropertyKeys.Proofs.KeyParts.Composition
import PropertyKeys.Proofs.Resolution.RoundTrip
import PropertyKeys.Proofs.KeyParts.WellFormed
import PropertyKeys.Proofs.Naming.StrictCompletion
import PropertyKeys.Proofs.Spelling.Ends
import PropertyKeys.Proofs.Naming.RelaxedEnds
import PropertyKeys.Proofs.Naming.RelaxedCompletion
import PropertyKeys.Proofs.Spelling.CapitalRows
import PropertyKeys.Proofs.Spelling.KebabNames
import PropertyKeys.Proofs.Spelling.TightRows
import PropertyKeys.Proofs.Naming.RelaxedDashes
import PropertyKeys.Proofs.Spelling.Closure
import PropertyKeys.Proofs.TypeExpr.RoundTrip
import PropertyKeys.Proofs.TypeExpr.Faults
import PropertyKeys.Proofs.Metadata.TrailingData
import PropertyKeys.Proofs.Naming.StrictEquivalence
import PropertyKeys.Proofs.Spelling.JoinedWords
import PropertyKeys.Proofs.Key.Properties
import PropertyKeys.Proofs.Metadata.Hints
import PropertyKeys.Proofs.Metadata.Structure
import PropertyKeys.Proofs.KeyPath.Groups
import PropertyKeys.Proofs.KeyPath.Segments
import PropertyKeys.Proofs.Spelling.SeparatedWords
import PropertyKeys.Proofs.Key.SeparatedProperties
