import TreeQuery.Arena
import TreeQuery.Cache
import TreeQuery.Document.Options
import TreeQuery.Document.RuleSet
import TreeQuery.Error
import TreeQuery.Fallible
import TreeQuery.Json.Basic
import TreeQuery.Json.Numeral
import TreeQuery.Json.Token
import TreeQuery.KeyPath
import TreeQuery.Number
import TreeQuery.Number.Binary64
import TreeQuery.Number.Numeral
import TreeQuery.Pattern
import TreeQuery.Pattern.Age
import TreeQuery.Pattern.Automaton
import TreeQuery.Pattern.BinaryProperty
import TreeQuery.Pattern.ByteRow
import TreeQuery.Pattern.CaseFolding
import TreeQuery.Pattern.Category
import TreeQuery.Pattern.CharSet
import TreeQuery.Pattern.Construction
import TreeQuery.Pattern.DerivedProperty
import TreeQuery.Pattern.Expression
import TreeQuery.Pattern.Matching
import TreeQuery.Pattern.Program
import TreeQuery.Pattern.Property
import TreeQuery.Pattern.Reader
import TreeQuery.Pattern.Resolution
import TreeQuery.Pattern.Script
import TreeQuery.Pattern.ScriptExtension
import TreeQuery.Pattern.Segmentation
import TreeQuery.Proofs.Absence
import TreeQuery.Proofs.AddedTests
import TreeQuery.Proofs.Agreement
import TreeQuery.Proofs.Arena
import TreeQuery.Proofs.Cache
import TreeQuery.Proofs.Growth
import TreeQuery.Proofs.JoinedPaths
import TreeQuery.Proofs.ListParents
import TreeQuery.Proofs.Markers
import TreeQuery.Proofs.Narrowing
import TreeQuery.Proofs.Number.IntegerLiteral
import TreeQuery.Proofs.Number.ReadBack
import TreeQuery.Proofs.Number.Rounding
import TreeQuery.Proofs.OneByOne
import TreeQuery.Proofs.Query.Acceptance
import TreeQuery.Proofs.Query.Attachment
import TreeQuery.Proofs.Query.Blanks
import TreeQuery.Proofs.Query.Composition
import TreeQuery.Proofs.Query.Coverage
import TreeQuery.Proofs.Query.Cursors
import TreeQuery.Proofs.Query.Derivations
import TreeQuery.Proofs.Query.EqualQueries
import TreeQuery.Proofs.Query.ErrorPlaces
import TreeQuery.Proofs.Query.FirstMatch
import TreeQuery.Proofs.Query.Fronts
import TreeQuery.Proofs.Query.Grammar
import TreeQuery.Proofs.Query.Grammatical
import TreeQuery.Proofs.Query.KeyPaths
import TreeQuery.Proofs.Query.KeyText
import TreeQuery.Proofs.Query.LastLink
import TreeQuery.Proofs.Query.Legality
import TreeQuery.Proofs.Query.Modes
import TreeQuery.Proofs.Query.Opposites
import TreeQuery.Proofs.Query.Pieces
import TreeQuery.Proofs.Query.Places
import TreeQuery.Proofs.Query.QueryText
import TreeQuery.Proofs.Query.ReadersComplete
import TreeQuery.Proofs.Query.ReadersSound
import TreeQuery.Proofs.Query.Reads
import TreeQuery.Proofs.Query.RoundTrip
import TreeQuery.Proofs.Query.Scalars
import TreeQuery.Proofs.Query.Seams
import TreeQuery.Proofs.Query.Searching
import TreeQuery.Proofs.Query.Sequences
import TreeQuery.Proofs.Query.Spans
import TreeQuery.Proofs.Query.Syntax
import TreeQuery.Proofs.Query.Throughout
import TreeQuery.Proofs.Query.TokenReaders
import TreeQuery.Proofs.Query.Tokens
import TreeQuery.Proofs.Query.ValueText
import TreeQuery.Proofs.Query.Words
import TreeQuery.Proofs.Reduction
import TreeQuery.Proofs.Rule.Kinds
import TreeQuery.Proofs.Rule.Leaves
import TreeQuery.Proofs.Rule.Legality
import TreeQuery.Proofs.Rule.Respelling
import TreeQuery.Proofs.Rule.SharedTests
import TreeQuery.Proofs.Rule.Symbols
import TreeQuery.Proofs.SameResults
import TreeQuery.Proofs.Subtree
import TreeQuery.Proofs.Traversal
import TreeQuery.Query.Basic
import TreeQuery.Query.Comparison
import TreeQuery.Query.Equality
import TreeQuery.Query.Lexer
import TreeQuery.Query.Parser
import TreeQuery.Query.Search
import TreeQuery.Query.Spelling
import TreeQuery.Query.Token
import TreeQuery.Rule.Basic
import TreeQuery.Rule.Search
import TreeQuery.SyntaxTree
import TreeQuery.Text.Character
import TreeQuery.Text.CodePoints
import TreeQuery.Text.Lowercase
import TreeQuery.Tree.Basic
import TreeQuery.Tree.Resolve
import TreeQuery.Tree.Search
