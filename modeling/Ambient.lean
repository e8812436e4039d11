import Ambient.Character.Alphanumeric
import Ambient.Character.LetterCase
import Ambient.Character.CaseMap
import Ambient.Character.Blank
import Ambient.Character.Printable
import Ambient.Text.Lines
import Ambient.Text.Casing
import Ambient.Text.CamelCase
import Ambient.Text.Quoted
import Ambient.Text.Terminal
import Ambient.Dictionary
import Ambient.Decimal.Shortest
import Ambient.Json.Reader
import Ambient.Metadata.Decode
import Ambient.DocComment
import Ambient.ParameterName
import Ambient.ShapeKey
import Ambient.Interner
import Ambient.Block
import Ambient.Host
import Ambient.CommandLine.Run
import Ambient.Main
import Ambient.Proofs.Interner.FreshName
import Ambient.Proofs.Synthesis.Composed
import Ambient.Proofs.Interner.Growth
import Ambient.Proofs.Interner.Session
import Ambient.Proofs.Synthesis.Operations
import Ambient.Proofs.Draft.Openers
import Ambient.Proofs.Draft.References
import Ambient.Proofs.Draft.Closed
import Ambient.Proofs.Shape.Reading
import Ambient.Proofs.Shape.Spelling
import Ambient.Proofs.Shape.Expansion
import Ambient.Proofs.Shape.Level
import Ambient.Proofs.Shape.Clear
import Ambient.Proofs.Shape.Sound
import Ambient.Proofs.Shape.Swap
import Ambient.Proofs.Shape.Clash
import Ambient.Proofs.Shape.Choices
import Ambient.Proofs.Shape.Decisive
import Ambient.Proofs.Draft.Reordering
import Ambient.Proofs.Block.Accumulation
import Ambient.Proofs.Draft.Classes
import Ambient.Proofs.Composite.Property
import Ambient.Proofs.Composite.Routing
import Ambient.Proofs.Draft.Redescribed
import Ambient.Proofs.Draft.Appended
import Ambient.Proofs.Draft.PlainNames
import Ambient.Proofs.Draft.Globals
import Ambient.Proofs.Text.ByteOrder
import Ambient.Proofs.Loading.Leaves
import Ambient.Proofs.Loading.Directory
import Ambient.Proofs.Metadata.Encoding
import Ambient.Proofs.Metadata.Decoding
import Ambient.Proofs.Member.Named
import Ambient.Proofs.Draft.Failing
import Ambient.Proofs.Synthesis.Yields
import Ambient.Proofs.Text.LineFeeds
import Ambient.Proofs.Document.Groups
import Ambient.Proofs.Interner.Claim
import Ambient.Proofs.Shape.Rearranged
import Ambient.Proofs.Member.Declared
import Ambient.Proofs.Files.Writing
import Ambient.Proofs.Loading.Collected
import Ambient.Proofs.CommandLine.Outcome
import Ambient.Proofs.Comment.Closed
import Ambient.Proofs.Literal.Reading
import Ambient.Proofs.Literal.Choice
import Ambient.Proofs.TypeExpr.Token
import Ambient.Proofs.TypeExpr.Grammar
import Ambient.Proofs.TypeExpr.Array
import Ambient.Proofs.Member.Parameters
import Ambient.Proofs.TypeMap.History
import Ambient.Proofs.Text.Capitals
import Ambient.Proofs.Draft.Capitalized
import Ambient.Proofs.Member.Missing
import Ambient.Proofs.Draft.Missing
import Ambient.Proofs.TypeExpr.Bars
import Ambient.Proofs.TypeExpr.Parts
import Ambient.Proofs.TypeExpr.Nesting
import Ambient.Proofs.TypeMap.Unions
import Ambient.Proofs.TypeMap.Expressions
import Ambient.Proofs.Text.JoinedForm
