import ApiAtlas.Text.Alphanumeric
import ApiAtlas.Text.IdentifierTable
import ApiAtlas.Text.LetterCase
import ApiAtlas.Text.Blank
import ApiAtlas.Naming
import ApiAtlas.TypeExpr.Reader
import ApiAtlas.TypeExpr.OfTree
import ApiAtlas.Decimal.Notation
import ApiAtlas.Json.Printer
import ApiAtlas.Json.Reader
import ApiAtlas.Schema
import ApiAtlas.Schema.Codec
import ApiAtlas.Directive.Apply
import ApiAtlas.Source.Reader
import ApiAtlas.Config
import ApiAtlas.Extraction
import ApiAtlas.Error
import ApiAtlas.Route.Search
import ApiAtlas.Generator
import ApiAtlas.Document.Codec
import ApiAtlas.Document.Builder
import ApiAtlas.Pipeline
import ApiAtlas.Document.Format
import ApiAtlas.Main
import ApiAtlas.Proofs.Keyed
import ApiAtlas.Proofs.Making
import ApiAtlas.Proofs.Registry
import ApiAtlas.Proofs.Embedding
import ApiAtlas.Proofs.Mention
import ApiAtlas.Proofs.Reference
import ApiAtlas.Proofs.History
import ApiAtlas.Proofs.Assembly
import ApiAtlas.Proofs.Placement
import ApiAtlas.Proofs.Traversal
import ApiAtlas.Proofs.Registration
import ApiAtlas.Proofs.Contents
import ApiAtlas.Proofs.RouteOrder
import ApiAtlas.Proofs.Discriminator
import ApiAtlas.Proofs.Splitting
import ApiAtlas.Proofs.Tokenizing
import ApiAtlas.Proofs.StrategyOrder
import ApiAtlas.Proofs.TypeText
import ApiAtlas.Proofs.TypeNotation
import ApiAtlas.Proofs.TypeSyntax
import ApiAtlas.Proofs.Template
import ApiAtlas.Proofs.PathParameters
import ApiAtlas.Proofs.CallChains
import ApiAtlas.Proofs.Arrangement
import ApiAtlas.Proofs.SchemaCodec
import ApiAtlas.Proofs.DocumentCodec
import ApiAtlas.Proofs.WireNames
import ApiAtlas.Proofs.RequestBody
import ApiAtlas.Proofs.Coherence
import ApiAtlas.Proofs.FaultyTokens
import ApiAtlas.Proofs.Parameters
import ApiAtlas.Proofs.RequiredNames
import ApiAtlas.Proofs.ChoiceBodies
import ApiAtlas.Proofs.Preservation
import ApiAtlas.Proofs.LengthBounds
import ApiAtlas.Proofs.WireShape
import ApiAtlas.Proofs.Elements
import ApiAtlas.Proofs.NumberBounds
import ApiAtlas.Proofs.Enumerations
import ApiAtlas.Proofs.Resolution
import ApiAtlas.Proofs.SubsetNotices
import ApiAtlas.Proofs.HandlerOptions
import ApiAtlas.Proofs.NameCharacters
import ApiAtlas.Proofs.Filling
import ApiAtlas.Proofs.CompanionText
import ApiAtlas.Proofs.AccessorNames
import ApiAtlas.Proofs.FilePaths
import ApiAtlas.Proofs.FileTree
import ApiAtlas.Proofs.CompanionPaths
import ApiAtlas.Proofs.TreeWalk
import ApiAtlas.Proofs.Scanning
import ApiAtlas.Proofs.SnakeCase
import ApiAtlas.Proofs.LiteralPatterns
