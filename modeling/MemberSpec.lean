import MemberSpec.Catalog
import MemberSpec.ClassFile.Basic
import MemberSpec.ClassFile.Constant
import MemberSpec.ClassFile.Descriptor
import MemberSpec.ClassFile.ModifiedUtf8
import MemberSpec.ClassFile.Reader
import MemberSpec.ClassPath
import MemberSpec.Command.Arguments
import MemberSpec.Command.Basic
import MemberSpec.Command.Run
import MemberSpec.Decimal.Binary64
import MemberSpec.Erasure
import MemberSpec.Error
import MemberSpec.Executable
import MemberSpec.Extract
import MemberSpec.FileTree
import MemberSpec.Inquiry
import MemberSpec.Introspector
import MemberSpec.Javadoc
import MemberSpec.JsonValue
import MemberSpec.Main
import MemberSpec.Member
import MemberSpec.Modifiers
import MemberSpec.Nullability
import MemberSpec.Parameters
import MemberSpec.Path
import MemberSpec.Proofs.ClassFile.Descriptors
import MemberSpec.Proofs.ClassFile.Layout
import MemberSpec.Proofs.ClassFile.ModifiedUtf8
import MemberSpec.Proofs.ClassFile.Reading
import MemberSpec.Proofs.CompiledOrder
import MemberSpec.Proofs.Extraction
import MemberSpec.Proofs.Pieces
import MemberSpec.Proofs.Reconciliation
import MemberSpec.Proofs.Session
import MemberSpec.Proofs.Spelling
import MemberSpec.Proofs.Tags
import MemberSpec.Reconcile
import MemberSpec.Registry
import MemberSpec.Report
import MemberSpec.Resolve
import MemberSpec.Settings.Basic
import MemberSpec.Settings.Entries
import MemberSpec.Settings.Environment
import MemberSpec.Settings.Layer
import MemberSpec.Settings.Read
import MemberSpec.Settings.Store
import MemberSpec.Source.Declared
import MemberSpec.Source.File
import MemberSpec.Source.Grammar
import MemberSpec.Source.Grammar.Declarations
import MemberSpec.Source.Grammar.Expressions
import MemberSpec.Source.Grammar.Rule
import MemberSpec.Source.Grammar.Statements
import MemberSpec.Source.Grammar.Types
import MemberSpec.Source.Lexer
import MemberSpec.Source.Numeral
import MemberSpec.Source.Parse
import MemberSpec.Source.Pattern
import MemberSpec.Source.Token
import MemberSpec.Source.Tree
import MemberSpec.Source.Unit
import MemberSpec.Tags
import MemberSpec.Text.Alphabetic
import MemberSpec.Text.Blank
import MemberSpec.Text.CodeRange
import MemberSpec.Text.Identifier
import MemberSpec.Text.Quoted
import MemberSpec.Text.Split
import MemberSpec.Text.Utf8
import MemberSpec.Toml.Document
import MemberSpec.Toml.Quoting
import MemberSpec.Toml.Reader
import MemberSpec.Toml.Scalar
import MemberSpec.Toml.Value
import MemberSpec.Toml.Writer
import MemberSpec.Type
import MemberSpec.Proofs.ClassPath.Cache
import MemberSpec.Proofs.ClassPath.Layout
import MemberSpec.Proofs.ClassPath.Sharing
import MemberSpec.Proofs.FileTree
import MemberSpec.Proofs.Batch
import MemberSpec.Proofs.Blanks
import MemberSpec.Proofs.Javadoc.Rendering
import MemberSpec.Proofs.ClassFile.Truncation
import MemberSpec.Proofs.Constructors
import MemberSpec.Proofs.LexicalScope
import MemberSpec.Proofs.Resolution
import MemberSpec.Proofs.DocumentationOrder
import MemberSpec.Proofs.Widening
import MemberSpec.Proofs.ClassPath.Confinement
import MemberSpec.Proofs.BoundChains
import MemberSpec.Proofs.Javadoc.Reading
import MemberSpec.Proofs.Javadoc.Indentation
import MemberSpec.Proofs.ClassPath.Nesting
import MemberSpec.Proofs.Failures
import MemberSpec.Proofs.Walks
import MemberSpec.Proofs.Discovery
import MemberSpec.Proofs.Source.Trivia
import MemberSpec.Proofs.Source.Respacing
import MemberSpec.Proofs.Spacing
import MemberSpec.Proofs.Registration
import MemberSpec.Proofs.Arity
import MemberSpec.Proofs.Source.Building
import MemberSpec.Proofs.Source.NodeShapes
import MemberSpec.Proofs.Source.Lexemes
import MemberSpec.Proofs.CallableOrder
import MemberSpec.Proofs.Source.AnnotationSpans
import MemberSpec.Proofs.TypeAnnotations
import MemberSpec.Proofs.ErasedForm
import MemberSpec.Proofs.Toml.Strings
import MemberSpec.Proofs.Toml.Values
import MemberSpec.Proofs.Keyed
import MemberSpec.Proofs.Toml.Documents
import MemberSpec.Proofs.Settings.Layers
import MemberSpec.Proofs.Utf8
import MemberSpec.Proofs.Writing
import MemberSpec.Proofs.Settings.Saving
import MemberSpec.Proofs.Toml.DistinctKeys
import MemberSpec.Proofs.Settings.Leaves
