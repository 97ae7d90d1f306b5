import SchemaDoc.AppliedDirective
import SchemaDoc.Catalog.Basic
import SchemaDoc.Catalog.Entity
import SchemaDoc.Catalog.Groups
import SchemaDoc.Catalog.Relations
import SchemaDoc.CommandLine.Arguments
import SchemaDoc.CommandLine.Command
import SchemaDoc.CommandLine.Discovery
import SchemaDoc.CommandLine.LogLevel
import SchemaDoc.CommandLine.Run
import SchemaDoc.FileTree
import SchemaDoc.Handler.Basic
import SchemaDoc.Handler.Custom
import SchemaDoc.Handler.Template
import SchemaDoc.Main
import SchemaDoc.Number.Binary64
import SchemaDoc.Number.Shortest
import SchemaDoc.OrderedMap
import SchemaDoc.Page.Basic
import SchemaDoc.Page.Code
import SchemaDoc.Page.Context
import SchemaDoc.Page.Link
import SchemaDoc.Page.Section
import SchemaDoc.Page.Slug
import SchemaDoc.Proofs.Catalog.Entities
import SchemaDoc.Proofs.Catalog.Groups
import SchemaDoc.Proofs.Catalog.Lookup
import SchemaDoc.Proofs.Catalog.Partition
import SchemaDoc.Proofs.Catalog.References
import SchemaDoc.Proofs.Catalog.Relations
import SchemaDoc.Proofs.CommandLine.Discovery
import SchemaDoc.Proofs.FileTree.Paths
import SchemaDoc.Proofs.FileTree.Places
import SchemaDoc.Proofs.Handler.Arguments
import SchemaDoc.Proofs.Handler.Custom
import SchemaDoc.Proofs.Handler.Filling
import SchemaDoc.Proofs.Handler.Placeholders
import SchemaDoc.Proofs.Handler.Values
import SchemaDoc.Proofs.Loading.Arrangement
import SchemaDoc.Proofs.Loading.Closure
import SchemaDoc.Proofs.Loading.Declarations
import SchemaDoc.Proofs.Loading.Extending
import SchemaDoc.Proofs.Loading.Faults
import SchemaDoc.Proofs.Loading.FirstMentions
import SchemaDoc.Proofs.Loading.Growth
import SchemaDoc.Proofs.Loading.Introspection
import SchemaDoc.Proofs.Loading.Keyed
import SchemaDoc.Proofs.Loading.Locations
import SchemaDoc.Proofs.Loading.Mentions
import SchemaDoc.Proofs.Loading.Merging
import SchemaDoc.Proofs.Loading.Naming
import SchemaDoc.Proofs.Loading.Ordering
import SchemaDoc.Proofs.Loading.Outlines
import SchemaDoc.Proofs.Loading.Reordering
import SchemaDoc.Proofs.Loading.Roots
import SchemaDoc.Proofs.Loading.Verdict
import SchemaDoc.Proofs.Number.Positional
import SchemaDoc.Proofs.OrderedMap
import SchemaDoc.Proofs.Page.Badges
import SchemaDoc.Proofs.Page.Blocks
import SchemaDoc.Proofs.Page.Building
import SchemaDoc.Proofs.Page.CodeBlock
import SchemaDoc.Proofs.Page.CodeLines
import SchemaDoc.Proofs.Page.CodeReading
import SchemaDoc.Proofs.Page.CodeText
import SchemaDoc.Proofs.Page.Context
import SchemaDoc.Proofs.Page.Defaults
import SchemaDoc.Proofs.Page.Exclusion
import SchemaDoc.Proofs.Page.Fence
import SchemaDoc.Proofs.Page.Hiding
import SchemaDoc.Proofs.Page.Hyphens
import SchemaDoc.Proofs.Page.Links
import SchemaDoc.Proofs.Page.Literals
import SchemaDoc.Proofs.Page.Members
import SchemaDoc.Proofs.Page.Navigation
import SchemaDoc.Proofs.Page.Outline
import SchemaDoc.Proofs.Page.Paths
import SchemaDoc.Proofs.Page.SectionReading
import SchemaDoc.Proofs.Page.Slugs
import SchemaDoc.Proofs.Page.Usage
import SchemaDoc.Proofs.Rendering
import SchemaDoc.Proofs.Results
import SchemaDoc.Proofs.Sdl.ConstantReading
import SchemaDoc.Proofs.Sdl.ConstantText
import SchemaDoc.Proofs.Sdl.Constants
import SchemaDoc.Proofs.Sdl.Definitions
import SchemaDoc.Proofs.Sdl.Guarantees
import SchemaDoc.Proofs.Sdl.Inline
import SchemaDoc.Proofs.Sdl.Lexing
import SchemaDoc.Proofs.Sdl.Literals
import SchemaDoc.Proofs.Sdl.Nesting
import SchemaDoc.Proofs.Sdl.Reading
import SchemaDoc.Proofs.Sdl.TypeText
import SchemaDoc.Proofs.Sdl.ValueText
import SchemaDoc.Proofs.Sdl.Values
import SchemaDoc.Proofs.Sdl.Wellformed
import SchemaDoc.Proofs.Settings.CompactForm
import SchemaDoc.Proofs.Settings.Reading
import SchemaDoc.Proofs.Text.Case
import SchemaDoc.Proofs.Text.Joining
import SchemaDoc.Proofs.Text.Pieces
import SchemaDoc.Proofs.Text.Word
import SchemaDoc.Rendering
import SchemaDoc.Schema.Basic
import SchemaDoc.Schema.Builtin
import SchemaDoc.Schema.Files
import SchemaDoc.Schema.Loading
import SchemaDoc.Schema.TypeDef
import SchemaDoc.Sdl.Grammar
import SchemaDoc.Sdl.Lexer
import SchemaDoc.Sdl.Position
import SchemaDoc.Sdl.Reader
import SchemaDoc.Sdl.StringLiteral
import SchemaDoc.Sdl.Syntax
import SchemaDoc.Sdl.Token
import SchemaDoc.Settings.Basic
import SchemaDoc.Settings.Reading
import SchemaDoc.Text.Alphabetic
import SchemaDoc.Text.Blank
import SchemaDoc.Text.Case
import SchemaDoc.Text.Lines
import SchemaDoc.Text.Numeric
import SchemaDoc.Text.Pattern
import SchemaDoc.Text.Printable
import SchemaDoc.Text.Quoted
import SchemaDoc.Text.Span
import SchemaDoc.Text.Word
import SchemaDoc.Toml.Basic
import SchemaDoc.Toml.Reader
import SchemaDoc.Toml.Table
import SchemaDoc.TypeRef
import SchemaDoc.Value
