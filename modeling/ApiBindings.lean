import ApiBindings.Main
import ApiBindings.Proofs.Naming.Exported
import ApiBindings.Proofs.Naming.Unique
import ApiBindings.Proofs.Unit.Growth
import ApiBindings.Proofs.Rendering.Rendered
import ApiBindings.Proofs.Rendering.Names
import ApiBindings.Proofs.Rendering.Origin
import ApiBindings.Proofs.Rendering.Reach
import ApiBindings.Proofs.Generation.Gather
import ApiBindings.Proofs.Generation.Types
import ApiBindings.Proofs.Generation.Containment
import ApiBindings.Proofs.Rendering.Mention
import ApiBindings.Proofs.Operation.Compiled
import ApiBindings.Proofs.Operation.Growth
import ApiBindings.Proofs.Operation.Mention
import ApiBindings.Proofs.Generation.Mention
import ApiBindings.Proofs.Generation.Format
import ApiBindings.Proofs.Operation.Finder
import ApiBindings.Proofs.Generation.SharedNames
import ApiBindings.Proofs.Files.Access
import ApiBindings.Proofs.Command.Perform
import ApiBindings.Proofs.Command.CutShort
import ApiBindings.Proofs.Rendering.Orderly
import ApiBindings.Proofs.Generation.Components
import ApiBindings.Proofs.Rendering.Constants
import ApiBindings.Proofs.Operation.Declarations
import ApiBindings.Proofs.Operation.Constructors
import ApiBindings.Proofs.Generation.PackageNames
import ApiBindings.Proofs.Layout.Code
import ApiBindings.Proofs.Unit.Printed
import ApiBindings.Proofs.Generation.Layout
import ApiBindings.Proofs.Generation.Documentation
import ApiBindings.Proofs.Generation.Kinds
import ApiBindings.Proofs.Text.Literal
import ApiBindings.Proofs.Operation.Path
import ApiBindings.Proofs.Unit.Qualifiers
import ApiBindings.Proofs.Unit.Used
import ApiBindings.Proofs.Unit.Imports
import ApiBindings.Proofs.Operation.Functions
import ApiBindings.Proofs.Generation.Imports
import ApiBindings.Proofs.Rendering.Compound
import ApiBindings.Proofs.Operation.Lists
import ApiBindings.Proofs.Operation.Lookup
import ApiBindings.Proofs.Generation.Finders
import ApiBindings.Proofs.Data.Dictionary
import ApiBindings.Proofs.Data.Decoder
import ApiBindings.Proofs.Document.Reading
import ApiBindings.Proofs.Document.Entries
import ApiBindings.Proofs.Generation.Outcomes
import ApiBindings.Proofs.Operation.Shortcuts
import ApiBindings.Proofs.Files.Content
import ApiBindings.Proofs.Command.Arguments
import ApiBindings.Proofs.Command.Check
import ApiBindings.Proofs.Generation.Independence
import ApiBindings.Proofs.Files.Places
import ApiBindings.Proofs.Command.Outputs
import ApiBindings.Proofs.Operation.Pointers
import ApiBindings.Proofs.Generation.Payloads
import ApiBindings.Proofs.Operation.Query
import ApiBindings.Proofs.Generation.QueryOptions
import ApiBindings.Proofs.Unit.Tag
import ApiBindings.Proofs.Rendering.Tags
import ApiBindings.Proofs.Rendering.Fields
import ApiBindings.Proofs.Rendering.Wrapped
import ApiBindings.Proofs.Rendering.Expands
import ApiBindings.Proofs.Generation.Required
import ApiBindings.Proofs.Generation.Aliases
import ApiBindings.Proofs.Rendering.Search
import ApiBindings.Proofs.Shape.Chain
import ApiBindings.Proofs.Operation.Merged
import ApiBindings.Proofs.Unit.Same
import ApiBindings.Proofs.Rendering.Idle
import ApiBindings.Proofs.Rendering.Repeated
import ApiBindings.Proofs.Generation.Repeated
import ApiBindings.Proofs.Naming.Identifier
import ApiBindings.Proofs.Rendering.Enumeration
import ApiBindings.Proofs.Unit.Identifiers
import ApiBindings.Proofs.Operation.Identifiers
import ApiBindings.Proofs.Generation.Identifiers
import ApiBindings.Proofs.Number.Shortest
import ApiBindings.Proofs.Data.Numbers
import ApiBindings.Proofs.Unit.Constant
import ApiBindings.Proofs.Rendering.Range
import ApiBindings.Proofs.Rendering.Collision
import ApiBindings.Proofs.Rendering.Inline
import ApiBindings.Proofs.Rendering.Scopes
import ApiBindings.Proofs.Layout.Scan
import ApiBindings.Proofs.Layout.Pieces
import ApiBindings.Proofs.Layout.Balance
import ApiBindings.Proofs.Layout.Steps
import ApiBindings.Proofs.Layout.Tidy
import ApiBindings.Proofs.Text.Denotation
import ApiBindings.Proofs.Naming.Requests
import ApiBindings.Proofs.Shape.Declared
import ApiBindings.Proofs.Rendering.Bounds
import ApiBindings.Proofs.Text.Words
import ApiBindings.Proofs.Naming.Snake
import ApiBindings.Proofs.Unit.Edits
