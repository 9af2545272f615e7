import Stencil.Main
import Stencil.Renderer.Echo
import Stencil.Proofs.Output.Scan
import Stencil.Proofs.Output.Writing
import Stencil.Proofs.Generator.History
import Stencil.Proofs.Output.Armor
import Stencil.Proofs.Generator.Outcome
import Stencil.Proofs.Renderer.Afresh
import Stencil.Proofs.Renderer.Template
import Stencil.Proofs.Generator.Independence
import Stencil.Proofs.Text.Words
import Stencil.Proofs.Schema.Growth
import Stencil.Proofs.Generator.Refusal
import Stencil.Proofs.Generator.Resolution
import Stencil.Proofs.Generator.Handles
import Stencil.Proofs.Text.Lower
import Stencil.Proofs.Generator.Copies
import Stencil.Proofs.Registry.Submissions
import Stencil.Proofs.Files.Path
import Stencil.Proofs.Files.Tree
import Stencil.Proofs.Output.Overwriting
import Stencil.Proofs.Output.Containment
import Stencil.Proofs.Text.Inflection
import Stencil.Proofs.Text.Plural
import Stencil.Proofs.Schema.Identifiers
import Stencil.Proofs.Generator.Additions
import Stencil.Proofs.Generator.Keys
import Stencil.Proofs.Generator.Delivery
import Stencil.Proofs.Text.Seams
import Stencil.Proofs.Text.PluralWords
import Stencil.Proofs.Text.Spelling
import Stencil.Proofs.Json.Compact
import Stencil.Proofs.Schema.Documents
import Stencil.Proofs.Schema.Acceptance
import Stencil.Proofs.Schema.Rereading
import Stencil.Proofs.Schema.Building
import Stencil.Proofs.Generator.Loading
import Stencil.Proofs.Renderer.Calls
import Stencil.Proofs.Bytes.Order
import Stencil.Proofs.Files.Listing
import Stencil.Proofs.Registry.Directories
import Stencil.Proofs.Text.Fragments
import Stencil.Proofs.Text.Lowering
import Stencil.Proofs.Text.Snakecase
import Stencil.Proofs.Text.Recasing
import Stencil.Proofs.Text.Acronyms
import Stencil.Proofs.Text.Conversions
import Stencil.Proofs.Text.Fusion
import Stencil.Proofs.Text.Trimming
import Stencil.Proofs.Output.Cleaning
import Stencil.Proofs.Bytes.Canonical
import Stencil.Proofs.Types.Custom
import Stencil.Proofs.Text.Naming
import Stencil.Proofs.Context.Sanitizing
import Stencil.Proofs.Template.Printing
import Stencil.Proofs.Context.Collisions
import Stencil.Proofs.Generator.Requests
import Stencil.Proofs.Command.Everything
import Stencil.Proofs.Text.Phrases
import Stencil.Proofs.Command.Plan
