import ModuleBundler.Main
import ModuleBundler.Proofs.Graph.Build
import ModuleBundler.Proofs.Table.OfList
import ModuleBundler.Proofs.Graph.Search
import ModuleBundler.Proofs.Graph.Tree
import ModuleBundler.Proofs.Graph.Reachable
import ModuleBundler.Proofs.Table.Index
import ModuleBundler.Proofs.Graph.Shared
import ModuleBundler.Proofs.Graph.Agreement
import ModuleBundler.Proofs.Graph.Level
import ModuleBundler.Proofs.Graph.Ending
import ModuleBundler.Proofs.Text.Edit
import ModuleBundler.Proofs.Syntax.Lexeme
import ModuleBundler.Proofs.Syntax.Sites
import ModuleBundler.Proofs.Syntax.Sited
import ModuleBundler.Proofs.Syntax.Advance
import ModuleBundler.Proofs.Syntax.Trace
import ModuleBundler.Proofs.Syntax.Onward
import ModuleBundler.Proofs.Syntax.Extent
import ModuleBundler.Proofs.Syntax.Placed
import ModuleBundler.Proofs.Syntax.Grammar.Basic
import ModuleBundler.Proofs.Syntax.Grammar.Pattern
import ModuleBundler.Proofs.Syntax.Grammar.Function
import ModuleBundler.Proofs.Syntax.Grammar.Type
import ModuleBundler.Proofs.Syntax.Grammar.Class
import ModuleBundler.Proofs.Syntax.Grammar.Expression
import ModuleBundler.Proofs.Syntax.Grammar.Statement
import ModuleBundler.Proofs.Syntax.Grammar.Module
import ModuleBundler.Proofs.Syntax.Grammar.Extent
import ModuleBundler.Proofs.Syntax.Grammar.Onward
import ModuleBundler.Proofs.Syntax.Grammar.Declaration
import ModuleBundler.Proofs.Syntax.Grammar.Level
import ModuleBundler.Proofs.Module.Required
import ModuleBundler.Proofs.Module.Edits
import ModuleBundler.Proofs.Module.Conversion
import ModuleBundler.Proofs.Module.Reads
import ModuleBundler.Proofs.Module.Body
import ModuleBundler.Proofs.Graph.Renaming
import ModuleBundler.Proofs.Graph.Locality
import ModuleBundler.Proofs.Graph.Linking
import ModuleBundler.Proofs.Bundle.Loading
import ModuleBundler.Proofs.Location.Directory
import ModuleBundler.Proofs.Graph.Relocation
import ModuleBundler.Proofs.Module.Insertion
import ModuleBundler.Proofs.Module.Hygiene
import ModuleBundler.Proofs.Graph.Breadth
import ModuleBundler.Proofs.Location.Parent
import ModuleBundler.Proofs.Files.Lookup
import ModuleBundler.Proofs.Files.Directories
import ModuleBundler.Proofs.Files.Save
import ModuleBundler.Proofs.Command.Redirect
import ModuleBundler.Proofs.Command.Effect
import ModuleBundler.Proofs.Text.Quoted
import ModuleBundler.Proofs.Text.Initializer
import ModuleBundler.Proofs.Bundle.Lookup
import ModuleBundler.Proofs.Syntax.Order
import ModuleBundler.Proofs.Syntax.Grammar.Order
import ModuleBundler.Proofs.Module.Exports
import ModuleBundler.Proofs.Location.Destination
import ModuleBundler.Proofs.Text.Letter
import ModuleBundler.Proofs.Module.Access
import ModuleBundler.Proofs.Module.Callee
import ModuleBundler.Proofs.Module.Defined
import ModuleBundler.Proofs.Location.Importer
import ModuleBundler.Proofs.Toml.Document
import ModuleBundler.Proofs.Toml.Spelling
import ModuleBundler.Proofs.Toml.Printed
import ModuleBundler.Proofs.Toml.Pairs
import ModuleBundler.Proofs.Config.Reading
import ModuleBundler.Proofs.Config.Precedence
import ModuleBundler.Proofs.Config.RoundTrip
import ModuleBundler.Proofs.Graph.Accounting
import ModuleBundler.Proofs.Files.Reader
import ModuleBundler.Proofs.Text.Occurrence
import ModuleBundler.Proofs.Bundle.Wrapping
