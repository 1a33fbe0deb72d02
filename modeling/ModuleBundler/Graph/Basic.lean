/-
ModuleBundler/Graph/Basic.lean

The graph of a bundle: the assets that were found, in the order in which they were
found.
-/
import ModuleBundler.Graph.Asset

namespace ModuleBundler

/-- Assets in the order in which they were found. -/
structure AssetGraph where
  assets : List Asset
deriving Inhabited

namespace AssetGraph

def size (g : AssetGraph) : Nat := g.assets.length

def isEmpty (g : AssetGraph) : Bool := g.assets.isEmpty

/-- The asset with a number. -/
def get? (g : AssetGraph) (id : Nat) : Option Asset := g.assets.find? (·.id == id)

/-- The asset that a bundle begins with. -/
def entry? (g : AssetGraph) : Option Asset := g.get? entryNumber

end AssetGraph

end ModuleBundler
