/-
ModuleBundler/Bundle/Make.lean

From settings and an entry to a bundle.
-/
import ModuleBundler.Bundle.Render
import ModuleBundler.Config.Basic
import ModuleBundler.Graph.Discovery

namespace ModuleBundler

/-- Why there is no bundle. -/
inductive BundleError where
  | target (given : String) (cause : TargetError)
  | build (entry : String) (cause : BuildError)
  /-- More assets than a graph can have. -/
  | unbounded (entry : String)
  | empty
deriving DecidableEq, Inhabited, Repr

/-- The message for a target that cannot be read. -/
def TargetError.report (given : String) (cause : TargetError) : String :=
  "invalid compilation target '" ++ given ++ "': " ++ cause.message

namespace BundleError

def message : BundleError → String
  | target given cause => cause.report given
  | build entry cause => "failed to bundle " ++ entry ++ ": " ++ cause.chain
  | unbounded entry => "failed to bundle " ++ entry ++ ": too many assets"
  | empty => "cannot render an empty asset graph"

end BundleError

namespace Config

/-- The graph of an entry. -/
def graph (c : Config) (read : Reader) (entry : String) : Except BundleError AssetGraph := do
  let target ← (Target.ofText c.target).mapError (.target c.target)
  let found ← (Project.graph? ⟨read, target⟩ c.dedupeModules entry).mapError (.build entry)
  match found with
  | some g => return g
  | none => throw (.unbounded entry)

/-- The bundle of an entry. -/
def bundle (c : Config) (read : Reader) (entry : String) : Except BundleError String := do
  match (← c.graph read entry).bundle? with
  | some text => return text
  | none => throw .empty

end Config

end ModuleBundler
