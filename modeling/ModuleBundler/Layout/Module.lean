/-
ModuleBundler/Layout/Module.lean

The layout of what an import or export names.  A name that both sides share is
written once; the names of a list stand in braces behind the name of the default
export, and an empty list is written as such.
-/
import ModuleBundler.Syntax.Tree
import ModuleBundler.Layout.Page
import ModuleBundler.Layout.Literal

namespace ModuleBundler

open Layout

/-- The name as an identifier, or as a string in quotes. -/
def ModuleName.render (n : ModuleName) : String :=
  if n.quoted then Literal.layout ⟨n.text, n.lone, n.span⟩ else n.text

namespace ImportSpec

/-- The name in the list, if the binding stands in a list. -/
def listed? : ImportSpec → Option String
  | named imported l =>
      some (if imported.text == l.name then l.name else imported.render ++ " as " ++ l.name)
  | standard _ | all _ => none

/-- The binding, if it stands outside of the list. -/
def alone? : ImportSpec → Option String
  | named _ _ => none
  | standard l => some l.name
  | all l => some ("* as " ++ l.name)

/-- What stands between `import` and `from`. -/
def renderList (specs : List ImportSpec) : String :=
  let listed := specs.filterMap listed?
  let inBraces :=
    if specs.isEmpty then ["\x7b\x7d"]
    else if listed.isEmpty then []
    else ["\x7b " ++ ", ".intercalate listed ++ " \x7d"]
  ", ".intercalate (specs.filterMap alone? ++ inBraces)

end ImportSpec

namespace ExportSpec

def render (s : ExportSpec) : String :=
  if s.localName.text == s.exported.text then s.localName.render
  else s.localName.render ++ " as " ++ s.exported.render

def renderList (specs : List ExportSpec) : String :=
  if specs.isEmpty then "\x7b\x7d"
  else "\x7b " ++ ", ".intercalate (specs.map render) ++ " \x7d"

end ExportSpec

namespace Layout

/-- An import of another module. -/
def importOf (specs : Option (List ImportSpec)) (source : Literal) : Layout := do
  put "import "
  match specs with
  | some ss => put (ImportSpec.renderList ss ++ " from ")
  | none => pure ()
  put (source.layout ++ ";\n")

/-- An export of names, of the module itself or of another one. -/
def exportOf (specs : List ExportSpec) (source : Option Literal) : Layout := do
  put ("export " ++ ExportSpec.renderList specs)
  match source with
  | some s => put (" from " ++ s.layout)
  | none => pure ()
  put ";\n"

/-- An export of all names of another module, under their own names or as one object. -/
def exportAllOf (exported : Option ModuleName) (source : Literal) : Layout := do
  put "export *"
  match exported with
  | some n => put (" as " ++ n.render)
  | none => pure ()
  put (" from " ++ source.layout ++ ";\n")

end Layout

end ModuleBundler
