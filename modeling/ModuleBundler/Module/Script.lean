/-
ModuleBundler/Module/Script.lean

A module as a script that is called with `require`, `module` and `exports`.

The script consists of a head and a body.  The head has the strict directive, a
mark that the exports are those of a module, one getter per exported name, and
the `require` statements.  The body is the text of the module with its import
and export declarations taken out and every reference to an import replaced by a
read of the dependency.

* A declaration that goes away leaves a `;`, which keeps its neighbours apart.
* `export` is taken from the front of a declaration; the declaration stays.
* A default export without a name becomes an assignment to `exports.default`.
* A reference that is called, or tags a template, is written `(0, read)`, so that
  the dependency is not passed as `this`.
-/
import ModuleBundler.Module.Link
import ModuleBundler.Text.Edit

namespace ModuleBundler

/-- An exported name and the text whose value it has. -/
structure Getter where
  name : String
  value : String
deriving DecidableEq, Inhabited, Repr

def Getter.text (g : Getter) : String :=
  "Object.defineProperty(exports, " ++ g.name.quoted ++
    ", \x7b enumerable: true, get: function () \x7b return " ++ g.value ++ "; \x7d \x7d);"

/-- What the statements of a module contribute to its script. -/
structure Contribution where
  edits : List Edit := []
  getters : List Getter := []
  /-- The statement makes the text a module. -/
  isModule : Bool := false
deriving Inhabited

/-! ### Edits -/

def Edit.ofString (span : Span) (text : String) : Edit := ⟨span, text.toList⟩

/-- Takes a whole statement out. -/
def Edit.removal (span : Span) : Edit := .ofString span ";"

namespace Link

/-- The edit of a reference, if it resolves to an import. -/
def edit? (l : Link) (r : Reference) : Option Edit :=
  (l.readOf? r).map fun read =>
    .ofString r.id.span <| match r.role with
      | .plain => read
      | .shorthand => r.id.name ++ ": " ++ read
      | .callee => "(0, " ++ read ++ ")"

/-- The edits of all references in a part of the module. -/
def edits (l : Link) (s : Scope) (n : Node) : List Edit := (n.references s).filterMap l.edit?

/-! ### Statements -/

/-- The names that an exported declaration declares. -/
def exportedNames : Stmt → List String
  | .declare _ _ items => declaredNames items
  | .funcDecl f => f.id.toList.map (·.name)
  | .classDecl c => c.id.toList.map (·.name)
  | _ => []

/-- The getter of an entry of an export list. -/
def listGetter (l : Link) (source : Option String) (spec : ExportSpec) : Getter :=
  let name := spec.localName.text
  let value := match source with
    | some object => memberText object name
    | none => if spec.localName.quoted then name else (l.read? name).getD name
  ⟨spec.exported.text, value⟩

/-- The name of a function or class that is the default export. -/
def defaultName? : DefaultExport → Option String
  | .funcDecl f => f.id.map (·.name)
  | .classDecl c => c.id.map (·.name)
  | .expr _ => none

/-- What a statement at the top of the module contributes. -/
def contribution (l : Link) (s : Scope) : Stmt → Contribution
  | .importDecl span _ _ => { edits := [.removal span], isModule := true }
  | .exportDecl span (.typeDecl _) => { edits := [.removal span] }
  | .exportDecl span d =>
      { edits := .ofString ⟨span.start, d.span.start⟩ "" :: l.edits s (.stmt d)
        getters := (exportedNames d).map fun name => ⟨name, name⟩
        isModule := true }
  | .exportList span specs source =>
      { edits := [.removal span]
        getters := specs.map (l.listGetter (source.bind fun _ => l.source? span.start))
        isModule := true }
  | .exportAll span exported _ =>
      { edits := [.removal span]
        getters := exported.toList.flatMap fun name =>
          (l.source? span.start).toList.map fun object => ⟨name.text, object⟩
        isModule := true }
  | .exportDefault span value =>
      let head : Span := ⟨span.start, value.span.start⟩
      let inner := l.edits s (.value value)
      match defaultName? value with
      | some name =>
          { edits := .ofString head "" :: inner, getters := [⟨"default", name⟩], isModule := true }
      | none =>
          { edits := .ofString head "exports.default = " ::
              .ofString ⟨value.span.stop, span.stop⟩ ";" :: inner
            isModule := true }
  | stmt => { edits := l.edits s (.stmt stmt) }

end Link

/-! ### The script -/

namespace Program

/-- What each statement of a module contributes. -/
def contributions (p : Program) : List Contribution :=
  p.stmts.map ((Link.ofProgram p).contribution p.scope)

/-- The edits of the whole module; a line that begins with `#!` is taken out. -/
def edits (p : Program) : List Edit :=
  p.hashbang.toList.map (.ofString · "") ++ p.contributions.flatMap (·.edits)

def getters (p : Program) : List Getter := p.contributions.flatMap (·.getters)

/-- The text has import or export declarations. -/
def isModule (p : Program) : Bool := p.contributions.any (·.isModule)

def strictLine : String := "\"use strict\";\n"

def markLine : String := "Object.defineProperty(exports, \"__esModule\", \x7b value: true \x7d);\n"

/-- What stands before the body of the script. -/
def scriptHead (p : Program) : String :=
  strictLine ++ (if p.isModule then markLine else "") ++
    String.join (p.getters.map fun g => g.text ++ "\n") ++
    String.join ((Link.ofProgram p).requirements.map fun r => r.text ++ "\n")

/-- The text of the module with its edits carried out. -/
def scriptBody (p : Program) (text : List Char) : List Char :=
  Edit.applyAll p.edits text

/-- The module as a script. -/
def script (p : Program) (text : List Char) : String :=
  p.scriptHead ++ String.ofList (p.scriptBody text)

end Program

end ModuleBundler
