/-
ModuleBundler/Bundle/Render.lean

A graph as one script.  The script is a loader, applied to a table of all assets by
their numbers.  An entry of the table holds the code of an asset, as a function of
`require`, `module` and `exports`, and the mapping from the specifiers in the code to
the numbers of assets.

`require` runs a module each time it is called: no result is kept.  Running starts with
the asset whose number is zero.

If the code of some asset calls a helper, the whole script stands in a scope that
declares the table of helpers.
-/
import ModuleBundler.Bundle.HelperTable
import ModuleBundler.Graph.Basic
import ModuleBundler.Text.Json

namespace ModuleBundler

/-! ### The loader -/

namespace Loader

/-- What stands before the table of assets. -/
def opening : String := "\n".intercalate [
  "(function (modules) \x7b",
  "  function require(id) \x7b",
  "    var entry = modules[id];",
  "    var fn = entry[0];",
  "    var mapping = entry[1];",
  "    function localRequire(name) \x7b",
  "      if (!Object.prototype.hasOwnProperty.call(mapping, name)) \x7b",
  "        throw new Error(\"Cannot find module '\" + name + \"'\");",
  "      \x7d",
  "      return require(mapping[name]);",
  "    \x7d",
  "    var module = \x7b exports: \x7b\x7d \x7d;",
  "    fn(localRequire, module, module.exports);",
  "    return module.exports;",
  "  \x7d",
  "  require(" ++ toString entryNumber ++ ");",
  "\x7d)(\x7b\n"]

/-- What stands after the table of assets. -/
def closing : String := "\x7d);\n"

end Loader

/-! ### Helpers -/

namespace HelperTable

/-- What stands before the loader in a bundle with helpers. -/
def opening : String := "(function () \x7b\n" ++ declaration ++ "\n"

/-- What stands at the end of a bundle with helpers. -/
def closing : String := "\x7d)();\n"

/-- The text after the word at the head of a text. -/
def after? (word : List Char) (text : List Char) : Option (List Char) :=
  match word, text with
  | [], rest => some rest
  | w :: ws, c :: cs => if w = c then after? ws cs else none
  | _ :: _, [] => none

theorem length_after? {word text rest : List Char} (h : after? word text = some rest) :
    text.length = word.length + rest.length := by
  induction word generalizing text with
  | nil => simp_all [after?]
  | cons w ws ih =>
      cases text with
      | nil => simp [after?] at h
      | cons c cs =>
          simp only [after?] at h
          split at h
          · have := ih h
            simp only [List.length_cons]
            omega
          · simp at h

theorem length_lt_of_after? {text rest : List Char}
    (h : after? binding.toList text = some rest) : rest.length < text.length := by
  rw [length_after? h, show binding.toList.length = 12 by decide]
  omega

/-- The name of the table occurs with a `.` after it.  Occurrences are looked for from left to
right, each after the end of the one before. -/
def occursIn : List Char → Bool
  | [] => false
  | c :: cs =>
      match h : after? binding.toList (c :: cs) with
      | some rest =>
          have := length_lt_of_after? h
          rest.head? == some '.' || occursIn rest
      | none => occursIn cs
termination_by text => text.length
decreasing_by
  · exact length_lt_of_after? h
  · simp

end HelperTable

/-- The code calls a helper. -/
def usesHelpers (code : String) : Bool := HelperTable.occursIn code.toList

/-! ### The bundle -/

/-- A mapping as an object. -/
def Table.json (t : Table String Nat) : String :=
  Json.object (t.entries.map fun e => Json.member e.1 (toString e.2))

/-- The entry of an asset in the table.  The code ends with a line end. -/
def Asset.render (a : Asset) : String :=
  "  " ++ toString a.id ++ ": [\n    function (require, module, exports) \x7b\n" ++ a.code ++
    (if a.code.toList.getLast? = some '\n' then "" else "\n") ++
    "    \x7d,\n    " ++ a.mapping.json ++ "\n  ],\n"

namespace AssetGraph

/-- The script without helpers. -/
def plainBundle (g : AssetGraph) : String :=
  Loader.opening ++ String.join (g.assets.map Asset.render) ++ Loader.closing

/-- Some asset calls a helper. -/
def usesHelpers (g : AssetGraph) : Bool := g.assets.any fun a => ModuleBundler.usesHelpers a.code

/-- The graph as one script; a graph without assets has none. -/
def bundle? (g : AssetGraph) : Option String :=
  if g.isEmpty then none
  else if g.usesHelpers then some (HelperTable.opening ++ g.plainBundle ++ HelperTable.closing)
  else some g.plainBundle

end AssetGraph

end ModuleBundler
