/-
ModuleBundler/Bundle/HelperTable.lean

The table of helpers, `babelHelpers`, which stands at the head of a bundle whose code
calls one of them.
-/
import ModuleBundler.Bundle.HelperTable.Asynchronous
import ModuleBundler.Bundle.HelperTable.Disposal
import ModuleBundler.Bundle.HelperTable.Object
import ModuleBundler.Bundle.HelperTable.Private

namespace ModuleBundler.HelperTable

/-- The name by which code reaches the table. -/
def binding : String := "babelHelpers"

/-- The helpers that the table offers, in alphabetical order. -/
def offered : List String :=
  ["assertClassBrand", "asyncGeneratorDelegate", "asyncIterator", "asyncToGenerator",
   "awaitAsyncGenerator", "checkInRHS", "classPrivateFieldGet2", "classPrivateFieldInitSpec",
   "classPrivateFieldLooseBase", "classPrivateFieldLooseKey", "classPrivateFieldSet2",
   "classPrivateMethodInitSpec", "defineProperty", "extends", "objectDestructuringEmpty",
   "objectSpread2", "objectWithoutProperties", "objectWithoutPropertiesLoose",
   "readOnlyError", "superPropGet", "superPropSet", "toPropertyKey", "toSetter", "usingCtx",
   "wrapAsyncGenerator", "writeOnlyError"]

/-- An entry of the table.  One name is a reserved word: its function has another, and it is quoted
as a key. -/
def entryLine (name : String) : String :=
  if name = "extends" then "    \"extends\": _extends" else "    " ++ name ++ ": " ++ name

/-- The object that the table is. -/
def tableLines : List String :=
  ["  return \x7b", ",\n".intercalate (offered.map entryLine), "  \x7d;"]

/-- The declaration of the table: a text without its last line end. -/
def declaration : String :=
  let texts := objectTexts ++ asynchronousTexts ++ privateTexts ++ disposalTexts ++ [tableLines]
  let parts := texts.map "\n".intercalate
  "\n\n".intercalate
    (("var " ++ binding ++ " = (function () \x7b\n  \"use strict\";") :: parts) ++ "\n\x7d)();"

end ModuleBundler.HelperTable
