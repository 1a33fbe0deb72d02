/-
ModuleBundler/Text/Json.lean

Objects as JSON texts, without spaces.
-/
import ModuleBundler.Text.Quoted

namespace ModuleBundler.Json

/-- A member of an object, given the text of its value. -/
def member (key value : String) : String := key.quoted ++ ":" ++ value

/-- An object, given the texts of its members. -/
def object (members : List String) : String := "\x7b" ++ ",".intercalate members ++ "\x7d"

def bool (b : Bool) : String := if b then "true" else "false"

end ModuleBundler.Json
