/-
ModuleBundler/Lowering/Regex.lean

Regular expressions with flags or groups that the target does not know are left to
the constructor `RegExp`, which fails only when it is called.
-/
import ModuleBundler.Lowering.State
import ModuleBundler.Lowering.Build

namespace ModuleBundler.Lower

open Build

/-- The features that a pattern uses. -/
def patternFeatures (unicode inClass : Bool) : List Char → List Feature
  | '\\' :: 'p' :: '\x7b' :: rest | '\\' :: 'P' :: '\x7b' :: rest =>
      (if unicode then [.unicodeProperty] else []) ++ patternFeatures unicode inClass rest
  | '\\' :: _ :: rest => patternFeatures unicode inClass rest
  | '[' :: rest => patternFeatures unicode true rest
  | ']' :: rest => patternFeatures unicode false rest
  | '(' :: '?' :: '<' :: '=' :: rest | '(' :: '?' :: '<' :: '!' :: rest =>
      (if inClass then [] else [.lookbehind]) ++ patternFeatures unicode inClass rest
  | '(' :: '?' :: '<' :: rest =>
      (if inClass then [] else [.namedGroup]) ++ patternFeatures unicode inClass rest
  | _ :: rest => patternFeatures unicode inClass rest
  | [] => []

def flagFeature? : Char → Option Feature
  | 's' => some .dotAllFlag
  | 'y' => some .stickyFlag
  | 'u' => some .unicodeFlag
  | 'd' => some .matchIndices
  | 'v' => some .unicodeSets
  | _ => none

/-- A regular expression, as a literal if the target knows all of it. -/
def regex (a : Around) (span : Span) (pattern flags : String) : Expr :=
  let fs := flags.toList
  let features := fs.filterMap flagFeature? ++
    patternFeatures (fs.any fun c => c == 'u' || c == 'v') false pattern.toList
  if features.any a.lowers then
    .new span (name "RegExp") [.item (string pattern), .item (string flags)] false
  else .regex span pattern flags

end ModuleBundler.Lower
