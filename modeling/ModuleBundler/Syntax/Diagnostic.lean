/-
ModuleBundler/Syntax/Diagnostic.lean

What can be wrong with a source text.  Each cause is a constructor; its wording
is `Diagnostic.message`.
-/

namespace ModuleBundler

inductive Diagnostic where
  -- Characters and tokens.
  | invalidCharacter (c : Char)
  | unexpectedEnd
  | charactersAfterNumber
  | unicodeEscape
  | stringEscape
  | templateEscape
  | unterminatedString
  | unterminatedComment
  | unterminatedRegex
  | regexFlag (flag : Char)
  | repeatedRegexFlag (flag : Char)
  | escapedKeyword
  -- Grammar.
  | unexpectedToken
  | expected (wanted found : String)
  | missingSemicolon
  | missingFunctionName
  | identifierExpected
  | reservedIdentifier (name : String)
  | identifierInAsync (name : String)
  | identifierInGenerator (name : String)
  | emptyParentheses
  | newlineBeforeArrow
  | newlineAfterThrow
  | newWithImport
  | newWithOptionalChain
  | templateInOptionalChain
  | importSpecifierRequired
  | importArguments
  | importMeta
  | newTarget
  | unexpectedSuper
  | exponentOfUnary
  | mixedCoalesce
  | assignmentTarget
  | shorthandInitializer
  | restParameterNotLast
  | restNotLast
  | spreadNotLast
  | restTrailingComma
  | restInitializer
  | restPattern
  | missingCatch
  | missingConstInitializer
  | missingPatternInitializer
  | missingResourceInitializer
  | resourcePattern
  | resourceOverKeys (word : String)
  | asyncOverItems
  | awaitOverItems
  | returnOutsideFunction
  | awaitOutsideAsync
  | yieldOutsideGenerator
  | lexicalInSingleStatement
  | classInSingleStatement
  | asyncInSingleStatement
  | generatorInSingleStatement
  | privateInPrivate
  -- Classes and members.
  | heritageRepeated
  | heritageAfterInterfaces
  | interfacesRepeated
  | modifierRepeated (word : String)
  | accessRepeated
  | modifierMisplaced (word : String)
  | parameterModifier
  | decoratorMisplaced
  | decoratorOnBothSides
  | decoratorExpression
  | constructorAsync
  | constructorGenerator
  | constructorAccessor
  | constructorField
  | constructorPrivate
  | staticPrototype
  | numericEnumMember
  | computedEnumMember
  -- Modules.
  | redeclared (name : String)
  | importEquals
  | typeAssertion
  | typeSatisfaction
  | stringExport
  | reservedExport
  | loneSurrogateExport
  | duplicateExport (name : String)
  | duplicateDefaultExport
  -- What a target cannot express.
  | bigintUnsupported
deriving DecidableEq, Repr

namespace Diagnostic

def message : Diagnostic → String
  | invalidCharacter c => "Invalid Character `" ++ String.singleton c ++ "`"
  | unexpectedEnd => "Unexpected end of file"
  | charactersAfterNumber => "Invalid characters after number"
  | unicodeEscape => "Invalid Unicode escape sequence"
  | stringEscape => "Invalid escape sequence"
  | templateEscape => "Bad escape sequence in untagged template literal"
  | unterminatedString => "Unterminated string"
  | unterminatedComment => "Unterminated multiline comment"
  | unterminatedRegex => "Unterminated regular expression"
  | regexFlag f => "Unexpected flag " ++ String.singleton f ++ " in regular expression literal"
  | repeatedRegexFlag f =>
      "Flag " ++ String.singleton f ++ " is mentioned twice in regular expression literal"
  | escapedKeyword => "Keywords cannot contain escape characters"
  | unexpectedToken => "Unexpected token"
  | expected wanted found => "Expected `" ++ wanted ++ "` but found `" ++ found ++ "`"
  | missingSemicolon =>
      "Expected a semicolon or an implicit semicolon after a statement, but found none"
  | missingFunctionName => "Expected function name"
  | identifierExpected => "Identifier expected."
  | reservedIdentifier name =>
      "Identifier expected. '" ++ name ++ "' is a reserved word that cannot be used here."
  | identifierInAsync name =>
      "Cannot use `" ++ name ++ "` as an identifier in an async context"
  | identifierInGenerator name =>
      "Cannot use `" ++ name ++ "` as an identifier in a generator context"
  | emptyParentheses => "Empty parenthesized expression"
  | newlineBeforeArrow => "Line terminator not permitted before arrow"
  | newlineAfterThrow => "Illegal newline after throw"
  | newWithImport => "Cannot use new with dynamic import"
  | newWithOptionalChain => "Invalid optional chain from new expression."
  | templateInOptionalChain =>
      "Tagged template expressions are not permitted in an optional chain"
  | importSpecifierRequired => "import() requires a specifier."
  | importArguments =>
      "Dynamic imports can only accept a module specifier and an optional set of attributes as arguments"
  | importMeta => "The only valid meta property for import is import.meta"
  | newTarget => "The only valid meta property for new is new.target"
  | unexpectedSuper =>
      "'super' can only be used with function calls or in property accesses"
  | exponentOfUnary => "Unexpected exponentiation expression"
  | mixedCoalesce => "Logical expressions and coalesce expressions cannot be mixed"
  | assignmentTarget => "Cannot assign to this expression"
  | shorthandInitializer => "Invalid assignment in object literal"
  | restParameterNotLast => "A rest parameter must be last in a parameter list"
  | restNotLast => "A rest element must be last in a destructuring pattern"
  | spreadNotLast => "Spread must be last element"
  | restTrailingComma => "A rest parameter or binding pattern may not have a trailing comma."
  | restInitializer => "A rest element cannot have an initializer."
  | restPattern => "Invalid rest element"
  | missingCatch => "Missing catch or finally clause"
  | missingConstInitializer => "Missing initializer in const declaration"
  | missingPatternInitializer => "Missing initializer in destructuring declaration"
  | missingResourceInitializer => "Using declarations must have an initializer."
  | resourcePattern => "Using declarations may not have binding patterns."
  | resourceOverKeys word =>
      "The left-hand side of a for...in statement cannot be an " ++ word ++ " declaration."
  | asyncOverItems => "The left-hand side of a `for...of` statement may not be `async`"
  | awaitOverItems => "await can only be used in conjunction with `for...of` statements"
  | returnOutsideFunction => "A 'return' statement can only be used within a function body."
  | awaitOutsideAsync =>
      "`await` is only allowed within async functions and at the top levels of modules"
  | yieldOutsideGenerator => "A 'yield' expression is only allowed in a generator body."
  | lexicalInSingleStatement =>
      "Lexical declaration cannot appear in a single-statement context"
  | classInSingleStatement => "Invalid class declaration"
  | asyncInSingleStatement =>
      "Async functions can only be declared at the top level or inside a block"
  | generatorInSingleStatement =>
      "Generators can only be declared at the top level or inside a block"
  | privateInPrivate => "Unexpected right-hand side of private-in expression"
  | heritageRepeated => "'extends' clause already seen."
  | heritageAfterInterfaces => "'extends' clause must precede 'implements' clause."
  | interfacesRepeated => "'implements' clause already seen."
  | modifierRepeated word => "'" ++ word ++ "' modifier already seen."
  | accessRepeated => "Accessibility modifier already seen."
  | modifierMisplaced word => "'" ++ word ++ "' modifier cannot be used here."
  | parameterModifier => "Parameter modifiers can only be used in TypeScript files."
  | decoratorMisplaced => "Decorators are not valid here."
  | decoratorOnBothSides =>
      "Decorators may not appear after 'export' or 'export default' if they also appear before 'export'."
  | decoratorExpression =>
      "Expression must be enclosed in parentheses to be used as a decorator."
  | constructorAsync => "Constructor can't be an async method"
  | constructorGenerator => "Constructor can't be a generator"
  | constructorAccessor => "Constructor can't have get/set modifier"
  | constructorField => "Classes can't have a field named 'constructor'"
  | constructorPrivate => "Classes can't have an element named '#constructor'"
  | staticPrototype => "Classes may not have a static property named prototype"
  | numericEnumMember => "An enum member cannot have a numeric name."
  | computedEnumMember => "Computed property names are not allowed in enums."
  | redeclared name => "Identifier `" ++ name ++ "` has already been declared"
  | importEquals => "'import ... =' can only be used in TypeScript files."
  | typeAssertion => "Type assertion expressions can only be used in TypeScript files."
  | typeSatisfaction => "Type satisfaction expressions can only be used in TypeScript files."
  | stringExport =>
      "A string literal cannot be used as an exported binding without `from`"
  | reservedExport => "A reserved word cannot be used as an exported binding without `from`"
  | loneSurrogateExport => "An export name cannot include a unicode lone surrogate"
  | duplicateExport name => "Duplicated export '" ++ name ++ "'"
  | duplicateDefaultExport => "Duplicated default export"
  | bigintUnsupported =>
      "Big integer literals are not available in the configured target environment."

/-- Several diagnostics in one line. -/
def joined (ds : List Diagnostic) : String :=
  "; ".intercalate (ds.map message)

end Diagnostic

end ModuleBundler
