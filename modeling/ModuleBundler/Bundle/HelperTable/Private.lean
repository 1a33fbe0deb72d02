/-
ModuleBundler/Bundle/HelperTable/Private.lean

Private members and inherited properties of classes, for code that the lowering made: the texts of the
helpers, line by line.
-/

namespace ModuleBundler.HelperTable

/-- Refuses to give an object a private member twice. -/
def checkPrivateRedeclaration : List String := [
  "  function checkPrivateRedeclaration(obj, privateCollection) \x7b",
  "    if (privateCollection.has(obj)) \x7b",
  "      throw new TypeError(\"Cannot initialize the same private elements twice on an object\");",
  "    \x7d",
  "  \x7d"]

/-- Gives an object a private field. -/
def classPrivateFieldInitSpec : List String := [
  "  function classPrivateFieldInitSpec(obj, privateMap, value) \x7b",
  "    checkPrivateRedeclaration(obj, privateMap);",
  "    privateMap.set(obj, value);",
  "  \x7d"]

/-- Gives an object the private methods of a class. -/
def classPrivateMethodInitSpec : List String := [
  "  function classPrivateMethodInitSpec(obj, privateSet) \x7b",
  "    checkPrivateRedeclaration(obj, privateSet);",
  "    privateSet.add(obj);",
  "  \x7d"]

/-- Refuses an object that has not the private members of a class. -/
def assertClassBrand : List String := [
  "  function assertClassBrand(brand, receiver, value) \x7b",
  "    if (typeof brand === \"function\" ? brand === receiver : brand.has(receiver)) \x7b",
  "      return arguments.length < 3 ? receiver : value;",
  "    \x7d",
  "    throw new TypeError(\"Private element is not present on this object\");",
  "  \x7d"]

/-- Reads a private field. -/
def classPrivateFieldGet2 : List String := [
  "  function classPrivateFieldGet2(privateMap, receiver) \x7b",
  "    return privateMap.get(assertClassBrand(privateMap, receiver));",
  "  \x7d"]

/-- Writes a private field. -/
def classPrivateFieldSet2 : List String := [
  "  function classPrivateFieldSet2(privateMap, receiver, value) \x7b",
  "    privateMap.set(assertClassBrand(privateMap, receiver), value);",
  "    return value;",
  "  \x7d"]

/-- An object whose assignment calls a function. -/
def toSetter : List String := [
  "  function toSetter(fn, args, thisArg) \x7b",
  "    if (!args) args = [];",
  "    var index = args.length++;",
  "    return Object.defineProperty(\x7b\x7d, \"_\", \x7b",
  "      set: function (value) \x7b",
  "        args[index] = value;",
  "        fn.apply(thisArg, args);",
  "      \x7d",
  "    \x7d);",
  "  \x7d"]

/-- Numbers the keys of private members. -/
def privateKeyId : List String := [
  "  var privateKeyId = 0;"]

/-- A key that no other member has. -/
def classPrivateFieldLooseKey : List String := [
  "  function classPrivateFieldLooseKey(name) \x7b",
  "    return \"__private_\" + privateKeyId++ + \"_\" + name;",
  "  \x7d"]

/-- Refuses an object that has not a key. -/
def classPrivateFieldLooseBase : List String := [
  "  function classPrivateFieldLooseBase(receiver, privateKey) \x7b",
  "    if (!Object.prototype.hasOwnProperty.call(receiver, privateKey)) \x7b",
  "      throw new TypeError(\"attempted to use private field on non-instance\");",
  "    \x7d",
  "    return receiver;",
  "  \x7d"]

/-- Reads an inherited property. -/
def superPropGet : List String := [
  "  // flags: 1 reads from the prototype, 2 binds a method result to receiver.",
  "  function superPropGet(classArg, property, receiver, flags) \x7b",
  "    var home = Object.getPrototypeOf(flags & 1 ? classArg.prototype : classArg);",
  "    var result = Reflect.get(home, property, receiver);",
  "    if (flags & 2 && typeof result === \"function\") \x7b",
  "      return function (args) \x7b",
  "        return result.apply(receiver, args);",
  "      \x7d;",
  "    \x7d",
  "    return result;",
  "  \x7d"]

/-- Writes an inherited property. -/
def superPropSet : List String := [
  "  function superPropSet(classArg, property, value, receiver, isStrict, onPrototype) \x7b",
  "    var home = Object.getPrototypeOf(onPrototype ? classArg.prototype : classArg);",
  "    if (!Reflect.set(home, property, value, receiver || home) && isStrict) \x7b",
  "      throw new TypeError(\"failed to set property\");",
  "    \x7d",
  "    return value;",
  "  \x7d"]

/-- Refuses to write. -/
def readOnlyError : List String := [
  "  function readOnlyError(name) \x7b",
  "    throw new TypeError('\"' + name + '\" is read-only');",
  "  \x7d"]

/-- Refuses to read. -/
def writeOnlyError : List String := [
  "  function writeOnlyError(name) \x7b",
  "    throw new TypeError('\"' + name + '\" is write-only');",
  "  \x7d"]

/-- Refuses what can have no members. -/
def checkInRHS : List String := [
  "  function checkInRHS(value) \x7b",
  "    if (Object(value) !== value) \x7b",
  "      throw new TypeError(",
  "        \"right-hand side of 'in' should be an object, got \" +",
  "          (value !== null ? typeof value : \"null\")",
  "      );",
  "    \x7d",
  "    return value;",
  "  \x7d"]

/-- The helpers of the module, in the order in which they stand in a bundle. -/
def privateTexts : List (List String) :=
  [checkPrivateRedeclaration, classPrivateFieldInitSpec, classPrivateMethodInitSpec,
   assertClassBrand, classPrivateFieldGet2, classPrivateFieldSet2, toSetter,
   privateKeyId, classPrivateFieldLooseKey, classPrivateFieldLooseBase, superPropGet,
   superPropSet, readOnlyError, writeOnlyError, checkInRHS]

end ModuleBundler.HelperTable
