/-
ModuleBundler/Bundle/HelperTable/Object.lean

Objects and their properties, for code that the lowering made: the texts of the
helpers, line by line.
-/

namespace ModuleBundler.HelperTable

/-- Turns a value into one that is no object. -/
def toPrimitive : List String := [
  "  function toPrimitive(input, hint) \x7b",
  "    if (typeof input !== \"object\" || input === null) return input;",
  "    var exotic = input[Symbol.toPrimitive];",
  "    if (exotic !== undefined) \x7b",
  "      var result = exotic.call(input, hint || \"default\");",
  "      if (typeof result !== \"object\") return result;",
  "      throw new TypeError(\"@@toPrimitive must return a primitive value.\");",
  "    \x7d",
  "    return (hint === \"string\" ? String : Number)(input);",
  "  \x7d"]

/-- Turns a value into the key of a property. -/
def toPropertyKey : List String := [
  "  function toPropertyKey(arg) \x7b",
  "    var key = toPrimitive(arg, \"string\");",
  "    return typeof key === \"symbol\" ? key : String(key);",
  "  \x7d"]

/-- Defines a property, whether or not it is there already. -/
def defineProperty : List String := [
  "  function defineProperty(obj, key, value) \x7b",
  "    key = toPropertyKey(key);",
  "    if (key in obj) \x7b",
  "      Object.defineProperty(obj, key, \x7b",
  "        value: value,",
  "        enumerable: true,",
  "        configurable: true,",
  "        writable: true",
  "      \x7d);",
  "    \x7d else \x7b",
  "      obj[key] = value;",
  "    \x7d",
  "    return obj;",
  "  \x7d"]

/-- The keys of an object, symbols among them. -/
def ownKeys : List String := [
  "  function ownKeys(object, enumerableOnly) \x7b",
  "    var keys = Object.keys(object);",
  "    if (Object.getOwnPropertySymbols) \x7b",
  "      var symbols = Object.getOwnPropertySymbols(object);",
  "      if (enumerableOnly) \x7b",
  "        symbols = symbols.filter(function (sym) \x7b",
  "          return Object.getOwnPropertyDescriptor(object, sym).enumerable;",
  "        \x7d);",
  "      \x7d",
  "      keys.push.apply(keys, symbols);",
  "    \x7d",
  "    return keys;",
  "  \x7d"]

/-- Copies properties of objects into the first. -/
def objectSpread2 : List String := [
  "  // Odd arguments are spread sources, even arguments hold literal properties.",
  "  function objectSpread2(target) \x7b",
  "    for (var i = 1; i < arguments.length; i++) \x7b",
  "      var source = arguments[i] != null ? arguments[i] : \x7b\x7d;",
  "      if (i % 2) \x7b",
  "        ownKeys(Object(source), true).forEach(function (key) \x7b",
  "          defineProperty(target, key, source[key]);",
  "        \x7d);",
  "      \x7d else if (Object.getOwnPropertyDescriptors) \x7b",
  "        Object.defineProperties(target, Object.getOwnPropertyDescriptors(source));",
  "      \x7d else \x7b",
  "        ownKeys(Object(source)).forEach(function (key) \x7b",
  "          Object.defineProperty(target, key, Object.getOwnPropertyDescriptor(source, key));",
  "        \x7d);",
  "      \x7d",
  "    \x7d",
  "    return target;",
  "  \x7d"]

/-- Copies properties, where the language has no function for it. -/
def assign : List String := [
  "  function assign(target) \x7b",
  "    for (var i = 1; i < arguments.length; i++) \x7b",
  "      var source = arguments[i];",
  "      for (var key in source) \x7b",
  "        if (Object.prototype.hasOwnProperty.call(source, key)) target[key] = source[key];",
  "      \x7d",
  "    \x7d",
  "    return target;",
  "  \x7d"]

/-- Copies properties of objects into the first, by assignment. -/
def extend : List String := [
  "  function _extends() \x7b",
  "    return (Object.assign || assign).apply(null, arguments);",
  "  \x7d"]

/-- Refuses what cannot be taken apart. -/
def objectDestructuringEmpty : List String := [
  "  function objectDestructuringEmpty(obj) \x7b",
  "    if (obj == null) throw new TypeError(\"Cannot destructure \" + obj);",
  "  \x7d"]

/-- The properties with text keys that are not excluded. -/
def objectWithoutPropertiesLoose : List String := [
  "  function objectWithoutPropertiesLoose(source, excluded) \x7b",
  "    if (source == null) return \x7b\x7d;",
  "    var target = \x7b\x7d;",
  "    for (var key in source) \x7b",
  "      if (!Object.prototype.hasOwnProperty.call(source, key)) continue;",
  "      if (excluded.indexOf(key) !== -1) continue;",
  "      target[key] = source[key];",
  "    \x7d",
  "    return target;",
  "  \x7d"]

/-- The properties that are not excluded. -/
def objectWithoutProperties : List String := [
  "  function objectWithoutProperties(source, excluded) \x7b",
  "    if (source == null) return \x7b\x7d;",
  "    var target = objectWithoutPropertiesLoose(source, excluded);",
  "    if (Object.getOwnPropertySymbols) \x7b",
  "      var symbols = Object.getOwnPropertySymbols(source);",
  "      for (var i = 0; i < symbols.length; i++) \x7b",
  "        var sym = symbols[i];",
  "        if (excluded.indexOf(sym) !== -1) continue;",
  "        if (!Object.prototype.propertyIsEnumerable.call(source, sym)) continue;",
  "        target[sym] = source[sym];",
  "      \x7d",
  "    \x7d",
  "    return target;",
  "  \x7d"]

/-- The helpers of the module, in the order in which they stand in a bundle. -/
def objectTexts : List (List String) :=
  [toPrimitive, toPropertyKey, defineProperty, ownKeys, objectSpread2, assign, extend,
   objectDestructuringEmpty, objectWithoutPropertiesLoose, objectWithoutProperties]

end ModuleBundler.HelperTable
