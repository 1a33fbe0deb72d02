/-
ModuleBundler/Bundle/HelperTable/Disposal.lean

Disposal of resources, for code that the lowering made: the texts of the
helpers, line by line.
-/

namespace ModuleBundler.HelperTable

/-- Keeps what is to be disposed of, and disposes of it in the end. -/
def usingCtx : List String := [
  "  function usingCtx() \x7b",
  "    var Suppressed =",
  "      typeof SuppressedError === \"function\"",
  "        ? SuppressedError",
  "        : function (error, suppressed) \x7b",
  "            var err = new Error();",
  "            err.name = \"SuppressedError\";",
  "            err.error = error;",
  "            err.suppressed = suppressed;",
  "            return err;",
  "          \x7d;",
  "    var empty = \x7b\x7d;",
  "    var stack = [];",
  "",
  "    function using(isAwait, value) \x7b",
  "      if (value != null) \x7b",
  "        if (Object(value) !== value) \x7b",
  "          throw new TypeError(",
  "            \"using declarations can only be used with objects, functions, null, or undefined.\"",
  "          );",
  "        \x7d",
  "        var dispose, syncDispose;",
  "        if (isAwait) dispose = value[Symbol.asyncDispose || Symbol[\"for\"](\"Symbol.asyncDispose\")];",
  "        if (dispose === undefined) \x7b",
  "          dispose = value[Symbol.dispose || Symbol[\"for\"](\"Symbol.dispose\")];",
  "          if (isAwait) syncDispose = dispose;",
  "        \x7d",
  "        if (typeof dispose !== \"function\") throw new TypeError(\"Object is not disposable.\");",
  "        if (syncDispose) \x7b",
  "          dispose = function () \x7b",
  "            try \x7b",
  "              syncDispose.call(value);",
  "            \x7d catch (error) \x7b",
  "              return Promise.reject(error);",
  "            \x7d",
  "          \x7d;",
  "        \x7d",
  "        stack.push(\x7b v: value, d: dispose, a: isAwait \x7d);",
  "      \x7d else if (isAwait) \x7b",
  "        stack.push(\x7b d: value, a: isAwait \x7d);",
  "      \x7d",
  "      return value;",
  "    \x7d",
  "",
  "    return \x7b",
  "      e: empty,",
  "      u: using.bind(null, false),",
  "      a: using.bind(null, true),",
  "      d: function () \x7b",
  "        var resource;",
  "        var error = this.e;",
  "        var state = 0;",
  "",
  "        function next() \x7b",
  "          while ((resource = stack.pop())) \x7b",
  "            try \x7b",
  "              if (!resource.a && state === 1) \x7b",
  "                state = 0;",
  "                stack.push(resource);",
  "                return Promise.resolve().then(next);",
  "              \x7d",
  "              if (resource.d) \x7b",
  "                var disposal = resource.d.call(resource.v);",
  "                if (resource.a) \x7b",
  "                  state |= 2;",
  "                  return Promise.resolve(disposal).then(next, fail);",
  "                \x7d",
  "              \x7d else \x7b",
  "                state |= 1;",
  "              \x7d",
  "            \x7d catch (thrown) \x7b",
  "              return fail(thrown);",
  "            \x7d",
  "          \x7d",
  "          if (state === 1) return error !== empty ? Promise.reject(error) : Promise.resolve();",
  "          if (error !== empty) throw error;",
  "        \x7d",
  "",
  "        function fail(thrown) \x7b",
  "          error = error !== empty ? new Suppressed(thrown, error) : thrown;",
  "          return next();",
  "        \x7d",
  "",
  "        return next();",
  "      \x7d",
  "    \x7d;",
  "  \x7d"]

/-- The helpers of the module, in the order in which they stand in a bundle. -/
def disposalTexts : List (List String) :=
  [usingCtx]

end ModuleBundler.HelperTable
