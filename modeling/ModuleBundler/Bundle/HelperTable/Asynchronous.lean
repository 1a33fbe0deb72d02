/-
ModuleBundler/Bundle/HelperTable/Asynchronous.lean

Asynchronous functions, generators and iterators, for code that the lowering made: the texts of the
helpers, line by line.
-/

namespace ModuleBundler.HelperTable

/-- One step of a generator that stands for an asynchronous function. -/
def asyncGeneratorStep : List String := [
  "  function asyncGeneratorStep(gen, resolve, reject, next, thrown, method, arg) \x7b",
  "    var info, value;",
  "    try \x7b",
  "      info = gen[method](arg);",
  "      value = info.value;",
  "    \x7d catch (error) \x7b",
  "      reject(error);",
  "      return;",
  "    \x7d",
  "    if (info.done) \x7b",
  "      resolve(value);",
  "    \x7d else \x7b",
  "      Promise.resolve(value).then(next, thrown);",
  "    \x7d",
  "  \x7d"]

/-- Makes an asynchronous function of a generator. -/
def asyncToGenerator : List String := [
  "  function asyncToGenerator(fn) \x7b",
  "    return function () \x7b",
  "      var self = this;",
  "      var args = arguments;",
  "      return new Promise(function (resolve, reject) \x7b",
  "        var gen = fn.apply(self, args);",
  "        function next(value) \x7b",
  "          asyncGeneratorStep(gen, resolve, reject, next, thrown, \"next\", value);",
  "        \x7d",
  "        function thrown(error) \x7b",
  "          asyncGeneratorStep(gen, resolve, reject, next, thrown, \"throw\", error);",
  "        \x7d",
  "        next(undefined);",
  "      \x7d);",
  "    \x7d;",
  "  \x7d"]

/-- A value that a generator hands out for another reason than `yield`. -/
def overloadYield : List String := [
  "  // Marks a value yielded by an async generator body as an \x60await\x60 (kind 0)",
  "  // or as a step of \x60yield*\x60 delegation (kind 1).",
  "  function OverloadYield(value, kind) \x7b",
  "    this.v = value;",
  "    this.k = kind;",
  "  \x7d"]

/-- Marks a value that is waited for. -/
def awaitAsyncGenerator : List String := [
  "  function awaitAsyncGenerator(value) \x7b",
  "    return new OverloadYield(value, 0);",
  "  \x7d"]

/-- An asynchronous generator that runs a generator. -/
def asyncGenerator : List String := [
  "  function AsyncGenerator(gen) \x7b",
  "    var front, back;",
  "",
  "    function resume(key, arg) \x7b",
  "      try \x7b",
  "        var result = gen[key](arg);",
  "        var value = result.value;",
  "        var overloaded = value instanceof OverloadYield;",
  "        Promise.resolve(overloaded ? value.v : value).then(",
  "          function (settledValue) \x7b",
  "            if (overloaded) \x7b",
  "              var nextKey = key === \"return\" ? \"return\" : \"next\";",
  "              if (!value.k || settledValue.done) \x7b",
  "                resume(nextKey, settledValue);",
  "                return;",
  "              \x7d",
  "              settledValue = gen[nextKey](settledValue).value;",
  "            \x7d",
  "            settle(result.done ? \"return\" : \"normal\", settledValue);",
  "          \x7d,",
  "          function (error) \x7b",
  "            resume(\"throw\", error);",
  "          \x7d",
  "        );",
  "      \x7d catch (error) \x7b",
  "        settle(\"throw\", error);",
  "      \x7d",
  "    \x7d",
  "",
  "    function settle(type, value) \x7b",
  "      switch (type) \x7b",
  "        case \"return\":",
  "          front.resolve(\x7b value: value, done: true \x7d);",
  "          break;",
  "        case \"throw\":",
  "          front.reject(value);",
  "          break;",
  "        default:",
  "          front.resolve(\x7b value: value, done: false \x7d);",
  "          break;",
  "      \x7d",
  "      front = front.next;",
  "      if (front) \x7b",
  "        resume(front.key, front.arg);",
  "      \x7d else \x7b",
  "        back = null;",
  "      \x7d",
  "    \x7d",
  "",
  "    this._invoke = function (key, arg) \x7b",
  "      return new Promise(function (resolve, reject) \x7b",
  "        var request = \x7b key: key, arg: arg, resolve: resolve, reject: reject, next: null \x7d;",
  "        if (back) \x7b",
  "          back = back.next = request;",
  "        \x7d else \x7b",
  "          front = back = request;",
  "          resume(key, arg);",
  "        \x7d",
  "      \x7d);",
  "    \x7d;",
  "",
  "    if (typeof gen[\"return\"] !== \"function\") this[\"return\"] = undefined;",
  "  \x7d",
  "",
  "  AsyncGenerator.prototype[",
  "    (typeof Symbol === \"function\" && Symbol.asyncIterator) || \"@@asyncIterator\"",
  "  ] = function () \x7b",
  "    return this;",
  "  \x7d;",
  "  AsyncGenerator.prototype.next = function (arg) \x7b",
  "    return this._invoke(\"next\", arg);",
  "  \x7d;",
  "  AsyncGenerator.prototype[\"throw\"] = function (arg) \x7b",
  "    return this._invoke(\"throw\", arg);",
  "  \x7d;",
  "  AsyncGenerator.prototype[\"return\"] = function (arg) \x7b",
  "    return this._invoke(\"return\", arg);",
  "  \x7d;"]

/-- Makes a function for asynchronous generators of a generator. -/
def wrapAsyncGenerator : List String := [
  "  function wrapAsyncGenerator(fn) \x7b",
  "    return function () \x7b",
  "      return new AsyncGenerator(fn.apply(this, arguments));",
  "    \x7d;",
  "  \x7d"]

/-- The result of a step, once its value is there. -/
def asyncFromSyncContinuation : List String := [
  "  function asyncFromSyncContinuation(result) \x7b",
  "    if (Object(result) !== result) \x7b",
  "      return Promise.reject(new TypeError(result + \" is not an object.\"));",
  "    \x7d",
  "    var done = result.done;",
  "    return Promise.resolve(result.value).then(function (value) \x7b",
  "      return \x7b value: value, done: done \x7d;",
  "    \x7d);",
  "  \x7d"]

/-- An iterator whose steps are waited for. -/
def asyncFromSyncIterator : List String := [
  "  function AsyncFromSyncIterator(iterator) \x7b",
  "    this.s = iterator;",
  "    this.n = iterator.next;",
  "  \x7d",
  "",
  "  AsyncFromSyncIterator.prototype = \x7b",
  "    s: null,",
  "    n: null,",
  "    next: function () \x7b",
  "      return asyncFromSyncContinuation(this.n.apply(this.s, arguments));",
  "    \x7d,",
  "    \"return\": function (value) \x7b",
  "      var ret = this.s[\"return\"];",
  "      if (ret === undefined) return Promise.resolve(\x7b value: value, done: true \x7d);",
  "      return asyncFromSyncContinuation(ret.apply(this.s, arguments));",
  "    \x7d,",
  "    \"throw\": function (error) \x7b",
  "      var ret = this.s[\"return\"];",
  "      if (ret === undefined) return Promise.reject(error);",
  "      return asyncFromSyncContinuation(ret.apply(this.s, arguments));",
  "    \x7d",
  "  \x7d;"]

/-- The asynchronous iterator of an object. -/
def asyncIterator : List String := [
  "  function asyncIterator(iterable) \x7b",
  "    var method;",
  "    var asyncKey = typeof Symbol !== \"undefined\" ? Symbol.asyncIterator : undefined;",
  "    var syncKey = typeof Symbol !== \"undefined\" ? Symbol.iterator : undefined;",
  "    for (var attempt = 0; attempt < 2; attempt++) \x7b",
  "      if (asyncKey && (method = iterable[asyncKey]) != null) return method.call(iterable);",
  "      if (syncKey && (method = iterable[syncKey]) != null) \x7b",
  "        return new AsyncFromSyncIterator(method.call(iterable));",
  "      \x7d",
  "      asyncKey = \"@@asyncIterator\";",
  "      syncKey = \"@@iterator\";",
  "    \x7d",
  "    throw new TypeError(\"Object is not async iterable\");",
  "  \x7d"]

/-- Hands over to another generator. -/
def asyncGeneratorDelegate : List String := [
  "  function asyncGeneratorDelegate(inner) \x7b",
  "    var iter = \x7b\x7d;",
  "    var waiting = false;",
  "",
  "    function pump(key, value) \x7b",
  "      waiting = true;",
  "      value = new Promise(function (resolve) \x7b",
  "        resolve(inner[key](value));",
  "      \x7d);",
  "      return \x7b done: false, value: new OverloadYield(value, 1) \x7d;",
  "    \x7d",
  "",
  "    iter[(typeof Symbol !== \"undefined\" && Symbol.iterator) || \"@@iterator\"] = function () \x7b",
  "      return this;",
  "    \x7d;",
  "    iter.next = function (value) \x7b",
  "      if (waiting) \x7b",
  "        waiting = false;",
  "        return value;",
  "      \x7d",
  "      return pump(\"next\", value);",
  "    \x7d;",
  "    if (typeof inner[\"throw\"] === \"function\") \x7b",
  "      iter[\"throw\"] = function (value) \x7b",
  "        if (waiting) \x7b",
  "          waiting = false;",
  "          throw value;",
  "        \x7d",
  "        return pump(\"throw\", value);",
  "      \x7d;",
  "    \x7d",
  "    if (typeof inner[\"return\"] === \"function\") \x7b",
  "      iter[\"return\"] = function (value) \x7b",
  "        if (waiting) \x7b",
  "          waiting = false;",
  "          return value;",
  "        \x7d",
  "        return pump(\"return\", value);",
  "      \x7d;",
  "    \x7d",
  "    return iter;",
  "  \x7d"]

/-- The helpers of the module, in the order in which they stand in a bundle. -/
def asynchronousTexts : List (List String) :=
  [asyncGeneratorStep, asyncToGenerator, overloadYield, awaitAsyncGenerator,
   asyncGenerator, wrapAsyncGenerator, asyncFromSyncContinuation,
   asyncFromSyncIterator, asyncIterator, asyncGeneratorDelegate]

end ModuleBundler.HelperTable
