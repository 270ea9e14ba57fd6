/-! The words that the rules for scripts know. -/
namespace Highlighter.Script

/-- The reserved words of ECMAScript. -/
def keywords : List String :=
  ["abstract", "async", "await", "break", "case", "catch", "class", "const", "continue",
    "debugger", "default", "delete", "do", "else", "enum", "export", "extends", "final",
    "finally", "for", "function", "goto", "if", "implements", "import", "in", "instanceof",
    "interface", "let", "native", "new", "package", "private", "protected", "public",
    "return", "static", "super", "switch", "synchronized", "throw", "throws", "transient",
    "try", "typeof", "var", "void", "volatile", "while", "with", "yield"]

/-- The reserved names of primitive types. -/
def basicTypes : List String :=
  ["boolean", "byte", "char", "double", "float", "int", "long", "short", "void"]

/-- Literal constants, and names that stand for a value everywhere. -/
def constants : List String :=
  ["false", "null", "undefined", "Infinity", "NaN", "true", "arguments", "this"]

/-- The members of the core objects that are known by name. -/
def builtinMethods : List String :=
  -- objects
  ["hasOwnProperty", "isPrototypeOf", "propertyIsEnumerable", "toLocaleString",
    "toString", "valueOf",
    -- arrays
    "concat", "every", "filter", "forEach", "indexOf", "join", "lastIndexOf", "map",
    "pop", "push", "reduce", "reduceRight", "reverse", "shift", "slice", "some", "sort",
    "splice", "unshift",
    -- strings
    "charAt", "charCodeAt", "fromCharCode", "localeCompare", "match", "replace",
    "search", "split", "substr", "substring", "toLocaleLowerCase", "toLocaleUpperCase",
    "toLowerCase", "toUpperCase",
    -- numbers
    "toExponential", "toFixed", "toPrecision",
    -- dates
    "getDate", "getDay", "getFullYear", "getHours", "getMilliseconds", "getMinutes",
    "getMonth", "getSeconds", "getTime", "getTimezoneOffset", "getUTCDate", "getUTCDay",
    "getUTCFullYear", "getUTCHours", "getUTCMilliseconds", "getUTCMinutes",
    "getUTCMonth", "getUTCSeconds", "setDate", "setFullYear", "setHours",
    "setMilliseconds", "setMinutes", "setMonth", "setSeconds", "setTime", "setUTCDate",
    "setUTCFullYear", "setUTCHours", "setUTCMilliseconds", "setUTCMinutes",
    "setUTCMonth", "setUTCSeconds", "toDateString", "toLocaleDateString",
    "toLocaleTimeString", "toTimeString", "toUTCString",
    -- regular expressions
    "exec", "test",
    -- functions
    "apply", "call"]

/-- The modifiers and operators that ActionScript adds. -/
def addedKeywords : List String :=
  ["as", "dynamic", "each", "get", "include", "internal", "is", "namespace", "override",
    "set", "use"]

end Highlighter.Script
