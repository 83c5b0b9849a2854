/-!
The words of scripts that are more than names. Scripts are read as modules, so the words that are
reserved there are reserved.
-/
namespace Phrasebook.Script

def keywords : List String :=
  ["break", "case", "catch", "class", "const", "continue", "debugger", "default", "delete", "do",
    "else", "export", "extends", "false", "finally", "for", "function", "if", "import", "in",
    "instanceof", "new", "null", "return", "super", "switch", "this", "throw", "true", "try",
    "typeof", "var", "void", "while", "with"]

/-- Words that are no good names in a module, though reading goes on after them. -/
def strictWords : List String :=
  ["implements", "interface", "let", "package", "private", "protected", "public", "static", "yield"]

def isReserved (strict : Bool) (text : String) : Bool :=
  text ∈ keywords || text = "enum" || (strict && (text ∈ strictWords || text = "await"))

def isReservedShorthand (text : String) : Bool :=
  text ≠ "static" && isReserved true text

def isReservedExport (text : String) : Bool :=
  text ∈ keywords || text = "enum" || text = "package"

def isFixedName (text : String) : Bool :=
  text = "eval" || text = "arguments"

def builtinTypes : List String :=
  ["string", "null", "number", "object", "any", "unknown", "boolean", "bigint", "symbol", "void",
    "never", "intrinsic"]

end Phrasebook.Script
