import Phrasebook.FilePath
import Phrasebook.Script.Grammar

/-!
The kinds of source files that can be scanned, told apart by their extensions.
-/
namespace Phrasebook

inductive Dialect where
  | script (features : Script.Features)
  | markup
  deriving DecidableEq, Repr

namespace Dialect

def jsx : Dialect := .script ⟨false, true⟩

def typescript : Dialect := .script ⟨true, false⟩

def typescriptJsx : Dialect := .script ⟨true, true⟩

def ofExtension? (extension : String) : Option Dialect :=
  if extension ∈ ["js", "jsx", "mjs", "cjs"] then some jsx
  else if extension ∈ ["ts", "mts", "cts"] then some typescript
  else if extension = "tsx" then some typescriptJsx
  else if extension = "html" then some markup
  else none

def ofPath? (path : String) : Option Dialect :=
  (FilePath.extension? path).bind ofExtension?

end Dialect
end Phrasebook
