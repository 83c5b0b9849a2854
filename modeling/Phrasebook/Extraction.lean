import Phrasebook.Dialect
import Phrasebook.Markup
import Phrasebook.Script.Calls

/-!
The phrase calls of one source file.
-/
namespace Phrasebook

structure Recovered where
  line : Nat
  message : String
  deriving DecidableEq, Repr

structure ParseFailure where
  file : String
  line : Nat
  reason : String
  deriving DecidableEq, Repr

def ParseFailure.message (e : ParseFailure) : String :=
  s!"failed to parse {e.file}:{e.line}: {e.reason}"

structure Extraction where
  file : String
  calls : List Call
  recovered : List Recovered
  deriving DecidableEq, Repr

namespace Extraction

def keys (e : Extraction) : List String :=
  (e.calls.map (·.key)).eraseDups

def dropMark : List Char → List Char
  | '\ufeff' :: text => text
  | text => text

def ofScript (functions : List String) (features : Script.Features) (file : String)
    (code : String) : Except ParseFailure Extraction :=
  let src : Script.Source := (dropMark code.toList).toArray
  let text := src.lined
  match Script.parse features src with
  | .error fault => .error ⟨file, text.lineAt fault.position, fault.wording⟩
  | .ok parsed =>
    .ok
      { file
        calls := parsed.outline.invocations.filterMap (Script.callOf? functions file text)
        recovered := parsed.recovered.map fun fault =>
          ⟨text.lineAt fault.position, fault.wording⟩ }

def ofFile (functions : List String) (dialect : Dialect) (file code : String) :
    Except ParseFailure Extraction :=
  match dialect with
  | .script features => ofScript functions features file code
  | .markup => .ok ⟨file, Markup.calls functions file code.toList, []⟩

end Extraction
end Phrasebook
