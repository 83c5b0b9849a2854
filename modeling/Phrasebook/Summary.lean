import Phrasebook.Config.Basic
import Phrasebook.Extraction
import Phrasebook.Report

/-!
What commands print when they are done.
-/
namespace Phrasebook

inductive Summary where
  | generated (searchPaths : List String) (files : List (String × Nat)) (keyCount : Nat)
      (output : String) (recovered : List (String × Recovered))
  | rekeyed (oldKey newKey : String) (copy : Bool) (written : List String) (skipped : Nat)
  | pruned (files : List (String × Nat)) (dryRun : Bool)
  | linted (file : String) (keyCount : Nat)
  | consumers (key : String) (files : List String)
  | counts (keys : List (String × Nat))
  | sorted (file : String) (changed : Bool)
  | initialized (created : Bool)
  /-- An issue stopped the command before anything was written. -/
  | aborted
  deriving DecidableEq, Repr

structure Printed where
  out : String
  err : String
  deriving DecidableEq, Repr

namespace Summary

open Report

def success (color : Bool) : String :=
  paint color .green "\u2713"

def succeeded (color : Bool) (text : String) : String :=
  line s!"{success color} {paint color .green text}"

def recoveredText (color verbose : Bool) (recovered : List (String × Recovered)) : String :=
  let label := paint color .warning "warning:"
  if verbose then
    String.join (recovered.map fun (file, fault) =>
      line s!"{label} {file}:{fault.line}: {fault.message}")
  else if recovered.isEmpty then ""
  else
    let option := paint color .cyan "-v"
    line (s!"{label} {recovered.length} recoverable syntax error(s) ignored " ++
      s!"(use {option} for details)")

def generatedText (verbose : Bool) (searchPaths : List String) (files : List (String × Nat))
    (keyCount : Nat) (output : String) : String :=
  let listed :=
    if verbose then
      String.join (files.map fun (file, count) => line s!"{file} ({count} strings)")
    else ""
  line ("Searching for translations in: " ++ ",".intercalate searchPaths) ++ listed ++ line "" ++
    line s!"Wrote {keyCount} strings to {output}"

def rekeyedText (color verbose : Bool) (oldKey newKey : String) (copy : Bool)
    (written : List String) (skipped : Nat) : String :=
  let verb := paint color .boldGreen (if copy then "Copied" else "Moved")
  let moved :=
    line s!"{success color} {verb} \"{oldKey}\" to \"{newKey}\" in {written.length} file(s)"
  let files :=
    if verbose then String.join (written.map fun file => line s!"  - {file}") else ""
  let note :=
    if skipped = 0 then ""
    else line s!"  - skipped: {skipped} locale file(s) without \"{oldKey}\""
  moved ++ files ++ note

def prunedText (color : Bool) (files : List (String × Nat)) (dryRun : Bool) : String :=
  if files.isEmpty then succeeded color "Nothing to prune"
  else
    let verb := if dryRun then "would remove" else "removed"
    let removed := String.join (files.map fun (file, count) =>
      line s!"{file}: {verb} {count} translations")
    let option := paint color .cyan "--dry-run"
    if dryRun then removed ++ line s!"Run without {option} to remove them." else removed

def lintedText (color : Bool) (file : String) (keyCount : Nat) (issues : List Issue) : String :=
  if issues.isEmpty then
    let keys := counted keyCount "key" "keys"
    succeeded color s!"Checked {keyCount} {keys} in {file} - no issues found"
  else render color issues

def consumersText (color : Bool) (key : String) (files : List String) : String :=
  let remark :=
    if files.isEmpty then line ("  " ++ paint color .dimmed "(no usages found)") else ""
  line s!"Consumers of \"{key}\":" ++ remark ++
    String.join (files.map fun file => line s!"  {file}")

def countsText (keys : List (String × Nat)) : String :=
  let width :=
    match keys.head? with
    | some (_, count) => (toString count).length
    | none => 1
  String.join (keys.map fun (key, count) => line s!"{Text.padLeft width (toString count)}  {key}")

def sortedText (color : Bool) (file : String) (changed : Bool) : String :=
  succeeded color (if changed then s!"Sorted {file}" else s!"{file} is already sorted")

def print (color verbose : Bool) (issues : List Issue) : Summary → Printed
  | .generated searchPaths files keyCount output recovered =>
    ⟨generatedText verbose searchPaths files keyCount output,
      recoveredText color verbose recovered⟩
  | .rekeyed oldKey newKey copy written skipped =>
    ⟨rekeyedText color verbose oldKey newKey copy written skipped, ""⟩
  | .pruned files dryRun => ⟨prunedText color files dryRun, ""⟩
  | .linted file keyCount => ⟨lintedText color file keyCount issues, ""⟩
  | .consumers key files => ⟨consumersText color key files, ""⟩
  | .counts keys => ⟨countsText keys, ""⟩
  | .sorted file changed => ⟨sortedText color file changed, ""⟩
  | .initialized created =>
    ⟨if created then succeeded color s!"Created {Config.fileName}" else "", ""⟩
  | .aborted =>
    let label := paint color .error "error:"
    ⟨render color issues, line s!"{label} aborting; no translation file was written"⟩

end Summary
end Phrasebook
