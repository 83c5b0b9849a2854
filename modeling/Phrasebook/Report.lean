import Phrasebook.Issue
import Phrasebook.Style
import Phrasebook.Text.Digits
import Phrasebook.Text.Width

/-!
Reports: issues laid out for reading, with a caret below the call they are about.
-/
namespace Phrasebook.Report

def blanks (n : Nat) : String :=
  String.ofList (List.replicate n ' ')

def line (text : String) : String :=
  text ++ "\n"

def counted (n : Nat) (singular plural : String) : String :=
  if n = 1 then singular else plural

def severityStyle : Severity → Style
  | .error => .error
  | .warning => .warning

def caretStyle : Severity → Style
  | .error => .red
  | .warning => .yellow

def location (issue : Issue) : String :=
  match issue.site?, issue.line? with
  | some site, _ => s!"{site.file}:{site.line}:{site.column}"
  | none, some n => s!"{issue.file}:{n}"
  | none, none => issue.file

/-- The columns in front of the caret: the width of the text before the call. -/
def caretIndent (site : Site) : Nat :=
  Text.width (site.sourceLine.toList.take (site.column - 1))

def excerpt (color : Bool) (margin : Nat) (severity : Severity) (site : Site) : String :=
  let bar := paint color .blue "|"
  let number := paint color .blue (Text.padLeft margin (toString site.line))
  let caret := paint color (caretStyle severity) "^"
  line s!"{blanks margin} {bar}" ++
    line s!"{number} {bar} {site.sourceLine}" ++
    line s!"{blanks margin} {bar} {blanks (caretIndent site)}{caret}"

def issueText (color : Bool) (margin : Nat) (issue : Issue) : String :=
  let severity := paint color (severityStyle issue.severity) issue.severity.name
  let rule := paint color .rule issue.rule.name
  let arrow := paint color .blue "-->"
  let heading := line s!"{severity}: \"{issue.title}\"  {rule}"
  let place := line s!"  {arrow} {location issue}"
  let source :=
    match issue.site? with
    | some site => excerpt color margin issue.severity site
    | none => ""
  let note :=
    match issue.details? with
    | some details =>
      let sign := paint color .blue "="
      let label := paint color .bold "note:"
      line s!"{blanks margin} {sign} {label} {details}"
    | none => ""
  heading ++ place ++ source ++ note ++ line ""

def margin (issues : List Issue) : Nat :=
  match (issues.filterMap fun issue => issue.site?.map (·.line)).max? with
  | some n => (toString n).length
  | none => 1

def tally (color : Bool) (issues : List Issue) : String :=
  let errors := Issue.count .error issues
  let warnings := Issue.count .warning issues
  let total := errors + warnings
  let mark := paint color .red "\u2718"
  let problems := counted total "problem" "problems"
  let errorWord := paint color .red (counted errors "error" "errors")
  let warningWord := paint color .yellow (counted warnings "warning" "warnings")
  line s!"{mark} {total} {problems} ({errors} {errorWord}, {warnings} {warningWord})"

/-- The issues in the given order with their numbers below. No issues need no report. -/
def render (color : Bool) (issues : List Issue) : String :=
  if issues.isEmpty then ""
  else
    String.join (issues.map (issueText color (margin issues))) ++ tally color issues

end Phrasebook.Report
