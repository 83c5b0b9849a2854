import Phrasebook.Script.Names

/-!
Template literals, of values and of types.
-/
namespace Phrasebook.Script.Parser

variable {src : Source}

/-- Reads the piece behind the current mark, and goes on to the token after it. Only behind a tag may
a piece have an escape that stands for nothing. -/
def templatePiece (tagged : Bool) : Parser src Piece := do
  let mark ← current
  match src.readPiece? mark.stop with
  | none => fail mark.start
  | some piece =>
    piece.faults.forM note
    if let some bad := piece.badEscape then
      unless tagged do fail bad
    moveTo piece.stop
    return piece

/-- Reads a template from its opening mark on, with `part` for what stands in the interpolations. -/
def template (part : Parser src (Outline src)) (tagged : Bool) : Parser src (Outline src) := do
  let start ← place
  let head ← templatePiece tagged
  let (_, pieces, parts) ← iterate (fun (done, pieces, parts) => do
      if done then return none
      let outline ← part
      unless ← isMark "\x7d" do fail (← place)
      let piece ← templatePiece tagged
      return some (piece.last, piece.text? :: pieces, outline :: parts))
    (head.last, [head.text?], [])
  return .node (.template pieces.reverse) start parts.reverse

def valueTemplate (r : Rules src) (tagged : Bool) : Parser src (Outline src) :=
  apartFromColon <| allowingIn <| outOfTypes <| template r.expression tagged

end Phrasebook.Script.Parser
