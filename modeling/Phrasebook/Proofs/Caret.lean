import Phrasebook.Generate
import Phrasebook.Proofs.Script.Starts
import Phrasebook.Proofs.Text.Width
import Phrasebook.Report

/-!
Where the caret of a report stands. A script counts display columns up to a call, and a report takes
as many characters of the line, so the caret stands below the call as long as each character in
front of it takes one column.
-/
namespace Phrasebook

namespace Script

variable {functions : List String} {file : String} {src : Source} {made : Invocation src}
  {call : Call}

theorem standsAlone_of_isOpening {c : Char} (h : isOpening c) : Text.StandsAlone c := by
  simp only [isOpening, Bool.or_eq_true, decide_eq_true_eq] at h
  obtain ((((rfl | rfl) | rfl) | rfl) | rfl) | rfl := h <;>
    exact Text.standsAlone_of_ascii (by decide) (by decide) (by decide) (by decide)

/-- A text that begins with a character of a column of its own shows as one where it is reported. -/
theorem Source.Opens.exists_behind {position : Nat} {text : String} {c : Char}
    (h : src.Opens position text) (hc : text.toList.head? = some c) (halone : Text.StandsAlone c) :
    ∃ found after, src.lined.behind position = found :: after ∧ Text.StandsAlone found := by
  obtain ⟨found, hfound, hopening⟩ := h c hc
  have hstands : Text.StandsAlone found := by
    rcases hopening with rfl | hopening
    · exact halone
    · exact standsAlone_of_isOpening hopening
  obtain ⟨after, hbehind⟩ := Source.exists_behind hfound hstands.ne_lineFeed
  exact ⟨found, after, hbehind, hstands⟩

theorem of_callOf? {text : LinedSource} (h : callOf? functions file text made = some call) :
    call.site = text.siteOf file made.start ∧ call.callee = made.callee := by
  rw [callOf?] at h
  split_ifs at h
  obtain ⟨argument, -, h⟩ := Option.bind_eq_some_iff.mp h
  obtain ⟨outline, -, h⟩ := Option.bind_eq_some_iff.mp h
  obtain ⟨key, -, h⟩ := Option.bind_eq_some_iff.mp h
  cases h
  exact ⟨rfl, rfl⟩

/-- A call of the checked function begins with a character that has a column of its own. -/
theorem exists_behind_of_checked {outline : Outline src} (hmade : made ∈ outline.invocations)
    (hcallee : made.callee = Call.checkedFunction) :
    ∃ c after, src.lined.behind made.start = c :: after ∧ Text.StandsAlone c := by
  rcases outline.opens_of_mem_invocations hmade with hopens | hopens
  · rw [hcallee] at hopens
    exact hopens.exists_behind rfl
      (Text.standsAlone_of_ascii (by decide) (by decide) (by decide) (by decide))
  · exact hopens.exists_behind rfl
      (Text.standsAlone_of_ascii (by decide) (by decide) (by decide) (by decide))

theorem LinedSource.before_append_behind (text : LinedSource) (position : Nat) :
    text.before position ++ text.behind position = (text.textOfLineAt position).toList :=
  List.take_append_drop _ _

end Script

namespace Report
open Script

variable {src : Source} {position : Nat} {c : Char} {after : List Char}

/-- The caret stands behind as many characters of the line as there are columns in front of the
position. -/
theorem caretIndent_siteOf (src : Source) (file : String) (position : Nat) :
    caretIndent (src.lined.siteOf file position) =
      Text.width ((src.lined.before position ++ src.lined.behind position).take
        (columns (src.lined.before position))) := by
  rw [LinedSource.before_append_behind]
  show Text.width (List.take (src.lined.columnAt position - 1) _) = _
  rw [src.columnAt_eq, Nat.add_sub_cancel]
  rfl

/-- With one column for each character, the caret stands below the position. -/
theorem caretIndent_of_single (file : String)
    (h : ∀ c ∈ src.lined.before position, columnsOf c = 1) :
    caretIndent (src.lined.siteOf file position) = Text.width (src.lined.before position) := by
  rw [caretIndent_siteOf, columns_of_single h, List.take_left]

/-- More columns than characters move the caret away from the position. -/
theorem caretIndent_eq_width_iff (file : String) (hbehind : src.lined.behind position = c :: after)
    (hc : Text.StandsAlone c) :
    caretIndent (src.lined.siteOf file position) = Text.width (src.lined.before position) ↔
      columns (src.lined.before position) ≤ (src.lined.before position).length ∧
        Text.width ((src.lined.before position).take (columns (src.lined.before position))) =
          Text.width (src.lined.before position) := by
  rw [caretIndent_siteOf, hbehind]
  generalize src.lined.before position = before
  rcases Nat.lt_or_ge before.length (columns before) with hlt | hle
  · have hbeyond : (before ++ c :: after).take (columns before) =
        before ++ c :: after.take (columns before - before.length - 1) := by
      obtain ⟨n, hn⟩ := Nat.exists_eq_add_of_lt hlt
      rw [List.take_append, List.take_of_length_le (Nat.le_of_lt hlt),
        show columns before - before.length = n + 1 by omega, List.take_succ_cons,
        Nat.add_sub_cancel]
    rw [hbeyond, Text.width_append hc]
    omega
  · rw [List.take_append_of_le_length hle]
    exact (and_iff_right hle).symm

end Report

theorem of_checkIn {old : Tree} {separator : String} {call : Call} {invalid : InvalidCall}
    (h : call.checkIn old separator = .error invalid) :
    invalid.site = call.site ∧ call.callee = Call.checkedFunction := by
  rw [Call.checkIn] at h
  split_ifs at h with hchecked
  have hcallee : call.callee = Call.checkedFunction := (of_decide_eq_true hchecked).2
  split at h
  · cases h
  · split at h
    · cases h
    · cases h
      exact ⟨rfl, hcallee⟩

namespace Extraction
open Script

variable {functions : List String} {features : Features} {file code : String} {e : Extraction}
  {call : Call}

/-- Every call that is extracted from a script is made in it. -/
theorem exists_invocation_of_mem_calls (hread : ofScript functions features file code = .ok e)
    (hcall : call ∈ e.calls) :
    ∃ parsed, parse features (dropMark code.toList).toArray = .ok parsed ∧
      ∃ made ∈ parsed.outline.invocations,
        callOf? functions file (Source.lined (dropMark code.toList).toArray) made = some call := by
  -- The equation lemma of `ofScript` takes seconds to derive.
  delta ofScript at hread
  dsimp only at hread
  cases hparse : parse features (dropMark code.toList).toArray with
  | error fault =>
    rw [hparse] at hread
    cases hread
  | ok parsed =>
    rw [hparse] at hread
    cases hread
    exact ⟨parsed, rfl, List.mem_filterMap.mp hcall⟩

/-- The caret for an invalid call stands below the call if each character in front of it takes one
column. For any other text it stands there only if there are no more columns than characters and the
characters that are left out take none. -/
theorem caret_below_call_iff {old : Tree} {separator : String} {invalid : InvalidCall}
    (hread : ofScript functions features file code = .ok e) (hcall : call ∈ e.calls)
    (hinvalid : call.checkIn old separator = .error invalid) :
    let src : Source := (dropMark code.toList).toArray
    ∃ parsed made, parse features src = .ok parsed ∧ made ∈ parsed.outline.invocations ∧
      callOf? functions file src.lined made = some call ∧
      invalid.site = src.lined.siteOf file made.start ∧
      let before := src.lined.before made.start
      Report.caretIndent invalid.site =
          Text.width ((before ++ src.lined.behind made.start).take (columns before)) ∧
      ((∀ c ∈ before, columnsOf c = 1) → Report.caretIndent invalid.site = Text.width before) ∧
      (Report.caretIndent invalid.site = Text.width before ↔
        columns before ≤ before.length ∧
          Text.width (before.take (columns before)) = Text.width before) := by
  intro src
  obtain ⟨parsed, hparsed, made, hmade, hcallOf⟩ := exists_invocation_of_mem_calls hread hcall
  obtain ⟨hsite, hcallee⟩ := of_checkIn hinvalid
  obtain ⟨hmadeSite, hmadeCallee⟩ := of_callOf? hcallOf
  rw [hmadeSite] at hsite
  obtain ⟨c, after, hbehind, hc⟩ := exists_behind_of_checked hmade (hmadeCallee ▸ hcallee)
  refine ⟨parsed, made, hparsed, hmade, hcallOf, hsite, ?_⟩
  rw [hsite]
  exact ⟨Report.caretIndent_siteOf src file made.start, Report.caretIndent_of_single file,
    Report.caretIndent_eq_width_iff file hbehind hc⟩

/-- The accent of an ideograph makes up for the second column of the ideograph. -/
theorem caret_below_call_behind_accent :
    let code := "\u65e5\u0301 = _t(\"a\");"
    let call : Call := ⟨⟨"src/a.ts", 1, 6, code⟩, "_t", "a", none, [], .script⟩
    ofScript ["_t"] ⟨true, false⟩ "src/a.ts" code = .ok ⟨"src/a.ts", [call], []⟩ ∧
      call.checkIn (.leaf "a" (.text "%(n)s") .nil) "|" =
        .error ⟨call.site, "a", .missingSubstitution "n" false⟩ ∧
      Report.caretIndent call.site = Text.width "\u65e5\u0301 = ".toList := by
  intro code call
  have hread : ofScript ["_t"] ⟨true, false⟩ "src/a.ts" code = .ok ⟨"src/a.ts", [call], []⟩ := by
    decide +kernel
  have hinvalid : call.checkIn (.leaf "a" (.text "%(n)s") .nil) "|" =
      .error ⟨call.site, "a", .missingSubstitution "n" false⟩ := by
    decide +kernel
  have hstarts : (parse ⟨true, false⟩ (dropMark code.toList).toArray).toOption.map
      (fun parsed => parsed.outline.invocations.map (·.start)) = some [5] := by
    decide +kernel
  obtain ⟨parsed, made, hparsed, hmade, -, -, -, -, hcaret⟩ :=
    caret_below_call_iff hread List.mem_cons_self hinvalid
  have hstart : made.start = 5 := by
    rw [hparsed] at hstarts
    have honly : parsed.outline.invocations.map (·.start) = [5] := Option.some.inj hstarts
    exact List.mem_singleton.mp (honly ▸ List.mem_map_of_mem hmade)
  have hbefore : (Source.lined (dropMark code.toList).toArray).before made.start =
      "\u65e5\u0301 = ".toList := by
    rw [hstart]
    decide +kernel
  have hcolumns : columns "\u65e5\u0301 = ".toList = 5 := by decide +kernel
  rw [hbefore, hcolumns] at hcaret
  exact ⟨hread, hinvalid, hcaret.mpr ⟨by decide, rfl⟩⟩

/-- Two ideographs have four columns of their own, and the caret skips as many characters, which
are two more. -/
theorem caret_beyond_call_behind_ideographs :
    let code := "\"\u65e5\u672c\"; _t(\"a\");"
    ∃ e call invalid, ofScript ["_t"] ⟨true, false⟩ "src/a.ts" code = .ok e ∧ call ∈ e.calls ∧
      call.checkIn (.leaf "a" (.text "%(n)s") .nil) "|" = .error invalid ∧
      invalid.site.sourceLine = "\"\u65e5\u672c\"; " ++ "_t(\"a\");" ∧
      Report.caretIndent invalid.site = 10 ∧ Text.width "\"\u65e5\u672c\"; ".toList = 8 := by
  intro code
  let call : Call := ⟨⟨"src/a.ts", 1, 9, code⟩, "_t", "a", none, [], .script⟩
  refine ⟨⟨"src/a.ts", [call], []⟩, call, ⟨call.site, "a", .missingSubstitution "n" false⟩, ?_,
    List.mem_cons_self, ?_, ?_, ?_, ?_⟩
  all_goals decide +kernel

end Extraction
end Phrasebook
