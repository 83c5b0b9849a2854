import Phrasebook.Lint.Run
import Phrasebook.Proofs.StableSort

/-!
Reports do not depend on the order in which the rules run. Issues on the same place of a report come
from one rule, so they keep the order in which that rule finds them.
-/
namespace Phrasebook

theorem Rule.rank_inj {a b : Rule} : a.rank = b.rank ↔ a = b := by
  cases a <;> cases b <;> decide

namespace Issue

/-- Whether two issues may follow one another in a report: files come first, then lines, then rules
in the order of their list, then titles. -/
def InOrder (a b : Issue) : Prop :=
  a.file < b.file ∨ a.file = b.file ∧
    (a.line?.getD 0 < b.line?.getD 0 ∨ a.line?.getD 0 = b.line?.getD 0 ∧
      (a.rule.rank < b.rule.rank ∨ a.rule = b.rule ∧ a.title ≤ b.title))

variable {a b : Issue}

theorem le_iff_inOrder : le a b ↔ InOrder a b := by
  have hfile : compare a.file b.file = .lt ↔ a.file < b.file := compareOfLessAndEq_eq_lt
  have htitle : (compare a.title b.title).isLE ↔ a.title ≤ b.title :=
    isLE_compareOfLessAndEq String.le_antisymm String.not_le String.le_total
  rw [le, order, Ordering.isLE_then_iff_or, Ordering.isLE_then_iff_or, Ordering.isLE_then_iff_or,
    hfile, htitle]
  simp only [Std.compare_eq_lt, Std.LawfulEqCmp.compare_eq_iff_eq, Rule.rank_inj, InOrder]

instance : Std.TransCmp order :=
  inferInstanceAs (Std.TransCmp (compareLex (compareOn file)
    (compareLex (compareOn fun issue => issue.line?.getD 0)
      (compareLex (compareOn fun issue => issue.rule.rank) (compareOn title)))))

theorem ranking : Ranking le where
  trans _ _ _ hab hbc := Std.TransCmp.isLE_trans hab hbc
  total a b := by
    have hswap : order b a = (order a b).swap := Std.OrientedCmp.eq_swap
    rw [le, le, hswap]
    cases order a b <;> rfl

/-- Issues on the same place of a report come from one rule. -/
theorem rule_eq_of_tied (h : tied le a b) : a.rule = b.rule := by
  obtain ⟨hab, hba⟩ := Bool.and_eq_true_iff.mp h
  have heq : order a b = .eq := Std.OrientedCmp.isLE_antisymm hab hba
  simp only [order, Ordering.then_eq_eq, Std.LawfulEqCmp.compare_eq_iff_eq, Rule.rank_inj] at heq
  exact heq.2.2.1

end Issue

namespace Lint

variable {file : PhraseFile} {separator : String} {list : Denylist} {rule : Rule} {issue : Issue}

theorem rule_of_mem_find (h : issue ∈ find file separator list rule) : issue.rule = rule := by
  cases rule with
  | keyCharset =>
    obtain ⟨leaf, -, rfl⟩ := List.mem_map.mp h
    rfl
  | keyEqualsValue =>
    obtain ⟨leaf, -, hissue⟩ := List.mem_filterMap.mp h
    obtain ⟨form, -, rfl⟩ := Option.map_eq_some_iff.mp hissue
    rfl
  | hardcodedWord =>
    obtain ⟨leaf, -, hissue⟩ := List.mem_flatMap.mp h
    split_ifs at hissue
    · cases hissue
    · obtain ⟨found, -, rfl⟩ := List.mem_map.mp hissue
      rfl
  | invalidCall => cases h
  | parseError => cases h

/-- The issues on one place of a report: what their rule finds there, as often as it is run. -/
theorem filter_tied_findings (selected : List Rule) (issue : Issue) :
    (selected.flatMap (find file separator list)).filter (tied Issue.le issue) =
      (List.replicate (selected.count issue.rule)
        ((find file separator list issue.rule).filter (tied Issue.le issue))).flatten := by
  induction selected with
  | nil => rfl
  | cons rule selected ih =>
    rw [List.flatMap_cons, List.filter_append, ih]
    by_cases hrule : rule = issue.rule
    · rw [hrule, List.count_cons_self, List.replicate_succ, List.flatten_cons]
    · have hnone : (find file separator list rule).filter (tied Issue.le issue) = [] := by
        refine List.filter_eq_nil_iff.mpr fun found hfound htied => hrule ?_
        rw [Issue.rule_eq_of_tied htied, rule_of_mem_find hfound]
      rw [hnone, List.count_cons_of_ne hrule, List.nil_append]

/-- A report is in order and has the findings of each rule as often as the rule is run. Running the
rules in another order gives the same report, with the issues on one place in the same order. -/
theorem report_independent_of_rule_order (file : PhraseFile) (separator : String)
    (list : Denylist) {selected other : List Rule} (h : selected.Perm other) :
    (run file separator selected list).Pairwise Issue.InOrder ∧
      (run file separator selected list).Perm (selected.flatMap (find file separator list)) ∧
      run file separator other list = run file separator selected list := by
  refine ⟨?_, List.mergeSort_perm _ _, ?_⟩
  · have hsorted := List.pairwise_mergeSort Issue.ranking.trans Issue.ranking.total
      (selected.flatMap (find file separator list))
    exact hsorted.imp Issue.le_iff_inOrder.mp
  · refine Issue.ranking.mergeSort_eq_of_ties fun issue => ?_
    rw [filter_tied_findings, filter_tied_findings, h.count_eq]

/-- A rule that is run twice, and finds two words under one key. -/
theorem repeated_rule_in_any_order :
    let phrase : Phrase := .plural ⟨[("one", "One Element device"), ("other", "Devices")]⟩
    let devices : Leaf := ⟨["my devices"], phrase⟩
    let file : PhraseFile := ⟨"en.json", "", .leaf "my devices" phrase .nil⟩
    let list : Denylist := ⟨["element", "devices"], []⟩
    let selected : List Rule := [.hardcodedWord, .keyCharset, .hardcodedWord]
    let other : List Rule := [.keyCharset, .hardcodedWord, .hardcodedWord]
    let charset : Issue := .keyCharset (devices.message file "|" "Devices") "my devices"
    let first : Issue := .hardcodedWord (devices.message file "|" "One Element device") "element"
    let second : Issue := .hardcodedWord (devices.message file "|" "Devices") "devices"
    selected.Perm other ∧ first ≠ second ∧ tied Issue.le first second ∧
      run file "|" other list = run file "|" selected list ∧
      run file "|" selected list = [charset, first, second, first, second] := by
  intro phrase devices file list selected other charset first second
  have hperm : selected.Perm other := .swap _ _ _
  have hsame := (report_independent_of_rule_order file "|" list hperm).2.2
  have hfindings :
      other.flatMap (find file "|" list) = [charset, first, second, first, second] := by
    decide +kernel
  -- In the other order the findings are sorted as they stand.
  have hsorted : run file "|" other list = [charset, first, second, first, second] := by
    rw [run, hfindings]
    exact List.mergeSort_of_pairwise (by decide +kernel)
  exact ⟨hperm, by decide, by decide +kernel, hsame, hsame.symm.trans hsorted⟩

end Lint
end Phrasebook
