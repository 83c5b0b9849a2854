import Phrasebook.Proofs.Command.Planning
import Phrasebook.Proofs.Traversal.Walks

/-!
When a search for source files depends on how the directories are listed. It does just where two
siblings have the same name up to case and there are source files at or below both of them.
-/
namespace Phrasebook
namespace SourceScan

open FilePath (join IsName)

variable {d e : Disk} {patterns : List (List Glob.Token)} {depth : Nat} {path : String}

/-- Whether a walk through a directory comes upon two siblings that have the same name up to case,
with source files at or below both of them. -/
inductive Clash (d : Disk) (patterns : List (List Glob.Token)) : Nat → String → Prop
  | siblings {depth : Nat} {path : String} {a b : String × FileKind} (left : a ∈ d.children path)
      (right : b ∈ d.children path) (ne : a ≠ b)
      (alike : Text.lowercase a.1 = Text.lowercase b.1)
      (foundLeft : (visited d patterns depth (join path a.1) a.2).files ≠ [])
      (foundRight : (visited d patterns depth (join path b.1) b.2).files ≠ []) :
      Clash d patterns (depth + 1) path
  | inside {depth : Nat} {path name : String} (child : (name, .directory) ∈ d.children path)
      (searched : isIgnored patterns (join path name) = false)
      (clash : Clash d patterns depth (join path name)) : Clash d patterns (depth + 1) path

/-- There is no clash where all siblings differ in more than case. -/
theorem not_clash_of_apart
    (h : ∀ place, ∀ a ∈ d.listing place, ∀ b ∈ d.listing place,
      Text.lowercase a.1 = Text.lowercase b.1 → a = b) : ¬Clash d patterns depth path := by
  intro hclash
  induction hclash with
  | @siblings _ path a b left right ne alike =>
    rcases d.children_eq path with hnone | ⟨place, -, -, hlisting⟩
    · rw [hnone] at left
      cases left
    · rw [hlisting] at left right
      exact ne (h place a left b right alike)
  | inside _ _ _ ih => exact ih

section

variable {α β : Type} {l : List α} {f : α → List β}

theorem flatMap_filter_ne_nil (l : List α) (f : α → List β) :
    (l.filter fun a => !(f a).isEmpty).flatMap f = l.flatMap f := by
  induction l with
  | nil => rfl
  | cons a l ih =>
    rw [List.filter_cons]
    split_ifs with hfound
    · rw [List.flatMap_cons, List.flatMap_cons, ih]
    · have hnil : f a = [] := by simpa using hfound
      rw [List.flatMap_cons, hnil, List.nil_append, ih]

/-- The part of a list of pieces that comes from some of them. -/
theorem filter_flatMap_eq {p : α → Bool} {q : β → Bool} (h : ∀ a ∈ l, ∀ b ∈ f a, q b = p a) :
    (l.flatMap f).filter q = (l.filter p).flatMap f := by
  induction l with
  | nil => rfl
  | cons a l ih =>
    rw [List.forall_mem_cons] at h
    rw [List.flatMap_cons, List.filter_append, ih h.2, List.filter_cons]
    split_ifs with ha
    · rw [List.flatMap_cons, List.filter_eq_self.mpr fun b hb => (h.1 b hb).trans ha]
    · rw [List.filter_eq_nil_iff.mpr fun b hb => by rwa [h.1 b hb], List.nil_append]

/-- Lists that begin with different pieces are different. -/
theorem append_ne_of_disjoint {l m r s : List α} (hl : l ≠ []) (hm : m ≠ [])
    (h : ∀ a ∈ l, a ∉ m) : l ++ r ≠ m ++ s := by
  obtain ⟨a, l, rfl⟩ := List.exists_cons_of_ne_nil hl
  obtain ⟨b, m, rfl⟩ := List.exists_cons_of_ne_nil hm
  intro heq
  obtain ⟨rfl, -⟩ := List.cons.inj heq
  exact h a List.mem_cons_self List.mem_cons_self

end

/-- Siblings of the same name are the same. -/
theorem eq_of_mem_children (hd : d.Proper) {a b : String × FileKind} (ha : a ∈ d.children path)
    (hb : b ∈ d.children path) (hname : a.1 = b.1) : a = b :=
  List.inj_on_of_nodup_map (d.nodup_children hd path) ha hb hname

theorem visited_of_not_clash
    (hwalked : ∀ path, ¬Clash d patterns depth path →
      walked e patterns depth path = walked d patterns depth path)
    {sibling : String × FileKind} (hchild : sibling ∈ d.children path)
    (hclash : ¬Clash d patterns (depth + 1) path) :
    visited e patterns depth (join path sibling.1) sibling.2 =
      visited d patterns depth (join path sibling.1) sibling.2 := by
  obtain ⟨name, kind⟩ := sibling
  rw [visited_eq, visited_eq]
  split_ifs with hignored
  · rfl
  · cases kind with
    | directory =>
      exact hwalked _ fun hbelow => hclash (.inside hchild (eq_false_of_ne_true hignored) hbelow)
    | file => rfl
    | link => rfl
    | other => rfl

/-- Without a clash, a walk finds the same whatever the listing. -/
theorem walked_of_not_clash (h : d.Relisted e) (hd : d.Proper)
    (hclash : ¬Clash d patterns depth path) :
    walked e patterns depth path = walked d patterns depth path := by
  induction depth generalizing path with
  | zero => rfl
  | succ depth ih =>
    have hskipped := (alike_walked h hd patterns (depth + 1) path).skipped
    have hfiles : (walked e patterns (depth + 1) path).files =
        (walked d patterns (depth + 1) path).files := by
      have hsiblings := h.perm_children hd path
      have hinside : ∀ sibling ∈ visitOrder Prod.fst (e.children path),
          (visited e patterns depth (join path sibling.1) sibling.2).files =
            (visited d patterns depth (join path sibling.1) sibling.2).files := by
        intro sibling hsibling
        have hchild := hsiblings.mem_iff.mp ((perm_visitOrder _ _).mem_iff.mp hsibling)
        rw [visited_of_not_clash (fun path hbelow => ih hbelow) hchild hclash]
      rw [files_walked_succ, files_walked_succ, List.flatMap_congr hinside, ← flatMap_filter_ne_nil,
        ← flatMap_filter_ne_nil (visitOrder Prod.fst (d.children path))]
      -- Siblings that tie may swap, but at most one of them leads to files.
      refine congrArg (List.flatMap _) (filter_visitOrder_congr Prod.fst hsiblings ?_)
      intro a ha b hb hfa hfb halike
      by_contra hne
      exact hclash (.siblings ha hb hne halike (by simpa using hfa) (by simpa using hfb))
    exact Found.ext hfiles hskipped

/-- What is found below some names of a directory does not depend on the listing, if all of what is
found there does not. -/
theorem flatMap_visited_congr (h : d.Relisted e) (hd : d.Proper)
    (hsame : (walked e patterns (depth + 1) path).files =
      (walked d patterns (depth + 1) path).files) (p : String × FileKind → Bool) :
    ((visitOrder Prod.fst (e.children path)).filter p).flatMap
        (fun sibling => (visited e patterns depth (join path sibling.1) sibling.2).files) =
      ((visitOrder Prod.fst (d.children path)).filter p).flatMap
        (fun sibling => (visited d patterns depth (join path sibling.1) sibling.2).files) := by
  let q (found : String) : Bool :=
    (d.children path).any fun sibling =>
      p sibling && decide (found ∈ (visited d patterns depth (join path sibling.1) sibling.2).files)
  have hq : ∀ sibling ∈ d.children path,
      ∀ found ∈ (visited d patterns depth (join path sibling.1) sibling.2).files,
        q found = p sibling := by
    intro sibling hsibling found hfound
    rw [Bool.eq_iff_iff]
    simp only [q, List.any_eq_true, Bool.and_eq_true, decide_eq_true_eq]
    constructor
    · rintro ⟨other, hother, hp, hbelow⟩
      have hname := eq_of_mem_visited hd (hd.of_mem_children hother) (hd.of_mem_children hsibling)
        hbelow hfound
      rwa [← eq_of_mem_children hd hother hsibling hname]
    · intro hp
      exact ⟨sibling, hsibling, hp, hfound⟩
  have hsame := congrArg (List.filter q) hsame
  rw [files_walked_succ, files_walked_succ] at hsame
  rw [← filter_flatMap_eq (q := q), ← filter_flatMap_eq (q := q), hsame]
  · intro sibling hsibling
    exact hq sibling ((perm_visitOrder _ _).mem_iff.mp hsibling)
  · intro sibling hsibling found hfound
    have hchild := (h.perm_children hd path).mem_iff.mp ((perm_visitOrder _ _).mem_iff.mp hsibling)
    exact hq sibling hchild found ((alike_visited (alike_walked h hd _ _) _ _).files.mem_iff.mp hfound)

/-- Two siblings stand one behind the other among the siblings of a directory. -/
theorem exists_filter_eq_pair {siblings : List (String × FileKind)} {a b : String × FileKind}
    (hnodup : siblings.Nodup) (ha : a ∈ siblings) (hb : b ∈ siblings) (hne : a ≠ b) :
    ∃ x y, x ≠ y ∧ siblings.filter (fun sibling => sibling = a ∨ sibling = b) = [x, y] := by
  have hpair : (siblings.filter fun sibling => sibling = a ∨ sibling = b).Perm [a, b] := by
    refine (List.perm_ext_iff_of_nodup (hnodup.filter _) (by simpa using hne)).mpr fun sibling => ?_
    simp only [List.mem_filter, decide_eq_true_eq, List.mem_cons, List.not_mem_nil, or_false,
      and_iff_right_iff_imp]
    rintro (rfl | rfl)
    · exact ha
    · exact hb
  obtain ⟨x, y, hxy⟩ := List.length_eq_two.mp hpair.length_eq
  have hapart := hnodup.filter (fun sibling => sibling = a ∨ sibling = b)
  rw [hxy] at hapart
  exact ⟨x, y, by simpa using hapart, hxy⟩

/-- Listings have no effect below a sibling, if they have none on the whole directory. -/
theorem files_visited_congr (h : d.Relisted e) (hd : d.Proper) {sibling : String × FileKind}
    (hchild : sibling ∈ d.children path)
    (hsame : (walked e patterns (depth + 1) path).files =
      (walked d patterns (depth + 1) path).files) :
    (visited e patterns depth (join path sibling.1) sibling.2).files =
      (visited d patterns depth (join path sibling.1) sibling.2).files := by
  have hchosen := flatMap_visited_congr h hd hsame (· == sibling)
  have honly {siblings : List (String × FileKind)} (hsiblings : siblings.Perm (d.children path)) :
      (visitOrder Prod.fst siblings).filter (· == sibling) = [sibling] := by
    have hperm := (perm_visitOrder Prod.fst siblings).trans hsiblings
    have hnodup := hperm.nodup_iff.mpr (Disk.nodup_children hd path).of_map
    rw [List.filter_beq, List.count_eq_one_of_mem hnodup (hperm.mem_iff.mpr hchild)]
    rfl
  rw [honly (h.perm_children hd path), honly (.refl _)] at hchosen
  simpa using hchosen

/-- Siblings with the same name up to case change places where they are listed the other way round,
and that shows if there are source files at or below both of them. -/
theorem files_walked_reversed_ne (hd : d.Proper) {a b : String × FileKind}
    (hleft : a ∈ d.children path) (hright : b ∈ d.children path) (hne : a ≠ b)
    (halike : Text.lowercase a.1 = Text.lowercase b.1)
    (hfoundLeft : (visited d patterns depth (join path a.1) a.2).files ≠ [])
    (hfoundRight : (visited d patterns depth (join path b.1) b.2).files ≠ []) :
    (walked d.reversed patterns (depth + 1) path).files ≠
      (walked d patterns (depth + 1) path).files := by
  have h := d.relisted_reversed
  intro hsame
  have hchosen := flatMap_visited_congr h hd hsame fun sibling => sibling = a ∨ sibling = b
  have htied (siblings : List (String × FileKind)) :
      (visitOrder Prod.fst siblings).filter (fun sibling => sibling = a ∨ sibling = b) =
        siblings.filter fun sibling => sibling = a ∨ sibling = b := by
    refine filter_visitOrder_of_tied Prod.fst (a := a) fun sibling hsibling => ?_
    rcases of_decide_eq_true hsibling with rfl | rfl
    · rfl
    · exact halike
  -- The two are tied, so they are visited as listed, the one first here and the other one there.
  have hnodup := (Disk.nodup_children hd path).of_map
  obtain ⟨x, y, hxy, hpair⟩ := exists_filter_eq_pair hnodup hleft hright hne
  rw [htied, htied, d.children_reversed hd, List.filter_reverse, hpair] at hchosen
  have hfound : ∀ sibling ∈ [x, y], sibling ∈ d.children path ∧
      (visited d patterns depth (join path sibling.1) sibling.2).files ≠ [] := by
    intro sibling hsibling
    rw [← hpair, List.mem_filter, decide_eq_true_eq] at hsibling
    refine ⟨hsibling.1, ?_⟩
    rcases hsibling.2 with rfl | rfl
    · exact hfoundLeft
    · exact hfoundRight
  obtain ⟨hxchild, hx⟩ := hfound x (by simp)
  obtain ⟨hychild, hy⟩ := hfound y (by simp)
  have hperm := (alike_visited (alike_walked h hd patterns depth) (join path y.1) y.2).files
  have hapart : ∀ found ∈ (visited d.reversed patterns depth (join path y.1) y.2).files,
      found ∉ (visited d patterns depth (join path x.1) x.2).files := by
    intro found hbelow hfound
    have hname := eq_of_mem_visited hd (hd.of_mem_children hxchild) (hd.of_mem_children hychild)
      hfound (hperm.mem_iff.mp hbelow)
    exact hxy (eq_of_mem_children hd hxchild hychild hname)
  simp only [List.reverse_cons, List.reverse_nil, List.nil_append, List.cons_append,
    List.flatMap_cons] at hchosen
  exact append_ne_of_disjoint (fun hnil => hy (List.nil_perm.mp (hnil ▸ hperm))) hx hapart hchosen

/-- The listings of a disk matter to a walk where it comes upon a clash. -/
theorem not_clash_of_reversed (hd : d.Proper)
    (hsame : (walked d.reversed patterns depth path).files = (walked d patterns depth path).files) :
    ¬Clash d patterns depth path := by
  intro hclash
  induction hclash with
  | siblings left right ne alike foundLeft foundRight =>
    exact files_walked_reversed_ne hd left right ne alike foundLeft foundRight hsame
  | inside child searched clash ih =>
    have hbelow := files_visited_congr d.relisted_reversed hd child hsame
    rw [visited_eq, visited_eq, searched] at hbelow
    exact ih hbelow

/-- Whether to search below a path means to walk through a directory. Links are followed here. -/
def Enters (d : Disk) (patterns : List (List Glob.Token)) (root : String) : Prop :=
  (d.kind? root).isSome ∧
    (d.ownKind root = .ok .link ∧ d.isDirectory root ∨
      d.ownKind root = .ok .directory ∧ isIgnored patterns root = false)

def below (d : Disk) (patterns : List (List Glob.Token)) (root : String) : Found :=
  d.answer (filesBelow false false patterns root)

theorem answer_filesBelow (d : Disk) (color verbose : Bool) (patterns : List (List Glob.Token))
    (root : String) :
    d.answer (filesBelow color verbose patterns root) =
      if (d.kind? root).isSome then
        match d.ownKind root with
        | .error _ => ⟨[], 1⟩
        | .ok .link => if d.isDirectory root then walked d patterns maxDepth root else .nothing
        | .ok kind => visited d patterns maxDepth root kind
      else .nothing := by
  have hpresent (f : Bool → StateM Session Found) :
      d.answer (Files.present root >>= f) = d.answer (f (d.kind? root).isSome) := rfl
  have hown (f : Except FileError FileKind → StateM Session Found) :
      d.answer (Files.ownKind root >>= f) = d.answer (f (d.ownKind root)) := rfl
  have hdirectory (f : Bool → StateM Session Found) :
      d.answer (Files.isDirectory root >>= f) = d.answer (f (d.isDirectory root)) := rfl
  have hwalk := answer_walk d color verbose patterns maxDepth
  rw [filesBelow, hpresent]
  cases (d.kind? root).isSome with
  | false =>
    cases verbose with
    | false => rfl
    | true => rfl
  | true =>
    rw [if_pos rfl, if_pos rfl, hown]
    cases d.ownKind root with
    | error cause => exact answer_skip color verbose root cause
    | ok kind =>
      cases kind with
      | directory => exact answer_visit hwalk root .directory
      | file => exact answer_visit hwalk root .file
      | other => exact answer_visit hwalk root .other
      | link =>
        dsimp only
        rw [hdirectory]
        cases d.isDirectory root with
        | false => rfl
        | true => exact hwalk root

theorem below_of_enters {root : String} (h : Enters d patterns root) :
    below d patterns root = walked d patterns maxDepth root := by
  obtain ⟨hpresent, ⟨hown, hdirectory⟩ | ⟨hown, hsearched⟩⟩ := h
  · rw [below, answer_filesBelow, if_pos hpresent, hown]
    simp only [hdirectory, if_true]
  · rw [below, answer_filesBelow, if_pos hpresent, hown]
    simp only [visited_eq, hsearched, Bool.false_eq_true, if_false]

theorem below_of_not_enters (h : d.Relisted e) (hd : d.Proper) {root : String}
    (henters : ¬Enters d patterns root) : below e patterns root = below d patterns root := by
  rw [below, below, answer_filesBelow, answer_filesBelow, h.kind? hd, h.ownKind hd,
    h.isDirectory hd]
  by_cases hpresent : (d.kind? root).isSome
  · rw [if_pos hpresent, if_pos hpresent]
    cases hown : d.ownKind root with
    | error cause => rfl
    | ok kind =>
      cases kind with
      | file => simp only [visited_eq]
      | other => simp only [visited_eq]
      | directory =>
        have hignored : isIgnored patterns root = true := by
          by_contra hsearched
          exact henters ⟨hpresent, .inr ⟨hown, eq_false_of_ne_true hsearched⟩⟩
        simp only [visited_eq, hignored, if_true]
      | link =>
        have hdirectory : ¬d.isDirectory root := fun hdirectory =>
          henters ⟨hpresent, .inl ⟨hown, hdirectory⟩⟩
        simp only [if_neg hdirectory]
  · rw [if_neg hpresent, if_neg hpresent]

theorem enters_relisted (h : d.Relisted e) (hd : d.Proper) {root : String}
    (henters : Enters d patterns root) : Enters e patterns root := by
  rwa [Enters, h.kind? hd, h.ownKind hd, h.isDirectory hd]

theorem answer_files (d : Disk) (color verbose : Bool) (patterns : List (List Glob.Token))
    (roots : List String) :
    d.answer (files color verbose patterns roots) = .concat (roots.map (below d patterns)) := by
  have hbelow := looks_filesBelow (d := d) color verbose patterns
  have hconcat (parts : List Found) : Looks d (pure (Found.concat parts) : StateM Session Found) :=
    .pure _
  rw [files, Looks.answer_bind (.mapM hbelow _) (hconcat _), Looks.answer_mapM hbelow]
  refine congrArg Found.concat (List.map_congr_left fun root _ => ?_)
  rw [below, answer_filesBelow, answer_filesBelow]

/-- A search of one directory that is listed by name goes through it as it is listed. -/
theorem files_of_listed {root : String} {siblings : List (String × FileKind)}
    (color verbose : Bool) (henters : Enters d patterns root)
    (hlist : d.list root = .ok siblings)
    (hordered : siblings.Pairwise fun a b => nameLe a.1 b.1) :
    (d.answer (files color verbose patterns [root])).files =
      siblings.flatMap fun sibling =>
        (visited d patterns (maxDepth - 1) (join root sibling.1) sibling.2).files := by
  have hwalked : walked d patterns maxDepth root = _ := walked_of_listed hlist hordered
  rw [answer_files, List.map_singleton, below_of_enters henters, hwalked]
  simp only [Found.concat, List.flatMap_singleton, List.flatMap_map]
  rfl

def Clashes (d : Disk) (patterns : List (List Glob.Token)) (root : String) : Prop :=
  Enters d patterns root ∧ Clash d patterns maxDepth root

/-- Pieces of the same lengths can be told from the whole. -/
theorem eq_of_flatMap_eq {α β : Type} {l : List α} {f g : α → List β}
    (hlength : ∀ a ∈ l, (f a).length = (g a).length) (h : l.flatMap f = l.flatMap g) :
    ∀ a ∈ l, f a = g a := by
  induction l with
  | nil => simp
  | cons a l ih =>
    rw [List.forall_mem_cons] at hlength ⊢
    rw [List.flatMap_cons, List.flatMap_cons] at h
    obtain ⟨hfirst, hrest⟩ := List.append_inj h hlength.1
    exact ⟨hfirst, ih hlength.2 hrest⟩

theorem below_of_not_clashes (h : d.Relisted e) (hd : d.Proper) {root : String}
    (hclash : ¬Clashes d patterns root) : below e patterns root = below d patterns root := by
  by_cases henters : Enters d patterns root
  · rw [below_of_enters henters, below_of_enters (enters_relisted h hd henters)]
    exact walked_of_not_clash h hd fun hbelow => hclash ⟨henters, hbelow⟩
  · exact below_of_not_enters h hd henters

theorem length_files_below (h : d.Relisted e) (hd : d.Proper) (root : String) :
    (below e patterns root).files.length = (below d patterns root).files.length := by
  by_cases henters : Enters d patterns root
  · rw [below_of_enters henters, below_of_enters (enters_relisted h hd henters)]
    exact (alike_walked h hd patterns maxDepth root).files.length_eq
  · rw [below_of_not_enters h hd henters]

/-- A search finds the same files in the same order, however the directories are listed, just if it
comes upon no clash. -/
theorem files_fixed_iff (hd : d.Proper) (color verbose : Bool) (roots : List String) :
    (∀ e, d.Relisted e → e.answer (files color verbose patterns roots) =
        d.answer (files color verbose patterns roots)) ↔
      ∀ root ∈ roots, ¬Clashes d patterns root := by
  constructor
  · rintro hfixed root hroot ⟨henters, hclash⟩
    have h := d.relisted_reversed
    have hsame := congrArg Found.files (hfixed d.reversed h)
    rw [answer_files, answer_files] at hsame
    simp only [Found.concat, List.flatMap_map] at hsame
    have hbelow := eq_of_flatMap_eq (fun root _ => length_files_below h hd root) hsame root hroot
    rw [below_of_enters henters, below_of_enters (enters_relisted h hd henters)] at hbelow
    exact not_clash_of_reversed hd hbelow hclash
  · intro hclash e h
    rw [answer_files, answer_files]
    refine congrArg Found.concat (List.map_congr_left fun root hroot => ?_)
    exact below_of_not_clashes h hd (hclash root hroot)

end SourceScan
end Phrasebook
