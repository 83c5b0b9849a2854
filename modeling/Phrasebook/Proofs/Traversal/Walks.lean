import Mathlib.Data.List.Perm.Basic
import Phrasebook.Proofs.Command.Reading
import Phrasebook.Proofs.Disk.Listing
import Phrasebook.Proofs.StableSort

/-!
What a search for source files finds on a disk, and in which order. Siblings are visited by name
without regard to case, and what is found below one of them bears its name.
-/
namespace Phrasebook.SourceScan

open FilePath (join IsName)

section

variable {α : Type} {name : α → String} {siblings listed : List α} {p : α → Bool}

theorem ranking_visit (name : α → String) : Ranking fun a b => nameLe (name a) (name b) where
  trans a b c hab hbc := by
    simp only [nameLe, decide_eq_true_eq] at hab hbc ⊢
    exact String.le_trans hab hbc
  total a b := by
    simp only [nameLe, Bool.or_eq_true, decide_eq_true_eq]
    exact String.le_total _ _

theorem tied_visit_iff {a b : α} : tied (fun a b => nameLe (name a) (name b)) a b ↔
    Text.lowercase (name a) = Text.lowercase (name b) := by
  simp only [tied, nameLe, Bool.and_eq_true, decide_eq_true_eq]
  constructor
  · rintro ⟨hab, hba⟩
    exact String.le_antisymm hab hba
  · intro heq
    rw [heq]
    exact ⟨String.le_refl _, String.le_refl _⟩

theorem perm_visitOrder (name : α → String) (siblings : List α) :
    (visitOrder name siblings).Perm siblings :=
  List.mergeSort_perm _ _

/-- Some of the siblings are visited in the same order, however they are listed, if no two of them
have the same name up to case. -/
theorem filter_visitOrder_congr (name : α → String) (hperm : listed.Perm siblings)
    (hapart : ∀ a ∈ siblings, ∀ b ∈ siblings, p a → p b →
      Text.lowercase (name a) = Text.lowercase (name b) → a = b) :
    (visitOrder name listed).filter p = (visitOrder name siblings).filter p := by
  have hrank := ranking_visit name
  have hsorted (l : List α) := (List.pairwise_mergeSort hrank.trans hrank.total l).filter p
  have hsame : (visitOrder name listed).Perm (visitOrder name siblings) :=
    (perm_visitOrder name listed).trans (hperm.trans (perm_visitOrder name siblings).symm)
  refine List.Perm.eq_of_pairwise ?_ (hsorted listed) (hsorted siblings) (hsame.filter p)
  intro a b ha hb hab hba
  obtain ⟨ha, hpa⟩ := List.mem_filter.mp ha
  obtain ⟨hb, hpb⟩ := List.mem_filter.mp hb
  have hlisted := hperm.mem_iff.mp ((perm_visitOrder name listed).mem_iff.mp ha)
  apply hapart a hlisted b ((perm_visitOrder name siblings).mem_iff.mp hb) hpa hpb
  exact tied_visit_iff.mp (by simp [tied, hab, hba])

/-- Siblings with the same name up to case are visited as they are listed. -/
theorem filter_visitOrder_of_tied (name : α → String) {a : α}
    (hp : ∀ b, p b → Text.lowercase (name a) = Text.lowercase (name b)) :
    (visitOrder name siblings).filter p = siblings.filter p := by
  have hgroup (l : List α) :
      l.filter p = (l.filter (tied (fun a b => nameLe (name a) (name b)) a)).filter p := by
    rw [List.filter_filter]
    apply List.filter_congr
    intro b _
    cases hb : p b with
    | false => rfl
    | true => rw [Bool.true_and, tied_visit_iff.mpr (hp b hb)]
  rw [hgroup, hgroup siblings, visitOrder, (ranking_visit name).filter_tied_mergeSort]

/-- The listing of siblings has no effect on the order in which they are visited just if no two of
them have the same name up to case. -/
theorem visitOrder_fixed_iff :
    (∀ listed : List α, listed.Perm siblings → visitOrder name listed = visitOrder name siblings) ↔
      ∀ a ∈ siblings, ∀ b ∈ siblings,
        Text.lowercase (name a) = Text.lowercase (name b) → a = b := by
  constructor
  · intro h a ha b hb heq
    have hfront {c : α} (hc : c ∈ siblings) : ∃ rest, (c :: rest).Perm siblings := by
      obtain ⟨front, rest, rfl⟩ := List.append_of_mem hc
      exact ⟨front ++ rest, List.perm_middle.symm⟩
    obtain ⟨behind, hbehind⟩ := hfront ha
    obtain ⟨behind', hbehind'⟩ := hfront hb
    -- Each of the two comes first in its group when it is listed first.
    have hrank := ranking_visit name
    have hgroup := congrArg (List.filter (tied (fun a b => nameLe (name a) (name b)) a))
      ((h _ hbehind).trans (h _ hbehind').symm)
    rw [visitOrder, visitOrder, hrank.filter_tied_mergeSort, hrank.filter_tied_mergeSort,
      List.filter_cons_of_pos (hrank.tied_self a),
      List.filter_cons_of_pos (tied_visit_iff.mpr heq)] at hgroup
    exact (List.cons.inj hgroup).1
  · intro hapart listed hperm
    have hall := filter_visitOrder_congr (p := fun _ => true) name hperm
      fun a ha b hb _ _ => hapart a ha b hb
    rwa [List.filter_true, List.filter_true] at hall

end

section

variable {d : Disk} {patterns : List (List Glob.Token)} {depth : Nat} {path : String}

def walked (d : Disk) (patterns : List (List Glob.Token)) (depth : Nat) (path : String) : Found :=
  d.answer (walk false false patterns depth path)

def visited (d : Disk) (patterns : List (List Glob.Token)) (depth : Nat) (path : String)
    (kind : FileKind) : Found :=
  d.answer (visit patterns (walk false false patterns depth) path kind)

theorem visited_eq (d : Disk) (patterns : List (List Glob.Token)) (depth : Nat) (path : String)
    (kind : FileKind) :
    visited d patterns depth path kind =
      if isIgnored patterns path then .nothing
      else
        match kind with
        | .directory => walked d patterns depth path
        | .file => .ofFile path
        | .link | .other => .nothing := by
  rw [visited]
  unfold visit
  split_ifs
  · rfl
  · cases kind <;> rfl

theorem answer_skip (color verbose : Bool) (path : String) (cause : FileError) :
    d.answer (skip color verbose path cause) = ⟨[], 1⟩ := by
  cases verbose with
  | false => rfl
  | true => rfl

theorem answer_visit {inside : String → StateM Session Found}
    (hinside : ∀ path, d.answer (inside path) = walked d patterns depth path) (path : String)
    (kind : FileKind) :
    d.answer (visit patterns inside path kind) = visited d patterns depth path kind := by
  rw [visited_eq]
  unfold visit
  split_ifs
  · rfl
  · cases kind with
    | directory => exact hinside path
    | file => rfl
    | link => rfl
    | other => rfl

theorem answer_list_bind {α : Type} (d : Disk) (path : String)
    (f : Except FileError (List (String × FileKind)) → StateM Session α) :
    d.answer (Files.list path >>= f) = d.answer (f (d.list path)) :=
  rfl

theorem answer_walk_succ {color verbose : Bool}
    (hinside : ∀ path, d.answer (walk color verbose patterns depth path) =
      walked d patterns depth path) (path : String) :
    d.answer (walk color verbose patterns (depth + 1) path) =
      match d.list path with
      | .error _ => ⟨[], 1⟩
      | .ok siblings => .concat ((visitOrder Prod.fst siblings).map fun sibling =>
          visited d patterns depth (join path sibling.1) sibling.2) := by
  rw [walk, answer_list_bind]
  cases d.list path with
  | error cause => exact answer_skip color verbose path cause
  | ok siblings =>
    have hvisit (sibling : String × FileKind) :
        Looks d (visit patterns (walk color verbose patterns depth) (join path sibling.1) sibling.2) :=
      looks_visit (looks_walk color verbose patterns depth) _ _ _
    have hconcat (parts : List Found) : Looks d (pure (Found.concat parts) : StateM Session Found) :=
      .pure _
    dsimp only
    rw [Looks.answer_bind (.mapM hvisit _) (hconcat _), Looks.answer_mapM hvisit]
    exact congrArg Found.concat (List.map_congr_left fun sibling _ => answer_visit hinside _ _)

/-- The walk through a directory goes through what is in it by name. -/
theorem walked_succ (d : Disk) (patterns : List (List Glob.Token)) (depth : Nat) (path : String) :
    walked d patterns (depth + 1) path =
      match d.list path with
      | .error _ => ⟨[], 1⟩
      | .ok siblings => .concat ((visitOrder Prod.fst siblings).map fun sibling =>
          visited d patterns depth (join path sibling.1) sibling.2) :=
  answer_walk_succ (fun _ => rfl) path

/-- What is put out on the way has no effect on what is found. -/
theorem answer_walk (d : Disk) (color verbose : Bool) (patterns : List (List Glob.Token))
    (depth : Nat) (path : String) :
    d.answer (walk color verbose patterns depth path) = walked d patterns depth path := by
  induction depth generalizing path with
  | zero => exact (answer_skip color verbose path _).trans (answer_skip false false path _).symm
  | succ depth ih => rw [answer_walk_succ ih, walked_succ]

theorem files_walked_succ (d : Disk) (patterns : List (List Glob.Token)) (depth : Nat)
    (path : String) :
    (walked d patterns (depth + 1) path).files =
      (visitOrder Prod.fst (d.children path)).flatMap fun sibling =>
        (visited d patterns depth (join path sibling.1) sibling.2).files := by
  rw [walked_succ, Disk.children]
  cases d.list path with
  | error cause => simp [visitOrder]
  | ok siblings => simp [Found.concat, List.flatMap_map]

/-- A directory that is listed by name is walked as it is listed. -/
theorem walked_of_listed {siblings : List (String × FileKind)}
    (hlist : d.list path = .ok siblings)
    (hordered : siblings.Pairwise fun a b => nameLe a.1 b.1) :
    walked d patterns (depth + 1) path =
      .concat (siblings.map fun sibling =>
        visited d patterns depth (join path sibling.1) sibling.2) := by
  rw [walked_succ, hlist]
  dsimp only
  rw [visitOrder, List.mergeSort_of_pairwise hordered]

/-- Whether two walks have found the same files, in any order, and skipped as many directories. -/
structure Found.Alike (a b : Found) : Prop where
  files : a.files.Perm b.files
  skipped : a.skipped = b.skipped

protected theorem Found.Alike.refl (a : Found) : a.Alike a :=
  ⟨.refl _, rfl⟩

theorem alike_visited {e : Disk}
    (hwalked : ∀ path, (walked e patterns depth path).Alike (walked d patterns depth path))
    (path : String) (kind : FileKind) :
    (visited e patterns depth path kind).Alike (visited d patterns depth path kind) := by
  rw [visited_eq, visited_eq]
  split_ifs
  · exact .refl _
  · cases kind with
    | directory => exact hwalked path
    | file => exact .refl _
    | link => exact .refl _
    | other => exact .refl _

theorem alike_walked {e : Disk} (h : d.Relisted e) (hd : d.Proper)
    (patterns : List (List Glob.Token)) (depth : Nat) (path : String) :
    (walked e patterns depth path).Alike (walked d patterns depth path) := by
  induction depth generalizing path with
  | zero => exact .refl _
  | succ depth ih =>
    have hvisited := alike_visited ih
    rw [walked_succ, walked_succ]
    rcases h.list_cases hd path with ⟨cause, he, hd⟩ | ⟨listed, siblings, he, hd, hperm⟩
    · rw [he, hd]
      exact .refl _
    · rw [he, hd]
      have horder : (visitOrder Prod.fst listed).Perm (visitOrder Prod.fst siblings) :=
        (perm_visitOrder _ _).trans (hperm.trans (perm_visitOrder _ _).symm)
      constructor
      · simp only [Found.concat, List.flatMap_map]
        exact horder.flatMap fun sibling _ => (hvisited _ _).files
      · have hskipped := List.map_congr_left (l := visitOrder Prod.fst listed)
          fun sibling _ => (hvisited (join path sibling.1) sibling.2).skipped
        simp only [Found.concat, List.map_map]
        rw [← (horder.map _).foldr_op_eq]
        exact congrArg (List.foldr (· + ·) 0) hskipped

/-- Whether a path is another one or goes on behind it, with a slash. -/
def Below (path found : String) : Prop :=
  ∃ rest, found.toList = path.toList ++ rest ∧ (rest = [] ∨ ∃ more, rest = '/' :: more)

def EndsNamed (path : String) : Prop :=
  ∃ c, path.toList.getLast? = some c ∧ c ≠ '/'

variable {name : String}

theorem join_of_isName (hname : IsName name) (path : String) :
    join path name =
      if path.isEmpty ∨ path.toList.getLast? = some '/' then path ++ name
      else path ++ "/" ++ name := by
  have hrelative : FilePath.isAbsolute name = false := by
    rw [FilePath.isAbsolute, decide_eq_false_iff_not]
    intro hhead
    exact hname.2 (List.mem_of_mem_head? hhead)
  rw [join, hrelative]
  rfl

/-- Names are put behind the same text. -/
theorem exists_join (path : String) :
    ∃ front, ∀ name, IsName name → (join path name).toList = front ++ name.toList := by
  by_cases hopen : path.isEmpty ∨ path.toList.getLast? = some '/'
  · refine ⟨path.toList, fun name hname => ?_⟩
    rw [join_of_isName hname, if_pos hopen, String.toList_append]
  · refine ⟨path.toList ++ ['/'], fun name hname => ?_⟩
    rw [join_of_isName hname, if_neg hopen, String.toList_append, String.toList_append]
    rfl

theorem toList_join_of_endsNamed (hpath : EndsNamed path) (hname : IsName name) :
    (join path name).toList = path.toList ++ '/' :: name.toList := by
  obtain ⟨c, hlast, hc⟩ := hpath
  have hclosed : ¬(path.isEmpty ∨ path.toList.getLast? = some '/') := by
    rintro (hempty | hslash)
    · rw [String.isEmpty_iff.mp hempty] at hlast
      cases hlast
    · rw [hlast] at hslash
      exact hc (Option.some.inj hslash)
  rw [join_of_isName hname, if_neg hclosed, String.toList_append, String.toList_append,
    List.append_assoc]
  rfl

theorem endsNamed_join (hname : IsName name) (path : String) : EndsNamed (join path name) := by
  obtain ⟨front, hfront⟩ := exists_join path
  have hne : name.toList ≠ [] := by
    intro hnil
    exact hname.1 (String.toList_eq_nil_iff.mp hnil)
  refine ⟨name.toList.getLast hne, ?_, ?_⟩
  · rw [hfront name hname, List.getLast?_append_of_ne_nil _ hne, List.getLast?_eq_some_getLast hne]
  · intro hslash
    exact hname.2 (hslash ▸ List.getLast_mem hne)

theorem below_self (path : String) : Below path path :=
  ⟨[], (List.append_nil _).symm, .inl rfl⟩

theorem mem_files_visited {kind : FileKind} {found : String}
    (hfound : found ∈ (visited d patterns depth path kind).files) :
    found = path ∨ found ∈ (walked d patterns depth path).files := by
  rw [visited_eq] at hfound
  split_ifs at hfound
  · cases hfound
  · cases kind with
    | directory => exact .inr hfound
    | file =>
      rw [Found.ofFile] at hfound
      split_ifs at hfound
      · exact .inl (List.mem_singleton.mp hfound)
      · cases hfound
    | link => cases hfound
    | other => cases hfound

theorem below_of_mem_walked (hd : d.Proper) (hpath : EndsNamed path) {found : String}
    (hfound : found ∈ (walked d patterns depth path).files) : Below path found := by
  induction depth generalizing path with
  | zero => cases hfound
  | succ depth ih =>
    rw [files_walked_succ] at hfound
    obtain ⟨sibling, hsibling, hinside⟩ := List.mem_flatMap.mp hfound
    have hname := hd.of_mem_children ((perm_visitOrder _ _).mem_iff.mp hsibling)
    have hbelow : Below (join path sibling.1) found := by
      rcases mem_files_visited hinside with rfl | hinside
      · exact below_self _
      · exact ih (endsNamed_join hname path) hinside
    obtain ⟨rest, hrest, -⟩ := hbelow
    rw [toList_join_of_endsNamed hpath hname, List.append_assoc] at hrest
    exact ⟨_, hrest, .inr ⟨_, rfl⟩⟩

/-- What is found below one name of a directory is not found below another one. -/
theorem eq_of_mem_visited (hd : d.Proper) {a b : String} {kindA kindB : FileKind} {found : String}
    (ha : IsName a) (hb : IsName b)
    (hfa : found ∈ (visited d patterns depth (join path a) kindA).files)
    (hfb : found ∈ (visited d patterns depth (join path b) kindB).files) : a = b := by
  obtain ⟨front, hfront⟩ := exists_join path
  have hname {name : String} {kind : FileKind} (hname : IsName name)
      (hfound : found ∈ (visited d patterns depth (join path name) kind).files) :
      (found.toList.drop front.length).takeWhile (· ≠ '/') = name.toList := by
    have hbelow : Below (join path name) found := by
      rcases mem_files_visited hfound with rfl | hinside
      · exact below_self _
      · exact below_of_mem_walked hd (endsNamed_join hname path) hinside
    obtain ⟨rest, hrest, hslash⟩ := hbelow
    have hplain : ∀ c ∈ name.toList, decide (c ≠ '/') = true := by
      intro c hc
      exact decide_eq_true fun heq => hname.2 (heq ▸ hc)
    rw [hrest, hfront name hname, List.append_assoc, List.drop_left,
      List.takeWhile_append_of_pos hplain]
    rcases hslash with rfl | ⟨more, rfl⟩
    · simp
    · simp
  exact String.toList_inj.mp ((hname ha hfa).symm.trans (hname hb hfb))

theorem size_join (hname : IsName name) (path : String) :
    path.utf8ByteSize < (join path name).utf8ByteSize := by
  have hsize : 0 < name.utf8ByteSize := by
    rw [Nat.pos_iff_ne_zero, Ne, String.utf8ByteSize_eq_zero_iff]
    exact hname.1
  rw [join_of_isName hname]
  split_ifs
  · rw [String.utf8ByteSize_append]
    omega
  · rw [String.utf8ByteSize_append, String.utf8ByteSize_append]
    omega

theorem list_of_maxDepth_le (hsize : maxDepth ≤ path.utf8ByteSize) :
    d.list path = .error .nameTooLong := by
  have htoolong : Disk.maxPathSize ≤ path.utf8ByteSize := hsize
  have hnonempty : path.isEmpty = false := by
    rw [String.isEmpty_eq_false_iff]
    rintro rfl
    exact absurd hsize (by decide)
  rw [Disk.list, Disk.locate, hnonempty, if_neg Bool.false_ne_true, if_pos htoolong]

/-- The bound on the depth of a walk shows nowhere. Where it is reached, the path is too long. -/
theorem walked_of_maxDepth_le (hd : d.Proper) {more : Nat}
    (hdepth : maxDepth ≤ depth + path.utf8ByteSize) (hmore : maxDepth ≤ more + path.utf8ByteSize) :
    walked d patterns depth path = walked d patterns more path := by
  have hzero (depth : Nat) {path : String} (hsize : maxDepth ≤ 0 + path.utf8ByteSize) :
      walked d patterns depth path = ⟨[], 1⟩ := by
    cases depth with
    | zero => exact answer_skip _ _ _ _
    | succ depth => rw [walked_succ, list_of_maxDepth_le (by simpa using hsize)]
  induction depth generalizing path more with
  | zero => rw [hzero 0 hdepth, hzero more hdepth]
  | succ depth ih =>
    cases more with
    | zero => rw [hzero 0 hmore, hzero _ hmore]
    | succ more =>
      rw [walked_succ, walked_succ]
      cases hlist : d.list path with
      | error cause => rfl
      | ok siblings =>
        refine congrArg Found.concat (List.map_congr_left fun sibling hsibling => ?_)
        have hchild : sibling ∈ d.children path := by
          rw [Disk.children, hlist]
          exact (perm_visitOrder _ _).mem_iff.mp hsibling
        have hsize := size_join (hd.of_mem_children hchild) path
        have hwalked : walked d patterns depth (join path sibling.1) =
            walked d patterns more (join path sibling.1) := ih (by omega) (by omega)
        rw [visited_eq, visited_eq, hwalked]

end

end Phrasebook.SourceScan
