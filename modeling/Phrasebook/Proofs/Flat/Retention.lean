import Phrasebook.Proofs.Flat.Expansion

/-!
What becomes of a single leaf when a flat tree is expanded. It is found in nested form, verbatim or
among the superseded keys, unless a later entry brings a subtree that leaves no room for it.
-/
namespace Phrasebook.Tree

open Expansion (Good Step)
open KeyPath (baseKey)

variable {separator key other : String} {node : Node} {inner path : KeyPath} {value : Phrase}
  {seen : List String} {e after : Expansion}

def nestedPath (separator : String) : KeyPath → KeyPath
  | [] => []
  | key :: inner => splitKey separator key ++ inner

/-- Whether an entry holds a subtree that leaves no room for a leaf at a path: a joined key places
it above the path, or a plain one has a leaf above the path or a subtree at it. -/
def Overlies (separator : String) (path : KeyPath) (entry : String × Node) : Prop :=
  match entry.2 with
  | .leaf _ => False
  | .subtree children =>
    if isJoined separator entry.1 then
      splitKey separator entry.1 <+: path ∧ splitKey separator entry.1 ≠ path
    else path.head? = some entry.1 ∧ (children.collision? .phrase path.tail).isSome

instance (separator : String) (path : KeyPath) : DecidablePred (Overlies separator path)
  | (_, .leaf _) => .isFalse id
  | (key, .subtree children) =>
    inferInstanceAs <| Decidable <|
      if isJoined separator key then
        splitKey separator key <+: path ∧ splitKey separator key ≠ path
      else path.head? = some key ∧ (children.collision? .phrase path.tail).isSome

def entriesAfter (key : String) (t : Tree) : List (String × Node) :=
  (t.entries.dropWhile (·.1 ≠ key)).tail

def Overlaid (separator : String) (t : Tree) (key : String) (inner : KeyPath) : Prop :=
  ∃ later ∈ t.entriesAfter key, Overlies separator (nestedPath separator (key :: inner)) later

instance (separator : String) (t : Tree) (key : String) (inner : KeyPath) :
    Decidable (Overlaid separator t key inner) :=
  inferInstanceAs (Decidable (∃ later ∈ t.entriesAfter key,
    Overlies separator (nestedPath separator (key :: inner)) later))

/-- Where a leaf is after an expansion: in nested form, where it was, or nowhere if its plain key is
reported as superseded. -/
inductive Accounted (separator key : String) (inner : KeyPath) (value : Phrase)
    (result : Tree × List String) : Prop
  | nested (h : result.1.Holds (nestedPath separator (key :: inner)) value)
  | verbatim (h : result.1.getLeaf? (key :: inner) = some value)
  | superseded (hplain : isJoined separator key = false) (hinner : inner = [])
    (h : key ∈ result.2)

inductive Expansion.Keeps (separator key : String) (inner : KeyPath) (value : Phrase)
    (e : Expansion) : Prop
  | nested (h : e.tree.spot? (nestedPath separator (key :: inner)) = some (.leaf value))
  | verbatim (hjoined : isJoined separator key) (h : e.tree.spot? (key :: inner) = some (.leaf value))
  | superseded (hplain : isJoined separator key = false) (hinner : inner = [])
    (h : key ∈ e.superseded)

open Expansion (Keeps)

theorem nestedPath_of_plain (hplain : isJoined separator key = false) (inner : KeyPath) :
    nestedPath separator (key :: inner) = key :: inner := by
  rw [nestedPath, splitKey_of_plain hplain]
  rfl

theorem exists_nestedPath_eq (separator key : String) (inner : KeyPath) :
    ∃ base rest, nestedPath separator (key :: inner) = base :: rest ∧
      isJoined separator base = false := by
  cases hjoined : isJoined separator key with
  | false => exact ⟨key, inner, nestedPath_of_plain hjoined inner, hjoined⟩
  | true =>
    obtain ⟨hplain, next, path, hsplit⟩ := splitKey_of_joined hjoined
    exact ⟨baseKey separator key, next :: path ++ inner, by rw [nestedPath, hsplit]; rfl, hplain⟩

/-- A leaf whose nested path is a single segment is a plain top-level one. -/
theorem of_nestedPath_eq_singleton {base : String}
    (h : nestedPath separator (key :: inner) = [base]) :
    isJoined separator key = false ∧ key = base ∧ inner = [] := by
  cases hjoined : isJoined separator key with
  | false =>
    rw [nestedPath_of_plain hjoined] at h
    exact ⟨rfl, List.cons.inj h⟩
  | true =>
    obtain ⟨-, next, path, hsplit⟩ := splitKey_of_joined hjoined
    simp [nestedPath, hsplit] at h

theorem spot?_mergeOnto (hnode : node.WellFormed) (under : Option Node)
    (h : node.spot? inner = some (.leaf value)) :
    (node.mergeOnto under).spot? inner = some (.leaf value) := by
  cases node with
  | leaf found => exact h
  | subtree children =>
    rcases Node.mergeOnto_subtree under children with ⟨mine, -, heq⟩ | ⟨-, heq⟩
    · rw [heq]
      exact spot?_merge_of_addition hnode h
    · rwa [heq]

theorem spot?_place_append (t : Tree) {path : KeyPath} (hpath : path ≠ []) (node : Node)
    (rest : KeyPath) : (t.place node path).spot? (path ++ rest) = node.spot? rest :=
  spot?_append (get?_place_self hpath node) rest

/-- The entry of a leaf brings it in. -/
theorem keeps_of_step (hnode : node.WellFormed) (hstep : Step separator e key node after)
    (hleaf : node.spot? inner = some (.leaf value)) : Keeps separator key inner value after := by
  have hpath (hjoined : isJoined separator key) : splitKey separator key ≠ [] := by
    obtain ⟨-, next, path, hsplit⟩ := splitKey_of_joined hjoined
    simp [hsplit]
  cases hstep with
  | @superseded mine found hplain hfind hkind =>
    subst hkind
    have hinner : inner = [] := by
      by_contra hne
      simp [Node.spot?, hne] at hleaf
    exact .superseded hplain hinner (by simp)
  | merged hplain hroom =>
    apply Keeps.nested
    rw [nestedPath_of_plain hplain, spot?_cons, find?_put_self]
    exact spot?_mergeOnto hnode _ hleaf
  | exchanged hjoined hbase => exact .nested ((spot?_place_append _ (hpath hjoined) _ _).trans hleaf)
  | placed hjoined hbase hfree =>
    exact .nested ((spot?_place_append _ (hpath hjoined) _ _).trans hleaf)
  | verbatim hjoined hbase hblocked =>
    exact .verbatim hjoined (by rw [spot?_cons, find?_put_self]; exact hleaf)

theorem Expansion.Step.superseded_subset (hstep : Step separator e key node after) :
    e.superseded ⊆ after.superseded := by
  cases hstep <;> simp

/-- A leaf stays where it is when a node is placed elsewhere, above it or below it. -/
theorem spot?_place_of_leaf {t : Tree} {path q : KeyPath} (hpath : path ≠ [])
    (hfree : t.collision? node.kind path = none) (hleaf : t.spot? q = some (.leaf value))
    (hsole : ∀ found, node = .leaf found → path ≠ q)
    (hover : ∀ children, node = .subtree children → path <+: q → path = q) :
    (t.place node path).spot? q = some (.leaf value) := by
  have hadmits := (collision?_eq_none_iff hpath).mp hfree
  rw [spot?_place hpath hfree]
  cases hmeet : path.meet q with
  | covers rest =>
    obtain rfl := KeyPath.meet_eq_covers_iff.mp hmeet
    have hself := hadmits path
    rw [KeyPath.meet_self] at hself
    cases rest with
    | nil =>
      rw [List.append_nil] at hleaf
      cases node with
      | leaf found => exact absurd (by simp) (hsole found rfl)
      | subtree children => cases hself _ hleaf
    | cons next rest =>
      cases node with
      | leaf found =>
        -- There is a subtree above the leaf, so a leaf has no place there.
        obtain ⟨names, hinner⟩ := exists_inner (by simp) hleaf
        cases hself _ hinner
      | subtree children => simpa using hover children rfl (List.prefix_append _ _)
  | leads next =>
    have hq := hadmits q
    rw [hmeet] at hq
    exact absurd hleaf (hq value)
  | apart => exact hleaf

/-- A leaf under a plain key stays when an entry with that key is merged over it. -/
theorem spot?_merged_of_leaf {rest : KeyPath} (hgood : Good separator seen e)
    (hother : other ∉ seen) (hnode : node.WellFormed)
    (hroom : node.kind = .phrase → ∀ mine, e.tree.find? other ≠ some (.subtree mine))
    (hsole : ∀ found, node.spot? rest ≠ some (.leaf found))
    (hover : ∀ children, node = .subtree children → children.collision? .phrase rest = none)
    (h : e.tree.spot? (other :: rest) = some (.leaf value)) :
    (e.tree.put other (node.mergeOnto (e.tree.find? other))).spot? (other :: rest) =
      some (.leaf value) := by
  rw [spot?_cons] at h
  obtain ⟨found, hfind, h⟩ := Option.bind_eq_some_iff.mp h
  obtain ⟨mine, children, rfl, rfl⟩ := hgood.exists_subtrees hother hfind hroom
  rw [spot?_cons, find?_put_self, Option.bind_some, hfind]
  refine spot?_merge_of_room hnode h (hover children rfl) fun hleaf => ?_
  obtain ⟨phrase, hphrase⟩ := isLeaf_iff.mp hleaf
  exact hsole phrase hphrase

theorem eq_nil_of_text {t : Tree} {base text : String} {rest : KeyPath}
    (hfind : t.find? base = some (.text text)) (h : t.spot? (base :: rest) = some (.leaf value)) :
    rest = [] := by
  rw [spot?_cons, hfind, Option.bind_some] at h
  by_contra hne
  simp [Node.text, Node.spot?, hne] at h

/-- A leaf in nested form stays when an entry with another key is added, if no other leaf has its
place and the entry leaves room for it. A plain text is exchanged for its variants. -/
theorem keeps_step_of_nested (hgood : Good separator seen e) (hother : other ∉ seen)
    (hnode : node.WellFormed) (hstep : Step separator e other node after)
    (hsole : ∀ rest found, node.spot? rest = some (.leaf found) →
      nestedPath separator (other :: rest) ≠ nestedPath separator (key :: inner))
    (hover : ¬Overlies separator (nestedPath separator (key :: inner)) (other, node))
    (h : e.tree.spot? (nestedPath separator (key :: inner)) = some (.leaf value)) :
    Keeps separator key inner value after := by
  obtain ⟨base, rest, hpath, hplainBase⟩ := exists_nestedPath_eq separator key inner
  have hsame {t : Tree} (hfind : t.find? base = e.tree.find? base) :
      t.spot? (nestedPath separator (key :: inner)) = some (.leaf value) := by
    rw [hpath, spot?_cons] at h ⊢
    rw [hfind, h]
  cases hstep with
  | superseded hplain hfind hkind => exact .nested h
  | merged hplain hroom =>
    apply Keeps.nested
    by_cases hbase : other = base
    · subst hbase
      rw [hpath] at h hover ⊢
      refine spot?_merged_of_leaf hgood hother hnode hroom (fun found hfound => ?_) ?_ h
      · exact hsole rest found hfound (by rw [nestedPath_of_plain hplain, hpath])
      · rintro children rfl
        simpa [Overlies, hplain] using hover
    · exact hsame (find?_put_of_ne hbase _ _)
  | exchanged hjoined hbase =>
    by_cases hmine : base = baseKey separator other
    · -- A text has no leaf below it, so the leaf is that very text.
      rw [hpath, hmine] at h
      rw [eq_nil_of_text hbase h] at hpath
      obtain ⟨hplain, hkey, hinner⟩ := of_nestedPath_eq_singleton hpath
      exact .superseded hplain hinner (by simp [hkey, hmine])
    · refine .nested (hsame ?_)
      rw [Expansion.find?_place_joined hjoined hmine, find?_erase_of_ne (Ne.symm hmine)]
  | placed hjoined hbase hfree =>
    obtain ⟨-, next, tail, hsplit⟩ := splitKey_of_joined hjoined
    refine .nested (spot?_place_of_leaf (by simp [hsplit]) hfree h ?_ ?_)
    · rintro found rfl heq
      exact hsole [] found rfl (by rw [nestedPath, List.append_nil, heq])
    · rintro children rfl hpre
      by_contra hne
      exact hover (by simpa [Overlies, hjoined] using ⟨hpre, hne⟩)
  | verbatim hjoined hbase hblocked =>
    refine .nested (hsame (find?_put_of_ne ?_ _ _))
    rintro rfl
    rw [hplainBase] at hjoined
    cases hjoined

theorem Expansion.Keeps.step (hgood : Good separator seen e) (hother : other ∉ seen)
    (hne : key ≠ other) (hnode : node.WellFormed) (hstep : Step separator e other node after)
    (hsole : ∀ rest found, node.spot? rest = some (.leaf found) →
      nestedPath separator (other :: rest) ≠ nestedPath separator (key :: inner))
    (hroom : ¬Overlies separator (nestedPath separator (key :: inner)) (other, node))
    (h : Keeps separator key inner value e) : Keeps separator key inner value after := by
  cases h with
  | nested h => exact keeps_step_of_nested hgood hother hnode hstep hsole hroom h
  | verbatim hjoined h =>
    refine .verbatim hjoined ?_
    rwa [spot?_cons, hstep.find?_joined hjoined hne, ← spot?_cons]
  | superseded hplain hinner h => exact .superseded hplain hinner (hstep.superseded_subset h)

theorem entriesAfter_eq {t : Tree} (ht : t.keys.Nodup) {before rest : List (String × Node)}
    (h : t.entries = before ++ (key, node) :: rest) : t.entriesAfter key = rest := by
  have hfresh := key_notMem_of_split ht h
  have hbefore (entry : String × Node) (hentry : entry ∈ before) :
      decide (entry.1 ≠ key) = true := by
    refine decide_eq_true fun heq => hfresh ?_
    exact heq ▸ List.mem_map_of_mem hentry
  rw [entriesAfter, h, List.dropWhile_append_of_pos hbefore,
    List.dropWhile_cons_of_neg (by simp), List.tail_cons]

theorem keeps_expansion {t : Tree} (ht : t.WellFormed)
    (hleaf : t.spot? (key :: inner) = some (.leaf value))
    (hsole : ∀ path found, t.spot? path = some (.leaf found) →
      nestedPath separator path = nestedPath separator (key :: inner) → path = key :: inner)
    (hroom : ¬Overlaid separator t key inner) :
    Good separator t.keys (t.expansion separator) ∧
      Keeps separator key inner value (t.expansion separator) := by
  rw [spot?_cons] at hleaf
  obtain ⟨mine, hmine, hleaf⟩ := Option.bind_eq_some_iff.mp hleaf
  have hall : key ∈ t.entries.map Prod.fst := mem_keys_iff.mpr (by simp [hmine])
  refine (expansion_induction ht separator
    (motive := fun before e => key ∈ before.map Prod.fst → Keeps separator key inner value e)
    (fun hmem => absurd hmem (by simp)) ?_).imp_right fun hkeeps => hkeeps hall
  intro before other node rest e after hsplit hgood hstep ih hmem
  have hentry : t.find? other = some node :=
    (mem_entries_iff ht.nodup_keys).mp (by simp [hsplit])
  -- Nothing is asked of the entries before that of the leaf, which brings it in.
  by_cases hkey : key = other
  · subst hkey
    rw [hmine] at hentry
    cases hentry
    exact keeps_of_step (ht.find? hmine) hstep hleaf
  · have hbefore : key ∈ before.map Prod.fst := by simpa [hkey] using hmem
    refine (ih hbefore).step hgood (key_notMem_of_split ht.nodup_keys hsplit) hkey
      (ht.find? hentry) hstep ?_ ?_
    · intro path found hspot heq
      have hpath := hsole (other :: path) found (by rw [spot?_cons, hentry]; exact hspot) heq
      exact hkey (List.cons.inj hpath).1.symm
    · intro hover
      obtain ⟨⟨k, found⟩, hfound, rfl⟩ := List.mem_map.mp hbefore
      obtain ⟨front, between, rfl⟩ := List.append_of_mem hfound
      rw [List.append_assoc, List.cons_append] at hsplit
      exact hroom ⟨(other, node), by simp [entriesAfter_eq ht.nodup_keys hsplit], hover⟩

/-- A leaf that no other leaf shares its nested path with is accounted for after an expansion,
unless an entry further down brings a subtree that leaves no room for it. -/
theorem expandFlat_accounts_for_leaf {t : Tree} (ht : t.WellFormed)
    (hleaf : (key :: inner, value) ∈ t.leaves)
    (hsole : ∀ leaf ∈ t.leaves,
      nestedPath separator leaf.1 = nestedPath separator (key :: inner) → leaf.1 = key :: inner)
    (hroom : ¬Overlaid separator t key inner) :
    Accounted separator key inner value (t.expandFlat separator) := by
  have hvalue := (mem_leaves_iff ht).mp hleaf
  have hspot := getLeaf?_eq_some_iff.mp hvalue
  by_cases hflat : t.isFlat separator
  · obtain ⟨hgood, hkeeps⟩ := keeps_expansion ht hspot
      (fun path found hfound => hsole (path, found)
        ((mem_leaves_iff ht).mpr (getLeaf?_eq_some_iff.mpr hfound))) hroom
    rw [expandFlat_of_flat hflat]
    cases hkeeps with
    | nested h => exact .nested (holds_collapseAt _ h)
    | verbatim hjoined h =>
      refine .verbatim (getLeaf?_eq_some_iff.mpr ?_)
      have hbase : key ∉ (t.expansion separator).bases := by
        intro hmem
        rw [hgood.plainBases key hmem] at hjoined
        cases hjoined
      rw [spot?_cons] at h ⊢
      simpa [find?_collapseAt, hbase] using h
    | superseded hplain hinner h => exact .superseded hplain hinner h
  · rw [Bool.not_eq_true] at hflat
    rw [expandFlat_of_nested hflat]
    exact .verbatim hvalue

/-- A joined key whose subtree becomes a plural, of which its text is a form then. -/
theorem joined_form_accounted_for :
    let t : Tree := .leaf "files|other" (.text "b")
      (.branch "files" (.leaf "one" (.text "a") .nil) .nil)
    t.WellFormed ∧ (["files|other"], Phrase.text "b") ∈ t.leaves ∧
      Accounted "|" "files|other" [] (.text "b") (t.expandFlat "|") := by
  intro t
  have ht : t.WellFormed := by simp [t, Tree.WellFormed, Phrase.WellFormed]
  have hleaf : (["files|other"], Phrase.text "b") ∈ t.leaves := by decide
  exact ⟨ht, hleaf, expandFlat_accounts_for_leaf ht hleaf (by decide) (by decide)⟩

/-- A text placed by a joined key is lost when a later subtree has another one at its path. -/
theorem overlaid_leaf_not_accounted_for :
    ¬∀ (t : Tree) (separator key : String) (inner : KeyPath) (value : Phrase), t.WellFormed →
      separator ≠ "" → (key :: inner, value) ∈ t.leaves →
      (∀ leaf ∈ t.leaves, nestedPath separator leaf.1 = nestedPath separator (key :: inner) →
        leaf.1 = key :: inner) →
      Accounted separator key inner value (t.expandFlat separator) := by
  intro hall
  let t : Tree := .leaf "x|y" (.text "1")
    (.branch "x" (.branch "y" (.leaf "z" (.text "2") .nil) .nil) .nil)
  have ht : t.WellFormed := by simp [t, Tree.WellFormed, Phrase.WellFormed]
  have hpath : nestedPath "|" ["x|y"] = ["x", "y"] := by decide
  cases hall t "|" "x|y" [] (.text "1") ht (by decide) (by decide) (by decide) with
  | nested h =>
    rw [hpath] at h
    cases h with
    | leaf h => exact absurd h (by decide)
    | @form parent name text record hparent hplural hform hvalue =>
      have hpieces : ["x"] ++ ["y"] = parent ++ [name] := hparent
      obtain ⟨rfl, -⟩ := List.append_inj' hpieces rfl
      rw [show (t.expandFlat "|").1.getLeaf? ["x"] = none by decide] at hplural
      cases hplural
  | verbatim h => exact absurd h (by decide)
  | superseded hplain hinner h => exact absurd hplain (by decide)

end Phrasebook.Tree
