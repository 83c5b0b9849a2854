import Mathlib.Data.List.Basic
import Phrasebook.Proofs.Tree.Storing

/-!
What stops a write in place. It fails where its path is empty, leads through a leaf or ends at a node
of the other kind, names the first such place, and leaves the tree as it was.
-/
namespace Phrasebook.Tree

variable {t after : Tree} {kind found : NodeKind} {path : KeyPath} {segment : String}

/-- What a write of a node of some kind meets on its path: the segment where it is, and its kind. -/
inductive Obstacle (t : Tree) (kind : NodeKind) (path : KeyPath) : String → NodeKind → Prop
  /-- A leaf above the end of the path, the first one on the way. -/
  | leafAbove (above : KeyPath) (segment : String) (rest : KeyPath)
    (hpath : path = above ++ segment :: rest) (hrest : rest ≠ [])
    (hleaf : t.IsLeaf (above ++ [segment])) (hfirst : ∀ q, q <+: above → ¬t.IsLeaf q) :
    Obstacle t kind path segment .phrase
  /-- A node of the other kind at the end of the path. -/
  | otherKind (above : KeyPath) (segment : String) (node : Node) (hpath : path = above ++ [segment])
    (hnode : t.get? path = some node) (hkind : node.kind ≠ kind) :
    Obstacle t kind path segment node.kind

/-- An obstacle in a subtree is one on the longer way through it. -/
theorem Obstacle.below {key : String} {children : Tree}
    (hfind : t.find? key = some (.subtree children)) (h : children.Obstacle kind path segment found) :
    t.Obstacle kind (key :: path) segment found := by
  cases h with
  | leafAbove above segment rest hpath hrest hleaf hfirst =>
    refine .leafAbove (key :: above) segment rest ?_ hrest ((isLeaf_cons_iff hfind).mpr hleaf) ?_
    · rw [hpath, List.cons_append]
    · intro q hpre hq
      obtain ⟨k, q, rfl⟩ := List.exists_cons_of_ne_nil hq.ne_nil
      obtain ⟨rfl, hbelow⟩ := List.cons_prefix_cons.mp hpre
      exact hfirst q hbelow ((isLeaf_cons_iff hfind).mp hq)
  | otherKind above segment node hpath hnode hkind =>
    have hne : path ≠ [] := by simp [hpath]
    refine .otherKind (key :: above) segment node ?_ ?_ hkind
    · rw [hpath, List.cons_append]
    · rw [get?_cons_of_subtree hfind hne, hnode]

theorem obstacle_of_collision? (h : t.collision? kind path = some (segment, found)) :
    t.Obstacle kind path segment found := by
  induction path generalizing t with
  | nil => cases h
  | cons key path ih =>
    cases path with
    | nil =>
      rw [collision?] at h
      cases hfind : t.find? key with
      | none => simp [hfind] at h
      | some node =>
        rw [hfind] at h
        by_cases hkind : node.kind = kind
        · simp [hkind] at h
        · obtain ⟨rfl, rfl⟩ : key = segment ∧ node.kind = found := by simpa [hkind] using h
          exact .otherKind [] key node rfl hfind hkind
    | cons k path =>
      rw [collision?_cons_cons] at h
      cases hfind : t.find? key with
      | none => simp [hfind] at h
      | some node =>
        rw [hfind] at h
        cases node with
        | leaf value =>
          cases h
          refine .leafAbove [] segment (k :: path) rfl (by simp) ?_ fun q hpre hq => ?_
          · exact isLeaf_iff_get?.mpr ⟨value, hfind⟩
          · exact hq.ne_nil (List.prefix_nil.mp hpre)
        | subtree children => exact (ih h).below hfind

/-- Subtrees on the way let a write pass on to what is below them. -/
theorem collision?_append {above rest : KeyPath} {children : Tree} (hrest : rest ≠ [])
    (h : t.get? above = some (.subtree children)) :
    t.collision? kind (above ++ rest) = children.collision? kind rest := by
  induction above generalizing t with
  | nil => cases h
  | cons key above ih =>
    obtain ⟨next, rest, rfl⟩ := List.exists_cons_of_ne_nil hrest
    cases above with
    | nil =>
      have hfind : t.find? key = some (.subtree children) := h
      rw [List.singleton_append, collision?_cons_cons, hfind]
    | cons k above =>
      rw [get?_cons_cons] at h
      obtain ⟨node, hfind, h⟩ := Option.bind_eq_some_iff.mp h
      rw [List.cons_append, List.cons_append, collision?_cons_cons, hfind]
      cases node with
      | leaf value => cases h
      | subtree children => exact ih h

/-- What is at the end of a path is found in the last subtree on the way. -/
theorem exists_parent (kind : NodeKind) {above : KeyPath} {node : Node}
    (h : t.get? (above ++ [segment]) = some node) :
    ∃ parent : Tree, parent.find? segment = some node ∧
      ∀ rest, t.collision? kind (above ++ segment :: rest) =
        parent.collision? kind (segment :: rest) := by
  by_cases habove : above = []
  · subst habove
    exact ⟨t, h, fun rest => rfl⟩
  · have hne : above ≠ above ++ [segment] := by simp
    obtain ⟨parent, hparent⟩ := exists_subtree_above h habove (List.prefix_append above [segment]) hne
    rw [get?_append (by simp) hparent] at h
    exact ⟨parent, h, fun rest => collision?_append (by simp) hparent⟩

theorem collision?_eq_some_iff :
    t.collision? kind path = some (segment, found) ↔ t.Obstacle kind path segment found := by
  refine ⟨obstacle_of_collision?, ?_⟩
  rintro (⟨above, segment, rest, rfl, hrest, hleaf, -⟩ |
    ⟨above, segment, node, rfl, hnode, hkind⟩)
  · obtain ⟨value, hvalue⟩ := isLeaf_iff_get?.mp hleaf
    obtain ⟨parent, hfind, hpass⟩ := exists_parent kind hvalue
    obtain ⟨next, rest, rfl⟩ := List.exists_cons_of_ne_nil hrest
    rw [hpass, collision?_cons_cons, hfind]
  · obtain ⟨parent, hfind, hpass⟩ := exists_parent kind hnode
    rw [hpass, collision?, hfind]
    simp [hkind]

theorem set_eq_error_iff {node : Node} {cause : PathError} :
    t.set path node = .error cause ↔
      path = [] ∧ cause = .emptyPath ∨
        ∃ segment found, t.Obstacle node.kind path segment found ∧
          cause = .collision path segment found := by
  by_cases hpath : path = []
  · subst hpath
    have hnone : ¬∃ segment found, t.Obstacle node.kind [] segment found ∧
        cause = .collision [] segment found := by
      rintro ⟨segment, found, hobstacle, -⟩
      rw [← collision?_eq_some_iff] at hobstacle
      cases hobstacle
    simp [set, hnone, eq_comm]
  · simp only [← collision?_eq_some_iff, hpath, false_and, false_or]
    cases hcollision : t.collision? node.kind path with
    | none => simp [set_of_free hpath hcollision]
    | some blocked =>
      obtain ⟨segment, found⟩ := blocked
      simp [set_of_collision hcollision, eq_comm]

/-- A leaf stands in the way wherever it is, and then it is the first one. -/
theorem obstacle_of_isLeaf {q : KeyPath} (hq : t.IsLeaf q) (hpre : q <+: path) (hne : q ≠ path) :
    ∃ segment, t.Obstacle kind path segment .phrase := by
  obtain ⟨rest, rfl⟩ := hpre
  obtain ⟨above, segment, rfl⟩ := q.eq_nil_or_concat'.resolve_left hq.ne_nil
  have hrest : rest ≠ [] := by
    rintro rfl
    exact hne (List.append_nil _).symm
  refine ⟨segment, .leafAbove above segment rest (by simp) hrest hq ?_⟩
  intro q' hpre hq'
  have hsame := hq'.eq_of_prefix hq (hpre.trans (List.prefix_append above [segment]))
  have hlength := hpre.length_le
  rw [hsame, List.length_append, List.length_singleton] at hlength
  omega

theorem exists_obstacle_iff :
    (∃ segment found, t.Obstacle kind path segment found) ↔
      (∃ q, q <+: path ∧ q ≠ path ∧ t.IsLeaf q) ∨
        ∃ node, t.get? path = some node ∧ node.kind ≠ kind := by
  constructor
  · rintro ⟨segment, _, ⟨above, _, rest, rfl, hrest, hleaf, -⟩ | ⟨above, _, node, rfl, hnode, hkind⟩⟩
    · refine .inl ⟨above ++ [segment], ⟨rest, by simp⟩, ?_, hleaf⟩
      intro heq
      exact hrest (by simpa using heq)
    · exact .inr ⟨node, hnode, hkind⟩
  · rintro (⟨q, hpre, hne, hq⟩ | ⟨node, hnode, hkind⟩)
    · obtain ⟨segment, hobstacle⟩ := obstacle_of_isLeaf hq hpre hne
      exact ⟨segment, .phrase, hobstacle⟩
    · obtain ⟨above, segment, rfl⟩ := path.eq_nil_or_concat'.resolve_left (ne_nil_of_get? hnode)
      exact ⟨segment, node.kind, .otherKind above segment node rfl hnode hkind⟩

/-- A write in place fails exactly if its path is empty, leads through a leaf or ends at a node of
the other kind, text and plural both being leaves. The error names the first obstacle, and the tree
after it is the tree before. -/
theorem store_fails_iff_obstacle (t : Tree) (path : KeyPath) (node : Node) :
    ((∃ cause after, t.store path node = (.error cause, after)) ↔
        path = [] ∨ (∃ q, q <+: path ∧ q ≠ path ∧ t.IsLeaf q) ∨
          ∃ found, t.get? path = some found ∧ found.kind ≠ node.kind) ∧
      ∀ cause after, t.store path node = (.error cause, after) ↔
        (path = [] ∧ cause = .emptyPath ∨
            ∃ segment found, t.Obstacle node.kind path segment found ∧
              cause = .collision path segment found) ∧
          after = t := by
  have hcause (cause : PathError) (after : Tree) :
      t.store path node = (.error cause, after) ↔
        (path = [] ∧ cause = .emptyPath ∨
            ∃ segment found, t.Obstacle node.kind path segment found ∧
              cause = .collision path segment found) ∧
          after = t := by
    rw [store_eq_error_iff, set_eq_error_iff]
  refine ⟨?_, hcause⟩
  simp only [hcause]
  rw [← exists_obstacle_iff]
  constructor
  · rintro ⟨cause, _, ⟨hpath, -⟩ | ⟨segment, found, hobstacle, -⟩, -⟩
    · exact .inl hpath
    · exact .inr ⟨segment, found, hobstacle⟩
  · rintro (hpath | ⟨segment, found, hobstacle⟩)
    · exact ⟨.emptyPath, t, .inl ⟨hpath, rfl⟩, rfl⟩
    · exact ⟨.collision path segment found, t, .inr ⟨segment, found, hobstacle, rfl⟩, rfl⟩

/-- A text two levels above the end of the path is named, and nothing is created below it. -/
example :
    let t : Tree := .branch "a" (.leaf "b" (.text "1") .nil) .nil
    t.store ["a", "b", "c", "d"] (.text "2") =
      (.error (.collision ["a", "b", "c", "d"] "b" .phrase), t) := by
  decide

end Phrasebook.Tree
