import Phrasebook.PhraseFile
import Phrasebook.Proofs.Tree.Encoding

/-!
Trees and their files. The trees that come back unchanged from what is written for them are exactly
those that reading any file can give.
-/
namespace Phrasebook
namespace Tree

theorem parse_eq_ok_iff {content : String} {t : Tree} :
    parse content = .ok t ↔
      ∃ value, Json.parse content.toList = .ok value ∧ ofJson value = .ok t := by
  rw [parse]
  cases Json.parse content.toList with
  | error fault => simp
  | ok value =>
    cases hread : ofJson value with
    | error e => simp [hread]
    | ok read => simp [hread]

/-- What is read from a file, whatever its text. -/
theorem decoded_of_parse {content : String} {t : Tree} (h : parse content = .ok t) :
    t.WellFormed ∧ t.Unambiguous ∧ t.nesting ≤ 127 := by
  obtain ⟨value, hvalue, hread⟩ := parse_eq_ok_iff.mp h
  obtain ⟨hkeys, hnesting⟩ := Json.within_of_parse hvalue
  obtain ⟨hwf, hunamb, rfl⟩ := decoded_of_ofJson hkeys hread
  rw [nesting_toJson, Json.depthLimit] at hnesting
  exact ⟨hwf, hunamb, by omega⟩

/-- What becomes of a tree that is written and read again. -/
theorem parse_print_append_iff {t read : Tree} (h : t.WellFormed) (layout : Json.Layout)
    {blanks : String} (hblanks : Json.skipBlanks blanks.toList = []) :
    parse (t.toJson.print layout ++ blanks) = .ok read ↔
      t.nesting ≤ 127 ∧ t.Legible ∧ t.reread = read := by
  rw [parse_eq_ok_iff, ← ofJson_toJson h, ← t.nesting_toJson, String.toList_append]
  rcases Json.parse_print_append (textual_toJson h) layout hblanks with
    ⟨hn, hread⟩ | ⟨hn, fault, hread, -⟩
  · simp [hread, show t.toJson.nesting ≤ 127 from Nat.le_of_lt_succ hn]
  · simp [hread, show ¬t.toJson.nesting ≤ 127 from Nat.not_le.mpr hn]

theorem parse_render {t read : Tree} (h : t.WellFormed) :
    parse t.render = .ok read ↔ t.nesting ≤ 127 ∧ t.Legible ∧ t.reread = read :=
  parse_print_append_iff h (.indented 4) (by decide)

theorem parse_compact {t read : Tree} (h : t.WellFormed) :
    parse t.toJson.compact = .ok read ↔ t.nesting ≤ 127 ∧ t.Legible ∧ t.reread = read := by
  have hblanks : Json.skipBlanks "".toList = [] := rfl
  simpa [Json.Value.compact] using parse_print_append_iff h .compact hblanks

theorem render_injective {s t : Tree} (hs : s.WellFormed) (ht : t.WellFormed)
    (h : s.render = t.render) : s.toJson = t.toJson := by
  apply Json.print_injective (textual_toJson hs) (textual_toJson ht) (.indented 4)
  simpa [render] using h

end Tree

theorem PhraseFile.parse_eq_ok_iff {path content : String} {file : PhraseFile} :
    parse path content = .ok file ↔
      ∃ t, Tree.parse content = .ok t ∧ (⟨path, content, t⟩ : PhraseFile) = file := by
  rw [parse]
  cases Tree.parse content <;> simp

/-- A tree comes back from its file and from its compact form exactly when no subtree passes for a
plural and containers are not nested too deep; and every tree read from a file is of that kind. -/
theorem reads_back_iff :
    (∀ t : Tree, t.WellFormed → ∀ path,
      (PhraseFile.parse path t.render = .ok ⟨path, t.render, t⟩ ↔
          t.Unambiguous ∧ t.nesting ≤ 127) ∧
        (Tree.parse t.toJson.compact = .ok t ↔ t.Unambiguous ∧ t.nesting ≤ 127)) ∧
    ∀ path content file, PhraseFile.parse path content = .ok file →
      file.tree.WellFormed ∧ file.tree.Unambiguous ∧ file.tree.nesting ≤ 127 ∧
        PhraseFile.parse path file.tree.render = .ok ⟨path, file.tree.render, file.tree⟩ ∧
        Tree.parse file.tree.toJson.compact = .ok file.tree := by
  have hback (t : Tree) : t.nesting ≤ 127 ∧ t.Legible ∧ t.reread = t ↔
      t.Unambiguous ∧ t.nesting ≤ 127 := by
    rw [Tree.reread_eq_self_iff]
    exact ⟨fun h => ⟨h.2.2, h.1⟩, fun h => ⟨h.2, h.1.legible, h.1⟩⟩
  have hfile (t : Tree) (h : t.WellFormed) (path : String) :
      PhraseFile.parse path t.render = .ok ⟨path, t.render, t⟩ ↔
        t.Unambiguous ∧ t.nesting ≤ 127 := by
    rw [PhraseFile.parse_eq_ok_iff, ← hback, ← Tree.parse_render h]
    simp
  have hcompact (t : Tree) (h : t.WellFormed) :
      Tree.parse t.toJson.compact = .ok t ↔ t.Unambiguous ∧ t.nesting ≤ 127 := by
    rw [Tree.parse_compact h, hback]
  refine ⟨fun t h path => ⟨hfile t h path, hcompact t h⟩, ?_⟩
  intro path content file hread
  obtain ⟨t, ht, rfl⟩ := PhraseFile.parse_eq_ok_iff.mp hread
  obtain ⟨hwf, hunamb, hnesting⟩ := Tree.decoded_of_parse ht
  exact ⟨hwf, hunamb, hnesting, (hfile t hwf path).mpr ⟨hunamb, hnesting⟩,
    (hcompact t hwf).mpr ⟨hunamb, hnesting⟩⟩

/-- A plural with extra forms beside an empty subtree, under keys that need escapes. -/
theorem plural_reads_back :
    let t : Tree := .leaf "\u00e9\"\x07" (.plural ⟨[("few", "\n"), ("other", "")]⟩)
      (.branch "menu" .nil .nil)
    t.WellFormed ∧ PhraseFile.parse "fr.json" t.render = .ok ⟨"fr.json", t.render, t⟩ ∧
      Tree.parse t.toJson.compact = .ok t := by
  intro t
  have hwf : t.WellFormed := by
    simp [t, Tree.WellFormed, Phrase.WellFormed, Plural.WellFormed, Assoc.Unique, Plural.otherForm]
  have hgood : t.Unambiguous ∧ t.nesting ≤ 127 := by
    simp [t, Tree.Unambiguous, Tree.nesting, Phrase.nesting, Plural.otherForm]
  have hfile := (reads_back_iff.1 t hwf "fr.json").1.mpr hgood
  exact ⟨hwf, hfile, (reads_back_iff.2 "fr.json" t.render _ hfile).2.2.2.2⟩

end Phrasebook
