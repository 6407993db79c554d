import Sentential.Grammar.Basic
import Sentential.Proofs.Arrow
import Sentential.Proofs.Text.Lines

namespace Sentential

namespace Form

/-- An alternative that is written as itself: no bar divides it, no blank stands at its ends, and it
is no other name of the empty word. -/
structure Plain (a : Form) : Prop where
  bar : '|' ∉ a
  trimmed : Text.Trimmed a
  name : a ≠ [] → Rule.isEmptyWord a = false

instance : DecidablePred Plain := fun a =>
  decidable_of_iff ('|' ∉ a ∧ Text.Trimmed a ∧ (a ≠ [] → Rule.isEmptyWord a = false))
    ⟨fun h => ⟨h.1, h.2.1, h.2.2⟩, fun h => ⟨h.bar, h.trimmed, h.name⟩⟩

theorem shown_ne_nil (a : Form) : a.shown ≠ [] := by cases a <;> simp [shown]

theorem mem_shown {a : Form} {c : Char} (hc : c ∈ a.shown) : c ∈ a ∨ c = 'ε' := by
  cases a with
  | nil => exact .inr (List.mem_singleton.mp hc)
  | cons b rest => exact .inl hc

theorem trimmed_shown {a : Form} (ha : Text.Trimmed a) : Text.Trimmed a.shown := by
  cases a with
  | nil => exact Text.trimmed_singleton (by decide)
  | cons b rest => exact ha

end Form

namespace Rule

open Form

theorem mem_of_mem_readRight {raw : Text} {c : Char} (hc : c ∈ readRight raw) : c ∈ raw := by
  unfold readRight at hc
  simp only at hc
  split at hc
  · exact absurd hc List.not_mem_nil
  · exact Text.mem_of_mem_trim hc

theorem trimmed_readRight (raw : Text) : Text.Trimmed (readRight raw) := by
  unfold readRight
  simp only
  split
  · exact Text.trimmed_nil
  · exact Text.trimmed_trim raw

theorem isEmptyWord_readRight {raw : Text} (h : readRight raw ≠ []) :
    isEmptyWord (readRight raw) = false := by
  unfold readRight at h ⊢
  simp only at h ⊢
  split
  · next hw => exact absurd (if_pos hw) h
  · next hw => exact eq_false_of_ne_true hw

theorem plain_readRight {raw : Text} (h : '|' ∉ raw) : (readRight raw).Plain :=
  ⟨fun hb => h (mem_of_mem_readRight hb), trimmed_readRight raw, isEmptyWord_readRight⟩

theorem readRight_trim (raw : Text) : readRight raw.trim = readRight raw := by
  unfold readRight
  rw [Text.trim_of_trimmed (Text.trimmed_trim raw)]

theorem readRight_shown {a : Form} (ht : Text.Trimmed a) (hn : a ≠ [] → isEmptyWord a = false) :
    readRight a.shown = a := by
  unfold readRight
  rw [Text.trim_of_trimmed (trimmed_shown ht)]
  cases a with
  | nil => rfl
  | cons b rest =>
    have hw := hn (List.cons_ne_nil b rest)
    exact if_neg (ne_true_of_eq_false hw)

theorem readRight_shown_readRight (raw : Text) : readRight (readRight raw).shown = readRight raw :=
  readRight_shown (trimmed_readRight raw) isEmptyWord_readRight

theorem readRight_blanks {u v : Text} (t : Text) (hu : ∀ c ∈ u, Text.isBlank c)
    (hv : ∀ c ∈ v, Text.isBlank c) : readRight (u ++ t ++ v) = readRight t := by
  unfold readRight
  rw [Text.trim_blanks t hu hv]

theorem readAlternatives_append_bar (r s : Text) :
    readAlternatives (r ++ '|' :: s) = readAlternatives r ++ readAlternatives s := by
  rw [readAlternatives, pieces_append_separator, List.map_append]
  rfl

theorem bar_not_mem_blanks {u : Text} (hu : ∀ c ∈ u, Text.isBlank c) : '|' ∉ u :=
  fun hb => absurd (hu '|' hb) (by decide)

theorem readAlternatives_blanks_append {u : Text} (hu : ∀ c ∈ u, Text.isBlank c) (t : Text) :
    readAlternatives (u ++ t) = readAlternatives t := by
  rw [readAlternatives, pieces_append_of_not_mem (bar_not_mem_blanks hu), readAlternatives]
  -- the blanks stand before the first alternative and are trimmed off with its own
  cases pieces '|' t with
  | nil => rfl
  | cons first rest =>
    have hread := readRight_blanks first hu (v := []) (by simp)
    rw [List.append_nil] at hread
    rw [List.modifyHead_cons, List.map_cons, List.map_cons, hread]

theorem readAlternatives_append_blanks {v : Text} (hv : ∀ c ∈ v, Text.isBlank c) (t : Text) :
    readAlternatives (t ++ v) = readAlternatives t := by
  have hlast {s : Text} (hs : '|' ∉ s) : readAlternatives (s ++ v) = readAlternatives s := by
    have hsv : '|' ∉ s ++ v := List.not_mem_append hs (bar_not_mem_blanks hv)
    rw [readAlternatives, readAlternatives, pieces_of_not_mem hsv, pieces_of_not_mem hs,
      List.map_singleton, List.map_singleton]
    exact congrArg ([·]) (readRight_blanks s (u := []) (by simp) hv)
  by_cases hbar : '|' ∈ t
  · -- the blanks belong to the alternative behind the last bar
    obtain ⟨s, r, ht, hs⟩ := List.eq_append_cons_of_mem (List.mem_reverse.mpr hbar)
    have ht : t = r.reverse ++ '|' :: s.reverse := by
      rw [← List.reverse_reverse t, ht]
      simp
    rw [ht, List.append_assoc, List.cons_append, readAlternatives_append_bar,
      readAlternatives_append_bar, hlast (mt List.mem_reverse.mp hs)]
  · exact hlast hbar

theorem readAlternatives_trim (t : Text) : readAlternatives t.trim = readAlternatives t := by
  obtain ⟨u, v, hu, hv, ht⟩ := Text.exists_blanks_trim_blanks t
  calc readAlternatives t.trim
      = readAlternatives (u ++ t.trim) := (readAlternatives_blanks_append hu _).symm
    _ = readAlternatives (u ++ t.trim ++ v) := (readAlternatives_append_blanks hv _).symm
    _ = readAlternatives t := by rw [← ht]

theorem readAlternatives_ne_nil (right : Text) : readAlternatives right ≠ [] := by
  simp [readAlternatives, pieces_ne_nil]

theorem plain_of_mem_readAlternatives {right : Text} {a : Form} (ha : a ∈ readAlternatives right) :
    a.Plain := by
  obtain ⟨raw, hr, rfl⟩ := List.mem_map.mp ha
  exact plain_readRight (not_mem_of_mem_pieces hr)

theorem mem_of_mem_readAlternatives {right : Text} {a : Form} (ha : a ∈ readAlternatives right)
    {c : Char} (hc : c ∈ a) : c ∈ right := by
  obtain ⟨raw, hr, rfl⟩ := List.mem_map.mp ha
  exact (mem_of_mem_pieces hr (mem_of_mem_readRight hc)).1

theorem bar_not_mem_shown {a : Form} (ha : a.Plain) : '|' ∉ a.shown := by
  intro hb
  rcases mem_shown hb with hb | hb
  · exact ha.bar hb
  · cases hb

theorem readAlternatives_shown {a : Form} (ha : a.Plain) : readAlternatives a.shown = [a] := by
  rw [readAlternatives, pieces_of_not_mem (bar_not_mem_shown ha), List.map_singleton,
    readRight_shown ha.trimmed ha.name]

/-- The blanks around the bars are read with the alternatives and taken off. -/
theorem readAlternatives_print {forms : List Form} (hne : forms ≠ [])
    (hf : ∀ a ∈ forms, a.Plain) : readAlternatives (Grammar.printAlternatives forms) = forms := by
  induction forms with
  | nil => exact absurd rfl hne
  | cons a rest ih =>
    obtain ⟨ha, hrest⟩ := List.forall_mem_cons.mp hf
    cases rest with
    | nil =>
      rw [Grammar.printAlternatives_singleton]
      exact readAlternatives_shown ha
    | cons b rest =>
      have hprint : Grammar.printAlternatives (a :: b :: rest) =
          (a.shown ++ [' ']) ++ '|' :: ([' '] ++ Grammar.printAlternatives (b :: rest)) := by
        simp [Grammar.printAlternatives_cons_cons]
      rw [hprint, readAlternatives_append_bar,
        readAlternatives_append_blanks Text.isBlank_of_mem_space, readAlternatives_shown ha,
        readAlternatives_blanks_append Text.isBlank_of_mem_space,
        ih (List.cons_ne_nil b rest) hrest, List.singleton_append]

/-- One alternative is read from each stretch between the bars, and it is plain. Plain alternatives come
back from the line that prints them. -/
theorem readAlternatives_undoes_printing :
    (∀ right : Text, (∀ a ∈ readAlternatives right, a.Plain) ∧
      (readAlternatives right).length = right.count '|' + 1 ∧
      ∃ stretches : List Text, ['|'].intercalate stretches = right ∧ (∀ t ∈ stretches, '|' ∉ t) ∧
        readAlternatives right = stretches.map readRight) ∧
    ∀ forms : List Form, forms ≠ [] → (∀ a ∈ forms, a.Plain) →
      readAlternatives (Grammar.printAlternatives forms) = forms := by
  refine ⟨fun right => ⟨fun a ha => plain_of_mem_readAlternatives ha, ?_, ?_⟩,
    fun forms hne hf => readAlternatives_print hne hf⟩
  · rw [readAlternatives, List.length_map, length_pieces]
  · exact ⟨pieces '|' right, intercalate_pieces '|' right, fun t ht => not_mem_of_mem_pieces ht, rfl⟩

/-- Blanks and arrows inside an alternative stay, and names of the empty word that are only a part of one
are no names. -/
theorem readAlternatives_undoes_printing_of_names :
    let forms : List Form := [['ε', 'S'], [], ['a', '\u00a0', 'b'], ['-', '>', 'e', 'p', 's'], []]
    forms ≠ [] ∧ (∀ a ∈ forms, a.Plain) ∧
    Grammar.printAlternatives forms = "εS | ε | a\u00a0b | ->eps | ε".toList ∧
    readAlternatives (Grammar.printAlternatives forms) = forms := by
  intro forms
  have hne : forms ≠ [] := List.cons_ne_nil _ _
  have hf : ∀ a ∈ forms, a.Plain := by decide
  exact ⟨hne, hf, by decide, readAlternatives_undoes_printing.2 forms hne hf⟩

theorem parse?_eq_some_iff {line : Text} {rule : Rule} :
    parse? line = some rule ↔
      ∃ right, sides? line = some (rule.left, right) ∧ rule.left ≠ [] ∧
        rule.right = readRight right := by
  obtain ⟨left', right'⟩ := rule
  unfold parse?
  cases hs : sides? line with
  | none => simp
  | some sides =>
    obtain ⟨left, right⟩ := sides
    by_cases hl : left = []
    · subst hl
      simp +contextual [eq_comm]
    · simp only [List.isEmpty_iff, if_neg hl, Option.some.injEq, mk.injEq, Prod.mk.injEq]
      constructor
      · rintro ⟨rfl, rfl⟩
        exact ⟨right, ⟨rfl, rfl⟩, hl, rfl⟩
      · rintro ⟨_, ⟨rfl, rfl⟩, -, rfl⟩
        exact ⟨rfl, rfl⟩

/-- The arrow that is printed is the first one, and what is printed behind it is read as it was. -/
theorem parse?_print_of_parse? {line : Text} {rule : Rule} (h : parse? line = some rule) :
    parse? rule.print = some rule := by
  obtain ⟨right, hs, hne, hr⟩ := parse?_eq_some_iff.mp h
  refine parse?_eq_some_iff.mpr ⟨rule.right.shown.trim, ?_, hne, ?_⟩
  · exact sides?_append_arrow_of_sides? hs .ascii rule.right.shown
  · rw [readRight_trim, hr, readRight_shown_readRight]

end Rule

end Sentential
