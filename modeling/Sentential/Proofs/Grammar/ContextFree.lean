import Sentential.Proofs.Grammar.Reports
import Sentential.Proofs.Hierarchy.Flags

namespace Sentential

namespace Listing

theorem contextFree_iff_sides {lines : List Text} :
    ContextFree lines ↔
      ∀ line ∈ lines, ∃ x right, Rule.sides? line = some ([x], right) ∧ isNonterminal x := by
  constructor
  · intro h line hl
    obtain ⟨left, right, hs, hne⟩ := h.1 line hl
    have hp : Rule.parse? line = some ⟨left, Rule.readRight right⟩ :=
      Rule.parse?_eq_some_iff.mpr ⟨right, hs, hne, rfl⟩
    obtain ⟨x, hx, rfl⟩ := h.2 _ (mem_rules_iff.mpr ⟨line, hl, hp⟩)
    exact ⟨x, right, hs, hx⟩
  · intro h
    constructor
    · intro line hl
      obtain ⟨x, right, hs, -⟩ := h line hl
      exact ⟨[x], right, hs, List.cons_ne_nil x []⟩
    · intro rule hm
      obtain ⟨line, hl, hp⟩ := mem_rules_iff.mp hm
      obtain ⟨x, right, hs, hx⟩ := h line hl
      obtain ⟨right', hs', -, -⟩ := Rule.parse?_eq_some_iff.mp hp
      rw [hs] at hs'
      exact ⟨x, hx, (Prod.mk.inj (Option.some.inj hs')).1.symm⟩

end Listing

namespace Classification

theorem contextFree_le_iff (start : Char) (lines : List Text) :
    .contextFree ≤ (classify start lines).grammarType ↔ Listing.ContextFree lines := by
  have hcf := flags_contextFree_of_regularCandidate start lines
  exact (Flags.contextFree_le_grammarType_iff hcf).trans (flags_contextFree_iff start lines)

end Classification

/-- What a line is reported for on its own account, whatever the others are. -/
def Cause.OfLine (cause : Cause) : Prop :=
  cause = .missingArrow ∨ ∃ left, cause = .invalidLeftSide left

theorem Cause.not_ofLine_iff {cause : Cause} :
    ¬ cause.OfLine ↔ cause ≠ .missingArrow ∧ ∀ left, cause ≠ .invalidLeftSide left := by
  simp [OfLine]

namespace Grammar

variable {text : Text} {startOverride : Option Char} {file : FileName}

theorem Faulty.ofLine {line : Text} {cause : Cause} (h : Faulty line cause) : cause.OfLine := by
  cases h with
  | missingArrow hs => exact .inl rfl
  | invalidLeftSide hs hne => exact .inr ⟨_, rfl⟩

theorem UseReports.exists_undefinedNonterminal {lines : List (Nat × Text)} {uses : List Diagnostic}
    (h : UseReports text file lines uses) {d : Diagnostic} (hd : d ∈ uses) :
    ∃ c, d.cause = .undefinedNonterminal c := by
  induction h with
  | nil => exact absurd hd List.not_mem_nil
  | line hg hu hrest ih =>
    obtain hd | hd := List.mem_append.mp hd
    · obtain ⟨c, -, rfl⟩ := List.mem_map.mp hd
      exact ⟨c, rfl⟩
    · exact ih hd

/-- A report is about a line that cannot be read, about a text that has none, or about a symbol without
rules. -/
theorem cause_of_mem_reports {reports : List Diagnostic}
    (h : parse text startOverride file = .error reports) {d : Diagnostic} (hd : d ∈ reports) :
    (∃ number line, (number, line) ∈ Listing.ruleLines text ∧ Faulty line d.cause) ∨
      d.cause = .emptyGrammar ∨ (∃ c, d.cause = .undefinedStart c) ∨
      ∃ c, d.cause = .undefinedNonterminal c := by
  have ha : Answers text startOverride file (.error reports) := h ▸ answers_parse ..
  cases ha with
  | faulty hm hf hreports =>
    obtain ⟨number, line, hm, hf, -⟩ := (hreports.mem d).mp hd
    exact .inl ⟨number, line, hm, hf⟩
  | empty hnil hs =>
    obtain rfl := List.mem_singleton.mp hd
    exact .inr (.inl rfl)
  | @undefinedStart start uses hs hu hstart =>
    obtain hd | hd := List.mem_append.mp hd
    · exact .inr (.inr (.inr (hu.exists_undefinedNonterminal hd)))
    · obtain rfl := List.mem_singleton.mp hd
      exact .inr (.inr (.inl ⟨start, rfl⟩))
  | undefined hs hu hstart hne => exact .inr (.inr (.inr (hu.exists_undefinedNonterminal hd)))

theorem exists_faulty_of_parse {reports : List Diagnostic}
    (h : parse text startOverride file = .error reports) {d : Diagnostic} (hd : d ∈ reports)
    (hc : d.cause.OfLine) :
    ∃ number line cause, (number, line) ∈ Listing.ruleLines text ∧ Faulty line cause := by
  obtain ⟨number, line, hm, hf⟩ | he | ⟨c, he⟩ | ⟨c, he⟩ := cause_of_mem_reports h hd
  · exact ⟨number, line, d.cause, hm, hf⟩
  all_goals simp [Cause.OfLine, he] at hc

/-- A faulty line is reported, whatever else the text has in it. -/
theorem exists_report_of_faulty (startOverride : Option Char) (file : FileName) {number : Nat}
    {line : Text} {cause : Cause} (hm : (number, line) ∈ Listing.ruleLines text)
    (hf : Faulty line cause) :
    ∃ reports, parse text startOverride file = .error reports ∧ ∃ d ∈ reports, d.cause.OfLine := by
  have hreports := faultReports_filterMap file text
  refine ⟨_, parse_of_answers (.faulty hm hf hreports), ⟨⟨file, number⟩, cause⟩, ?_, hf.ofLine⟩
  exact (hreports.mem _).mpr ⟨number, line, hm, hf, rfl⟩

theorem not_exists_faulty_iff {line : Text} :
    (¬ ∃ cause, Faulty line cause) ↔
      ∃ x right, Rule.sides? line = some ([x], right) ∧ isNonterminal x := by
  simp only [faulty_iff]
  cases hr : readLine line with
  | error cause =>
    simp only [Except.error.injEq, exists_eq', not_true, false_iff]
    intro h
    obtain ⟨x, right, hs, hx⟩ := h
    rw [readLine_eq_ok_iff.mpr ⟨right, hs, hx, rfl⟩] at hr
    cases hr
  | ok rule =>
    obtain ⟨right, hs, hx, -⟩ := readLine_eq_ok_iff.mp hr
    simpa using ⟨rule.1, ⟨right, hs⟩, hx⟩

/-- The bytes of every text are a listing, and it is classified as context-free or regular just when
reading the text as a grammar reports no line without an arrow and no invalid left side. -/
theorem contextFree_le_iff_no_line_report (text : Text) (start : Char)
    (startOverride : Option Char) (file : FileName) :
    ∃ lines, Listing.read text.encode = .ok lines ∧
      (.contextFree ≤ (classify start lines).grammarType ↔
        ∀ reports, parse text startOverride file = .error reports → ∀ d ∈ reports,
          d.cause ≠ .missingArrow ∧ ∀ left, d.cause ≠ .invalidLeftSide left) := by
  refine ⟨_, Listing.read_encode text, ?_⟩
  rw [Classification.contextFree_le_iff, Listing.contextFree_iff_sides, List.forall_mem_map]
  simp only [← Cause.not_ofLine_iff]
  constructor
  · intro hall reports hp d hd hc
    obtain ⟨number, line, cause, hm, hf⟩ := exists_faulty_of_parse hp hd hc
    exact not_exists_faulty_iff.mpr (hall (number, line) hm) ⟨cause, hf⟩
  · intro hno p hm
    refine not_exists_faulty_iff.mp fun h => ?_
    obtain ⟨cause, hf⟩ := h
    obtain ⟨reports, hp, d, hd, hc⟩ := exists_report_of_faulty startOverride file hm hf
    exact hno reports hp d hd hc

end Grammar

end Sentential
