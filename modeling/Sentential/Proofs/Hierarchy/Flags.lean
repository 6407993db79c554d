import Sentential.Proofs.Hierarchy.Scan

namespace Sentential

namespace Form

theorem nonterminals_eq_nil_iff {f : Form} : f.nonterminals = [] ↔ f.Finished := by
  simp [nonterminals, Finished, List.filter_eq_nil_iff]

@[simp] theorem nonterminals_append (f f' : Form) :
    (f ++ f').nonterminals = f.nonterminals ++ f'.nonterminals := List.filter_append ..

@[simp] theorem nonterminals_reverse (f : Form) :
    nonterminals f.reverse = f.nonterminals.reverse := List.filter_reverse ..

theorem finished_reverse_iff {f : Form} : Finished f.reverse ↔ f.Finished := by simp [Finished]

theorem nonterminals_singleton {x : Char} (hx : isNonterminal x) :
    nonterminals [x] = [x] := by simp [nonterminals, hx]

theorem finished_of_append {f f' : Form} (h : (f ++ f').nonterminals.length ≤ 1)
    (hf' : f'.nonterminals ≠ []) : f.Finished := by
  rw [nonterminals_append, List.length_append] at h
  have hpos := List.length_pos_iff.mpr hf'
  exact nonterminals_eq_nil_iff.mp (List.length_eq_zero_iff.mp (by omega))

end Form

namespace Rule

theorem hasSingleLeft_iff {rule : Rule} :
    rule.hasSingleLeft = true ↔ ∃ x, isNonterminal x ∧ rule.left = [x] := by
  unfold hasSingleLeft
  constructor
  · intro h
    simp only [Bool.and_eq_true, beq_iff_eq, List.all_eq_true] at h
    obtain ⟨x, hx⟩ := List.length_eq_one_iff.mp h.1
    exact ⟨x, h.2 x (by simp [hx]), hx⟩
  · intro h
    obtain ⟨x, hx, hl⟩ := h
    simp [hl, hx]

theorem isStartEpsilon_iff {start : Char} {rule : Rule} :
    rule.isStartEpsilon start = true ↔ rule = Listing.vanishing start := by
  obtain ⟨left, right⟩ := rule
  simp [isStartEpsilon, Listing.vanishing, and_comm]

theorem rightLinear_iff (rule : Rule) :
    (rule.right.nonterminals.length ≤ 1 ∧ rule.fitsRightLinear = true) ↔
      ∃ w : Form, w.Finished ∧
        (rule.right = w ∨ ∃ x, isNonterminal x ∧ rule.right = w ++ [x]) := by
  simp only [fitsRightLinear, Bool.or_eq_true, bne_iff_ne, ne_eq]
  constructor
  · intro h
    obtain ⟨hle, hfit⟩ := h
    by_cases hone : rule.right.nonterminals.length = 1
    · -- the one nonterminal is the last character, so the rest is finished
      have hlast := hfit.resolve_left (not_not_intro hone)
      obtain ⟨x, hl, hx⟩ := (Option.any_eq_true _ _).mp hlast
      obtain ⟨w, hw⟩ := List.getLast?_eq_some_iff.mp hl
      rw [hw] at hle
      have hne : Form.nonterminals [x] ≠ [] := by simp [Form.nonterminals_singleton hx]
      exact ⟨w, Form.finished_of_append hle hne, .inr ⟨x, hx, hw⟩⟩
    · have hzero : rule.right.nonterminals.length = 0 := by omega
      have hfin := Form.nonterminals_eq_nil_iff.mp (List.length_eq_zero_iff.mp hzero)
      exact ⟨rule.right, hfin, .inl rfl⟩
  · intro h
    obtain ⟨w, hw, hr | ⟨x, hx, hr⟩⟩ := h
    · simp [hr, Form.nonterminals_eq_nil_iff.mpr hw]
    · simp [hr, Form.nonterminals_eq_nil_iff.mpr hw, Form.nonterminals_singleton hx, hx]

/-- Read backwards, the two linear forms are the same. -/
theorem leftLinear_iff (rule : Rule) :
    (rule.right.nonterminals.length ≤ 1 ∧ rule.fitsLeftLinear = true) ↔
      ∃ w : Form, w.Finished ∧
        (rule.right = w ∨ ∃ x, isNonterminal x ∧ rule.right = x :: w) := by
  have h := rightLinear_iff ⟨rule.left, rule.right.reverse⟩
  have hfit : (Rule.mk rule.left rule.right.reverse).fitsRightLinear = rule.fitsLeftLinear := by
    simp [fitsRightLinear, fitsLeftLinear]
  rw [hfit, Form.nonterminals_reverse, List.length_reverse] at h
  rw [h]
  constructor
  · intro h
    obtain ⟨w, hw, hr⟩ := h
    refine ⟨w.reverse, Form.finished_reverse_iff.mpr hw, ?_⟩
    rcases hr with hr | ⟨x, hx, hr⟩
    · exact .inl (List.reverse_eq_iff.mp hr)
    · exact .inr ⟨x, hx, by simpa using List.reverse_eq_iff.mp hr⟩
  · intro h
    obtain ⟨w, hw, hr⟩ := h
    refine ⟨w.reverse, Form.finished_reverse_iff.mpr hw, ?_⟩
    rcases hr with hr | ⟨x, hx, hr⟩
    · exact .inl (congrArg List.reverse hr)
    · exact .inr ⟨x, hx, by simp [hr]⟩

end Rule

namespace Flags

variable {f : Flags}

theorem grammarType_of_regularCandidate (h : f.regularCandidate = true) :
    f.grammarType = .regular := if_pos h

theorem contextFree_le_grammarType (h : f.contextFree = true) :
    .contextFree ≤ f.grammarType := by
  rw [grammarType, if_pos h]
  split <;> decide

theorem contextSensitive_le_grammarType (h : f.contextSensitive = true) :
    .contextSensitive ≤ f.grammarType := by
  rw [grammarType, if_pos h]
  split
  · decide
  · split <;> decide

theorem contextFree_le_grammarType_iff (h : f.regularCandidate = true → f.contextFree = true) :
    .contextFree ≤ f.grammarType ↔ f.contextFree = true := by
  refine ⟨fun hle => ?_, contextFree_le_grammarType⟩
  refine Decidable.byContradiction fun hcf => ?_
  rw [grammarType, if_neg (mt h hcf), if_neg hcf] at hle
  split at hle <;> exact absurd hle (by decide)

end Flags

/-- The type names the most restricted flag, given that regular grammars count as context-free. -/
theorem Flags.grammarType_iff (f : Flags)
    (h : f.regularCandidate = true → f.contextFree = true) :
    (f.grammarType = .regular ↔ f.regularCandidate = true) ∧
    (f.grammarType = .contextFree ↔ f.contextFree = true ∧ ¬ f.regularCandidate = true) ∧
    (f.grammarType = .contextSensitive ↔ f.contextSensitive = true ∧ ¬ f.contextFree = true) ∧
    (f.grammarType = .unrestricted ↔
      ¬ f.contextFree = true ∧ ¬ f.contextSensitive = true) := by
  obtain ⟨regular, _, _, contextFree, contextSensitive⟩ := f
  cases regular <;> cases contextFree <;> cases contextSensitive <;> simp_all [grammarType]

namespace Scan

open Listing

variable (start : Char) (lines : List Text)

theorem contextFree_iff :
    (ofLines start lines).flags.contextFree = true ↔
      WellFormed lines ∧ ∀ rule ∈ rules lines, rule.hasSingleLeft = true :=
  strict_iff (fun s => s.flags.contextFree) rfl (fun _ _ => rfl) rfl lines

theorem regularCandidate_iff :
    (ofLines start lines).flags.regularCandidate = true ↔
      WellFormed lines ∧ ∀ rule ∈ rules lines, rule.right.nonterminals.length ≤ 1 := by
  rw [strict_iff (fun s => s.flags.regularCandidate) rfl (fun _ _ => rfl) rfl lines]
  simp only [ofRule, decide_eq_true_eq]

theorem contextSensitive_iff :
    (ofLines start lines).flags.contextSensitive = true ↔
      WellFormed lines ∧ ∀ rule ∈ rules lines,
        rule = vanishing start ∨ rule.left.length ≤ rule.right.length := by
  rw [strict_iff (fun s => s.flags.contextSensitive) rfl (fun _ _ => rfl) rfl lines]
  simp only [ofRule, Bool.or_eq_true, decide_eq_true_eq, Rule.isStartEpsilon_iff]

theorem rightLinear_iff :
    (ofLines start lines).flags.rightLinear = true ↔
      ∀ rule ∈ rules lines, rule.fitsRightLinear = true :=
  lenient_iff (fun s => s.flags.rightLinear) rfl (fun _ _ => rfl) rfl lines

theorem leftLinear_iff :
    (ofLines start lines).flags.leftLinear = true ↔
      ∀ rule ∈ rules lines, rule.fitsLeftLinear = true :=
  lenient_iff (fun s => s.flags.leftLinear) rfl (fun _ _ => rfl) rfl lines

theorem startEpsilon_iff :
    (ofLines start lines).startEpsilon = true ↔ vanishing start ∈ rules lines := by
  rw [shown_iff (fun s => s.startEpsilon) rfl (fun _ _ => rfl) rfl lines]
  simp only [ofRule, Rule.isStartEpsilon_iff, exists_eq_right]

theorem startOnRight_iff :
    (ofLines start lines).startOnRight = true ↔ ∃ rule ∈ rules lines, start ∈ rule.right := by
  rw [shown_iff (fun s => s.startOnRight) rfl (fun _ _ => rfl) rfl lines]
  simp only [ofRule, List.contains_iff_mem]

end Scan

namespace Classification

open Listing

variable (start : Char) (lines : List Text)

theorem flags_contextFree_iff :
    (classify start lines).flags.contextFree = true ↔ ContextFree lines := by
  change (Scan.ofLines start lines).flags.contextFree = true ↔ _
  rw [Scan.contextFree_iff, ContextFree]
  simp only [Rule.hasSingleLeft_iff]

theorem flags_rightLinear_iff_fits :
    (classify start lines).flags.rightLinear = true ↔
      ∀ rule ∈ rules lines, rule.fitsRightLinear = true := Scan.rightLinear_iff start lines

theorem flags_leftLinear_iff_fits :
    (classify start lines).flags.leftLinear = true ↔
      ∀ rule ∈ rules lines, rule.fitsLeftLinear = true := Scan.leftLinear_iff start lines

/-- A linear form together with the count of nonterminals on the right sides. -/
theorem rightLinear_iff :
    RightLinear lines ↔ ∀ rule ∈ rules lines,
      rule.right.nonterminals.length ≤ 1 ∧ rule.fitsRightLinear = true := by
  simp only [RightLinear, Rule.rightLinear_iff]

theorem leftLinear_iff :
    LeftLinear lines ↔ ∀ rule ∈ rules lines,
      rule.right.nonterminals.length ≤ 1 ∧ rule.fitsLeftLinear = true := by
  simp only [LeftLinear, Rule.leftLinear_iff]

theorem flags_regularCandidate_iff :
    (classify start lines).flags.regularCandidate = true ↔ Regular lines := by
  let s := Scan.ofLines start lines
  change (s.flags.regularCandidate && s.flags.contextFree &&
    (s.flags.rightLinear || s.flags.leftLinear)) = true ↔ _
  have hcf : s.flags.contextFree = true ↔ ContextFree lines := flags_contextFree_iff start lines
  rw [Bool.and_eq_true, Bool.and_eq_true, Bool.or_eq_true, hcf, Scan.regularCandidate_iff,
    Scan.rightLinear_iff, Scan.leftLinear_iff, Regular, rightLinear_iff, leftLinear_iff]
  -- the scan has one flag for the count of nonterminals, which is a part of either linear form
  constructor
  · intro h
    obtain ⟨⟨⟨-, hcount⟩, hcf⟩, hr | hl⟩ := h
    · exact ⟨hcf, .inl fun rule hm => ⟨hcount rule hm, hr rule hm⟩⟩
    · exact ⟨hcf, .inr fun rule hm => ⟨hcount rule hm, hl rule hm⟩⟩
  · intro h
    obtain ⟨hcf, hr | hl⟩ := h
    · exact ⟨⟨⟨hcf.1, fun rule hm => (hr rule hm).1⟩, hcf⟩, .inl fun rule hm => (hr rule hm).2⟩
    · exact ⟨⟨⟨hcf.1, fun rule hm => (hl rule hm).1⟩, hcf⟩, .inr fun rule hm => (hl rule hm).2⟩

theorem flags_contextFree_of_regularCandidate
    (h : (classify start lines).flags.regularCandidate = true) :
    (classify start lines).flags.contextFree = true :=
  (flags_contextFree_iff start lines).mpr ((flags_regularCandidate_iff start lines).mp h).1

theorem flags_contextSensitive_iff :
    (classify start lines).flags.contextSensitive = true ↔ ContextSensitive start lines := by
  let s := Scan.ofLines start lines
  change (s.flags.contextSensitive && !(s.startEpsilon && s.startOnRight)) = true ↔ _
  have hve : (!(s.startEpsilon && s.startOnRight)) = true ↔
      (vanishing start ∈ rules lines → ∀ rule ∈ rules lines, start ∉ rule.right) := by
    rw [Bool.not_eq_true', ← Bool.not_eq_true, Bool.and_eq_true, Scan.startEpsilon_iff,
      Scan.startOnRight_iff]
    simp only [not_and, not_exists]
  rw [Bool.and_eq_true, hve, Scan.contextSensitive_iff, ContextSensitive, and_assoc]
  simp only [or_comm]

/-- The flags and the type of a classification are those of the hierarchy. -/
theorem classify_iff_hierarchy :
    ((classify start lines).flags.contextFree = true ↔ ContextFree lines) ∧
    ((classify start lines).flags.regularCandidate = true ↔ Regular lines) ∧
    ((classify start lines).flags.contextSensitive = true ↔ ContextSensitive start lines) ∧
    ((classify start lines).grammarType = .regular ↔ Regular lines) ∧
    ((classify start lines).grammarType = .contextFree ↔ ContextFree lines ∧ ¬ Regular lines) ∧
    ((classify start lines).grammarType = .contextSensitive ↔
      ContextSensitive start lines ∧ ¬ ContextFree lines) ∧
    ((classify start lines).grammarType = .unrestricted ↔
      ¬ ContextFree lines ∧ ¬ ContextSensitive start lines) := by
  have hcf := flags_contextFree_iff start lines
  have hreg := flags_regularCandidate_iff start lines
  have hcs := flags_contextSensitive_iff start lines
  have htype := (classify start lines).flags.grammarType_iff fun h => hcf.mpr (hreg.mp h).1
  rw [hcf, hreg, hcs] at htype
  exact ⟨hcf, hreg, hcs, htype⟩

end Classification

end Sentential
