import Sentential.Proofs.Hierarchy.Flags

namespace Sentential

namespace Flags

variable {now earlier : Flags}

theorem noMoreThan_iff : now.noMoreThan earlier = true ↔
    (now.regularCandidate = true → earlier.regularCandidate = true) ∧
    (now.rightLinear = true → earlier.rightLinear = true) ∧
    (now.leftLinear = true → earlier.leftLinear = true) ∧
    (now.contextFree = true → earlier.contextFree = true) ∧
    (now.contextSensitive = true → earlier.contextSensitive = true) := by
  simp [noMoreThan, toList, ← Bool.not_eq_true, Decidable.imp_iff_not_or]

theorem eq_of_noMoreThan (h : now.noMoreThan earlier = true)
    (h' : earlier.noMoreThan now = true) : now = earlier := by
  obtain ⟨hreg, hright, hleft, hcf, hcs⟩ := noMoreThan_iff.mp h
  obtain ⟨hreg', hright', hleft', hcf', hcs'⟩ := noMoreThan_iff.mp h'
  obtain ⟨regular, right, left, contextFree, contextSensitive⟩ := now
  congr 1
  · exact Bool.eq_iff_iff.mpr ⟨hreg, hreg'⟩
  · exact Bool.eq_iff_iff.mpr ⟨hright, hright'⟩
  · exact Bool.eq_iff_iff.mpr ⟨hleft, hleft'⟩
  · exact Bool.eq_iff_iff.mpr ⟨hcf, hcf'⟩
  · exact Bool.eq_iff_iff.mpr ⟨hcs, hcs'⟩

/-- The type names the first flag that is set, so it falls with the flags. -/
theorem grammarType_le_of_noMoreThan (h : now.noMoreThan earlier = true) :
    now.grammarType ≤ earlier.grammarType := by
  obtain ⟨hreg, -, -, hcf, hcs⟩ := noMoreThan_iff.mp h
  rw [grammarType.eq_def now]
  split
  · next hr =>
    rw [grammarType_of_regularCandidate (hreg hr)]
    exact Nat.le_refl _
  · split
    · next hf => exact contextFree_le_grammarType (hcf hf)
    · split
      · next hs => exact contextSensitive_le_grammarType (hcs hs)
      · exact Nat.zero_le _

end Flags

namespace Listing

variable {A B : List Text} {start : Char}

theorem rules_subset (h : A ⊆ B) : rules A ⊆ rules B := List.filterMap_subset _ h

theorem WellFormed.of_subset (hB : WellFormed B) (h : A ⊆ B) : WellFormed A :=
  fun line hl => hB line (h hl)

theorem ContextFree.of_subset (hB : ContextFree B) (h : A ⊆ B) : ContextFree A :=
  ⟨hB.1.of_subset h, fun rule hm => hB.2 rule (rules_subset h hm)⟩

theorem RightLinear.of_subset (hB : RightLinear B) (h : A ⊆ B) : RightLinear A :=
  fun rule hm => hB rule (rules_subset h hm)

theorem LeftLinear.of_subset (hB : LeftLinear B) (h : A ⊆ B) : LeftLinear A :=
  fun rule hm => hB rule (rules_subset h hm)

theorem Regular.of_subset (hB : Regular B) (h : A ⊆ B) : Regular A :=
  ⟨hB.1.of_subset h, hB.2.imp (fun hr => hr.of_subset h) (fun hl => hl.of_subset h)⟩

/-- Fewer rules make the start symbol vanish, and fewer right sides have it on them. -/
theorem ContextSensitive.of_subset (hB : ContextSensitive start B) (h : A ⊆ B) :
    ContextSensitive start A := by
  obtain ⟨hw, hlen, hright⟩ := hB
  refine ⟨hw.of_subset h, fun rule hm => hlen rule (rules_subset h hm), ?_⟩
  intro hv rule hm
  exact hright (rules_subset h hv) rule (rules_subset h hm)

end Listing

namespace Classification

open Listing

variable {A B : List Text}

theorem noMoreThan_of_subset (start : Char) (h : A ⊆ B) :
    (classify start B).flags.noMoreThan (classify start A).flags = true := by
  refine Flags.noMoreThan_iff.mpr ⟨?_, ?_, ?_, ?_, ?_⟩
  · rw [flags_regularCandidate_iff, flags_regularCandidate_iff]
    exact fun hB => hB.of_subset h
  · rw [flags_rightLinear_iff_fits, flags_rightLinear_iff_fits]
    exact fun hB rule hm => hB rule (rules_subset h hm)
  · rw [flags_leftLinear_iff_fits, flags_leftLinear_iff_fits]
    exact fun hB rule hm => hB rule (rules_subset h hm)
  · rw [flags_contextFree_iff, flags_contextFree_iff]
    exact fun hB => hB.of_subset h
  · rw [flags_contextSensitive_iff, flags_contextSensitive_iff]
    exact fun hB => hB.of_subset h

/-- The flags and the type depend on the set of the lines alone and can only fall as lines are
added. -/
theorem flags_and_type_of_subset (start : Char) (h : A ⊆ B) :
    (classify start B).flags.noMoreThan (classify start A).flags = true ∧
    (classify start B).grammarType ≤ (classify start A).grammarType ∧
    (B ⊆ A → (classify start B).flags = (classify start A).flags ∧
      (classify start B).grammarType = (classify start A).grammarType) := by
  have hle := noMoreThan_of_subset start h
  refine ⟨hle, Flags.grammarType_le_of_noMoreThan hle, ?_⟩
  intro h'
  have heq := Flags.eq_of_noMoreThan hle (noMoreThan_of_subset start h')
  exact ⟨heq, congrArg Flags.grammarType heq⟩

/-- The lines of a regular listing come in another order and twice, and a rule that is too long for
it comes between them. -/
theorem flags_and_type_of_lengthened_listing :
    let A := ["S -> aB".toList, "B -> b".toList]
    let B := ["B -> b".toList, "S -> SS".toList, "S -> aB".toList, "B -> b".toList]
    A ⊆ B ∧
    (classify 'S' A).grammarType = .regular ∧ (classify 'S' B).grammarType = .contextFree ∧
    (classify 'S' B).flags.noMoreThan (classify 'S' A).flags = true ∧
    (classify 'S' B).grammarType ≤ (classify 'S' A).grammarType ∧
    (B ⊆ A → (classify 'S' B).flags = (classify 'S' A).flags ∧
      (classify 'S' B).grammarType = (classify 'S' A).grammarType) := by
  intro A B
  have h : A ⊆ B := by decide
  have hA : (classify 'S' A).grammarType = .regular := by decide +kernel
  have hB : (classify 'S' B).grammarType = .contextFree := by decide +kernel
  exact ⟨h, hA, hB, flags_and_type_of_subset 'S' h⟩

end Classification

end Sentential
