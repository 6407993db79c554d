import Mathlib.Data.List.Induction
import Sentential.Hierarchy.Classification
import Sentential.Hierarchy.Requirements
import Sentential.Proofs.Rule

namespace Sentential

namespace Listing

theorem exists_parse?_iff {line : Text} :
    (∃ rule, Rule.parse? line = some rule) ↔
      ∃ left right, Rule.sides? line = some (left, right) ∧ left ≠ [] := by
  constructor
  · intro h
    obtain ⟨rule, hp⟩ := h
    obtain ⟨right, hs, hne, -⟩ := Rule.parse?_eq_some_iff.mp hp
    exact ⟨rule.left, right, hs, hne⟩
  · intro h
    obtain ⟨left, right, hs, hne⟩ := h
    exact ⟨⟨left, Rule.readRight right⟩, Rule.parse?_eq_some_iff.mpr ⟨right, hs, hne, rfl⟩⟩

theorem wellFormed_iff {lines : List Text} :
    WellFormed lines ↔ ∀ line ∈ lines, ∃ rule, Rule.parse? line = some rule := by
  simp only [WellFormed, exists_parse?_iff]

theorem mem_rules_iff {lines : List Text} {rule : Rule} :
    rule ∈ rules lines ↔ ∃ line ∈ lines, Rule.parse? line = some rule := List.mem_filterMap

end Listing

namespace Scan

open Listing

variable {start : Char}

theorem ofLines_concat (start : Char) (lines : List Text) (line : Text) :
    ofLines start (lines ++ [line]) = (ofLines start lines).join (ofLine start line) :=
  List.foldl_append ..

theorem ofLines_all (field : Scan → Bool) (hi : field initial = true)
    (hj : ∀ a b : Scan, field (a.join b) = (field a && field b)) (lines : List Text) :
    field (ofLines start lines) = lines.all fun line => field (ofLine start line) := by
  induction lines using List.reverseRecOn with
  | nil => exact hi
  | append_singleton lines line ih =>
    rw [ofLines_concat, hj, ih, List.all_append, List.all_cons, List.all_nil, Bool.and_true]

theorem ofLine_of_parse? {line : Text} {rule : Rule} (h : Rule.parse? line = some rule) :
    ofLine start line = ofRule start rule := by rw [ofLine, h]

theorem ofLine_of_parse?_none {line : Text} (h : Rule.parse? line = none) :
    ofLine start line = malformed := by rw [ofLine, h]

/-- A verdict that no malformed line supports stands if all lines are rules and support it. -/
theorem strict_iff (field : Scan → Bool) (hi : field initial = true)
    (hj : ∀ a b : Scan, field (a.join b) = (field a && field b)) (hm : field malformed = false)
    (lines : List Text) :
    field (ofLines start lines) = true ↔
      WellFormed lines ∧ ∀ rule ∈ rules lines, field (ofRule start rule) = true := by
  rw [ofLines_all field hi hj, List.all_eq_true, wellFormed_iff]
  constructor
  · intro h
    refine ⟨fun line hl => ?_, fun rule hr => ?_⟩
    · cases hp : Rule.parse? line with
      | none =>
        have hl := h line hl
        rw [ofLine_of_parse?_none hp, hm] at hl
        cases hl
      | some rule => exact ⟨rule, rfl⟩
    · obtain ⟨line, hl, hp⟩ := mem_rules_iff.mp hr
      rw [← ofLine_of_parse? hp]
      exact h line hl
  · intro h line hl
    obtain ⟨rule, hp⟩ := h.1 line hl
    rw [ofLine_of_parse? hp]
    exact h.2 rule (mem_rules_iff.mpr ⟨line, hl, hp⟩)

/-- A verdict on which malformed lines say nothing stands if all rules support it. -/
theorem lenient_iff (field : Scan → Bool) (hi : field initial = true)
    (hj : ∀ a b : Scan, field (a.join b) = (field a && field b)) (hm : field malformed = true)
    (lines : List Text) :
    field (ofLines start lines) = true ↔ ∀ rule ∈ rules lines, field (ofRule start rule) = true := by
  rw [ofLines_all field hi hj, List.all_eq_true]
  constructor
  · intro h rule hr
    obtain ⟨line, hl, hp⟩ := mem_rules_iff.mp hr
    rw [← ofLine_of_parse? hp]
    exact h line hl
  · intro h line hl
    cases hp : Rule.parse? line with
    | none => rw [ofLine_of_parse?_none hp, hm]
    | some rule =>
      rw [ofLine_of_parse? hp]
      exact h rule (mem_rules_iff.mpr ⟨line, hl, hp⟩)

/-- A side fact holds if some rule shows it: that it does not hold is a verdict. -/
theorem shown_iff (field : Scan → Bool) (hi : field initial = false)
    (hj : ∀ a b : Scan, field (a.join b) = (field a || field b)) (hm : field malformed = false)
    (lines : List Text) :
    field (ofLines start lines) = true ↔ ∃ rule ∈ rules lines, field (ofRule start rule) = true := by
  have hj' (a b : Scan) : (!field (a.join b)) = (!field a && !field b) := by rw [hj, Bool.not_or]
  have h : (!field (ofLines start lines)) = true ↔
      ∀ rule ∈ rules lines, (!field (ofRule start rule)) = true :=
    lenient_iff (fun s => !field s) (by simp [hi]) hj' (by simp [hm]) lines
  simp only [Bool.not_eq_true'] at h
  rw [← Bool.not_eq_false, h]
  simp only [Classical.not_forall, Bool.not_eq_false, exists_prop]

end Scan

end Sentential
