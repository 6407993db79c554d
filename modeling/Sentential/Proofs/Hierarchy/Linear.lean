import Sentential.Proofs.Hierarchy.Growth

namespace Sentential

namespace Form

theorem finished_dropLast_append {f f' : Form} (hf : f.Finished) (hf' : Finished f'.dropLast) :
    Finished (f ++ f').dropLast := by
  cases f' with
  | nil =>
    rw [List.append_nil]
    exact fun c hc => hf c (List.dropLast_subset f hc)
  | cons c rest =>
    rw [List.dropLast_append_cons]
    exact finished_append_iff.mpr ⟨hf, hf'⟩

theorem eq_nil_of_finished_dropLast {before after : Form} {x : Char} (hx : isNonterminal x)
    (h : Finished (before ++ [x] ++ after).dropLast) : before.Finished ∧ after = [] := by
  cases after with
  | nil =>
    rw [List.append_nil, List.dropLast_concat] at h
    exact ⟨h, rfl⟩
  | cons c rest =>
    rw [List.dropLast_append_cons] at h
    have hx' := h x (by simp)
    rw [hx] at hx'
    cases hx'

end Form

namespace Rule

variable {rules : List Rule} {f f' : Form}

theorem Reaches.preserves {P : Form → Prop} (hstep : ∀ f f', P f → Replaces rules f f' → P f')
    (h : Reaches rules f f') (hf : P f) : P f' := by
  induction h with
  | refl => exact hf
  | step hr _ ih => exact ih (hstep _ _ hf hr)

def mirror (rule : Rule) : Rule := ⟨rule.left.reverse, rule.right.reverse⟩

theorem Replaces.reverse (h : Replaces rules f f') :
    Replaces (rules.map mirror) f.reverse f'.reverse := by
  obtain ⟨rule, hm, before, after, rfl, rfl⟩ := h.exists_rule
  have hs := Replaces.step after.reverse before.reverse (List.mem_map_of_mem hm : mirror rule ∈ _)
  simpa only [mirror, List.reverse_append, List.append_assoc] using hs

theorem Reaches.reverse (h : Reaches rules f f') :
    Reaches (rules.map mirror) f.reverse f'.reverse := by
  induction h with
  | refl f => exact .refl f.reverse
  | step hr _ ih => exact .step hr.reverse ih

/-- Every left side is one nonterminal, and no right side has a nonterminal before its last
character. -/
structure AllRightLinear (rules : List Rule) : Prop where
  left : ∀ rule ∈ rules, ∃ x, isNonterminal x ∧ rule.left = [x]
  right : ∀ rule ∈ rules, Form.Finished rule.right.dropLast

theorem AllRightLinear.step (hl : AllRightLinear rules) (hf : Form.Finished f.dropLast)
    (h : Replaces rules f f') : Form.Finished f'.dropLast := by
  obtain ⟨rule, hm, before, after, rfl, rfl⟩ := h.exists_rule
  obtain ⟨x, hx, hleft⟩ := hl.left rule hm
  rw [hleft] at hf
  -- the symbol that gives way is the last one, so the right side ends the new form
  obtain ⟨hb, rfl⟩ := Form.eq_nil_of_finished_dropLast hx hf
  rw [List.append_nil]
  exact Form.finished_dropLast_append hb (hl.right rule hm)

theorem AllRightLinear.finished_dropLast (hl : AllRightLinear rules) {start : Char}
    (h : Reaches rules [start] f) : Form.Finished f.dropLast :=
  h.preserves (P := fun f => Form.Finished f.dropLast) (fun _ _ hf hr => hl.step hf hr)
    Form.finished_nil

/-- Derivations with mirrored rules are mirrored derivations. -/
theorem AllRightLinear.finished_tail (hl : AllRightLinear (rules.map mirror)) {start : Char}
    (h : Reaches rules [start] f) : Form.Finished f.tail := by
  have hrev : Form.Finished f.reverse.dropLast := hl.finished_dropLast h.reverse
  rw [List.dropLast_reverse] at hrev
  exact Form.finished_reverse_iff.mp hrev

end Rule

namespace Listing

open Rule

variable {lines : List Text}

theorem allRightLinear_rules (hcf : ContextFree lines) (h : RightLinear lines) :
    AllRightLinear (rules lines) := by
  refine ⟨hcf.2, fun rule hm => ?_⟩
  obtain ⟨w, hw, hr | ⟨x, -, hr⟩⟩ := h rule hm
  · rw [hr, ← List.append_nil w]
    exact Form.finished_dropLast_append hw Form.finished_nil
  · rw [hr]
    exact Form.finished_dropLast_append hw Form.finished_nil

theorem allRightLinear_mirror_rules (hcf : ContextFree lines) (h : LeftLinear lines) :
    AllRightLinear ((rules lines).map mirror) := by
  constructor
  · refine List.forall_mem_map.mpr fun rule hm => ?_
    obtain ⟨x, hx, hl⟩ := hcf.2 rule hm
    exact ⟨x, hx, congrArg List.reverse hl⟩
  · refine List.forall_mem_map.mpr fun rule hm => ?_
    change Form.Finished rule.right.reverse.dropLast
    rw [List.dropLast_reverse, Form.finished_reverse_iff]
    obtain ⟨w, hw, hr | ⟨x, -, hr⟩⟩ := h rule hm
    · rw [hr]
      exact fun c hc => hw c (List.mem_of_mem_tail hc)
    · rw [hr]
      exact hw

theorem Regular.length_nonterminals_le_one (h : Regular lines) {rule : Rule}
    (hm : rule ∈ rules lines) : rule.right.nonterminals.length ≤ 1 := by
  obtain ⟨-, hr | hl⟩ := h
  · exact ((Classification.rightLinear_iff lines).mp hr rule hm).1
  · exact ((Classification.leftLinear_iff lines).mp hl rule hm).1

end Listing

namespace Classification

open Listing

variable {start : Char} {lines : List Text}

/-- No right side of a regular listing has two nonterminals, so its flags tell the linear forms. -/
theorem flags_rightLinear_iff (h : Regular lines) :
    (classify start lines).flags.rightLinear = true ↔ RightLinear lines := by
  rw [flags_rightLinear_iff_fits, rightLinear_iff]
  exact forall₂_congr fun rule hm => (and_iff_right (h.length_nonterminals_le_one hm)).symm

theorem flags_leftLinear_iff (h : Regular lines) :
    (classify start lines).flags.leftLinear = true ↔ LeftLinear lines := by
  rw [flags_leftLinear_iff_fits, leftLinear_iff]
  exact forall₂_congr fun rule hm => (and_iff_right (h.length_nonterminals_le_one hm)).symm

theorem regular_of_grammarType (h : (classify start lines).grammarType = .regular) :
    Regular lines := by
  have hcf := flags_contextFree_of_regularCandidate start lines
  exact (flags_regularCandidate_iff start lines).mp ((Flags.grammarType_iff _ hcf).1.mp h)

/-- If a listing is classified as regular, then a linear flag is set. Of the forms in a derivation from
the start symbol, the right-linear flag says that only the last character can be a nonterminal, and
the left-linear flag that only the first can. -/
theorem finished_but_end_of_regular (h : (classify start lines).grammarType = .regular) :
    ((classify start lines).flags.rightLinear = true ∨
      (classify start lines).flags.leftLinear = true) ∧
    ((classify start lines).flags.rightLinear = true →
      ∀ f, Rule.Reaches (rules lines) [start] f → Form.Finished f.dropLast) ∧
    ((classify start lines).flags.leftLinear = true →
      ∀ f, Rule.Reaches (rules lines) [start] f → Form.Finished f.tail) := by
  have hreg := regular_of_grammarType h
  rw [flags_rightLinear_iff hreg, flags_leftLinear_iff hreg]
  refine ⟨hreg.2, ?_, ?_⟩
  · intro hr f hf
    exact (allRightLinear_rules hreg.1 hr).finished_dropLast hf
  · intro hl f hf
    exact (allRightLinear_mirror_rules hreg.1 hl).finished_tail hf

/-- The rules of `S` and `A` keep each other going, and only the right-linear flag stays set. -/
theorem finished_but_end_of_alternating_listing :
    let lines := ["S -> aA".toList, "A→bS".toList, "A -> ε".toList]
    (classify 'S' lines).grammarType = .regular ∧
    (classify 'S' lines).flags.rightLinear = true ∧
    (classify 'S' lines).flags.leftLinear = false ∧
    Rule.Reaches (rules lines) ['S'] "abaA".toList ∧
    Form.Finished "abaA".toList.dropLast := by
  intro lines
  have h : (classify 'S' lines).grammarType = .regular := by decide +kernel
  have hr : (classify 'S' lines).flags.rightLinear = true := by decide +kernel
  have hl : (classify 'S' lines).flags.leftLinear = false := by decide +kernel
  have hS : ⟨['S'], ['a', 'A']⟩ ∈ rules lines := by decide +kernel
  have hA : ⟨['A'], ['b', 'S']⟩ ∈ rules lines := by decide +kernel
  have hf : Rule.Reaches (rules lines) ['S'] "abaA".toList :=
    .step (.step [] [] hS) (.step (.step ['a'] [] hA) (.step (.step ['a', 'b'] [] hS) (.refl _)))
  exact ⟨h, hr, hl, hf, (finished_but_end_of_regular h).2.1 hr _ hf⟩

end Classification

end Sentential
