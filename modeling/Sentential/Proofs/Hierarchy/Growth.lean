import Mathlib.Data.List.Chain
import Sentential.Proofs.Hierarchy.Flags

namespace Sentential

namespace Rule

variable {rules : List Rule} {f f' : Form} {forms : List Form}

theorem Replaces.exists_rule (h : Replaces rules f f') :
    ∃ rule ∈ rules, ∃ before after : Form,
      f = before ++ rule.left ++ after ∧ f' = before ++ rule.right ++ after := by
  obtain ⟨before, after, hm⟩ := h
  exact ⟨_, hm, before, after, rfl, rfl⟩

/-- What every step from a form of one kind relates and keeps within that kind, a derivation relates
form by form. -/
theorem Run.isChain {P : Form → Prop} {R : Form → Form → Prop}
    (hstep : ∀ f f', P f → Replaces rules f f' → P f' ∧ R f f') (h : Run rules f forms) (hf : P f) :
    (f :: forms).IsChain R := by
  induction h with
  | done f => exact .singleton f
  | step hr _ ih =>
    obtain ⟨hf', hR⟩ := hstep _ _ hf hr
    exact .cons_cons hR (ih hf')

theorem Run.eq_nil_of_nil (hl : ∀ rule ∈ rules, rule.left ≠ []) (h : Run rules [] forms) :
    forms = [] := by
  cases h with
  | done => rfl
  | step hr hrest =>
    obtain ⟨rule, hm, before, after, hf, -⟩ := hr.exists_rule
    obtain ⟨hbl, -⟩ := List.append_eq_nil_iff.mp hf.symm
    exact absurd (List.append_eq_nil_iff.mp hbl).2 (hl rule hm)

theorem Replaces.exists_rule_of_singleton (hl : ∀ rule ∈ rules, rule.left ≠ []) {x : Char}
    (h : Replaces rules [x] f') : ∃ rule ∈ rules, rule.left = [x] ∧ rule.right = f' := by
  obtain ⟨rule, hm, before, after, hf, rfl⟩ := h.exists_rule
  have hlen := congrArg List.length hf
  have hpos := List.length_pos_iff.mpr (hl rule hm)
  simp only [List.length_append, List.length_singleton] at hlen
  obtain rfl := List.length_eq_zero_iff.mp (show before.length = 0 by omega)
  obtain rfl := List.length_eq_zero_iff.mp (show after.length = 0 by omega)
  exact ⟨rule, hm, by simpa using hf.symm, by simp⟩

theorem length_le_of_replaced {rule : Rule} (h : rule.left.length ≤ rule.right.length)
    (before after : Form) :
    (before ++ rule.left ++ after).length ≤ (before ++ rule.right ++ after).length := by
  simp only [List.length_append]
  omega

end Rule

namespace Listing

open Rule

variable {start : Char} {lines : List Text}

theorem left_ne_nil_of_mem_rules {rule : Rule} (h : rule ∈ rules lines) : rule.left ≠ [] := by
  obtain ⟨line, -, hp⟩ := mem_rules_iff.mp h
  obtain ⟨right, -, hne, -⟩ := parse?_eq_some_iff.mp hp
  exact hne

/-- Where the start symbol may vanish, a form without it gets no shorter and stays without it. -/
theorem ContextSensitive.step_of_not_mem (h : ContextSensitive start lines)
    (hv : vanishing start ∈ rules lines) {f f' : Form} (hf : start ∉ f)
    (hr : Replaces (rules lines) f f') : start ∉ f' ∧ f.length ≤ f'.length := by
  obtain ⟨-, hlen, hright⟩ := h
  obtain ⟨rule, hm, before, after, rfl, rfl⟩ := hr.exists_rule
  simp only [List.mem_append, not_or] at hf
  obtain ⟨⟨hb, hl⟩, ha⟩ := hf
  have hle : rule.left.length ≤ rule.right.length := by
    refine (hlen rule hm).resolve_right ?_
    rintro rfl
    exact hl List.mem_cons_self
  refine ⟨?_, length_le_of_replaced hle before after⟩
  simp only [List.mem_append, not_or]
  exact ⟨⟨hb, hright hv rule hm⟩, ha⟩

theorem ContextSensitive.length_le_of_not_vanishing (h : ContextSensitive start lines)
    (hv : vanishing start ∉ rules lines) {f f' : Form} (hr : Replaces (rules lines) f f') :
    f.length ≤ f'.length := by
  obtain ⟨rule, hm, before, after, rfl, rfl⟩ := hr.exists_rule
  have hle := (h.2.1 rule hm).resolve_right fun he => hv (he ▸ hm)
  exact length_le_of_replaced hle before after

/-- Where the start symbol may vanish, it does so in the first step or not at all. -/
theorem ContextSensitive.isChain_or_eq_nil_of_vanishing (h : ContextSensitive start lines)
    (hv : vanishing start ∈ rules lines) {forms : List Form} (hr : Run (rules lines) [start] forms) :
    ([start] :: forms).IsChain (fun f f' => f.length ≤ f'.length) ∨ forms = [[]] := by
  have hleft : ∀ rule ∈ rules lines, rule.left ≠ [] := fun rule hm => left_ne_nil_of_mem_rules hm
  cases hr with
  | done => exact .inl (.singleton _)
  | step hs hrest =>
    obtain ⟨rule, hm, hl, rfl⟩ := hs.exists_rule_of_singleton hleft
    -- the start symbol gives way to a right side without it, or else it vanishes and nothing is left
    obtain hle | rfl := h.2.1 rule hm
    · rw [hl] at hle
      exact .inl (.cons_cons hle (hrest.isChain (fun f f' hf hs => h.step_of_not_mem hv hf hs)
        (h.2.2 hv rule hm)))
    · obtain rfl := hrest.eq_nil_of_nil hleft
      exact .inr rfl

end Listing

namespace Classification

/-- If a listing is classified as context-sensitive, then the forms of a derivation from the start
symbol never get shorter, unless the start symbol vanishes in the one and only step. -/
theorem length_le_of_contextSensitive {start : Char} {lines : List Text}
    (h : (classify start lines).flags.contextSensitive = true) {forms : List Form}
    (hr : Rule.Run (Listing.rules lines) [start] forms) :
    ([start] :: forms).IsChain (fun f f' => f.length ≤ f'.length) ∨ forms = [[]] := by
  have hcs := (flags_contextSensitive_iff start lines).mp h
  by_cases hv : Listing.vanishing start ∈ Listing.rules lines
  · exact hcs.isChain_or_eq_nil_of_vanishing hv hr
  · have hstep (f f' : Form) (_ : True) (hs : Rule.Replaces (Listing.rules lines) f f') :
        True ∧ f.length ≤ f'.length := ⟨trivial, hcs.length_le_of_not_vanishing hv hs⟩
    exact .inl (hr.isChain hstep trivial)

/-- The start symbol may vanish, and a left side of two symbols is used in the middle of a form. -/
theorem length_le_of_growing_listing :
    let lines := ["S -> ε".toList, "S → aTb".toList, "aT -> aaTb".toList, "T->c".toList]
    let forms : List Form := ["aTb".toList, "aaTbb".toList, "aacbb".toList]
    (classify 'S' lines).flags.contextSensitive = true ∧
    Rule.Run (Listing.rules lines) ['S'] forms ∧
    ((['S'] :: forms).IsChain (fun f f' => f.length ≤ f'.length) ∨ forms = [[]]) := by
  intro lines forms
  have h : (classify 'S' lines).flags.contextSensitive = true := by decide +kernel
  have hS : ⟨['S'], ['a', 'T', 'b']⟩ ∈ Listing.rules lines := by decide +kernel
  have haT : ⟨['a', 'T'], ['a', 'a', 'T', 'b']⟩ ∈ Listing.rules lines := by decide +kernel
  have hT : ⟨['T'], ['c']⟩ ∈ Listing.rules lines := by decide +kernel
  have hr : Rule.Run (Listing.rules lines) ['S'] forms :=
    .step (.step [] [] hS) (.step (.step [] ['b'] haT)
      (.step (.step ['a', 'a'] ['b', 'b'] hT) (.done _)))
  exact ⟨h, hr, length_le_of_contextSensitive h hr⟩

end Classification

end Sentential
