import Mathlib.Data.List.Induction
import Mathlib.Data.List.Sort
import Sentential.Grammar.Parser

namespace Sentential

theorem eq_of_ascending {α β : Type} [LT β] [Std.Asymm fun a b : β => a < b] (f : α → β)
    {xs ys : List α} (hx : xs.Pairwise fun a b => f a < f b) (hy : ys.Pairwise fun a b => f a < f b)
    (h : ∀ a, a ∈ xs ↔ a ∈ ys) : xs = ys := by
  have hasymm {a b : β} : a < b → ¬ b < a := Std.Asymm.asymm a b
  have : Std.Irrefl fun a b => f a < f b := ⟨fun a ha => hasymm ha ha⟩
  have : Std.Antisymm fun a b => f a < f b := ⟨fun a b hab hba => absurd hba (hasymm hab)⟩
  exact hx.eq_of_mem_iff hy h

namespace RuleTable

theorem mem_entries_iff {t : RuleTable} {x : Char} {forms : List Form} :
    (x, forms) ∈ t.entries ↔ t.entries.lookup x = some forms := by
  rw [List.lookup_eq_some_iff]
  constructor
  · intro h
    obtain ⟨before, after, hs⟩ := List.append_of_mem h
    have hlt := t.ascending
    rw [hs, List.pairwise_append] at hlt
    refine ⟨before, after, hs, fun e he => bne_iff_ne.mpr ?_⟩
    exact (Char.ne_of_lt (hlt.2.2 e he (x, forms) List.mem_cons_self)).symm
  · intro h
    obtain ⟨before, after, hs, -⟩ := h
    rw [hs]
    exact List.mem_append_right _ List.mem_cons_self

theorem lookup_of_mem_symbols {t : RuleTable} {x : Char} (h : x ∈ t.symbols) :
    t.entries.lookup x = some (t.alternatives x) := by
  obtain ⟨forms, hf⟩ := Option.isSome_iff_exists.mp (mem_symbols_iff.mp h)
  rw [alternatives, hf, Option.getD_some]

theorem lookup_of_not_mem_symbols {t : RuleTable} {x : Char} (h : x ∉ t.symbols) :
    t.entries.lookup x = none :=
  Option.not_isSome_iff_eq_none.mp fun hs => h (mem_symbols_iff.mpr hs)

theorem alternatives_of_entries {P : List Form → Prop} {t : RuleTable} (hnil : P [])
    (h : ∀ e ∈ t.entries, P e.2) (x : Char) : P (t.alternatives x) := by
  rw [alternatives]
  cases hl : t.entries.lookup x with
  | none => exact hnil
  | some forms => exact h (x, forms) (mem_entries_iff.mpr hl)

/-- No order of insertion can be seen in a table. -/
theorem eq_of_alternatives {t t' : RuleTable} (hs : ∀ x, x ∈ t.symbols ↔ x ∈ t'.symbols)
    (ha : ∀ x, t.alternatives x = t'.alternatives x) : t = t' := by
  have hl (x : Char) : t.entries.lookup x = t'.entries.lookup x := by
    by_cases hx : x ∈ t.symbols
    · rw [lookup_of_mem_symbols hx, lookup_of_mem_symbols ((hs x).mp hx), ha]
    · rw [lookup_of_not_mem_symbols hx, lookup_of_not_mem_symbols fun hx' => hx ((hs x).mpr hx')]
  have hm (e : Char × List Form) : e ∈ t.entries ↔ e ∈ t'.entries := by
    obtain ⟨x, forms⟩ := e
    rw [mem_entries_iff, mem_entries_iff, hl]
  exact RuleTable.ext (eq_of_ascending Prod.fst t.ascending t'.ascending hm)

theorem nodup_symbols (t : RuleTable) : t.symbols.Nodup := by
  have h : t.entries.Pairwise fun a b => a.1 ≠ b.1 := t.ascending.imp Char.ne_of_lt
  exact List.pairwise_map.mpr h

end RuleTable

namespace Grammar

def Line.entry (line : Line) : Char × List Form := (line.symbol, line.alternatives)

theorem ofLines_concat (start : Char) (lines : List Line) (line : Line) :
    ofLines start (lines ++ [line]) =
      (ofLines start lines).extend line.symbol line.alternatives :=
  List.foldl_append ..

theorem start_ofLines (start : Char) (lines : List Line) : (ofLines start lines).start = start := by
  induction lines using List.reverseRecOn with
  | nil => rfl
  | append_singleton lines line ih => rw [ofLines_concat, extend, ih]

theorem mem_symbols_ofLines {start : Char} {lines : List Line} {x : Char} :
    x ∈ (ofLines start lines).rules.symbols ↔ x ∈ definedSymbols lines := by
  induction lines using List.reverseRecOn with
  | nil => rfl
  | append_singleton lines line ih =>
    rw [ofLines_concat, extend, RuleTable.mem_symbols_extend, ih, definedSymbols, definedSymbols,
      List.map_append, List.mem_append, List.map_singleton, List.mem_singleton, or_comm]

theorem alternatives_ofLines (start : Char) (lines : List Line) (x : Char) :
    (ofLines start lines).alternatives x =
      ((lines.map Line.entry).filter (·.1 == x)).flatMap Prod.snd := by
  induction lines using List.reverseRecOn with
  | nil => rfl
  | append_singleton lines line ih =>
    rw [ofLines_concat, alternatives, extend, RuleTable.alternatives_extend, ← alternatives, ih,
      List.map_append, List.filter_append, List.flatMap_append]
    by_cases hx : x = line.symbol
    · simp [hx, Line.entry]
    · simp [hx, Ne.symm hx, Line.entry]

theorem mem_alternatives_ofLines {start : Char} {lines : List Line} {x : Char} {a : Form} :
    a ∈ (ofLines start lines).alternatives x ↔
      ∃ line ∈ lines, line.symbol = x ∧ a ∈ line.alternatives := by
  simp [alternatives_ofLines, Line.entry, and_assoc]

end Grammar

end Sentential
