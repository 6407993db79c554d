import Sentential.Form

namespace Sentential

/-- The symbols that have an entry, in ascending order, and the alternatives of each in the order in
which they are tried. An entry may have no alternatives. -/
@[ext] structure RuleTable where
  entries : List (Char × List Form)
  ascending : entries.Pairwise fun a b => a.1 < b.1
  deriving DecidableEq

namespace RuleTable

def empty : RuleTable := ⟨[], .nil⟩

def symbols (t : RuleTable) : List Char := t.entries.map Prod.fst

def contains (t : RuleTable) (x : Char) : Bool := t.symbols.contains x

def alternatives (t : RuleTable) (x : Char) : List Form :=
  (t.entries.lookup x).getD []

def extendEntries (x : Char) (more : List Form) :
    List (Char × List Form) → List (Char × List Form)
  | [] => [(x, more)]
  | (y, forms) :: rest =>
    if x < y then (x, more) :: (y, forms) :: rest
    else if x = y then (y, forms ++ more) :: rest
    else (y, forms) :: extendEntries x more rest

theorem fst_mem_extendEntries {x : Char} {more : List Form} {entries : List (Char × List Form)}
    {e : Char × List Form} (h : e ∈ extendEntries x more entries) :
    e.1 = x ∨ ∃ e' ∈ entries, e'.1 = e.1 := by
  induction entries with
  | nil => simp_all [extendEntries]
  | cons head rest ih =>
    obtain ⟨y, forms⟩ := head
    rw [extendEntries] at h
    split at h
    · rcases List.mem_cons.mp h with rfl | h
      · exact .inl rfl
      · exact .inr ⟨e, h, rfl⟩
    · split at h
      · next hxy =>
        rcases List.mem_cons.mp h with rfl | h
        · exact .inl hxy.symm
        · exact .inr ⟨e, List.mem_cons_of_mem _ h, rfl⟩
      · rcases List.mem_cons.mp h with rfl | h
        · exact .inr ⟨(y, forms), List.mem_cons_self, rfl⟩
        · rcases ih h with h | ⟨e', he', h⟩
          · exact .inl h
          · exact .inr ⟨e', List.mem_cons_of_mem _ he', h⟩

theorem extendEntries_ascending (x : Char) (more : List Form) {entries : List (Char × List Form)}
    (h : entries.Pairwise fun a b => a.1 < b.1) :
    (extendEntries x more entries).Pairwise fun a b => a.1 < b.1 := by
  induction entries with
  | nil => simp [extendEntries]
  | cons head rest ih =>
    obtain ⟨y, forms⟩ := head
    obtain ⟨hy, hrest⟩ := List.pairwise_cons.mp h
    rw [extendEntries]
    split
    · next hxy =>
      refine List.pairwise_cons.mpr ⟨fun e he => ?_, h⟩
      rcases List.mem_cons.mp he with rfl | he
      · exact hxy
      · exact Char.lt_trans hxy (hy e he)
    · split
      · exact List.pairwise_cons.mpr ⟨hy, hrest⟩
      · next hlt hne =>
        refine List.pairwise_cons.mpr ⟨fun e he => ?_, ih hrest⟩
        rcases fst_mem_extendEntries he with h | ⟨e', he', h⟩
        · exact h ▸ Char.not_le.mp fun hle => hne (Char.le_antisymm hle (Char.not_lt.mp hlt))
        · exact h ▸ hy e' he'

def extend (t : RuleTable) (x : Char) (more : List Form) : RuleTable :=
  ⟨extendEntries x more t.entries, extendEntries_ascending x more t.ascending⟩

theorem lookup_extendEntries (x y : Char) (more : List Form) {entries : List (Char × List Form)}
    (h : entries.Pairwise fun a b => a.1 < b.1) :
    (extendEntries x more entries).lookup y =
      if y = x then some ((entries.lookup y).getD [] ++ more) else entries.lookup y := by
  induction entries with
  | nil =>
    by_cases hy : y = x <;> simp [extendEntries, List.lookup_cons, hy, beq_false_of_ne]
  | cons head rest ih =>
    obtain ⟨z, forms⟩ := head
    obtain ⟨hz, hrest⟩ := List.pairwise_cons.mp h
    rw [extendEntries]
    split
    · next hxz =>
      by_cases hy : y = x
      · subst hy
        have hne : (y == z) = false := beq_false_of_ne (Char.ne_of_lt hxz)
        have hnone : rest.lookup y = none := by
          apply List.lookup_eq_none_iff.mpr
          intro e he
          exact bne_iff_ne.mpr (Char.ne_of_lt (Char.lt_trans hxz (hz e he)))
        simp [List.lookup_cons, hne, hnone]
      · simp [List.lookup_cons, hy, beq_false_of_ne]
    · split
      · next hxz =>
        subst hxz
        by_cases hy : y = x <;> simp [List.lookup_cons, hy, beq_false_of_ne]
      · next hne =>
        by_cases hy : y = z
        · subst hy
          simp [Ne.symm hne]
        · simp [List.lookup_cons, ih hrest, hy, beq_false_of_ne]

theorem alternatives_extend (t : RuleTable) (x y : Char) (more : List Form) :
    (t.extend x more).alternatives y =
      if y = x then t.alternatives y ++ more else t.alternatives y := by
  rw [alternatives, extend, lookup_extendEntries x y more t.ascending]
  by_cases hy : y = x <;> simp [hy, alternatives]

theorem mem_symbols_iff {t : RuleTable} {x : Char} :
    x ∈ t.symbols ↔ (t.entries.lookup x).isSome := by
  rw [List.lookup_isSome_iff, symbols, List.mem_map]
  constructor
  · intro ⟨e, he, hx⟩
    exact ⟨e, he, beq_iff_eq.mpr hx.symm⟩
  · intro ⟨e, he, hx⟩
    exact ⟨e, he, (beq_iff_eq.mp hx).symm⟩

theorem mem_symbols_extend {t : RuleTable} {x y : Char} {more : List Form} :
    y ∈ (t.extend x more).symbols ↔ y = x ∨ y ∈ t.symbols := by
  rw [mem_symbols_iff, mem_symbols_iff, extend, lookup_extendEntries x y more t.ascending]
  by_cases hy : y = x <;> simp [hy]

end RuleTable

/-- A start symbol and the rules. Neither is checked against the other here. -/
@[ext] structure Grammar where
  start : Char
  rules : RuleTable
  deriving DecidableEq

namespace Grammar

def empty (start : Char) : Grammar := ⟨start, .empty⟩

def alternatives (g : Grammar) (x : Char) : List Form := g.rules.alternatives x

def extend (g : Grammar) (x : Char) (more : List Form) : Grammar :=
  { g with rules := g.rules.extend x more }

/-- The grammar that is used when no file is named: `S → AB`, `A → Ca | Ba`, `B → Cb | b`,
`C → cb | ε`. -/
def demonstration : Grammar :=
  empty 'S' |>.extend 'S' [['A', 'B']]
    |>.extend 'A' [['C', 'a'], ['B', 'a']]
    |>.extend 'B' [['C', 'b'], ['b']]
    |>.extend 'C' [['c', 'b'], []]

def symbols (g : Grammar) : List Char :=
  (if g.rules.contains g.start then [g.start] else []) ++ g.rules.symbols.filter (· ≠ g.start)

def printAlternatives (forms : List Form) : Text :=
  [' ', '|', ' '].intercalate (forms.map Form.shown)

theorem printAlternatives_singleton (a : Form) : printAlternatives [a] = a.shown :=
  List.intercalate_singleton

theorem printAlternatives_cons_cons (a b : Form) (rest : List Form) :
    printAlternatives (a :: b :: rest) =
      a.shown ++ [' ', '|', ' '] ++ printAlternatives (b :: rest) := by
  rw [printAlternatives, List.map_cons, List.map_cons, List.intercalate_cons_cons]
  rfl

def printRule (x : Char) (forms : List Form) : Text :=
  x :: [' ', '-', '>', ' '] ++ printAlternatives forms

def print (g : Grammar) : Text :=
  g.symbols.flatMap fun x => printRule x (g.alternatives x) ++ ['\n']

end Grammar

end Sentential
