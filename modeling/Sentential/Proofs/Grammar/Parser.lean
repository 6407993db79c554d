import Sentential.Grammar.Derivation
import Sentential.Proofs.Grammar.Table
import Sentential.Proofs.Listing
import Sentential.Proofs.Rule

namespace Sentential.Grammar

theorem readLine_eq_ok_iff {line : Text} {x : Char} {forms : List Form} :
    readLine line = .ok (x, forms) ↔
      ∃ right, Rule.sides? line = some ([x], right) ∧ isNonterminal x ∧
        forms = Rule.readAlternatives right := by
  unfold readLine
  split
  · next h => simp [h]
  · next y right h =>
    by_cases hy : isNonterminal y
    · rw [if_pos hy, h]
      constructor
      · intro he
        obtain ⟨rfl, rfl⟩ := Prod.mk.inj (Except.ok.inj he)
        exact ⟨right, rfl, hy, rfl⟩
      · intro he
        obtain ⟨right', hs, -, rfl⟩ := he
        obtain ⟨hx, rfl⟩ := Prod.mk.inj (Option.some.inj hs)
        rw [List.singleton_inj.mp hx]
    · rw [if_neg hy, h]
      constructor
      · intro he
        cases he
      · intro he
        obtain ⟨right', hs, hx, -⟩ := he
        rw [← List.singleton_inj.mp (Prod.mk.inj (Option.some.inj hs)).1] at hx
        exact absurd hx hy
  · next left right hl h =>
    constructor
    · intro he
      cases he
    · intro he
      obtain ⟨right', hs, -, -⟩ := he
      rw [h] at hs
      obtain ⟨rfl, rfl⟩ := Prod.mk.inj (Option.some.inj hs)
      exact absurd rfl (hl x)

theorem readNumbered_eq_ok_iff {number : Nat} {text : Text} {line : Line} :
    readNumbered number text = .ok line ↔
      line.number = number ∧ readLine text = .ok (line.symbol, line.alternatives) := by
  obtain ⟨n, x, forms⟩ := line
  unfold readNumbered
  split
  · next y forms' h => simp [h, eq_comm]
  · next h => simp [h]

/-- The lines are read if and only if each of them is. -/
theorem readLines_eq_ok_iff {file : FileName} {text : Text} {lines : List Line} :
    readLines file text = .ok lines ↔
      (Listing.ruleLines text).map (fun (number, line) => readNumbered number line) =
        lines.map .ok := by
  unfold readLines
  generalize (Listing.ruleLines text).map (fun (number, line) => readNumbered number line) = results
  simp only
  constructor
  · intro h
    split at h
    · next hf =>
      rw [← Except.ok.inj h]
      clear h
      -- no result is a fault, so every one of them is kept
      induction results with
      | nil => rfl
      | cons result rest ih =>
        cases result with
        | error fault => cases hf
        | ok line => exact congrArg (.ok line :: ·) (ih hf)
    · cases h
  · intro h
    rw [h]
    simp [List.filterMap_map]

theorem mem_undefinedSymbols {defined : List Char} {line : Line} {c : Char} :
    c ∈ line.undefinedSymbols defined ↔
      (∃ a ∈ line.alternatives, c ∈ a) ∧ isNonterminal c ∧ c ∉ defined := by
  simp only [Line.undefinedSymbols, List.mem_eraseDups, List.mem_filter, List.mem_flatten,
    Bool.not_eq_true', ← Bool.not_eq_true, List.contains_iff_mem, and_comm, and_assoc]

theorem undefinedReports_eq_nil_iff {file : FileName} {start : Char} {lines : List Line} :
    undefinedReports file start lines = [] ↔
      start ∈ definedSymbols lines ∧ ∀ line ∈ lines, ∀ a ∈ line.alternatives, ∀ c ∈ a,
        isNonterminal c → c ∈ definedSymbols lines := by
  have hused : (∀ line ∈ lines, line.undefinedSymbols (definedSymbols lines) = []) ↔
      ∀ line ∈ lines, ∀ a ∈ line.alternatives, ∀ c ∈ a,
        isNonterminal c → c ∈ definedSymbols lines := by
    simp only [List.eq_nil_iff_forall_not_mem, mem_undefinedSymbols]
    constructor
    · intro h line hl a ha c hc hx
      exact Decidable.not_not.mp fun hd => h line hl c ⟨⟨a, ha, hc⟩, hx, hd⟩
    · intro h line hl c hc
      obtain ⟨⟨a, ha, hc⟩, hx, hd⟩ := hc
      exact hd (h line hl a ha c hc hx)
  simp only [undefinedReports, List.append_eq_nil_iff, List.flatMap_eq_nil_iff, List.map_eq_nil_iff,
    hused]
  rw [and_comm]
  by_cases hs : start ∈ definedSymbols lines <;> simp [hs]

/-- A grammar is read if every rule line is, there is a start symbol, and nothing is to report. -/
theorem parse_eq_ok_iff {text : Text} {startOverride : Option Char} {file : FileName}
    {g : Grammar} :
    parse text startOverride file = .ok g ↔
      ∃ lines start, readLines file text = .ok lines ∧
        startOverride.or (lines.head?.map Line.symbol) = some start ∧
        undefinedReports file start lines = [] ∧ g = ofLines start lines := by
  unfold parse
  constructor
  · intro h
    cases hl : readLines file text with
    | error faults =>
      rw [hl] at h
      cases h
    | ok lines =>
      rw [hl] at h
      cases hs : startOverride.or (lines.head?.map Line.symbol) with
      | none =>
        simp only [bind, Except.bind, hs] at h
        cases h
      | some start =>
        simp only [bind, Except.bind, hs] at h
        split at h
        · next hu => exact ⟨lines, start, rfl, hs, List.isEmpty_iff.mp hu, (Except.ok.inj h).symm⟩
        · cases h
  · intro h
    obtain ⟨lines, start, hl, hs, hu, rfl⟩ := h
    simp only [bind, Except.bind, hl, hs, hu, List.isEmpty_nil, if_true]

/-- What holds of every line that was read: a nonterminal and at least one alternative, each written
as itself within one line. -/
structure Line.Sound (line : Line) : Prop where
  nonterminal : isNonterminal line.symbol
  nonempty : line.alternatives ≠ []
  plain : ∀ a ∈ line.alternatives, a.Plain
  feed : ∀ a ∈ line.alternatives, '\n' ∉ a

theorem sound_of_mem_readLines {file : FileName} {text : Text} {lines : List Line}
    (h : readLines file text = .ok lines) {line : Line} (hl : line ∈ lines) : line.Sound := by
  have hm : .ok line ∈ (Listing.ruleLines text).map fun (n, t) => readNumbered n t := by
    rw [readLines_eq_ok_iff.mp h]
    exact List.mem_map_of_mem hl
  obtain ⟨⟨n, t⟩, ht, hr⟩ := List.mem_map.mp hm
  obtain ⟨-, hr⟩ := readNumbered_eq_ok_iff.mp hr
  obtain ⟨right, hs, hx, ha⟩ := readLine_eq_ok_iff.mp hr
  refine ⟨hx, ?_, ?_, ?_⟩
  · rw [ha]
    exact Rule.readAlternatives_ne_nil right
  · intro a hm
    rw [ha] at hm
    exact Rule.plain_of_mem_readAlternatives hm
  · intro a hm hc
    rw [ha] at hm
    have hc := Rule.mem_of_sides? hs (Rule.mem_of_mem_readAlternatives hm hc)
    exact Listing.feed_not_mem_of_mem_ruleLines ht hc

theorem closed_ofLines {file : FileName} {start : Char} {lines : List Line}
    (hs : ∀ line ∈ lines, line.Sound) (hu : undefinedReports file start lines = []) :
    (ofLines start lines).Closed := by
  obtain ⟨hstart, hused⟩ := undefinedReports_eq_nil_iff.mp hu
  refine ⟨?_, ?_, ?_, ?_⟩
  · intro x hx
    obtain ⟨line, hl, rfl⟩ := List.mem_map.mp (mem_symbols_ofLines.mp hx)
    exact (hs line hl).nonterminal
  · intro x hx hnil
    obtain ⟨line, hl, rfl⟩ := List.mem_map.mp (mem_symbols_ofLines.mp hx)
    obtain ⟨a, ha⟩ := List.exists_mem_of_ne_nil _ (hs line hl).nonempty
    have hm : a ∈ (ofLines start lines).alternatives line.symbol :=
      mem_alternatives_ofLines.mpr ⟨line, hl, rfl, ha⟩
    rw [hnil] at hm
    exact absurd hm List.not_mem_nil
  · rw [start_ofLines]
    exact mem_symbols_ofLines.mpr hstart
  · intro x hx a ha y hy hn
    obtain ⟨line, hl, -, ha⟩ := mem_alternatives_ofLines.mp ha
    exact mem_symbols_ofLines.mpr (hused line hl a ha y hy hn)

theorem undefinedReports_of_closed {start : Char} {lines : List Line}
    (h : (ofLines start lines).Closed) (file : FileName) :
    undefinedReports file start lines = [] := by
  refine undefinedReports_eq_nil_iff.mpr ⟨?_, ?_⟩
  · have hstart := mem_symbols_ofLines.mp h.start
    rwa [start_ofLines] at hstart
  · intro line hl a ha y hy hn
    have hm : a ∈ (ofLines start lines).alternatives line.symbol :=
      mem_alternatives_ofLines.mpr ⟨line, hl, rfl, ha⟩
    have hx : line.symbol ∈ (ofLines start lines).rules.symbols :=
      mem_symbols_ofLines.mpr (List.mem_map_of_mem hl)
    exact mem_symbols_ofLines.mp (h.used line.symbol hx a hm y hy hn)

theorem closed_of_parse {text : Text} {startOverride : Option Char} {file : FileName} {g : Grammar}
    (h : parse text startOverride file = .ok g) : g.Closed := by
  obtain ⟨lines, start, hl, -, hu, rfl⟩ := parse_eq_ok_iff.mp h
  exact closed_ofLines (fun line hm => sound_of_mem_readLines hl hm) hu

end Sentential.Grammar
