import Sentential.Proofs.Grammar.Parser

namespace Sentential.Grammar

/-- A closed grammar that can be written line by line: every alternative stands for itself, and none
is broken by a line feed. -/
structure Printable (g : Grammar) : Prop extends g.Closed where
  plain : ∀ x ∈ g.rules.symbols, ∀ a ∈ g.alternatives x, a.Plain
  feed : ∀ x ∈ g.rules.symbols, ∀ a ∈ g.alternatives x, '\n' ∉ a

theorem printable_of_parse {text : Text} {startOverride : Option Char} {file : FileName}
    {g : Grammar} (h : parse text startOverride file = .ok g) : g.Printable := by
  obtain ⟨lines, start, hl, -, hu, rfl⟩ := parse_eq_ok_iff.mp h
  have hs : ∀ line ∈ lines, line.Sound := fun line hm => sound_of_mem_readLines hl hm
  refine ⟨closed_ofLines hs hu, ?_, ?_⟩
  · intro x hx a ha
    obtain ⟨line, hm, -, ha⟩ := mem_alternatives_ofLines.mp ha
    exact (hs line hm).plain a ha
  · intro x hx a ha
    obtain ⟨line, hm, -, ha⟩ := mem_alternatives_ofLines.mp ha
    exact (hs line hm).feed a ha

theorem mem_symbols {g : Grammar} {x : Char} : x ∈ g.symbols ↔ x ∈ g.rules.symbols := by
  unfold symbols RuleTable.contains
  by_cases hs : g.start ∈ g.rules.symbols
  · by_cases hx : x = g.start <;> simp [hs, hx]
  · have hne : x ∈ g.rules.symbols → x ≠ g.start := fun hx he => hs (he ▸ hx)
    simpa [hs] using hne

theorem nodup_symbols (g : Grammar) : g.symbols.Nodup := by
  have hf := g.rules.nodup_symbols.filter fun x => decide (x ≠ g.start)
  unfold symbols
  split
  · exact List.nodup_cons.mpr ⟨by simp, hf⟩
  · exact hf

theorem head?_symbols {g : Grammar} (h : g.start ∈ g.rules.symbols) :
    g.symbols.head? = some g.start := by
  simp [symbols, RuleTable.contains, h]

def lineOf (g : Grammar) (x : Char) : Text := printRule x (g.alternatives x)

def printedLines (g : Grammar) : List Line :=
  (g.symbols.zipIdx 1).map fun p => ⟨p.2, p.1, g.alternatives p.1⟩

theorem definedSymbols_printedLines (g : Grammar) :
    definedSymbols g.printedLines = g.symbols := by
  unfold definedSymbols printedLines
  rw [List.map_map]
  exact List.zipIdx_map_fst 1 g.symbols

theorem entries_printedLines (g : Grammar) :
    g.printedLines.map Line.entry = g.symbols.map fun x => (x, g.alternatives x) := by
  unfold printedLines
  conv => rhs; rw [← List.zipIdx_map_fst 1 g.symbols]
  rw [List.map_map, List.map_map]
  rfl

/-- No line is lost or brought in twice, so the lines make up the grammar that was printed. -/
theorem ofLines_printedLines (g : Grammar) : ofLines g.start g.printedLines = g := by
  apply Grammar.ext
  · exact start_ofLines g.start g.printedLines
  · apply RuleTable.eq_of_alternatives
    · intro x
      rw [mem_symbols_ofLines, definedSymbols_printedLines, mem_symbols]
    · intro x
      have hp : ((fun e : Char × List Form => e.1 == x) ∘ fun x => (x, g.alternatives x)) =
          fun y => y == x := rfl
      change (ofLines g.start g.printedLines).alternatives x = g.alternatives x
      rw [alternatives_ofLines, entries_printedLines, List.filter_map, hp, List.filter_beq,
        g.nodup_symbols.count]
      by_cases hx : x ∈ g.symbols
      · simp [hx]
      · have hnone := RuleTable.lookup_of_not_mem_symbols (mt mem_symbols.mpr hx)
        simp [hx, alternatives, RuleTable.alternatives, hnone]

theorem mem_printAlternatives {forms : List Form} {c : Char} (hc : c ∈ printAlternatives forms) :
    c = ' ' ∨ c = '|' ∨ ∃ a ∈ forms, c ∈ a.shown := by
  induction forms with
  | nil => exact absurd hc List.not_mem_nil
  | cons a rest ih =>
    cases rest with
    | nil =>
      rw [printAlternatives_singleton] at hc
      exact .inr (.inr ⟨a, List.mem_cons_self, hc⟩)
    | cons b rest =>
      rw [printAlternatives_cons_cons, List.mem_append, List.mem_append] at hc
      -- in the first alternative, between it and the second, or behind that
      obtain (hc | hc) | hc := hc
      · exact .inr (.inr ⟨a, List.mem_cons_self, hc⟩)
      · simp only [List.mem_cons, List.not_mem_nil, or_false] at hc
        tauto
      · obtain hc | hc | ⟨a', ha, hc⟩ := ih hc
        · exact .inl hc
        · exact .inr (.inl hc)
        · exact .inr (.inr ⟨a', List.mem_cons_of_mem a ha, hc⟩)

theorem exists_getLast?_printAlternatives {forms : List Form} (hne : forms ≠ []) :
    ∃ a ∈ forms, (printAlternatives forms).getLast? = a.shown.getLast? := by
  induction forms with
  | nil => exact absurd rfl hne
  | cons a rest ih =>
    cases rest with
    | nil => exact ⟨a, List.mem_cons_self, by rw [printAlternatives_singleton]⟩
    | cons b rest =>
      obtain ⟨a', ha, hlast⟩ := ih (List.cons_ne_nil b rest)
      have hsome := List.getLast?_isSome.mpr a'.shown_ne_nil
      refine ⟨a', List.mem_cons_of_mem a ha, ?_⟩
      rw [printAlternatives_cons_cons, List.getLast?_append, hlast, Option.or_of_isSome hsome]

theorem printAlternatives_ne_nil {forms : List Form} (hne : forms ≠ []) :
    printAlternatives forms ≠ [] := by
  obtain ⟨a, -, hlast⟩ := exists_getLast?_printAlternatives hne
  rw [← List.getLast?_isSome, hlast, List.getLast?_isSome]
  exact a.shown_ne_nil

theorem trimmed_printAlternatives {forms : List Form} (hne : forms ≠ [])
    (hf : ∀ a ∈ forms, a.Plain) : (printAlternatives forms).Trimmed := by
  constructor
  · obtain ⟨a, rest, rfl⟩ := List.exists_cons_of_ne_nil hne
    have hhead : (printAlternatives (a :: rest)).head? = a.shown.head? := by
      have hsome := List.isSome_head?.mpr a.shown_ne_nil
      cases rest with
      | nil => rw [printAlternatives_singleton]
      | cons b rest =>
        rw [printAlternatives_cons_cons, List.append_assoc, List.head?_append,
          Option.or_of_isSome hsome]
    rw [hhead]
    exact (Form.trimmed_shown (hf a List.mem_cons_self).trimmed).head
  · obtain ⟨a, ha, hlast⟩ := exists_getLast?_printAlternatives hne
    rw [hlast]
    exact (Form.trimmed_shown (hf a ha).trimmed).last

theorem trimmed_printRule {x : Char} {forms : List Form} (hx : isNonterminal x)
    (hne : forms ≠ []) (hf : ∀ a ∈ forms, a.Plain) : (printRule x forms).Trimmed := by
  constructor
  · intro c hc
    obtain rfl := Option.some.inj hc
    exact isBlank_of_isNonterminal hx
  · have hsome := List.getLast?_isSome.mpr (printAlternatives_ne_nil hne)
    rw [printRule, List.getLast?_append, Option.or_of_isSome hsome]
    exact (trimmed_printAlternatives hne hf).last

theorem feed_not_mem_printRule {x : Char} {forms : List Form} (hx : isNonterminal x)
    (hf : ∀ a ∈ forms, '\n' ∉ a) : '\n' ∉ printRule x forms := by
  intro hc
  obtain hc | hc := List.mem_append.mp hc
  · have hne : '\n' ≠ x := (ne_of_isNonterminal hx (by decide)).symm
    simp [hne] at hc
  · obtain hc | hc | ⟨a, ha, hc⟩ := mem_printAlternatives hc
    · cases hc
    · cases hc
    · obtain hc | hc := Form.mem_shown hc
      · exact hf a ha hc
      · cases hc

/-- The line of a symbol is read as the symbol and its alternatives: the first arrow of the line is
the one behind the symbol. -/
theorem readLine_printRule {x : Char} {forms : List Form} (hx : isNonterminal x)
    (hne : forms ≠ []) (hf : ∀ a ∈ forms, a.Plain) :
    readLine (printRule x forms) = .ok (x, forms) := by
  have hfree : Rule.ArrowFree [x, ' '] :=
    Rule.arrowFree_blanks_cons hx (u := []) (by simp) Text.isBlank_of_mem_space
  have hprint : printRule x forms =
      [x, ' '] ++ ['-', '>'] ++ ([' '] ++ printAlternatives forms) := rfl
  have hleft : Text.trim [x, ' '] = [x] :=
    Text.trim_blanks_cons_blanks hx (u := []) (by simp) Text.isBlank_of_mem_space
  have hright : Text.trim ([' '] ++ printAlternatives forms) = printAlternatives forms := by
    have h := Text.trim_blanks_append_blanks (trimmed_printAlternatives hne hf)
      (printAlternatives_ne_nil hne) Text.isBlank_of_mem_space (v := []) (by simp)
    rwa [List.append_nil] at h
  refine readLine_eq_ok_iff.mpr ⟨printAlternatives forms, ?_, hx, (Rule.readAlternatives_print hne hf).symm⟩
  rw [hprint, Rule.sides?_append_arrow hfree .ascii, hleft, hright]

section Printable

variable {g : Grammar} {x : Char}

theorem Printable.trimmed_lineOf (hg : g.Printable) (hx : x ∈ g.rules.symbols) :
    (g.lineOf x).Trimmed :=
  trimmed_printRule (hg.nonterminal x hx) (hg.nonempty x hx) (hg.plain x hx)

theorem Printable.readLine_lineOf (hg : g.Printable) (hx : x ∈ g.rules.symbols) :
    readLine (g.lineOf x) = .ok (x, g.alternatives x) :=
  readLine_printRule (hg.nonterminal x hx) (hg.nonempty x hx) (hg.plain x hx)

theorem Printable.lines_print (hg : g.Printable) : Text.lines g.print = g.symbols.map g.lineOf := by
  have hprint : g.print = (g.symbols.map g.lineOf).flatMap fun line => line ++ ['\n'] := by
    rw [List.flatMap_map]
    rfl
  rw [hprint, Text.lines]
  apply physicalLines_flatMap_concat
  · intro line hl
    obtain ⟨x, hx, rfl⟩ := List.mem_map.mp hl
    have hx := mem_symbols.mp hx
    exact feed_not_mem_printRule (hg.nonterminal x hx) (hg.feed x hx)
  · intro line hl hr
    obtain ⟨x, hx, rfl⟩ := List.mem_map.mp hl
    -- a carriage return would be blank, and no blank stands at the end of the line
    have hb : Text.isBlank '\r' = false := (hg.trimmed_lineOf (mem_symbols.mp hx)).last '\r' hr
    cases hb

theorem Printable.ruleLines_print (hg : g.Printable) :
    Listing.ruleLines g.print = (g.symbols.zipIdx 1).map fun p => (p.2, g.lineOf p.1) := by
  have hlines : ∀ line ∈ Text.lines g.print, line.Trimmed ∧ Listing.isRuleLine line := by
    intro line hl
    rw [hg.lines_print] at hl
    obtain ⟨x, hx, rfl⟩ := List.mem_map.mp hl
    have hx := mem_symbols.mp hx
    have hne : x ≠ ';' := ne_of_isNonterminal (hg.nonterminal x hx) (by decide)
    refine ⟨hg.trimmed_lineOf hx, ?_⟩
    simp [Listing.isRuleLine, lineOf, printRule, hne]
  rw [Listing.ruleLines_of_trimmed hlines, hg.lines_print, List.zipIdx_map, List.map_map]
  rfl

theorem Printable.readLines_print (hg : g.Printable) (file : FileName) :
    readLines file g.print = .ok g.printedLines := by
  rw [readLines_eq_ok_iff, hg.ruleLines_print, printedLines, List.map_map, List.map_map]
  apply List.map_congr_left
  intro p hp
  have hx := mem_symbols.mp (List.fst_mem_of_mem_zipIdx hp)
  exact readNumbered_eq_ok_iff.mpr ⟨rfl, hg.readLine_lineOf hx⟩

theorem Printable.undefinedReports_printedLines (hg : g.Printable) (file : FileName) :
    undefinedReports file g.start g.printedLines = [] := by
  have hclosed : (ofLines g.start g.printedLines).Closed := by
    rw [ofLines_printedLines]
    exact hg.toClosed
  exact undefinedReports_of_closed hclosed file

theorem Printable.parse_print (hg : g.Printable) {startOverride : Option Char}
    (hs : startOverride = some g.start ∨ startOverride = none) (file : FileName) :
    parse g.print startOverride file = .ok g := by
  have hfirst : g.printedLines.head?.map Line.symbol = some g.start := by
    rw [← List.head?_map]
    exact (congrArg List.head? (definedSymbols_printedLines g)).trans (head?_symbols hg.start)
  refine parse_eq_ok_iff.mpr ⟨g.printedLines, g.start, hg.readLines_print file, ?_,
    hg.undefinedReports_printedLines file, (ofLines_printedLines g).symm⟩
  obtain rfl | rfl := hs
  · rfl
  · exact hfirst

end Printable

/-- A grammar that was read is read again from its own print, whether or not the start symbol is asked
for and whatever the file is called. -/
theorem parse_print_of_parse {text : Text} {startOverride : Option Char} {file : FileName}
    {g : Grammar} (h : parse text startOverride file = .ok g) (file' : FileName) :
    parse g.print (some g.start) file' = .ok g ∧ parse g.print none file' = .ok g := by
  have hg := printable_of_parse h
  exact ⟨hg.parse_print (.inl rfl) file', hg.parse_print (.inr rfl) file'⟩

/-- The two lines of `Σ` are joined, `S` comes first, and an arrow, a semicolon and a carriage return
inside an alternative stay. -/
theorem parse_print_of_joined_lines :
    let text := "; sums\nΣ → a->b | eps\n\n S -> bΣ;S | Λ \nΣ->x\ry|".toList
    let g := empty 'S' |>.extend 'S' [['b', 'Σ', ';', 'S'], []]
      |>.extend 'Σ' [['a', '-', '>', 'b'], [], ['x', '\r', 'y'], []]
    parse text (some 'S') [] = .ok g ∧
      parse g.print (some g.start) ['g'] = .ok g ∧ parse g.print none ['g'] = .ok g := by
  intro text g
  have h : parse text (some 'S') [] = .ok g := by decide +kernel
  exact ⟨h, parse_print_of_parse h ['g']⟩

end Sentential.Grammar
