import Sentential.Proofs.Grammar.Reports

namespace Sentential.Grammar

abbrev Reading := Except Cause (Char × List Form)

def readings (lines : List Text) : List Reading :=
  ((lines.map Text.trim).filter Listing.isRuleLine).map readLine

def formsFor (x : Char) : Reading → List Form
  | .ok (y, forms) => if y = x then forms else []
  | .error _ => []

/-- Readings that a grammar cannot tell apart. -/
structure Alike (rs rs' : List Reading) : Prop where
  read : (∀ r ∈ rs, ∃ entry, r = .ok entry) ↔ ∀ r ∈ rs', ∃ entry, r = .ok entry
  symbols : ∀ x, (∃ forms, .ok (x, forms) ∈ rs) ↔ ∃ forms, .ok (x, forms) ∈ rs'
  alternatives : ∀ x, rs.flatMap (formsFor x) = rs'.flatMap (formsFor x)

/-- Readings that a grammar is made of. -/
structure Makes (rs : List Reading) (g : Grammar) : Prop where
  read : ∀ r ∈ rs, ∃ entry, r = .ok entry
  symbols : ∀ x, x ∈ g.rules.symbols ↔ ∃ forms, .ok (x, forms) ∈ rs
  alternatives : ∀ x, g.alternatives x = rs.flatMap (formsFor x)

theorem readings_append (lines lines' : List Text) :
    readings (lines ++ lines') = readings lines ++ readings lines' := by
  simp only [readings, List.map_append, List.filter_append]

theorem readings_cons (line : Text) (lines : List Text) :
    readings (line :: lines) = readings [line] ++ readings lines := readings_append [line] lines

section Alike

variable {rs rs' ts ts' : List Reading}

theorem Alike.of_eq (h : rs = rs') : Alike rs rs' := by
  subst h
  exact ⟨Iff.rfl, fun _ => Iff.rfl, fun _ => rfl⟩

theorem Alike.symm (h : Alike rs rs') : Alike rs' rs :=
  ⟨h.read.symm, fun x => (h.symbols x).symm, fun x => (h.alternatives x).symm⟩

theorem Alike.trans (h : Alike rs rs') (h' : Alike rs' ts) : Alike rs ts :=
  ⟨h.read.trans h'.read, fun x => (h.symbols x).trans (h'.symbols x),
    fun x => (h.alternatives x).trans (h'.alternatives x)⟩

theorem Alike.append (h : Alike rs rs') (h' : Alike ts ts') : Alike (rs ++ ts) (rs' ++ ts') := by
  constructor
  · rw [List.forall_mem_append, List.forall_mem_append, h.read, h'.read]
  · intro x
    simp only [List.mem_append, exists_or, h.symbols x, h'.symbols x]
  · intro x
    rw [List.flatMap_append, List.flatMap_append, h.alternatives x, h'.alternatives x]

theorem Alike.swap {x y : Char} (hxy : x ≠ y) (forms forms' : List Form) :
    Alike [.ok (x, forms), .ok (y, forms')] [.ok (y, forms'), .ok (x, forms)] := by
  constructor
  · simp only [List.forall_mem_cons, and_left_comm]
  · intro z
    simp only [List.mem_cons, or_left_comm]
  · intro z
    by_cases hx : x = z
    · have hy : y ≠ z := fun hy => hxy (hx.trans hy.symm)
      simp [formsFor, hx, hy]
    · simp [formsFor, hx]

theorem Alike.divide (x : Char) (forms forms' : List Form) :
    Alike [.ok (x, forms ++ forms')] [.ok (x, forms), .ok (x, forms')] := by
  constructor
  · simp
  · intro z
    by_cases hz : z = x <;> simp [hz]
  · intro z
    by_cases hx : x = z <;> simp [formsFor, hx]

theorem Makes.of_alike {g : Grammar} (h : Alike rs rs') (hg : Makes rs g) : Makes rs' g :=
  ⟨h.read.mp hg.read, fun x => (hg.symbols x).trans (h.symbols x),
    fun x => (hg.alternatives x).trans (h.alternatives x)⟩

end Alike

section Lines

variable {line right before arrow arrow' : Text} {x : Char} {forms : List Form}

theorem readings_of_isRuleLine (h : Listing.isRuleLine line.trim) :
    readings [line] = [readLine line.trim] := by
  rw [readings, List.map_singleton, List.filter_singleton, h]
  rfl

theorem readings_of_not_isRuleLine (h : Listing.isRuleLine line.trim = false) :
    readings [line] = [] := by
  rw [readings, List.map_singleton, List.filter_singleton, h]
  rfl

theorem isRuleLine_trim_append_arrow (ha : Rule.IsArrow arrow) (before after : Text) :
    Listing.isRuleLine (Text.trim (before ++ arrow ++ after)) =
      (before.trimStart.head? != some ';') := by
  rw [Text.trim_append_append ha.trimmed ha.ne_nil, Listing.isRuleLine]
  cases before.trimStart with
  | nil => cases ha <;> rfl
  | cons c rest => rfl

theorem readings_arrow (hb : Rule.ArrowFree before) (ha : Rule.IsArrow arrow)
    (ha' : Rule.IsArrow arrow') (after : Text) :
    readings [before ++ arrow ++ after] = readings [before ++ arrow' ++ after] := by
  have hread : readLine (Text.trim (before ++ arrow ++ after)) =
      readLine (Text.trim (before ++ arrow' ++ after)) := by
    rw [readLine, readLine, Rule.sides?_trim_append_arrow hb ha,
      Rule.sides?_trim_append_arrow hb ha']
  -- the part before the arrow tells whether the line is a comment
  cases hrule : before.trimStart.head? != some ';' with
  | true =>
    rw [readings_of_isRuleLine ((isRuleLine_trim_append_arrow ha ..).trans hrule),
      readings_of_isRuleLine ((isRuleLine_trim_append_arrow ha' ..).trans hrule), hread]
  | false =>
    rw [readings_of_not_isRuleLine ((isRuleLine_trim_append_arrow ha ..).trans hrule),
      readings_of_not_isRuleLine ((isRuleLine_trim_append_arrow ha' ..).trans hrule)]

theorem RuleFor.isRuleLine (h : RuleFor line x right) : Listing.isRuleLine line.trim := by
  obtain ⟨hx, u, v, arrow, raw, hu, -, ha, -, rfl⟩ := h
  have hstart : Text.trimStart (u ++ x :: v) = x :: v :=
    Text.trimStart_blanks_append hu (by simpa using isBlank_of_isNonterminal hx)
  rw [isRuleLine_trim_append_arrow ha, hstart]
  simpa using ne_of_isNonterminal hx (by decide)

theorem readLine_trim_eq_ok_iff :
    readLine line.trim = .ok (x, forms) ↔
      ∃ right, RuleFor line x right ∧ forms = Rule.readAlternatives right := by
  rw [readLine_eq_ok_iff]
  constructor
  · intro h
    obtain ⟨right, hs, hx, hforms⟩ := h
    obtain ⟨before, arrow, after, hfirst, hbefore, hafter⟩ := Rule.sides?_eq_some_iff.mp hs
    obtain ⟨u, v, hu, hv, hsymbol⟩ := Text.exists_blanks_trim_blanks before
    obtain ⟨u', v', hu', hv', htrim⟩ := Text.exists_blanks_trim_blanks line
    rw [← hbefore] at hsymbol
    -- the blanks at the ends of the line come on top of those beside the symbol and the right side
    refine ⟨right, ⟨hx, u' ++ u, v, arrow, after ++ v', ?_, hv, hfirst.isArrow, ?_, ?_⟩, hforms⟩
    · exact List.forall_mem_append.mpr ⟨hu', hu⟩
    · rw [hafter, Text.trim_of_trimmed (Text.trimmed_trim after)]
      exact Text.trim_blanks after (u := []) (by simp) hv'
    · rw [htrim, hfirst.parts, hsymbol]
      simp
  · intro h
    obtain ⟨right, ⟨hx, u, v, arrow, raw, hu, hv, ha, hraw, rfl⟩, rfl⟩ := h
    refine ⟨right.trim, ?_, hx, (Rule.readAlternatives_trim right).symm⟩
    rw [Rule.sides?_trim_append_arrow (Rule.arrowFree_blanks_cons hx hu hv) ha,
      Text.trim_blanks_cons_blanks hx hu hv, hraw]

theorem RuleFor.readings (h : RuleFor line x right) :
    readings [line] = [.ok (x, Rule.readAlternatives right)] := by
  rw [readings_of_isRuleLine h.isRuleLine, readLine_trim_eq_ok_iff.mpr ⟨right, h, rfl⟩]

theorem Idle.readings (h : Idle line) : readings [line] = [] := by
  apply readings_of_not_isRuleLine
  cases h with
  | blank hb =>
    rw [Text.trim_of_blanks hb]
    rfl
  | @comment u remark hu =>
    have hcore : Text.Trimmed [';'] := Text.trimmed_singleton (by decide)
    have ht := Text.trim_append_append hcore (List.cons_ne_nil _ _) u remark
    rw [List.append_assoc, List.singleton_append, Text.trimStart_of_blanks hu] at ht
    rw [ht]
    rfl

theorem Change.alike {old new : List Text} (h : Change old new) :
    Alike (readings old) (readings new) := by
  cases h with
  | swap ha hb hxy =>
    rw [readings_cons, readings_cons _ [_], ha.readings, hb.readings]
    exact Alike.swap hxy _ _
  | @divide line first second right right' x hl hf hs =>
    rw [readings_cons first, hl.readings, hf.readings, hs.readings,
      Rule.readAlternatives_append_bar]
    exact Alike.divide x _ _
  | insert hl => exact .of_eq hl.readings.symm
  | arrow after hb ha ha' => exact .of_eq (readings_arrow hb ha ha' after)

theorem Changed.alike {lines lines' : List Text} (h : Changed lines lines') :
    Alike (readings lines) (readings lines') := by
  obtain ⟨above, below, h⟩ := h
  simp only [readings_append]
  exact (Alike.append (.of_eq rfl) h.alike).append (.of_eq rfl)

theorem Relaid.alike {lines lines' : List Text} (h : Relaid lines lines') :
    Alike (readings lines) (readings lines') := by
  induction h with
  | rel lines lines' h => exact h.alike
  | refl lines => exact .of_eq rfl
  | symm lines lines' _ ih => exact ih.symm
  | trans lines lines' lines'' _ _ ih ih' => exact ih.trans ih'

end Lines

section Spells

variable {lines : List Text} {text : Text}

theorem trim_dropReturn (line : Text) : Text.trim (dropReturn '\r' line) = line.trim := by
  unfold dropReturn
  split
  · next h =>
    obtain ⟨init, rfl⟩ := List.getLast?_eq_some_iff.mp h
    have hv : ∀ c ∈ ['\r'], Text.isBlank c := List.forall_mem_singleton.mpr (by decide)
    rw [List.dropLast_concat]
    exact (Text.trim_blanks init (u := []) (by simp) hv).symm
  · rfl

/-- A carriage return that is left at the end of a line is a blank and makes no difference. -/
theorem readings_lines_append (line : Text) (h : '\n' ∉ line) (text : Text) :
    readings (Text.lines (line ++ '\n' :: text)) = readings [line] ++ readings (Text.lines text) := by
  rw [Text.lines, physicalLines_append_cons h, readings_cons, ← Text.lines]
  simp only [readings, List.map_singleton, trim_dropReturn]

theorem Spells.readings (h : Spells lines text) : readings (Text.lines text) = readings lines := by
  induction h with
  | nil => rfl
  | @last line hl =>
    rw [Text.lines, physicalLines_of_not_mem hl]
    cases line with
    | nil => rfl
    | cons c rest => rfl
  | @feed line text lines hl _ ih => rw [readings_lines_append line hl, ih, ← readings_cons]
  | @returnFeed line text lines hl _ ih =>
    have hl' : '\n' ∉ line ++ ['\r'] := by simpa using hl
    have hreturn : Text.trim (line ++ ['\r']) = line.trim := by
      rw [← trim_dropReturn, dropReturn, List.getLast?_concat, if_pos rfl, List.dropLast_concat]
    rw [← List.singleton_append, ← List.append_assoc, readings_lines_append _ hl', ih,
      readings_cons line]
    simp only [Grammar.readings, List.map_singleton, hreturn]

theorem spells_intercalate (h : ∀ line ∈ lines, '\n' ∉ line) :
    Spells lines (['\n'].intercalate lines) := by
  induction lines with
  | nil => exact .nil
  | cons line rest ih =>
    obtain ⟨hline, hrest⟩ := List.forall_mem_cons.mp h
    cases rest with
    | nil =>
      rw [List.intercalate_singleton]
      exact .last hline
    | cons second rest =>
      rw [List.intercalate_cons_cons, List.append_assoc]
      exact .feed hline (ih hrest)

end Spells

section Parse

variable {lines lines' : List Text} {text text' : Text} {start : Char} {file : FileName}
  {g : Grammar}

theorem readings_lines (text : Text) :
    readings (Text.lines text) = (Listing.ruleLines text).map fun p => readLine p.2 := by
  rw [readings, ← Listing.map_snd_ruleLines, List.map_map]
  rfl

theorem flatMap_formsFor (x : Char) (entries : List (Char × List Form)) :
    (entries.map .ok).flatMap (formsFor x) = (entries.filter (·.1 == x)).flatMap Prod.snd := by
  induction entries with
  | nil => rfl
  | cons entry rest ih =>
    rw [List.map_cons, List.flatMap_cons, ih, List.filter_cons]
    by_cases hx : entry.1 = x <;> simp [formsFor, hx]

theorem readings_of_readLines {read : List Line} (h : readLines file text = .ok read) :
    readings (Text.lines text) = (read.map Line.entry).map .ok := by
  rw [readings_lines, List.map_map, ← List.forall₂_eq_eq_eq, List.forall₂_map_left_iff,
    List.forall₂_map_right_iff]
  exact (readLines_eq_ok_iff_readFrom.mp h).imp fun p line hp => gives_iff.mp hp.2

theorem exists_readLines_of_read (file : FileName)
    (h : ∀ r ∈ readings (Text.lines text), ∃ entry, r = .ok entry) :
    ∃ read, readLines file text = .ok read := by
  cases hl : readLines file text with
  | ok read => exact ⟨read, rfl⟩
  | error reports =>
    -- a report would be on a line that cannot be read
    obtain ⟨hreports, hne⟩ := faultReports_of_readLines hl
    obtain ⟨report, hr⟩ := List.exists_mem_of_ne_nil reports hne
    obtain ⟨number, line, hm, hf, -⟩ := (hreports.mem report).mp hr
    rw [readings_lines] at h
    obtain ⟨entry, he⟩ := h _ (List.mem_map_of_mem hm)
    rw [faulty_iff.mp hf] at he
    cases he

theorem makes_ofLines {read : List Line} (h : readLines file text = .ok read) (start : Char) :
    Makes (readings (Text.lines text)) (ofLines start read) := by
  rw [readings_of_readLines h]
  constructor
  · intro r hr
    obtain ⟨entry, -, rfl⟩ := List.mem_map.mp hr
    exact ⟨entry, rfl⟩
  · intro x
    rw [mem_symbols_ofLines, definedSymbols]
    simp [Line.entry]
  · intro x
    rw [alternatives_ofLines, flatMap_formsFor]

theorem Makes.unique {rs : List Reading} {g g' : Grammar} (h : Makes rs g) (h' : Makes rs g')
    (hs : g.start = g'.start) : g = g' := by
  refine Grammar.ext hs (RuleTable.eq_of_alternatives ?_ ?_)
  · intro x
    rw [h.symbols, h'.symbols]
  · intro x
    exact (h.alternatives x).trans (h'.alternatives x).symm

theorem parse_eq_ok_iff_makes :
    parse text (some start) file = .ok g ↔
      Makes (readings (Text.lines text)) g ∧ g.Closed ∧ g.start = start := by
  constructor
  · intro h
    have hclosed := closed_of_parse h
    obtain ⟨read, s, hl, hs, -, rfl⟩ := parse_eq_ok_iff.mp h
    obtain rfl := Option.some.inj hs
    exact ⟨makes_ofLines hl start, hclosed, start_ofLines start read⟩
  · intro h
    obtain ⟨hmakes, hclosed, rfl⟩ := h
    obtain ⟨read, hl⟩ := exists_readLines_of_read file hmakes.read
    -- the lines leave no choice, so a grammar that they make is the one that is read
    have hg : g = ofLines g.start read :=
      hmakes.unique (makes_ofLines hl g.start) (start_ofLines g.start read).symm
    rw [hg] at hclosed
    rw [parse_eq_ok_iff]
    exact ⟨read, g.start, hl, rfl, undefinedReports_of_closed hclosed file, hg⟩

/-- Texts that are written to lines with the same rules are read alike. -/
theorem parse_of_alike (h : Alike (readings (Text.lines text)) (readings (Text.lines text')))
    (hp : parse text (some start) file = .ok g) : parse text' (some start) file = .ok g := by
  obtain ⟨hmakes, hclosed, hs⟩ := parse_eq_ok_iff_makes.mp hp
  exact parse_eq_ok_iff_makes.mpr ⟨hmakes.of_alike h, hclosed, hs⟩

/-- Whatever is changed in the layout of the lines and in the way that they end, the text is still
read as the grammar that it was read as with a line feed between the lines. -/
theorem parse_of_relaid (hlines : ∀ line ∈ lines, '\n' ∉ line) (hrelaid : Relaid lines lines')
    (hspells : Spells lines' text')
    (hparse : parse (['\n'].intercalate lines) (some start) file = .ok g) :
    parse text' (some start) file = .ok g := by
  have halike := hrelaid.alike
  rw [← (spells_intercalate hlines).readings, ← hspells.readings] at halike
  exact parse_of_alike halike hparse

/-- A line is divided, its second half goes below the next line, which gets the other arrow, and a
comment comes in between; two of the lines now end with a carriage return as well. -/
theorem parse_of_divided_line :
    let lines := [['S', '→', 'A', ' ', '|', 'b'], ['A', '-', '>', 'a']]
    let lines' := [['S', '→', 'A'], ['A', '→', 'a'], [' ', ';', '!'], ['S', '→', 'b']]
    let text' := ['S', '→', 'A', '\r', '\n', 'A', '→', 'a', '\n',
      ' ', ';', '!', '\r', '\n', 'S', '→', 'b']
    let g := empty 'S' |>.extend 'S' [['A'], ['b']] |>.extend 'A' [['a']]
    (∀ line ∈ lines, '\n' ∉ line) ∧ Relaid lines lines' ∧ Spells lines' text' ∧
    parse (['\n'].intercalate lines) (some 'S') [] = .ok g ∧
    parse text' (some 'S') [] = .ok g := by
  intro lines lines' text' g
  have hwhole : RuleFor ['S', '→', 'A', ' ', '|', 'b'] 'S' ['A', ' ', '|', 'b'] :=
    ⟨by decide, [], [], _, _, by simp, by simp, .sign, rfl, rfl⟩
  have hfirst : RuleFor ['S', '→', 'A'] 'S' ['A', ' '] :=
    ⟨by decide, [], [], _, ['A'], by simp, by simp, .sign, by decide, rfl⟩
  have hsecond : RuleFor ['S', '→', 'b'] 'S' ['b'] :=
    ⟨by decide, [], [], _, _, by simp, by simp, .sign, rfl, rfl⟩
  have hbelow : RuleFor ['A', '-', '>', 'a'] 'A' ['a'] :=
    ⟨by decide, [], [], _, _, by simp, by simp, .ascii, rfl, rfl⟩
  have hfree : Rule.ArrowFree ['A'] := Rule.arrowFree_of_not_mem (by decide) (by decide)
  have hcomment : Idle [' ', ';', '!'] := .comment ['!'] Text.isBlank_of_mem_space
  have hrelaid : Relaid lines lines' :=
    (Relation.EqvGen.rel _ _ (.within [] [_] (.divide hwhole hfirst hsecond))).trans _ _ _ <|
    (Relation.EqvGen.rel _ _ (.within [_] [] (.swap hsecond hbelow (by decide)))).trans _ _ _ <|
    (Relation.EqvGen.rel _ _ (.within [_] [_] (.arrow ['a'] hfree .ascii .sign))).trans _ _ _ <|
    .rel _ _ (.within [_, _] [_] (.insert hcomment))
  have hspells : Spells lines' text' :=
    .returnFeed (by decide) <| .feed (by decide) <| .returnFeed (by decide) <| .last (by decide)
  have hlines : ∀ line ∈ lines, '\n' ∉ line := by decide
  have hparse : parse (['\n'].intercalate lines) (some 'S') [] = .ok g := by decide +kernel
  exact ⟨hlines, hrelaid, hspells, hparse, parse_of_relaid hlines hrelaid hspells hparse⟩

end Parse

end Sentential.Grammar
