import Sentential.Grammar.Requirements
import Sentential.Proofs.Grammar.Parser

namespace Sentential

theorem pairwise_idxOf_eraseDups_filter (p : Char → Bool) (xs : List Char) :
    (xs.filter p).eraseDups.Pairwise fun c d => xs.idxOf c < xs.idxOf d := by
  induction xs generalizing p with
  | nil => exact .nil
  | cons x xs ih =>
    -- an `x` in front puts off the first occurrences of the other characters by one
    have hshift {cs : List Char} (hne : ∀ c ∈ cs, c ≠ x)
        (h : cs.Pairwise fun c d => xs.idxOf c < xs.idxOf d) :
        cs.Pairwise fun c d => (x :: xs).idxOf c < (x :: xs).idxOf d := by
      refine h.imp_of_mem fun hc hd hlt => ?_
      rw [List.idxOf_cons_ne xs (hne _ hc).symm, List.idxOf_cons_ne xs (hne _ hd).symm]
      exact Nat.succ_lt_succ hlt
    by_cases hx : p x
    · rw [List.filter_cons_of_pos hx, List.eraseDups_cons, List.filter_filter]
      have hne : ∀ c ∈ (xs.filter fun c => !c == x && p c).eraseDups, c ≠ x := by
        intro c hc
        simp only [List.mem_eraseDups, List.mem_filter, Bool.and_eq_true] at hc
        simpa using hc.2.1
      refine List.pairwise_cons.mpr ⟨fun c hc => ?_, hshift hne (ih _)⟩
      rw [List.idxOf_cons_self, List.idxOf_cons_ne xs (hne c hc).symm]
      exact Nat.succ_pos _
    · rw [List.filter_cons_of_neg hx]
      refine hshift (fun c hc hcx => ?_) (ih p)
      rw [List.mem_eraseDups, List.mem_filter] at hc
      exact hx (hcx ▸ hc.2)

theorem exists_mem_of_forall₂ {α β : Type} {R : α → β → Prop} {xs : List α} {ys : List β}
    (h : List.Forall₂ R xs ys) {a : α} (ha : a ∈ xs) : ∃ b ∈ ys, R a b := by
  induction h with
  | nil => exact absurd ha List.not_mem_nil
  | @cons x y xs ys hxy _ ih =>
    obtain rfl | ha := List.mem_cons.mp ha
    · exact ⟨y, List.mem_cons_self, hxy⟩
    · obtain ⟨b, hb, hab⟩ := ih ha
      exact ⟨b, List.mem_cons_of_mem y hb, hab⟩

namespace Grammar

theorem gives_iff {line : Text} {x : Char} {forms : List Form} :
    Gives line x forms ↔ readLine line = .ok (x, forms) := by
  rw [readLine_eq_ok_iff]
  constructor
  · intro h
    obtain ⟨hs, hx⟩ := h
    exact ⟨_, hs, hx, rfl⟩
  · intro h
    obtain ⟨right, hs, hx, rfl⟩ := h
    exact .rule hs hx

theorem faulty_iff {line : Text} {cause : Cause} :
    Faulty line cause ↔ readLine line = .error cause := by
  constructor
  · intro h
    cases h with
    | missingArrow hs => rw [readLine, hs]
    | @invalidLeftSide left right hs hne =>
      rw [readLine, hs]
      match left, hne with
      | [], _ => rfl
      | [x], hne => exact if_neg fun hx => hne ⟨x, hx, rfl⟩
      | _ :: _ :: _, _ => rfl
  · intro h
    unfold readLine at h
    split at h
    · next hs =>
      cases h
      exact .missingArrow hs
    · next x right hs =>
      split at h
      · cases h
      · next hx =>
        cases h
        refine .invalidLeftSide hs ?_
        intro hex
        obtain ⟨y, hy, he⟩ := hex
        exact hx (List.singleton_inj.mp he ▸ hy)
    · next left right hl hs =>
      cases h
      refine .invalidLeftSide hs ?_
      intro hex
      obtain ⟨y, hy, he⟩ := hex
      exact hl y he

def faultOf? (file : FileName) (p : Nat × Text) : Option Diagnostic :=
  match readLine p.2 with
  | .error cause => some ⟨⟨file, p.1⟩, cause⟩
  | .ok _ => none

theorem faultOf?_eq_some_iff {file : FileName} {p : Nat × Text} {d : Diagnostic} :
    faultOf? file p = some d ↔ Faulty p.2 d.cause ∧ d.location = ⟨file, p.1⟩ := by
  obtain ⟨location, cause⟩ := d
  unfold faultOf?
  rw [faulty_iff]
  split
  · next h =>
    rw [h]
    simp [eq_comm, and_comm]
  · next h =>
    rw [h]
    simp

theorem faultReports_filterMap (file : FileName) (text : Text) :
    FaultReports text file ((Listing.ruleLines text).filterMap (faultOf? file)) := by
  constructor
  · refine (Listing.ascending_ruleLines text).filterMap _ ?_
    intro p q hpq d hd e he
    rw [(faultOf?_eq_some_iff.mp hd).2, (faultOf?_eq_some_iff.mp he).2]
    exact hpq
  · intro d
    simp only [List.mem_filterMap, faultOf?_eq_some_iff, Prod.exists]

theorem FaultReports.unique {file : FileName} {text : Text} {reports reports' : List Diagnostic}
    (h : FaultReports text file reports) (h' : FaultReports text file reports') :
    reports = reports' :=
  eq_of_ascending (fun d => d.location.line) h.ascending h'.ascending
    fun d => (h.mem d).trans (h'.mem d).symm

theorem faultReports_of_readLines {file : FileName} {text : Text} {reports : List Diagnostic}
    (h : readLines file text = .error reports) :
    FaultReports text file reports ∧ reports ≠ [] := by
  unfold readLines at h
  simp only at h
  split at h
  · cases h
  · next hne =>
    cases h
    refine ⟨?_, mt List.isEmpty_iff.mpr hne⟩
    convert faultReports_filterMap file text using 1
    rw [List.filterMap_map]
    congr 1
    funext p
    simp only [Function.comp, readNumbered, faultOf?]
    cases readLine p.2 <;> rfl

theorem Gives.unique {line : Text} {x y : Char} {forms forms' : List Form}
    (h : Gives line x forms) (h' : Gives line y forms') : x = y ∧ forms = forms' := by
  rw [gives_iff] at h h'
  exact Prod.mk.inj (Except.ok.inj (h.symm.trans h'))

abbrev ReadFrom (lines : List (Nat × Text)) (read : List Line) : Prop :=
  List.Forall₂ (fun p line => line.number = p.1 ∧ Gives p.2 line.symbol line.alternatives) lines read

theorem readLines_eq_ok_iff_readFrom {file : FileName} {text : Text} {lines : List Line} :
    readLines file text = .ok lines ↔ ReadFrom (Listing.ruleLines text) lines := by
  rw [readLines_eq_ok_iff, ← List.forall₂_eq_eq_eq, List.forall₂_map_left_iff,
    List.forall₂_map_right_iff]
  simp only [readNumbered_eq_ok_iff, ReadFrom, gives_iff]

section ReadFrom

variable {text : Text} {file : FileName} {lines : List (Nat × Text)} {read : List Line}

theorem ReadFrom.mem_definedSymbols_iff (h : ReadFrom lines read) {x : Char} :
    x ∈ definedSymbols read ↔ ∃ number line forms, (number, line) ∈ lines ∧ Gives line x forms := by
  constructor
  · intro hx
    obtain ⟨line, hl, rfl⟩ := List.mem_map.mp hx
    obtain ⟨⟨number, t⟩, hp, -, hg⟩ := exists_mem_of_forall₂ h.flip hl
    exact ⟨number, t, line.alternatives, hp, hg⟩
  · intro hx
    obtain ⟨number, t, forms, hp, ht⟩ := hx
    obtain ⟨line, hl, -, hg⟩ := exists_mem_of_forall₂ h hp
    rw [(ht.unique hg).1]
    exact List.mem_map_of_mem hl

theorem ReadFrom.defined_iff (h : ReadFrom (Listing.ruleLines text) read) (x : Char) :
    x ∈ definedSymbols read ↔ Defines text x := h.mem_definedSymbols_iff

def usesOf (file : FileName) (defined : List Char) (read : List Line) : List Diagnostic :=
  read.flatMap fun line =>
    (line.undefinedSymbols defined).map fun c => ⟨⟨file, line.number⟩, .undefinedNonterminal c⟩

theorem undefined_undefinedSymbols {defined : List Char}
    (hd : ∀ c, c ∈ defined ↔ Defines text c) (line : Line) :
    Undefined text line.alternatives (line.undefinedSymbols defined) := by
  constructor
  · rw [Line.undefinedSymbols, List.filter_filter]
    exact pairwise_idxOf_eraseDups_filter _ _
  · intro c
    rw [mem_undefinedSymbols, hd]

theorem ReadFrom.useReports (h : ReadFrom lines read) {defined : List Char}
    (hd : ∀ c, c ∈ defined ↔ Defines text c) (file : FileName) :
    UseReports text file lines (usesOf file defined read) := by
  induction h with
  | nil => exact .nil
  | @cons p line rest read hp _ ih =>
    obtain ⟨number, t⟩ := p
    obtain ⟨hn, hg⟩ := hp
    change line.number = number at hn
    rw [usesOf, List.flatMap_cons, hn]
    exact .line hg (undefined_undefinedSymbols hd line) ih

/-- Lines that can be reported on by their uses can be read. -/
theorem UseReports.exists_readFrom {uses : List Diagnostic} (h : UseReports text file lines uses) :
    ∃ read, ReadFrom lines read := by
  induction h with
  | nil => exact ⟨[], .nil⟩
  | @line number t x forms found rest reports hg _ _ ih =>
    obtain ⟨read, hr⟩ := ih
    exact ⟨⟨number, x, forms⟩ :: read, .cons ⟨rfl, hg⟩ hr⟩

theorem Undefined.unique {forms : List Form} {found found' : List Char}
    (h : Undefined text forms found) (h' : Undefined text forms found') : found = found' :=
  eq_of_ascending (fun c => forms.flatten.idxOf c) h.order h'.order
    fun c => (h.mem c).trans (h'.mem c).symm

theorem UseReports.unique {uses uses' : List Diagnostic} (h : UseReports text file lines uses)
    (h' : UseReports text file lines uses') : uses = uses' := by
  induction h generalizing uses' with
  | nil =>
    cases h'
    rfl
  | line hg hu _ ih =>
    cases h' with
    | line hg' hu' hrest' =>
      obtain ⟨rfl, rfl⟩ := hg.unique hg'
      rw [hu.unique hu', ih hrest']

theorem ReadFrom.startsFrom_iff (h : ReadFrom lines read) {startOverride : Option Char}
    {start : Char} :
    StartsFrom lines startOverride start ↔
      startOverride.or (read.head?.map Line.symbol) = some start := by
  cases startOverride with
  | some y =>
    constructor
    · intro hs
      cases hs
      rfl
    · intro hs
      cases hs
      exact .asked start
  | none =>
    constructor
    · intro hs
      cases hs with
      | first hg =>
        cases h with
        | cons hp _ => exact congrArg some (hp.2.unique hg).1
    · intro hs
      cases h with
      | nil => cases hs
      | cons hp _ =>
        cases hs
        exact .first hp.2

theorem Gives.alternativesOf_cons {number : Nat} {line : Text} {x y : Char} {forms : List Form}
    (h : Gives line y forms) (rest : List (Nat × Text)) :
    alternativesOf x ((number, line) :: rest) =
      (if y = x then forms else []) ++ alternativesOf x rest := by
  obtain ⟨hs, -⟩ := h
  simp [alternativesOf, hs]

theorem ReadFrom.alternatives_ofLines (h : ReadFrom lines read) (start x : Char) :
    (ofLines start read).alternatives x = alternativesOf x lines := by
  rw [Grammar.alternatives_ofLines]
  induction h with
  | nil => rfl
  | @cons p line rest read hp _ ih =>
    rw [hp.2.alternativesOf_cons, ← ih, List.map_cons, List.filter_cons]
    by_cases hx : line.symbol = x <;> simp [hx, Line.entry]

end ReadFrom

section Answers

variable {text : Text} {startOverride : Option Char} {file : FileName} {read : List Line}
  {start : Char} {uses : List Diagnostic}

theorem parse_of_readFrom (h : ReadFrom (Listing.ruleLines text) read)
    (hs : StartsFrom (Listing.ruleLines text) startOverride start) :
    parse text startOverride file =
      if (undefinedReports file start read).isEmpty then .ok (ofLines start read)
      else .error (undefinedReports file start read) := by
  have hl : readLines file text = .ok read := readLines_eq_ok_iff_readFrom.mpr h
  have hs := h.startsFrom_iff.mp hs
  simp only [parse, bind, Except.bind, hl, hs]

theorem undefinedReports_of_readFrom (h : ReadFrom (Listing.ruleLines text) read)
    (hu : UseReports text file (Listing.ruleLines text) uses) (start : Char) :
    (Defines text start → undefinedReports file start read = uses) ∧
    (¬ Defines text start →
      undefinedReports file start read = uses ++ [⟨.wholeFile file, .undefinedStart start⟩]) := by
  have hd := h.defined_iff
  have huses : uses = usesOf file (definedSymbols read) read := hu.unique (h.useReports hd file)
  have hreports : undefinedReports file start read = uses ++
      if (definedSymbols read).contains start then []
      else [⟨.wholeFile file, .undefinedStart start⟩] := by
    rw [huses]
    rfl
  rw [hreports]
  constructor
  · intro hstart
    rw [if_pos (List.contains_iff_mem.mpr ((hd start).mpr hstart)), List.append_nil]
  · intro hstart
    rw [if_neg (mt List.contains_iff_mem.mp (mt (hd start).mp hstart))]

theorem mem_symbols_iff_of_readFrom (h : ReadFrom (Listing.ruleLines text) read) (start x : Char) :
    x ∈ (ofLines start read).rules.symbols ↔ Defines text x := by
  rw [mem_symbols_ofLines, h.defined_iff]

theorem answers_ofLines (h : ReadFrom (Listing.ruleLines text) read)
    (hs : StartsFrom (Listing.ruleLines text) startOverride start)
    (hu : UseReports text file (Listing.ruleLines text) []) (hstart : Defines text start) :
    Answers text startOverride file (.ok (ofLines start read)) := by
  have hg : (ofLines start read).start = start := start_ofLines start read
  refine .grammar ?_ hu ?_ (mem_symbols_iff_of_readFrom h start) (h.alternatives_ofLines start)
  · rw [hg]
    exact hs
  · rw [hg]
    exact hstart

theorem answers_parse (text : Text) (startOverride : Option Char) (file : FileName) :
    Answers text startOverride file (parse text startOverride file) := by
  cases hl : readLines file text with
  | error reports =>
    obtain ⟨hreports, hne⟩ := faultReports_of_readLines hl
    obtain ⟨d, hd⟩ := List.exists_mem_of_ne_nil reports hne
    obtain ⟨number, line, hm, hf, -⟩ := (hreports.mem d).mp hd
    simp only [parse, bind, Except.bind, hl]
    exact .faulty hm hf hreports
  | ok read =>
    have hread := readLines_eq_ok_iff_readFrom.mp hl
    cases hs : startOverride.or (read.head?.map Line.symbol) with
    | none =>
      -- no start symbol is asked for, and there is no first line
      obtain ⟨rfl, hnil⟩ := Option.or_eq_none_iff.mp hs
      obtain rfl := List.head?_eq_none_iff.mp (Option.map_eq_none_iff.mp hnil)
      simp only [parse, bind, Except.bind, hl, hs]
      exact .empty (List.forall₂_nil_right_iff.mp hread) rfl
    | some start =>
      have hstarts := hread.startsFrom_iff.mpr hs
      have huses := hread.useReports hread.defined_iff file
      obtain ⟨hreports, hreports'⟩ := undefinedReports_of_readFrom hread huses start
      rw [parse_of_readFrom hread hstarts]
      by_cases hstart : Defines text start
      · rw [hreports hstart]
        by_cases hnil : usesOf file (definedSymbols read) read = []
        · rw [hnil] at huses ⊢
          exact answers_ofLines hread hstarts huses hstart
        · rw [if_neg (mt List.isEmpty_iff.mp hnil)]
          exact .undefined hstarts huses hstart hnil
      · rw [hreports' hstart, if_neg (by simp)]
        exact .undefinedStart hstarts huses hstart

theorem parse_of_answers {result : Except (List Diagnostic) Grammar}
    (h : Answers text startOverride file result) : parse text startOverride file = result := by
  cases h with
  | @faulty number line cause reports hm hf hreports =>
    cases hl : readLines file text with
    | error reports' =>
      simp only [parse, bind, Except.bind, hl]
      rw [(faultReports_of_readLines hl).1.unique hreports]
    | ok read =>
      -- a line that was read is not faulty
      have hread := readLines_eq_ok_iff_readFrom.mp hl
      obtain ⟨line', -, -, hg⟩ := exists_mem_of_forall₂ hread hm
      rw [gives_iff, faulty_iff.mp hf] at hg
      cases hg
  | empty hnil hs =>
    have hread : ReadFrom (Listing.ruleLines text) [] := hnil ▸ .nil
    have hl : readLines file text = .ok [] := readLines_eq_ok_iff_readFrom.mpr hread
    simp only [parse, bind, Except.bind, hl, hs]
    rfl
  | @undefinedStart start uses hs hu hstart =>
    obtain ⟨read, hread⟩ := hu.exists_readFrom
    rw [parse_of_readFrom hread hs, (undefinedReports_of_readFrom hread hu _).2 hstart,
      if_neg (by simp)]
  | @undefined start uses hs hu hstart hne =>
    obtain ⟨read, hread⟩ := hu.exists_readFrom
    rw [parse_of_readFrom hread hs, (undefinedReports_of_readFrom hread hu _).1 hstart,
      if_neg (mt List.isEmpty_iff.mp hne)]
  | @grammar g hs hu hstart hsymbols halternatives =>
    obtain ⟨read, hread⟩ := hu.exists_readFrom
    have hg : ofLines g.start read = g := by
      apply Grammar.ext (start_ofLines g.start read)
      apply RuleTable.eq_of_alternatives
      · intro x
        rw [mem_symbols_iff_of_readFrom hread, hsymbols]
      · intro x
        exact (hread.alternatives_ofLines g.start x).trans (halternatives x).symm
    rw [parse_of_readFrom hread hs, (undefinedReports_of_readFrom hread hu _).1 hstart, hg]
    rfl

/-- A text that is read as a grammar is read as the same grammar with any other start symbol that has
rules, and nothing but the start symbol is reported if it has none. -/
theorem parse_some_of_parse {g : Grammar} (h : parse text startOverride file = .ok g) (start : Char) :
    parse text (some start) file =
      if start ∈ g.rules.symbols then .ok { g with start }
      else .error [⟨.wholeFile file, .undefinedStart start⟩] := by
  have ha : Answers text startOverride file (.ok g) := h ▸ answers_parse text startOverride file
  cases ha with
  | grammar _ hu _ hsymbols halternatives =>
    split
    · next hx =>
      exact parse_of_answers
        (.grammar (g := { g with start }) (.asked start) hu ((hsymbols start).mp hx) hsymbols
          halternatives)
    · next hx =>
      exact parse_of_answers (.undefinedStart (.asked start) hu (mt (hsymbols start).mpr hx))

/-- The rule lines are the physical lines that hold rules, with their numbers in ascending order, and
reading a text comes to just what they require: reports on the faulty lines, or else on the lack of
rules, or else on the symbols without rules, or else the grammar. -/
theorem parse_eq_iff_answers (text : Text) (startOverride : Option Char) (file : FileName) :
    (Listing.ruleLines text).Pairwise (fun p q => p.1 < q.1) ∧
    (∀ number line, (number, line) ∈ Listing.ruleLines text ↔
      ∃ i raw, (Text.lines text)[i]? = some raw ∧ number = i + 1 ∧ line = raw.trim ∧
        line ≠ [] ∧ line.head? ≠ some ';') ∧
    (∀ result, parse text startOverride file = result ↔ Answers text startOverride file result) := by
  refine ⟨Listing.ascending_ruleLines text, fun number line => Listing.mem_ruleLines_iff, ?_⟩
  intro result
  constructor
  · intro h
    rw [← h]
    exact answers_parse text startOverride file
  · exact parse_of_answers

/-- A line that cannot be read keeps all uses from being reported. -/
example : parse "S -> AXA\n\nA = a\nab -> c".toList none [] =
    .error [⟨⟨[], 3⟩, .missingArrow⟩, ⟨⟨[], 4⟩, .invalidLeftSide ['a', 'b']⟩] := by decide +kernel

/-- A symbol may be used before its rules come, and the start symbol is reported last. -/
example : parse "S -> XABX\n; rules for A\nA -> a".toList (some 'T') [] =
    .error [⟨⟨[], 1⟩, .undefinedNonterminal 'X'⟩, ⟨⟨[], 1⟩, .undefinedNonterminal 'B'⟩,
      ⟨⟨[], 0⟩, .undefinedStart 'T'⟩] := by decide +kernel

end Answers

end Grammar

end Sentential
