import Mathlib.Logic.Relation
import Sentential.Diagnostic
import Sentential.Grammar.Basic
import Sentential.Rule

namespace Sentential

namespace Grammar

inductive Gives : Text → Char → List Form → Prop where
  | rule {line right : Text} {x : Char} :
      Rule.sides? line = some ([x], right) → isNonterminal x →
      Gives line x (Rule.readAlternatives right)

inductive Faulty : Text → Cause → Prop where
  | missingArrow {line : Text} : Rule.sides? line = none → Faulty line .missingArrow
  | invalidLeftSide {line left right : Text} :
      Rule.sides? line = some (left, right) → (¬ ∃ x, isNonterminal x ∧ left = [x]) →
      Faulty line (.invalidLeftSide left)

def Defines (text : Text) (x : Char) : Prop :=
  ∃ number line forms, (number, line) ∈ Listing.ruleLines text ∧ Gives line x forms

/-- One report for each faulty line, in the order of the lines. -/
structure FaultReports (text : Text) (file : FileName) (reports : List Diagnostic) : Prop where
  ascending : reports.Pairwise fun d e => d.location.line < e.location.line
  mem : ∀ d, d ∈ reports ↔ ∃ number line,
    (number, line) ∈ Listing.ruleLines text ∧ Faulty line d.cause ∧ d.location = ⟨file, number⟩

/-- The nonterminals of some forms for which the text has no rules, each once, in the order in which
they first come up. -/
structure Undefined (text : Text) (forms : List Form) (found : List Char) : Prop where
  order : found.Pairwise fun c d => forms.flatten.idxOf c < forms.flatten.idxOf d
  mem : ∀ c, c ∈ found ↔ (∃ a ∈ forms, c ∈ a) ∧ isNonterminal c ∧ ¬ Defines text c

inductive UseReports (text : Text) (file : FileName) :
    List (Nat × Text) → List Diagnostic → Prop where
  | nil : UseReports text file [] []
  | line {number : Nat} {line : Text} {x : Char} {forms : List Form} {found : List Char}
      {rest : List (Nat × Text)} {reports : List Diagnostic} :
      Gives line x forms → Undefined text forms found → UseReports text file rest reports →
      UseReports text file ((number, line) :: rest)
        (found.map (fun c => ⟨⟨file, number⟩, .undefinedNonterminal c⟩) ++ reports)

inductive StartsFrom : List (Nat × Text) → Option Char → Char → Prop where
  | asked {lines : List (Nat × Text)} (start : Char) : StartsFrom lines (some start) start
  | first {number : Nat} {line : Text} {start : Char} {forms : List Form}
      {rest : List (Nat × Text)} :
      Gives line start forms → StartsFrom ((number, line) :: rest) none start

def alternativesOf (x : Char) (lines : List (Nat × Text)) : List Form :=
  lines.flatMap fun (_, line) =>
    match Rule.sides? line with
    | some (left, right) => if left = [x] then Rule.readAlternatives right else []
    | none => []

/-- What reading a text must come to: the grammar of its rules, or the reports on what is wrong. -/
inductive Answers (text : Text) (startOverride : Option Char) (file : FileName) :
    Except (List Diagnostic) Grammar → Prop where
  | faulty {number : Nat} {line : Text} {cause : Cause} {reports : List Diagnostic} :
      (number, line) ∈ Listing.ruleLines text → Faulty line cause →
      FaultReports text file reports → Answers text startOverride file (.error reports)
  | empty :
      Listing.ruleLines text = [] → startOverride = none →
      Answers text startOverride file (.error [⟨.wholeFile file, .emptyGrammar⟩])
  | undefinedStart {start : Char} {uses : List Diagnostic} :
      StartsFrom (Listing.ruleLines text) startOverride start →
      UseReports text file (Listing.ruleLines text) uses → ¬ Defines text start →
      Answers text startOverride file (.error (uses ++ [⟨.wholeFile file, .undefinedStart start⟩]))
  | undefined {start : Char} {uses : List Diagnostic} :
      StartsFrom (Listing.ruleLines text) startOverride start →
      UseReports text file (Listing.ruleLines text) uses → Defines text start → uses ≠ [] →
      Answers text startOverride file (.error uses)
  | grammar {g : Grammar} :
      StartsFrom (Listing.ruleLines text) startOverride g.start →
      UseReports text file (Listing.ruleLines text) [] → Defines text g.start →
      (∀ x, x ∈ g.rules.symbols ↔ Defines text x) →
      (∀ x, g.alternatives x = alternativesOf x (Listing.ruleLines text)) →
      Answers text startOverride file (.ok g)

/-- A line is a rule for a symbol with a right side. Blanks around the two sides do not count. -/
structure RuleFor (line : Text) (x : Char) (right : Text) : Prop where
  nonterminal : isNonterminal x
  written : ∃ u v arrow raw, (∀ c ∈ u, Text.isBlank c) ∧ (∀ c ∈ v, Text.isBlank c) ∧
    Rule.IsArrow arrow ∧ Text.trim raw = right.trim ∧ line = u ++ x :: v ++ arrow ++ raw

inductive Idle : Text → Prop where
  | blank {line : Text} : (∀ c ∈ line, Text.isBlank c) → Idle line
  | comment {u : Text} (remark : Text) : (∀ c ∈ u, Text.isBlank c) → Idle (u ++ ';' :: remark)

inductive Change : List Text → List Text → Prop where
  | swap {line line' right right' : Text} {x y : Char} :
      RuleFor line x right → RuleFor line' y right' → x ≠ y → Change [line, line'] [line', line]
  | divide {line first second right right' : Text} {x : Char} :
      RuleFor line x (right ++ '|' :: right') → RuleFor first x right → RuleFor second x right' →
      Change [line] [first, second]
  | insert {line : Text} : Idle line → Change [] [line]
  | arrow {before arrow arrow' : Text} (after : Text) :
      Rule.ArrowFree before → Rule.IsArrow arrow → Rule.IsArrow arrow' →
      Change [before ++ arrow ++ after] [before ++ arrow' ++ after]

inductive Changed : List Text → List Text → Prop where
  | within {old new : List Text} (above below : List Text) :
      Change old new → Changed (above ++ old ++ below) (above ++ new ++ below)

/-- Any number of changes, each made or taken back. -/
def Relaid : List Text → List Text → Prop := Relation.EqvGen Changed

/-- A text that some lines are written to. A line ends with a line feed, with a carriage return and
a line feed, or with the text. -/
inductive Spells : List Text → Text → Prop where
  | nil : Spells [] []
  | last {line : Text} : '\n' ∉ line → Spells [line] line
  | feed {line text : Text} {lines : List Text} :
      '\n' ∉ line → Spells lines text → Spells (line :: lines) (line ++ '\n' :: text)
  | returnFeed {line text : Text} {lines : List Text} :
      '\n' ∉ line → Spells lines text → Spells (line :: lines) (line ++ '\r' :: '\n' :: text)

end Grammar

end Sentential
