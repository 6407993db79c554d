import Sentential.Hierarchy.Scan
import Sentential.Trace

namespace Sentential

structure Classification where
  grammarType : GrammarType
  flags : Flags
  /-- The flags after each line, before the last step. -/
  history : List Flags
  trace : Trace
  deriving Repr, DecidableEq

namespace Classification

def openingNotes (start : Char) (lines : List Text) : List String :=
  [s!"Start symbol: {start}", s!"Rule count: {lines.length}", ""]

def yesNo (b : Bool) : String := if b then "yes" else "no"

def holdsOrFails (b : Bool) : String := if b then "holds" else "FAILS"

def linearityNotes (rule : Rule) : List String :=
  let count := rule.right.nonterminals.length
  if rule.right.isEmpty then []
  else if count = 0 then ["  - right side is terminals only, fits either linear form"]
  else if count = 1 then
    let position := rule.right.findIdx isNonterminal
    let right := holdsOrFails rule.fitsRightLinear
    let left := holdsOrFails rule.fitsLeftLinear
    [s!"  - right-linear form: {right} (nonterminal at position {position})",
     s!"  - left-linear form: {left} (nonterminal at position {position})"]
  else ["  - regularity: FAILS (more than one nonterminal on the right side)"]

def lengthNote (start : Char) (rule : Rule) : String :=
  if rule.isStartEpsilon start then
    s!"  - {start}->ε found, allowed for now if {start} appears on no right side"
  else if rule.right.length < rule.left.length then
    "  - context-sensitive length check: FAILS (right side shorter than left)"
  else "  - context-sensitive length check: holds (|right| >= |left|)"

def ruleNotes (start : Char) (number : Nat) (rule : Rule) : List String :=
  let left := String.ofList rule.left
  let right := String.ofList rule.right.shown
  let leftCount := rule.left.nonterminals.length
  let rightCount := rule.right.nonterminals.length
  let single := yesNo rule.hasSingleLeft
  [s!"Rule {number}: '{left}' -> '{right}'",
   s!"  - left side: length {rule.left.length}, {leftCount} uppercase (single nonterminal? {single})",
   s!"  - right side: length {rule.right.length}, {rightCount} uppercase"] ++
    linearityNotes rule ++ [lengthNote start rule, ""]

def lineNotes (start : Char) (line : Text) (number : Nat) : List String :=
  match Rule.parse? line with
  | some rule => ruleNotes start number rule
  | none =>
    let raw := String.ofList line
    [s!"Rule {number}: malformed '{raw}' (expected 'A->B'), skipping."]

def closingNotes (start : Char) (s : Scan) : List String :=
  let startNote :=
    s!"{start}->ε is present but {start} appears on a right side, so the grammar is not context-sensitive."
  let mixedNote :=
    "The rules are neither all right-linear nor all left-linear, so the grammar is not regular."
  let leftNote := "Some left side is not a single nonterminal, so the grammar is not context-free " ++
    "and cannot be regular."
  (if s.startVanishes then [startNote] else []) ++
  (if !s.flags.contextFree then [leftNote] else if !s.isLinear then [mixedNote] else []) ++
  ["",
   "Flag summary:",
   s!"  regular candidate = {s.verdict.regularCandidate}",
   s!"  context-free = {s.verdict.contextFree}",
   s!"  context-sensitive = {s.verdict.contextSensitive}",
   "",
   s!"Result: {s.verdict.grammarType.shown}"]

def notes (start : Char) (lines : List Text) : List String :=
  openingNotes start lines ++
    (lines.zipIdx 1).flatMap (fun (line, number) => lineNotes start line number) ++
    closingNotes start (.ofLines start lines)

end Classification

/-- Places a listing, one rule a line, in the hierarchy. Lines that are no rules are noted and count
against every restricted type. -/
def classify (start : Char) (lines : List Text) : Classification :=
  let flags := (Scan.ofLines start lines).verdict
  { grammarType := flags.grammarType
    flags
    history := (Scan.trail start .initial lines).map Scan.flags
    trace := ⟨Classification.notes start lines⟩ }

def Flags.shown (f : Flags) : String :=
  let names := ["regular_candidate", "right_linear", "left_linear", "context_free",
    "context_sensitive"]
  let fields := (names.zip f.toList).map fun (name, value) => name ++ ": " ++ toString value
  "Flags \x7b " ++ ", ".intercalate fields ++ " \x7d"

namespace Classification

def speaker : String := "chomsky::classifier"

def lineRecords (start : Char) (line : Text) (number : Nat) (flags : Flags) : List Log.Record :=
  (lineNotes start line number).map Log.ofLine ++
    [⟨.debug, speaker, "classified rule", [("rule", toString number), ("flags", flags.shown)]⟩]

def records (start : Char) (lines : List Text) : List Log.Record :=
  let result := classify start lines
  (openingNotes start lines).map Log.ofLine ++
    ((lines.zip result.history).zipIdx 1).flatMap
      (fun ((line, flags), number) => lineRecords start line number flags) ++
    (closingNotes start (.ofLines start lines)).map Log.ofLine ++
    [⟨.debug, speaker, "classification finished",
      [("grammar_type", result.grammarType.shown), ("rules", toString lines.length)]⟩]

end Classification

end Sentential
