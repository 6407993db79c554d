import Sentential.Diagnostic
import Sentential.Grammar.Basic
import Sentential.Rule

namespace Sentential

namespace Grammar

structure Line where
  number : Nat
  symbol : Char
  alternatives : List Form
  deriving Repr, DecidableEq

def readLine (line : Text) : Except Cause (Char × List Form) :=
  match Rule.sides? line with
  | none => .error .missingArrow
  | some ([x], right) =>
    if isNonterminal x then .ok (x, Rule.readAlternatives right) else .error (.invalidLeftSide [x])
  | some (left, _) => .error (.invalidLeftSide left)

def readNumbered (number : Nat) (line : Text) : Except (Nat × Cause) Line :=
  match readLine line with
  | .ok (symbol, alternatives) => .ok ⟨number, symbol, alternatives⟩
  | .error cause => .error (number, cause)

/-- The lines that could be read, or else the reports on those that could not. -/
def readLines (file : FileName) (text : Text) : Except (List Diagnostic) (List Line) :=
  let results := (Listing.ruleLines text).map fun (number, line) => readNumbered number line
  let faults := results.filterMap fun
    | .error (number, cause) => some ⟨⟨file, number⟩, cause⟩
    | .ok _ => none
  if faults.isEmpty then
    .ok (results.filterMap fun
      | .ok line => some line
      | .error _ => none)
  else .error faults

def definedSymbols (lines : List Line) : List Char := lines.map Line.symbol

def Line.undefinedSymbols (defined : List Char) (line : Line) : List Char :=
  ((line.alternatives.flatten.filter isNonterminal).filter (!defined.contains ·)).eraseDups

def undefinedReports (file : FileName) (start : Char) (lines : List Line) : List Diagnostic :=
  let defined := definedSymbols lines
  let used := lines.flatMap fun line =>
    (line.undefinedSymbols defined).map fun c => ⟨⟨file, line.number⟩, .undefinedNonterminal c⟩
  used ++ if defined.contains start then [] else [⟨.wholeFile file, .undefinedStart start⟩]

def ofLines (start : Char) (lines : List Line) : Grammar :=
  lines.foldl (fun g line => g.extend line.symbol line.alternatives) (empty start)

/-- Reads a grammar from its text. `file` only names the place of what is reported. -/
def parse (text : Text) (startOverride : Option Char) (file : FileName) :
    Except (List Diagnostic) Grammar := do
  let lines ← readLines file text
  match startOverride.or (lines.head?.map Line.symbol) with
  | none => .error [⟨.wholeFile file, .emptyGrammar⟩]
  | some start =>
    let reports := undefinedReports file start lines
    if reports.isEmpty then .ok (ofLines start lines) else .error reports

end Grammar

def FileFault.report (fault : FileFault) (file : FileName) : List Diagnostic :=
  [⟨.wholeFile file, .fileFault fault⟩]

/-- The grammar in a file. The contents are decoded as a whole. -/
def Grammar.load (file : FileName) (startOverride : Option Char)
    (contents : Except FileFault Bytes) : Except (List Diagnostic) Grammar :=
  match contents with
  | .error fault => .error (fault.report file)
  | .ok bytes =>
    match Text.decode? bytes with
    | none => .error (FileFault.notText.report file)
    | some text => Grammar.parse text startOverride file

/-- The rule lines in a file. -/
def Listing.load (file : FileName) (contents : Except FileFault Bytes) :
    Except (List Diagnostic) (List Text) :=
  match contents.bind Listing.read with
  | .error fault => .error (fault.report file)
  | .ok lines => .ok lines

end Sentential
