import Sentential.Hierarchy.Flags
import Sentential.Rule

namespace Sentential

namespace Rule

def hasSingleLeft (rule : Rule) : Bool :=
  rule.left.length == 1 && rule.left.all isNonterminal

def fitsRightLinear (rule : Rule) : Bool :=
  rule.right.nonterminals.length != 1 || rule.right.getLast?.any isNonterminal

def fitsLeftLinear (rule : Rule) : Bool :=
  rule.right.nonterminals.length != 1 || rule.right.head?.any isNonterminal

def isStartEpsilon (start : Char) (rule : Rule) : Bool :=
  rule.right.isEmpty && rule.left == [start]

end Rule

/-- What some lines say together: the flags, whether the start symbol vanishes by some rule, and
whether it is on some right side. -/
structure Scan where
  flags : Flags
  startEpsilon : Bool
  startOnRight : Bool
  deriving Repr, DecidableEq

namespace Scan

def initial : Scan := ⟨.allSet, false, false⟩

def join (a b : Scan) : Scan :=
  ⟨a.flags.meet b.flags, a.startEpsilon || b.startEpsilon, a.startOnRight || b.startOnRight⟩

def ofRule (start : Char) (rule : Rule) : Scan where
  flags := {
    regularCandidate := decide (rule.right.nonterminals.length ≤ 1)
    rightLinear := rule.fitsRightLinear
    leftLinear := rule.fitsLeftLinear
    contextFree := rule.hasSingleLeft
    contextSensitive := rule.isStartEpsilon start || decide (rule.left.length ≤ rule.right.length) }
  startEpsilon := rule.isStartEpsilon start
  startOnRight := rule.right.contains start

/-- A line that is no rule. It belongs to no restricted type, but says nothing on linearity. -/
def malformed : Scan := ⟨⟨false, true, true, false, false⟩, false, false⟩

def ofLine (start : Char) (line : Text) : Scan :=
  match Rule.parse? line with
  | some rule => ofRule start rule
  | none => malformed

def trail (start : Char) (known : Scan) : List Text → List Scan
  | [] => []
  | line :: rest =>
    let next := known.join (ofLine start line)
    next :: trail start next rest

def ofLines (start : Char) (lines : List Text) : Scan :=
  lines.foldl (fun known line => known.join (ofLine start line)) initial

def startVanishes (s : Scan) : Bool := s.startEpsilon && s.startOnRight

def isLinear (s : Scan) : Bool := s.flags.rightLinear || s.flags.leftLinear

/-- The flags after the last step, which weighs what only counts together: the vanishing start symbol
against its use on a right side, and the two linear forms against each other. -/
def verdict (s : Scan) : Flags :=
  { s.flags with
    regularCandidate := s.flags.regularCandidate && s.flags.contextFree && s.isLinear
    contextSensitive := s.flags.contextSensitive && !s.startVanishes }

end Scan

end Sentential
