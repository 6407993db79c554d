import Sentential.File
import Sentential.Form

namespace Sentential

/-- A production. An empty right side is the empty word. -/
structure Rule where
  left : Form
  right : Form
  deriving Repr, DecidableEq

namespace Rule

def splitAtArrow? : Text → Option (Text × Text)
  | [] => none
  | '→' :: rest => some ([], rest)
  | '-' :: '>' :: rest => some ([], rest)
  | c :: rest => (splitAtArrow? rest).map fun (before, after) => (c :: before, after)

inductive IsArrow : Text → Prop where
  | ascii : IsArrow ['-', '>']
  | sign : IsArrow ['→']

def ArrowFree (t : Text) : Prop := ∀ arrow, IsArrow arrow → ¬ arrow <:+: t

/-- An arrow of the text, with what stands before and after it. No arrow of either spelling begins
further in front. -/
structure FirstArrow (t before arrow after : Text) : Prop where
  isArrow : IsArrow arrow
  parts : t = before ++ arrow ++ after
  first : ∀ before' arrow' after', IsArrow arrow' → t = before' ++ arrow' ++ after' →
    before.length ≤ before'.length

def sides? (line : Text) : Option (Text × Text) :=
  (splitAtArrow? line).map fun (before, after) => (before.trim, after.trim)

/-- The texts that mean the empty word: nothing, the three Greek letters, and the two English words
in any mixture of upper and lower case. -/
def isEmptyWord (t : Text) : Bool :=
  t.isEmpty || [['λ'], ['Λ'], ['ε']].contains t ||
    [['e', 'p', 's'], ['e', 'p', 's', 'i', 'l', 'o', 'n']].contains (t.map Char.toLower)

def readRight (raw : Text) : Form :=
  let t := raw.trim
  if isEmptyWord t then [] else t

def readAlternatives (right : Text) : List Form :=
  (pieces '|' right).map readRight

def parse? (line : Text) : Option Rule :=
  match sides? line with
  | none => none
  | some (left, right) => if left.isEmpty then none else some ⟨left, readRight right⟩

/-- The one spelling of a rule without blanks around its sides. -/
def print (rule : Rule) : Text := rule.left ++ ['-', '>'] ++ rule.right.shown

def respell (line : Text) : Text :=
  match parse? line with
  | some rule => rule.print
  | none => line

end Rule

namespace Listing

def isRuleLine (line : Text) : Bool := !line.isEmpty && line.head? != some ';'

/-- The rule lines of a text with their numbers, which count every line from 1. Blank lines and
comments, which start with a semicolon, hold no rule. -/
def ruleLines (text : Text) : List (Nat × Text) :=
  ((text.lines.zipIdx 1).map fun (line, number) => (number, line.trim)).filter (isRuleLine ·.2)

def byteLines (bytes : Bytes) : List Bytes := physicalLines 0x0A 0x0D bytes

/-- The rule lines of a file. Each line is decoded by itself, and one that is no text spoils the
listing, whether it holds a rule or not. -/
def read (bytes : Bytes) : Except FileFault (List Text) := do
  let lines ← (byteLines bytes).mapM fun line =>
    match Text.decode? line with
    | some text => .ok text.trim
    | none => .error FileFault.notText
  return lines.filter isRuleLine

end Listing

end Sentential
