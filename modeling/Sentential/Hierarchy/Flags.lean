namespace Sentential

inductive GrammarType where
  | unrestricted
  | contextSensitive
  | contextFree
  | regular
  deriving Repr, DecidableEq

namespace GrammarType

def all : List GrammarType := [unrestricted, contextSensitive, contextFree, regular]

def code : GrammarType → Nat
  | unrestricted => 0
  | contextSensitive => 1
  | contextFree => 2
  | regular => 3

def ofCode? (n : Nat) : Option GrammarType := all[n]?

instance : LE GrammarType := ⟨fun a b => a.code ≤ b.code⟩
instance : LT GrammarType := ⟨fun a b => a.code < b.code⟩
instance : Ord GrammarType := ⟨fun a b => compare a.code b.code⟩
instance (a b : GrammarType) : Decidable (a ≤ b) := inferInstanceAs (Decidable (a.code ≤ b.code))
instance (a b : GrammarType) : Decidable (a < b) := inferInstanceAs (Decidable (a.code < b.code))

def label : GrammarType → String
  | unrestricted => "unrestricted"
  | contextSensitive => "context-sensitive"
  | contextFree => "context-free"
  | regular => "regular"

def explanation : GrammarType → String
  | regular => "Every rule has the form A -> x, A -> xB (or A -> Bx throughout) or A -> ε, " ++
      "where A and B are single nonterminals and x is a string of terminals."
  | contextFree => "Every rule has the form A -> α, where A is a single nonterminal " ++
      "and α is any (possibly empty) string of terminals and nonterminals."
  | contextSensitive => "Every rule satisfies |α| <= |β|, the right side being no shorter " ++
      "than the left, allowing S -> ε only while S appears on no right side."
  | unrestricted => "The rules fit none of the more restricted classes."

def shown (t : GrammarType) : String := s!"type {t.code} ({t.label})"

end GrammarType

/-- The running verdicts. All start out set, and a line can only clear some. The linear flags say that
in a right side with just one nonterminal it comes last, or first. -/
structure Flags where
  regularCandidate : Bool
  rightLinear : Bool
  leftLinear : Bool
  contextFree : Bool
  contextSensitive : Bool
  deriving Repr, DecidableEq

namespace Flags

def allSet : Flags := ⟨true, true, true, true, true⟩

def meet (a b : Flags) : Flags where
  regularCandidate := a.regularCandidate && b.regularCandidate
  rightLinear := a.rightLinear && b.rightLinear
  leftLinear := a.leftLinear && b.leftLinear
  contextFree := a.contextFree && b.contextFree
  contextSensitive := a.contextSensitive && b.contextSensitive

def toList (f : Flags) : List Bool :=
  [f.regularCandidate, f.rightLinear, f.leftLinear, f.contextFree, f.contextSensitive]

def noMoreThan (now earlier : Flags) : Bool :=
  (now.toList.zip earlier.toList).all fun (n, e) => !n || e

def grammarType (f : Flags) : GrammarType :=
  if f.regularCandidate then .regular
  else if f.contextFree then .contextFree
  else if f.contextSensitive then .contextSensitive
  else .unrestricted

end Flags

end Sentential
