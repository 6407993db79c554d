import Sentential.File

namespace Sentential

/-- A line of a file, or with line 0 the file as a whole. -/
structure Location where
  file : FileName
  line : Nat
  deriving Repr, DecidableEq

namespace Location

def wholeFile (file : FileName) : Location := ⟨file, 0⟩

def shown (l : Location) : String :=
  let file := if l.file.isEmpty then "<input>" else String.ofList l.file
  if l.line = 0 then file else file ++ ":" ++ toString l.line

def same (a b : Location) : Bool := a.file.same b.file && a.line == b.line

end Location

inductive Cause where
  | missingArrow
  | invalidLeftSide (left : Text)
  | undefinedNonterminal (c : Char)
  | undefinedStart (c : Char)
  | emptyGrammar
  | fileFault (fault : FileFault)
  deriving Repr, DecidableEq

namespace Cause

def message : Cause → String
  | missingArrow => "Expected `->` or `→` between the two sides of the rule"
  | invalidLeftSide left => s!"Left side `{String.ofList left}` is not a single uppercase nonterminal"
  | undefinedNonterminal c => s!"Could not find definition for `{c}`"
  | undefinedStart c => s!"Start symbol `{c}` has no rules"
  | emptyGrammar => "Grammar contains no rules"
  | fileFault fault => "File error: " ++ fault.message

def same : Cause → Cause → Bool
  | fileFault a, fileFault b => a.same b
  | a, b => a == b

end Cause

structure Diagnostic where
  location : Location
  cause : Cause
  deriving Repr, DecidableEq

namespace Diagnostic

def shown (d : Diagnostic) : String :=
  "\x1b[31;49;1m[" ++ d.location.shown ++ "]\x1b[39;49;1m  " ++ d.cause.message ++ "\x1b[0m"

def same (a b : Diagnostic) : Bool := a.location.same b.location && a.cause.same b.cause

end Diagnostic

end Sentential
