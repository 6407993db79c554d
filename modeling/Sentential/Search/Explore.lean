import Sentential.Grammar.Basic
import Sentential.Search.Progress
import Sentential.Trace

namespace Sentential

namespace Search

def tryEach (visit : Form → Progress → Progress) (depth : Nat) (focus : Form.Focus) :
    List Form → Progress → Progress
  | [], p => p
  | a :: rest, p =>
    let p := visit (focus.fill a) (p.note depth (.trying focus.symbol a))
    if p.accepted then p.note depth (.replaced focus.symbol a (focus.fill a))
    else if p.exhausted then p
    else tryEach visit depth focus rest p

/-- Explores everything below a form. `room` is the number of substitutions that may still follow;
a finished form needs none and is compared with the target whatever its length. -/
def explore (g : Grammar) (limits : Limits) (target : Form) (room depth : Nat) (form : Form)
    (p : Progress) : Progress :=
  if limits.maxSteps ≤ p.visited then p.giveUp depth limits.maxSteps
  else
    let p := p.reach depth form
    match form.leftmost? with
    | none => if form = target then p.accept else p
    | some focus =>
      match room with
      | 0 => p.cut depth (.tooDeep limits.maxDepth)
      | room + 1 =>
        if limits.maxLength < form.length then p.cut depth (.tooLong limits.maxLength)
        else
          match g.alternatives focus.symbol with
          | [] => p.note depth (.noRules focus.symbol)
          | alternatives =>
            tryEach (explore g limits target room (depth + 1)) depth focus alternatives p
termination_by structural room

/-- The whole search. A form at depth `maxDepth` is still expanded, so there is room for one
substitution more. -/
def run (g : Grammar) (limits : Limits) (start : Char) (target : Form) : Progress :=
  explore g limits target (limits.maxDepth + 1) 0 [start] .initial

end Search

/-- The answer of a search. A rejection is conclusive unless something was pruned. -/
structure Derivation where
  accepted : Bool
  pruned : Bool
  trace : Trace
  deriving Repr, DecidableEq

def Search.Progress.trace (p : Progress) : Trace := ⟨p.events.toList.map Event.line⟩

def Search.Progress.derivation (p : Progress) : Derivation := ⟨p.accepted, p.pruned, p.trace⟩

namespace Grammar

def deriveFrom (g : Grammar) (limits : Limits) (start : Char) (target : Form) : Derivation :=
  (Search.run g limits start target).derivation

def derive (g : Grammar) (limits : Limits) (target : Form) : Derivation :=
  g.deriveFrom limits g.start target

end Grammar

def Limits.shown (l : Limits) : String :=
  "Limits \x7b max_depth: " ++ toString l.maxDepth ++ ", max_form_len: " ++ toString l.maxLength ++
    ", max_steps: " ++ toString l.maxSteps ++ " \x7d"

namespace Search

def speaker : String := "chomsky::derivation"

def records (limits : Limits) (target : Form) (p : Progress) : List Log.Record :=
  let query := ("query", Text.quoted target)
  let trace := p.trace
  let warning : Log.Record :=
    ⟨.warn, speaker, "derivation search hit its limits", [query, ("limits", limits.shown)]⟩
  let summary : Log.Record :=
    ⟨.debug, speaker, "derivation search finished",
      [query, ("accepted", toString p.accepted), ("steps", toString p.visited),
       ("lines", toString trace.size)]⟩
  trace.lines.map Log.ofLine ++ (if p.pruned then [warning] else []) ++ [summary]

end Search

end Sentential
