import Sentential.Form

namespace Sentential

/-- A form with nonterminals is abandoned if it lies deeper than `maxDepth` substitutions or has
more than `maxLength` symbols. After `maxSteps` forms the search ends. -/
structure Limits where
  maxDepth : Nat
  maxLength : Nat
  maxSteps : Nat
  deriving Repr, DecidableEq

def Limits.standard : Limits := ⟨64, 256, 100000⟩

namespace Search

inductive Action where
  | reached (form : Form)
  | trying (symbol : Char) (alternative : Form)
  | replaced (symbol : Char) (alternative result : Form)
  | noRules (symbol : Char)
  | tooDeep (maxDepth : Nat)
  | tooLong (maxLength : Nat)
  | budgetSpent (maxSteps : Nat)
  deriving Repr, DecidableEq

/-- `depth` counts the substitutions that lead to the form at which the action happens. -/
structure Event where
  depth : Nat
  action : Action
  deriving Repr, DecidableEq

def Action.line : Action → String
  | reached form => String.ofList form.shown
  | trying x a => "try " ++ x.toString ++ " → " ++ String.ofList a.shown
  | replaced x a result =>
    "replaced " ++ x.toString ++ " → " ++ String.ofList a.shown ++ ", giving " ++
      String.ofList result.shown
  | noRules x => "no rules for " ++ x.toString
  | tooDeep n => s!"abandoned: more than {n} substitutions"
  | tooLong n => s!"abandoned: longer than {n} symbols"
  | budgetSpent n => s!"abandoned: search budget of {n} forms spent"

def Event.line (e : Event) : String := "".pushn ' ' (2 * e.depth) ++ e.action.line

structure Progress where
  accepted : Bool
  pruned : Bool
  exhausted : Bool
  visited : Nat
  events : Array Event
  deriving Repr, DecidableEq

namespace Progress

def initial : Progress := ⟨false, false, false, 0, #[]⟩

def note (p : Progress) (depth : Nat) (action : Action) : Progress :=
  { p with events := p.events.push ⟨depth, action⟩ }

def reach (p : Progress) (depth : Nat) (form : Form) : Progress :=
  { p with visited := p.visited + 1 }.note depth (.reached form)

def accept (p : Progress) : Progress := { p with accepted := true }

def cut (p : Progress) (depth : Nat) (action : Action) : Progress :=
  { p with pruned := true }.note depth action

def giveUp (p : Progress) (depth maxSteps : Nat) : Progress :=
  { p with exhausted := true }.cut depth (.budgetSpent maxSteps)

section

variable (p : Progress) (depth maxSteps : Nat) (action : Action) (form : Form)

@[simp] theorem note_accepted : (p.note depth action).accepted = p.accepted := rfl
@[simp] theorem note_pruned : (p.note depth action).pruned = p.pruned := rfl
@[simp] theorem note_exhausted : (p.note depth action).exhausted = p.exhausted := rfl
@[simp] theorem note_visited : (p.note depth action).visited = p.visited := rfl

@[simp] theorem note_events : (p.note depth action).events = p.events.push ⟨depth, action⟩ := rfl

@[simp] theorem reach_accepted : (p.reach depth form).accepted = p.accepted := rfl
@[simp] theorem reach_pruned : (p.reach depth form).pruned = p.pruned := rfl
@[simp] theorem reach_exhausted : (p.reach depth form).exhausted = p.exhausted := rfl
@[simp] theorem reach_visited : (p.reach depth form).visited = p.visited + 1 := rfl

@[simp] theorem reach_events :
    (p.reach depth form).events = p.events.push ⟨depth, .reached form⟩ := rfl

@[simp] theorem accept_accepted : p.accept.accepted = true := rfl
@[simp] theorem accept_pruned : p.accept.pruned = p.pruned := rfl
@[simp] theorem accept_exhausted : p.accept.exhausted = p.exhausted := rfl
@[simp] theorem accept_visited : p.accept.visited = p.visited := rfl

@[simp] theorem accept_events : p.accept.events = p.events := rfl

@[simp] theorem cut_accepted : (p.cut depth action).accepted = p.accepted := rfl
@[simp] theorem cut_pruned : (p.cut depth action).pruned = true := rfl
@[simp] theorem cut_exhausted : (p.cut depth action).exhausted = p.exhausted := rfl
@[simp] theorem cut_visited : (p.cut depth action).visited = p.visited := rfl

@[simp] theorem cut_events : (p.cut depth action).events = p.events.push ⟨depth, action⟩ := rfl

@[simp] theorem giveUp_accepted : (p.giveUp depth maxSteps).accepted = p.accepted := rfl
@[simp] theorem giveUp_pruned : (p.giveUp depth maxSteps).pruned = true := rfl
@[simp] theorem giveUp_exhausted : (p.giveUp depth maxSteps).exhausted = true := rfl
@[simp] theorem giveUp_visited : (p.giveUp depth maxSteps).visited = p.visited := rfl
@[simp] theorem giveUp_events :
    (p.giveUp depth maxSteps).events = p.events.push ⟨depth, .budgetSpent maxSteps⟩ := rfl

end

end Progress

end Search

end Sentential
