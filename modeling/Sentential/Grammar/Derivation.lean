import Sentential.Grammar.Basic

namespace Sentential

namespace Grammar

/-- One substitution: a nonterminal anywhere in the form gives way to one of its alternatives. -/
inductive Step (g : Grammar) : Form → Form → Prop where
  | replace (focus : Form.Focus) (a : Form) :
      isNonterminal focus.symbol → a ∈ g.alternatives focus.symbol →
      Step g (focus.fill [focus.symbol]) (focus.fill a)

inductive Derives (g : Grammar) : Form → Form → Prop where
  | refl (f : Form) : Derives g f f
  | step {f f' t : Form} : g.Step f f' → Derives g f' t → Derives g f t

/-- A substitution for the symbol in focus: the alternative and its place among those of the
symbol. -/
structure Move where
  focus : Form.Focus
  index : Nat
  alternative : Form
  deriving Repr, DecidableEq

namespace Move

def form (m : Move) : Form := m.focus.fill [m.focus.symbol]

def result (m : Move) : Form := m.focus.fill m.alternative

end Move

inductive Leftmost (g : Grammar) : List Move → Form → Form → Prop where
  | done (f : Form) : Leftmost g [] f f
  | move {m : Move} {moves : List Move} {f t : Form} :
      f.leftmost? = some m.focus →
      (g.alternatives m.focus.symbol)[m.index]? = some m.alternative →
      Leftmost g moves m.result t → Leftmost g (m :: moves) f t

/-- The nonterminals that derivations from the start symbol can bring up, and the start symbol. -/
inductive Reachable (g : Grammar) : Char → Prop where
  | start : Reachable g g.start
  | use {x y : Char} {a : Form} :
      Reachable g x → a ∈ g.alternatives x → y ∈ a → isNonterminal y → Reachable g y

/-- Every symbol with an entry is a nonterminal with alternatives, and every symbol in use has an
entry. -/
structure Closed (g : Grammar) : Prop where
  nonterminal : ∀ x ∈ g.rules.symbols, isNonterminal x
  nonempty : ∀ x ∈ g.rules.symbols, g.alternatives x ≠ []
  start : g.start ∈ g.rules.symbols
  used : ∀ x ∈ g.rules.symbols, ∀ a ∈ g.alternatives x, ∀ y ∈ a, isNonterminal y →
    y ∈ g.rules.symbols

end Grammar

/-- Derivation trees side by side. Below a node stands the forest of its children. -/
inductive Forest where
  | nil
  | terminal (c : Char) (rest : Forest)
  | node (x : Char) (children rest : Forest)
  deriving Repr, DecidableEq

namespace Forest

def roots : Forest → Form
  | nil => []
  | terminal c rest => c :: rest.roots
  | node x _ rest => x :: rest.roots

def yield : Forest → Form
  | nil => []
  | terminal c rest => c :: rest.yield
  | node _ children rest => children.yield ++ rest.yield

def height : Forest → Nat
  | nil => 0
  | terminal _ rest => rest.height
  | node _ children rest => max (children.height + 1) rest.height

/-- The symbols that were expanded, each with its alternative, parents before their children and
children from left to right. -/
def choices : Forest → List (Char × Form)
  | nil => []
  | terminal _ rest => rest.choices
  | node x children rest => (x, children.roots) :: (children.choices ++ rest.choices)

def Conforms (g : Grammar) : Forest → Prop
  | nil => True
  | terminal c rest => isNonterminal c = false ∧ rest.Conforms g
  | node x children rest =>
    isNonterminal x ∧ children.roots ∈ g.alternatives x ∧ children.Conforms g ∧ rest.Conforms g

instance decidableConforms (g : Grammar) : (F : Forest) → Decidable (F.Conforms g)
  | nil => .isTrue trivial
  | terminal c rest =>
    have := decidableConforms g rest
    inferInstanceAs (Decidable (isNonterminal c = false ∧ rest.Conforms g))
  | node x children rest =>
    have := decidableConforms g children
    have := decidableConforms g rest
    inferInstanceAs (Decidable (isNonterminal x ∧ children.roots ∈ g.alternatives x ∧
      children.Conforms g ∧ rest.Conforms g))

/-- A single tree with the symbol at its root. The root is expanded whatever its symbol is; below it
every nonterminal is, and nothing else. -/
def IsTree (g : Grammar) (x : Char) (T : Forest) : Prop :=
  ∃ children : Forest, T = .node x children .nil ∧ children.roots ∈ g.alternatives x ∧
    children.Conforms g

end Forest

end Sentential
