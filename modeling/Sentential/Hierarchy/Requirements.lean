import Sentential.Rule

namespace Sentential

namespace Listing

def rules (lines : List Text) : List Rule := lines.filterMap Rule.parse?

def WellFormed (lines : List Text) : Prop :=
  ∀ line ∈ lines, ∃ left right, Rule.sides? line = some (left, right) ∧ left ≠ []

def ContextFree (lines : List Text) : Prop :=
  WellFormed lines ∧ ∀ rule ∈ rules lines, ∃ x, isNonterminal x ∧ rule.left = [x]

def RightLinear (lines : List Text) : Prop :=
  ∀ rule ∈ rules lines, ∃ w : Form, w.Finished ∧
    (rule.right = w ∨ ∃ x, isNonterminal x ∧ rule.right = w ++ [x])

def LeftLinear (lines : List Text) : Prop :=
  ∀ rule ∈ rules lines, ∃ w : Form, w.Finished ∧
    (rule.right = w ∨ ∃ x, isNonterminal x ∧ rule.right = x :: w)

def Regular (lines : List Text) : Prop :=
  ContextFree lines ∧ (RightLinear lines ∨ LeftLinear lines)

def vanishing (start : Char) : Rule := ⟨[start], []⟩

/-- No rule makes a form shorter, except that the start symbol may vanish if it is on no right
side. -/
def ContextSensitive (start : Char) (lines : List Text) : Prop :=
  WellFormed lines ∧
  (∀ rule ∈ rules lines, rule.left.length ≤ rule.right.length ∨ rule = vanishing start) ∧
  (vanishing start ∈ rules lines → ∀ rule ∈ rules lines, start ∉ rule.right)

end Listing

namespace Rule

inductive Replaces (rules : List Rule) : Form → Form → Prop where
  | step {rule : Rule} (before after : Form) :
      rule ∈ rules → Replaces rules (before ++ rule.left ++ after) (before ++ rule.right ++ after)

/-- A derivation: a form, and the forms that follow it step by step. -/
inductive Run (rules : List Rule) : Form → List Form → Prop where
  | done (f : Form) : Run rules f []
  | step {f f' : Form} {rest : List Form} :
      Replaces rules f f' → Run rules f' rest → Run rules f (f' :: rest)

inductive Reaches (rules : List Rule) : Form → Form → Prop where
  | refl (f : Form) : Reaches rules f f
  | step {f f' t : Form} : Replaces rules f f' → Reaches rules f' t → Reaches rules f t

end Rule

end Sentential
