import Sentential.Text.Basic

namespace Sentential

namespace Text

/-- The Unicode property Uppercase: the capital letters of every script, the capital Roman numerals
and the circled and squared capitals, but no titlecase digraphs. -/
def uppercaseSpans : List Span :=
  [⟨0x41, 0x5A, 1⟩, ⟨0xC0, 0xD6, 1⟩, ⟨0xD8, 0xDE, 1⟩, ⟨0x100, 0x136, 2⟩, ⟨0x139, 0x147, 2⟩,
   ⟨0x14A, 0x176, 2⟩, ⟨0x178, 0x179, 1⟩, ⟨0x17B, 0x17D, 2⟩, ⟨0x181, 0x182, 1⟩, ⟨0x184, 0x184, 1⟩,
   ⟨0x186, 0x187, 1⟩, ⟨0x189, 0x18B, 1⟩, ⟨0x18E, 0x191, 1⟩, ⟨0x193, 0x194, 1⟩, ⟨0x196, 0x198, 1⟩,
   ⟨0x19C, 0x19D, 1⟩, ⟨0x19F, 0x1A0, 1⟩, ⟨0x1A2, 0x1A4, 2⟩, ⟨0x1A6, 0x1A7, 1⟩, ⟨0x1A9, 0x1A9, 1⟩,
   ⟨0x1AC, 0x1AC, 1⟩, ⟨0x1AE, 0x1AF, 1⟩, ⟨0x1B1, 0x1B3, 1⟩, ⟨0x1B5, 0x1B5, 1⟩, ⟨0x1B7, 0x1B8, 1⟩,
   ⟨0x1BC, 0x1BC, 1⟩, ⟨0x1C4, 0x1C4, 1⟩, ⟨0x1C7, 0x1C7, 1⟩, ⟨0x1CA, 0x1CA, 1⟩, ⟨0x1CD, 0x1DB, 2⟩,
   ⟨0x1DE, 0x1EE, 2⟩, ⟨0x1F1, 0x1F1, 1⟩, ⟨0x1F4, 0x1F4, 1⟩, ⟨0x1F6, 0x1F8, 1⟩, ⟨0x1FA, 0x232, 2⟩,
   ⟨0x23A, 0x23B, 1⟩, ⟨0x23D, 0x23E, 1⟩, ⟨0x241, 0x241, 1⟩, ⟨0x243, 0x246, 1⟩, ⟨0x248, 0x24E, 2⟩,
   ⟨0x370, 0x372, 2⟩, ⟨0x376, 0x376, 1⟩, ⟨0x37F, 0x37F, 1⟩, ⟨0x386, 0x386, 1⟩, ⟨0x388, 0x38A, 1⟩,
   ⟨0x38C, 0x38C, 1⟩, ⟨0x38E, 0x38F, 1⟩, ⟨0x391, 0x3A1, 1⟩, ⟨0x3A3, 0x3AB, 1⟩, ⟨0x3CF, 0x3CF, 1⟩,
   ⟨0x3D2, 0x3D4, 1⟩, ⟨0x3D8, 0x3EE, 2⟩, ⟨0x3F4, 0x3F4, 1⟩, ⟨0x3F7, 0x3F7, 1⟩, ⟨0x3F9, 0x3FA, 1⟩,
   ⟨0x3FD, 0x42F, 1⟩, ⟨0x460, 0x480, 2⟩, ⟨0x48A, 0x4BE, 2⟩, ⟨0x4C0, 0x4C1, 1⟩, ⟨0x4C3, 0x4CD, 2⟩,
   ⟨0x4D0, 0x52E, 2⟩, ⟨0x531, 0x556, 1⟩, ⟨0x10A0, 0x10C5, 1⟩, ⟨0x10C7, 0x10C7, 1⟩,
   ⟨0x10CD, 0x10CD, 1⟩, ⟨0x13A0, 0x13F5, 1⟩, ⟨0x1C89, 0x1C89, 1⟩, ⟨0x1C90, 0x1CBA, 1⟩,
   ⟨0x1CBD, 0x1CBF, 1⟩, ⟨0x1E00, 0x1E94, 2⟩, ⟨0x1E9E, 0x1EFE, 2⟩, ⟨0x1F08, 0x1F0F, 1⟩,
   ⟨0x1F18, 0x1F1D, 1⟩, ⟨0x1F28, 0x1F2F, 1⟩, ⟨0x1F38, 0x1F3F, 1⟩, ⟨0x1F48, 0x1F4D, 1⟩,
   ⟨0x1F59, 0x1F5F, 2⟩, ⟨0x1F68, 0x1F6F, 1⟩, ⟨0x1FB8, 0x1FBB, 1⟩, ⟨0x1FC8, 0x1FCB, 1⟩,
   ⟨0x1FD8, 0x1FDB, 1⟩, ⟨0x1FE8, 0x1FEC, 1⟩, ⟨0x1FF8, 0x1FFB, 1⟩, ⟨0x2102, 0x2102, 1⟩,
   ⟨0x2107, 0x2107, 1⟩, ⟨0x210B, 0x210D, 1⟩, ⟨0x2110, 0x2112, 1⟩, ⟨0x2115, 0x2115, 1⟩,
   ⟨0x2119, 0x211D, 1⟩, ⟨0x2124, 0x2128, 2⟩, ⟨0x212A, 0x212D, 1⟩, ⟨0x2130, 0x2133, 1⟩,
   ⟨0x213E, 0x213F, 1⟩, ⟨0x2145, 0x2145, 1⟩, ⟨0x2160, 0x216F, 1⟩, ⟨0x2183, 0x2183, 1⟩,
   ⟨0x24B6, 0x24CF, 1⟩, ⟨0x2C00, 0x2C2F, 1⟩, ⟨0x2C60, 0x2C60, 1⟩, ⟨0x2C62, 0x2C64, 1⟩,
   ⟨0x2C67, 0x2C6B, 2⟩, ⟨0x2C6D, 0x2C70, 1⟩, ⟨0x2C72, 0x2C72, 1⟩, ⟨0x2C75, 0x2C75, 1⟩,
   ⟨0x2C7E, 0x2C80, 1⟩, ⟨0x2C82, 0x2CE2, 2⟩, ⟨0x2CEB, 0x2CED, 2⟩, ⟨0x2CF2, 0x2CF2, 1⟩,
   ⟨0xA640, 0xA66C, 2⟩, ⟨0xA680, 0xA69A, 2⟩, ⟨0xA722, 0xA72E, 2⟩, ⟨0xA732, 0xA76E, 2⟩,
   ⟨0xA779, 0xA77B, 2⟩, ⟨0xA77D, 0xA77E, 1⟩, ⟨0xA780, 0xA786, 2⟩, ⟨0xA78B, 0xA78D, 2⟩,
   ⟨0xA790, 0xA792, 2⟩, ⟨0xA796, 0xA7A8, 2⟩, ⟨0xA7AA, 0xA7AE, 1⟩, ⟨0xA7B0, 0xA7B4, 1⟩,
   ⟨0xA7B6, 0xA7C2, 2⟩, ⟨0xA7C4, 0xA7C7, 1⟩, ⟨0xA7C9, 0xA7C9, 1⟩, ⟨0xA7CB, 0xA7CC, 1⟩,
   ⟨0xA7CE, 0xA7DC, 2⟩, ⟨0xA7F5, 0xA7F5, 1⟩, ⟨0xFF21, 0xFF3A, 1⟩, ⟨0x10400, 0x10427, 1⟩,
   ⟨0x104B0, 0x104D3, 1⟩, ⟨0x10570, 0x1057A, 1⟩, ⟨0x1057C, 0x1058A, 1⟩, ⟨0x1058C, 0x10592, 1⟩,
   ⟨0x10594, 0x10595, 1⟩, ⟨0x10C80, 0x10CB2, 1⟩, ⟨0x10D50, 0x10D65, 1⟩, ⟨0x118A0, 0x118BF, 1⟩,
   ⟨0x16E40, 0x16E5F, 1⟩, ⟨0x16EA0, 0x16EB8, 1⟩, ⟨0x1D400, 0x1D419, 1⟩, ⟨0x1D434, 0x1D44D, 1⟩,
   ⟨0x1D468, 0x1D481, 1⟩, ⟨0x1D49C, 0x1D49C, 1⟩, ⟨0x1D49E, 0x1D49F, 1⟩, ⟨0x1D4A2, 0x1D4A2, 1⟩,
   ⟨0x1D4A5, 0x1D4A6, 1⟩, ⟨0x1D4A9, 0x1D4AC, 1⟩, ⟨0x1D4AE, 0x1D4B5, 1⟩, ⟨0x1D4D0, 0x1D4E9, 1⟩,
   ⟨0x1D504, 0x1D505, 1⟩, ⟨0x1D507, 0x1D50A, 1⟩, ⟨0x1D50D, 0x1D514, 1⟩, ⟨0x1D516, 0x1D51C, 1⟩,
   ⟨0x1D538, 0x1D539, 1⟩, ⟨0x1D53B, 0x1D53E, 1⟩, ⟨0x1D540, 0x1D544, 1⟩, ⟨0x1D546, 0x1D546, 1⟩,
   ⟨0x1D54A, 0x1D550, 1⟩, ⟨0x1D56C, 0x1D585, 1⟩, ⟨0x1D5A0, 0x1D5B9, 1⟩, ⟨0x1D5D4, 0x1D5ED, 1⟩,
   ⟨0x1D608, 0x1D621, 1⟩, ⟨0x1D63C, 0x1D655, 1⟩, ⟨0x1D670, 0x1D689, 1⟩, ⟨0x1D6A8, 0x1D6C0, 1⟩,
   ⟨0x1D6E2, 0x1D6FA, 1⟩, ⟨0x1D71C, 0x1D734, 1⟩, ⟨0x1D756, 0x1D76E, 1⟩, ⟨0x1D790, 0x1D7A8, 1⟩,
   ⟨0x1D7CA, 0x1D7CA, 1⟩, ⟨0x1E900, 0x1E921, 1⟩, ⟨0x1F130, 0x1F149, 1⟩, ⟨0x1F150, 0x1F169, 1⟩,
   ⟨0x1F170, 0x1F189, 1⟩]

def isUppercase (c : Char) : Bool := Span.anyHas uppercaseSpans c.toNat

end Text

def isNonterminal (c : Char) : Bool := Text.isUppercase c

theorem ne_of_isNonterminal {c d : Char} (hc : isNonterminal c) (hd : isNonterminal d = false) :
    c ≠ d := by
  intro h
  rw [h, hd] at hc
  cases hc

/-- A character together with the part that it plays in a rule. -/
inductive Symbol where
  | terminal (c : Char)
  | nonterminal (c : Char)
  deriving Repr, DecidableEq

def Symbol.of (c : Char) : Symbol :=
  if isNonterminal c then .nonterminal c else .terminal c

/-- A string of symbols, each written as its character. -/
abbrev Form := List Char

namespace Form

def shown (f : Form) : Text := if f.isEmpty then ['ε'] else f

def nonterminals (f : Form) : List Char := f.filter isNonterminal

def Finished (f : Form) : Prop := ∀ c ∈ f, isNonterminal c = false

instance (f : Form) : Decidable f.Finished :=
  List.decidableBAll (fun c => isNonterminal c = false) f

@[simp] theorem finished_nil : Finished [] := by simp [Finished]

@[simp] theorem finished_cons_iff {c : Char} {f : Form} :
    Finished (c :: f) ↔ isNonterminal c = false ∧ f.Finished := by simp [Finished]

@[simp] theorem finished_append_iff {f f' : Form} :
    Finished (f ++ f') ↔ f.Finished ∧ f'.Finished := by simp [Finished, or_imp, forall_and]

/-- A form seen from one of its nonterminals. -/
structure Focus where
  before : Form
  symbol : Char
  after : Form
  deriving Repr, DecidableEq

namespace Focus

def fill (focus : Focus) (replacement : Form) : Form :=
  focus.before ++ replacement ++ focus.after

def moveLeft (c : Char) (focus : Focus) : Focus := { focus with before := c :: focus.before }

end Focus

def leftmost? : Form → Option Focus
  | [] => none
  | c :: rest =>
    if isNonterminal c then some ⟨[], c, rest⟩ else (leftmost? rest).map (Focus.moveLeft c)

theorem leftmost?_cons_of_isNonterminal {c : Char} (hc : isNonterminal c) (rest : Form) :
    leftmost? (c :: rest) = some ⟨[], c, rest⟩ := if_pos hc

theorem leftmost?_cons_of_terminal {c : Char} (hc : isNonterminal c = false) (rest : Form) :
    leftmost? (c :: rest) = (leftmost? rest).map (Focus.moveLeft c) :=
  if_neg (ne_true_of_eq_false hc)

theorem leftmost?_eq_none_iff {f : Form} : f.leftmost? = none ↔ f.Finished := by
  induction f with
  | nil => simp [leftmost?]
  | cons c rest ih =>
    cases hc : isNonterminal c with
    | true => simp [leftmost?_cons_of_isNonterminal hc, hc]
    | false => simp [leftmost?_cons_of_terminal hc, hc, ih]

theorem leftmost?_append_of_finished {before : Form} (hb : before.Finished) {x : Char}
    (hx : isNonterminal x) (after : Form) :
    leftmost? (before ++ [x] ++ after) = some ⟨before, x, after⟩ := by
  induction before with
  | nil => exact leftmost?_cons_of_isNonterminal hx after
  | cons c rest ih =>
    obtain ⟨hc, hrest⟩ := finished_cons_iff.mp hb
    rw [List.cons_append, List.cons_append, leftmost?_cons_of_terminal hc, ih hrest]
    rfl

theorem leftmost?_eq_some_iff {f : Form} {focus : Focus} :
    f.leftmost? = some focus ↔
      f = focus.fill [focus.symbol] ∧ isNonterminal focus.symbol ∧ focus.before.Finished := by
  constructor
  · intro h
    induction f generalizing focus with
    | nil => cases h
    | cons c rest ih =>
      cases hc : isNonterminal c with
      | true =>
        rw [leftmost?_cons_of_isNonterminal hc] at h
        obtain rfl := Option.some.inj h
        exact ⟨rfl, hc, finished_nil⟩
      | false =>
        rw [leftmost?_cons_of_terminal hc] at h
        obtain ⟨inner, hi, rfl⟩ := Option.map_eq_some_iff.mp h
        obtain ⟨hrest, hx, hb⟩ := ih hi
        exact ⟨congrArg (c :: ·) hrest, hx, finished_cons_iff.mpr ⟨hc, hb⟩⟩
  · intro h
    obtain ⟨hf, hx, hb⟩ := h
    rw [hf]
    exact leftmost?_append_of_finished hb hx focus.after

theorem symbol_mem_of_leftmost? {f : Form} {focus : Focus} (hl : f.leftmost? = some focus) :
    focus.symbol ∈ f := by
  obtain ⟨hf, -, -⟩ := leftmost?_eq_some_iff.mp hl
  rw [hf]
  simp [Focus.fill]

theorem forall_mem_fill {P : Char → Prop} {f a : Form} {focus : Focus}
    (hl : f.leftmost? = some focus) (hf : ∀ c ∈ f, P c) (ha : ∀ c ∈ a, P c) :
    ∀ c ∈ focus.fill a, P c := by
  obtain ⟨rfl, -, -⟩ := leftmost?_eq_some_iff.mp hl
  simp only [Focus.fill, List.forall_mem_append] at hf ⊢
  exact ⟨⟨hf.1.1, ha⟩, hf.2⟩

end Form

end Sentential
