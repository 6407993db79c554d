namespace Sentential

abbrev Text := List Char

/-- The code points `first`, `first + stride`, … that do not pass `last`. -/
structure Span where
  first : Nat
  last : Nat
  stride : Nat
  deriving Repr, DecidableEq

namespace Span

def has (s : Span) (n : Nat) : Bool :=
  decide (s.first ≤ n) && decide (n ≤ s.last) && (n - s.first) % s.stride == 0

/-- Membership in an ascending table: the search stops at the first span that starts past `n`. -/
def anyHas : List Span → Nat → Bool
  | [], _ => false
  | s :: rest, n => if n < s.first then false else s.has n || anyHas rest n

theorem has_eq_false_of_lt {s : Span} {n : Nat} (h : n < s.first) : s.has n = false := by
  simp [has, Nat.not_le.mpr h]

theorem anyHas_eq_any {table : List Span} (h : table.Pairwise fun s t => s.first ≤ t.first)
    (n : Nat) : anyHas table n = table.any (·.has n) := by
  induction table with
  | nil => rfl
  | cons s rest ih =>
    obtain ⟨hs, hrest⟩ := List.pairwise_cons.mp h
    rw [anyHas, List.any_cons]
    split
    · next hn =>
      have hr : rest.any (·.has n) = false := by
        rw [List.any_eq_false]
        intro t ht
        simp [has_eq_false_of_lt (Nat.lt_of_lt_of_le hn (hs t ht))]
      rw [has_eq_false_of_lt hn, hr, Bool.or_self]
    · rw [ih hrest]

end Span

namespace Text

/-- The Unicode property White_Space. Zero-width spaces, joiners, the byte order mark and the four
information separators do not have it. -/
def blankSpans : List Span :=
  [⟨0x9, 0xD, 1⟩, ⟨0x20, 0x20, 1⟩, ⟨0x85, 0x85, 1⟩, ⟨0xA0, 0xA0, 1⟩, ⟨0x1680, 0x1680, 1⟩,
   ⟨0x2000, 0x200A, 1⟩, ⟨0x2028, 0x2029, 1⟩, ⟨0x202F, 0x202F, 1⟩, ⟨0x205F, 0x205F, 1⟩,
   ⟨0x3000, 0x3000, 1⟩]

def isBlank (c : Char) : Bool := Span.anyHas blankSpans c.toNat

def trimStart (t : Text) : Text := t.dropWhile isBlank

def trimEnd (t : Text) : Text := (t.reverse.dropWhile isBlank).reverse

def trim (t : Text) : Text := trimEnd (trimStart t)

end Text

section Pieces

variable {α : Type} [DecidableEq α]

/-- The stretches between separators. -/
def pieces (separator : α) : List α → List (List α)
  | [] => [[]]
  | x :: xs =>
    if x = separator then [] :: pieces separator xs
    else match pieces separator xs with
      | [] => [[x]]
      | piece :: rest => (x :: piece) :: rest

def dropReturn (return_ : α) (line : List α) : List α :=
  if line.getLast? = some return_ then line.dropLast else line

/-- Every line feed ends a line and takes one carriage return before it along; what follows the last
line feed is a line if it is not empty. -/
def physicalLines (feed return_ : α) (xs : List α) : List (List α) :=
  let all := pieces feed xs
  all.dropLast.map (dropReturn return_) ++ all.getLast?.toList.filter (· ≠ [])

theorem pieces_ne_nil (separator : α) (xs : List α) : pieces separator xs ≠ [] := by
  cases xs with
  | nil => simp [pieces]
  | cons x xs =>
    rw [pieces]
    split
    · simp
    · split <;> simp

theorem length_pieces (separator : α) (xs : List α) :
    (pieces separator xs).length = xs.count separator + 1 := by
  induction xs with
  | nil => rfl
  | cons x xs ih =>
    rw [pieces]
    split
    · next h => simp [h, ih]
    · next h =>
      have hne := pieces_ne_nil separator xs
      split
      · next h' => exact absurd h' hne
      · next h' => simp [← ih, h', h]

end Pieces

def Text.lines (t : Text) : List Text := physicalLines '\n' '\r' t

abbrev Bytes := List UInt8

namespace Text

def encode (t : Text) : Bytes := t.flatMap String.utf8EncodeChar

/-- The text that the bytes encode, if they are valid UTF-8. -/
def decode? (bytes : Bytes) : Option Text :=
  (String.fromUTF8? bytes.toByteArray).map String.toList

theorem encode_toByteArray (t : Text) : t.encode.toByteArray = (String.ofList t).toByteArray := rfl

theorem decode?_eq_some_iff {bytes : Bytes} {t : Text} :
    decode? bytes = some t ↔ bytes = t.encode := by
  rw [decode?, Option.map_eq_some_iff]
  constructor
  · intro h
    obtain ⟨s, hs, rfl⟩ := h
    apply List.toByteArray_inj.mp
    rw [encode_toByteArray, String.ofList_toList]
    unfold String.fromUTF8? at hs
    split at hs
    · cases hs
      rfl
    · cases hs
  · intro h
    have hv : bytes.toByteArray.IsValidUTF8 := ⟨t, by rw [h]; rfl⟩
    refine ⟨String.ofList t, ?_, String.toList_ofList⟩
    unfold String.fromUTF8?
    rw [dif_pos hv]
    subst h
    rfl

@[simp] theorem decode?_encode (t : Text) : decode? t.encode = some t :=
  decode?_eq_some_iff.mpr rfl

end Text

end Sentential
