import Mathlib.Data.List.Forall2
import Sentential.Hierarchy.Classification
import Sentential.Proofs.Rule

namespace Sentential

/-- Lines that hold the same rule, and lines that are the same. -/
inductive SameLine : Text → Text → Prop where
  | refl (line : Text) : SameLine line line
  | rule {line line' : Text} {rule : Rule} :
      Rule.parse? line = some rule → Rule.parse? line' = some rule → SameLine line line'

namespace SameLine

variable {line line' : Text} {lines lines' : List Text}

theorem respell (line : Text) : SameLine (Rule.respell line) line := by
  unfold Rule.respell
  split
  · next rule h => exact .rule (Rule.parse?_print_of_parse? h) h
  · exact .refl line

theorem ofLine_eq (h : SameLine line line') (start : Char) :
    Scan.ofLine start line = Scan.ofLine start line' := by
  cases h with
  | refl => rfl
  | rule h h' => rw [Scan.ofLine, Scan.ofLine, h, h']

theorem lineNotes_eq (h : SameLine line line') (start : Char) (number : Nat) :
    Classification.lineNotes start line number = Classification.lineNotes start line' number := by
  cases h with
  | refl => rfl
  | rule h h' => rw [Classification.lineNotes, Classification.lineNotes, h, h']

theorem trail_congr (h : lines.Forall₂ SameLine lines') (start : Char) (known : Scan) :
    Scan.trail start known lines = Scan.trail start known lines' := by
  induction h generalizing known with
  | nil => rfl
  | cons hline hrest ih => rw [Scan.trail, Scan.trail, hline.ofLine_eq, ih]

theorem ofLines_congr (h : lines.Forall₂ SameLine lines') (start : Char) :
    Scan.ofLines start lines = Scan.ofLines start lines' := by
  unfold Scan.ofLines
  generalize Scan.initial = known
  induction h generalizing known with
  | nil => rfl
  | cons hline hrest ih => rw [List.foldl_cons, List.foldl_cons, hline.ofLine_eq, ih]

theorem flatMap_lineNotes_congr (h : lines.Forall₂ SameLine lines') (start : Char) (first : Nat) :
    (lines.zipIdx first).flatMap (fun (line, number) => Classification.lineNotes start line number) =
      (lines'.zipIdx first).flatMap
        fun (line, number) => Classification.lineNotes start line number := by
  induction h generalizing first with
  | nil => rfl
  | cons hline hrest ih =>
    simp only [List.zipIdx_cons, List.flatMap_cons, hline.lineNotes_eq, ih]

theorem notes_congr (h : lines.Forall₂ SameLine lines') (start : Char) :
    Classification.notes start lines = Classification.notes start lines' := by
  rw [Classification.notes, Classification.notes, Classification.openingNotes,
    Classification.openingNotes, h.length_eq, flatMap_lineNotes_congr h, ofLines_congr h]

theorem classify_congr (h : lines.Forall₂ SameLine lines') (start : Char) :
    classify start lines = classify start lines' := by
  unfold classify
  rw [ofLines_congr h, trail_congr h, notes_congr h]

end SameLine

/-- A listing is classified alike, with the same flags after every line and the same account, when each
of its rules is put in its one spelling. -/
theorem classify_map_respell (start : Char) (lines : List Text) :
    classify start (lines.map Rule.respell) = classify start lines := by
  apply SameLine.classify_congr
  rw [List.forall₂_map_left_iff, List.forall₂_same]
  exact fun line _ => SameLine.respell line

/-- The first arrow is told from the dash in front of it and from the point behind it. -/
example : Rule.respell "S- → > a -> b ".toList = "S-->> a -> b".toList := by decide

end Sentential
