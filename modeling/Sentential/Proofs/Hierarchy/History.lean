import Mathlib.Data.List.Infix
import Sentential.Proofs.Hierarchy.Subset

namespace Sentential

theorem Flags.meet_noMoreThan (a b : Flags) : (a.meet b).noMoreThan a = true := by
  rw [noMoreThan_iff]
  simp +contextual [meet]

namespace Scan

def after (start : Char) (known : Scan) (lines : List Text) : Scan :=
  lines.foldl (fun known line => known.join (ofLine start line)) known

theorem join_noMoreThan (known line : Scan) :
    (known.join line).flags.noMoreThan known.flags = true :=
  known.flags.meet_noMoreThan line.flags

theorem verdict_noMoreThan (s : Scan) : s.verdict.noMoreThan s.flags = true := by
  rw [Flags.noMoreThan_iff]
  simp +contextual [verdict]

theorem cons_trail (start : Char) (known : Scan) (lines : List Text) :
    known :: trail start known lines = lines.inits.map (after start known) := by
  induction lines generalizing known with
  | nil => rfl
  | cons line rest ih =>
    rw [trail, List.inits_cons, List.map_cons, List.map_map, ih]
    rfl

/-- From what is known before some lines to the verdict after them, no flag comes back. -/
theorem isChain_trail (start : Char) (known : Scan) (lines : List Text) :
    (known.flags :: (trail start known lines).map flags ++ [(after start known lines).verdict]).IsChain
      fun earlier now => now.noMoreThan earlier = true := by
  induction lines generalizing known with
  | nil => exact List.isChain_cons_cons.mpr ⟨known.verdict_noMoreThan, .singleton _⟩
  | cons line rest ih => exact List.isChain_cons_cons.mpr ⟨known.join_noMoreThan _, ih _⟩

end Scan

namespace Classification

theorem cons_history (start : Char) (lines : List Text) :
    .allSet :: (classify start lines).history =
      lines.inits.map fun before => (Scan.ofLines start before).flags := by
  have h := congrArg (List.map Scan.flags) (Scan.cons_trail start .initial lines)
  rw [List.map_cons, List.map_map] at h
  exact h

theorem length_history (start : Char) (lines : List Text) :
    (classify start lines).history.length = lines.length := by
  have h := congrArg List.length (cons_history start lines)
  rw [List.length_cons, List.length_map, List.length_inits] at h
  exact Nat.succ.inj h

/-- More lines leave the entries of those before them as they are. -/
theorem history_isPrefix_append (start : Char) (lines more : List Text) :
    (classify start lines).history <+: (classify start (lines ++ more)).history := by
  have h : Flags.allSet :: (classify start lines).history <+:
      .allSet :: (classify start (lines ++ more)).history := by
    rw [cons_history, cons_history, List.inits_append, List.map_append]
    exact List.prefix_append _ _
  exact (List.cons_prefix_cons.mp h).2

/-- A history has an entry for each line, which says what the lines so far say and stays the same when
more lines follow. From before the first line to the final verdict, flags are only ever cleared. -/
theorem history_only_clears_and_grows (start : Char) (lines more : List Text) :
    (classify start lines).history.length = lines.length ∧
    (.allSet :: (classify start lines).history =
      lines.inits.map fun before => (Scan.ofLines start before).flags) ∧
    (.allSet :: (classify start lines).history ++ [(classify start lines).flags]).IsChain
      (fun earlier now => now.noMoreThan earlier = true) ∧
    (classify start (lines ++ more)).history.take lines.length = (classify start lines).history := by
  refine ⟨length_history start lines, cons_history start lines, ?_, ?_⟩
  · exact Scan.isChain_trail start .initial lines
  · rw [← length_history start lines]
    exact (List.prefix_iff_eq_take.mp (history_isPrefix_append start lines more)).symm

end Classification

end Sentential
