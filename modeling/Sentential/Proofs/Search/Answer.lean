import Sentential.Cli.Run
import Sentential.Proofs.Search.Verdict

namespace Sentential

/-- The last line of the output. -/
def Cli.Report.ClosesWith (report : Cli.Report) (line : String) : Prop :=
  ∃ above, report.out = above ++ "\n" ++ line ++ "\n"

namespace Search

variable {g : Grammar} {limits : Limits} {start : Char} {target : Form}

theorem accepted_run_iff (g : Grammar) (limits : Limits) (start : Char) (target : Form) :
    (run g limits start target).accepted = true ↔
      (run g limits start target).exhausted = false ∧ target.Finished ∧
        g.DerivesWithin (limits.maxDepth + 1) limits.maxLength [start] target := by
  have hrun := runs_run g limits start target
  constructor
  · intro hacc
    obtain ⟨ht, hd⟩ := hrun.solvable Progress.idle_initial hacc
    exact ⟨(hrun.coherent Progress.idle_initial).exhausted_of_accepted hacc, ht, hd⟩
  · intro h
    obtain ⟨hx, ht, hd⟩ := h
    apply eq_true_of_ne_false
    intro hacc
    exact hrun.unsolvable Progress.idle_initial ht hacc hx hd

theorem not_derives_of_rejected (ht : target.Finished)
    (hacc : (run g limits start target).accepted = false)
    (hpr : (run g limits start target).pruned = false) : ¬ g.Derives [start] target := by
  intro hd
  obtain ⟨moves, hm⟩ := (Grammar.exists_leftmost_iff_derives ht).mpr hd
  obtain ⟨k, hk⟩ := hm.exists_derivesWithin
  have hrun := runs_run g limits start target
  exact hrun.hopeless Progress.idle_initial ht hacc hpr moves.length k hk

/-- What a report says of the target. -/
def Progress.verdict (p : Progress) : String :=
  if p.accepted then "is in the language"
  else if p.pruned then "was not derived within the search limits"
  else "is not in the language"

theorem out_runDerive (g : Grammar) (limits : Limits) (target : Form) :
    (Cli.runDerive g target limits).report.out =
      (run g limits g.start target).trace.shown ++ ("\n`" ++ String.ofList target.shown ++ "` " ++
        (run g limits g.start target).verdict ++ "\n") := rfl

theorem suffix_or_suffix_of_append_eq {a b u v : String} (h : a ++ u = b ++ v) :
    u.toList <:+ v.toList ∨ v.toList <:+ u.toList := by
  have hl := congrArg String.toList h
  rw [String.toList_append, String.toList_append] at hl
  apply List.suffix_or_suffix_of_suffix (List.suffix_append a.toList _)
  rw [hl]
  exact List.suffix_append _ _

/-- The verdicts can be told apart by their ends, whatever stands above them. -/
theorem rejected_of_verdict_append {p : Progress} {a b : String}
    (h : a ++ ("` " ++ p.verdict ++ "\n") = b ++ ("` is not in the language" ++ "\n")) :
    p.accepted = false ∧ p.pruned = false := by
  have hs := suffix_or_suffix_of_append_eq h
  unfold Progress.verdict at hs
  -- no other verdict ends as this one does, nor this one as another
  cases ha : p.accepted with
  | true =>
    rw [ha, if_pos rfl] at hs
    exact absurd hs (by decide)
  | false =>
    cases hu : p.pruned with
    | true =>
      rw [ha, hu] at hs
      exact absurd hs (by decide)
    | false => exact ⟨rfl, rfl⟩

theorem closesWith_runDerive_iff (g : Grammar) (limits : Limits) (target : Form) :
    (Cli.runDerive g target limits).report.ClosesWith
        ("`" ++ String.ofList target.shown ++ "` is not in the language") ↔
      (g.derive limits target).accepted = false ∧ (g.derive limits target).pruned = false := by
  rw [Cli.Report.ClosesWith, out_runDerive]
  change _ ↔ (run g limits g.start target).accepted = false ∧
    (run g limits g.start target).pruned = false
  constructor
  · intro h
    obtain ⟨above, h⟩ := h
    simp only [String.append_assoc] at h
    apply rejected_of_verdict_append
      (a := (run g limits g.start target).trace.shown ++ "\n`" ++ String.ofList target.shown)
      (b := above ++ "\n" ++ "`" ++ String.ofList target.shown)
    simpa only [String.append_assoc] using h
  · intro h
    obtain ⟨hacc, hpr⟩ := h
    have hv : (run g limits g.start target).verdict = "is not in the language" := by
      rw [Progress.verdict, hacc, hpr]
      rfl
    have hl : "` is not in the language" = "` " ++ "is not in the language" := rfl
    have hn : "\n`" = "\n" ++ "`" := rfl
    refine ⟨(run g limits g.start target).trace.shown, ?_⟩
    rw [hv, hl, hn]
    simp only [String.append_assoc]

end Search

namespace Grammar

/-- A rejection for which nothing was pruned rules out every derivation, leftmost or not, and only
such a rejection is reported as one. -/
theorem unpruned_rejection_conclusive (g : Grammar) (limits : Limits) (target : Form)
    (ht : target.Finished) :
    (∀ start, (g.deriveFrom limits start target).accepted = false →
      (g.deriveFrom limits start target).pruned = false → ¬ g.Derives [start] target) ∧
    ((Cli.runDerive g target limits).report.ClosesWith
        ("`" ++ String.ofList target.shown ++ "` is not in the language") ↔
      (g.derive limits target).accepted = false ∧ (g.derive limits target).pruned = false) ∧
    ((Cli.runDerive g target limits).report.ClosesWith
        ("`" ++ String.ofList target.shown ++ "` is not in the language") →
      ¬ g.Derives [g.start] target) := by
  have hiff := Search.closesWith_runDerive_iff g limits target
  refine ⟨fun start hacc hpr => Search.not_derives_of_rejected ht hacc hpr, hiff, ?_⟩
  intro h
  obtain ⟨hacc, hpr⟩ := hiff.mp h
  exact Search.not_derives_of_rejected ht hacc hpr

theorem demonstration_not_derives_x :
    Form.Finished ['x'] ∧
    (demonstration.deriveFrom .standard 'S' ['x']).accepted = false ∧
    (demonstration.deriveFrom .standard 'S' ['x']).pruned = false ∧
    ¬ demonstration.Derives ['S'] ['x'] ∧
    (Cli.runDerive demonstration ['x'] .standard).report.ClosesWith "`x` is not in the language" := by
  have ht : Form.Finished ['x'] := by decide
  have hacc : (demonstration.deriveFrom .standard 'S' ['x']).accepted = false := by decide +kernel
  have hpr : (demonstration.deriveFrom .standard 'S' ['x']).pruned = false := by decide +kernel
  obtain ⟨hd, hiff, -⟩ := unpruned_rejection_conclusive demonstration .standard ['x'] ht
  exact ⟨ht, hacc, hpr, hd 'S' hacc hpr, hiff.mpr ⟨hacc, hpr⟩⟩

/-- The search finds the leftmost derivations with at most one move more than the depth limit and
with no form beyond the length limit in front of a move, as long as its budget lasts. -/
theorem accepted_iff_leftmost_within (g : Grammar) (limits : Limits) (start : Char)
    (target : Form) :
    ((g.deriveFrom limits start target).accepted = true ↔
      (Search.run g limits start target).exhausted = false ∧ target.Finished ∧
        ∃ moves, g.Leftmost moves [start] target ∧ moves.length ≤ limits.maxDepth + 1 ∧
          ∀ m ∈ moves, m.form.length ≤ limits.maxLength) ∧
    ((g.deriveFrom limits start target).accepted = true → g.Derives [start] target) ∧
    ((Search.run g limits start target).exhausted = true →
      (g.deriveFrom limits start target).accepted = false) := by
  have hiff := Search.accepted_run_iff g limits start target
  refine ⟨hiff, ?_, ?_⟩
  · intro hacc
    exact (hiff.mp hacc).2.2.derives
  · intro hx
    apply eq_false_of_ne_true
    intro hacc
    have hx' := (hiff.mp hacc).1
    simp [hx] at hx'

end Grammar

end Sentential
