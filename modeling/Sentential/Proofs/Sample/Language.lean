import Sentential.Proofs.Grammar.Closed
import Sentential.Proofs.Search.Extent

namespace Sentential

namespace Sampler

/-- A forest is one that the task asks for. -/
def Task.Fits (g : Grammar) : Task → Forest → Prop
  | expand x, F => F.roots ∈ g.alternatives x
  | grow form, F => F.roots = form

variable {g : Grammar} {limit room : Nat} {task : Task} {src src' : RandomSource} {F : Forest}

theorem Runs.conforms (h : Runs g limit room task src (.ok F) src') :
    task.Fits g F ∧ F.Conforms g := by
  induction h using Runs.ok_induction with
  | @expand _ _ a _ _ _ F ha _ _ ih =>
    obtain ⟨hroots, hconf⟩ := ih
    change F.roots = a at hroots
    rw [← hroots] at ha
    exact ⟨ha, hconf⟩
  | nil => exact ⟨rfl, trivial⟩
  | @terminal _ c _ _ _ _ hc _ ih =>
    obtain ⟨hroots, hconf⟩ := ih
    exact ⟨congrArg (c :: ·) hroots, hc, hconf⟩
  | @node _ x _ _ _ _ _ _ hx _ _ ihb ih =>
    obtain ⟨hchildren, hbelow⟩ := ihb
    obtain ⟨hroots, hconf⟩ := ih
    exact ⟨congrArg (x :: ·) hroots, hx, hchildren, hbelow, hconf⟩

end Sampler

namespace Grammar

variable {g : Grammar} {maxDepth : Nat} {src : RandomSource} {w : Form}

/-- The forest of a sample, with the start symbol at its top. -/
theorem exists_forest_of_sample (hx : isNonterminal g.start)
    (h : (g.sample maxDepth src).1 = .ok w) :
    ∃ F : Forest, F.Conforms g ∧ F.roots = [g.start] ∧ F.yield = w := by
  obtain ⟨children, rfl, hr⟩ := exists_runs_of_sample h
  obtain ⟨hroots, hconf⟩ := hr.conforms
  exact ⟨.node g.start children .nil, ⟨hx, hroots, hconf, trivial⟩, rfl,
    List.append_nil children.yield⟩

theorem derives_of_sample (hx : isNonterminal g.start) (h : (g.sample maxDepth src).1 = .ok w) :
    w.Finished ∧ g.Derives [g.start] w := by
  obtain ⟨F, hF, hroots, rfl⟩ := exists_forest_of_sample hx h
  obtain ⟨moves, hm, -⟩ := Leftmost.of_forest hF
  rw [hroots] at hm
  exact ⟨Forest.finished_yield hF, hm.derives⟩

/-- The start symbol of a grammar that was read is a nonterminal, and if the start symbol is one, no
search rejects a sampled sentence for good, and some search finds it. -/
theorem accepted_or_pruned_of_sample (g : Grammar) :
    (∀ text startOverride file, parse text startOverride file = .ok g → isNonterminal g.start) ∧
    (isNonterminal g.start → ∀ maxDepth src w, (g.sample maxDepth src).1 = .ok w →
      (∀ limits, (g.derive limits w).accepted = true ∨ (g.derive limits w).pruned = true) ∧
      (∀ limits, ¬ (Cli.runDerive g w limits).report.ClosesWith
        ("`" ++ String.ofList w.shown ++ "` is not in the language")) ∧
      ∃ limits, (g.derive limits w).accepted = true) := by
  constructor
  · intro text startOverride file h
    have hg := closed_of_parse h
    exact hg.nonterminal g.start hg.start
  · intro hx maxDepth src w h
    obtain ⟨hfin, hd⟩ := derives_of_sample hx h
    have hor (limits : Limits) :
        (g.derive limits w).accepted = true ∨ (g.derive limits w).pruned = true := by
      by_contra hno
      rw [not_or, Bool.not_eq_true, Bool.not_eq_true] at hno
      exact Search.not_derives_of_rejected hfin hno.1 hno.2 hd
    refine ⟨hor, ?_, Search.exists_accepted_of_derives hfin hd⟩
    intro limits hcloses
    obtain ⟨hacc, hpr⟩ := (Search.closesWith_runDerive_iff g limits w).mp hcloses
    have h := hor limits
    simp [hacc, hpr] at h

/-- The rule of `S` that comes first loops, and the second word of the source is not used. -/
theorem accepted_or_pruned_of_left_recursive_sample :
    let g := empty 'S' |>.extend 'S' [['S', 'a'], ['b']]
    let src := RandomSource.ofWords [0, 4294967295, 0, 2147483648]
    isNonterminal g.start ∧ (g.sample 8 src).1 = .ok ['b', 'a', 'a'] ∧
      (∀ limits, (g.derive limits ['b', 'a', 'a']).accepted = true ∨
        (g.derive limits ['b', 'a', 'a']).pruned = true) ∧
      ∃ limits, (g.derive limits ['b', 'a', 'a']).accepted = true := by
  intro g src
  have hx : isNonterminal g.start := by decide
  have hs : (g.sample 8 src).1 = .ok ['b', 'a', 'a'] := by decide +kernel
  obtain ⟨-, h⟩ := accepted_or_pruned_of_sample g
  obtain ⟨hor, -, hacc⟩ := h hx 8 src ['b', 'a', 'a'] hs
  exact ⟨hx, hs, hor, hacc⟩

end Grammar

end Sentential
