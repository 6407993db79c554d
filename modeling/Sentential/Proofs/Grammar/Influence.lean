import Sentential.Proofs.Sample.Course
import Sentential.Proofs.Search.Lockstep

namespace Sentential

namespace Grammar

variable {g : Grammar} {f a : Form} {x : Char}

def ReachesAll (g : Grammar) (f : Form) : Prop := ∀ c ∈ f, isNonterminal c → g.Reachable c

theorem reachesAll_start (g : Grammar) : g.ReachesAll [g.start] := by
  intro c hc _
  rw [List.mem_singleton.mp hc]
  exact .start

theorem Reachable.reachesAll (hx : g.Reachable x) (ha : a ∈ g.alternatives x) : g.ReachesAll a :=
  fun _ hc hn => .use hx ha hc hn

theorem Reachable.eq_start_or_isNonterminal (h : g.Reachable x) : x = g.start ∨ isNonterminal x := by
  cases h with
  | start => exact .inl rfl
  | use _ _ _ hn => exact .inr hn

/-- Symbols with the start symbol among them, and all that their own alternatives use, are enough. -/
theorem Reachable.mem_of_nonterminals_subset {symbols : List Char} (hstart : g.start ∈ symbols)
    (huse : Form.nonterminals (symbols.flatMap g.alternatives).flatten ⊆ symbols)
    (h : g.Reachable x) : x ∈ symbols := by
  induction h with
  | start => exact hstart
  | use _ ha hy hn ih =>
    apply huse
    refine List.mem_filter.mpr ⟨?_, hn⟩
    exact List.mem_flatten.mpr ⟨_, List.mem_flatMap.mpr ⟨_, ih, ha⟩, hy⟩

theorem ReachesAll.reachable {focus : Form.Focus} (hf : g.ReachesAll f)
    (hl : f.leftmost? = some focus) : g.Reachable focus.symbol :=
  hf focus.symbol (Form.symbol_mem_of_leftmost? hl) (Form.leftmost?_eq_some_iff.mp hl).2.1

theorem ReachesAll.fill {focus : Form.Focus} (hf : g.ReachesAll f) (hl : f.leftmost? = some focus)
    (ha : a ∈ g.alternatives focus.symbol) : g.ReachesAll (focus.fill a) :=
  Form.forall_mem_fill hl hf ((hf.reachable hl).reachesAll ha)

/-- The same alternatives, in the same order, for every symbol that can be reached in the first. -/
def AgreesWith (g g' : Grammar) : Prop := ∀ x, g.Reachable x → g'.alternatives x = g.alternatives x

end Grammar

namespace Search

def Task.InReach (g : Grammar) : Task → Prop
  | visit form => g.ReachesAll form
  | tryAll focus alternatives => ∀ a ∈ alternatives, g.ReachesAll (focus.fill a)

variable {g g' : Grammar} {limits : Limits} {target : Form} {room depth : Nat} {task : Task}
  {p r : Progress}

theorem Runs.of_agreesWith (h : Runs g limits target room depth task p r) (hg : g.AgreesWith g')
    (ht : task.InReach g) : Runs g' limits target room depth task p r := by
  induction h with
  | spent hv => exact .spent hv
  | found hv hf => exact .found hv hf
  | missed hv hf hne => exact .missed hv hf hne
  | tooDeep hv hf => exact .tooDeep hv hf
  | tooLong hv hf hl => exact .tooLong hv hf hl
  | noRules hv hf hl ha =>
    -- the leftmost nonterminal can be reached, so its alternatives are the same
    rw [← hg _ (Grammar.ReachesAll.reachable ht hf)] at ha
    exact .noRules hv hf hl ha
  | expand hv hf hl ha _ ih =>
    have hbelow := ih fun a hm => Grammar.ReachesAll.fill ht hf hm
    rw [← hg _ (Grammar.ReachesAll.reachable ht hf)] at ha hbelow
    exact .expand hv hf hl ha hbelow
  | failed => exact .failed
  | succeeded _ hacc ih => exact .succeeded (ih (ht _ List.mem_cons_self)) hacc
  | stopped _ hacc hex ih => exact .stopped (ih (ht _ List.mem_cons_self)) hacc hex
  | next _ hacc hex _ ihq ihr =>
    obtain ⟨ha, hrest⟩ := List.forall_mem_cons.mp ht
    exact .next (ihq ha) hacc hex (ihr hrest)

theorem run_of_agreesWith (hg : g.AgreesWith g') (limits : Limits) (target : Form) :
    run g' limits g.start target = run g limits g.start target := by
  have h := (runs_run g limits g.start target).of_agreesWith hg g.reachesAll_start
  rw [run_eq_result rfl]
  exact h.result_eq rfl rfl (Nat.le_refl _) (.inr rfl) (.inl rfl)

end Search

namespace Sampler

def Task.InReach (g : Grammar) : Task → Prop
  | expand x => g.Reachable x
  | grow form => g.ReachesAll form

variable {g g' : Grammar} {limit room : Nat} {task : Task} {src src' : RandomSource}
  {result : Except SampleError Forest}

theorem Runs.of_agreesWith (h : Runs g limit room task src result src') (hg : g.AgreesWith g')
    (ht : task.InReach g) : Runs g' limit room task src result src' := by
  induction h with
  | tooDeep => exact .tooDeep
  | undefined ha => exact .undefined ((hg _ ht).trans ha)
  | expand ha hc _ ih =>
    have hbelow := ih (Grammar.Reachable.reachesAll ht ha)
    rw [← hg _ ht] at ha hc
    exact .expand ha hc hbelow
  | nil => exact .nil
  | terminal hc _ ih => exact .terminal hc (ih (List.forall_mem_cons.mp ht).2)
  | failed hx _ ih => exact .failed hx (ih ((List.forall_mem_cons.mp ht).1 hx))
  | node hx _ _ ihc ih =>
    obtain ⟨hfirst, hrest⟩ := List.forall_mem_cons.mp ht
    exact .node hx (ihc (hfirst hx)) (ih hrest)

end Sampler

namespace Grammar

variable {g g' : Grammar}

theorem AgreesWith.derive_eq (hg : g.AgreesWith g') (hstart : g'.start = g.start) (limits : Limits)
    (target : Form) : g'.derive limits target = g.derive limits target := by
  rw [derive, derive, deriveFrom, deriveFrom, hstart, Search.run_of_agreesWith hg]

theorem AgreesWith.sample_eq (hg : g.AgreesWith g') (hstart : g'.start = g.start) (maxDepth : Nat)
    (src : RandomSource) : g'.sample maxDepth src = g.sample maxDepth src := by
  obtain ⟨result, hr, hs⟩ := g.exists_runs_sample maxDepth src
  have h := hr.of_agreesWith hg Reachable.start
  rw [← hstart] at h
  rw [sample_of_runs h]
  exact Prod.ext hs.symm rfl

/-- Rules that cannot be reached have no influence: neither on a search, its trace included, nor on a
sampling and the words that it takes. Entries of terminals cannot be reached, unless one of them is the
start symbol. -/
theorem derive_and_sample_of_agreement (hstart : g'.start = g.start) :
    ((∀ x, g.Reachable x → g'.alternatives x = g.alternatives x) →
      (∀ limits target, g'.derive limits target = g.derive limits target) ∧
      ∀ maxDepth src, g'.sample maxDepth src = g.sample maxDepth src) ∧
    ((∀ x, x = g.start ∨ isNonterminal x → g'.alternatives x = g.alternatives x) →
      (∀ limits target, g'.derive limits target = g.derive limits target) ∧
      ∀ maxDepth src, g'.sample maxDepth src = g.sample maxDepth src) := by
  have hmain (hg : g.AgreesWith g') :
      (∀ limits target, g'.derive limits target = g.derive limits target) ∧
      ∀ maxDepth src, g'.sample maxDepth src = g.sample maxDepth src :=
    ⟨hg.derive_eq hstart, hg.sample_eq hstart⟩
  exact ⟨hmain, fun hg => hmain fun x hx => hg x hx.eq_start_or_isNonterminal⟩

/-- One table has rules for `Z`, which nothing leads to, and for the terminal `a`, which comes up. -/
theorem derive_and_sample_of_unused_rules :
    let g := empty 'S' |>.extend 'S' [['a', 'A'], []] |>.extend 'A' [['S', 'b']]
    let g' := g.extend 'Z' [['A'], ['X']] |>.extend 'a' [['c', 'S']]
    g'.start = g.start ∧ (∀ x, g.Reachable x → g'.alternatives x = g.alternatives x) ∧
    (∀ limits target, g'.derive limits target = g.derive limits target) ∧
    ∀ maxDepth src, g'.sample maxDepth src = g.sample maxDepth src := by
  intro g g'
  have hstart : g'.start = g.start := rfl
  have hreach (x : Char) (hx : g.Reachable x) : x ∈ ['S', 'A'] :=
    hx.mem_of_nonterminals_subset (by decide) (by decide)
  have hg (x : Char) (hx : g.Reachable x) : g'.alternatives x = g.alternatives x := by
    obtain rfl | rfl := List.mem_pair.mp (hreach x hx) <;> rfl
  exact ⟨hstart, hg, (derive_and_sample_of_agreement hstart).1 hg⟩

end Grammar

end Sentential
