import Sentential.Proofs.Sample.Language

namespace Sentential

namespace Grammar

variable {g : Grammar} {choices : List (Char × Form)} {f t : Form} {src src' last : RandomSource}

/-- The loop makes these choices on its way from one form and source to another form and source. -/
def Rewrites (g : Grammar) (choices : List (Char × Form)) (f : Form) (src : RandomSource) (t : Form)
    (last : RandomSource) : Prop :=
  g.rewrite choices.length f src = some (choices, t, last)

theorem Rewrites.refl (g : Grammar) (f : Form) (src : RandomSource) : g.Rewrites [] f src f src := rfl

theorem Rewrites.cons {focus : Form.Focus} {a : Form} (hf : f.leftmost? = some focus)
    (hc : src.choose (g.alternatives focus.symbol) = (some a, src'))
    (h : g.Rewrites choices (focus.fill a) src' t last) :
    g.Rewrites ((focus.symbol, a) :: choices) f src t last := by
  rw [Rewrites] at h
  rw [Rewrites, List.length_cons, rewrite, hf]
  simp only [hc, h, Option.map_some]

end Grammar

namespace Sampler

open Grammar (Rewrites)

def Task.form : Task → Form
  | expand x => [x]
  | grow form => form

def Task.Replaces : Task → Prop
  | expand x => isNonterminal x
  | grow _ => True

def Task.choices (g : Grammar) (limit room : Nat) : Task → RandomSource → List (Char × Form)
  | expand x => symbolChoices g limit room x
  | grow form => formChoices (symbol g limit room) (symbolChoices g limit room) form

def Task.readChoices : Task → Forest → List (Char × Form)
  | expand x, F => (x, F.roots) :: F.choices
  | grow _, F => F.choices

variable {g : Grammar} {limit room : Nat} {task : Task} {src src' : RandomSource} {F : Forest}

theorem Task.choices_expand {x : Char} {a : Form}
    (hc : src.choose (g.alternatives x) = (some a, src')) :
    (expand x).choices g limit (room + 1) src = (x, a) :: (grow a).choices g limit room src' := by
  rw [choices, symbolChoices, hc]
  rfl

theorem Task.choices_terminal {c : Char} {rest : Form} (hc : isNonterminal c = false) :
    (grow (c :: rest)).choices g limit room src = (grow rest).choices g limit room src := by
  rw [choices, formChoices, hc]
  rfl

theorem Task.choices_node {x : Char} {rest : Form} {children : Forest} (hx : isNonterminal x)
    (hc : Runs g limit room (.expand x) src (.ok children) src') :
    (grow (x :: rest)).choices g limit room src =
      (expand x).choices g limit room src ++ (grow rest).choices g limit room src' := by
  simp only [choices, formChoices, if_pos hx, symbol_of_runs hc]

/-- The choices of a sampling that succeeds are those of the forest that it grows. -/
theorem Runs.choices_eq (h : Runs g limit room task src (.ok F) src') :
    task.choices g limit room src = task.readChoices F := by
  induction h using Runs.ok_induction with
  | @expand _ x a _ _ _ F _ hc h ih =>
    have hroots : F.roots = a := h.conforms.1
    rw [Task.choices_expand hc, ih, Task.readChoices, hroots]
    rfl
  | nil => rfl
  | terminal hc _ ih => exact (Task.choices_terminal hc).trans ih
  | node hx hb _ ihb ih =>
    rw [Task.choices_node hx hb, ihb, ih]
    rfl

/-- Where a task is all that is left to do in front of `after`, the loop makes the choices of the sampler
and then goes on as it does from there. -/
theorem Runs.rewrites (h : Runs g limit room task src (.ok F) src') (ht : task.Replaces)
    {before : Form} (hb : before.Finished) (after : Form) {choices : List (Char × Form)} {t : Form}
    {last : RandomSource} (hrest : g.Rewrites choices (before ++ F.yield ++ after) src' t last) :
    g.Rewrites (task.choices g limit room src ++ choices) (before ++ task.form ++ after) src t
      last := by
  induction h using Runs.ok_induction generalizing before after choices with
  | @expand _ x _ _ _ _ _ _ hc _ ih =>
    have hf : (before ++ [x] ++ after).leftmost? = some ⟨before, x, after⟩ :=
      Form.leftmost?_append_of_finished hb ht after
    rw [Task.choices_expand hc]
    exact .cons hf hc (ih trivial hb after hrest)
  | nil => exact hrest
  | @terminal _ c _ _ _ _ hc _ ih =>
    have hb' : (before ++ [c]).Finished := by simp [hb, hc]
    rw [Task.choices_terminal hc]
    simpa [Task.form] using ih trivial hb' after (by simpa [Forest.yield] using hrest)
  | @node _ _ rest children _ _ _ _ hx hbelow _ ihb ih =>
    have hb' : (before ++ children.yield).Finished :=
      Form.finished_append_iff.mpr ⟨hb, Forest.finished_yield hbelow.conforms.2⟩
    -- the rest of the form waits behind the subtree, so its choices come after those of the subtree
    have hothers := ih trivial hb' after (by simpa [Forest.yield] using hrest)
    have hloop := ihb hx hb (rest ++ after) (by simpa [Task.form] using hothers)
    rw [Task.choices_node hx hbelow, List.append_assoc]
    simpa [Task.form] using hloop

end Sampler

namespace Grammar

/-- A sampled sentence is what comes of rewriting the start symbol from the left, with the same source,
as many times as the sampler has made choices: the choices are the same, one by one, and nothing is left
to rewrite. -/
theorem rewrite_of_sample {g : Grammar} {maxDepth : Nat} {src : RandomSource} {w : Form}
    (hx : isNonterminal g.start) (h : (g.sample maxDepth src).1 = .ok w) :
    w.Finished ∧
    g.rewrite (g.sampleChoices maxDepth src).length [g.start] src =
      some (g.sampleChoices maxDepth src, w, (g.sample maxDepth src).2) ∧
    ∃ children, (g.sampleForest maxDepth src).1 = .ok children ∧ children.yield = w ∧
      g.sampleChoices maxDepth src = (Forest.node g.start children .nil).choices := by
  refine ⟨(derives_of_sample hx h).1, ?_⟩
  obtain ⟨children, rfl, hr⟩ := exists_runs_of_sample h
  constructor
  · have hend := Rewrites.refl g ([] ++ children.yield ++ []) (g.sample maxDepth src).2
    have hloop := hr.rewrites hx Form.finished_nil [] hend
    simpa [Rewrites, sampleChoices, Sampler.Task.choices, Sampler.Task.form] using hloop
  · have hforest : (g.sampleForest maxDepth src).1 = .ok children :=
      congrArg Prod.fst (Sampler.symbol_of_runs hr)
    refine ⟨children, hforest, rfl, ?_⟩
    exact hr.choices_eq.trans (by simp [Sampler.Task.readChoices, Forest.choices])

/-- Both `C` are expanded, differently, the second of them when the tree of `A` is done. -/
theorem rewrite_of_demonstration_sample :
    let src := RandomSource.ofWords [0, 0, 0, 0, 2147483648]
    let choices := [('S', ['A', 'B']), ('A', ['C', 'a']), ('C', ['c', 'b']), ('B', ['C', 'b']),
      ('C', [])]
    isNonterminal demonstration.start ∧
    (demonstration.sample 3 src).1 = .ok ['c', 'b', 'a', 'b'] ∧
    demonstration.sampleChoices 3 src = choices ∧
    demonstration.rewrite 5 ['S'] src =
      some (choices, ['c', 'b', 'a', 'b'], (demonstration.sample 3 src).2) := by
  intro src choices
  have hx : isNonterminal demonstration.start := by decide
  have hs : (demonstration.sample 3 src).1 = .ok ['c', 'b', 'a', 'b'] := by decide +kernel
  have hc : demonstration.sampleChoices 3 src = choices := by decide +kernel
  obtain ⟨-, hloop, -⟩ := rewrite_of_sample hx hs
  rw [hc] at hloop
  exact ⟨hx, hs, hc, hloop⟩

end Grammar

end Sentential
