import Sentential.Sample

namespace Sentential

namespace RandomSource

theorem indexOf_lt {n : Nat} (hn : 0 < n) (w : UInt32) : indexOf n w < n := by
  have hw : w.toNat < UInt32.size := w.toNat_lt_size
  apply Nat.div_lt_of_lt_mul
  exact Nat.mul_lt_mul_of_pos_right hw hn

theorem drawIndex_lt {n : Nat} (hn : 0 < n) (patience : Nat) (src : RandomSource) :
    (drawIndex n patience src).1 < n := by
  induction patience generalizing src with
  | zero => exact indexOf_lt hn _
  | succ patience ih =>
    rw [drawIndex]
    split
    · exact indexOf_lt hn _
    · exact ih _

theorem exists_mem_choose {α : Type} {options : List α} (h : options ≠ []) (src : RandomSource) :
    ∃ a ∈ options, ∃ src', src.choose options = (some a, src') := by
  let draw := drawIndex options.length patience src
  have hi : draw.1 < options.length := drawIndex_lt (List.length_pos_iff.mpr h) patience src
  refine ⟨options[draw.1], List.getElem_mem hi, draw.2, ?_⟩
  rw [choose, if_neg (by simpa using h)]
  exact congrArg (·, draw.2) (List.getElem?_eq_getElem hi)

end RandomSource

namespace Sampler

inductive Task where
  | expand (x : Char)
  | grow (form : Form)

variable (g : Grammar) (limit : Nat)

/-- A task leads from one state of the source to another and has a forest or an error as its
outcome. `room` is the number of expansions that may still nest. An invariant has one case for each
thing that can happen at a symbol. -/
inductive Runs : (room : Nat) → Task → RandomSource → Except SampleError Forest → RandomSource → Prop
  | tooDeep {x src} : Runs 0 (.expand x) src (.error (.tooDeep limit)) src
  | undefined {room x src} :
      g.alternatives x = [] →
      Runs (room + 1) (.expand x) src (.error (.undefinedNonterminal x)) src
  | expand {room x a src src' src'' result} :
      a ∈ g.alternatives x → src.choose (g.alternatives x) = (some a, src') →
      Runs room (.grow a) src' result src'' → Runs (room + 1) (.expand x) src result src''
  | nil {room src} : Runs room (.grow []) src (.ok .nil) src
  | terminal {room c rest src src' result} :
      isNonterminal c = false → Runs room (.grow rest) src result src' →
      Runs room (.grow (c :: rest)) src (result.map (.terminal c)) src'
  | failed {room x rest src src' e} :
      isNonterminal x → Runs room (.expand x) src (.error e) src' →
      Runs room (.grow (x :: rest)) src (.error e) src'
  | node {room x rest children src src' src'' result} :
      isNonterminal x → Runs room (.expand x) src (.ok children) src' →
      Runs room (.grow rest) src' result src'' →
      Runs room (.grow (x :: rest)) src (result.map (.node x children)) src''

variable {g limit}

theorem bind_of_ok {α β : Type} {m : Sampler α} {f : α → Sampler β} {src src' : RandomSource} {a : α}
    (h : m src = (.ok a, src')) : (m >>= f) src = f a src' := by
  simp only [bind, ExceptT.bind, ExceptT.mk, StateT.bind, h]
  rfl

theorem bind_of_error {α β : Type} {m : Sampler α} {f : α → Sampler β} {src src' : RandomSource}
    {e : SampleError} (h : m src = (.error e, src')) : (m >>= f) src = (.error e, src') := by
  simp only [bind, ExceptT.bind, ExceptT.mk, StateT.bind, h]
  rfl

theorem bind_pure (m : Sampler Forest) (f : Forest → Forest) (src : RandomSource) :
    (m >>= fun F => pure (f F)) src = ((m src).1.map f, (m src).2) := by
  cases hm : m src with
  | mk result src' =>
    cases result with
    | error e =>
      rw [bind_of_error hm]
      rfl
    | ok F =>
      rw [bind_of_ok hm]
      rfl

theorem runs_form {room : Nat} {expand : Char → Sampler Forest}
    (h : ∀ x src, Runs g limit room (.expand x) src (expand x src).1 (expand x src).2)
    (f : Form) (src : RandomSource) :
    Runs g limit room (.grow f) src (form expand f src).1 (form expand f src).2 := by
  induction f generalizing src with
  | nil => exact .nil
  | cons c rest ih =>
    rw [form]
    split
    · next hc =>
      have hx := h c src
      cases he : expand c src with
      | mk result src' =>
        rw [he] at hx
        cases result with
        | error e =>
          rw [bind_of_error he]
          exact .failed hc hx
        | ok children =>
          rw [bind_of_ok he, bind_pure]
          exact .node hc hx (ih src')
    · next hc =>
      rw [bind_pure]
      exact .terminal (eq_false_of_ne_true hc) (ih src)

theorem runs_symbol (g : Grammar) (limit room : Nat) (x : Char) (src : RandomSource) :
    Runs g limit room (.expand x) src (symbol g limit room x src).1 (symbol g limit room x src).2 := by
  induction room generalizing x src with
  | zero => exact .tooDeep
  | succ room ih =>
    rw [symbol]
    by_cases ha : g.alternatives x = []
    · have hchoose : Sampler.choose (g.alternatives x) src = (.ok none, src) := by
        rw [ha]
        rfl
      rw [bind_of_ok hchoose]
      exact .undefined ha
    · obtain ⟨a, hm, src', hc⟩ := RandomSource.exists_mem_choose ha src
      have hchoose : Sampler.choose (g.alternatives x) src = (.ok (some a), src') := by
        rw [Sampler.choose, hc]
      rw [bind_of_ok hchoose]
      exact .expand hm hc (runs_form ih a src')

theorem map_eq_error_iff {ε α β : Type} {f : α → β} {result : Except ε α} {e : ε} :
    result.map f = .error e ↔ result = .error e := by
  cases result <;> simp [Except.map]

/-- What a task leads to is settled by the source. -/
theorem Runs.unique {room : Nat} {task : Task} {src src' last : RandomSource}
    {result outcome : Except SampleError Forest} (h : Runs g limit room task src result src')
    (h' : Runs g limit room task src outcome last) : outcome = result ∧ last = src' := by
  -- the symbol, its alternatives and what came of its children tell which case the other course is in
  induction h generalizing outcome last with
  | tooDeep =>
    cases h'
    exact ⟨rfl, rfl⟩
  | undefined ha =>
    cases h' with
    | undefined => exact ⟨rfl, rfl⟩
    | expand hm => exact absurd (ha ▸ hm) List.not_mem_nil
  | expand hm hc _ ih =>
    cases h' with
    | undefined ha => exact absurd (ha ▸ hm) List.not_mem_nil
    | expand _ hc' hr =>
      obtain ⟨ha, rfl⟩ := Prod.mk.inj (hc'.symm.trans hc)
      obtain rfl := Option.some.inj ha
      exact ih hr
  | nil =>
    cases h'
    exact ⟨rfl, rfl⟩
  | terminal hc _ ih =>
    cases h' with
    | terminal _ hr =>
      obtain ⟨rfl, rfl⟩ := ih hr
      exact ⟨rfl, rfl⟩
    | failed hx | node hx => exact absurd hx (ne_true_of_eq_false hc)
  | failed hx _ ih =>
    cases h' with
    | terminal hc => exact absurd hx (ne_true_of_eq_false hc)
    | failed _ hr => exact ih hr
    | node _ hr => cases (ih hr).1
  | node hx _ _ ihc ih =>
    cases h' with
    | terminal hc => exact absurd hx (ne_true_of_eq_false hc)
    | failed _ hr => cases (ihc hr).1
    | node _ hb hr =>
      obtain ⟨hchildren, rfl⟩ := ihc hb
      obtain rfl := Except.ok.inj hchildren
      obtain ⟨rfl, rfl⟩ := ih hr
      exact ⟨rfl, rfl⟩

/-- Induction on a sampling that succeeds, in the course of which nothing fails. -/
@[elab_as_elim] theorem Runs.ok_induction
    {motive : ∀ {room task src src' F}, Runs g limit room task src (.ok F) src' → Prop}
    (expand : ∀ {room x a} {src src' src'' : RandomSource} {F} (ha : a ∈ g.alternatives x)
      (hc : src.choose (g.alternatives x) = (some a, src'))
      (h : Runs g limit room (.grow a) src' (.ok F) src''), motive h → motive (.expand ha hc h))
    (nil : ∀ {room src}, motive (.nil : Runs g limit room (.grow []) src (.ok .nil) src))
    (terminal : ∀ {room c rest src src' F} (hc : isNonterminal c = false)
      (h : Runs g limit room (.grow rest) src (.ok F) src'), motive h → motive (.terminal hc h))
    (node : ∀ {room x rest children src src' src'' F} (hx : isNonterminal x)
      (hb : Runs g limit room (.expand x) src (.ok children) src')
      (h : Runs g limit room (.grow rest) src' (.ok F) src''),
      motive hb → motive h → motive (.node hx hb h))
    {room : Nat} {task : Task} {src src' : RandomSource} {F : Forest}
    (h : Runs g limit room task src (.ok F) src') : motive h := by
  -- an induction wants the result as a variable: that it is a forest is a hypothesis of its own
  have main {room task src src' result} (h : Runs g limit room task src result src') {F : Forest}
      (hr : result = .ok F) : motive (hr ▸ h : Runs g limit room task src (.ok F) src') := by
    induction h generalizing F with
    | tooDeep => cases hr
    | undefined ha => cases hr
    | expand ha hc h ih =>
      subst hr
      exact expand ha hc h (ih rfl)
    | nil =>
      cases hr
      exact nil
    | @terminal _ _ _ _ _ result hc h ih =>
      cases result with
      | error e => cases hr
      | ok G =>
        cases hr
        exact terminal hc h (ih rfl)
    | failed hx h ih => cases hr
    | @node _ _ _ _ _ _ _ result hx hb h ihb ih =>
      cases result with
      | error e => cases hr
      | ok G =>
        cases hr
        exact node hx hb h (ihb rfl) (ih rfl)
  exact main h rfl

theorem symbol_of_runs {room : Nat} {x : Char} {src src' : RandomSource}
    {result : Except SampleError Forest} (h : Runs g limit room (.expand x) src result src') :
    symbol g limit room x src = (result, src') := by
  obtain ⟨hresult, hsrc⟩ := h.unique (runs_symbol g limit room x src)
  exact Prod.ext hresult hsrc

end Sampler

theorem Grammar.sample_of_runs {g : Grammar} {maxDepth : Nat} {src src' : RandomSource}
    {result : Except SampleError Forest}
    (h : Sampler.Runs g maxDepth maxDepth (.expand g.start) src result src') :
    g.sample maxDepth src = (result.map Forest.yield, src') := by
  rw [sample, sampleForest, Sampler.symbol_of_runs h]

/-- A sample is the yield of what its course brings forth. -/
theorem Grammar.exists_runs_sample (g : Grammar) (maxDepth : Nat) (src : RandomSource) :
    ∃ result, Sampler.Runs g maxDepth maxDepth (.expand g.start) src result (g.sample maxDepth src).2 ∧
      (g.sample maxDepth src).1 = result.map Forest.yield :=
  ⟨_, Sampler.runs_symbol g maxDepth maxDepth g.start src, rfl⟩

theorem Grammar.exists_runs_of_sample {g : Grammar} {maxDepth : Nat} {src : RandomSource} {w : Form}
    (h : (g.sample maxDepth src).1 = .ok w) :
    ∃ children, children.yield = w ∧
      Sampler.Runs g maxDepth maxDepth (.expand g.start) src (.ok children)
        (g.sample maxDepth src).2 := by
  obtain ⟨result, hr, hs⟩ := g.exists_runs_sample maxDepth src
  rw [hs] at h
  cases result with
  | error e => cases h
  | ok children => exact ⟨children, Except.ok.inj h, hr⟩

end Sentential
