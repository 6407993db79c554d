import Sentential.Proofs.Grammar.Parser
import Sentential.Proofs.Sample.Course
import Sentential.Proofs.Search.Course

namespace Sentential

namespace Grammar

def Covers (g : Grammar) (f : Form) : Prop := ∀ c ∈ f, isNonterminal c → g.alternatives c ≠ []

variable {g : Grammar}

theorem mem_symbols_of_mem_alternatives {x : Char} {a : Form} (ha : a ∈ g.alternatives x) :
    x ∈ g.rules.symbols := by
  by_contra hx
  rw [alternatives, RuleTable.alternatives, RuleTable.lookup_of_not_mem_symbols hx] at ha
  exact absurd ha List.not_mem_nil

theorem Closed.covers_start (hg : g.Closed) : g.Covers [g.start] := by
  intro c hc _
  rw [List.mem_singleton.mp hc]
  exact hg.nonempty g.start hg.start

theorem Closed.covers_alternative (hg : g.Closed) {x : Char} {a : Form}
    (ha : a ∈ g.alternatives x) : g.Covers a := by
  intro c hc hn
  exact hg.nonempty c (hg.used x (mem_symbols_of_mem_alternatives ha) a ha c hc hn)

theorem Closed.covers_fill (hg : g.Closed) {f a : Form} {focus : Form.Focus} (hf : g.Covers f)
    (hl : f.leftmost? = some focus) (ha : a ∈ g.alternatives focus.symbol) :
    g.Covers (focus.fill a) :=
  Form.forall_mem_fill hl hf (hg.covers_alternative ha)

theorem Covers.alternatives_ne_nil {f : Form} {focus : Form.Focus} (hf : g.Covers f)
    (hl : f.leftmost? = some focus) : g.alternatives focus.symbol ≠ [] :=
  hf focus.symbol (Form.symbol_mem_of_leftmost? hl) (Form.leftmost?_eq_some_iff.mp hl).2.1

end Grammar

namespace Search

/-- Nothing is without rules in what an action tells. -/
def Action.Covered (g : Grammar) : Action → Prop
  | reached form => g.Covers form
  | noRules _ => False
  | _ => True

/-- Nothing is without rules in the forms of a task. -/
def Task.Covered (g : Grammar) : Task → Prop
  | visit form => g.Covers form
  | tryAll focus alternatives => ∀ a ∈ alternatives, g.Covers (focus.fill a)

variable {g : Grammar} {limits : Limits} {target : Form} {room depth : Nat} {task : Task}
  {p r : Progress}

theorem Runs.covered (hg : g.Closed) (h : Runs g limits target room depth task p r)
    (ht : task.Covered g) (hp : p.Tells (Action.Covered g)) : r.Tells (Action.Covered g) := by
  induction h with
  | spent hv => exact hp.giveUp trivial
  | found hv hfin => exact (hp.reach ht).accept
  | missed hv hf hne => exact hp.reach ht
  | tooDeep hv hf => exact (hp.reach ht).cut trivial
  | tooLong hv hf hl => exact (hp.reach ht).cut trivial
  | noRules hv hf hl ha =>
    -- every nonterminal of the form has rules, the leftmost one too
    exact absurd ha (Grammar.Covers.alternatives_ne_nil ht hf)
  | expand hv hf hl ha hr ih => exact ih (fun a hm => hg.covers_fill ht hf hm) (hp.reach ht)
  | failed => exact hp
  | succeeded hq hacc ih => exact (ih (ht _ List.mem_cons_self) (hp.note trivial)).note trivial
  | stopped hq hacc hex ih => exact ih (ht _ List.mem_cons_self) (hp.note trivial)
  | next hq hacc hex hr ihq ihr =>
    obtain ⟨ha, hrest⟩ := List.forall_mem_cons.mp ht
    exact ihr hrest (ihq ha (hp.note trivial))

theorem covered_run (hg : g.Closed) (limits : Limits) (target : Form) :
    (run g limits g.start target).Tells (Action.Covered g) :=
  (runs_run g limits g.start target).covered hg hg.covers_start Progress.Tells.initial

end Search

namespace Sampler

/-- Nothing is without rules in what is to be grown. -/
def Task.Covered (g : Grammar) : Task → Prop
  | expand x => g.alternatives x ≠ []
  | grow form => g.Covers form

variable {g : Grammar} {limit room : Nat} {task : Task} {src src' : RandomSource}
  {result : Except SampleError Forest}

theorem Runs.eq_tooDeep (hg : g.Closed) (h : Runs g limit room task src result src')
    (ht : task.Covered g) {e : SampleError} (he : result = .error e) : e = .tooDeep limit := by
  induction h with
  | tooDeep => exact (Except.error.inj he).symm
  | undefined ha => exact absurd ha ht
  | expand ha hc hr ih => exact ih (hg.covers_alternative ha) he
  | nil => cases he
  | terminal hc hr ih => exact ih (List.forall_mem_cons.mp ht).2 (map_eq_error_iff.mp he)
  | failed hx hr ih => exact ih ((List.forall_mem_cons.mp ht).1 hx) he
  | node hx hc hr ihc ih => exact ih (List.forall_mem_cons.mp ht).2 (map_eq_error_iff.mp he)

end Sampler

namespace Grammar

theorem Closed.sample_ok_or_tooDeep {g : Grammar} (hg : g.Closed) (maxDepth : Nat)
    (src : RandomSource) :
    (∃ w, (g.sample maxDepth src).1 = .ok w) ∨
      (g.sample maxDepth src).1 = .error (.tooDeep maxDepth) := by
  obtain ⟨result, hr, hs⟩ := g.exists_runs_sample maxDepth src
  rw [hs]
  cases result with
  | ok F => exact .inl ⟨F.yield, rfl⟩
  | error e =>
    rw [hr.eq_tooDeep hg (hg.nonempty g.start hg.start) rfl]
    exact .inr rfl

/-- A grammar that was read is closed. So its samples fail only for want of depth, whatever the source,
and no search of it comes to a form whose leftmost nonterminal has no alternatives. -/
theorem closed_and_covered_of_parse {text : Text} {startOverride : Option Char} {file : FileName}
    {g : Grammar} (h : parse text startOverride file = .ok g) :
    g.Closed ∧
    (∀ maxDepth src, (∃ w, (g.sample maxDepth src).1 = .ok w) ∨
      (g.sample maxDepth src).1 = .error (.tooDeep maxDepth)) ∧
    (∀ limits target, ∀ e ∈ (Search.run g limits g.start target).events,
      (∀ x, e.action ≠ .noRules x) ∧
      ∀ form focus, e.action = .reached form → form.leftmost? = some focus →
        g.alternatives focus.symbol ≠ []) := by
  have hg := closed_of_parse h
  refine ⟨hg, fun maxDepth src => hg.sample_ok_or_tooDeep maxDepth src, ?_⟩
  intro limits target e he
  have hc := Search.covered_run hg limits target e he
  constructor
  · intro x hx
    rw [hx] at hc
    exact hc
  · intro form focus hform hl
    rw [hform] at hc
    exact Covers.alternatives_ne_nil hc hl

/-- `S` is used before its rules come, and it is the start symbol although `A` comes first. -/
theorem closed_and_covered_of_mutual_rules :
    let text := "A -> aS | λ\n; the rules of S\nS → A|b".toList
    let g := empty 'S' |>.extend 'A' [['a', 'S'], []] |>.extend 'S' [['A'], ['b']]
    parse text (some 'S') [] = .ok g ∧ g.Closed ∧
    (∀ maxDepth src, (∃ w, (g.sample maxDepth src).1 = .ok w) ∨
      (g.sample maxDepth src).1 = .error (.tooDeep maxDepth)) ∧
    (∀ limits target, ∀ e ∈ (Search.run g limits g.start target).events,
      (∀ x, e.action ≠ .noRules x) ∧
      ∀ form focus, e.action = .reached form → form.leftmost? = some focus →
        g.alternatives focus.symbol ≠ []) := by
  intro text g
  have h : parse text (some 'S') [] = .ok g := by decide +kernel
  exact ⟨h, closed_and_covered_of_parse h⟩

end Grammar

end Sentential
