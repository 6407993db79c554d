import Sentential.Cli.Run
import Sentential.Proofs.Grammar.Reports
import Sentential.Proofs.Grammar.RoundTrip
import Sentential.Proofs.Sample.Course
import Sentential.Proofs.Search.Course

namespace Sentential

namespace Grammar

/-- Without rules for the start symbol nothing is derived, except that a terminal is a sentence as it
is. -/
theorem accepted_iff_of_noRules {g : Grammar} {start : Char} (h : g.alternatives start = [])
    (limits : Limits) (target : Form) :
    (g.deriveFrom limits start target).accepted = true ↔
      0 < limits.maxSteps ∧ isNonterminal start = false ∧ target = [start] := by
  have hsymbol {focus : Form.Focus} (hl : Form.leftmost? [start] = some focus) :
      focus.symbol = start ∧ isNonterminal start := by
    have hx := List.mem_singleton.mp (Form.symbol_mem_of_leftmost? hl)
    exact ⟨hx, hx ▸ (Form.leftmost?_eq_some_iff.mp hl).2.1⟩
  have hrun := Search.runs_run g limits start target
  change (Search.run g limits start target).accepted = true ↔ _
  generalize Search.run g limits start target = result at hrun
  cases hrun with
  | spent hv =>
    have hv : ¬ 0 < limits.maxSteps := Nat.not_lt_of_le hv
    simp [hv, Search.Progress.initial]
  | found hv ht =>
    have hx : isNonterminal start = false := by simpa using ht
    simpa [hx, Search.Progress.initial] using hv
  | missed hv hf hne => simp [Ne.symm hne, Search.Progress.initial]
  | tooLong hv hl _ => simp [hsymbol hl, Search.Progress.initial]
  | noRules hv hl _ _ => simp [hsymbol hl, Search.Progress.initial]
  | expand hv hl _ hne _ => exact absurd ((hsymbol hl).1 ▸ h) hne

theorem sample_of_noRules {g : Grammar} (h : g.alternatives g.start = []) (maxDepth : Nat)
    (src : RandomSource) :
    g.sample maxDepth src =
      (.error (if maxDepth = 0 then .tooDeep 0 else .undefinedNonterminal g.start), src) := by
  cases maxDepth with
  | zero => exact sample_of_runs .tooDeep
  | succ maxDepth => exact sample_of_runs (.undefined h)

theorem parse_demonstration_print (startOverride : Option Char) (file : FileName) :
    parse demonstration.print startOverride file =
      match startOverride with
      | none => .ok demonstration
      | some start =>
        if start ∈ demonstration.rules.symbols then .ok { demonstration with start }
        else .error [⟨.wholeFile file, .undefinedStart start⟩] := by
  have htext : parse "S -> AB\nA -> Ca | Ba\nB -> Cb | b\nC -> cb | ε".toList none [] =
      .ok demonstration := by decide +kernel
  have hprint := (printable_of_parse htext).parse_print (.inr rfl) file
  cases startOverride with
  | none => exact hprint
  | some start => exact parse_some_of_parse hprint start

end Grammar

namespace Cli

open Grammar (demonstration)

/-- The built-in grammar with a start symbol that is asked for is what its text is read as, as long as
that symbol has rules. One without rules is reported where the text is read, but is taken where the
grammar is built in: then only a terminal is derived, from itself, and no sentence is sampled. -/
theorem loadGrammar_builtIn (start : Option Char) (contents : Except FileFault Bytes)
    (file : FileName) :
    ((∀ x ∈ start, x ∈ demonstration.rules.symbols) →
      loadGrammar none start contents = Grammar.parse demonstration.print start file ∧
      loadGrammar none start contents =
        .ok { demonstration with start := start.getD demonstration.start }) ∧
    ∀ x ∈ start, x ∉ demonstration.rules.symbols →
      Grammar.parse demonstration.print start file = .error [⟨.wholeFile file, .undefinedStart x⟩] ∧
      ∃ g, loadGrammar none start contents = .ok g ∧ g = { demonstration with start := x } ∧
        (∀ limits target, (g.derive limits target).accepted = true ↔
          0 < limits.maxSteps ∧ isNonterminal x = false ∧ target = [x]) ∧
        ∀ maxDepth src, (g.sample maxDepth src).1 =
          .error (if maxDepth = 0 then .tooDeep 0 else .undefinedNonterminal x) := by
  rw [Grammar.parse_demonstration_print]
  cases start with
  | none =>
    refine ⟨fun _ => ⟨rfl, rfl⟩, fun x hx => ?_⟩
    cases hx
  | some start =>
    refine ⟨fun h => ?_, fun x hx hrules => ?_⟩
    · have hstart := h start rfl
      exact ⟨(if_pos hstart).symm, rfl⟩
    · obtain rfl := Option.some.inj hx
      have hnone : demonstration.alternatives start = [] := by
        rw [Grammar.alternatives, RuleTable.alternatives, RuleTable.lookup_of_not_mem_symbols hrules]
        rfl
      refine ⟨if_neg hrules, _, rfl, rfl, ?_, ?_⟩
      · exact Grammar.accepted_iff_of_noRules (g := { demonstration with start }) hnone
      · intro maxDepth src
        exact congrArg Prod.fst
          (Grammar.sample_of_noRules (g := { demonstration with start }) hnone maxDepth src)

theorem not_loadGrammar_eq_parse :
    ¬ ∀ (start : Option Char) (contents : Except FileFault Bytes) (file : FileName),
      loadGrammar none start contents = Grammar.parse demonstration.print start file := by
  intro h
  have ha := h (some 'a') (.ok []) []
  have hreport : Grammar.parse demonstration.print (some 'a') [] =
      .error [⟨.wholeFile [], .undefinedStart 'a'⟩] := by decide +kernel
  rw [hreport] at ha
  cases ha

end Cli

end Sentential
