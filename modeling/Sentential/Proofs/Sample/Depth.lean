import Mathlib.Data.List.Basic
import Sentential.Proofs.Sample.Course

namespace Sentential

namespace Sampler

variable {g : Grammar} {limit limit' room room' : Nat} {task : Task} {src src' : RandomSource}
  {result : Except SampleError Forest}

/-- A course that does not run out of room is taken with more room too. -/
theorem Runs.of_le (h : Runs g limit room task src result src')
    (hr : ∀ d, result ≠ .error (.tooDeep d)) (hroom : room ≤ room') :
    Runs g limit' room' task src result src' := by
  -- a course looks at its room only to see whether there is any
  induction h generalizing room' with
  | tooDeep => exact absurd rfl (hr limit)
  | undefined ha =>
    obtain ⟨room', rfl⟩ := Nat.exists_eq_add_of_le' (Nat.one_le_of_lt hroom)
    exact .undefined ha
  | expand ha hc _ ih =>
    obtain ⟨room', rfl⟩ := Nat.exists_eq_add_of_le' (Nat.one_le_of_lt hroom)
    exact .expand ha hc (ih hr (Nat.le_of_succ_le_succ hroom))
  | nil => exact .nil
  | terminal hc _ ih => exact .terminal hc (ih (fun d he => hr d (map_eq_error_iff.mpr he)) hroom)
  | failed hx _ ih => exact .failed hx (ih hr hroom)
  | node hx _ _ ihc ih =>
    have hchildren := ihc (fun d he => by cases he) hroom
    exact .node hx hchildren (ih (fun d he => hr d (map_eq_error_iff.mpr he)) hroom)

theorem Runs.eq_limit (h : Runs g limit room task src result src') {d : Nat}
    (hr : result = .error (.tooDeep d)) : d = limit := by
  induction h with
  | tooDeep =>
    cases hr
    rfl
  | undefined ha => cases hr
  | expand ha hc _ ih => exact ih hr
  | nil => cases hr
  | terminal hc _ ih => exact ih (map_eq_error_iff.mp hr)
  | failed hx _ ih => exact ih hr
  | node hx _ _ _ ih => exact ih (map_eq_error_iff.mp hr)

end Sampler

namespace Grammar

/-- Unless it reports that the limit is too low, a sampling ends in the same way under every greater
limit, with the same words taken; and the limit that it reports is its own. -/
theorem sample_of_greater_depth (g : Grammar) (src : RandomSource) {m m' : Nat} (hm : m ≤ m') :
    ((∀ d, (g.sample m src).1 ≠ .error (.tooDeep d)) → g.sample m' src = g.sample m src) ∧
    ∀ d, (g.sample m src).1 = .error (.tooDeep d) → d = m := by
  obtain ⟨result, hr, hs⟩ := g.exists_runs_sample m src
  rw [hs]
  constructor
  · intro hne
    have hne' (d : Nat) : result ≠ .error (.tooDeep d) :=
      fun he => hne d (Sampler.map_eq_error_iff.mpr he)
    rw [sample_of_runs (hr.of_le hne' hm)]
    exact Prod.ext hs.symm rfl
  · exact fun d hd => hr.eq_limit (Sampler.map_eq_error_iff.mp hd)

/-- The innermost of the expansions that are allowed is that of a symbol without rules. -/
theorem sample_of_undefined_at_limit :
    let g := empty 'S' |>.extend 'S' [['a'], ['A', 'S']] |>.extend 'A' [['X', 'b'], ['b']]
    let src := RandomSource.ofWords [2147483648, 0, 0]
    (3 : Nat) ≤ 9 ∧ (g.sample 3 src).1 = .error (.undefinedNonterminal 'X') ∧
      g.sample 9 src = g.sample 3 src ∧ ∀ d, (g.sample 3 src).1 = .error (.tooDeep d) → d = 3 := by
  intro g src
  have hm : (3 : Nat) ≤ 9 := by decide
  have hx : (g.sample 3 src).1 = .error (.undefinedNonterminal 'X') := by decide +kernel
  obtain ⟨hsame, hlimit⟩ := sample_of_greater_depth g src hm
  refine ⟨hm, hx, hsame ?_, hlimit⟩
  intro d hd
  cases hx.symm.trans hd

end Grammar

end Sentential
