import Sentential.Grammar.Derivation

namespace Sentential.Grammar

variable {g : Grammar}

theorem Move.form_of_leftmost {f : Form} {m : Move} (h : f.leftmost? = some m.focus) :
    m.form = f := (Form.leftmost?_eq_some_iff.mp h).1.symm

theorem Leftmost.derives {moves : List Move} {f t : Form} (h : g.Leftmost moves f t) :
    g.Derives f t := by
  induction h with
  | done f => exact .refl f
  | move hf ha _ ih =>
    obtain ⟨rfl, hx, -⟩ := Form.leftmost?_eq_some_iff.mp hf
    exact .step (.replace _ _ hx (List.mem_of_getElem? ha)) ih

theorem Leftmost.eq_nil_of_finished {moves : List Move} {f t : Form} (h : g.Leftmost moves f t)
    (hf : f.Finished) : moves = [] := by
  cases h with
  | done => rfl
  | move hm _ _ =>
    rw [Form.leftmost?_eq_none_iff.mpr hf] at hm
    cases hm

theorem Leftmost.eq_of_finished {moves : List Move} {f t : Form} (h : g.Leftmost moves f t)
    (hf : f.Finished) : f = t := by
  obtain rfl := h.eq_nil_of_finished hf
  cases h
  rfl

/-- At most `n` moves lead from `f` to `t`, each from a form of at most `k` symbols. -/
structure LeftmostWithin (g : Grammar) (n k : Nat) (moves : List Move) (f t : Form) : Prop where
  leftmost : g.Leftmost moves f t
  length_le : moves.length ≤ n
  form_length_le : ∀ m ∈ moves, m.form.length ≤ k

theorem leftmostWithin_nil (g : Grammar) (n k : Nat) (f : Form) : g.LeftmostWithin n k [] f f :=
  ⟨.done f, Nat.zero_le n, by simp⟩

theorem leftmostWithin_iff_of_leftmost {n k : Nat} {moves : List Move} {f t : Form}
    {focus : Form.Focus} (hf : f.leftmost? = some focus) (ht : t.Finished) :
    g.LeftmostWithin n k moves f t ↔ ∃ n' i a rest, n = n' + 1 ∧ f.length ≤ k ∧
      moves = ⟨focus, i, a⟩ :: rest ∧ (g.alternatives focus.symbol)[i]? = some a ∧
      g.LeftmostWithin n' k rest (focus.fill a) t := by
  constructor
  · intro h
    obtain ⟨hm, hn, hk⟩ := h
    cases hm with
    | done =>
      rw [Form.leftmost?_eq_none_iff.mpr ht] at hf
      cases hf
    | @move m rest _ _ hm ha hrest =>
      obtain ⟨focus', i, a⟩ := m
      obtain rfl : focus' = focus := Option.some.inj (hm.symm.trans hf)
      obtain ⟨hfirst, hk⟩ := List.forall_mem_cons.mp hk
      rw [Move.form_of_leftmost hm] at hfirst
      rw [List.length_cons] at hn
      -- the first move is one of the `n`
      have hpos : n = (n - 1) + 1 := by omega
      have hlen : rest.length ≤ n - 1 := by omega
      exact ⟨n - 1, i, a, rest, hpos, hfirst, rfl, ha, hrest, hlen, hk⟩
  · intro h
    obtain ⟨n', i, a, rest, rfl, hlen, rfl, hi, hm, hn, hk⟩ := h
    have hform : Move.form ⟨focus, i, a⟩ = f := Move.form_of_leftmost hf
    refine ⟨.move hf hi hm, Nat.succ_le_succ hn, ?_⟩
    exact List.forall_mem_cons.mpr ⟨hform ▸ hlen, hk⟩

/-- A leftmost derivation of `t` from `f` has at most `n` moves, each from a form of at most `k`
symbols. -/
def DerivesWithin (g : Grammar) (n k : Nat) (f t : Form) : Prop :=
  ∃ moves, g.Leftmost moves f t ∧ moves.length ≤ n ∧ ∀ m ∈ moves, m.form.length ≤ k

theorem derivesWithin_iff {n k : Nat} {f t : Form} :
    g.DerivesWithin n k f t ↔ ∃ moves, g.LeftmostWithin n k moves f t :=
  exists_congr fun _ => ⟨fun ⟨h, hn, hk⟩ => ⟨h, hn, hk⟩, fun ⟨h, hn, hk⟩ => ⟨h, hn, hk⟩⟩

theorem derivesWithin_refl (g : Grammar) (n k : Nat) (f : Form) : g.DerivesWithin n k f f :=
  ⟨[], .done f, Nat.zero_le n, by simp⟩

theorem DerivesWithin.derives {n k : Nat} {f t : Form} (h : g.DerivesWithin n k f t) :
    g.Derives f t := by
  obtain ⟨moves, hm, -, -⟩ := h
  exact hm.derives

theorem DerivesWithin.mono {n n' k : Nat} {f t : Form} (h : g.DerivesWithin n k f t) (hn : n ≤ n') :
    g.DerivesWithin n' k f t := by
  obtain ⟨moves, hm, hlen, hk⟩ := h
  exact ⟨moves, hm, Nat.le_trans hlen hn, hk⟩

theorem Leftmost.exists_derivesWithin {moves : List Move} {f t : Form}
    (h : g.Leftmost moves f t) : ∃ k, g.DerivesWithin moves.length k f t :=
  ⟨(moves.map fun m => m.form.length).max?.getD 0, moves, h, Nat.le_refl _,
    fun _ hm => List.le_max?_getD_of_mem (List.mem_map_of_mem hm)⟩

theorem derivesWithin_iff_of_finished {n k : Nat} {f t : Form} (hf : f.Finished) :
    g.DerivesWithin n k f t ↔ f = t := by
  constructor
  · intro h
    obtain ⟨moves, hm, -, -⟩ := h
    exact hm.eq_of_finished hf
  · intro h
    rw [← h]
    exact derivesWithin_refl g n k f

theorem derivesWithin_iff_of_leftmost {n k : Nat} {f t : Form} {focus : Form.Focus}
    (hf : f.leftmost? = some focus) (ht : t.Finished) :
    g.DerivesWithin n k f t ↔ ∃ n', n = n' + 1 ∧ f.length ≤ k ∧
      ∃ a ∈ g.alternatives focus.symbol, g.DerivesWithin n' k (focus.fill a) t := by
  simp only [derivesWithin_iff, leftmostWithin_iff_of_leftmost hf ht]
  constructor
  · intro h
    obtain ⟨_, n', i, a, rest, hn, hlen, -, hi, hm⟩ := h
    exact ⟨n', hn, hlen, a, List.mem_of_getElem? hi, rest, hm⟩
  · intro h
    obtain ⟨n', hn, hlen, a, ha, rest, hm⟩ := h
    obtain ⟨i, hi⟩ := List.mem_iff_getElem?.mp ha
    exact ⟨⟨focus, i, a⟩ :: rest, n', i, a, rest, hn, hlen, rfl, hi, hm⟩

end Sentential.Grammar
