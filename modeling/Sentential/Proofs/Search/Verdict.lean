import Sentential.Proofs.Forest
import Sentential.Proofs.Search.Course

namespace Sentential.Search

/-- The search goes on: it has neither found the target nor spent its budget. -/
structure Progress.Idle (p : Progress) : Prop where
  accepted : p.accepted = false
  exhausted : p.exhausted = false

theorem Progress.idle_initial : Progress.initial.Idle := ⟨rfl, rfl⟩

theorem Progress.Idle.note {p : Progress} (hp : p.Idle) (depth : Nat) (action : Action) :
    (p.note depth action).Idle := ⟨hp.accepted, hp.exhausted⟩

theorem Progress.Idle.reach {p : Progress} (hp : p.Idle) (depth : Nat) (form : Form) :
    (p.reach depth form).Idle := ⟨hp.accepted, hp.exhausted⟩

/-- The three answers fit together: only a search that stays within its budget accepts, and a spent
budget counts as pruning. -/
structure Progress.Coherent (p : Progress) : Prop where
  exhausted_of_accepted : p.accepted = true → p.exhausted = false
  pruned_of_exhausted : p.exhausted = true → p.pruned = true

theorem Progress.Idle.coherent {p : Progress} (hp : p.Idle) : p.Coherent :=
  ⟨fun _ => hp.exhausted, fun h => absurd h (by simp [hp.exhausted])⟩

theorem Progress.Coherent.rejected_of_exhausted {p : Progress} (hp : p.Coherent)
    (hx : p.exhausted = true) : p.accepted = false := by
  apply eq_false_of_ne_true
  intro hacc
  simp [hp.exhausted_of_accepted hacc] at hx

/-- A task can be done by at most `n` moves, counted from its forms, from forms of at most `k`
symbols. -/
def Task.Solvable (g : Grammar) (n k : Nat) (target : Form) : Task → Prop
  | visit form => g.DerivesWithin n k form target
  | tryAll focus alternatives => ∃ a ∈ alternatives, g.DerivesWithin n k (focus.fill a) target

variable {g : Grammar} {limits : Limits} {target form : Form} {room depth n k : Nat} {task : Task}
  {focus : Form.Focus} {p r : Progress}

theorem Task.not_solvable_of_finished (hf : form.Finished) (hne : form ≠ target) :
    ¬ (visit form).Solvable g n k target := by
  intro hd
  exact hne ((Grammar.derivesWithin_iff_of_finished hf).mp hd)

/-- One move leads from a form to one of the alternatives, and the others have to do the rest. -/
theorem Task.solvable_visit_iff (hf : form.leftmost? = some focus) (ht : target.Finished) :
    (visit form).Solvable g n k target ↔ ∃ n', n = n' + 1 ∧ form.length ≤ k ∧
      (tryAll focus (g.alternatives focus.symbol)).Solvable g n' k target :=
  Grammar.derivesWithin_iff_of_leftmost hf ht

theorem Task.not_solvable_nil : ¬ (tryAll focus []).Solvable g n k target := by
  intro h
  obtain ⟨a, ha, -⟩ := h
  exact absurd ha List.not_mem_nil

theorem Task.solvable_cons_iff {a : Form} {rest : List Form} :
    (tryAll focus (a :: rest)).Solvable g n k target ↔
      (visit (focus.fill a)).Solvable g n k target ∨ (tryAll focus rest).Solvable g n k target := by
  simp [Solvable]

theorem Task.not_solvable_of_noRules (hf : form.leftmost? = some focus) (ht : target.Finished)
    (ha : g.alternatives focus.symbol = []) : ¬ (visit form).Solvable g n k target := by
  intro hd
  obtain ⟨n', -, -, hall⟩ := (solvable_visit_iff hf ht).mp hd
  rw [ha] at hall
  exact not_solvable_nil hall

theorem Runs.coherent (h : Runs g limits target room depth task p r) (hp : p.Idle) :
    r.Coherent := by
  induction h with
  | spent hv => exact ⟨fun h => absurd h (by simp [hp.accepted]), fun _ => rfl⟩
  | found hv ht => exact ⟨fun _ => hp.exhausted, fun h => absurd h (by simp [hp.exhausted])⟩
  | missed hv hf hne => exact (hp.reach _ _).coherent
  | tooDeep hv hf => exact ⟨fun _ => hp.exhausted, fun _ => rfl⟩
  | tooLong hv hf hl => exact ⟨fun _ => hp.exhausted, fun _ => rfl⟩
  | noRules hv hf hl ha => exact ((hp.reach _ _).note _ _).coherent
  | expand hv hf hl ha hr ih => exact ih (hp.reach _ _)
  | failed => exact hp.coherent
  | succeeded hq hacc ih =>
    have hc := ih (hp.note _ _)
    exact ⟨hc.exhausted_of_accepted, hc.pruned_of_exhausted⟩
  | stopped hq hacc hex ih => exact ih (hp.note _ _)
  | next hq hacc hex hr ihq ihr => exact ihr ⟨hacc, hex⟩

theorem Runs.unpruned (h : Runs g limits target room depth task p r) (hr : r.pruned = false) :
    p.pruned = false := by
  induction h with
  | spent hv => cases hr
  | found hv ht => exact hr
  | missed hv hf hne => exact hr
  | tooDeep hv hf => cases hr
  | tooLong hv hf hl => cases hr
  | noRules hv hf hl ha => exact hr
  | expand hv hf hl ha hq ih => exact ih hr
  | failed => exact hr
  | succeeded hq hacc ih => exact ih hr
  | stopped hq hacc hex ih => exact ih hr
  | next hq hacc hex hr' ihq ihr => exact ihq (ihr hr)

theorem Runs.solvable (h : Runs g limits target room depth task p r) (hp : p.Idle)
    (hr : r.accepted = true) : target.Finished ∧ task.Solvable g room limits.maxLength target := by
  induction h with
  | spent hv => simp [hp.accepted] at hr
  | @found room depth p hv ht => exact ⟨ht, Grammar.derivesWithin_refl g room _ target⟩
  | missed hv hf hne => simp [hp.accepted] at hr
  | tooDeep hv hf => simp [hp.accepted] at hr
  | tooLong hv hf hl => simp [hp.accepted] at hr
  | noRules hv hf hl ha => simp [hp.accepted] at hr
  | expand hv hf hl ha hq ih =>
    obtain ⟨ht, hall⟩ := ih (hp.reach _ _) hr
    exact ⟨ht, (Task.solvable_visit_iff hf ht).mpr ⟨_, rfl, hl, hall⟩⟩
  | failed => simp [hp.accepted] at hr
  | succeeded hq hacc ih =>
    obtain ⟨ht, hd⟩ := ih (hp.note _ _) hacc
    exact ⟨ht, Task.solvable_cons_iff.mpr (.inl hd)⟩
  | stopped hq hacc hex ih => simp [hacc] at hr
  | next hq hacc hex hr' ihq ihr =>
    obtain ⟨ht, hall⟩ := ihr ⟨hacc, hex⟩ hr
    exact ⟨ht, Task.solvable_cons_iff.mpr (.inr hall)⟩

/-- A search that fails within its budget has tried everything within its limits. -/
theorem Runs.unsolvable (h : Runs g limits target room depth task p r) (hp : p.Idle)
    (ht : target.Finished) (hr : r.accepted = false) (hx : r.exhausted = false) :
    ¬ task.Solvable g room limits.maxLength target := by
  induction h with
  | spent hv => cases hx
  | found hv _ => cases hr
  | missed hv hf hne => exact Task.not_solvable_of_finished hf hne
  | tooDeep hv hf =>
    -- no move is left, and the form is not finished
    intro hd
    obtain ⟨n, hn, -⟩ := (Task.solvable_visit_iff hf ht).mp hd
    cases hn
  | tooLong hv hf hl =>
    intro hd
    obtain ⟨n, -, hk, -⟩ := (Task.solvable_visit_iff hf ht).mp hd
    omega
  | noRules hv hf hl ha => exact Task.not_solvable_of_noRules hf ht ha
  | expand hv hf hl ha hq ih =>
    intro hd
    obtain ⟨n, hn, -, hall⟩ := (Task.solvable_visit_iff hf ht).mp hd
    obtain rfl := Nat.succ.inj hn
    exact ih (hp.reach _ _) hr hx hall
  | failed => exact Task.not_solvable_nil
  | succeeded hq hacc ih => simp [hacc] at hr
  | stopped hq hacc hex ih => simp [hex] at hx
  | next hq hacc hex hr' ihq ihr =>
    intro hall
    obtain hd | hall := Task.solvable_cons_iff.mp hall
    · exact ihq (hp.note _ _) hacc hex hd
    · exact ihr ⟨hacc, hex⟩ hr hx hall

/-- A search that fails without pruning anything has tried everything there is. -/
theorem Runs.hopeless (h : Runs g limits target room depth task p r) (hp : p.Idle)
    (ht : target.Finished) (hr : r.accepted = false) (hu : r.pruned = false) (n k : Nat) :
    ¬ task.Solvable g n k target := by
  induction h generalizing n with
  | spent hv => cases hu
  | found hv _ => cases hr
  | missed hv hf hne => exact Task.not_solvable_of_finished hf hne
  | tooDeep hv hf => cases hu
  | tooLong hv hf hl => cases hu
  | noRules hv hf hl ha => exact Task.not_solvable_of_noRules hf ht ha
  | expand hv hf hl ha hq ih =>
    intro hd
    obtain ⟨n', -, -, hall⟩ := (Task.solvable_visit_iff hf ht).mp hd
    exact ih (hp.reach _ _) hr hu n' hall
  | failed => exact Task.not_solvable_nil
  | succeeded hq hacc ih => simp [hacc] at hr
  | stopped hq hacc hex ih =>
    -- a spent budget counts as pruning
    have hc := hq.coherent (hp.note _ _)
    simp [hc.pruned_of_exhausted hex] at hu
  | next hq hacc hex hr' ihq ihr =>
    intro hall
    obtain hd | hall := Task.solvable_cons_iff.mp hall
    · -- pruning is never forgotten, so nothing was pruned below this alternative either
      exact ihq (hp.note _ _) hacc (hr'.unpruned hu) n hd
    · exact ihr ⟨hacc, hex⟩ hr hu n hall

end Sentential.Search
