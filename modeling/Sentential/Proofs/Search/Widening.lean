import Sentential.Proofs.Search.Verdict

namespace Sentential

namespace Search

/-- What doing a task makes of the state. -/
def Task.result (g : Grammar) (limits : Limits) (target : Form) (room depth : Nat) :
    Task → Progress → Progress
  | visit form, p => explore g limits target room depth form p
  | tryAll focus alternatives, p =>
    tryEach (explore g limits target room (depth + 1)) depth focus alternatives p

variable {g : Grammar} {limits limits' : Limits} {target form : Form} {room room' depth : Nat}
  {task : Task} {focus : Form.Focus} {p q r : Progress}

theorem explore_of_finished (hv : p.visited < limits.maxSteps) (hf : form.Finished) :
    explore g limits target room depth form p =
      if form = target then (p.reach depth form).accept else p.reach depth form := by
  rw [explore.eq_def, if_neg (Nat.not_le_of_lt hv)]
  simp only [Form.leftmost?_eq_none_iff.mpr hf]

theorem explore_of_spent (hv : limits.maxSteps ≤ p.visited) :
    explore g limits target room depth form p = p.giveUp depth limits.maxSteps := by
  rw [explore.eq_def, if_pos hv]

theorem explore_of_deep (hv : p.visited < limits.maxSteps) (hf : form.leftmost? = some focus) :
    explore g limits target 0 depth form p =
      (p.reach depth form).cut depth (.tooDeep limits.maxDepth) := by
  rw [explore, if_neg (Nat.not_le_of_lt hv)]
  simp only [hf]

theorem explore_of_long (hv : p.visited < limits.maxSteps) (hf : form.leftmost? = some focus)
    (hl : limits.maxLength < form.length) :
    explore g limits target (room + 1) depth form p =
      (p.reach depth form).cut depth (.tooLong limits.maxLength) := by
  rw [explore, if_neg (Nat.not_le_of_lt hv)]
  simp only [hf, if_pos hl]

theorem explore_of_leftmost (hv : p.visited < limits.maxSteps) (hf : form.leftmost? = some focus)
    (hl : form.length ≤ limits.maxLength) :
    explore g limits target (room + 1) depth form p =
      if g.alternatives focus.symbol = [] then
        (p.reach depth form).note depth (.noRules focus.symbol)
      else (Task.tryAll focus (g.alternatives focus.symbol)).result g limits target room depth
        (p.reach depth form) := by
  rw [explore, if_neg (Nat.not_le_of_lt hv)]
  simp only [hf, if_neg (Nat.not_lt_of_le hl)]
  split
  · next ha => rw [if_pos ha]
  · next ha => rw [if_neg ha, Task.result]

section

variable {a : Form} {rest : List Form}
  (hq : (Task.visit (focus.fill a)).result g limits target room (depth + 1)
    (p.note depth (.trying focus.symbol a)) = q)

include hq

theorem result_of_accepted (hacc : q.accepted = true) :
    (Task.tryAll focus (a :: rest)).result g limits target room depth p =
      q.note depth (.replaced focus.symbol a (focus.fill a)) := by
  rw [Task.result] at hq
  rw [Task.result, tryEach, hq, if_pos hacc]

theorem result_of_exhausted (hacc : q.accepted = false) (hex : q.exhausted = true) :
    (Task.tryAll focus (a :: rest)).result g limits target room depth p = q := by
  rw [Task.result] at hq
  rw [Task.result, tryEach, hq, if_neg (ne_true_of_eq_false hacc), if_pos hex]

theorem result_of_rejected (hacc : q.accepted = false) (hex : q.exhausted = false) :
    (Task.tryAll focus (a :: rest)).result g limits target room depth p =
      (Task.tryAll focus rest).result g limits target room depth q := by
  rw [Task.result] at hq
  rw [Task.result, tryEach, hq, if_neg (ne_true_of_eq_false hacc),
    if_neg (ne_true_of_eq_false hex), Task.result]

end

/-- A course on which nothing was pruned is followed under wider limits too. -/
theorem Runs.result_of_le (h : Runs g limits target room depth task p r) (hp : p.Idle)
    (hu : r.pruned = false) (hroom : room ≤ room') (hlength : limits.maxLength ≤ limits'.maxLength)
    (hsteps : limits.maxSteps ≤ limits'.maxSteps) :
    task.result g limits' target room' depth p = r := by
  induction h generalizing room' with
  | spent hv => cases hu
  | found hv ht =>
    rw [Task.result, explore_of_finished (Nat.lt_of_lt_of_le hv hsteps) ht, if_pos rfl]
  | missed hv hf hne =>
    rw [Task.result, explore_of_finished (Nat.lt_of_lt_of_le hv hsteps) hf, if_neg hne]
  | tooDeep hv hf => cases hu
  | tooLong hv hf hl => cases hu
  | noRules hv hf hl ha =>
    obtain ⟨room', rfl⟩ := Nat.exists_eq_add_of_le' (Nat.one_le_of_lt hroom)
    rw [Task.result, explore_of_leftmost (Nat.lt_of_lt_of_le hv hsteps) hf (Nat.le_trans hl hlength),
      if_pos ha]
  | expand hv hf hl ha _ ih =>
    obtain ⟨room', rfl⟩ := Nat.exists_eq_add_of_le' (Nat.one_le_of_lt hroom)
    rw [Task.result, explore_of_leftmost (Nat.lt_of_lt_of_le hv hsteps) hf (Nat.le_trans hl hlength),
      if_neg ha]
    exact ih (hp.reach _ _) hu (Nat.le_of_succ_le_succ hroom)
  | failed => rfl
  | succeeded _ hacc ih => exact result_of_accepted (ih (hp.note _ _) hu hroom) hacc
  | stopped hq hacc hex _ =>
    -- a spent budget counts as pruning
    have hc := hq.coherent (hp.note _ _)
    simp [hc.pruned_of_exhausted hex] at hu
  | next _ hacc hex hr ihq ihr =>
    rw [result_of_rejected (ihq (hp.note _ _) (hr.unpruned hu) hroom) hacc hex]
    exact ihr ⟨hacc, hex⟩ hu hroom

theorem run_of_le {start : Char} (hu : (run g limits start target).pruned = false)
    (hdepth : limits.maxDepth ≤ limits'.maxDepth) (hlength : limits.maxLength ≤ limits'.maxLength)
    (hsteps : limits.maxSteps ≤ limits'.maxSteps) :
    run g limits' start target = run g limits start target :=
  (runs_run g limits start target).result_of_le Progress.idle_initial hu (Nat.succ_le_succ hdepth)
    hlength hsteps

end Search

namespace Grammar

/-- If nothing was pruned, the answer is the same under all wider limits, the trace included. -/
theorem deriveFrom_of_wider_limits {g : Grammar} {limits limits' : Limits} {start : Char}
    {target : Form} (hdepth : limits.maxDepth ≤ limits'.maxDepth)
    (hlength : limits.maxLength ≤ limits'.maxLength) (hsteps : limits.maxSteps ≤ limits'.maxSteps)
    (hu : (g.deriveFrom limits start target).pruned = false) :
    g.deriveFrom limits' start target = g.deriveFrom limits start target := by
  have hrun : Search.run g limits' start target = Search.run g limits start target :=
    Search.run_of_le hu hdepth hlength hsteps
  rw [deriveFrom, deriveFrom, hrun]

/-- One alternative fails before the target is found, and every limit is met exactly. -/
theorem deriveFrom_of_limits_met_exactly :
    let g := empty 'S' |>.extend 'S' [['a', 'A']] |>.extend 'A' [['b'], ['c']]
    (g.deriveFrom ⟨1, 2, 4⟩ 'S' ['a', 'c']).accepted = true ∧
    (g.deriveFrom ⟨1, 2, 4⟩ 'S' ['a', 'c']).pruned = false ∧
    g.deriveFrom .standard 'S' ['a', 'c'] = g.deriveFrom ⟨1, 2, 4⟩ 'S' ['a', 'c'] := by
  intro g
  have hacc : (g.deriveFrom ⟨1, 2, 4⟩ 'S' ['a', 'c']).accepted = true := by decide +kernel
  have hu : (g.deriveFrom ⟨1, 2, 4⟩ 'S' ['a', 'c']).pruned = false := by decide +kernel
  exact ⟨hacc, hu, deriveFrom_of_wider_limits (by decide) (by decide) (by decide) hu⟩

end Grammar

end Sentential
