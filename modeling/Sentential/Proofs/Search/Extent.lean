import Mathlib.Algebra.Ring.Nat
import Sentential.Proofs.Search.Answer

namespace Sentential

namespace Search

/-- The number of forms that at most `room` leftmost substitutions lead to, counted with every way
that leads there. -/
def extent (g : Grammar) : (room : Nat) → Form → Nat
  | 0, _ => 1
  | room + 1, f =>
    match f.leftmost? with
    | none => 1
    | some focus =>
      1 + ((g.alternatives focus.symbol).map fun a => extent g room (focus.fill a)).sum

def Task.extent (g : Grammar) (room : Nat) : Task → Nat
  | visit form => Search.extent g room form
  | tryAll focus alternatives => (alternatives.map fun a => Search.extent g room (focus.fill a)).sum

variable {g : Grammar} {limits : Limits} {target form : Form} {room depth : Nat} {task : Task}
  {focus : Form.Focus} {p r : Progress}

theorem extent_pos (g : Grammar) (room : Nat) (form : Form) : 0 < extent g room form := by
  cases room with
  | zero => exact Nat.one_pos
  | succ room =>
    rw [extent]
    split <;> omega

theorem extent_of_finished (hf : form.Finished) : extent g room form = 1 := by
  cases room with
  | zero => rfl
  | succ room => rw [extent, Form.leftmost?_eq_none_iff.mpr hf]

theorem extent_of_leftmost (hf : form.leftmost? = some focus) :
    (Task.visit form).extent g (room + 1) =
      1 + (Task.tryAll focus (g.alternatives focus.symbol)).extent g room := by
  rw [Task.extent, extent, hf]
  rfl

theorem extent_tryAll_cons {a : Form} {rest : List Form} :
    (Task.tryAll focus (a :: rest)).extent g room =
      (Task.visit (focus.fill a)).extent g room + (Task.tryAll focus rest).extent g room := rfl

theorem Runs.visited_le (h : Runs g limits target room depth task p r) :
    r.visited ≤ p.visited + task.extent g room := by
  induction h with
  | spent hv => exact Nat.le_add_right _ _
  | found hv ht => exact Nat.add_le_add_left (extent_pos g _ _) _
  | missed hv hf hne => exact Nat.add_le_add_left (extent_pos g _ _) _
  | tooDeep hv hf => exact Nat.add_le_add_left (extent_pos g _ _) _
  | tooLong hv hf hl => exact Nat.add_le_add_left (extent_pos g _ _) _
  | noRules hv hf hl ha => exact Nat.add_le_add_left (extent_pos g _ _) _
  | expand hv hf hl ha hr ih =>
    rw [extent_of_leftmost hf]
    simp only [Progress.reach_visited] at ih
    omega
  | failed => exact Nat.le_add_right _ _
  | succeeded hq hacc ih =>
    rw [extent_tryAll_cons]
    simp only [Progress.note_visited] at ih ⊢
    omega
  | stopped hq hacc hex ih =>
    rw [extent_tryAll_cons]
    simp only [Progress.note_visited] at ih
    omega
  | next hq hacc hex hr ihq ihr =>
    rw [extent_tryAll_cons]
    simp only [Progress.note_visited] at ihq
    omega

/-- A budget that is large enough for all forms is never spent. -/
theorem Runs.exhausted_eq_false (h : Runs g limits target room depth task p r)
    (hp : p.exhausted = false) (hb : p.visited + task.extent g room ≤ limits.maxSteps) :
    r.exhausted = false := by
  induction h with
  | @spent room depth form p hv =>
    have hpos : 0 < (Task.visit form).extent g room := extent_pos g room form
    omega
  | found hv ht => exact hp
  | missed hv hf hne => exact hp
  | tooDeep hv hf => exact hp
  | tooLong hv hf hl => exact hp
  | noRules hv hf hl ha => exact hp
  | expand hv hf hl ha hr ih =>
    rw [extent_of_leftmost hf] at hb
    refine ih hp ?_
    simp only [Progress.reach_visited]
    omega
  | failed => exact hp
  | succeeded hq hacc ih =>
    rw [extent_tryAll_cons] at hb
    refine ih hp ?_
    simp only [Progress.note_visited]
    omega
  | stopped hq hacc hex ih =>
    rw [extent_tryAll_cons] at hb
    refine ih hp ?_
    simp only [Progress.note_visited]
    omega
  | next hq hacc hex hr ihq ihr =>
    -- what the first alternative has used up is within its own share
    have hle := hq.visited_le
    rw [extent_tryAll_cons] at hb
    simp only [Progress.note_visited] at hle
    exact ihr hex (by omega)

/-- A derivation is found under the depth limit one below its number of moves, if the budget lasts for
all forms. -/
theorem accepted_of_derivesWithin {start : Char} {n k : Nat} (ht : target.Finished)
    (hd : g.DerivesWithin (n + 1) k [start] target) :
    (run g ⟨n, k, extent g (n + 1) [start]⟩ start target).accepted = true := by
  let limits : Limits := ⟨n, k, extent g (n + 1) [start]⟩
  have hex : (run g limits start target).exhausted = false := by
    apply (runs_run g limits start target).exhausted_eq_false rfl
    exact Nat.le_of_eq (Nat.zero_add _)
  exact (accepted_run_iff g limits start target).mpr ⟨hex, ht, hd⟩

/-- With wide enough limits, the search finds whatever can be derived. -/
theorem exists_accepted_of_derives {start : Char} (ht : target.Finished)
    (hd : g.Derives [start] target) : ∃ limits, (run g limits start target).accepted = true := by
  obtain ⟨moves, hm⟩ := (Grammar.exists_leftmost_iff_derives ht).mpr hd
  obtain ⟨k, hk⟩ := hm.exists_derivesWithin
  exact ⟨_, accepted_of_derivesWithin ht (hk.mono (Nat.le_succ _))⟩

end Search

end Sentential
