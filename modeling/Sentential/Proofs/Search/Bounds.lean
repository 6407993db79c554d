import Sentential.Proofs.Search.Certificate
import Sentential.Proofs.Search.Tree

namespace Sentential

namespace Search

open Grammar (Move)

def Action.IsReached : Action → Prop
  | reached _ => True
  | _ => False

instance : DecidablePred Action.IsReached
  | .reached _ => inferInstanceAs (Decidable True)
  | .trying .. | .replaced .. | .noRules _ | .tooDeep _ | .tooLong _ | .budgetSpent _ =>
    inferInstanceAs (Decidable False)

instance : DecidablePred Action.IsReplaced
  | .replaced .. => inferInstanceAs (Decidable True)
  | .reached _ | .trying .. | .noRules _ | .tooDeep _ | .tooLong _ | .budgetSpent _ =>
    inferInstanceAs (Decidable False)

def Progress.count (P : Action → Prop) [DecidablePred P] (p : Progress) : Nat :=
  p.events.toList.countP fun e => P e.action

variable {g : Grammar} {limits : Limits} {target form : Form} {room depth : Nat} {task : Task}
  {moves : List Move} {p r : Progress}

section

variable {P : Action → Prop} [DecidablePred P] {action : Action}

theorem Progress.count_of_push {e : Event} (h : r.events = p.events.push e) :
    r.count P = p.count P + if P e.action then 1 else 0 := by
  rw [count, h, Array.toList_push, List.countP_append, List.countP_singleton]
  simp only [decide_eq_true_eq]
  rfl

@[simp] theorem Progress.count_note :
    (p.note depth action).count P = p.count P + if P action then 1 else 0 :=
  count_of_push (p.note_events depth action)

@[simp] theorem Progress.count_reach :
    (p.reach depth form).count P = p.count P + if P (.reached form) then 1 else 0 :=
  count_of_push (p.reach_events depth form)

@[simp] theorem Progress.count_accept : p.accept.count P = p.count P := rfl

@[simp] theorem Progress.count_cut :
    (p.cut depth action).count P = p.count P + if P action then 1 else 0 :=
  count_of_push (p.cut_events depth action)

@[simp] theorem Progress.count_giveUp {maxSteps : Nat} :
    (p.giveUp depth maxSteps).count P = p.count P + if P (.budgetSpent maxSteps) then 1 else 0 :=
  count_of_push (p.giveUp_events depth maxSteps)

end

theorem Runs.visited_eq_count (h : Runs g limits target room depth task p r)
    (hp : p.visited = p.count Action.IsReached) : r.visited = r.count Action.IsReached := by
  induction h with
  | spent hv => simp [hp, Action.IsReached]
  | found hv ht => simp [hp, Action.IsReached]
  | missed hv hf hne => simp [hp, Action.IsReached]
  | tooDeep hv hf => simp [hp, Action.IsReached]
  | tooLong hv hf hl => simp [hp, Action.IsReached]
  | noRules hv hf hl ha => simp [hp, Action.IsReached]
  | expand hv hf hl ha hq ih => exact ih (by simp [hp, Action.IsReached])
  | failed => exact hp
  | succeeded hq hacc ih => simpa [Action.IsReached] using ih (by simp [hp, Action.IsReached])
  | stopped hq hacc hex ih => exact ih (by simp [hp, Action.IsReached])
  | next hq hacc hex hr ihq ihr => exact ihr (ihq (by simp [hp, Action.IsReached]))

/-- Each form has a share of three lines: the attempt that leads to it, the form, and what becomes of
it. Of a visit the first is told before it, and the last after it if it accepts. -/
def Task.unspent : Task → Progress → Nat
  | visit _, r => 1 + r.accepted.toNat
  | tryAll _ _, _ => 0

/-- Beyond these shares there are at most two lines, of an attempt for whose form the budget does not last
and of the spent budget. -/
theorem Runs.size_le (h : Runs g limits target room depth task p r) (hp : p.Idle) :
    r.events.size + task.unspent r + 3 * p.visited ≤
      p.events.size + 3 * r.visited + 2 * r.exhausted.toNat := by
  induction h with
  | spent hv => simp [Task.unspent, hp.accepted]; omega
  | found hv ht => simp [Task.unspent]; omega
  | missed hv hf hne => simp [Task.unspent, hp.accepted]; omega
  | tooDeep hv hf => simp [Task.unspent, hp.accepted]; omega
  | tooLong hv hf hl => simp [Task.unspent, hp.accepted]; omega
  | noRules hv hf hl ha => simp [Task.unspent, hp.accepted]; omega
  | @expand room depth form focus p r hv hf hl ha hq ih =>
    have hrest := ih (hp.reach _ _)
    have hone := Bool.toNat_le r.accepted
    simp only [Task.unspent, Progress.reach_visited, Progress.reach_events, Array.size_push] at hrest ⊢
    omega
  | failed => simp [Task.unspent]
  | succeeded hq hacc ih =>
    -- the attempt and the replacement are the lines that the visit has left of its share
    have hfirst := ih (hp.note _ _)
    simp only [Task.unspent, hacc, Bool.toNat_true, Progress.note_visited, Progress.note_events,
      Progress.note_exhausted, Array.size_push] at hfirst ⊢
    omega
  | stopped hq hacc hex ih =>
    have hfirst := ih (hp.note _ _)
    simp only [Task.unspent, Progress.note_visited, Progress.note_events, Array.size_push] at hfirst ⊢
    omega
  | next hq hacc hex hr ihq ihr =>
    have hfirst := ihq (hp.note _ _)
    have hrest := ihr ⟨hacc, hex⟩
    simp only [Task.unspent, hex, Bool.toNat_false, Progress.note_visited, Progress.note_events,
      Array.size_push] at hfirst hrest ⊢
    omega

theorem size_events_run_le (g : Grammar) (limits : Limits) (start : Char) (target : Form) :
    (run g limits start target).events.size ≤ 3 * (run g limits start target).visited + 1 := by
  have hsize := (runs_run g limits start target).size_le Progress.idle_initial
  have hone := Bool.toNat_le (run g limits start target).exhausted
  simp only [Progress.initial, Array.size_empty, Task.unspent] at hsize
  omega

theorem count_replaced_closing (target : Form) (depth : Nat) (moves : List Move) :
    (closing target depth moves).countP (fun e => e.action.IsReplaced) = moves.length := by
  induction moves generalizing depth with
  | nil => rfl
  | cons m rest ih =>
    rw [closing, List.countP_append, ih, List.length_cons]
    rfl

theorem Progress.Closes.count_replaced (h : p.Closes target depth moves) :
    p.count Action.IsReplaced = moves.length := by
  obtain ⟨above, he, htold⟩ := h
  have habove : above.countP (fun e => e.action.IsReplaced) = 0 := by
    rw [List.countP_eq_zero]
    simpa using htold
  rw [count, he, List.countP_append, habove, count_replaced_closing, Nat.zero_add]

/-- One replacement is told for each move of the derivation that has been found. -/
theorem exists_leftmostWithin_of_accepted {start : Char}
    (hacc : (run g limits start target).accepted = true) :
    ∃ moves, g.LeftmostWithin (limits.maxDepth + 1) limits.maxLength moves [start] target ∧
      (run g limits start target).count Action.IsReplaced = moves.length := by
  obtain ⟨moves, hfirst, hcloses⟩ :=
    (runs_run g limits start target).exists_firstBy_closes Progress.idle_initial hacc
      Progress.Tells.initial
  exact ⟨moves, hfirst.solved, hcloses.count_replaced⟩

end Search

namespace Grammar

open Search (Action)

/-- The forms that a search visits are within its budget, and so are the lines that it tells, three for
each form and one more. -/
theorem trace_size_le (g : Grammar) (limits : Limits) (start : Char) (target : Form) :
    (Search.run g limits start target).visited =
      (Search.run g limits start target).count Action.IsReached ∧
    (Search.run g limits start target).count Action.IsReached ≤ limits.maxSteps ∧
    (g.deriveFrom limits start target).trace.size ≤ 3 * limits.maxSteps + 1 := by
  have hrun := Search.runs_run g limits start target
  have hcount : (Search.run g limits start target).visited =
      (Search.run g limits start target).count Action.IsReached := hrun.visited_eq_count rfl
  have hvisited : (Search.run g limits start target).visited ≤ limits.maxSteps :=
    hrun.visited_le_maxSteps (Nat.zero_le _)
  refine ⟨hcount, hcount ▸ hvisited, ?_⟩
  calc (g.deriveFrom limits start target).trace.size
      = (Search.run g limits start target).events.size := by
        rw [Trace.size, deriveFrom, Search.Progress.derivation, Search.Progress.trace,
          List.length_map, Array.length_toList]
    _ ≤ 3 * (Search.run g limits start target).visited + 1 := Search.size_events_run_le ..
    _ ≤ 3 * limits.maxSteps + 1 := by omega

/-- A search may find a derivation of one move more than its depth limit: the form that this move makes
is compared before its depth is looked at. A sentence that takes `n + 1` moves at the least is found
under the limit `n`. -/
theorem replacements_le_succ_maxDepth (g : Grammar) (start : Char) (target : Form) :
    (∀ limits, (g.deriveFrom limits start target).accepted = true →
      (Search.run g limits start target).count Action.IsReplaced ≤ limits.maxDepth + 1) ∧
    ∀ n moves, target.Finished → g.Leftmost moves [start] target → moves.length = n + 1 →
      (∀ moves', g.Leftmost moves' [start] target → n < moves'.length) →
      ∃ limits, limits.maxDepth = n ∧ (g.deriveFrom limits start target).accepted = true ∧
        (Search.run g limits start target).count Action.IsReplaced = n + 1 := by
  constructor
  · intro limits hacc
    obtain ⟨moves, hm, hcount⟩ := Search.exists_leftmostWithin_of_accepted hacc
    exact hcount ▸ hm.length_le
  · intro n moves ht hm hn hleast
    obtain ⟨k, hk⟩ := hm.exists_derivesWithin
    have hacc := Search.accepted_of_derivesWithin ht (hn ▸ hk)
    obtain ⟨moves', hm', hcount⟩ := Search.exists_leftmostWithin_of_accepted hacc
    refine ⟨_, rfl, hacc, hcount.trans ?_⟩
    exact Nat.le_antisymm hm'.length_le (hleast moves' hm'.leftmost)

/-- Two moves are made under the depth limit one. -/
theorem not_replacements_le_maxDepth :
    ¬ ∀ (g : Grammar) (limits : Limits) (start : Char) (target : Form),
      (g.deriveFrom limits start target).accepted = true →
      (Search.run g limits start target).count Action.IsReplaced ≤ limits.maxDepth := by
  intro h
  let g := empty 'S' |>.extend 'S' [['a', 'A']] |>.extend 'A' [['b']]
  have hacc : (g.deriveFrom ⟨1, 256, 100000⟩ 'S' ['a', 'b']).accepted = true := by decide +kernel
  have htwo : (Search.run g ⟨1, 256, 100000⟩ 'S' ['a', 'b']).count Action.IsReplaced = 2 := by
    decide +kernel
  have hle := h g ⟨1, 256, 100000⟩ 'S' ['a', 'b'] hacc
  rw [htwo] at hle
  exact absurd hle (by decide)

end Grammar

end Sentential
