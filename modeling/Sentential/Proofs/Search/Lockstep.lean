import Sentential.Proofs.Search.Bounds
import Sentential.Proofs.Search.Widening

namespace Sentential

namespace Search

open Grammar (Move)

def Action.IsBudgetSpent : Action → Prop
  | budgetSpent _ => True
  | _ => False

/-- Told only by a search that has stopped. -/
def Action.IsClosing : Action → Prop
  | replaced _ _ _ | budgetSpent _ => True
  | _ => False

instance : DecidablePred Action.IsClosing
  | .replaced .. | .budgetSpent _ => inferInstanceAs (Decidable True)
  | .reached _ | .trying .. | .noRules _ | .tooDeep _ | .tooLong _ => inferInstanceAs (Decidable False)

theorem Action.isClosing_iff {a : Action} : a.IsClosing ↔ a.IsReplaced ∨ a.IsBudgetSpent := by
  cases a <;> simp [IsClosing, IsReplaced, IsBudgetSpent]

def Progress.walked (p : Progress) : List Event := p.events.toList.filter fun e => ¬ e.action.IsClosing

variable {g : Grammar} {limits limits' : Limits} {target target' form : Form} {room depth : Nat}
  {task : Task} {focus : Form.Focus} {moves : List Move} {p r : Progress}

section

variable {action : Action}

theorem Progress.walked_of_push {e : Event} (h : r.events = p.events.push e) :
    r.walked = p.walked ++ if e.action.IsClosing then [] else [e] := by
  rw [walked, h, Array.toList_push, List.filter_append, List.filter_singleton]
  by_cases he : e.action.IsClosing <;> simp [he, walked]

@[simp] theorem Progress.walked_note :
    (p.note depth action).walked = p.walked ++ if action.IsClosing then [] else [⟨depth, action⟩] :=
  walked_of_push (p.note_events depth action)

@[simp] theorem Progress.walked_note_replaced {symbol : Char} {alternative result : Form} :
    (p.note depth (.replaced symbol alternative result)).walked = p.walked :=
  walked_note.trans (List.append_nil _)

@[simp] theorem Progress.walked_reach :
    (p.reach depth form).walked = p.walked ++ [⟨depth, .reached form⟩] :=
  walked_of_push (p.reach_events depth form)

@[simp] theorem Progress.walked_accept : p.accept.walked = p.walked := rfl

@[simp] theorem Progress.walked_cut :
    (p.cut depth action).walked = p.walked ++ if action.IsClosing then [] else [⟨depth, action⟩] :=
  walked_of_push (p.cut_events depth action)

@[simp] theorem Progress.walked_giveUp {maxSteps : Nat} :
    (p.giveUp depth maxSteps).walked = p.walked :=
  (walked_of_push (p.giveUp_events depth maxSteps)).trans (List.append_nil _)

theorem Progress.isPrefix_walked_note : p.walked <+: (p.note depth action).walked :=
  walked_note (p := p) ▸ List.prefix_append _ _

theorem Progress.isPrefix_walked_reach : p.walked <+: (p.reach depth form).walked :=
  walked_reach (p := p) ▸ List.prefix_append _ _

theorem Progress.isPrefix_walked_cut : p.walked <+: (p.cut depth action).walked :=
  walked_cut (p := p) ▸ List.prefix_append _ _

end

theorem Runs.isPrefix_walked (h : Runs g limits target room depth task p r) : p.walked <+: r.walked := by
  induction h with
  | spent hv => simp
  | found hv ht => simp
  | missed hv hf hne => simp
  | tooDeep hv hf => exact Progress.isPrefix_walked_reach.trans Progress.isPrefix_walked_cut
  | tooLong hv hf hl => exact Progress.isPrefix_walked_reach.trans Progress.isPrefix_walked_cut
  | noRules hv hf hl ha => exact Progress.isPrefix_walked_reach.trans Progress.isPrefix_walked_note
  | expand hv hf hl ha hq ih => exact Progress.isPrefix_walked_reach.trans ih
  | failed => exact List.prefix_rfl
  | succeeded hq hacc ih =>
    exact (Progress.isPrefix_walked_note.trans ih).trans Progress.isPrefix_walked_note
  | stopped hq hacc hex ih => exact Progress.isPrefix_walked_note.trans ih
  | next hq hacc hex hr ihq ihr => exact (Progress.isPrefix_walked_note.trans ihq).trans ihr

theorem Task.runs_result (g : Grammar) (limits : Limits) (target : Form) (room depth : Nat)
    (task : Task) (p : Progress) :
    Runs g limits target room depth task p (task.result g limits target room depth p) := by
  cases task with
  | visit form => exact runs_explore room depth form p
  | tryAll focus alternatives => exact runs_tryEach (runs_explore room (depth + 1)) focus alternatives p

section

variable {a : Form} {rest : List Form}

theorem rejected_of_rejected_cons
    (h : ((Task.tryAll focus (a :: rest)).result g limits target room depth p).accepted = false) :
    ((Task.visit (focus.fill a)).result g limits target room (depth + 1)
      (p.note depth (.trying focus.symbol a))).accepted = false := by
  apply eq_false_of_ne_true
  intro hacc
  rw [result_of_accepted rfl hacc, Progress.note_accepted, hacc] at h
  cases h

theorem isPrefix_walked_cons :
    ((Task.visit (focus.fill a)).result g limits target room (depth + 1)
      (p.note depth (.trying focus.symbol a))).walked <+:
    ((Task.tryAll focus (a :: rest)).result g limits target room depth p).walked := by
  cases hacc : ((Task.visit (focus.fill a)).result g limits target room (depth + 1)
      (p.note depth (.trying focus.symbol a))).accepted with
  | true =>
    rw [result_of_accepted rfl hacc]
    exact Progress.isPrefix_walked_note
  | false =>
    cases hex : ((Task.visit (focus.fill a)).result g limits target room (depth + 1)
        (p.note depth (.trying focus.symbol a))).exhausted with
    | true => rw [result_of_exhausted rfl hacc hex]
    | false =>
      rw [result_of_rejected rfl hacc hex]
      exact (Task.runs_result ..).isPrefix_walked

end

section

variable (hdepth : limits'.maxDepth = limits.maxDepth) (hlength : limits'.maxLength = limits.maxLength)
  (hsteps : limits.maxSteps ≤ limits'.maxSteps)

include hdepth hlength hsteps

/-- Two searches come to the same unless the budget of the first is spent before that of the second, or
one of them finds a target that the other does not look for. -/
theorem Runs.result_eq (h : Runs g limits target room depth task p r)
    (hbudget : r.exhausted = false ∨ limits'.maxSteps = limits.maxSteps)
    (htarget : target' = target ∨ r.accepted = false ∧
      (task.result g limits' target' room depth p).accepted = false) :
    task.result g limits' target' room depth p = r := by
  induction h with
  | spent hv =>
    obtain hx | heq := hbudget
    · cases hx
    · -- the two budgets are the same, so this one is spent too
      rw [Task.result, explore_of_spent (heq ▸ hv), heq]
  | found hv ht =>
    obtain rfl | ⟨hacc, -⟩ := htarget
    · rw [Task.result, explore_of_finished (Nat.lt_of_lt_of_le hv hsteps) ht, if_pos rfl]
    · cases hacc
  | missed hv hf hne =>
    rw [Task.result, explore_of_finished (Nat.lt_of_lt_of_le hv hsteps) hf] at htarget ⊢
    obtain rfl | ⟨-, hacc⟩ := htarget
    · rw [if_neg hne]
    · split at hacc
      · cases hacc
      · next hne' => rw [if_neg hne']
  | tooDeep hv hf => rw [Task.result, explore_of_deep (Nat.lt_of_lt_of_le hv hsteps) hf, hdepth]
  | tooLong hv hf hl =>
    rw [Task.result, explore_of_long (Nat.lt_of_lt_of_le hv hsteps) hf (hlength ▸ hl), hlength]
  | noRules hv hf hl ha =>
    rw [Task.result, explore_of_leftmost (Nat.lt_of_lt_of_le hv hsteps) hf (hlength ▸ hl), if_pos ha]
  | expand hv hf hl ha hq ih =>
    rw [Task.result, explore_of_leftmost (Nat.lt_of_lt_of_le hv hsteps) hf (hlength ▸ hl), if_neg ha]
      at htarget ⊢
    exact ih hbudget htarget
  | failed => rfl
  | succeeded hq hacc ih =>
    -- an accepted target is the one that both look for
    obtain rfl | ⟨hrej, -⟩ := htarget
    · exact result_of_accepted (ih hbudget (.inl rfl)) hacc
    · simp [hacc] at hrej
  | stopped hq hacc hex ih =>
    have hfirst := ih hbudget (htarget.imp id fun h => ⟨hacc, rejected_of_rejected_cons h.2⟩)
    exact result_of_exhausted hfirst hacc hex
  | next hq hacc hex hr ihq ihr =>
    have hfirst := ihq (.inl hex) (htarget.imp id fun h => ⟨hacc, rejected_of_rejected_cons h.2⟩)
    rw [result_of_rejected hfirst hacc hex] at htarget ⊢
    exact ihr hbudget htarget

/-- What a search tells before it stops another one tells too, as long as its own target, if it is
another one, does not stop it. -/
theorem Runs.isPrefix_walked_result (h : Runs g limits target room depth task p r)
    (htarget : target' = target ∨ (task.result g limits' target' room depth p).accepted = false) :
    r.walked <+: (task.result g limits' target' room depth p).walked := by
  induction h with
  | spent hv =>
    rw [Progress.walked_giveUp]
    exact (Task.runs_result ..).isPrefix_walked
  | found hv ht =>
    rw [Task.result, explore_of_finished (Nat.lt_of_lt_of_le hv hsteps) ht]
    split <;> exact List.prefix_rfl
  | missed hv hf hne =>
    rw [Task.result, explore_of_finished (Nat.lt_of_lt_of_le hv hsteps) hf]
    split <;> exact List.prefix_rfl
  | tooDeep hv hf => rw [Task.result, explore_of_deep (Nat.lt_of_lt_of_le hv hsteps) hf, hdepth]
  | tooLong hv hf hl =>
    rw [Task.result, explore_of_long (Nat.lt_of_lt_of_le hv hsteps) hf (hlength ▸ hl), hlength]
  | noRules hv hf hl ha =>
    rw [Task.result, explore_of_leftmost (Nat.lt_of_lt_of_le hv hsteps) hf (hlength ▸ hl), if_pos ha]
  | expand hv hf hl ha hq ih =>
    rw [Task.result, explore_of_leftmost (Nat.lt_of_lt_of_le hv hsteps) hf (hlength ▸ hl), if_neg ha]
      at htarget ⊢
    exact ih htarget
  | failed => exact List.prefix_rfl
  | succeeded hq hacc ih =>
    have hfirst := ih (htarget.imp id rejected_of_rejected_cons)
    rw [Progress.walked_note_replaced]
    exact hfirst.trans isPrefix_walked_cons
  | stopped hq hacc hex ih =>
    exact (ih (htarget.imp id rejected_of_rejected_cons)).trans isPrefix_walked_cons
  | next hq hacc hex hr ihq ihr =>
    -- the first alternative has stopped neither search
    have hfirst := hq.result_eq hdepth hlength hsteps (.inl hex)
      (htarget.imp id fun h => ⟨hacc, rejected_of_rejected_cons h⟩)
    rw [result_of_rejected hfirst hacc hex] at htarget ⊢
    exact ihr htarget

omit hlength hsteps in
theorem run_eq_result (start : Char) :
    run g limits' start target' =
      (Task.visit [start]).result g limits' target' (limits.maxDepth + 1) 0 .initial := by
  rw [run, hdepth, Task.result]

theorem run_eq {start : Char}
    (hbudget : (run g limits start target).exhausted = false ∨ limits'.maxSteps = limits.maxSteps)
    (htarget : target' = target ∨ (run g limits start target).accepted = false ∧
      (run g limits' start target').accepted = false) :
    run g limits' start target' = run g limits start target := by
  rw [run_eq_result hdepth] at htarget ⊢
  exact (runs_run g limits start target).result_eq hdepth hlength hsteps hbudget htarget

theorem isPrefix_walked_run {start : Char}
    (htarget : target' = target ∨ (run g limits' start target').accepted = false) :
    (run g limits start target).walked <+: (run g limits' start target').walked := by
  rw [run_eq_result hdepth] at htarget ⊢
  exact (runs_run g limits start target).isPrefix_walked_result hdepth hlength hsteps htarget

end

/-- As long as its budget lasts, a search does not tell that it is spent. -/
theorem Runs.tells_no_spent_budget (h : Runs g limits target room depth task p r)
    (hx : r.exhausted = false) (ht : p.Tells (¬ ·.IsBudgetSpent)) : r.Tells (¬ ·.IsBudgetSpent) := by
  induction h with
  | spent hv => cases hx
  | found hv hfin => exact (ht.reach id).accept
  | missed hv hf hne => exact ht.reach id
  | tooDeep hv hf => exact (ht.reach id).cut id
  | tooLong hv hf hl => exact (ht.reach id).cut id
  | noRules hv hf hl ha => exact (ht.reach id).note id
  | expand hv hf hl ha hq ih => exact ih hx (ht.reach id)
  | failed => exact ht
  | succeeded hq hacc ih => exact (ih hx (ht.note id)).note id
  | stopped hq hacc hex ih => simp [hex] at hx
  | next hq hacc hex hr ihq ihr => exact ihr hx (ihq hex (ht.note id))

theorem Progress.walked_eq (ht : p.Tells (¬ ·.IsClosing)) : p.walked = p.events.toList := by
  apply List.filter_eq_self.mpr
  intro e he
  simpa using ht e (Array.mem_toList_iff.mp he)

/-- A search that goes on has told nothing that closes one. -/
theorem Runs.tells_no_closing (h : Runs g limits target room depth task p r) (hp : p.Idle)
    (ht : p.Tells (¬ ·.IsClosing)) (hacc : r.accepted = false) (hx : r.exhausted = false) :
    r.Tells (¬ ·.IsClosing) := by
  simp only [Progress.Tells, Action.isClosing_iff, not_or] at ht ⊢
  have hreplaced := h.tells_no_replacement hp hacc fun e he => (ht e he).1
  have hspent := h.tells_no_spent_budget hx fun e he => (ht e he).2
  exact fun e he => ⟨hreplaced e he, hspent e he⟩

/-- A search whose budget is spent has visited as many forms as it may, and tells of it at the end. -/
theorem Runs.exists_budgetSpent (h : Runs g limits target room depth task p r) (hp : p.Idle)
    (ht : p.Tells (¬ ·.IsClosing)) (hx : r.exhausted = true) :
    limits.maxSteps ≤ r.visited ∧
      ∃ d, r.events.toList = r.walked ++ [⟨d, .budgetSpent limits.maxSteps⟩] := by
  induction h with
  | @spent _ depth _ _ hv =>
    refine ⟨hv, depth, ?_⟩
    rw [Progress.walked_giveUp, Progress.walked_eq ht, Progress.giveUp_events, Array.toList_push]
  | found hv hfin => simp [hp.exhausted] at hx
  | missed hv hf hne => simp [hp.exhausted] at hx
  | tooDeep hv hf => simp [hp.exhausted] at hx
  | tooLong hv hf hl => simp [hp.exhausted] at hx
  | noRules hv hf hl ha => simp [hp.exhausted] at hx
  | expand hv hf hl ha hq ih => exact ih (hp.reach _ _) (ht.reach id) hx
  | failed => simp [hp.exhausted] at hx
  | succeeded hq hacc ih =>
    -- a search that accepts has stayed within its budget
    have hc := hq.coherent (hp.note _ _)
    simp [hc.exhausted_of_accepted hacc] at hx
  | stopped hq hacc hex ih => exact ih (hp.note _ _) (ht.note id) hx
  | next hq hacc hex hr ihq ihr =>
    have ht := hq.tells_no_closing (hp.note _ _) (ht.note id) hacc hex
    exact ihr ⟨hacc, hex⟩ ht hx

theorem filter_closing (target : Form) (depth : Nat) (moves : List Move) :
    (closing target depth moves).filter (fun e => ¬ e.action.IsClosing) =
      [⟨depth + moves.length, .reached target⟩] := by
  induction moves generalizing depth with
  | nil => rfl
  | cons m rest ih =>
    rw [closing, List.filter_append, ih, List.length_cons, Nat.add_assoc, Nat.add_comm 1]
    rfl

theorem Progress.Closes.lines (h : p.Closes target depth moves) (ht : p.Tells (¬ ·.IsBudgetSpent)) :
    p.trace.lines =
      p.walked.map Event.line ++ (moves.mapIdx fun i m => m.line (depth + i)).reverse := by
  obtain ⟨above, he, htold⟩ := h
  have habove : above.filter (fun e => ¬ e.action.IsClosing) = above := by
    apply List.filter_eq_self.mpr
    intro e hmem
    have hevent : e ∈ p.events := Array.mem_toList_iff.mp (he ▸ List.mem_append_left _ hmem)
    simpa [Action.isClosing_iff] using ⟨htold e hmem, ht e hevent⟩
  rw [Progress.trace, walked, he, List.filter_append, habove, filter_closing, List.map_append,
    map_line_closing, List.map_append, List.append_assoc]
  rfl

section

variable {start : Char}

theorem lines_run_of_accepted (hacc : (run g limits start target).accepted = true) :
    ∃ moves, g.Leftmost moves [start] target ∧
      (run g limits start target).trace.lines =
        (run g limits start target).walked.map Event.line ++ (moves.mapIdx Move.line).reverse := by
  have hrun := runs_run g limits start target
  obtain ⟨moves, hfirst, hcloses⟩ :=
    hrun.exists_firstBy_closes Progress.idle_initial hacc Progress.Tells.initial
  have hx := (hrun.coherent Progress.idle_initial).exhausted_of_accepted hacc
  have hlines := hcloses.lines (hrun.tells_no_spent_budget hx Progress.Tells.initial)
  simp only [Nat.zero_add] at hlines
  exact ⟨moves, hfirst.solved.leftmost, hlines⟩

theorem lines_run_of_exhausted (hx : (run g limits start target).exhausted = true) :
    ∃ depth, (run g limits start target).trace.lines =
      (run g limits start target).walked.map Event.line ++
        ["".pushn ' ' (2 * depth) ++ s!"abandoned: search budget of {limits.maxSteps} forms spent"] := by
  obtain ⟨-, depth, he⟩ := (runs_run g limits start target).exists_budgetSpent Progress.idle_initial
    Progress.Tells.initial hx
  refine ⟨depth, ?_⟩
  rw [Progress.trace, he, List.map_append]
  rfl

theorem visited_run_of_exhausted (hx : (run g limits start target).exhausted = true) :
    (run g limits start target).visited = limits.maxSteps := by
  have hrun := runs_run g limits start target
  obtain ⟨hle, -⟩ := hrun.exists_budgetSpent Progress.idle_initial Progress.Tells.initial hx
  exact Nat.le_antisymm (hrun.visited_le_maxSteps (Nat.zero_le _)) hle

theorem isPrefix_lines_run (g : Grammar) (limits : Limits) (start : Char) (target : Form) :
    (run g limits start target).walked.map Event.line <+: (run g limits start target).trace.lines := by
  have hrun := runs_run g limits start target
  cases hacc : (run g limits start target).accepted with
  | true =>
    obtain ⟨moves, -, hlines⟩ := lines_run_of_accepted hacc
    rw [hlines]
    exact List.prefix_append _ _
  | false =>
    cases hx : (run g limits start target).exhausted with
    | true =>
      obtain ⟨depth, hlines⟩ := lines_run_of_exhausted hx
      rw [hlines]
      exact List.prefix_append _ _
    | false =>
      have ht := hrun.tells_no_closing Progress.idle_initial Progress.Tells.initial hacc hx
      rw [Progress.walked_eq ht]
      exact List.prefix_rfl

end

theorem not_isClosing_of_mem_walked {e : Event} (he : e ∈ p.walked) : ¬ e.action.IsClosing := by
  simpa using (List.mem_filter.mp he).2

end Search

namespace Grammar

open Search (Event)

/-- Rejected targets cannot be told apart by what the search answers. An accepted one is told apart by the
replacements at the end; up to there the search has told what it tells for a target that it rejects. -/
theorem trace_of_rejected_target {g : Grammar} {limits : Limits} {start : Char} {target' : Form}
    (hrej : (g.deriveFrom limits start target').accepted = false) (target : Form) :
    ((g.deriveFrom limits start target).accepted = false →
      g.deriveFrom limits start target = g.deriveFrom limits start target') ∧
    ((g.deriveFrom limits start target).accepted = true →
      ∃ (moves : List Move) (shared : List Event), g.Leftmost moves [start] target ∧
        (g.deriveFrom limits start target).trace.lines =
          shared.map Event.line ++ (moves.mapIdx Move.line).reverse ∧
        (∀ e ∈ shared, ¬ e.action.IsReplaced) ∧
        shared.map Event.line <+: (g.deriveFrom limits start target').trace.lines) := by
  constructor
  · intro hacc
    have heq : Search.run g limits start target' = Search.run g limits start target :=
      Search.run_eq rfl rfl (Nat.le_refl _) (.inr rfl) (.inr ⟨hacc, hrej⟩)
    rw [deriveFrom, deriveFrom, heq]
  · intro hacc
    obtain ⟨moves, hm, hlines⟩ := Search.lines_run_of_accepted hacc
    have hwalked : (Search.run g limits start target).walked <+:
        (Search.run g limits start target').walked :=
      Search.isPrefix_walked_run rfl rfl (Nat.le_refl _) (.inr hrej)
    refine ⟨moves, (Search.run g limits start target).walked, hm, hlines, fun e he hr => ?_, ?_⟩
    · exact Search.not_isClosing_of_mem_walked he (Search.Action.isClosing_iff.mpr (.inl hr))
    · exact (hwalked.map _).trans (Search.isPrefix_lines_run g limits start target')

/-- The budget is spent just before `a` is reached, so that it is rejected; `aa` is reached in time. -/
theorem trace_of_target_beyond_budget :
    let g := empty 'S' |>.extend 'S' [['a', 'S'], ['a']]
    let limits : Limits := ⟨2, 5, 6⟩
    (g.deriveFrom limits 'S' ['a']).accepted = false ∧
    g.deriveFrom limits 'S' ['b'] = g.deriveFrom limits 'S' ['a'] ∧
    (g.deriveFrom limits 'S' ['a', 'a']).accepted = true ∧
    ∃ (moves : List Move) (shared : List Event), g.Leftmost moves ['S'] ['a', 'a'] ∧
      (g.deriveFrom limits 'S' ['a', 'a']).trace.lines =
        shared.map Event.line ++ (moves.mapIdx Move.line).reverse ∧
      (∀ e ∈ shared, ¬ e.action.IsReplaced) ∧
      shared.map Event.line <+: (g.deriveFrom limits 'S' ['a']).trace.lines := by
  intro g limits
  have hrej : (g.deriveFrom limits 'S' ['a']).accepted = false := by decide +kernel
  have hrej' : (g.deriveFrom limits 'S' ['b']).accepted = false := by decide +kernel
  have hacc : (g.deriveFrom limits 'S' ['a', 'a']).accepted = true := by decide +kernel
  exact ⟨hrej, (trace_of_rejected_target hrej ['b']).1 hrej', hacc,
    (trace_of_rejected_target hrej ['a', 'a']).2 hacc⟩

/-- A search whose budget lasts does the same with a larger one. Otherwise it rejects after as many forms
as it may visit, and but for its last line it tells what it tells with the larger budget. -/
theorem trace_of_smaller_budget {n m : Nat} (hnm : n ≤ m) (g : Grammar) (limits : Limits) (start : Char)
    (target : Form) :
    let short : Limits := { limits with maxSteps := n }
    let long : Limits := { limits with maxSteps := m }
    ((Search.run g short start target).exhausted = false →
      g.deriveFrom long start target = g.deriveFrom short start target) ∧
    ((Search.run g short start target).exhausted = true →
      (g.deriveFrom short start target).accepted = false ∧
      (g.deriveFrom short start target).pruned = true ∧
      (Search.run g short start target).visited = n ∧
      (Search.run g short start target).count Search.Action.IsReached = n ∧
      ∃ (above : List Event) (depth : Nat),
        (g.deriveFrom short start target).trace.lines = above.map Event.line ++
          ["".pushn ' ' (2 * depth) ++ s!"abandoned: search budget of {n} forms spent"] ∧
        (∀ e ∈ above, ¬ e.action.IsBudgetSpent) ∧
        above.map Event.line <+: (g.deriveFrom long start target).trace.lines) := by
  intro short long
  have hrun := Search.runs_run g short start target
  constructor
  · intro hx
    have heq : Search.run g long start target = Search.run g short start target :=
      Search.run_eq (by rfl) (by rfl) hnm (.inl hx) (.inl rfl)
    rw [deriveFrom, deriveFrom, heq]
  · intro hx
    have hcoherent := hrun.coherent Search.Progress.idle_initial
    have hvisited : (Search.run g short start target).visited = n :=
      Search.visited_run_of_exhausted hx
    have hcount : (Search.run g short start target).count Search.Action.IsReached = n :=
      (hrun.visited_eq_count rfl).symm.trans hvisited
    obtain ⟨depth, hlines⟩ := Search.lines_run_of_exhausted hx
    have hwalked : (Search.run g short start target).walked <+:
        (Search.run g long start target).walked :=
      Search.isPrefix_walked_run (by rfl) (by rfl) hnm (.inl rfl)
    refine ⟨hcoherent.rejected_of_exhausted hx, hcoherent.pruned_of_exhausted hx, hvisited, hcount, _,
      depth, hlines, fun e he hs => ?_, ?_⟩
    · exact Search.not_isClosing_of_mem_walked he (Search.Action.isClosing_iff.mpr (.inr hs))
    · exact (hwalked.map _).trans (Search.isPrefix_lines_run ..)

/-- With one form more the target would have been reached. -/
theorem trace_of_budget_one_short :
    let g := empty 'S' |>.extend 'S' [['a', 'S'], ['a']]
    6 ≤ 7 ∧ (Search.run g ⟨2, 5, 6⟩ 'S' ['a']).exhausted = true ∧
    (g.deriveFrom ⟨2, 5, 7⟩ 'S' ['a']).accepted = true ∧
    (g.deriveFrom ⟨2, 5, 6⟩ 'S' ['a']).accepted = false ∧
    (g.deriveFrom ⟨2, 5, 6⟩ 'S' ['a']).pruned = true ∧
    (Search.run g ⟨2, 5, 6⟩ 'S' ['a']).visited = 6 ∧
    (Search.run g ⟨2, 5, 6⟩ 'S' ['a']).count Search.Action.IsReached = 6 ∧
    ∃ (above : List Event) (depth : Nat),
      (g.deriveFrom ⟨2, 5, 6⟩ 'S' ['a']).trace.lines =
        above.map Event.line ++
          ["".pushn ' ' (2 * depth) ++ s!"abandoned: search budget of {6} forms spent"] ∧
      (∀ e ∈ above, ¬ e.action.IsBudgetSpent) ∧
      above.map Event.line <+: (g.deriveFrom ⟨2, 5, 7⟩ 'S' ['a']).trace.lines := by
  intro g
  have hle : 6 ≤ 7 := by decide
  have hx : (Search.run g ⟨2, 5, 6⟩ 'S' ['a']).exhausted = true := by decide +kernel
  have hacc : (g.deriveFrom ⟨2, 5, 7⟩ 'S' ['a']).accepted = true := by decide +kernel
  exact ⟨hle, hx, hacc, (trace_of_smaller_budget hle g ⟨2, 5, 0⟩ 'S' ['a']).2 hx⟩

end Grammar

end Sentential
