import Sentential.Proofs.Search.Verdict

namespace Sentential

namespace Grammar

/-- A derivation comes before another if it takes an earlier alternative where they part. -/
def Earlier (moves moves' : List Move) : Prop :=
  List.Lex (· < ·) (moves.map Move.index) (moves'.map Move.index)

/-- The line that tells, from the end of the search, of the move that was made at depth `i`. -/
def Move.line (i : Nat) (m : Move) : String :=
  "".pushn ' ' (2 * i) ++ ("replaced " ++ m.focus.symbol.toString ++ " → " ++
    String.ofList m.alternative.shown ++ ", giving " ++ String.ofList m.result.shown)

end Grammar

namespace Search

open Grammar (Move)

def Action.IsReplaced : Action → Prop
  | replaced _ _ _ => True
  | _ => False

def Task.SolvedBy (g : Grammar) (n k : Nat) (target : Form) : Task → List Move → Prop
  | visit form, moves => g.LeftmostWithin n k moves form target
  | tryAll focus alternatives, moves => ∃ i a rest, moves = ⟨focus, i, a⟩ :: rest ∧
      alternatives[i]? = some a ∧ g.LeftmostWithin n k rest (focus.fill a) target

structure Task.FirstBy (g : Grammar) (n k : Nat) (target : Form) (task : Task) (moves : List Move) :
    Prop where
  solved : task.SolvedBy g n k target moves
  earlier : ∀ moves', task.SolvedBy g n k target moves' → moves' = moves ∨ Grammar.Earlier moves moves'

/-- The events with which a search comes back from the target to a depth. -/
def closing (target : Form) : (depth : Nat) → List Move → List Event
  | depth, [] => [⟨depth, .reached target⟩]
  | depth, m :: rest =>
    closing target (depth + 1) rest ++ [⟨depth, .replaced m.focus.symbol m.alternative m.result⟩]

/-- The events end with the target and the moves that lead to it, and no other replacement is told. -/
def Progress.Closes (target : Form) (depth : Nat) (moves : List Move) (p : Progress) : Prop :=
  ∃ above, p.events.toList = above ++ closing target depth moves ∧
    ∀ e ∈ above, ¬ e.action.IsReplaced

variable {g : Grammar} {limits : Limits} {target form : Form} {room depth n k : Nat} {task : Task}
  {focus : Form.Focus} {moves : List Move} {p r : Progress}

theorem map_line_closing (target : Form) (depth : Nat) (moves : List Move) :
    (closing target depth moves).map Event.line =
      Event.line ⟨depth + moves.length, .reached target⟩ ::
        (moves.mapIdx fun i m => m.line (depth + i)).reverse := by
  induction moves generalizing depth with
  | nil => rfl
  | cons m rest ih =>
    have hshift : (fun i (m : Move) => m.line (depth + 1 + i)) =
        fun i m => m.line (depth + (i + 1)) := by
      funext i m
      rw [Nat.add_assoc, Nat.add_comm 1 i]
    rw [closing, List.map_append, ih, hshift, List.mapIdx_cons, List.reverse_cons, List.length_cons,
      Nat.add_assoc, Nat.add_comm 1 rest.length]
    rfl

theorem Task.firstBy_of_found (ht : target.Finished) :
    (Task.visit target).FirstBy g n k target [] := by
  refine ⟨Grammar.leftmostWithin_nil g n k target, fun moves' h => .inl ?_⟩
  exact h.leftmost.eq_nil_of_finished ht

theorem Task.FirstBy.visit (hf : form.leftmost? = some focus) (ht : target.Finished)
    (hl : form.length ≤ k)
    (h : (Task.tryAll focus (g.alternatives focus.symbol)).FirstBy g n k target moves) :
    (Task.visit form).FirstBy g (n + 1) k target moves := by
  have hiff (moves' : List Move) : (Task.visit form).SolvedBy g (n + 1) k target moves' ↔
      (Task.tryAll focus (g.alternatives focus.symbol)).SolvedBy g n k target moves' := by
    simp only [SolvedBy, Grammar.leftmostWithin_iff_of_leftmost hf ht, Nat.succ.injEq]
    constructor
    · intro hs
      obtain ⟨_, i, a, rest, rfl, -, he, hi, hm⟩ := hs
      exact ⟨i, a, rest, he, hi, hm⟩
    · intro hs
      obtain ⟨i, a, rest, he, hi, hm⟩ := hs
      exact ⟨n, i, a, rest, rfl, hl, he, hi, hm⟩
  exact ⟨(hiff moves).mpr h.solved, fun moves' hm => h.earlier moves' ((hiff moves').mp hm)⟩

theorem Task.FirstBy.head {a : Form} {rest : List Form}
    (h : (Task.visit (focus.fill a)).FirstBy g n k target moves) :
    (Task.tryAll focus (a :: rest)).FirstBy g n k target (⟨focus, 0, a⟩ :: moves) := by
  refine ⟨⟨0, a, moves, rfl, rfl, h.solved⟩, ?_⟩
  rintro _ ⟨i, b, moves', rfl, hi, hm⟩
  cases i with
  | zero =>
    obtain rfl := Option.some.inj hi
    exact (h.earlier moves' hm).imp (congrArg _) .cons
  | succ i =>
    -- the other way starts with a later alternative
    exact .inr (.rel (Nat.succ_pos i))

theorem Task.FirstBy.tail {a : Form} {rest : List Form} {m : Move}
    (ha : ¬ (Task.visit (focus.fill a)).Solvable g n k target)
    (h : (Task.tryAll focus rest).FirstBy g n k target (m :: moves)) :
    (Task.tryAll focus (a :: rest)).FirstBy g n k target ({ m with index := m.index + 1 } :: moves) := by
  obtain ⟨i, b, moves, he, hi, hm⟩ := h.solved
  obtain ⟨rfl, rfl⟩ := List.cons_eq_cons.mp he
  refine ⟨⟨i + 1, b, moves, rfl, hi, hm⟩, ?_⟩
  rintro _ ⟨j, c, moves', rfl, hj, hm'⟩
  cases j with
  | zero =>
    obtain rfl := Option.some.inj hj
    exact absurd (Grammar.derivesWithin_iff.mpr ⟨moves', hm'⟩) ha
  | succ j =>
    -- both ways keep to `rest`, where each first index is one less
    obtain hsame | hlex := h.earlier (⟨focus, j, c⟩ :: moves') ⟨j, c, moves', rfl, hj, hm'⟩
    · obtain ⟨hmove, rfl⟩ := List.cons_eq_cons.mp hsame
      cases hmove
      exact .inl rfl
    · refine .inr ?_
      cases hlex with
      | rel hlt => exact .rel (Nat.succ_lt_succ hlt)
      | cons hlex => exact .cons hlex

/-- A search that rejects tells of no replacement. -/
theorem Runs.tells_no_replacement (h : Runs g limits target room depth task p r) (hp : p.Idle)
    (hr : r.accepted = false) (ht : p.Tells (¬ ·.IsReplaced)) : r.Tells (¬ ·.IsReplaced) := by
  induction h with
  | spent hv => exact ht.giveUp id
  | found hv hfin => cases hr
  | missed hv hf hne => exact ht.reach id
  | tooDeep hv hf => exact (ht.reach id).cut id
  | tooLong hv hf hl => exact (ht.reach id).cut id
  | noRules hv hf hl ha => exact (ht.reach id).note id
  | expand hv hf hl ha hq ih => exact ih (hp.reach _ _) hr (ht.reach id)
  | failed => exact ht
  | succeeded hq hacc ih => simp [hacc] at hr
  | stopped hq hacc hex ih => exact ih (hp.note _ _) hacc (ht.note id)
  | next hq hacc hex hr' ihq ihr => exact ihr ⟨hacc, hex⟩ hr (ihq (hp.note _ _) hacc (ht.note id))

theorem Progress.closes_accept (ht : p.Tells (¬ ·.IsReplaced)) :
    ((p.reach depth target).accept).Closes target depth [] := by
  refine ⟨p.events.toList, ?_, fun e he => ht e (Array.mem_toList_iff.mp he)⟩
  rw [accept_events, reach_events, Array.toList_push, closing]

theorem Progress.Closes.note {a : Form} {i : Nat} (h : p.Closes target (depth + 1) moves) :
    (p.note depth (.replaced focus.symbol a (focus.fill a))).Closes target depth
      (⟨focus, i, a⟩ :: moves) := by
  obtain ⟨above, he, ht⟩ := h
  refine ⟨above, ?_, ht⟩
  rw [note_events, Array.toList_push, he, closing, List.append_assoc]
  rfl

/-- A search that accepts closes with the first moves that do its task. -/
theorem Runs.exists_firstBy_closes (h : Runs g limits target room depth task p r) (hp : p.Idle)
    (hr : r.accepted = true) (ht : p.Tells (¬ ·.IsReplaced)) :
    ∃ moves, task.FirstBy g room limits.maxLength target moves ∧ r.Closes target depth moves := by
  induction h with
  | spent hv => simp [hp.accepted] at hr
  | found hv hfin => exact ⟨[], Task.firstBy_of_found hfin, Progress.closes_accept ht⟩
  | missed hv hf hne => simp [hp.accepted] at hr
  | tooDeep hv hf => simp [hp.accepted] at hr
  | tooLong hv hf hl => simp [hp.accepted] at hr
  | noRules hv hf hl ha => simp [hp.accepted] at hr
  | expand hv hf hl ha hq ih =>
    obtain ⟨hfin, -⟩ := hq.solvable (hp.reach _ _) hr
    obtain ⟨moves, hfirst, hcloses⟩ := ih (hp.reach _ _) hr (ht.reach id)
    exact ⟨moves, hfirst.visit hf hfin hl, hcloses⟩
  | failed => simp [hp.accepted] at hr
  | succeeded hq hacc ih =>
    obtain ⟨moves, hfirst, hcloses⟩ := ih (hp.note _ _) hacc (ht.note id)
    exact ⟨_ :: moves, hfirst.head, hcloses.note⟩
  | stopped hq hacc hex ih => simp [hacc] at hr
  | next hq hacc hex hr' ihq ihr =>
    -- nothing within the limits starts with the alternative that has failed
    obtain ⟨hfin, -⟩ := hr'.solvable ⟨hacc, hex⟩ hr
    have hfails := hq.unsolvable (hp.note _ _) hfin hacc hex
    have ht := hq.tells_no_replacement (hp.note _ _) hacc (ht.note id)
    obtain ⟨moves, hfirst, hcloses⟩ := ihr ⟨hacc, hex⟩ hr ht
    obtain ⟨i, a, rest, rfl, -⟩ := hfirst.solved
    exact ⟨_ :: rest, hfirst.tail hfails, hcloses⟩

end Search

namespace Grammar

/-- The trace of an accepting search ends with the target and the moves that have led to it, the last
one first, and these moves are a leftmost derivation that comes before all others within the limits. A
search that rejects tells of no replacement. -/
theorem trace_ends_with_first_derivation (g : Grammar) (limits : Limits) (start : Char)
    (target : Form) :
    ((g.deriveFrom limits start target).accepted = true →
      ∃ (moves : List Move) (above : List Search.Event), g.Leftmost moves [start] target ∧
        moves.length ≤ limits.maxDepth + 1 ∧ (∀ m ∈ moves, m.form.length ≤ limits.maxLength) ∧
        (g.deriveFrom limits start target).trace.lines =
          above.map Search.Event.line ++
            ("".pushn ' ' (2 * moves.length) ++ String.ofList target.shown) ::
              (moves.mapIdx Move.line).reverse ∧
        (∀ e ∈ above, ¬ e.action.IsReplaced) ∧
        ∀ moves', g.Leftmost moves' [start] target → moves'.length ≤ limits.maxDepth + 1 →
          (∀ m ∈ moves', m.form.length ≤ limits.maxLength) →
          moves' = moves ∨ Earlier moves moves') ∧
    ((g.deriveFrom limits start target).accepted = false →
      ∀ e ∈ (Search.run g limits start target).events, ¬ e.action.IsReplaced) := by
  have hrun := Search.runs_run g limits start target
  constructor
  · intro hacc
    obtain ⟨moves, hfirst, above, hevents, htold⟩ :=
      hrun.exists_firstBy_closes Search.Progress.idle_initial hacc Search.Progress.Tells.initial
    obtain ⟨hm, hn, hk⟩ := hfirst.solved
    refine ⟨moves, above, hm, hn, hk, ?_, htold, fun moves' hm' hn' hk' => ?_⟩
    · change (Search.run g limits start target).events.toList.map Search.Event.line = _
      rw [hevents, List.map_append, Search.map_line_closing]
      simp only [Nat.zero_add]
      rfl
    · exact hfirst.earlier moves' ⟨hm', hn', hk'⟩
  · intro hacc
    exact hrun.tells_no_replacement Search.Progress.idle_initial hacc Search.Progress.Tells.initial

/-- On the way to `cbab` the form `cbacbb` is reached and given up: the last move takes the second
alternative of `C`. The last lines are read upwards. No move is told of for `a`, which is rejected. -/
theorem trace_of_cbab_ends_with_first_derivation :
    let target : Form := ['c', 'b', 'a', 'b']
    (demonstration.deriveFrom .standard 'S' target).accepted = true ∧
    (⟨5, .reached ['c', 'b', 'a', 'c', 'b', 'b']⟩ : Search.Event) ∈
      (Search.run demonstration .standard 'S' target).events.toList ∧
    (demonstration.deriveFrom .standard 'S' target).trace.lines.reverse.take 6 =
      ["replaced S → AB, giving AB", "  replaced A → Ca, giving CaB",
        "    replaced C → cb, giving cbaB", "      replaced B → Cb, giving cbaCb",
        "        replaced C → ε, giving cbab", "          cbab"] ∧
    (∃ (moves : List Move) (above : List Search.Event),
      demonstration.Leftmost moves ['S'] target ∧ moves.length ≤ Limits.standard.maxDepth + 1 ∧
        (∀ m ∈ moves, m.form.length ≤ Limits.standard.maxLength) ∧
        (demonstration.deriveFrom .standard 'S' target).trace.lines =
          above.map Search.Event.line ++
            ("".pushn ' ' (2 * moves.length) ++ String.ofList target.shown) ::
              (moves.mapIdx Move.line).reverse ∧
        (∀ e ∈ above, ¬ e.action.IsReplaced) ∧
        ∀ moves', demonstration.Leftmost moves' ['S'] target →
          moves'.length ≤ Limits.standard.maxDepth + 1 →
          (∀ m ∈ moves', m.form.length ≤ Limits.standard.maxLength) →
          moves' = moves ∨ Earlier moves moves') ∧
    (demonstration.deriveFrom .standard 'S' ['a']).accepted = false ∧
    ∀ e ∈ (Search.run demonstration .standard 'S' ['a']).events, ¬ e.action.IsReplaced := by
  intro target
  have hacc : (demonstration.deriveFrom .standard 'S' target).accepted = true := by decide +kernel
  have hrej : (demonstration.deriveFrom .standard 'S' ['a']).accepted = false := by decide +kernel
  refine ⟨hacc, by decide +kernel, by decide +kernel, ?_, hrej, ?_⟩
  · exact (trace_ends_with_first_derivation demonstration .standard 'S' target).1 hacc
  · exact (trace_ends_with_first_derivation demonstration .standard 'S' ['a']).2 hrej

end Grammar

end Sentential
