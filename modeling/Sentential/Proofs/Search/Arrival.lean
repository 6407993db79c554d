import Sentential.Proofs.Search.Lockstep

namespace Sentential

namespace Search

/-- A point at which a search looks at a form: the depth of the form, and the state on arrival. -/
structure Arrival where
  depth : Nat
  form : Form
  state : Progress

/-- What is told on arrival: the form, or that the budget is spent. -/
def Arrival.event (limits : Limits) (x : Arrival) : Event :=
  if limits.maxSteps ≤ x.state.visited then ⟨x.depth, .budgetSpent limits.maxSteps⟩
  else ⟨x.depth, .reached x.form⟩

/-- A search arrives at a form while it does a task. An alternative is tried after those in front of it,
if none of them has led to the target or spent the budget. -/
inductive Arrives (g : Grammar) (limits : Limits) (target : Form) :
    (room depth : Nat) → Task → Progress → Arrival → Prop where
  | here {room depth form p} : Arrives g limits target room depth (.visit form) p ⟨depth, form, p⟩
  | expand {room depth form focus p x} :
      p.visited < limits.maxSteps → form.leftmost? = some focus → form.length ≤ limits.maxLength →
      Arrives g limits target room depth (.tryAll focus (g.alternatives focus.symbol))
        (p.reach depth form) x →
      Arrives g limits target (room + 1) depth (.visit form) p x
  | first {room depth focus a rest p x} :
      Arrives g limits target room (depth + 1) (.visit (focus.fill a))
        (p.note depth (.trying focus.symbol a)) x →
      Arrives g limits target room depth (.tryAll focus (a :: rest)) p x
  | later {room depth focus a rest p q x} :
      explore g limits target room (depth + 1) (focus.fill a)
        (p.note depth (.trying focus.symbol a)) = q →
      q.accepted = false → q.exhausted = false →
      Arrives g limits target room depth (.tryAll focus rest) q x →
      Arrives g limits target room depth (.tryAll focus (a :: rest)) p x

variable {g : Grammar} {limits : Limits} {target : Form} {room depth : Nat} {task : Task}
  {p r : Progress} {x : Arrival}

/-- The depth is covered by the forms that have been visited, and these by the budget. The form on which a
search is at work has been visited itself. -/
def Task.Counted (limits : Limits) (depth : Nat) : Task → Progress → Prop
  | visit _, p => depth ≤ p.visited ∧ p.visited ≤ limits.maxSteps
  | tryAll _ _, p => depth + 1 ≤ p.visited ∧ p.visited ≤ limits.maxSteps

theorem Runs.visited_mono (h : Runs g limits target room depth task p r) : p.visited ≤ r.visited := by
  induction h with
  | spent hv => exact Nat.le_refl _
  | found hv ht => exact Nat.le_succ _
  | missed hv hf hne => exact Nat.le_succ _
  | tooDeep hv hf => exact Nat.le_succ _
  | tooLong hv hf hl => exact Nat.le_succ _
  | noRules hv hf hl ha => exact Nat.le_succ _
  | expand hv hf hl ha hq ih => exact Nat.le_of_succ_le ih
  | failed => exact Nat.le_refl _
  | succeeded hq hacc ih => exact ih
  | stopped hq hacc hex ih => exact ih
  | next hq hacc hex hr ihq ihr => exact Nat.le_trans ihq ihr

theorem Runs.result_self (h : Runs g limits target room depth task p r) :
    task.result g limits target room depth p = r :=
  h.result_eq rfl rfl (Nat.le_refl _) (.inr rfl) (.inl rfl)

theorem Arrives.counted (h : Arrives g limits target room depth task p x)
    (hp : task.Counted limits depth p) :
    x.depth ≤ x.state.visited ∧ x.state.visited ≤ limits.maxSteps := by
  induction h with
  | here => exact hp
  | expand hv hf hl hx ih => exact ih ⟨Nat.succ_le_succ hp.1, hv⟩
  | first hx ih => exact ih hp
  | @later room depth focus a rest p q x hq hacc hex hx ih =>
    -- the alternative that failed began at a state that was counted, and nothing is taken back
    have hruns : Runs g limits target room (depth + 1) (.visit (focus.fill a))
        (p.note depth (.trying focus.symbol a)) q := hq ▸ runs_explore ..
    exact ih ⟨Nat.le_trans hp.1 hruns.visited_mono, hruns.visited_le_maxSteps hp.2⟩

/-- Told on arrival and at no other point. -/
def Action.IsArrival : Action → Prop
  | reached _ | budgetSpent _ => True
  | _ => False

/-- All forms that have been told, and the spent budget, were told on some of these arrivals. -/
def Progress.ToldOn (limits : Limits) (S : Arrival → Prop) (p : Progress) : Prop :=
  ∀ before e, before ++ [e] <+: p.events.toList → e.action.IsArrival →
    ∃ x, S x ∧ x.state.events.toList = before ∧ x.event limits = e

namespace Progress.ToldOn

variable {S : Arrival → Prop} {form : Form} {action : Action}

theorem initial : Progress.initial.ToldOn limits S := by
  intro before e h
  simp [Progress.initial] at h

theorem push (hp : p.ToldOn limits S) {e : Event} (hr : r.events = p.events.push e)
    (he : e.action.IsArrival → ∃ x, S x ∧ x.state.events.toList = p.events.toList ∧ x.event limits = e) :
    r.ToldOn limits S := by
  intro before e' h
  rw [hr, Array.toList_push, List.prefix_concat_iff] at h
  obtain h | h := h
  · obtain ⟨rfl, hlast⟩ := List.append_inj' h rfl
    exact List.singleton_inj.mp hlast ▸ he
  · exact hp before e' h

theorem note (hp : p.ToldOn limits S) (ha : ¬ action.IsArrival) : (p.note depth action).ToldOn limits S :=
  hp.push (p.note_events depth action) fun h => absurd h ha

theorem cut (hp : p.ToldOn limits S) (ha : ¬ action.IsArrival) : (p.cut depth action).ToldOn limits S :=
  hp.push (p.cut_events depth action) fun h => absurd h ha

theorem reach (hp : p.ToldOn limits S) (hv : p.visited < limits.maxSteps) (hx : S ⟨depth, form, p⟩) :
    (p.reach depth form).ToldOn limits S :=
  hp.push (p.reach_events depth form) fun _ => ⟨_, hx, rfl, if_neg (Nat.not_le_of_lt hv)⟩

theorem giveUp (hp : p.ToldOn limits S) (hv : limits.maxSteps ≤ p.visited) (hx : S ⟨depth, form, p⟩) :
    (p.giveUp depth limits.maxSteps).ToldOn limits S :=
  hp.push (p.giveUp_events depth limits.maxSteps) fun _ => ⟨_, hx, rfl, if_pos hv⟩

theorem accept (hp : p.ToldOn limits S) : p.accept.ToldOn limits S := hp

end Progress.ToldOn

/-- No arrival is missed: whatever the search tells of forms and of its budget, it tells on one. -/
theorem Runs.toldOn {S : Arrival → Prop} (h : Runs g limits target room depth task p r)
    (hp : p.ToldOn limits S) (hS : ∀ x, Arrives g limits target room depth task p x → S x) :
    r.ToldOn limits S := by
  induction h with
  | spent hv => exact hp.giveUp hv (hS _ .here)
  | found hv ht => exact (hp.reach hv (hS _ .here)).accept
  | missed hv hf hne => exact hp.reach hv (hS _ .here)
  | tooDeep hv hf => exact (hp.reach hv (hS _ .here)).cut id
  | tooLong hv hf hl => exact (hp.reach hv (hS _ .here)).cut id
  | noRules hv hf hl ha => exact (hp.reach hv (hS _ .here)).note id
  | expand hv hf hl ha hq ih =>
    exact ih (hp.reach hv (hS _ .here)) fun x hx => hS x (.expand hv hf hl hx)
  | failed => exact hp
  | succeeded hq hacc ih => exact (ih (hp.note id) fun x hx => hS x (.first hx)).note id
  | stopped hq hacc hex ih => exact ih (hp.note id) fun x hx => hS x (.first hx)
  | next hq hacc hex hr ihq ihr =>
    refine ihr (ihq (hp.note id) fun x hx => hS x (.first hx)) fun x hx => hS x ?_
    exact .later hq.result_self hacc hex hx

def ArrivesFrom (g : Grammar) (limits : Limits) (start : Char) (target : Form) (x : Arrival) : Prop :=
  Arrives g limits target (limits.maxDepth + 1) 0 (.visit [start]) .initial x

end Search

namespace Grammar

open Search (ArrivesFrom)

/-- On every arrival the depth is at most the number of forms visited, and this number at most the budget.
Both are increased only while the budget lasts, so with a budget that fits in 64 bits their successors fit
too. All that the search tells of forms and of its budget it tells on these arrivals. -/
theorem counters_fit_words (g : Grammar) (limits : Limits) (start : Char) (target : Form) :
    (∀ x, ArrivesFrom g limits start target x →
      x.depth ≤ x.state.visited ∧ x.state.visited ≤ limits.maxSteps) ∧
    (limits.maxSteps ≤ 2 ^ 64 - 1 → ∀ x, ArrivesFrom g limits start target x →
      x.state.visited < limits.maxSteps →
        x.state.visited + 1 ≤ 2 ^ 64 - 1 ∧ x.depth + 1 ≤ 2 ^ 64 - 1) ∧
    ∀ before e after, (Search.run g limits start target).events.toList = before ++ e :: after →
      e.action.IsArrival →
      ∃ x, ArrivesFrom g limits start target x ∧ x.state.events.toList = before ∧
        x.event limits = e := by
  have hcounted (x : Search.Arrival) (hx : ArrivesFrom g limits start target x) :
      x.depth ≤ x.state.visited ∧ x.state.visited ≤ limits.maxSteps :=
    hx.counted ⟨Nat.le_refl 0, Nat.zero_le _⟩
  refine ⟨hcounted, ?_, ?_⟩
  · intro hwords x hx hv
    obtain ⟨hdepth, -⟩ := hcounted x hx
    omega
  · intro before e after he
    have htold : (Search.run g limits start target).ToldOn limits (ArrivesFrom g limits start target) :=
      (Search.runs_run g limits start target).toldOn Search.Progress.ToldOn.initial fun _ hx => hx
    apply htold before e
    exact ⟨after, by rw [he, List.append_assoc, List.singleton_append]⟩

/-- With the greatest limits, the search arrives at the second alternative of `A` after the first has
failed, and tells the form that it makes. -/
theorem counters_fit_words_after_failure :
    let g := empty 'S' |>.extend 'S' [['a', 'A']] |>.extend 'A' [['b'], ['c']]
    let limits : Limits := ⟨2 ^ 64 - 1, 2 ^ 64 - 1, 2 ^ 64 - 1⟩
    let p := Search.Progress.initial.reach 0 ['S'] |>.note 0 (.trying 'S' ['a', 'A'])
      |>.reach 1 ['a', 'A'] |>.note 1 (.trying 'A' ['b']) |>.reach 2 ['a', 'b']
      |>.note 1 (.trying 'A' ['c'])
    ArrivesFrom g limits 'S' ['a', 'c'] ⟨2, ['a', 'c'], p⟩ ∧
    2 ≤ p.visited ∧ p.visited ≤ 2 ^ 64 - 1 ∧ p.visited < 2 ^ 64 - 1 ∧
    p.visited + 1 ≤ 2 ^ 64 - 1 ∧ 2 + 1 ≤ 2 ^ 64 - 1 ∧
    (Search.run g limits 'S' ['a', 'c']).events.toList =
      p.events.toList ++ ⟨2, .reached ['a', 'c']⟩ ::
        [⟨1, .replaced 'A' ['c'] ['a', 'c']⟩, ⟨0, .replaced 'S' ['a', 'A'] ['a', 'A']⟩] ∧
    ∃ x, ArrivesFrom g limits 'S' ['a', 'c'] x ∧ x.state.events.toList = p.events.toList ∧
      x.event limits = ⟨2, .reached ['a', 'c']⟩ := by
  intro g limits p
  let q := Search.Progress.initial.reach 0 ['S'] |>.note 0 (.trying 'S' ['a', 'A'])
  have hS : Form.leftmost? ['S'] = some ⟨[], 'S', []⟩ := by decide
  have hA : Form.leftmost? ['a', 'A'] = some ⟨['a'], 'A', []⟩ := by decide
  have hfailed : Search.explore g limits ['a', 'c'] (2 ^ 64 - 2) 2 ['a', 'b']
      ((q.reach 1 ['a', 'A']).note 1 (.trying 'A' ['b'])) = _ :=
    Search.explore_of_finished (by decide) (by decide)
  have hsecond : Search.Arrives g limits ['a', 'c'] (2 ^ 64 - 2 + 1) 1 (.visit ['a', 'A']) q
      ⟨2, ['a', 'c'], p⟩ := .expand (by decide) hA (by decide) (.later hfailed rfl rfl (.first .here))
  have hx : ArrivesFrom g limits 'S' ['a', 'c'] ⟨2, ['a', 'c'], p⟩ :=
    .expand (by decide) hS (by decide) (.first hsecond)
  have hv : p.visited < 2 ^ 64 - 1 := by decide
  have htold : (Search.run g limits 'S' ['a', 'c']).events.toList =
      p.events.toList ++ ⟨2, .reached ['a', 'c']⟩ ::
        [⟨1, .replaced 'A' ['c'] ['a', 'c']⟩, ⟨0, .replaced 'S' ['a', 'A'] ['a', 'A']⟩] := by
    decide +kernel
  obtain ⟨hcounted, hfit, harrival⟩ := counters_fit_words g limits 'S' ['a', 'c']
  obtain ⟨hdepth, hbudget⟩ := hcounted _ hx
  obtain ⟨hsteps, hdeeper⟩ := hfit (Nat.le_refl _) _ hx hv
  exact ⟨hx, hdepth, hbudget, hv, hsteps, hdeeper, htold, harrival _ _ _ htold trivial⟩

end Grammar

end Sentential
