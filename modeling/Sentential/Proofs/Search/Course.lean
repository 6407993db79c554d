import Sentential.Search.Explore

namespace Sentential.Search

inductive Task where
  | visit (form : Form)
  | tryAll (focus : Form.Focus) (alternatives : List Form)

variable (g : Grammar) (limits : Limits) (target : Form)

/-- A task leads from one state of the search to another. `depth` is the number of substitutions
so far, and `room` the number of those that may still follow the next form. There is one constructor
for each thing that can happen at a form or an alternative, and so one case of an invariant. -/
inductive Runs : (room depth : Nat) → Task → Progress → Progress → Prop where
  | spent {room depth form p} :
      limits.maxSteps ≤ p.visited → Runs room depth (.visit form) p (p.giveUp depth limits.maxSteps)
  | found {room depth p} :
      p.visited < limits.maxSteps → target.Finished →
      Runs room depth (.visit target) p (p.reach depth target).accept
  | missed {room depth form p} :
      p.visited < limits.maxSteps → form.Finished → form ≠ target →
      Runs room depth (.visit form) p (p.reach depth form)
  | tooDeep {depth form focus p} :
      p.visited < limits.maxSteps → form.leftmost? = some focus →
      Runs 0 depth (.visit form) p ((p.reach depth form).cut depth (.tooDeep limits.maxDepth))
  | tooLong {room depth form focus p} :
      p.visited < limits.maxSteps → form.leftmost? = some focus → limits.maxLength < form.length →
      Runs (room + 1) depth (.visit form) p
        ((p.reach depth form).cut depth (.tooLong limits.maxLength))
  | noRules {room depth form focus p} :
      p.visited < limits.maxSteps → form.leftmost? = some focus → form.length ≤ limits.maxLength →
      g.alternatives focus.symbol = [] →
      Runs (room + 1) depth (.visit form) p
        ((p.reach depth form).note depth (.noRules focus.symbol))
  | expand {room depth form focus p r} :
      p.visited < limits.maxSteps → form.leftmost? = some focus → form.length ≤ limits.maxLength →
      g.alternatives focus.symbol ≠ [] →
      Runs room depth (.tryAll focus (g.alternatives focus.symbol)) (p.reach depth form) r →
      Runs (room + 1) depth (.visit form) p r
  | failed {room depth focus p} : Runs room depth (.tryAll focus []) p p
  | succeeded {room depth focus a rest p q} :
      Runs room (depth + 1) (.visit (focus.fill a)) (p.note depth (.trying focus.symbol a)) q →
      q.accepted = true →
      Runs room depth (.tryAll focus (a :: rest)) p
        (q.note depth (.replaced focus.symbol a (focus.fill a)))
  | stopped {room depth focus a rest p q} :
      Runs room (depth + 1) (.visit (focus.fill a)) (p.note depth (.trying focus.symbol a)) q →
      q.accepted = false → q.exhausted = true → Runs room depth (.tryAll focus (a :: rest)) p q
  | next {room depth focus a rest p q r} :
      Runs room (depth + 1) (.visit (focus.fill a)) (p.note depth (.trying focus.symbol a)) q →
      q.accepted = false → q.exhausted = false → Runs room depth (.tryAll focus rest) q r →
      Runs room depth (.tryAll focus (a :: rest)) p r

variable {g limits target}

theorem runs_tryEach {room depth : Nat} {visit : Form → Progress → Progress}
    (h : ∀ form p, Runs g limits target room (depth + 1) (.visit form) p (visit form p))
    (focus : Form.Focus) (alternatives : List Form) (p : Progress) :
    Runs g limits target room depth (.tryAll focus alternatives) p
      (tryEach visit depth focus alternatives p) := by
  induction alternatives generalizing p with
  | nil => exact .failed
  | cons a rest ih =>
    have hq := h (focus.fill a) (p.note depth (.trying focus.symbol a))
    rw [tryEach]
    split
    · next hacc => exact .succeeded hq hacc
    · next hacc =>
      have hacc := eq_false_of_ne_true hacc
      split
      · next hex => exact .stopped hq hacc hex
      · next hex => exact .next hq hacc (eq_false_of_ne_true hex) (ih _)

theorem runs_explore (room depth : Nat) (form : Form) (p : Progress) :
    Runs g limits target room depth (.visit form) p
      (explore g limits target room depth form p) := by
  induction room using Nat.strongRecOn generalizing depth form p with
  | _ room ih =>
    rw [explore.eq_def]
    -- the tests in their order: the budget, the finished form, the depth, the length, the rules
    split
    · next h => exact .spent h
    · next h =>
      have hv := Nat.lt_of_not_le h
      simp only
      split
      · next hf =>
        have hfin := Form.leftmost?_eq_none_iff.mp hf
        split
        · next ht =>
          subst ht
          exact .found hv hfin
        · next ht => exact .missed hv hfin ht
      · next focus hf =>
        cases room with
        | zero => exact .tooDeep hv hf
        | succ room =>
          simp only
          split
          · next hl => exact .tooLong hv hf hl
          · next hl =>
            have hl := Nat.le_of_not_lt hl
            have hbelow := ih room (Nat.lt_succ_self room) (depth + 1)
            split
            · next ha => exact .noRules hv hf hl ha
            · next ha => exact .expand hv hf hl ha (runs_tryEach hbelow focus _ _)

theorem runs_run (g : Grammar) (limits : Limits) (start : Char) (target : Form) :
    Runs g limits target (limits.maxDepth + 1) 0 (.visit [start]) .initial
      (run g limits start target) :=
  runs_explore _ _ _ _

/-- All actions that have been told are of one kind. -/
def Progress.Tells (P : Action → Prop) (p : Progress) : Prop := ∀ e ∈ p.events, P e.action

namespace Progress.Tells

variable {P : Action → Prop} {p r : Progress} {depth maxSteps : Nat} {action : Action} {form : Form}

theorem initial : Progress.initial.Tells P := by
  intro e he
  exact absurd he (Array.not_mem_empty e)

theorem push (hp : p.Tells P) {e : Event} (hr : r.events = p.events.push e) (he : P e.action) :
    r.Tells P := by
  intro e' h
  rw [hr, Array.mem_push] at h
  obtain h | rfl := h
  · exact hp e' h
  · exact he

theorem note (hp : p.Tells P) (ha : P action) : (p.note depth action).Tells P :=
  hp.push (p.note_events depth action) ha

theorem reach (hp : p.Tells P) (hf : P (.reached form)) : (p.reach depth form).Tells P :=
  hp.push (p.reach_events depth form) hf

theorem accept (hp : p.Tells P) : p.accept.Tells P := hp

theorem cut (hp : p.Tells P) (ha : P action) : (p.cut depth action).Tells P :=
  hp.push (p.cut_events depth action) ha

theorem giveUp (hp : p.Tells P) (hm : P (.budgetSpent maxSteps)) :
    (p.giveUp depth maxSteps).Tells P :=
  hp.push (p.giveUp_events depth maxSteps) hm

end Progress.Tells

end Sentential.Search
