import Mathlib.Data.Set.Card
import Sentential.Proofs.Search.Extent

namespace Sentential

namespace Grammar

/-- The nodes of the leftmost tree below a form, each named by the moves that lead to it. An
alternative that comes twice makes two moves. -/
def leftmostTree (g : Grammar) (f : Form) : Set (List Move) := {moves | ∃ t, g.Leftmost moves f t}

/-- The nodes to which at most `room` moves lead, in the order in which a search comes to them. -/
def pathsWithin (g : Grammar) : (room : Nat) → Form → List (List Move)
  | 0, _ => [[]]
  | room + 1, f =>
    match f.leftmost? with
    | none => [[]]
    | some focus =>
      [] :: (g.alternatives focus.symbol).zipIdx.flatMap fun (a, i) =>
        (pathsWithin g room (focus.fill a)).map (⟨focus, i, a⟩ :: ·)

variable {g : Grammar} {f t : Form} {focus : Form.Focus} {moves : List Move} {room k : Nat}

theorem nil_mem_leftmostTree : [] ∈ g.leftmostTree f := ⟨f, .done f⟩

theorem cons_mem_leftmostTree_iff {m : Move} : m :: moves ∈ g.leftmostTree f ↔
    f.leftmost? = some m.focus ∧ (g.alternatives m.focus.symbol)[m.index]? = some m.alternative ∧
      moves ∈ g.leftmostTree m.result := by
  constructor
  · intro h
    obtain ⟨t, ht⟩ := h
    cases ht with
    | move hf ha hrest => exact ⟨hf, ha, t, hrest⟩
  · intro h
    obtain ⟨hf, ha, t, hrest⟩ := h
    exact ⟨t, .move hf ha hrest⟩

theorem mem_pathsWithin_iff :
    moves ∈ g.pathsWithin room f ↔ moves.length ≤ room ∧ moves ∈ g.leftmostTree f := by
  induction room generalizing f moves with
  | zero =>
    rw [pathsWithin, List.mem_singleton, Nat.le_zero, List.length_eq_zero_iff]
    exact ⟨fun h => ⟨h, h ▸ nil_mem_leftmostTree⟩, fun h => h.1⟩
  | succ room ih =>
    cases moves with
    | nil =>
      rw [pathsWithin]
      split <;> simp [nil_mem_leftmostTree]
    | cons m rest =>
      rw [pathsWithin, cons_mem_leftmostTree_iff]
      split
      · next hf => simp [hf]
      · next focus hf =>
        simp only [List.mem_cons, reduceCtorEq, false_or, List.mem_flatMap, Prod.exists,
          List.mem_map, ih, List.mk_mem_zipIdx_iff_getElem?, List.length_cons,
          Nat.add_le_add_iff_right, hf, Option.some.injEq]
        constructor
        · intro h
          obtain ⟨a, i, hi, moves, ⟨hlen, hm⟩, he⟩ := h
          obtain ⟨rfl, rfl⟩ := List.cons_eq_cons.mp he
          exact ⟨hlen, rfl, hi, hm⟩
        · intro h
          obtain ⟨hlen, rfl, ha, hm⟩ := h
          exact ⟨m.alternative, m.index, ha, rest, ⟨hlen, hm⟩, rfl⟩

theorem nodup_pathsWithin (g : Grammar) (room : Nat) (f : Form) : (g.pathsWithin room f).Nodup := by
  induction room generalizing f with
  | zero => exact List.nodup_singleton []
  | succ room ih =>
    rw [pathsWithin]
    split
    · exact List.nodup_singleton []
    · next focus hf =>
      refine List.nodup_cons.mpr ⟨by simp, List.nodup_flatMap.mpr ⟨?_, ?_⟩⟩
      · intro p _
        exact (ih _).map (List.cons_injective)
      · -- the paths of two alternatives differ in the index of their first move
        have hidx : (g.alternatives focus.symbol).zipIdx.Pairwise fun p q => p.2 ≠ q.2 := by
          apply List.pairwise_map.mp
          rw [List.zipIdx_map_snd]
          exact List.nodup_range'
        refine hidx.imp fun {p q} hne moves hp hq => ?_
        obtain ⟨rest, -, rfl⟩ := List.mem_map.mp hp
        obtain ⟨rest', -, he⟩ := List.mem_map.mp hq
        exact hne (congrArg Move.index (List.cons_eq_cons.mp he).1).symm

theorem length_pathsWithin (g : Grammar) (room : Nat) (f : Form) :
    (g.pathsWithin room f).length = Search.extent g room f := by
  induction room generalizing f with
  | zero => rfl
  | succ room ih =>
    rw [pathsWithin, Search.extent]
    cases hf : f.leftmost? with
    | none => rfl
    | some focus =>
      have hfst : (g.alternatives focus.symbol).zipIdx.map Prod.fst = g.alternatives focus.symbol :=
        List.zipIdx_map_fst ..
      simp only [List.length_cons, List.length_flatMap, List.length_map, ih]
      rw [Nat.add_comm]
      conv_rhs => rw [← hfst, List.map_map]
      rfl

/-- A tree of which no node is deeper than `room` is finite, and its nodes are counted by their
extent. -/
theorem ncard_leftmostTree (h : ∀ moves ∈ g.leftmostTree f, moves.length ≤ room) :
    (g.leftmostTree f).Finite ∧ (g.leftmostTree f).ncard = Search.extent g room f := by
  have heq : g.leftmostTree f = ↑(g.pathsWithin room f).toFinset := by
    ext moves
    rw [Finset.mem_coe, List.mem_toFinset, mem_pathsWithin_iff]
    exact (and_iff_right_of_imp (h moves)).symm
  rw [heq, Set.ncard_coe_finset, List.toFinset_card_of_nodup (nodup_pathsWithin g room f),
    length_pathsWithin]
  exact ⟨Finset.finite_toSet _, rfl⟩

/-- Fewer than `room` moves lead to an unfinished node of the tree, and it has at most `k`
symbols. -/
def TreeFits (g : Grammar) (room k : Nat) (f : Form) : Prop :=
  ∀ moves t, g.Leftmost moves f t → ¬ t.Finished → moves.length < room ∧ t.length ≤ k

theorem treeFits_of_finished (hf : f.Finished) : g.TreeFits room k f := by
  intro moves t hm ht
  rw [← hm.eq_of_finished hf] at ht
  exact absurd hf ht

theorem treeFits_iff_of_leftmost (hf : f.leftmost? = some focus) :
    g.TreeFits room k f ↔ ∃ room', room = room' + 1 ∧ f.length ≤ k ∧
      ∀ a ∈ g.alternatives focus.symbol, g.TreeFits room' k (focus.fill a) := by
  have hunfinished : ¬ f.Finished := by
    rw [← Form.leftmost?_eq_none_iff, hf]
    exact Option.some_ne_none focus
  constructor
  · intro h
    obtain ⟨hpos, hlen⟩ := h [] f (.done f) hunfinished
    refine ⟨room - 1, (Nat.sub_add_cancel hpos).symm, hlen, fun a ha moves t hm ht => ?_⟩
    obtain ⟨i, hi⟩ := List.mem_iff_getElem?.mp ha
    obtain ⟨hroom, hk⟩ := h (⟨focus, i, a⟩ :: moves) t (.move hf hi hm) ht
    rw [List.length_cons] at hroom
    exact ⟨by omega, hk⟩
  · intro h moves t hm ht
    obtain ⟨room, rfl, hlen, hall⟩ := h
    cases hm with
    | done => exact ⟨Nat.succ_pos room, hlen⟩
    | move hm ha hrest =>
      obtain rfl := Option.some.inj (hm.symm.trans hf)
      obtain ⟨hroom, hk⟩ := hall _ (List.mem_of_getElem? ha) _ _ hrest ht
      exact ⟨Nat.succ_lt_succ hroom, hk⟩

theorem TreeFits.length_le (h : g.TreeFits room k f) (hm : g.Leftmost moves f t) :
    moves.length ≤ room := by
  induction hm generalizing room with
  | done => exact Nat.zero_le room
  | move hf ha _ ih =>
    obtain ⟨room, rfl, -, hall⟩ := (treeFits_iff_of_leftmost hf).mp h
    exact Nat.succ_le_succ (ih (hall _ (List.mem_of_getElem? ha)))

theorem TreeFits.ncard (h : g.TreeFits room k f) :
    (g.leftmostTree f).Finite ∧ (g.leftmostTree f).ncard = Search.extent g room f := by
  refine ncard_leftmostTree fun moves hm => ?_
  obtain ⟨t, ht⟩ := hm
  exact h.length_le ht

end Grammar

namespace Search

/-- The trees below the forms of a task keep within the limits. -/
def Task.Fits (g : Grammar) (room k : Nat) : Task → Prop
  | visit form => g.TreeFits room k form
  | tryAll focus alternatives => ∀ a ∈ alternatives, g.TreeFits room k (focus.fill a)

variable {g : Grammar} {limits : Limits} {target form : Form} {room depth : Nat} {task : Task}
  {p r : Progress}

/-- A search that fails without pruning anything has gone through the whole tree. -/
theorem Runs.fits_and_visited (h : Runs g limits target room depth task p r) (hp : p.Idle)
    (hr : r.accepted = false) (hu : r.pruned = false) :
    task.Fits g room limits.maxLength ∧ r.visited = p.visited + task.extent g room := by
  induction h with
  | spent hv => cases hu
  | found hv ht => cases hr
  | missed hv hf hne =>
    refine ⟨Grammar.treeFits_of_finished hf, ?_⟩
    rw [Progress.reach_visited, Task.extent, extent_of_finished hf]
  | tooDeep hv hf => cases hu
  | tooLong hv hf hl => cases hu
  | noRules hv hf hl ha =>
    refine ⟨(Grammar.treeFits_iff_of_leftmost hf).mpr ⟨_, rfl, hl, by simp [ha]⟩, ?_⟩
    rw [extent_of_leftmost hf, ha]
    rfl
  | expand hv hf hl ha hq ih =>
    obtain ⟨hfits, hvisited⟩ := ih (hp.reach _ _) hr hu
    refine ⟨(Grammar.treeFits_iff_of_leftmost hf).mpr ⟨_, rfl, hl, hfits⟩, ?_⟩
    rw [hvisited, extent_of_leftmost hf, Progress.reach_visited, Nat.add_assoc]
  | failed => exact ⟨List.forall_mem_nil _, rfl⟩
  | succeeded hq hacc ih => simp [hacc] at hr
  | stopped hq hacc hex ih =>
    -- a spent budget counts as pruning
    have hc := hq.coherent (hp.note _ _)
    simp [hc.pruned_of_exhausted hex] at hu
  | next hq hacc hex hr' ihq ihr =>
    obtain ⟨hfits, hvisited⟩ := ihq (hp.note _ _) hacc (hr'.unpruned hu)
    obtain ⟨hfits', hvisited'⟩ := ihr ⟨hacc, hex⟩ hr hu
    refine ⟨List.forall_mem_cons.mpr ⟨hfits, hfits'⟩, ?_⟩
    rw [hvisited', hvisited, extent_tryAll_cons, Progress.note_visited, Nat.add_assoc]

theorem Runs.visited_le_maxSteps (h : Runs g limits target room depth task p r)
    (hp : p.visited ≤ limits.maxSteps) : r.visited ≤ limits.maxSteps := by
  induction h with
  | spent hv => exact hp
  | found hv ht => exact hv
  | missed hv hf hne => exact hv
  | tooDeep hv hf => exact hv
  | tooLong hv hf hl => exact hv
  | noRules hv hf hl ha => exact hv
  | expand hv hf hl ha hq ih => exact ih hv
  | failed => exact hp
  | succeeded hq hacc ih => exact ih hp
  | stopped hq hacc hex ih => exact ih hp
  | next hq hacc hex hr' ihq ihr => exact ihr (ihq hp)

/-- As long as its budget lasts, a search prunes nothing where the trees keep within the limits. -/
theorem Runs.pruned_eq_false (h : Runs g limits target room depth task p r) (hp : p.pruned = false)
    (hfits : task.Fits g room limits.maxLength) (hx : r.exhausted = false) : r.pruned = false := by
  induction h with
  | spent hv => cases hx
  | found hv ht => exact hp
  | missed hv hf hne => exact hp
  | tooDeep hv hf =>
    obtain ⟨room, hroom, -⟩ := (Grammar.treeFits_iff_of_leftmost hf).mp hfits
    cases hroom
  | tooLong hv hf hl =>
    obtain ⟨-, -, hle, -⟩ := (Grammar.treeFits_iff_of_leftmost hf).mp hfits
    omega
  | noRules hv hf hl ha => exact hp
  | expand hv hf hl ha hq ih =>
    obtain ⟨room, hroom, -, hall⟩ := (Grammar.treeFits_iff_of_leftmost hf).mp hfits
    obtain rfl := Nat.succ.inj hroom
    exact ih hp hall hx
  | failed => exact hp
  | succeeded hq hacc ih => exact ih hp (List.forall_mem_cons.mp hfits).1 hx
  | stopped hq hacc hex ih => exact ih hp (List.forall_mem_cons.mp hfits).1 hx
  | next hq hacc hex hr' ihq ihr =>
    obtain ⟨hfirst, hrest⟩ := List.forall_mem_cons.mp hfits
    exact ihr (ihq hp hfirst hex) hrest hx

end Search

namespace Grammar

/-- Of a search that rejects, nothing was pruned if and only if the leftmost tree is finite, it has no
more nodes than there are steps, and its unfinished nodes keep within the depth and the length. -/
theorem pruned_eq_false_iff_tree_within {g : Grammar} {limits : Limits} {start : Char} {target : Form}
    (hacc : (g.deriveFrom limits start target).accepted = false) :
    (g.deriveFrom limits start target).pruned = false ↔
      (g.leftmostTree [start]).Finite ∧ (g.leftmostTree [start]).ncard ≤ limits.maxSteps ∧
      ∀ moves f, g.Leftmost moves [start] f → ¬ f.Finished →
        moves.length ≤ limits.maxDepth ∧ f.length ≤ limits.maxLength := by
  have hrun := Search.runs_run g limits start target
  have hfits_iff : g.TreeFits (limits.maxDepth + 1) limits.maxLength [start] ↔
      ∀ moves f, g.Leftmost moves [start] f → ¬ f.Finished →
        moves.length ≤ limits.maxDepth ∧ f.length ≤ limits.maxLength := by
    simp only [TreeFits, Nat.lt_succ_iff]
  rw [← hfits_iff]
  constructor
  · intro hu
    obtain ⟨hfits, hvisited⟩ := hrun.fits_and_visited Search.Progress.idle_initial hacc hu
    have hle := hrun.visited_le_maxSteps (Nat.zero_le _)
    obtain ⟨hfin, hcard⟩ := Grammar.TreeFits.ncard hfits
    refine ⟨hfin, ?_, hfits⟩
    have hextent : (Search.run g limits start target).visited =
        Search.extent g (limits.maxDepth + 1) [start] := hvisited.trans (Nat.zero_add _)
    rw [hcard, ← hextent]
    exact hle
  · intro h
    obtain ⟨-, hcard, hfits⟩ := h
    rw [hfits.ncard.2] at hcard
    have hx := hrun.exhausted_eq_false rfl ((Nat.zero_add _).trans_le hcard)
    exact hrun.pruned_eq_false rfl hfits hx

/-- Two alternatives for `A` are the same, so there are five nodes, and every limit is met exactly. -/
theorem tree_within_exact_limits :
    let g := empty 'S' |>.extend 'S' [['a', 'A'], ['b']] |>.extend 'A' [['b'], ['b']]
    (g.deriveFrom ⟨1, 2, 5⟩ 'S' ['x']).accepted = false ∧
    (g.deriveFrom ⟨1, 2, 5⟩ 'S' ['x']).pruned = false ∧
    (g.leftmostTree ['S']).Finite ∧ (g.leftmostTree ['S']).ncard ≤ 5 ∧
    ∀ moves f, g.Leftmost moves ['S'] f → ¬ f.Finished → moves.length ≤ 1 ∧ f.length ≤ 2 := by
  intro g
  have hacc : (g.deriveFrom ⟨1, 2, 5⟩ 'S' ['x']).accepted = false := by decide +kernel
  have hpr : (g.deriveFrom ⟨1, 2, 5⟩ 'S' ['x']).pruned = false := by decide +kernel
  exact ⟨hacc, hpr, (pruned_eq_false_iff_tree_within hacc).mp hpr⟩

end Grammar

end Sentential
