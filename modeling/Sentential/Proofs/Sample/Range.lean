import Sentential.Proofs.Sample.Language

namespace Sentential

namespace RandomSource

/-- The least word that chooses `i` among `n`. -/
def wordFor (n i : Nat) : UInt32 := .ofNat ((i * UInt32.size + n - 1) / n)

theorem toNat_wordFor_mul {n i : Nat} (hi : i < n) (hn : n < UInt32.size) :
    ∃ d < n, (wordFor n i).toNat * n = i * UInt32.size + d := by
  have hdiv := Nat.div_add_mod (i * UInt32.size + n - 1) n
  have hmod := Nat.mod_lt (i * UInt32.size + n - 1) (Nat.zero_lt_of_lt hi)
  have hle : (i + 1) * UInt32.size ≤ n * UInt32.size := Nat.mul_le_mul_right _ hi
  rw [Nat.succ_mul] at hle
  have hlt : (i * UInt32.size + n - 1) / n < UInt32.size := by
    apply Nat.lt_of_mul_lt_mul_left (a := n)
    omega
  have hword : (wordFor n i).toNat = (i * UInt32.size + n - 1) / n :=
    UInt32.toNat_ofNat_of_lt hlt
  -- the quotient is rounded up, which makes the product larger by less than `n`
  refine ⟨n - 1 - (i * UInt32.size + n - 1) % n, by omega, ?_⟩
  rw [hword, Nat.mul_comm]
  omega

theorem indexOf_wordFor {n i : Nat} (hi : i < n) (hn : n < UInt32.size) :
    indexOf n (wordFor n i) = i := by
  obtain ⟨d, hd, hw⟩ := toNat_wordFor_mul hi hn
  rw [indexOf, hw, Nat.mul_comm, Nat.mul_add_div (by decide), Nat.div_eq_of_lt (by omega),
    Nat.add_zero]

theorem isFair_wordFor {n i : Nat} (hi : i < n) (hn : n < UInt32.size) :
    isFair n (wordFor n i) = true := by
  obtain ⟨d, hd, hw⟩ := toNat_wordFor_mul hi hn
  have hzone : n ≤ n <<< (31 - n.log2) := by
    rw [Nat.shiftLeft_eq]
    exact Nat.le_mul_of_pos_right n (Nat.two_pow_pos _)
  have hmod : (i * UInt32.size + d) % UInt32.size = d := by
    rw [Nat.mul_add_mod_self_right, Nat.mod_eq_of_lt (Nat.lt_trans hd hn)]
  rw [isFair, hw, hmod, zone]
  exact decide_eq_true (by omega)

def Offers : List UInt32 → RandomSource → Prop
  | [], _ => True
  | w :: words, src => src.next.1 = w ∧ Offers words src.next.2

def skip (src : RandomSource) (count : Nat) : RandomSource := { src with taken := src.taken + count }

theorem skip_skip (src : RandomSource) (m n : Nat) : (src.skip m).skip n = src.skip (m + n) := by
  simp [skip, Nat.add_assoc]

theorem offers_append_iff {words words' : List UInt32} {src : RandomSource} :
    Offers (words ++ words') src ↔ Offers words src ∧ Offers words' (src.skip words.length) := by
  induction words generalizing src with
  | nil => exact (and_iff_right trivial).symm
  | cons w words ih =>
    have hskip : src.next.2.skip words.length = src.skip (words.length + 1) := by
      simp [next, skip, Nat.add_assoc, Nat.add_comm 1]
    rw [List.cons_append, Offers, Offers, ih, hskip, and_assoc, List.length_cons]

theorem offers_ofWords (words : List UInt32) : Offers words (ofWords words) := by
  have h (before after : List UInt32) :
      Offers after ⟨fun i => (before ++ after).getD i 0, before.length⟩ := by
    induction after generalizing before with
    | nil => trivial
    | cons w after ih =>
      refine ⟨by simp [next], ?_⟩
      simpa [next] using ih (before ++ [w])
  exact h [] words

theorem drawIndex_of_isFair {n : Nat} {src : RandomSource} (h : isFair n src.next.1 = true)
    (patience : Nat) : drawIndex n patience src = (indexOf n src.next.1, src.next.2) := by
  cases patience with
  | zero => rfl
  | succ patience => rw [drawIndex, if_pos h]

theorem choose_of_offers {α : Type} {options : List α} {i : Nat} {a : α} {src : RandomSource}
    (hi : options[i]? = some a) (hn : options.length < UInt32.size)
    (h : Offers [wordFor options.length i] src) : src.choose options = (some a, src.skip 1) := by
  have hlt : i < options.length := (List.getElem?_eq_some_iff.mp hi).1
  have hne : options.isEmpty = false :=
    List.isEmpty_eq_false_iff.mpr (List.ne_nil_of_length_pos (by omega))
  have hw : src.next.1 = wordFor options.length i := h.1
  have hdraw : drawIndex options.length patience src = (i, src.next.2) := by
    rw [drawIndex_of_isFair (hw ▸ isFair_wordFor hlt hn), hw, indexOf_wordFor hlt hn]
  rw [choose, hne, hdraw]
  simp only [Bool.false_eq_true, if_false, hi]
  rfl

end RandomSource

def Grammar.wordFor (g : Grammar) (x : Char) (a : Form) : UInt32 :=
  RandomSource.wordFor (g.alternatives x).length ((g.alternatives x).idxOf a)

def Forest.words (g : Grammar) (F : Forest) : List UInt32 :=
  F.choices.map fun (x, a) => g.wordFor x a

theorem Forest.words_node (g : Grammar) (x : Char) (children rest : Forest) :
    (node x children rest).words g =
      (g.wordFor x children.roots :: children.words g) ++ rest.words g := by
  simp [words, choices]

namespace Sampler

open RandomSource (Offers)

variable {g : Grammar} {limit room : Nat} {task : Task} {src src' : RandomSource}

variable (limit) in
theorem symbol_of_offers {x : Char} {children : Forest} {words : List UInt32}
    (ha : children.roots ∈ g.alternatives x) (hn : (g.alternatives x).length < UInt32.size)
    (hgrow : ∀ src, Offers words src → form (symbol g limit room) children.roots src =
      (.ok children, src.skip words.length))
    (h : Offers (g.wordFor x children.roots :: words) src) :
    symbol g limit (room + 1) x src = (.ok children, src.skip (words.length + 1)) := by
  have hi : (g.alternatives x)[(g.alternatives x).idxOf children.roots]? = some children.roots :=
    List.getElem?_idxOf ha
  have hchoose : Sampler.choose (g.alternatives x) src = (.ok (some children.roots), src.skip 1) := by
    rw [Sampler.choose, RandomSource.choose_of_offers hi hn ⟨h.1, trivial⟩]
  rw [symbol, bind_of_ok hchoose]
  exact (hgrow (src.skip 1) h.2).trans (by rw [RandomSource.skip_skip, Nat.add_comm])

variable (limit) in
/-- A source that offers the words for a forest lets it grow, if there is room for it. -/
theorem form_of_offers (hn : ∀ x, (g.alternatives x).length < UInt32.size) {F : Forest}
    (hF : F.Conforms g) (hroom : F.height ≤ room) (h : Offers (F.words g) src) :
    form (symbol g limit room) F.roots src = (.ok F, src.skip (F.words g).length) := by
  induction F generalizing room src with
  | nil => rfl
  | terminal c rest ih =>
    obtain ⟨hc, hrest⟩ := hF
    rw [Forest.roots, form, if_neg (ne_true_of_eq_false hc), bind_pure, ih hrest hroom h]
    rfl
  | node x children rest ihc ih =>
    obtain ⟨hx, ha, hchildren, hrest⟩ := hF
    obtain ⟨hbelow, hbeside⟩ := Nat.max_le.mp hroom
    obtain ⟨room, rfl⟩ := Nat.exists_eq_add_of_le' (Nat.one_le_of_lt hbelow)
    -- the words of the node and of its children come first, and those of its siblings after them
    rw [Forest.words_node, RandomSource.offers_append_iff] at h
    have hgrow (src : RandomSource) (hc : Offers (children.words g) src) :=
      ihc hchildren (Nat.le_of_succ_le_succ hbelow) hc
    have hexpand := symbol_of_offers limit ha (hn x) hgrow h.1
    rw [Forest.roots, form, if_pos hx, bind_of_ok hexpand, bind_pure]
    have hothers := ih hrest hbeside h.2
    rw [List.length_cons] at hothers
    rw [hothers, RandomSource.skip_skip, Forest.words_node, List.length_append, List.length_cons]
    rfl

def Task.Nests (room : Nat) : Task → Forest → Prop
  | expand _, F => F.height < room
  | grow _, F => F.height ≤ room

theorem Runs.nests {F : Forest} (h : Runs g limit room task src (.ok F) src') :
    task.Nests room F := by
  induction h using Runs.ok_induction with
  | expand _ _ _ ih => exact Nat.lt_succ_of_le ih
  | nil => exact Nat.zero_le _
  | terminal _ _ ih => exact ih
  | node _ _ _ ihb ih => exact Nat.max_le.mpr ⟨ihb, ih⟩

end Sampler

namespace Grammar

variable {g : Grammar} {maxDepth : Nat} {w : Form}

theorem exists_tree_of_sample {src : RandomSource} (h : (g.sample maxDepth src).1 = .ok w) :
    ∃ T : Forest, T.IsTree g g.start ∧ T.height ≤ maxDepth ∧ T.yield = w := by
  obtain ⟨children, rfl, hr⟩ := exists_runs_of_sample h
  obtain ⟨hroots, hconf⟩ := hr.conforms
  refine ⟨.node g.start children .nil, ⟨children, rfl, hroots, hconf⟩, ?_, ?_⟩
  · exact Nat.max_le.mpr ⟨hr.nests, Nat.zero_le _⟩
  · exact List.append_nil children.yield

theorem sample_of_tree (hn : ∀ x, (g.alternatives x).length < UInt32.size) {T : Forest}
    (hT : T.IsTree g g.start) (hm : T.height ≤ maxDepth) :
    (g.sample maxDepth (.ofWords (T.words g))).1 = .ok T.yield := by
  obtain ⟨children, rfl, ha, hchildren⟩ := hT
  obtain ⟨hbelow, -⟩ := Nat.max_le.mp hm
  obtain ⟨room, rfl⟩ := Nat.exists_eq_add_of_le' (Nat.one_le_of_lt hbelow)
  have h := RandomSource.offers_ofWords ((Forest.node g.start children .nil).words g)
  rw [Forest.words_node, RandomSource.offers_append_iff, ← Forest.words_node] at h
  have hgrow (src : RandomSource) (hc : RandomSource.Offers (children.words g) src) :=
    Sampler.form_of_offers (room + 1) hn hchildren (Nat.le_of_succ_le_succ hbelow) hc
  rw [sample, sampleForest, Sampler.symbol_of_offers (room + 1) ha (hn g.start) hgrow h.1]
  exact congrArg Except.ok (List.append_nil children.yield).symm

/-- A sentence can be sampled, by some words and zeros after them, if and only if it is the yield of a
tree in which no more expansions nest than allowed. -/
theorem exists_words_iff_exists_tree (hn : ∀ x, (g.alternatives x).length < UInt32.size) :
    (∃ words, (g.sample maxDepth (.ofWords words)).1 = .ok w) ↔
      ∃ T : Forest, T.IsTree g g.start ∧ T.height ≤ maxDepth ∧ T.yield = w := by
  constructor
  · intro h
    obtain ⟨words, hw⟩ := h
    exact exists_tree_of_sample hw
  · intro h
    obtain ⟨T, hT, hm, rfl⟩ := h
    exact ⟨T.words g, sample_of_tree hn hT hm⟩

/-- The nesting is as deep as allowed, and the two `C` are expanded differently. -/
theorem exists_words_of_deepest_tree :
    let children : Forest := .node 'A' (.node 'C' (.terminal 'c' (.terminal 'b' .nil))
      (.terminal 'a' .nil)) (.node 'B' (.node 'C' .nil (.terminal 'b' .nil)) .nil)
    let T : Forest := .node 'S' children .nil
    (∀ x, (demonstration.alternatives x).length < UInt32.size) ∧
    T.IsTree demonstration demonstration.start ∧ T.height ≤ 3 ∧ T.yield = ['c', 'b', 'a', 'b'] ∧
    ∃ words, (demonstration.sample 3 (.ofWords words)).1 = .ok ['c', 'b', 'a', 'b'] := by
  intro children T
  have hn (x : Char) : (demonstration.alternatives x).length < UInt32.size := by
    have hentries : ∀ e ∈ demonstration.rules.entries, e.2.length < UInt32.size := by decide
    exact RuleTable.alternatives_of_entries (P := (·.length < UInt32.size)) (by decide) hentries x
  have hT : T.IsTree demonstration demonstration.start := ⟨children, rfl, by decide, by decide⟩
  have hm : T.height ≤ 3 := by decide
  exact ⟨hn, hT, hm, rfl, (exists_words_iff_exists_tree hn).mpr ⟨T, hT, hm, rfl⟩⟩

end Grammar

end Sentential
