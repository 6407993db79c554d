import Mathlib.Logic.ExistsUnique
import Sentential.Proofs.Text.Trim
import Sentential.Rule

namespace Sentential.Rule

section Arrows

variable {s t before arrow after before' arrow' after' : Text} {c x : Char}

theorem IsArrow.trimmed (h : IsArrow arrow) : arrow.Trimmed := by
  cases h with
  | ascii =>
    have hdash : Text.isBlank '-' = false := by decide
    have hpoint : Text.isBlank '>' = false := by decide
    exact ⟨by simpa using hdash, by simpa using hpoint⟩
  | sign => exact Text.trimmed_singleton (by decide)

theorem IsArrow.ne_nil (h : IsArrow arrow) : arrow ≠ [] := by cases h <;> simp

/-- Where an arrow begins, the first character tells which one it is. -/
theorem IsArrow.eq_of_append_eq (h : IsArrow arrow) (h' : IsArrow arrow')
    (he : arrow ++ after = arrow' ++ after') : arrow = arrow' := by
  cases h <;> cases h' <;> simp at he ⊢

theorem ArrowFree.of_infix (h : ArrowFree t) (hs : s <:+: t) : ArrowFree s :=
  fun arrow ha hi => h arrow ha (hi.trans hs)

theorem ArrowFree.trim (h : ArrowFree t) : ArrowFree t.trim := by
  obtain ⟨u, v, -, -, ht⟩ := Text.exists_blanks_trim_blanks t
  exact h.of_infix ⟨u, v, ht.symm⟩

theorem arrowFree_of_not_mem (hd : '-' ∉ t) (hr : '→' ∉ t) : ArrowFree t := by
  intro arrow ha hi
  cases ha with
  | ascii => exact hd (hi.subset List.mem_cons_self)
  | sign => exact hr (hi.subset List.mem_cons_self)

theorem arrowFree_blanks_cons {u v : Text} (hx : isNonterminal x)
    (hu : ∀ c ∈ u, Text.isBlank c) (hv : ∀ c ∈ v, Text.isBlank c) : ArrowFree (u ++ x :: v) := by
  have hnot {c : Char} (hc : isNonterminal c = false) (hcb : ¬ Text.isBlank c) :
      c ∉ u ++ x :: v := by
    rw [List.mem_append, List.mem_cons]
    rintro (hm | hm | hm)
    · exact hcb (hu c hm)
    · exact ne_of_isNonterminal hx hc hm.symm
    · exact hcb (hv c hm)
  exact arrowFree_of_not_mem (hnot (by decide) (by decide)) (hnot (by decide) (by decide))

theorem arrow_isPrefix_cons_iff :
    (∃ arrow, IsArrow arrow ∧ arrow <+: c :: t) ↔ c = '→' ∨ c = '-' ∧ t.head? = some '>' := by
  constructor
  · intro h
    obtain ⟨arrow, ha, after, h⟩ := h
    cases ha with
    | ascii =>
      obtain ⟨rfl, rfl⟩ := List.cons_eq_cons.mp h
      exact .inr ⟨rfl, rfl⟩
    | sign => exact .inl (List.cons_eq_cons.mp h).1.symm
  · rintro (rfl | ⟨rfl, h⟩)
    · exact ⟨_, .sign, t, rfl⟩
    · obtain ⟨tail, rfl⟩ := List.head?_eq_some_iff.mp h
      exact ⟨_, .ascii, tail, rfl⟩

theorem arrowFree_cons_iff :
    ArrowFree (c :: t) ↔ (¬ ∃ arrow, IsArrow arrow ∧ arrow <+: c :: t) ∧ ArrowFree t := by
  simp only [ArrowFree, List.infix_cons_iff, not_or, not_exists, not_and, ← forall_and]

theorem IsArrow.firstArrow (h : IsArrow arrow) (after : Text) :
    FirstArrow (arrow ++ after) [] arrow after :=
  ⟨h, rfl, fun _ _ _ _ _ => Nat.zero_le _⟩

theorem FirstArrow.cons (h : FirstArrow t before arrow after)
    (hc : ¬ ∃ arrow, IsArrow arrow ∧ arrow <+: c :: t) :
    FirstArrow (c :: t) (c :: before) arrow after := by
  refine ⟨h.isArrow, congrArg (c :: ·) h.parts, ?_⟩
  intro before' arrow' after' ha ht
  cases before' with
  | nil => exact absurd ⟨arrow', ha, after', ht.symm⟩ hc
  | cons b before' =>
    have ht : t = before' ++ arrow' ++ after' := (List.cons_eq_cons.mp ht).2
    exact Nat.succ_le_succ (h.first before' arrow' after' ha ht)

theorem FirstArrow.isInfix (h : FirstArrow t before arrow after) : arrow <:+: t :=
  ⟨before, after, h.parts.symm⟩

theorem ArrowFree.firstArrow (h : ArrowFree before) (ha : IsArrow arrow) (after : Text) :
    FirstArrow (before ++ arrow ++ after) before arrow after := by
  induction before with
  | nil => exact ha.firstArrow after
  | cons c rest ih =>
    obtain ⟨hc, hrest⟩ := arrowFree_cons_iff.mp h
    refine (ih hrest).cons ?_
    rw [arrow_isPrefix_cons_iff] at hc ⊢
    -- a dash at the end meets the first character of the arrow, and no new arrow arises
    cases rest with
    | nil => cases ha <;> simpa using hc
    | cons b rest => exact hc

theorem FirstArrow.arrowFree (h : FirstArrow t before arrow after) : ArrowFree before := by
  intro arrow' ha hi
  -- an arrow inside `before` would begin in front of the first one
  obtain ⟨u, v, hb⟩ := hi
  have ht : t = u ++ arrow' ++ (v ++ arrow ++ after) := by
    rw [h.parts, ← hb]
    simp only [List.append_assoc]
  have hle := h.first u arrow' _ ha ht
  have hpos := List.length_pos_iff.mpr ha.ne_nil
  rw [← hb, List.length_append, List.length_append] at hle
  omega

theorem FirstArrow.unique (h : FirstArrow t before arrow after)
    (h' : FirstArrow t before' arrow' after') :
    before = before' ∧ arrow = arrow' ∧ after = after' := by
  have hlen : before.length = before'.length :=
    Nat.le_antisymm (h.first _ _ _ h'.isArrow h'.parts) (h'.first _ _ _ h.isArrow h.parts)
  have hparts : before ++ (arrow ++ after) = before' ++ (arrow' ++ after') := by
    rw [← List.append_assoc, ← List.append_assoc, ← h.parts, ← h'.parts]
  obtain ⟨hbefore, hrest⟩ := List.append_inj hparts hlen
  obtain rfl := h.isArrow.eq_of_append_eq h'.isArrow hrest
  exact ⟨hbefore, rfl, List.append_cancel_left hrest⟩

end Arrows

section Scan

variable {t before arrow after : Text} {c : Char}

theorem splitAtArrow?_cons_of_not_isPrefix (hc : ¬ ∃ arrow, IsArrow arrow ∧ arrow <+: c :: t) :
    splitAtArrow? (c :: t) = (splitAtArrow? t).map fun (before, after) => (c :: before, after) := by
  rw [arrow_isPrefix_cons_iff, not_or] at hc
  rw [splitAtArrow?.eq_def]
  split
  · next h => cases h
  · next h =>
    cases h
    exact absurd rfl hc.1
  · next h =>
    cases h
    exact absurd ⟨rfl, rfl⟩ hc.2
  · next h =>
    cases h
    rfl

theorem IsArrow.splitAtArrow?_append (h : IsArrow arrow) (after : Text) :
    splitAtArrow? (arrow ++ after) = some ([], after) := by
  cases h <;> rfl

theorem exists_firstArrow (h : splitAtArrow? t = some (before, after)) :
    ∃ arrow, FirstArrow t before arrow after := by
  induction t generalizing before with
  | nil => cases h
  | cons c rest ih =>
    by_cases hc : ∃ arrow, IsArrow arrow ∧ arrow <+: c :: rest
    · obtain ⟨arrow, ha, after', hp⟩ := hc
      rw [← hp, ha.splitAtArrow?_append] at h
      obtain ⟨rfl, rfl⟩ := Prod.mk.inj (Option.some.inj h)
      exact ⟨arrow, hp ▸ ha.firstArrow after'⟩
    · rw [splitAtArrow?_cons_of_not_isPrefix hc] at h
      obtain ⟨⟨b, a⟩, hs, he⟩ := Option.map_eq_some_iff.mp h
      obtain ⟨rfl, rfl⟩ := Prod.mk.inj he
      obtain ⟨arrow, hfirst⟩ := ih hs
      exact ⟨arrow, hfirst.cons hc⟩

theorem splitAtArrow?_eq_none_iff : splitAtArrow? t = none ↔ ArrowFree t := by
  constructor
  · intro h
    induction t with
    | nil => exact arrowFree_of_not_mem List.not_mem_nil List.not_mem_nil
    | cons c rest ih =>
      by_cases hc : ∃ arrow, IsArrow arrow ∧ arrow <+: c :: rest
      · obtain ⟨arrow, ha, after, hp⟩ := hc
        rw [← hp, ha.splitAtArrow?_append] at h
        cases h
      · rw [splitAtArrow?_cons_of_not_isPrefix hc] at h
        exact arrowFree_cons_iff.mpr ⟨hc, ih (Option.map_eq_none_iff.mp h)⟩
  · intro h
    cases hs : splitAtArrow? t with
    | none => rfl
    | some sides =>
      obtain ⟨arrow, hfirst⟩ := exists_firstArrow hs
      exact absurd hfirst.isInfix (h arrow hfirst.isArrow)

theorem FirstArrow.splitAtArrow?_eq (h : FirstArrow t before arrow after) :
    splitAtArrow? t = some (before, after) := by
  cases hs : splitAtArrow? t with
  | none => exact absurd h.isInfix (splitAtArrow?_eq_none_iff.mp hs arrow h.isArrow)
  | some sides =>
    obtain ⟨arrow', hfirst⟩ := exists_firstArrow hs
    obtain ⟨rfl, -, rfl⟩ := hfirst.unique h
    rfl

end Scan

section Sides

variable {line left right before arrow after : Text} {c : Char}

theorem sides?_eq_none_iff : sides? line = none ↔ ArrowFree line := by
  rw [sides?, Option.map_eq_none_iff, splitAtArrow?_eq_none_iff]

theorem sides?_eq_some_iff :
    sides? line = some (left, right) ↔
      ∃ before arrow after, FirstArrow line before arrow after ∧
        left = before.trim ∧ right = after.trim := by
  rw [sides?, Option.map_eq_some_iff]
  constructor
  · intro h
    obtain ⟨⟨before, after⟩, hs, he⟩ := h
    obtain ⟨rfl, rfl⟩ := Prod.mk.inj he
    obtain ⟨arrow, hfirst⟩ := exists_firstArrow hs
    exact ⟨before, arrow, after, hfirst, rfl, rfl⟩
  · intro h
    obtain ⟨before, arrow, after, hfirst, rfl, rfl⟩ := h
    exact ⟨(before, after), hfirst.splitAtArrow?_eq, rfl⟩

theorem sides?_append_arrow (hb : ArrowFree before) (ha : IsArrow arrow) (after : Text) :
    sides? (before ++ arrow ++ after) = some (before.trim, after.trim) :=
  sides?_eq_some_iff.mpr ⟨before, arrow, after, hb.firstArrow ha after, rfl, rfl⟩

theorem sides?_trim_append_arrow (hb : ArrowFree before) (ha : IsArrow arrow) (after : Text) :
    sides? (Text.trim (before ++ arrow ++ after)) = some (before.trim, after.trim) := by
  have hsuffix : Text.trimStart before <:+ before := List.dropWhile_suffix Text.isBlank
  rw [Text.trim_append_append ha.trimmed ha.ne_nil,
    sides?_append_arrow (hb.of_infix hsuffix.isInfix) ha, Text.trim_trimStart, Text.trim_trimEnd]

theorem mem_of_sides? (h : sides? line = some (left, right)) (hc : c ∈ right) : c ∈ line := by
  obtain ⟨before, arrow, after, hfirst, -, rfl⟩ := sides?_eq_some_iff.mp h
  rw [hfirst.parts]
  exact List.mem_append_right _ (Text.mem_of_mem_trim hc)

theorem sides?_append_arrow_of_sides? (h : sides? line = some (left, right)) (ha : IsArrow arrow)
    (after : Text) : sides? (left ++ arrow ++ after) = some (left, after.trim) := by
  obtain ⟨before, arrow', after', hfirst, rfl, -⟩ := sides?_eq_some_iff.mp h
  rw [sides?_append_arrow hfirst.arrowFree.trim ha, Text.trim_of_trimmed (Text.trimmed_trim before)]

/-- A line has two sides unless it has no arrow. It is divided at the one arrow that begins in front of
all others, the sides are trimmed, and no arrow is left on the left side. Either arrow divides it alike,
and the sides with an arrow between them are found again. -/
theorem sides?_divides_at_first_arrow (line : Text) :
    (sides? line = none ↔ ArrowFree line) ∧
    (¬ ArrowFree line → ∃! parts : Text × Text × Text,
      FirstArrow line parts.1 parts.2.1 parts.2.2) ∧
    (∀ before arrow after, FirstArrow line before arrow after →
      sides? line = some (before.trim, after.trim) ∧ ArrowFree before.trim ∧
      ∀ arrow', IsArrow arrow' → sides? (before ++ arrow' ++ after) = sides? line) ∧
    ∀ left right, sides? line = some (left, right) →
      sides? (left ++ ['-', '>'] ++ right) = some (left, right) := by
  refine ⟨sides?_eq_none_iff, ?_, ?_, ?_⟩
  · intro h
    obtain ⟨⟨left, right⟩, hs⟩ := Option.ne_none_iff_exists'.mp (mt sides?_eq_none_iff.mp h)
    obtain ⟨before, arrow, after, hfirst, -, -⟩ := sides?_eq_some_iff.mp hs
    refine ⟨(before, arrow, after), hfirst, fun parts hparts => ?_⟩
    obtain ⟨hb, ha, hc⟩ := hparts.unique hfirst
    exact Prod.ext hb (Prod.ext ha hc)
  · intro before arrow after hfirst
    have hfree := hfirst.arrowFree
    have hs : sides? line = some (before.trim, after.trim) :=
      sides?_eq_some_iff.mpr ⟨before, arrow, after, hfirst, rfl, rfl⟩
    exact ⟨hs, hfree.trim, fun arrow' ha => (sides?_append_arrow hfree ha after).trans hs.symm⟩
  · intro left right hs
    obtain ⟨before, arrow, after, -, -, rfl⟩ := sides?_eq_some_iff.mp hs
    rw [sides?_append_arrow_of_sides? hs .ascii, Text.trim_of_trimmed (Text.trimmed_trim after)]

/-- A dash in front of an arrow and an arrow behind it stay where they are. -/
example : sides? "A-→>b->c".toList = some ("A-".toList, ">b->c".toList) := by decide

end Sides

end Sentential.Rule
