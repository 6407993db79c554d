import Sentential.Form

namespace Sentential

namespace Text

/-- No blank stands at either end. -/
structure Trimmed (t : Text) : Prop where
  head : ∀ c ∈ t.head?, isBlank c = false
  last : ∀ c ∈ t.getLast?, isBlank c = false

theorem trimmed_iff {t : Text} :
    Trimmed t ↔ t.head?.all (!isBlank ·) ∧ t.getLast?.all (!isBlank ·) := by
  simp only [Option.all_eq_true, Bool.not_eq_true']
  exact ⟨fun h => ⟨h.head, h.last⟩, fun h => ⟨h.1, h.2⟩⟩

instance : DecidablePred Trimmed := fun _ => decidable_of_iff _ trimmed_iff.symm

theorem trimmed_nil : Trimmed [] := ⟨by simp, by simp⟩

theorem trimmed_singleton {c : Char} (hc : isBlank c = false) : Trimmed [c] :=
  ⟨by simpa using hc, by simpa using hc⟩

theorem isBlank_of_mem_space : ∀ c ∈ [' '], isBlank c := List.forall_mem_singleton.mpr (by decide)

theorem trimStart_blanks_append {u t : Text} (hu : ∀ c ∈ u, isBlank c)
    (ht : ∀ c ∈ t.head?, isBlank c = false) : trimStart (u ++ t) = t := by
  rw [trimStart, List.dropWhile_append_of_pos hu]
  cases t with
  | nil => rfl
  | cons c rest => exact List.dropWhile_cons_of_neg (by simp [ht c rfl])

theorem trimEnd_append_blanks {t v : Text} (hv : ∀ c ∈ v, isBlank c)
    (ht : ∀ c ∈ t.getLast?, isBlank c = false) : trimEnd (t ++ v) = t := by
  have h := trimStart_blanks_append (u := v.reverse) (t := t.reverse) (by simpa using hv)
    (by simpa using ht)
  rw [trimStart] at h
  rw [trimEnd, List.reverse_append, h, List.reverse_reverse]

/-- Blanks around a trimmed text are taken off again, and nothing else. -/
theorem trim_blanks_append_blanks {u t v : Text} (ht : t.Trimmed) (hne : t ≠ [])
    (hu : ∀ c ∈ u, isBlank c) (hv : ∀ c ∈ v, isBlank c) : trim (u ++ t ++ v) = t := by
  have hhead : ∀ c ∈ (t ++ v).head?, isBlank c = false := by
    cases t with
    | nil => exact absurd rfl hne
    | cons b rest => exact ht.head
  rw [trim, List.append_assoc, trimStart_blanks_append hu hhead, trimEnd_append_blanks hv ht.last]

theorem trim_of_trimmed {t : Text} (ht : t.Trimmed) : trim t = t := by
  have hs := trimStart_blanks_append (u := []) (t := t) (by simp) ht.head
  have he := trimEnd_append_blanks (t := t) (v := []) (by simp) ht.last
  rw [List.nil_append] at hs
  rw [List.append_nil] at he
  rw [trim, hs, he]

theorem isBlank_of_mem_head?_trimStart {t : Text} {c : Char} (hc : c ∈ (trimStart t).head?) :
    isBlank c = false := by
  have h := List.head?_dropWhile_not isBlank t
  rw [trimStart, Option.mem_def] at hc
  rw [hc] at h
  exact h

theorem isBlank_of_mem_getLast?_trimEnd {t : Text} {c : Char} (hc : c ∈ (trimEnd t).getLast?) :
    isBlank c = false := by
  rw [trimEnd, List.getLast?_reverse] at hc
  exact isBlank_of_mem_head?_trimStart hc

theorem exists_blanks_trimStart (t : Text) : ∃ u, (∀ c ∈ u, isBlank c) ∧ u ++ trimStart t = t :=
  ⟨t.takeWhile isBlank, List.all_eq_true.mp List.all_takeWhile, List.takeWhile_append_dropWhile⟩

theorem exists_trimEnd_blanks (t : Text) : ∃ v, (∀ c ∈ v, isBlank c) ∧ trimEnd t ++ v = t := by
  obtain ⟨u, hu, ht⟩ := exists_blanks_trimStart t.reverse
  refine ⟨u.reverse, by simpa using hu, ?_⟩
  rw [trimEnd, ← List.reverse_append]
  exact (congrArg List.reverse ht).trans t.reverse_reverse

theorem exists_blanks_trim_blanks (t : Text) :
    ∃ u v, (∀ c ∈ u, isBlank c) ∧ (∀ c ∈ v, isBlank c) ∧ t = u ++ trim t ++ v := by
  obtain ⟨u, hu, hs⟩ := exists_blanks_trimStart t
  obtain ⟨v, hv, he⟩ := exists_trimEnd_blanks (trimStart t)
  refine ⟨u, v, hu, hv, ?_⟩
  rw [trim, List.append_assoc, he, hs]

theorem trimmed_trim (t : Text) : Trimmed (trim t) := by
  constructor
  · intro c hc
    obtain ⟨v, -, hv⟩ := exists_trimEnd_blanks (trimStart t)
    apply isBlank_of_mem_head?_trimStart (t := t)
    rw [trim] at hc
    rw [← hv, List.head?_append, Option.mem_def.mp hc]
    rfl
  · exact fun c hc => isBlank_of_mem_getLast?_trimEnd hc

theorem trimStart_of_blanks {t : Text} (ht : ∀ c ∈ t, isBlank c) : trimStart t = [] := by
  have h := trimStart_blanks_append ht (t := []) (by simp)
  rwa [List.append_nil] at h

theorem trim_of_blanks {t : Text} (ht : ∀ c ∈ t, isBlank c) : trim t = [] := by
  rw [trim, trimStart_of_blanks ht]
  rfl

theorem trim_blanks {u v : Text} (t : Text) (hu : ∀ c ∈ u, isBlank c) (hv : ∀ c ∈ v, isBlank c) :
    trim (u ++ t ++ v) = trim t := by
  obtain ⟨u', v', hu', hv', ht⟩ := exists_blanks_trim_blanks t
  have hleft : ∀ c ∈ u ++ u', isBlank c := List.forall_mem_append.mpr ⟨hu, hu'⟩
  have hright : ∀ c ∈ v' ++ v, isBlank c := List.forall_mem_append.mpr ⟨hv', hv⟩
  have hassoc : u ++ t ++ v = (u ++ u') ++ trim t ++ (v' ++ v) := calc
    u ++ t ++ v = u ++ (u' ++ trim t ++ v') ++ v := by rw [← ht]
    _ = (u ++ u') ++ trim t ++ (v' ++ v) := by simp only [List.append_assoc]
  by_cases hne : trim t = []
  · rw [hassoc, hne, List.append_nil]
    exact trim_of_blanks (List.forall_mem_append.mpr ⟨hleft, hright⟩)
  · rw [hassoc, trim_blanks_append_blanks (trimmed_trim t) hne hleft hright]

theorem trim_trimStart (t : Text) : trim (trimStart t) = trim t := by
  obtain ⟨u, hu, ht⟩ := exists_blanks_trimStart t
  have h := trim_blanks (trimStart t) hu (v := []) (by simp)
  rw [List.append_nil, ht] at h
  exact h.symm

theorem trim_trimEnd (t : Text) : trim (trimEnd t) = trim t := by
  obtain ⟨v, hv, ht⟩ := exists_trimEnd_blanks t
  have h := trim_blanks (trimEnd t) (u := []) (by simp) hv
  rw [List.nil_append, ht] at h
  exact h.symm

/-- Around a core that has no blanks at its ends, each side is trimmed by itself. -/
theorem trim_append_append {core : Text} (hcore : core.Trimmed) (hne : core ≠ []) (u v : Text) :
    trim (u ++ core ++ v) = trimStart u ++ core ++ trimEnd v := by
  obtain ⟨u', hu', hu⟩ := exists_blanks_trimStart u
  obtain ⟨v', hv', hv⟩ := exists_trimEnd_blanks v
  have hassoc : u ++ core ++ v = u' ++ (trimStart u ++ core ++ trimEnd v) ++ v' := calc
    u ++ core ++ v = (u' ++ trimStart u) ++ core ++ (trimEnd v ++ v') := by rw [hu, hv]
    _ = u' ++ (trimStart u ++ core ++ trimEnd v) ++ v' := by simp only [List.append_assoc]
  have htrimmed : Trimmed (trimStart u ++ core ++ trimEnd v) := by
    have hhead := List.head?_eq_some_head hne
    have hlast := List.getLast?_eq_some_getLast hne
    -- at either end stands what is left of the side, or else the core
    constructor
    · intro c hc
      rw [List.append_assoc, List.head?_append, List.head?_append, hhead, Option.some_or] at hc
      cases hs : (trimStart u).head? with
      | none => exact hcore.head c (hhead.trans (by simpa [hs] using hc))
      | some b => exact isBlank_of_mem_head?_trimStart (t := u) (hs.trans (by simpa [hs] using hc))
    · intro c hc
      rw [List.getLast?_append, List.getLast?_append, hlast, Option.some_or] at hc
      cases hl : (trimEnd v).getLast? with
      | none => exact hcore.last c (hlast.trans (by simpa [hl] using hc))
      | some b => exact isBlank_of_mem_getLast?_trimEnd (t := v) (hl.trans (by simpa [hl] using hc))
  rw [hassoc, trim_blanks_append_blanks htrimmed (by simp [hne]) hu' hv']

theorem mem_of_mem_trim {t : Text} {c : Char} (hc : c ∈ trim t) : c ∈ t := by
  obtain ⟨u, v, -, -, ht⟩ := exists_blanks_trim_blanks t
  rw [ht]
  exact List.mem_append_left v (List.mem_append_right u hc)

theorem blankSpans_ascending : blankSpans.Pairwise fun s t => s.first ≤ t.first := by decide

def blankNumbers : List Nat :=
  blankSpans.flatMap fun s => List.range' s.first (s.last + 1 - s.first)

theorem mem_blankNumbers {c : Char} (hc : isBlank c) : c.toNat ∈ blankNumbers := by
  rw [isBlank, Span.anyHas_eq_any blankSpans_ascending, List.any_eq_true] at hc
  obtain ⟨s, hs, hc⟩ := hc
  refine List.mem_flatMap.mpr ⟨s, hs, ?_⟩
  simp only [Span.has, Bool.and_eq_true, decide_eq_true_eq] at hc
  rw [List.mem_range'_1]
  omega

end Text

theorem isBlank_of_isNonterminal {c : Char} (hc : isNonterminal c) : Text.isBlank c = false := by
  apply eq_false_of_ne_true
  intro hb
  -- there are few blank characters, and each is looked up among the capitals
  have hall : ∀ n ∈ Text.blankNumbers, Span.anyHas Text.uppercaseSpans n = false := by
    decide +kernel
  have hn := hall c.toNat (Text.mem_blankNumbers hb)
  rw [isNonterminal, Text.isUppercase, hn] at hc
  cases hc

theorem Text.trim_blanks_cons_blanks {u v : Text} {x : Char} (hx : isNonterminal x)
    (hu : ∀ c ∈ u, Text.isBlank c) (hv : ∀ c ∈ v, Text.isBlank c) : Text.trim (u ++ x :: v) = [x] := by
  have ht := Text.trimmed_singleton (isBlank_of_isNonterminal hx)
  have h := Text.trim_blanks_append_blanks ht (List.cons_ne_nil x []) hu hv
  rwa [List.append_assoc] at h

end Sentential
