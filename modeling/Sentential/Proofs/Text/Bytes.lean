import Sentential.Proofs.Text.Lines

namespace Sentential

section Marks

variable {α β : Type}

/-- Where `f` spells each unit, `b` spells `a` and is in no other spelling. -/
structure Marks (f : α → List β) (a : α) (b : β) : Prop where
  spelled : f a = [b]
  not_mem : ∀ x, x ≠ a → b ∉ f x

variable [DecidableEq α] [DecidableEq β] {f : α → List β} {a a' : α} {b b' : β}

theorem Marks.pieces_flatMap (h : Marks f a b) (xs : List α) :
    pieces b (xs.flatMap f) = (pieces a xs).map (List.flatMap f) := by
  induction xs with
  | nil => rfl
  | cons x xs ih =>
    rw [List.flatMap_cons]
    by_cases hx : x = a
    · rw [hx, h.spelled, List.singleton_append, pieces, pieces, if_pos rfl, if_pos rfl, ih]
      rfl
    · -- no `b` is in the spelling of `x`, so all of it goes to the first piece
      rw [pieces_append_of_not_mem (h.not_mem x hx), pieces_cons_of_ne hx, ih]
      cases pieces a xs with
      | nil => rfl
      | cons piece rest => simp only [List.map_cons, List.modifyHead_cons, List.flatMap_cons]

theorem Marks.dropReturn_flatMap (h : Marks f a b) (hne : ∀ x, f x ≠ []) (xs : List α) :
    dropReturn b (xs.flatMap f) = (dropReturn a xs).flatMap f := by
  obtain rfl | ⟨ys, x, rfl⟩ := xs.eq_nil_or_concat
  · rfl
  · have hlast : ((ys ++ [x]).flatMap f).getLast? = (f x).getLast? := by
      rw [List.flatMap_append, List.flatMap_singleton, List.getLast?_append,
        Option.or_of_isSome (List.getLast?_isSome.mpr (hne x))]
    rw [List.concat_eq_append, dropReturn, dropReturn, hlast, List.getLast?_concat]
    by_cases hx : x = a
    · simp [hx, h.spelled]
    · have hb : (f x).getLast? ≠ some b := fun hl => h.not_mem x hx (List.mem_of_getLast? hl)
      rw [if_neg hb, if_neg (mt Option.some.inj hx)]

/-- Lines are the same before and after the spelling of what is in them. -/
theorem physicalLines_flatMap (hf : Marks f a b) (hr : Marks f a' b') (hne : ∀ x, f x ≠ [])
    (xs : List α) :
    physicalLines b b' (xs.flatMap f) = (physicalLines a a' xs).map (List.flatMap f) := by
  unfold physicalLines
  simp only [hf.pieces_flatMap, List.map_append, ← List.map_dropLast, List.map_map]
  congr 1
  · exact List.map_congr_left fun piece _ => hr.dropReturn_flatMap hne piece
  · have hempty (line : List α) : line.flatMap f = [] ↔ line = [] := by
      cases line <;> simp [hne]
    cases hl : (pieces a xs).getLast? with
    | none => simp [hl]
    | some line => by_cases hline : line = [] <;> simp [hl, hempty, hline]

omit [DecidableEq α] in
theorem Marks.exists_flatMap_of_dropReturn (h : Marks f a b) {line : List β} {xs : List α}
    (hl : dropReturn b line = xs.flatMap f) : ∃ ys : List α, line = ys.flatMap f := by
  unfold dropReturn at hl
  split at hl
  · next hlast =>
    obtain ⟨init, rfl⟩ := List.getLast?_eq_some_iff.mp hlast
    rw [List.dropLast_concat] at hl
    exact ⟨xs ++ [a], by rw [hl, List.flatMap_append, List.flatMap_singleton, h.spelled]⟩
  · exact ⟨xs, hl⟩

omit [DecidableEq α] in
/-- Nothing is a spelling that is not one line by line: no unit is spelled across the end of a line. -/
theorem Marks.exists_flatMap_of_physicalLines (hf : Marks f a b) (hr : Marks f a' b') {ys : List β}
    (h : ∀ line ∈ physicalLines b b' ys, ∃ xs : List α, line = xs.flatMap f) :
    ∃ xs : List α, ys = xs.flatMap f := by
  induction hn : ys.length using Nat.strongRecOn generalizing ys with
  | _ n ih =>
    by_cases hb : b ∈ ys
    · -- up to its first end of a line, and what follows
      obtain ⟨line, rest, rfl, hline⟩ := List.eq_append_cons_of_mem hb
      rw [physicalLines_append_cons hline, List.forall_mem_cons] at h
      obtain ⟨⟨xs, hxs⟩, hrest⟩ := h
      have hlt : rest.length < n := by
        rw [← hn, List.length_append, List.length_cons]
        omega
      obtain ⟨front, rfl⟩ := hr.exists_flatMap_of_dropReturn hxs
      obtain ⟨back, rfl⟩ := ih rest.length hlt hrest rfl
      refine ⟨front ++ a :: back, ?_⟩
      rw [List.flatMap_append, List.flatMap_cons, hf.spelled, List.singleton_append]
    · by_cases hys : ys = []
      · exact ⟨[], hys⟩
      · refine h ys ?_
        rw [physicalLines_of_not_mem hb]
        simpa using hys

end Marks

namespace Text

theorem utf8EncodeChar_of_ascii {c : Char} (hc : c.toNat < 128) :
    String.utf8EncodeChar c = [UInt8.ofNat c.toNat] := if_pos (Nat.le_of_lt_succ hc)

/-- A byte that starts or continues an encoding of several bytes has its highest bit set. -/
theorem le_toNat_ofNat {k m : Nat} (x : Nat) (hk : 0 < k) (hm : 128 ≤ m) (hkm : k + m ≤ 256) :
    128 ≤ (UInt8.ofNat (x % k + m)).toNat := by
  have hx := Nat.mod_lt x hk
  rw [UInt8.toNat_ofNat', Nat.mod_eq_of_lt (by omega)]
  omega

theorem le_toNat_of_mem_utf8EncodeChar {c : Char} (hc : 128 ≤ c.toNat) {b : UInt8}
    (h : b ∈ String.utf8EncodeChar c) : 128 ≤ b.toNat := by
  have hne : ¬ c.val.toNat ≤ 127 := Nat.not_le.mpr hc
  rw [String.utf8EncodeChar] at h
  simp only [if_neg hne] at h
  -- encodings of two, of three and of four bytes
  split at h
  · simp only [List.mem_cons, List.not_mem_nil, or_false] at h
    rcases h with rfl | rfl <;> exact le_toNat_ofNat _ (by omega) (by omega) (by omega)
  · split at h
    · simp only [List.mem_cons, List.not_mem_nil, or_false] at h
      rcases h with rfl | rfl | rfl <;> exact le_toNat_ofNat _ (by omega) (by omega) (by omega)
    · simp only [List.mem_cons, List.not_mem_nil, or_false] at h
      rcases h with rfl | rfl | rfl | rfl <;>
        exact le_toNat_ofNat _ (by omega) (by omega) (by omega)

theorem marks_ascii {c : Char} (hc : c.toNat < 128) :
    Marks String.utf8EncodeChar c (UInt8.ofNat c.toNat) := by
  have hb : (UInt8.ofNat c.toNat).toNat = c.toNat := by
    rw [UInt8.toNat_ofNat', Nat.mod_eq_of_lt (by omega)]
  refine ⟨utf8EncodeChar_of_ascii hc, fun x hx hm => ?_⟩
  by_cases hlt : x.toNat < 128
  · rw [utf8EncodeChar_of_ascii hlt, List.mem_singleton] at hm
    have heq := congrArg UInt8.toNat hm
    rw [hb, UInt8.toNat_ofNat', Nat.mod_eq_of_lt (by omega)] at heq
    exact hx (Char.toNat_inj.mp heq.symm)
  · have hle := le_toNat_of_mem_utf8EncodeChar (Nat.le_of_not_lt hlt) hm
    omega

theorem marks_feed : Marks String.utf8EncodeChar '\n' 0x0A := marks_ascii (by decide)

theorem marks_return : Marks String.utf8EncodeChar '\r' 0x0D := marks_ascii (by decide)

theorem physicalLines_encode (t : Text) :
    physicalLines 0x0A 0x0D t.encode = (lines t).map encode :=
  physicalLines_flatMap marks_feed marks_return (fun _ => String.utf8EncodeChar_ne_nil) t

theorem exists_encode_of_physicalLines {bytes : Bytes}
    (h : ∀ line ∈ physicalLines 0x0A 0x0D bytes, ∃ t : Text, line = t.encode) :
    ∃ t : Text, bytes = t.encode :=
  marks_feed.exists_flatMap_of_physicalLines marks_return h

theorem decode?_eq_none_iff {bytes : Bytes} :
    decode? bytes = none ↔ ¬ ∃ t : Text, bytes = t.encode := by
  simp only [Option.eq_none_iff_forall_ne_some, ne_eq, decode?_eq_some_iff, not_exists]

end Text

end Sentential
