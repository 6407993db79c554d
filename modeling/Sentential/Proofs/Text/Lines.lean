import Sentential.Text.Basic

namespace Sentential

variable {α : Type} [DecidableEq α] {separator : α}

theorem pieces_eq_splitOn (separator : α) (xs : List α) :
    pieces separator xs = xs.splitOn separator := by
  induction xs with
  | nil => rfl
  | cons x xs ih =>
    rw [pieces, List.splitOn_cons_eq_if_modifyHead, ih]
    by_cases hx : x = separator
    · simp [hx]
    · have hne := List.splitOn_ne_nil separator xs
      cases hs : xs.splitOn separator with
      | nil => exact absurd hs hne
      | cons piece rest => simp [hx]

theorem pieces_cons_of_ne {x : α} (hx : x ≠ separator) (xs : List α) :
    pieces separator (x :: xs) = (pieces separator xs).modifyHead (x :: ·) := by
  simp only [pieces_eq_splitOn, List.splitOn_cons_eq_if_modifyHead, beq_iff_eq, if_neg hx]

theorem pieces_append_of_not_mem {xs : List α} (h : separator ∉ xs) (ys : List α) :
    pieces separator (xs ++ ys) = (pieces separator ys).modifyHead (xs ++ ·) := by
  induction xs with
  | nil => exact (congrFun List.modifyHead_id _).symm
  | cons x xs ih =>
    rw [List.mem_cons, not_or] at h
    obtain ⟨hx, hxs⟩ := h
    rw [List.cons_append, pieces_cons_of_ne (Ne.symm hx), ih hxs, List.modifyHead_modifyHead]
    rfl

theorem pieces_of_not_mem {xs : List α} (h : separator ∉ xs) : pieces separator xs = [xs] := by
  rw [pieces_eq_splitOn, List.splitOn_eq_singleton h]

theorem pieces_append_cons {xs : List α} (h : separator ∉ xs) (ys : List α) :
    pieces separator (xs ++ separator :: ys) = xs :: pieces separator ys := by
  simp only [pieces_eq_splitOn, List.splitOn_append_cons_self_of_not_mem h]

theorem pieces_append_separator (xs ys : List α) :
    pieces separator (xs ++ separator :: ys) = pieces separator xs ++ pieces separator ys := by
  simp only [pieces_eq_splitOn, List.splitOn_append_cons_self]

theorem mem_of_mem_pieces {xs piece : List α} (h : piece ∈ pieces separator xs) {c : α}
    (hc : c ∈ piece) : c ∈ xs ∧ c ≠ separator := by
  induction xs generalizing piece with
  | nil =>
    rw [List.mem_singleton.mp h] at hc
    exact absurd hc List.not_mem_nil
  | cons x xs ih =>
    by_cases hx : x = separator
    · rw [pieces, if_pos hx] at h
      rcases List.mem_cons.mp h with rfl | h
      · exact absurd hc List.not_mem_nil
      · obtain ⟨hm, hne⟩ := ih h hc
        exact ⟨List.mem_cons_of_mem _ hm, hne⟩
    · rw [pieces_cons_of_ne hx] at h
      -- `x` goes to the front of the first piece, and the others stay as they are
      cases hp : pieces separator xs with
      | nil => exact absurd hp (pieces_ne_nil separator xs)
      | cons first rest =>
        rw [hp, List.modifyHead_cons] at h
        rcases List.mem_cons.mp h with rfl | h
        · rcases List.mem_cons.mp hc with rfl | hc
          · exact ⟨List.mem_cons_self, hx⟩
          · obtain ⟨hm, hne⟩ := ih (hp ▸ List.mem_cons_self) hc
            exact ⟨List.mem_cons_of_mem _ hm, hne⟩
        · obtain ⟨hm, hne⟩ := ih (hp ▸ List.mem_cons_of_mem _ h) hc
          exact ⟨List.mem_cons_of_mem _ hm, hne⟩

theorem not_mem_of_mem_pieces {xs piece : List α} (h : piece ∈ pieces separator xs) :
    separator ∉ piece := fun hc => (mem_of_mem_pieces h hc).2 rfl

/-- Between separators again, the pieces make up the list. -/
theorem intercalate_pieces (separator : α) (xs : List α) :
    [separator].intercalate (pieces separator xs) = xs := by
  rw [pieces_eq_splitOn, List.intercalate_splitOn]

theorem mem_of_mem_dropReturn {return_ : α} {line : List α} {c : α}
    (hc : c ∈ dropReturn return_ line) : c ∈ line := by
  unfold dropReturn at hc
  split at hc
  · exact List.dropLast_subset _ hc
  · exact hc

theorem ne_feed_of_mem_physicalLines {feed return_ : α} {xs line : List α}
    (h : line ∈ physicalLines feed return_ xs) {c : α} (hc : c ∈ line) : c ≠ feed := by
  rcases List.mem_append.mp h with h | h
  · obtain ⟨piece, hp, rfl⟩ := List.mem_map.mp h
    exact (mem_of_mem_pieces (List.dropLast_subset _ hp) (mem_of_mem_dropReturn hc)).2
  · have hlast := List.mem_of_getLast? (Option.mem_toList.mp (List.mem_filter.mp h).1)
    exact (mem_of_mem_pieces hlast hc).2

theorem physicalLines_append_cons {feed return_ : α} {line : List α} (h : feed ∉ line)
    (xs : List α) :
    physicalLines feed return_ (line ++ feed :: xs) =
      dropReturn return_ line :: physicalLines feed return_ xs := by
  have hne := pieces_ne_nil feed xs
  unfold physicalLines
  simp only
  rw [pieces_append_cons h, List.dropLast_cons_of_ne_nil hne, List.getLast?_cons_of_ne_nil hne,
    List.map_cons, List.cons_append]

theorem physicalLines_of_not_mem {feed return_ : α} {line : List α} (h : feed ∉ line) :
    physicalLines feed return_ line = [line].filter (· ≠ []) := by
  unfold physicalLines
  rw [pieces_of_not_mem h]
  rfl

theorem pieces_flatMap_concat {feed : α} {lines : List (List α)} (h : ∀ line ∈ lines, feed ∉ line) :
    pieces feed (lines.flatMap fun line => line ++ [feed]) = lines ++ [[]] := by
  induction lines with
  | nil => rfl
  | cons line rest ih =>
    obtain ⟨hline, hrest⟩ := List.forall_mem_cons.mp h
    rw [List.flatMap_cons, List.append_assoc, List.singleton_append, pieces_append_cons hline,
      ih hrest, List.cons_append]

/-- Lines that are each followed by a line feed are found again. -/
theorem physicalLines_flatMap_concat {feed return_ : α} {lines : List (List α)}
    (hf : ∀ line ∈ lines, feed ∉ line) (hr : ∀ line ∈ lines, line.getLast? ≠ some return_) :
    physicalLines feed return_ (lines.flatMap fun line => line ++ [feed]) = lines := by
  have hd : ∀ line ∈ lines, dropReturn return_ line = line := fun line hl => if_neg (hr line hl)
  unfold physicalLines
  rw [pieces_flatMap_concat hf]
  simp [List.map_congr_left hd]

end Sentential
