import Sentential.Rule
import Sentential.Proofs.Text.Bytes
import Sentential.Proofs.Text.Trim

namespace Sentential.Listing

/-- A rule line is within one line of the text. -/
theorem feed_not_mem_of_mem_ruleLines {text line : Text} {number : Nat}
    (h : (number, line) ∈ ruleLines text) : '\n' ∉ line := by
  obtain ⟨⟨raw, n⟩, hp, he⟩ := List.mem_map.mp (List.mem_filter.mp h).1
  obtain ⟨rfl, rfl⟩ := Prod.mk.inj he
  intro hc
  exact ne_feed_of_mem_physicalLines (List.fst_mem_of_mem_zipIdx hp) (Text.mem_of_mem_trim hc) rfl

/-- Every line counts, blank ones and comments too, and only those that hold rules are kept. -/
theorem mem_ruleLines_iff {text line : Text} {number : Nat} :
    (number, line) ∈ ruleLines text ↔ ∃ i raw, (Text.lines text)[i]? = some raw ∧
      number = i + 1 ∧ line = raw.trim ∧ line ≠ [] ∧ line.head? ≠ some ';' := by
  have hrule : isRuleLine line = true ↔ line ≠ [] ∧ line.head? ≠ some ';' := by
    simp [isRuleLine]
  rw [ruleLines, List.mem_filter, hrule, List.mem_map]
  constructor
  · intro h
    obtain ⟨⟨⟨raw, n⟩, hp, he⟩, hne⟩ := h
    obtain ⟨rfl, rfl⟩ := Prod.mk.inj he
    obtain ⟨hn, hraw⟩ := List.mk_mem_zipIdx_iff_le_and_getElem?_sub.mp hp
    exact ⟨n - 1, raw, hraw, by omega, rfl, hne⟩
  · intro h
    obtain ⟨i, raw, hraw, rfl, rfl, hne⟩ := h
    refine ⟨⟨(raw, i + 1), ?_, rfl⟩, hne⟩
    exact List.mk_mem_zipIdx_iff_le_and_getElem?_sub.mpr ⟨by omega, hraw⟩

theorem ascending_ruleLines (text : Text) : (ruleLines text).Pairwise fun p q => p.1 < q.1 := by
  have h : ((Text.lines text).zipIdx 1).Pairwise fun p q => p.2 < q.2 := by
    apply List.pairwise_map.mp
    rw [List.zipIdx_map_snd]
    exact List.pairwise_lt_range' 1 Nat.one_pos
  have hmap : (((Text.lines text).zipIdx 1).map fun p => (p.2, p.1.trim)).Pairwise
      fun p q => p.1 < q.1 := List.pairwise_map.mpr h
  exact hmap.filter _

theorem ruleLines_of_trimmed {text : Text}
    (h : ∀ line ∈ Text.lines text, line.Trimmed ∧ isRuleLine line) :
    ruleLines text = ((Text.lines text).zipIdx 1).map Prod.swap := by
  have htrim : ((Text.lines text).zipIdx 1).map (fun p => (p.2, p.1.trim)) =
      ((Text.lines text).zipIdx 1).map Prod.swap := by
    apply List.map_congr_left
    intro p hp
    have ht := (h p.1 (List.fst_mem_of_mem_zipIdx hp)).1
    exact congrArg (p.2, ·) (Text.trim_of_trimmed ht)
  have hkeep : ∀ p ∈ ((Text.lines text).zipIdx 1).map Prod.swap, isRuleLine p.2 := by
    intro p hp
    obtain ⟨q, hq, rfl⟩ := List.mem_map.mp hp
    exact (h q.1 (List.fst_mem_of_mem_zipIdx hq)).2
  exact (congrArg (List.filter _) htrim).trans (List.filter_eq_self.mpr hkeep)

theorem map_snd_ruleLines (text : Text) :
    (ruleLines text).map Prod.snd = ((Text.lines text).map Text.trim).filter isRuleLine := by
  have hfst : ((Text.lines text).zipIdx 1).map Prod.fst = Text.lines text := List.zipIdx_map_fst ..
  rw [← hfst, List.map_map, List.filter_map, ruleLines, List.filter_map, List.map_map]
  rfl

theorem mapM_encode {decode : Bytes → Except FileFault Text}
    (hd : ∀ line : Text, decode line.encode = .ok line.trim) (lines : List Text) :
    (lines.map Text.encode).mapM decode = .ok (lines.map Text.trim) := by
  have hpure : decode ∘ Text.encode = fun line => pure line.trim := funext hd
  rw [List.mapM_map, hpure, List.mapM_pure]
  rfl

/-- The bytes of a text are a listing of its rule lines. -/
theorem read_encode (text : Text) : read text.encode = .ok ((ruleLines text).map Prod.snd) := by
  rw [read, byteLines, Text.physicalLines_encode, mapM_encode, map_snd_ruleLines]
  · rfl
  · intro line
    rw [Text.decode?_encode]

/-- A line that cannot be decoded spoils the listing, whatever the other lines are. -/
theorem mapM_of_fault {decode : Bytes → Except FileFault Text} (fault : FileFault)
    (hd : ∀ line, (∃ text, decode line = .ok text) ∨ decode line = .error fault)
    {lines : List Bytes} {line : Bytes} (hl : line ∈ lines) (hf : decode line = .error fault) :
    lines.mapM decode = .error fault := by
  induction lines with
  | nil => exact absurd hl List.not_mem_nil
  | cons first rest ih =>
    rw [List.mapM_cons]
    obtain ⟨text, hfirst⟩ | hfirst := hd first
    · obtain rfl | hl := List.mem_cons.mp hl
      · rw [hf] at hfirst
        cases hfirst
      · rw [hfirst, ih hl]
        rfl
    · -- an earlier line ends the reading, with the same fault
      rw [hfirst]
      rfl

theorem read_of_not_text {bytes : Bytes} (h : ¬ ∃ text : Text, bytes = text.encode) :
    read bytes = .error .notText := by
  obtain ⟨line, hline⟩ := Classical.not_forall.mp (mt Text.exists_encode_of_physicalLines h)
  obtain ⟨hl, hne⟩ := Classical.not_imp.mp hline
  rw [read, byteLines, mapM_of_fault .notText _ hl]
  · rfl
  · rw [Text.decode?_eq_none_iff.mpr hne]
  · intro line
    cases hd : Text.decode? line with
    | some text => exact .inl ⟨text.trim, rfl⟩
    | none => exact .inr rfl

end Sentential.Listing
