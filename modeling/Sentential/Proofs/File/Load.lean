import Sentential.Proofs.Grammar.ContextFree

namespace Sentential

namespace Grammar

theorem cause_ne_fileFault_of_parse {text : Text} {startOverride : Option Char} {file : FileName}
    {reports : List Diagnostic} (h : parse text startOverride file = .error reports)
    {d : Diagnostic} (hd : d ∈ reports) (fault : FileFault) : d.cause ≠ .fileFault fault := by
  intro hc
  have hcause := cause_of_mem_reports h hd
  rw [hc] at hcause
  obtain ⟨number, line, -, hf⟩ | he | ⟨c, he⟩ | ⟨c, he⟩ := hcause
  · cases hf
  all_goals cases he

theorem load_encode (text : Text) (startOverride : Option Char) (file : FileName) :
    load file startOverride (.ok text.encode) = parse text startOverride file := by
  simp only [load, Text.decode?_encode]

theorem load_eq_notText_iff {bytes : Bytes} {startOverride : Option Char} {file : FileName} :
    load file startOverride (.ok bytes) = .error (FileFault.notText.report file) ↔
      ¬ ∃ text : Text, bytes = text.encode := by
  constructor
  · intro h htext
    obtain ⟨text, rfl⟩ := htext
    rw [load_encode] at h
    exact cause_ne_fileFault_of_parse h (List.mem_singleton.mpr rfl) .notText rfl
  · intro h
    simp only [load, Text.decode?_eq_none_iff.mpr h]

end Grammar

namespace Listing

theorem read_eq_error_iff {bytes : Bytes} :
    (∃ fault, read bytes = .error fault) ↔ ¬ ∃ text : Text, bytes = text.encode := by
  constructor
  · intro h htext
    obtain ⟨fault, h⟩ := h
    obtain ⟨text, rfl⟩ := htext
    rw [read_encode] at h
    cases h
  · intro h
    exact ⟨.notText, read_of_not_text h⟩

/-- Bytes cannot be read as a listing just when they are no text as a whole, and just when a file of
them cannot be read as a grammar. If they are a text, the listing has the rule lines that the grammar is
read from. -/
theorem read_agrees_with_load (bytes : Bytes) (startOverride : Option Char) (file : FileName) :
    ((∃ fault, read bytes = .error fault) ↔ ¬ ∃ text : Text, bytes = text.encode) ∧
    ((∃ fault, read bytes = .error fault) ↔
      Grammar.load file startOverride (.ok bytes) = .error (FileFault.notText.report file)) ∧
    ∀ text : Text, bytes = text.encode →
      read bytes = .ok ((ruleLines text).map Prod.snd) ∧
      Grammar.load file startOverride (.ok bytes) = Grammar.parse text startOverride file := by
  refine ⟨read_eq_error_iff, read_eq_error_iff.trans Grammar.load_eq_notText_iff.symm, ?_⟩
  intro text htext
  rw [htext]
  exact ⟨read_encode text, Grammar.load_encode text startOverride file⟩

end Listing

end Sentential
