import BlobSource.Proofs.Produced
import BlobSource.Proofs.Reading.Word

/-! The word that an assembly listing lays down for the size of the source: it holds the size
where that fits, and else what is left of it. -/
namespace BlobSource
open Reading

theorem Reading.Object.sizeAt?_blobProgram (sizeOf : String → ℕ) (symbol : Symbol)
    (width : WordWidth) (length : ℕ) (path : String) :
    (Object.empty.assemble sizeOf (blobProgram symbol width length path)).sizeAt? width
      symbol.lengthName = some (laidDown width length) := by
  rw [Object.assemble_blobProgram]
  simp [Object.sizeAt?, Object.empty]

namespace Conversion.Produces
variable {c : Conversion} {source : Path} {symbol : Symbol} {s : Store} {n : ℕ} {text : Bytes}

theorem exists_program (h : c.Produces source symbol s n text) (hc : c.form = .assembly)
    (hs : symbol.issue? = none) {path : String} (hp : source.text? = some path)
    (hq : Quotable path) : ∃ program,
      readAssembly? text = some (["stddef.h", "stdint.h"], program) ∧ ∀ sizeOf,
        (Object.empty.assemble sizeOf program).sizeAt? c.width symbol.lengthName =
          some (laidDown c.width n) := by
  obtain ⟨location, node, spelled, -, -, hspelled, htext⟩ := h.eq_assemblyText hc
  have hpath : spelled = path := Option.some.inj (hspelled.symm.trans hp)
  refine ⟨blobProgram symbol c.width n path, ?_, ?_⟩
  · rw [htext, hpath]
    exact readAssembly?_assemblyText hs c.width n hq
  · intro sizeOf
    exact Object.sizeAt?_blobProgram sizeOf symbol c.width n path

end Conversion.Produces

/-- Every assembly listing, under whatever symbol and path, has a line that lays down the size of
the source as a word of the width that was asked for. What is laid down is the size, up to the
range of the word: so it is the size if and only if the size fits. Where the whole text can be
read, that is the constant that C finds under the name of the length. -/
theorem length_word_eq_size_iff {c : Conversion} {source : Path} {symbol : Symbol} {s : Store}
    {n : ℕ} {text : Bytes} (hc : c.form = .assembly) (h : c.Produces source symbol s n text) :
    ∃ location node, s.find source = .ok (location, node) ∧ n = node.size ∧
      HasWord text c.width node.size ∧
      laidDown c.width node.size = node.size % 2 ^ c.width.bits ∧
      (laidDown c.width node.size = node.size ↔ node.size < 2 ^ c.width.bits) ∧
      ∀ path, symbol.issue? = none → source.text? = some path → Quotable path → ∃ program,
        readAssembly? text = some (["stddef.h", "stdint.h"], program) ∧ ∀ sizeOf,
          (Object.empty.assemble sizeOf program).sizeAt? c.width symbol.lengthName =
            some (laidDown c.width node.size) := by
  obtain ⟨location, node, spelled, hf, rfl, -, htext⟩ := h.eq_assemblyText hc
  have hword : HasWord text c.width node.size := by
    rw [htext]
    exact hasWord_assemblyText symbol c.width node.size spelled
  refine ⟨location, node, hf, rfl, hword, laidDown_eq_mod _ _, laidDown_eq_self_iff _ _, ?_⟩
  intro path hs hp hq
  exact h.exists_program hc hs hp hq

/-- A little over four gibibytes fit the word of 64 bits. -/
theorem length_word_eq_size_iff_wide :
    let s : Store := ⟨.single (some (.file (.zeros (2 ^ 32 + 7)))) [[0x66]], []⟩
    ∃ text, Conversion.Produces ⟨.assembly, .bits64⟩ ⟨[0x66]⟩ ⟨"blob"⟩ s (2 ^ 32 + 7) text ∧
      HasWord text .bits64 (2 ^ 32 + 7) ∧ laidDown .bits64 (2 ^ 32 + 7) = 2 ^ 32 + 7 := by
  intro s
  have hf : s.find ⟨[0x66]⟩ = .ok ([[0x66]], .file (.zeros (2 ^ 32 + 7))) := rfl
  have hp : (⟨[0x66]⟩ : Path).text? = some "f" := by decide
  have hproduced := Conversion.exists_produces_assembly (c := ⟨.assembly, .bits64⟩) rfl hf
    (by simp) hp ⟨"blob"⟩
  obtain ⟨text, htext⟩ := hproduced
  obtain ⟨location, node, hfound, hsize, hword, -, hiff, -⟩ := length_word_eq_size_iff rfl htext
  rw [← hsize] at hword hiff
  exact ⟨text, htext, hword, hiff.2 (by decide)⟩

/-- Of the size of the same file the word of 32 bits keeps seven. -/
theorem length_word_truncated :
    let s : Store := ⟨.single (some (.file (.zeros (2 ^ 32 + 7)))) [[0x66]], []⟩
    s.find ⟨[0x66]⟩ = .ok ([[0x66]], .file (.zeros (2 ^ 32 + 7))) ∧ ∃ text program,
      Conversion.Produces ⟨.assembly, .bits32⟩ ⟨[0x66]⟩ ⟨"blob"⟩ s (2 ^ 32 + 7) text ∧
        HasWord text .bits32 (2 ^ 32 + 7) ∧
        readAssembly? text = some (["stddef.h", "stdint.h"], program) ∧
        ∀ sizeOf, (Object.empty.assemble sizeOf program).sizeAt? .bits32 "blob_len" = some 7 := by
  intro s
  have hf : s.find ⟨[0x66]⟩ = .ok ([[0x66]], .file (.zeros (2 ^ 32 + 7))) := rfl
  have hp : (⟨[0x66]⟩ : Path).text? = some "f" := by decide
  have hproduced := Conversion.exists_produces_assembly (c := ⟨.assembly, .bits32⟩) rfl hf
    (by simp) hp ⟨"blob"⟩
  obtain ⟨text, htext⟩ := hproduced
  obtain ⟨program, hread, hfound⟩ :=
    htext.exists_program rfl (by decide) hp (by decide)
  obtain ⟨-, -, spelled, -, -, -, heq⟩ := htext.eq_assemblyText rfl
  refine ⟨hf, text, program, htext, ?_, hread, ?_⟩
  · rw [heq]
    exact hasWord_assemblyText _ _ _ spelled
  · intro sizeOf
    exact (hfound sizeOf).trans (by rw [laidDown_eq_mod]; rfl)

end BlobSource
