import BlobSource.Proofs.ArrayLayout
import BlobSource.Proofs.Store.Naming
import Mathlib.Data.Nat.Digits.Defs

/-! Writing to the file that is the source. It is emptied before it is read, and the header is still
in the buffer by then. -/
namespace BlobSource

namespace ArrayListing

/-- The text that declares an array of so many bytes, and lists none. -/
def rowless (name : String) (length : ℕ) : String :=
  "#include <stddef.h>\n#include <stdint.h>\n\n" ++
    s!"const size_t {name}_len = {length};\nconst uint8_t {name}[] = " ++ "\x7b\n\x7d;\n"

theorem join_header_closing (symbol : Symbol) (length : ℕ) :
    String.join (header symbol length ++ [closing]) = rowless symbol.name length := by
  have hequals : "_len = " = "_len" ++ " = " := by decide +kernel
  have hbraces : "[] = \x7b\n" ++ "\x7d;\n" = "[] = " ++ "\x7b\n\x7d;\n" := by decide +kernel
  unfold header closing rowless Listing.preamble Symbol.lengthName
  simp only [List.cons_append, List.nil_append, String.join_cons, String.join_nil,
    String.append_empty]
  rw [hequals, hbraces]
  simp only [toString, String.append_assoc]

private theorem length_encode_toString (n : ℕ) :
    (Utf8.encode (toString n)).length = (Nat.toDigits 10 n).length := by
  have hascii : ∀ c ∈ (toString n).toList, c.toNat < 0x80 := fun c hc =>
    Reading.isAscii_of_isNameChar (Reading.isNameChar_of_mem_toString n c hc)
  have hdigits : (toString n).toList = Nat.toDigits 10 n := Nat.toList_repr
  rw [Utf8.length_encode_of_isAscii hascii, ← String.length_toList, hdigits]

theorem length_encode_header (symbol : Symbol) (length : ℕ) :
    (Utf8.encode (String.join (header symbol length))).length =
      84 + 2 * (Utf8.encode symbol.name).length + (Nat.toDigits 10 length).length := by
  have hpreamble : (Utf8.encode Listing.preamble).length = 41 := by decide
  have hnumber : (Utf8.encode "const size_t ").length = 13 := by decide
  have hequals : (Utf8.encode " = ").length = 3 := by decide
  have harray : (Utf8.encode ";\nconst uint8_t ").length = 16 := by decide
  have hopen : (Utf8.encode "[] = \x7b\n").length = 7 := by decide
  have hend : (Utf8.encode (String.join [])).length = 0 := by decide
  have hlength : (Utf8.encode symbol.lengthName).length = (Utf8.encode symbol.name).length + 4 := by
    rw [Symbol.lengthName, Utf8.encode_append, List.length_append]
    rfl
  simp only [header, Utf8.encode_join_cons, List.length_append, hpreamble, hnumber, hequals, harray,
    hopen, hend, hlength, length_encode_toString]
  omega

theorem length_encode_header_lt {symbol : Symbol} {length : ℕ}
    (hs : (Utf8.encode symbol.name).length ≤ 4000) (hn : length < 2 ^ 64) :
    (Utf8.encode (String.join (header symbol length))).length < Buffered.capacity := by
  have hdigits : (Nat.toDigits 10 length).length ≤ 20 := by
    apply Nat.toDigits_length 10 length 20 (by omega)
    omega
  rw [length_encode_header, Buffered.capacity]
  omega

end ArrayListing

theorem Input.readerOver_of_fits {input : Input} (s : Store) (l : Location)
    (h : (Utf8.encode (String.join input.listing.head)).length < Buffered.capacity) :
    input.readerOver s l = (s.put l (.file (.ofBytes []))).readerAt input.location := by
  have hfits : (Buffered.ofSink .boundless).pending.size +
      (Utf8.encode (String.join (Deferred.ofList input.listing.head).toList)).length <
        Buffered.capacity := by
    rw [Deferred.toList_ofList]
    exact (Nat.zero_add _).symm ▸ h
  rw [readerOver, Buffered.writeAll_of_fits rfl hfits]
  rfl

/-- From the first store to the second the file at a location is rewritten. Under every path that led
to the file the text is read, and nothing else has changed. -/
structure Store.Rewrites (s t : Store) (l : Location) (text : Bytes) : Prop where
  read (p : Path) (content : Content) : s.find p = .ok (l, .file content) →
    (t.content? p).map Content.toList = some text
  spared (k : Location) : k ≠ l → t.get? k = s.get? k

theorem Store.rewrites_put_file {s : Store} {l : Location} (hl : l ≠ []) (text : Bytes) :
    s.Rewrites (s.put l (.file (.ofBytes text))) l text where
  read p content hp := by
    rw [(opens_of_find hp).content?_put_file, Option.map_some, Content.toList_ofBytes]
  spared k hk := get?_put_of_ne s hl hk _

namespace Conversion
variable {c : Conversion} {source destination : Path} {symbol : Symbol} {s : Store} {l : Location}

/-- If the head does not fill the buffer, writing to a file ends as rendering does when the file is
emptied before anything is read. -/
theorem embed_of_fits {input : Input} (ho : c.openSource source symbol s = .ok input)
    (hd : s.Opens destination l)
    (hfits : (Utf8.encode (String.join input.listing.head)).length < Buffered.capacity) :
    let emptied := c.render source symbol .boundless (·.put l (.file (.ofBytes []))) s
    c.embed source destination symbol s =
      ⟨s.put l (.file (.ofBytes emptied.sink.text)),
        [.generating symbol c.form input.length source],
        emptied.result.map (⟨symbol, ·, c.form, destination⟩)⟩ := by
  intro emptied
  obtain ⟨htext, hresult⟩ := render_boundless_meanwhile ho (·.put l (.file (.ofBytes [])))
  obtain ⟨node, hf, -⟩ := exists_of_openSource ho
  rw [Store.readerAfter_put_file hd.isFree (Store.get?_of_find hf)] at htext hresult
  rw [embed_eq_of_opens ho hd, input.readerOver_of_fits s l hfits, htext, hresult]

theorem head_fits {input : Input} (ho : c.openSource source symbol s = .ok input)
    (hsymbol : (Utf8.encode symbol.name).length ≤ 4000) (hlength : input.length < 2 ^ 64) :
    (Utf8.encode (String.join input.listing.head)).length < Buffered.capacity := by
  obtain ⟨node, -, -, hsize, ⟨-, -, hlisting⟩ | ⟨-, path, -, hlisting⟩⟩ := exists_of_openSource ho
  · rw [hsize] at hlength
    rw [hlisting]
    exact ArrayListing.length_encode_header_lt hsymbol hlength
  · have hhead : (AssemblyListing.listing c.width symbol path node.size).head = [] := rfl
    rw [hlisting, hhead]
    decide

theorem render_emptied_array (hc : c.form = .array) {content : Content}
    (hf : s.find source = .ok (l, .file content)) (symbol : Symbol) :
    let emptied := c.render source symbol .boundless (·.put l (.file (.ofBytes []))) s
    emptied.result = (if content.size = 0 then .ok 0
        else .error (.lengthMismatch source content.size 0)) ∧
      emptied.sink.text = Utf8.encode (ArrayListing.rowless symbol.name content.size) := by
  intro emptied
  have hfree := (Store.opens_of_find hf).isFree
  have hreader : s.readerAfter (s.put l (.file (.ofBytes []))) l = .ofContent (.ofBytes []) := by
    rw [Store.readerAfter_put_file hfree (Store.get?_of_find hf), Store.readerAt,
      Store.get?_put_self s hfree.ne_nil]
    rfl
  have ho : c.openSource source symbol s =
      .ok ⟨content.size, l, ArrayListing.listing symbol source content.size⟩ :=
    openSource_of_readable hc hf (by simp) rfl symbol
  obtain ⟨htext, hresult⟩ := render_boundless_meanwhile ho (·.put l (.file (.ofBytes [])))
  have hsound : (Reader.ofContent (.ofBytes [])).failure? = none := rfl
  have hempty : (Reader.ofContent (.ofBytes [])).size = 0 := rfl
  obtain ⟨hlisted, houtcome⟩ := ArrayListing.emission_of_sound symbol source content.size hsound
  rw [hreader] at htext hresult
  constructor
  · rw [hresult, houtcome, hempty]
    by_cases hn : content.size = 0
    · rw [if_pos hn, if_pos hn.symm, hn]
    · rw [if_neg hn, if_neg (Ne.symm hn)]
  · rw [htext, Emission.bytes, hlisted, ← ArrayListing.join_header_closing]
    rfl

theorem render_assembly_meanwhile (hc : c.form = .assembly) {node : Node}
    (hf : s.find source = .ok (l, node)) (hd : node ≠ .directory) {path : String}
    (hp : source.text? = some path) (symbol : Symbol) (meanwhile : Store → Store) :
    (c.render source symbol .boundless meanwhile s).sink.text =
        Utf8.encode (Reading.assemblyText symbol c.width node.size path) ∧
      (c.render source symbol .boundless meanwhile s).result = .ok node.size := by
  have ho : c.openSource source symbol s = _ := openSource_assembly hc hf hd hp
  obtain ⟨htext, hresult⟩ := render_boundless_meanwhile ho meanwhile
  obtain ⟨hblock, houtcome⟩ := AssemblyListing.emission_listing c.width symbol path node.size
    (s.readerAfter (meanwhile s) l)
  constructor
  · rw [htext, Emission.bytes, hblock]
  · rw [hresult, houtcome]

section Onto
variable {content : Content} (hsource : s.find source = .ok (l, .file content))
  (hdestination : s.find destination = .ok (l, .file content))
  (hsymbol : (Utf8.encode symbol.name).length ≤ 4000) (hsize : content.size < 2 ^ 64)
include hsource hdestination hsymbol hsize

theorem embed_onto_source {input : Input} (ho : c.openSource source symbol s = .ok input) :
    let embedding := c.embed source destination symbol s
    let emptied := c.render source symbol .boundless (·.put l (.file (.ofBytes []))) s
    embedding.result = emptied.result.map (⟨symbol, ·, c.form, destination⟩) ∧
      s.Rewrites embedding.store l emptied.sink.text := by
  intro embedding emptied
  have hopens := Store.opens_of_find hdestination
  obtain ⟨node, hf, -, hlength, -⟩ := exists_of_openSource ho
  obtain ⟨-, rfl⟩ := Store.find_unique hsource hf
  have hequal : embedding = _ := embed_of_fits ho hopens (head_fits ho hsymbol (hlength ▸ hsize))
  rw [hequal]
  exact ⟨rfl, Store.rewrites_put_file hopens.isFree.ne_nil _⟩

theorem result_embed_onto_source :
    (c.embed source destination symbol s).result =
      (c.render source symbol .boundless (·.put l (.file (.ofBytes []))) s).result.map
        (⟨symbol, ·, c.form, destination⟩) := by
  cases ho : c.openSource source symbol s with
  | ok input => exact (embed_onto_source hsource hdestination hsymbol hsize ho).1
  | error e =>
    rw [embed_of_openSource_error ho, render, ho]
    rfl

theorem embed_array_onto_source (hc : c.form = .array) :
    let embedding := c.embed source destination symbol s
    embedding.result = (if content.size = 0 then .ok ⟨symbol, 0, .array, destination⟩
        else .error (.lengthMismatch source content.size 0)) ∧
      s.Rewrites embedding.store l (Utf8.encode (ArrayListing.rowless symbol.name content.size)) := by
  have ho := openSource_of_readable hc hsource (by simp) rfl symbol
  obtain ⟨hresult, hrewrites⟩ := embed_onto_source hsource hdestination hsymbol hsize ho
  obtain ⟨houtcome, htext⟩ := render_emptied_array hc hsource symbol
  rw [htext] at hrewrites
  refine ⟨?_, hrewrites⟩
  rw [hresult, houtcome, hc]
  split <;> rfl

theorem embed_assembly_onto_source (hc : c.form = .assembly) {path : String}
    (hp : source.text? = some path) :
    let embedding := c.embed source destination symbol s
    let original := c.render source symbol .boundless id s
    embedding.result = .ok ⟨symbol, content.size, .assembly, destination⟩ ∧
      original.result = .ok content.size ∧ s.Rewrites embedding.store l original.sink.text := by
  intro embedding original
  have ho : c.openSource source symbol s = _ := openSource_assembly hc hsource (by simp) hp
  have hrender := render_assembly_meanwhile hc hsource (by simp) hp symbol
  obtain ⟨hresult, hrewrites⟩ := embed_onto_source hsource hdestination hsymbol hsize ho
  obtain ⟨htext, houtcome⟩ : original.sink.text = _ ∧ original.result = _ := hrender id
  obtain ⟨hlater, hlate⟩ := hrender (·.put l (.file (.ofBytes [])))
  refine ⟨?_, houtcome, ?_⟩
  · have hembedding : embedding.result = _ := hresult
    rw [hembedding, hlate, hc]
    rfl
  · rw [htext, ← hlater]
    exact hrewrites

end Onto
end Conversion

/-- An embedding into the file that is its source reads the source only once it has been emptied, and
before any of the text is in it: it ends as if the source had been emptied in between, and the text
had been written elsewhere. So a source that is listed as an array is lost, and unless it was empty
before, this is reported as a wrong length. An assembler block is that of the source before, of which
it has nothing but the size. -/
theorem source_overwritten {c : Conversion} {source destination : Path} {s : Store} {l : Location}
    {content : Content} (hsource : s.find source = .ok (l, .file content))
    (hdestination : s.find destination = .ok (l, .file content)) {symbol : Symbol}
    (hsymbol : (Utf8.encode symbol.name).length ≤ 4000) (hsize : content.size < 2 ^ 64) :
    let embedding := c.embed source destination symbol s
    let original := c.render source symbol .boundless id s
    let emptied := c.render source symbol .boundless (·.put l (.file (.ofBytes []))) s
    (c.form = .array →
      embedding.result = (if content.size = 0 then .ok ⟨symbol, 0, .array, destination⟩
        else .error (.lengthMismatch source content.size 0)) ∧
      s.Rewrites embedding.store l (Utf8.encode (ArrayListing.rowless symbol.name content.size))) ∧
    (c.form = .assembly → ∀ path, source.text? = some path →
      embedding.result = .ok ⟨symbol, content.size, .assembly, destination⟩ ∧
      original.result = .ok content.size ∧
      s.Rewrites embedding.store l original.sink.text) ∧
    (embedding.result = emptied.result.map (⟨symbol, ·, c.form, destination⟩) ∧
      ∀ input, c.openSource source symbol s = .ok input →
        s.Rewrites embedding.store l emptied.sink.text) ∧
    (c.form = .array → ∀ report, embedding.result = .ok report → content.toList = []) := by
  intro embedding original emptied
  have harray := fun hc : c.form = .array =>
    Conversion.embed_array_onto_source hsource hdestination hsymbol hsize hc
  refine ⟨harray, ?_, ⟨?_, ?_⟩, ?_⟩
  · intro hc path hp
    exact Conversion.embed_assembly_onto_source hsource hdestination hsymbol hsize hc hp
  · exact Conversion.result_embed_onto_source hsource hdestination hsymbol hsize
  · intro input ho
    exact (Conversion.embed_onto_source hsource hdestination hsymbol hsize ho).2
  · intro hc report hreport
    obtain ⟨hresult, -⟩ := harray hc
    have hreport' : (c.embed source destination symbol s).result = .ok report := hreport
    rw [hreport'] at hresult
    split at hresult
    · rename_i hn
      apply List.eq_nil_of_length_eq_zero
      rw [Content.length_toList, hn]
    · cases hresult

/-- Three bytes with two names, and a link to them: read through the link and written to under
another spelling, and read under one name and written to under the other. -/
theorem source_overwritten_linked :
    let content : Content := .ofBytes [1, 2, 3]
    let s : Store := ⟨.place [0x66] (some (.file content)) .nil
      (.place [0x67] (some (.link ⟨[0x66]⟩)) .nil (.single (some (.hardLink [[0x66]])) [[0x68]])), []⟩
    let link : Path := ⟨[0x67]⟩
    let spelled : Path := ⟨[0x2E, 0x2F, 0x66]⟩
    let name : Path := ⟨[0x68]⟩
    ((Conversion.ofForm .array).embed link spelled ⟨"t"⟩ s).result =
        .error (.lengthMismatch link 3 0) ∧
      s.Rewrites ((Conversion.ofForm .array).embed link spelled ⟨"t"⟩ s).store [[0x66]]
        (Utf8.encode ("#include <stddef.h>\n#include <stdint.h>\n\nconst size_t t_len = 3;\n" ++
          "const uint8_t t[] = \x7b\n\x7d;\n")) ∧
      ((Conversion.ofForm .assembly).embed spelled name ⟨"t"⟩ s).result =
        .ok ⟨⟨"t"⟩, 3, .assembly, name⟩ ∧
      s.Rewrites ((Conversion.ofForm .assembly).embed spelled name ⟨"t"⟩ s).store [[0x66]]
        ((Conversion.ofForm .assembly).render spelled ⟨"t"⟩ .boundless id s).sink.text := by
  intro content s link spelled name
  have hlink : s.find link = .ok ([[0x66]], .file content) := rfl
  have hspelled : s.find spelled = .ok ([[0x66]], .file content) := rfl
  have hname : s.find name = .ok ([[0x66]], .file content) := rfl
  have hsymbol : (Utf8.encode (Symbol.mk "t").name).length ≤ 4000 := by decide
  have hsize : content.size < 2 ^ 64 := by decide
  have htext : spelled.text? = some "./f" := by decide
  obtain ⟨harray, -⟩ := source_overwritten (c := .ofForm .array) hlink hspelled hsymbol hsize
  obtain ⟨-, hassembly, -⟩ :=
    source_overwritten (c := .ofForm .assembly) hspelled hname hsymbol hsize
  have hrowless : ArrayListing.rowless "t" 3 =
      "#include <stddef.h>\n#include <stdint.h>\n\nconst size_t t_len = 3;\n" ++
        "const uint8_t t[] = \x7b\n\x7d;\n" := by
    decide +kernel
  obtain ⟨hmismatch, hlost⟩ := harray rfl
  obtain ⟨hreport, -, hkept⟩ := hassembly rfl "./f" htext
  rw [← hrowless]
  exact ⟨hmismatch, hlost, hreport, hkept⟩

end BlobSource
