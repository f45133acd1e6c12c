import BlobSource.Proofs.Reading.AssemblyText
import BlobSource.Proofs.Rendered

/-! An assembly listing spells one program, which lays down the length and includes the file. -/
namespace BlobSource
open Reading

namespace Conversion

theorem openSource_assembly {c : Conversion} (hc : c.form = .assembly) {source : Path}
    {symbol : Symbol} {store : Store} {location : Location} {node : Node} {path : String}
    (hf : store.find source = .ok (location, node)) (hd : node ≠ .directory)
    (hp : source.text? = some path) :
    c.openSource source symbol store =
      .ok ⟨node.size, location, AssemblyListing.listing c.width symbol path node.size⟩ := by
  unfold openSource
  rw [hf]
  split
  · cases ‹_ = _›
  · cases ‹_ = _›
    exact absurd rfl hd
  · cases ‹Except.ok _ = _›
    simp [hc, hp]

end Conversion

namespace AssemblyListing

theorem emission_listing (width : WordWidth) (symbol : Symbol) (path : String) (length : ℕ)
    (reader : Reader) :
    ((listing width symbol path length).emission reader).text =
        assemblyText symbol width length path ∧
      ((listing width symbol path length).emission reader).outcome = .ok length := by
  simp [listing, Listing.emission, Emission.text, assemblyText]

end AssemblyListing

namespace Rendered
variable {r : Rendered} {path : String}

theorem written_assembly (hr : r.conversion.form = .assembly) (hp : r.source.text? = some path) :
    r.length = r.node.size ∧
      r.written = Utf8.encode (assemblyText r.symbol r.conversion.width r.length path) := by
  obtain ⟨input, ho, -, hw, houtcome⟩ := r.exists_input
  have hd : r.node ≠ .directory := by
    obtain ⟨node, hf, hd, -⟩ := Conversion.exists_of_openSource ho
    obtain ⟨-, hnode⟩ := Store.find_unique r.found hf
    exact hnode ▸ hd
  rw [Conversion.openSource_assembly hr r.found hd hp] at ho
  obtain rfl := Except.ok.inj ho
  obtain ⟨htext, hout⟩ := AssemblyListing.emission_listing r.conversion.width r.symbol path
    r.node.size (r.store.readerAfter (r.meanwhile r.store) r.location)
  have hl : r.node.size = r.length := Except.ok.inj (hout.symm.trans houtcome)
  refine ⟨hl.symm, ?_⟩
  rw [hw, Emission.bytes, htext, hl]

theorem read_assembly (hr : r.conversion.form = .assembly) (hs : r.symbol.issue? = none)
    (hp : r.source.text? = some path) (hq : Quotable path) :
    readAssembly? r.written =
      some (["stddef.h", "stdint.h"],
        blobProgram r.symbol r.conversion.width r.length path) := by
  rw [(written_assembly hr hp).2]
  exact readAssembly?_assemblyText hs _ _ hq

theorem exists_of_find {c : Conversion} (hc : c.form = .assembly) {store : Store} {source : Path}
    {location : Location} {node : Node} (hf : store.find source = .ok (location, node))
    (hd : node ≠ .directory) (hp : source.text? = some path) (symbol : Symbol) :
    ∃ r : Rendered, r.conversion = c ∧ r.source = source ∧ r.symbol = symbol ∧
      r.sink = .boundless ∧ r.meanwhile = id ∧ r.store = store ∧ r.length = node.size := by
  have ho : c.openSource source symbol store = _ := Conversion.openSource_assembly hc hf hd hp
  have hout := fun reader =>
    (AssemblyListing.emission_listing c.width symbol path node.size reader).2
  have hsucceeded : (c.render source symbol .boundless id store).result = .ok node.size := by
    rw [Conversion.render_of_openSource ho]
    dsimp only
    rw [(Emission.onto_boundless _).2, hout]
  exact ⟨⟨c, source, symbol, .boundless, id, store, location, node, _, rfl, hf, hsucceeded⟩,
    rfl, rfl, rfl, rfl, rfl, rfl, rfl⟩

end Rendered

namespace Reading

/-- What the program adds to an object file: two global labels, and behind them the word and the
file, at the end of the read-only data. -/
theorem Object.assemble_blobProgram (o : Object) (sizeOf : String → ℕ) (symbol : Symbol)
    (width : WordWidth) (length : ℕ) (path : String) :
    let start := alignUp (wordSize width) (o.size ".rodata")
    o.assemble sizeOf (blobProgram symbol width length path) =
      { current := ".text"
        size := Function.update o.size ".rodata"
          (alignUp (wordSize width) (start + wordSize width + sizeOf path))
        labels := o.labels ++ [(symbol.lengthName, ".rodata", start),
          (symbol.name, ".rodata", start + wordSize width)]
        globals := o.globals ++ [symbol.lengthName, symbol.name]
        words := o.words ++ [(".rodata", start, width, length)]
        contents := o.contents ++ [(".rodata", start + wordSize width, path)] } := by
  simp [Object.assemble, blobProgram, Object.add, Object.moveTo, Object.position]

theorem blobProgram_inj {symbol symbol' : Symbol} {width width' : WordWidth} {length length' : ℕ}
    {path path' : String}
    (h : blobProgram symbol width length path = blobProgram symbol' width' length' path') :
    symbol = symbol' ∧ width = width' ∧ length = length' ∧ path = path' := by
  simp only [blobProgram, List.cons.injEq, Statement.word.injEq, Statement.label.injEq,
    Statement.contents.injEq] at h
  obtain ⟨-, -, -, -, ⟨hwidth, hlength⟩, -, hname, hpath, -⟩ := h
  refine ⟨?_, hwidth, hlength, hpath⟩
  cases symbol
  cases symbol'
  exact congrArg Symbol.mk hname

end Reading

/-- Read as C and then by the assembler, the text of a successful assembly rendering is one
program, from which all that it was made of can be told; and whatever is no directory has such a
text. Behind what the read-only data held before, the program lays down the word, aligned, and
then the file, and makes the two names global. -/
theorem assembly_reading :
    (∀ (r : Rendered) (path : String), r.conversion.form = .assembly → r.symbol.issue? = none →
      r.source.text? = some path → Quotable path →
      (r.conversion.render r.source r.symbol r.sink r.meanwhile r.store).sink.text =
          r.sink.text ++ r.written ∧
        r.length = r.node.size ∧
        readAssembly? r.written =
          some (["stddef.h", "stdint.h"],
            blobProgram r.symbol r.conversion.width r.node.size path)) ∧
    (∀ (r r' : Rendered) (path path' : String), r.conversion.form = .assembly →
      r'.conversion.form = .assembly → r.symbol.issue? = none → r'.symbol.issue? = none →
      r.source.text? = some path → r'.source.text? = some path' → Quotable path →
      Quotable path' → r.written = r'.written →
      r.symbol = r'.symbol ∧ r.conversion.width = r'.conversion.width ∧
        r.node.size = r'.node.size ∧ path = path') ∧
    (∀ (o : Object) (sizeOf : String → ℕ) (symbol : Symbol) (width : WordWidth) (length : ℕ)
      (path : String), ∃ start, wordSize width ∣ start ∧ o.size ".rodata" ≤ start ∧
        start < o.size ".rodata" + wordSize width ∧
        let after := o.assemble sizeOf (blobProgram symbol width length path)
        after.globals = o.globals ++ [symbol.lengthName, symbol.name] ∧
        symbol.lengthName ≠ symbol.name ∧
        after.labels = o.labels ++ [(symbol.lengthName, ".rodata", start),
          (symbol.name, ".rodata", start + wordSize width)] ∧
        after.words = o.words ++ [(".rodata", start, width, length)] ∧
        after.contents = o.contents ++ [(".rodata", start + wordSize width, path)] ∧
        after.current = ".text" ∧ wordSize width ∣ after.size ".rodata" ∧
        ∀ name, name ≠ ".rodata" → after.size name = o.size name) ∧
    (∀ (c : Conversion) (symbol : Symbol) (store : Store) (source : Path) (location : Location)
      (node : Node) (path : String), c.form = .assembly →
      store.find source = .ok (location, node) → node ≠ .directory →
      source.text? = some path →
      ∃ r : Rendered, r.conversion = c ∧ r.source = source ∧ r.symbol = symbol ∧
        r.sink = .boundless ∧ r.meanwhile = id ∧ r.store = store ∧ r.length = node.size) := by
  refine ⟨?_, ?_, ?_, ?_⟩
  · intro r path hr hs hp hq
    obtain ⟨input, -, ht, -, -⟩ := r.exists_input
    have hl := (Rendered.written_assembly hr hp).1
    have hread := Rendered.read_assembly hr hs hp hq
    rw [hl] at hread
    exact ⟨ht, hl, hread⟩
  · intro r r' path path' hr hr' hs hs' hp hp' hq hq' hw
    have hread := Rendered.read_assembly hr hs hp hq
    have hread' := Rendered.read_assembly hr' hs' hp' hq'
    rw [(Rendered.written_assembly hr hp).1, hw] at hread
    rw [(Rendered.written_assembly hr' hp').1, hread] at hread'
    have hprogram := congrArg Prod.snd (Option.some.inj hread')
    exact blobProgram_inj hprogram
  · intro o sizeOf symbol width length path
    have hpos : 0 < wordSize width := by cases width <;> decide
    obtain ⟨hdvd, hle, hlt⟩ := alignUp_spec hpos (o.size ".rodata")
    refine ⟨alignUp (wordSize width) (o.size ".rodata"), hdvd, hle, hlt, ?_⟩
    rw [Object.assemble_blobProgram]
    refine ⟨rfl, symbol.lengthName_ne_name, rfl, rfl, rfl, rfl, ?_, ?_⟩
    · dsimp only
      rw [Function.update_self]
      exact (alignUp_spec hpos _).1
    · intro name hname
      exact Function.update_of_ne hname _ _
  · intro c symbol store source location node path hc hf hd hp
    exact Rendered.exists_of_find hc hf hd hp symbol

/-- A file of three bytes, for each of the two widths. -/
theorem assembly_reading_three :
    (∃ r : Rendered, readAssembly? r.written = some (["stddef.h", "stdint.h"],
      [.inSection ".rodata", .align 4, .global "blob_len", .label "blob_len", .word .bits32 3,
        .global "blob", .label "blob", .contents "f", .align 4, .inSection ".text"])) ∧
    ∃ r : Rendered, readAssembly? r.written = some (["stddef.h", "stdint.h"],
      [.inSection ".rodata", .align 8, .global "blob_len", .label "blob_len", .word .bits64 3,
        .global "blob", .label "blob", .contents "f", .align 8, .inSection ".text"]) := by
  let store : Store := ⟨.single (some (.file (.ofBytes [1, 2, 3]))) [[0x66]], []⟩
  have hf : store.find ⟨[0x66]⟩ = .ok ([[0x66]], .file (.ofBytes [1, 2, 3])) := by rfl
  have hp : (⟨[0x66]⟩ : Path).text? = some "f" := by decide
  have hread : ∀ width, ∃ r : Rendered, readAssembly? r.written =
      some (["stddef.h", "stdint.h"], blobProgram ⟨"blob"⟩ width 3 "f") := by
    intro width
    obtain ⟨r, hc, hsource, hsymbol, -, -, hstore, hlength⟩ :=
      assembly_reading.2.2.2 ⟨.assembly, width⟩ ⟨"blob"⟩ store ⟨[0x66]⟩ _ _ "f" rfl hf
        (by decide) hp
    obtain ⟨-, hl, hread⟩ := assembly_reading.1 r "f" (by rw [hc]) (by rw [hsymbol]; decide)
      (by rw [hsource, hp]) (by decide)
    refine ⟨r, ?_⟩
    rw [hread, hsymbol, hc, ← hl, hlength]
    rfl
  exact ⟨hread .bits32, hread .bits64⟩

end BlobSource
