import BlobSource.Proofs.Reading.ArrayText
import BlobSource.Proofs.Rendered

/-! An array listing declares the bytes that were read, and is the only listing that does. -/
namespace BlobSource
open Reading

namespace Store

theorem get?_of_find {s : Store} {p : Path} {location : Location} {node : Node}
    (h : s.find p = .ok (location, node)) : s.get? location = some node := by
  unfold find at h
  split at h
  · cases h
  · cases h
  split at h
  · cases h
    assumption
  · cases h

end Store

namespace Conversion

theorem openSource_array {c : Conversion} (hc : c.form = .array) {source : Path}
    {symbol : Symbol} {store : Store} {input : Input} {location : Location} {node : Node}
    (hf : store.find source = .ok (location, node))
    (h : c.openSource source symbol store = .ok input) :
    input = ⟨node.size, location, ArrayListing.listing symbol source node.size⟩ := by
  obtain ⟨found, hfound, -, hlength, hform⟩ := exists_of_openSource h
  obtain ⟨rfl, rfl⟩ := Store.find_unique hf hfound
  rcases hform with ⟨-, -, hlisting⟩ | ⟨hassembly, -⟩
  · cases input
    subst hlength hlisting
    rfl
  · rw [hc] at hassembly
    cases hassembly

theorem openSource_of_readable {c : Conversion} (hc : c.form = .array) {source : Path}
    {store : Store} {location : Location} {node : Node}
    (hf : store.find source = .ok (location, node)) (hd : node ≠ .directory)
    (hb : node.barrier? = none) (symbol : Symbol) :
    c.openSource source symbol store =
      .ok ⟨node.size, location, ArrayListing.listing symbol source node.size⟩ := by
  unfold openSource
  rw [hf]
  split
  · cases ‹_ = _›
  · cases ‹_ = _›
    exact absurd rfl hd
  · cases ‹Except.ok _ = _›
    rw [hc]
    simp [hb]

end Conversion

namespace ArrayListing

/-- A source that can be read to its end is listed whole, also where it is not of the size that
was declared. -/
theorem emission_of_sound (symbol : Symbol) (path : Path) (length : ℕ) {reader : Reader}
    (h : reader.failure? = none) :
    ((listing symbol path length).emission reader).text =
        arrayText symbol length reader.rows.toList ∧
      ((listing symbol path length).emission reader).outcome =
        if reader.size = length then .ok length
        else .error (.lengthMismatch path length reader.size) := by
  simp [listing, Listing.emission, body, h, Emission.text, arrayText]

theorem emission_of_failure (symbol : Symbol) (path : Path) (length : ℕ) {reader : Reader}
    {cause : FileError} (h : reader.failure? = some cause) :
    ((listing symbol path length).emission reader).outcome =
      .error (.sourceUnreadable path cause) := by
  simp [listing, Listing.emission, body, h]

theorem sound_of_outcome {symbol : Symbol} {path : Path} {length n : ℕ} {reader : Reader}
    (h : ((listing symbol path length).emission reader).outcome = .ok n) :
    reader.failure? = none ∧ length = n ∧ reader.size = n := by
  cases hf : reader.failure? with
  | some cause =>
    rw [emission_of_failure symbol path length hf] at h
    cases h
  | none =>
    rw [(emission_of_sound symbol path length hf).2] at h
    split at h
    · cases h
      exact ⟨rfl, rfl, ‹_›⟩
    · cases h

end ArrayListing

namespace Reader

theorem flatten_rows {reader : Reader} (h : reader.failure? = none) :
    reader.rows.toList.flatten = reader.bytes.toList := by
  rw [rows, h, Option.isNone_none, flatten_rowsOf, List.nil_append]

theorem length_bounds_of_mem_rows {reader : Reader} (h : reader.failure? = none) :
    ∀ row ∈ reader.rows.toList, 0 < row.length ∧ row.length ≤ bytesPerRow := by
  intro row hrow
  rw [rows, h, Option.isNone_none] at hrow
  exact length_bounds_of_mem_rowsOf (by decide) hrow

theorem row_ne_nil {reader : Reader} (h : reader.failure? = none) :
    ∀ row ∈ reader.rows.toList, row ≠ [] := by
  intro row hrow
  exact List.ne_nil_of_length_pos (length_bounds_of_mem_rows h row hrow).1

end Reader

namespace Rendered
variable {r : Rendered}

theorem exists_rows (hr : r.conversion.form = .array) :
    ∃ rows : List Bytes, rows.flatten = r.bytes ∧ (∀ row ∈ rows, row ≠ []) ∧
      r.length = r.bytes.length ∧
      r.written = Utf8.encode (arrayText r.symbol r.bytes.length rows) := by
  obtain ⟨input, ho, -, hw, houtcome⟩ := r.exists_input
  obtain rfl := Conversion.openSource_array hr r.found ho
  obtain ⟨hf, hdeclared, hsize⟩ := ArrayListing.sound_of_outcome houtcome
  have htext := (ArrayListing.emission_of_sound r.symbol r.source r.node.size hf).1
  have hlength : r.bytes.length = r.length := (Reader.length_bytes _).trans hsize
  refine ⟨_, Reader.flatten_rows hf, Reader.row_ne_nil hf, hlength.symm, ?_⟩
  rw [hw, Emission.bytes, htext, hlength, hdeclared]

theorem read_array (hr : r.conversion.form = .array) (hs : r.symbol.issue? = none) :
    readDeclarations? r.written =
      some (["stddef.h", "stdint.h"], [.number "size_t" r.symbol.lengthName r.bytes.length,
        .bytes "uint8_t" r.symbol.name r.bytes]) := by
  obtain ⟨rows, hrows, hne, -, hw⟩ := exists_rows hr
  rw [hw, readDeclarations?_arrayText hs _ hne, hrows]

theorem exists_of_file {c : Conversion} (hc : c.form = .array) {store : Store} {source : Path}
    {location : Location} {content : Content}
    (hf : store.find source = .ok (location, .file content)) (symbol : Symbol) :
    ∃ r : Rendered, r.conversion = c ∧ r.source = source ∧ r.symbol = symbol ∧
      r.sink = .boundless ∧ r.meanwhile = id ∧ r.store = store ∧ r.bytes = content.toList := by
  have hreader : store.readerAt location = .ofContent content := by
    rw [Store.readerAt, Store.get?_of_find hf]
    rfl
  have ho : c.openSource source symbol store =
      .ok ⟨content.size, location, ArrayListing.listing symbol source content.size⟩ :=
    Conversion.openSource_of_readable hc hf (by simp) rfl symbol
  have hsound : (Reader.ofContent content).failure? = none := rfl
  have hout := (ArrayListing.emission_of_sound symbol source content.size hsound).2
  have hsize : (Reader.ofContent content).size = content.size := by
    simp [Reader.ofContent, Reader.size, Delivery.content]
  have hsucceeded : (c.render source symbol .boundless id store).result = .ok content.size := by
    rw [Conversion.render_of_openSource ho]
    dsimp only [id]
    rw [Store.readerAfter_self, hreader, (Emission.onto_boundless _).2, hout, if_pos hsize]
  refine ⟨⟨c, source, symbol, .boundless, id, store, location, _, _, rfl, hf, hsucceeded⟩,
    rfl, rfl, rfl, rfl, rfl, rfl, ?_⟩
  simp only [bytes, id, Store.readerAfter_self, hreader]
  simp [Reader.toList_bytes, Reader.ofContent, Delivery.content]

end Rendered

/-- Read as C, the text of a successful array rendering declares two constants, the length and the
bytes that were read. So no other symbol and no other bytes have the same text; and every regular
file has one. -/
theorem array_round_trip :
    (∀ r : Rendered, r.conversion.form = .array → r.symbol.issue? = none →
      (r.conversion.render r.source r.symbol r.sink r.meanwhile r.store).sink.text =
          r.sink.text ++ r.written ∧
        r.length = r.bytes.length ∧
        readDeclarations? r.written =
          some (["stddef.h", "stdint.h"], [.number "size_t" r.symbol.lengthName r.bytes.length,
            .bytes "uint8_t" r.symbol.name r.bytes])) ∧
    (∀ r r' : Rendered, r.conversion.form = .array → r'.conversion.form = .array →
      r.symbol.issue? = none → r'.symbol.issue? = none → r.written = r'.written →
      r.symbol = r'.symbol ∧ r.bytes = r'.bytes) ∧
    (∀ (c : Conversion) (symbol : Symbol) (store : Store) (source : Path) (location : Location)
      (content : Content), c.form = .array → store.find source = .ok (location, .file content) →
      ∃ r : Rendered, r.conversion = c ∧ r.source = source ∧ r.symbol = symbol ∧
        r.sink = .boundless ∧ r.meanwhile = id ∧ r.store = store ∧ r.bytes = content.toList) := by
  refine ⟨?_, ?_, ?_⟩
  · intro r hr hs
    obtain ⟨input, -, ht, -, -⟩ := r.exists_input
    obtain ⟨-, -, -, hl, -⟩ := Rendered.exists_rows hr
    exact ⟨ht, hl, Rendered.read_array hr hs⟩
  · intro r r' hr hr' hs hs' hw
    have h := (Rendered.read_array hr hs).symm.trans (hw ▸ Rendered.read_array hr' hs')
    simp only [Option.some.injEq, Prod.mk.injEq, List.cons.injEq, Declaration.bytes.injEq,
      true_and, and_true] at h
    obtain ⟨-, hname, hbytes⟩ := h
    refine ⟨?_, hbytes⟩
    cases hsymbol : r.symbol
    cases hsymbol' : r'.symbol
    rw [hsymbol, hsymbol'] at hname
    exact congrArg Symbol.mk hname
  · intro c symbol store source location content hc hf
    exact Rendered.exists_of_file hc hf symbol

/-- Thirteen bytes, one more than fit in a row. -/
theorem array_round_trip_thirteen :
    ∃ r : Rendered, r.bytes = [1, 2, 3, 4, 5, 6, 7, 8, 9, 10, 11, 12, 255] ∧
      readDeclarations? r.written =
        some (["stddef.h", "stdint.h"], [.number "size_t" "blob_len" 13,
          .bytes "uint8_t" "blob" [1, 2, 3, 4, 5, 6, 7, 8, 9, 10, 11, 12, 255]]) := by
  let content : Content := .ofBytes [1, 2, 3, 4, 5, 6, 7, 8, 9, 10, 11, 12, 255]
  let store : Store := ⟨.single (some (.file content)) [[0x66]], []⟩
  have hf : store.find ⟨[0x66]⟩ = .ok ([[0x66]], .file content) := by rfl
  obtain ⟨r, hc, -, hsymbol, -, -, -, hbytes⟩ :=
    array_round_trip.2.2 .default ⟨"blob"⟩ store ⟨[0x66]⟩ _ content rfl hf
  obtain ⟨-, -, hread⟩ := array_round_trip.1 r (by rw [hc]; rfl) (by rw [hsymbol]; decide)
  refine ⟨r, hbytes, ?_⟩
  rw [hread, hsymbol, hbytes]
  rfl

end BlobSource
