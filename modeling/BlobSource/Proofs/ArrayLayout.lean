import BlobSource.Proofs.Produced
import BlobSource.Proofs.ReadSchedule
import BlobSource.Proofs.Utf8
import Mathlib.Algebra.Order.Floor.Div

/-! How the text of an array is divided into lines: which bytes stand in which row, and how long
each row and the whole text are. -/
namespace BlobSource
open Reading

namespace ArrayListing

/-- The bytes that stand in one row, of the rows that are counted from zero. -/
def slice (bytes : Bytes) (index : ℕ) : Bytes :=
  bytes.extract (12 * index) (min (12 * index + 12) bytes.length)

/-- One row of a text, and the bytes that it lists. -/
structure IsRow (line : String) (bytes : Bytes) : Prop where
  starts : "    ".toList <+: line.toList
  ends : ",\n".toList <:+ line.toList
  one_line : '\n' ∉ line.toList.dropLast
  lists : listed? line.toList.dropLast = some bytes
  length : line.length = 6 * bytes.length + 4

/-- How the bytes are laid out in a text: between the header and the closing line, in rows of
twelve, of which the last may be short. -/
structure Layout (symbol : Symbol) (bytes text : Bytes) (rows : List String) : Prop where
  text_eq : text =
    Utf8.encode (String.join (header symbol bytes.length ++ rows ++ ["\x7d;\n"]))
  count : rows.length = bytes.length ⌈/⌉ 12
  row (index : ℕ) (h : index < rows.length) : IsRow rows[index] (slice bytes index)
  full (index : ℕ) (h : index + 1 < rows.length) : (slice bytes index).length = 12
  filled (index : ℕ) (h : index < rows.length) : slice bytes index ≠ []
  narrow : ∀ row ∈ rows, row.length ≤ 76
  size : text.length = (Utf8.encode (String.join (header symbol bytes.length))).length +
    6 * bytes.length + 4 * (bytes.length ⌈/⌉ 12) + 3

theorem isRow_row {bytes : Bytes} (h : bytes ≠ []) : IsRow (row bytes) bytes where
  starts := isPrefix_row bytes
  ends := isSuffix_row bytes
  one_line := newline_notMem_dropLast_row bytes
  lists := listed?_row h
  length := length_row h

/-- Rows take six bytes for each byte in them, and four for each of themselves. -/
theorem length_encode_rows {rows : List Bytes} (h : ∀ r ∈ rows, r ≠ []) :
    (Utf8.encode (String.join (rows.map row))).length =
      6 * rows.flatten.length + 4 * rows.length := by
  induction rows with
  | nil => rfl
  | cons r rows ih =>
    have hr := h r List.mem_cons_self
    have hrow : (Utf8.encode (row r)).length = 6 * r.length + 4 := by
      rw [Utf8.length_encode_of_isAscii (isAscii_of_mem_row r), length_row hr]
    have hrest := ih fun r' hr' => h r' (List.mem_cons_of_mem r hr')
    rw [List.map_cons, Utf8.encode_join_cons, List.length_append, hrow, hrest, List.flatten_cons,
      List.length_append, List.length_cons]
    omega

end ArrayListing

theorem length_allRows (bytes : Bytes) : (allRows bytes).length = bytes.length ⌈/⌉ 12 := by
  rw [allRows, List.length_map, List.length_range, Nat.ceilDiv_eq_add_pred_div]
  rfl

open ArrayListing

theorem rowAt_eq_slice (bytes : Bytes) (index : ℕ) : rowAt bytes index = slice bytes index := by
  rw [rowAt, slice, List.extract_eq_take_drop, bytesPerRow, List.take_eq_take_iff,
    List.length_drop]
  omega

theorem length_slice (bytes : Bytes) (index : ℕ) :
    (slice bytes index).length = min 12 (bytes.length - 12 * index) := by
  rw [← rowAt_eq_slice, rowAt, List.length_take, List.length_drop, bytesPerRow]

theorem lt_length_of_row {bytes : Bytes} {index : ℕ} (h : index < (allRows bytes).length) :
    12 * index < bytes.length := by
  rw [length_allRows, Nat.ceilDiv_eq_add_pred_div] at h
  omega

theorem getElem_allRows {bytes : Bytes} {index : ℕ} (h : index < (allRows bytes).length) :
    (allRows bytes)[index] = slice bytes index := by
  rw [← rowAt_eq_slice]
  simp [allRows]

theorem slice_ne_nil {bytes : Bytes} {index : ℕ} (h : index < (allRows bytes).length) :
    slice bytes index ≠ [] := by
  have hbytes := lt_length_of_row h
  apply List.ne_nil_of_length_pos
  rw [length_slice]
  omega

theorem forall_mem_allRows {bytes : Bytes} {P : Bytes → Prop}
    (h : ∀ index, slice bytes index ≠ [] → P (slice bytes index)) : ∀ r ∈ allRows bytes, P r := by
  intro r hr
  obtain ⟨index, hindex, rfl⟩ := List.getElem_of_mem hr
  rw [getElem_allRows hindex]
  exact h index (slice_ne_nil hindex)

theorem length_encode_arrayText (symbol : Symbol) (bytes : Bytes) :
    (Utf8.encode (arrayText symbol bytes.length (allRows bytes))).length =
      (Utf8.encode (String.join (header symbol bytes.length))).length +
        6 * bytes.length + 4 * (bytes.length ⌈/⌉ 12) + 3 := by
  have hne : ∀ r ∈ allRows bytes, r ≠ [] := forall_mem_allRows fun _ h => h
  have hclosing : (Utf8.encode (String.join [closing])).length = 3 := by decide
  rw [arrayText, String.join_append, String.join_append, Utf8.encode_append, Utf8.encode_append,
    List.length_append, List.length_append, length_encode_rows hne, flatten_allRows, hclosing,
    length_allRows]
  omega

theorem ArrayListing.layout_arrayText (symbol : Symbol) (bytes : Bytes) :
    Layout symbol bytes (Utf8.encode (arrayText symbol bytes.length (allRows bytes)))
      ((allRows bytes).map row) := by
  constructor
  case text_eq => rfl
  case count => rw [List.length_map, length_allRows]
  case row =>
    intro index h
    rw [List.length_map] at h
    rw [List.getElem_map, getElem_allRows h]
    exact isRow_row (slice_ne_nil h)
  case full =>
    intro index h
    rw [List.length_map] at h
    have hnext := lt_length_of_row h
    rw [length_slice]
    omega
  case filled =>
    intro index h
    rw [List.length_map] at h
    exact slice_ne_nil h
  case narrow =>
    rw [List.forall_mem_map]
    apply forall_mem_allRows
    intro index h
    have hslice : (slice bytes index).length ≤ 12 := by
      rw [length_slice]
      exact Nat.min_le_left _ _
    rw [length_row h]
    omega
  case size => exact length_encode_arrayText symbol bytes

theorem Reader.toList_rows {reader : Reader} (h : reader.failure? = none) :
    reader.rows.toList = allRows reader.bytes.toList := by
  rw [← toList_rowsOf_true, Deferred.ofList_toList, rows, h]
  rfl

/-- If a listing ends well, it is that of as many bytes as were declared, laid out whole. -/
theorem ArrayListing.layout_of_outcome {symbol : Symbol} {path : Path} {length n : ℕ}
    {reader : Reader} (h : ((listing symbol path length).emission reader).outcome = .ok n) :
    reader.bytes.toList.length = n ∧
      Layout symbol reader.bytes.toList ((listing symbol path length).emission reader).bytes
        ((allRows reader.bytes.toList).map row) := by
  obtain ⟨hsound, hdeclared, hsize⟩ := sound_of_outcome h
  have hlength : reader.bytes.toList.length = length := by
    rw [Reader.length_bytes, hsize, hdeclared]
  have htext := (emission_of_sound symbol path length hsound).1
  refine ⟨hlength.trans hdeclared, ?_⟩
  rw [Emission.bytes, htext, Reader.toList_rows hsound]
  subst hlength
  exact layout_arrayText symbol reader.bytes.toList

/-- However a source divides its bytes over the calls, if all of them are written to a receiver that
keeps them, they are laid out behind what it held before. -/
theorem Inlet.exists_layout {i : Inlet} {symbol : Symbol} {path : Path} {length n : ℕ} {sink : Sink}
    (hk : sink.keepsNothing = false) (h : (i.writeArray symbol path length sink).2 = .ok n) :
    i.held.length = n ∧ ∃ text rows,
      (i.writeArray symbol path length sink).1.text = sink.text ++ text ∧
        Layout symbol i.held text rows := by
  rw [i.writeArray_eq, Emission.onto_sink _ hk] at h ⊢
  dsimp only at h ⊢
  split at h
  · rename_i hroom
    obtain ⟨hlength, hlayout⟩ := layout_of_outcome h
    rw [i.toList_bytes_reader] at hlength hlayout
    refine ⟨hlength, _, _, ?_, hlayout⟩
    rw [Sink.text_offered, Sink.admitted_of_hasRoom hroom]
  · cases h

theorem Rendered.exists_layout {r : Rendered} (hr : r.conversion.form = .array) :
    r.bytes.length = r.length ∧ ∃ rows, Layout r.symbol r.bytes r.written rows := by
  obtain ⟨input, ho, -, hwritten, houtcome⟩ := r.exists_input
  obtain rfl := Conversion.openSource_array hr r.found ho
  obtain ⟨hlength, hlayout⟩ := layout_of_outcome houtcome
  rw [hwritten]
  exact ⟨hlength, _, hlayout⟩

theorem Conversion.Produces.exists_layout {c : Conversion} {source : Path} {symbol : Symbol}
    {s : Store} {n : ℕ} {text : Bytes} (h : c.Produces source symbol s n text)
    (hc : c.form = .array) :
    ∃ bytes rows, bytes.length = n ∧ Layout symbol bytes text rows := by
  obtain ⟨input, reader, ho, htext, houtcome⟩ := h.exists_emission
  obtain ⟨node, hf, -, -, -⟩ := exists_of_openSource ho
  have hlisting : input.listing = listing symbol source node.size :=
    congrArg Input.listing (openSource_array hc hf ho)
  rw [hlisting] at htext houtcome
  obtain ⟨hlength, hlayout⟩ := layout_of_outcome houtcome
  rw [htext]
  exact ⟨_, _, hlength, hlayout⟩

/-- The text of an array is laid out by the positions of the bytes alone: the row with the index `i`
lists those from `12 * i` on, up to twelve, so that as many rows are there as begin. Every source
that holds as many bytes as declared is listed so, however it divides them over the calls. So is
every success: behind what the receiver held before, of what was read of a source, and in a file. -/
theorem array_layout :
    (∀ (i : Inlet) (symbol : Symbol) (path : Path), i.failure? = none →
      let written := i.writeArray symbol path i.held.length Sink.boundless
      written.2 = .ok i.held.length ∧ ∃ rows, Layout symbol i.held written.1.text rows) ∧
    (∀ (i : Inlet) (symbol : Symbol) (path : Path) (length n : ℕ) (sink : Sink),
      sink.keepsNothing = false → (i.writeArray symbol path length sink).2 = .ok n →
      i.held.length = n ∧ ∃ text rows,
        (i.writeArray symbol path length sink).1.text = sink.text ++ text ∧
          Layout symbol i.held text rows) ∧
    (∀ r : Rendered, r.conversion.form = .array →
      r.bytes.length = r.length ∧ ∃ rows, Layout r.symbol r.bytes r.written rows) ∧
    (∀ (c : Conversion) (source : Path) (symbol : Symbol) (s : Store) (n : ℕ) (text : Bytes),
      c.form = .array → c.Produces source symbol s n text →
      ∃ bytes rows, bytes.length = n ∧ Layout symbol bytes text rows) := by
  refine ⟨?_, ?_, ?_, ?_⟩
  · intro i symbol path hsound written
    have hresult : written.2 = .ok i.held.length := by
      have honto : written = _ := i.writeArray_eq symbol path i.held.length Sink.boundless
      have hreader : i.reader.failure? = none := hsound
      rw [honto, (Emission.onto_boundless _).2, (emission_of_sound symbol path _ hreader).2,
        i.size_reader, if_pos rfl]
    obtain ⟨-, text, rows, htext, hlayout⟩ := i.exists_layout rfl hresult
    have hwritten : written.1.text = text := htext
    exact ⟨hresult, rows, hwritten ▸ hlayout⟩
  · intro i symbol path length n sink hk h
    exact i.exists_layout hk h
  · intro r hr
    exact r.exists_layout hr
  · intro c source symbol s n text hc h
    exact h.exists_layout hc

/-- Fourteen bytes, given four and nine at a time with an interruption between, and one byte more than
a row from a file. -/
theorem array_layout_fourteen :
    let bytes : Bytes := [0, 1, 2, 3, 4, 5, 6, 7, 8, 9, 10, 11, 12, 255]
    let written := (Inlet.mk bytes [some 3, none, some 8] none).writeArray ⟨"t"⟩ ⟨[0x74]⟩ 14
      Sink.boundless
    (∃ rows, Layout ⟨"t"⟩ bytes written.1.text rows ∧ rows.length = 2) ∧
      written.1.text.length = 88 + 84 + 8 + 3 ∧
      ∃ r : Rendered, r.bytes = bytes.take 13 ∧
        (∃ rows, Layout r.symbol r.bytes r.written rows) ∧
        ∃ filed rows, filed.length = 13 ∧ Layout r.symbol filed r.written rows := by
  intro bytes written
  obtain ⟨hsound, hkept, hrendered, hproduced⟩ := array_layout
  obtain ⟨hresult, -, -⟩ := hsound ⟨bytes, [some 3, none, some 8], none⟩ ⟨"t"⟩ ⟨[0x74]⟩ rfl
  obtain ⟨-, text, rows, htext, hlayout⟩ := hkept _ _ _ _ _ Sink.boundless rfl hresult
  have hwritten : written.1.text = text := htext
  have hcount : bytes.length ⌈/⌉ 12 = 2 := by decide
  have hheader : (Utf8.encode (String.join (header ⟨"t"⟩ bytes.length))).length = 88 := by decide
  let content : Content := .ofBytes (bytes.take 13)
  let store : Store := ⟨.single (some (.file content)) [[0x74]], []⟩
  have hform : Conversion.default.form = .array := rfl
  have hf : store.find ⟨[0x74]⟩ = .ok ([[0x74]], .file content) := rfl
  obtain ⟨r, hconversion, -, -, -, -, -, hbytes⟩ := Rendered.exists_of_file hform hf ⟨"t"⟩
  rw [← hconversion] at hform
  obtain ⟨hlength, hlaid⟩ := hrendered r hform
  obtain ⟨filed, lines, hfiled, hlines⟩ := hproduced _ _ _ _ _ _ hform r.produces
  refine ⟨⟨rows, hwritten ▸ hlayout, hlayout.count.trans hcount⟩, ?_, r, hbytes, hlaid, filed, lines,
    ?_, hlines⟩
  · rw [hwritten, hlayout.size, hheader, hcount]
    rfl
  · rw [hfiled, ← hlength, hbytes]
    rfl

end BlobSource
