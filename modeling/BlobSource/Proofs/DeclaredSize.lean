import BlobSource.Proofs.Produced

/-! The size that an array listing declares and the bytes that it lists are taken from the source at
two times. A conversion succeeds only if they agree. -/
namespace BlobSource
open Reading

namespace Conversion
variable {c : Conversion} {source : Path} {symbol : Symbol} {s : Store} {location : Location}
  {node : Node}

theorem size_of_render_array (hc : c.form = .array) (hf : s.find source = .ok (location, node))
    {sink : Sink} {meanwhile : Store → Store} {n : ℕ}
    (h : (c.render source symbol sink meanwhile s).result = .ok n) :
    node.size = n ∧ (s.readerAfter (meanwhile s) location).bytes.toList.length = n := by
  cases ho : c.openSource source symbol s with
  | error e =>
    unfold render at h
    rw [ho] at h
    cases h
  | ok input =>
    obtain rfl := openSource_array hc hf ho
    rw [render_of_openSource ho] at h
    dsimp only at h
    rcases Emission.result_onto _ sink with houtcome | ⟨cause, hrefused⟩
    · obtain ⟨-, hdeclared, hsize⟩ := ArrayListing.sound_of_outcome (houtcome.symm.trans h)
      exact ⟨hdeclared, (Reader.length_bytes _).trans hsize⟩
    · rw [hrefused] at h
      cases h

end Conversion

/-- An array rendering declares the size that the source had when it was asked for, and lists the
bytes that are read later, whatever has become of the source by then. It succeeds if and only if
these are as many as declared, and else tells both numbers; it fails as well where the reading
does. So no rendering succeeds, and no text is produced, with another number of bytes than is
declared in it. -/
theorem declared_size_checked {c : Conversion} {source : Path} {s : Store} {location : Location}
    {node : Node} (hc : c.form = .array) (hf : s.find source = .ok (location, node))
    (hd : node ≠ .directory) (hb : node.barrier? = none) (symbol : Symbol)
    (meanwhile : Store → Store) :
    let reader := s.readerAfter (meanwhile s) location
    let bytes := reader.bytes.toList
    let rendering := c.render source symbol .boundless meanwhile s
    (reader.failure? = none →
      (∃ rows : List Bytes, rows.flatten = bytes ∧
        (∀ row ∈ rows, 0 < row.length ∧ row.length ≤ bytesPerRow) ∧
        rendering.sink.text = Utf8.encode (arrayText symbol node.size rows)) ∧
      (symbol.issue? = none → readDeclarations? rendering.sink.text =
        some (["stddef.h", "stdint.h"], [.number "size_t" symbol.lengthName node.size,
          .bytes "uint8_t" symbol.name bytes])) ∧
      rendering.result = if bytes.length = node.size then .ok node.size
        else .error (.lengthMismatch source node.size bytes.length)) ∧
    (∀ cause, reader.failure? = some cause →
      rendering.result = .error (.sourceUnreadable source cause)) ∧
    (∀ (sink : Sink) (n : ℕ), (c.render source symbol sink meanwhile s).result = .ok n →
      n = node.size ∧ bytes.length = n) ∧
    (∀ (n : ℕ) (text : Bytes), c.Produces source symbol s n text →
      ∃ rows : List Bytes, text = Utf8.encode (arrayText symbol n rows) ∧
        rows.flatten.length = n) := by
  intro reader bytes rendering
  have ho := Conversion.openSource_of_readable hc hf hd hb symbol
  have hrendering : rendering.sink.text =
        ((ArrayListing.listing symbol source node.size).emission reader).bytes ∧
      rendering.result =
        ((ArrayListing.listing symbol source node.size).emission reader).outcome := by
    have hrender : rendering = _ := Conversion.render_of_openSource ho .boundless meanwhile
    rw [hrender]
    exact Emission.onto_boundless _
  obtain ⟨htext, hresult⟩ := hrendering
  refine ⟨?_, ?_, ?_, ?_⟩
  · intro hsound
    obtain ⟨hlisted, houtcome⟩ :=
      ArrayListing.emission_of_sound symbol source node.size hsound
    have hrows : rendering.sink.text =
        Utf8.encode (arrayText symbol node.size reader.rows.toList) := by
      rw [htext, Emission.bytes, hlisted]
    have hflat : reader.rows.toList.flatten = bytes := Reader.flatten_rows hsound
    refine ⟨⟨_, hflat, Reader.length_bounds_of_mem_rows hsound, hrows⟩, ?_, ?_⟩
    · intro hs
      rw [hrows, readDeclarations?_arrayText hs _ (Reader.row_ne_nil hsound), hflat]
    · have hlength : bytes.length = reader.size := Reader.length_bytes reader
      rw [hresult, houtcome, hlength]
  · intro cause hcause
    rw [hresult, ArrayListing.emission_of_failure symbol source node.size hcause]
  · intro sink n hok
    obtain ⟨hdeclared, hread⟩ := Conversion.size_of_render_array hc hf hok
    exact ⟨hdeclared.symm, hread⟩
  · intro n text hproduced
    obtain ⟨rows, -, hlength, hrows⟩ := hproduced.exists_rows hc
    exact ⟨rows, hrows, hlength⟩

/-- A file of five bytes that has three when it is read. -/
theorem declared_size_checked_shrunk :
    let s : Store := ⟨.single (some (.file (.zeros 5))) [[0x66]], []⟩
    let meanwhile (t : Store) : Store := t.put [[0x66]] (.file (.ofBytes [1, 2, 3]))
    let rendering := Conversion.default.render ⟨[0x66]⟩ ⟨"blob"⟩ .boundless meanwhile s
    readDeclarations? rendering.sink.text = some (["stddef.h", "stdint.h"],
        [.number "size_t" "blob_len" 5, .bytes "uint8_t" "blob" [1, 2, 3]]) ∧
      rendering.result = .error (.lengthMismatch ⟨[0x66]⟩ 5 3) := by
  intro s meanwhile rendering
  have hf : s.find ⟨[0x66]⟩ = .ok ([[0x66]], .file (.zeros 5)) := rfl
  have hchecked := declared_size_checked (c := .default) rfl hf (by simp) rfl ⟨"blob"⟩ meanwhile
  obtain ⟨hsound, -, -, -⟩ := hchecked
  obtain ⟨-, hread, hresult⟩ := hsound rfl
  exact ⟨hread (by decide), hresult⟩

end BlobSource
