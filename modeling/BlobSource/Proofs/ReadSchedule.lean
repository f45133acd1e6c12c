import BlobSource.Proofs.Dependence
import BlobSource.Proofs.Inlet

/-! In which portions a source hands over its bytes, and what interrupts it, shows nowhere in an
array listing. A source that fails loses the row that it has begun, and no other. -/
namespace BlobSource

theorem ArrayListing.emission_eq_of_bytes (symbol : Symbol) (path : Path) (length : ℕ)
    {r r' : Reader} (hbytes : r'.bytes.toList = r.bytes.toList)
    (hfailure : r'.failure? = r.failure?) :
    (listing symbol path length).emission r' = (listing symbol path length).emission r := by
  have hrows := Reader.rows_eq_of_bytes hbytes hfailure
  have hsize := Reader.size_eq_of_bytes hbytes
  simp only [listing, Listing.emission, body, hrows, hsize, hfailure]

theorem ArrayListing.text_of_failure (symbol : Symbol) (path : Path) (length : ℕ) {reader : Reader}
    {cause : FileError} (h : reader.failure? = some cause) :
    ((listing symbol path length).emission reader).text =
      String.join (header symbol length ++ reader.rows.toList.map row) := by
  simp [listing, Listing.emission, body, h, Emission.text]

/-- An array listing is written as if its source gave whatever it is asked for, in whatever portions
it gives its bytes, however often it is interrupted on the way, and whoever receives the listing. So
every source with these bytes and this end is listed. If the source ends, all its bytes are listed,
in rows of which only the last may be short, and it comes out whether they are as many as
declared. If it fails, the rows that have become full are listed, the row that it has begun is
dropped, and the listing is not closed. -/
theorem read_schedule_irrelevant (i : Inlet) (symbol : Symbol) (path : Path) (length : ℕ) :
    let prompt : Inlet := { i with portions := [] }
    let written := i.writeArray symbol path length Sink.boundless
    (∀ {σ : Type} [Receiver σ] (receiver : σ),
      i.writeArray symbol path length receiver = prompt.writeArray symbol path length receiver ∧
      ∀ reader : Reader, reader.bytes.toList = i.held → reader.failure? = i.failure? →
        ((ArrayListing.listing symbol path length).emission reader).onto receiver =
          i.writeArray symbol path length receiver) ∧
    (i.failure? = none →
      written.1.text = Utf8.encode (Reading.arrayText symbol length (allRows i.held)) ∧
      (allRows i.held).flatten = i.held ∧
      written.2 = if i.held.length = length then .ok length
        else .error (.lengthMismatch path length i.held.length)) ∧
    (∀ cause, i.failure? = some cause →
      let listed := i.held.take (bytesPerRow * (i.held.length / bytesPerRow))
      written.1.text = Utf8.encode (String.join
        (ArrayListing.header symbol length ++ (allRows listed).map ArrayListing.row)) ∧
      (allRows listed).flatten = listed ∧ (∀ row ∈ allRows listed, row.length = bytesPerRow) ∧
      written.2 = .error (.sourceUnreadable path cause)) := by
  intro prompt written
  have hwritten : written.1.text =
        ((ArrayListing.listing symbol path length).emission i.reader).bytes ∧
      written.2 = ((ArrayListing.listing symbol path length).emission i.reader).outcome := by
    have honto : written = _ := i.writeArray_eq symbol path length Sink.boundless
    rw [honto]
    exact Emission.onto_boundless _
  obtain ⟨htext, hresult⟩ := hwritten
  refine ⟨?_, ?_, ?_⟩
  · intro σ _ receiver
    refine ⟨?_, ?_⟩
    · rw [i.writeArray_eq, prompt.writeArray_eq]
      rfl
    · intro reader hbytes hfailure
      rw [i.writeArray_eq, ArrayListing.emission_eq_of_bytes symbol path length
        (hbytes.trans i.toList_bytes_reader.symm) hfailure]
  · intro hsound
    have hreader : i.reader.failure? = none := hsound
    obtain ⟨hlisted, houtcome⟩ := ArrayListing.emission_of_sound symbol path length hreader
    have hrows : i.reader.rows.toList = allRows i.held := by
      rw [i.rows_reader, hsound, Option.isNone_none, toList_rowsOf_true]
    refine ⟨?_, flatten_allRows i.held, ?_⟩
    · rw [htext, Emission.bytes, hlisted, hrows]
    · rw [hresult, houtcome, i.size_reader]
  · intro cause hcause listed
    have hreader : i.reader.failure? = some cause := hcause
    have hrows : i.reader.rows.toList = allRows listed := by
      rw [i.rows_reader, hcause, Option.isNone_some, toList_rowsOf_false]
    refine ⟨?_, flatten_allRows listed, ?_, ?_⟩
    · rw [htext, Emission.bytes, ArrayListing.text_of_failure symbol path length hreader, hrows]
    · intro row hrow
      rw [← hrows, i.rows_reader, hcause, Option.isNone_some] at hrow
      exact length_of_mem_rowsOf hrow
    · rw [hresult, ArrayListing.emission_of_failure symbol path length hreader]

/-- Fourteen bytes, given five, nine and none at a time and with interruptions between them, before
the end and before a failure. -/
theorem read_schedule_irrelevant_portions :
    let bytes : Bytes := [0, 1, 2, 3, 4, 5, 6, 7, 8, 9, 10, 11, 12, 255]
    let header := "#include <stddef.h>\n#include <stdint.h>\n\n" ++
      "const size_t t_len = 14;\nconst uint8_t t[] = \x7b\n"
    let row := "    0x00, 0x01, 0x02, 0x03, 0x04, 0x05, 0x06, 0x07, 0x08, 0x09, 0x0A, 0x0B,\n"
    let portions := [none, some 4, none, none, some 8, none, some 0, none]
    let ended := (Inlet.mk bytes portions none).writeArray ⟨"t"⟩ ⟨[0x74]⟩ 14 Sink.boundless
    let failed := (Inlet.mk bytes portions (some .deviceFailure)).writeArray ⟨"t"⟩ ⟨[0x74]⟩ 14
      Sink.boundless
    ended.1.text = Utf8.encode (header ++ row ++ "    0x0C, 0xFF,\n\x7d;\n") ∧ ended.2 = .ok 14 ∧
      failed.1.text = Utf8.encode (header ++ row) ∧
      failed.2 = .error (.sourceUnreadable ⟨[0x74]⟩ .deviceFailure) ∧
      ((ArrayListing.listing ⟨"t"⟩ ⟨[0x74]⟩ 14).emission
        ⟨[.data (.ofBytes bytes), .interruption], none⟩).onto Sink.boundless = ended := by
  intro bytes header row portions ended failed
  obtain ⟨hsame, hended, -⟩ := read_schedule_irrelevant ⟨bytes, portions, none⟩ ⟨"t"⟩ ⟨[0x74]⟩ 14
  obtain ⟨-, -, hfailed⟩ :=
    read_schedule_irrelevant ⟨bytes, portions, some .deviceFailure⟩ ⟨"t"⟩ ⟨[0x74]⟩ 14
  obtain ⟨htext, -, hresult⟩ := hended rfl
  obtain ⟨hcut, -, -, hcause⟩ := hfailed .deviceFailure rfl
  refine ⟨htext.trans (congrArg Utf8.encode ?_), hresult, hcut.trans (congrArg Utf8.encode ?_), hcause,
    (hsame Sink.boundless).2 _ rfl rfl⟩
  · decide +kernel
  · decide +kernel

end BlobSource
