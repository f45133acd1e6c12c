import BlobSource.Proofs.ArrayRoundTrip
import BlobSource.Proofs.AssemblyReading
import BlobSource.Proofs.Embedded

/-! The texts that conversions produce, for a receiver or as a file, and that all of them are whole
listings. -/
namespace BlobSource
open Reading

namespace Conversion
variable {c : Conversion} {source : Path} {symbol : Symbol} {s : Store} {n : ℕ} {text : Bytes}

/-- A conversion succeeds with a length and a text: a receiver holds the text, behind what it held
before, or a file holds it. -/
inductive Produces (c : Conversion) (source : Path) (symbol : Symbol) (s : Store) (n : ℕ) :
    Bytes → Prop where
  | received {sink : Sink} {meanwhile : Store → Store} {text : Bytes} :
      sink.keepsNothing = false →
      (c.render source symbol sink meanwhile s).result = .ok n →
      (c.render source symbol sink meanwhile s).sink.text = sink.text ++ text →
      Produces c source symbol s n text
  | filed {destination : Path} {report : Report} {content : Content} :
      (c.embed source destination symbol s).result = .ok report → report.length = n →
      (c.embed source destination symbol s).store.content? destination = some content →
      Produces c source symbol s n content.toList

private theorem exists_emission_of_embed {destination : Path} {report : Report}
    {content : Content} (hr : (c.embed source destination symbol s).result = .ok report)
    (hcontent :
      (c.embed source destination symbol s).store.content? destination = some content) :
    ∃ (input : Input) (reader : Reader), c.openSource source symbol s = .ok input ∧
      content.toList = (input.listing.emission reader).bytes ∧
      (input.listing.emission reader).outcome = .ok report.length := by
  obtain ⟨input, ho, ⟨l, hopens⟩ | ⟨hstore, l, device, hdevice⟩⟩ := exists_of_embed hr
  · rw [embed_eq_of_opens ho hopens] at hr hcontent
    generalize input.readerOver s l = reader at hr hcontent
    dsimp only at hr hcontent
    rw [hopens.content?_put_file] at hcontent
    refine ⟨input, reader, ho, ?_, ?_⟩
    · rw [← Option.some.inj hcontent, Content.toList_ofBytes]
    · cases houtcome : (input.listing.emission reader).outcome with
      | error e =>
        rw [houtcome] at hr
        cases hr
      | ok n =>
        rw [houtcome] at hr
        cases hr
        rfl
  · rw [hstore] at hcontent
    simp [Store.content?, hdevice] at hcontent

private theorem exists_emission_of_render {sink : Sink} {meanwhile : Store → Store}
    (hk : sink.keepsNothing = false)
    (hr : (c.render source symbol sink meanwhile s).result = .ok n)
    (ht : (c.render source symbol sink meanwhile s).sink.text = sink.text ++ text) :
    ∃ (input : Input) (reader : Reader), c.openSource source symbol s = .ok input ∧
      text = (input.listing.emission reader).bytes ∧
      (input.listing.emission reader).outcome = .ok n := by
  obtain ⟨input, ho, htext, houtcome⟩ := exists_of_render hk hr
  rw [htext] at ht
  exact ⟨input, _, ho, (List.append_cancel_left ht).symm, houtcome⟩

namespace Produces

theorem exists_emission (h : c.Produces source symbol s n text) :
    ∃ (input : Input) (reader : Reader), c.openSource source symbol s = .ok input ∧
      text = (input.listing.emission reader).bytes ∧
      (input.listing.emission reader).outcome = .ok n := by
  cases h with
  | received hk hr ht => exact exists_emission_of_render hk hr ht
  | filed hr hn hcontent => exact hn ▸ exists_emission_of_embed hr hcontent

theorem exists_rows (h : c.Produces source symbol s n text) (hc : c.form = .array) :
    ∃ rows : List Bytes, (∀ row ∈ rows, row ≠ []) ∧ rows.flatten.length = n ∧
      text = Utf8.encode (arrayText symbol n rows) := by
  obtain ⟨input, reader, ho, htext, houtcome⟩ := h.exists_emission
  obtain ⟨node, hf, -, -, -⟩ := exists_of_openSource ho
  have hlisting : input.listing = ArrayListing.listing symbol source node.size :=
    congrArg Input.listing (openSource_array hc hf ho)
  rw [hlisting] at htext houtcome
  obtain ⟨hsound, hdeclared, hsize⟩ := ArrayListing.sound_of_outcome houtcome
  have hlisted := (ArrayListing.emission_of_sound symbol source node.size hsound).1
  refine ⟨reader.rows.toList, Reader.row_ne_nil hsound, ?_, ?_⟩
  · rw [Reader.flatten_rows hsound, Reader.length_bytes, hsize]
  · rw [htext, Emission.bytes, hlisted, hdeclared]

theorem eq_assemblyText (h : c.Produces source symbol s n text) (hc : c.form = .assembly) :
    ∃ location node path, s.find source = .ok (location, node) ∧ n = node.size ∧
      source.text? = some path ∧ text = Utf8.encode (assemblyText symbol c.width n path) := by
  obtain ⟨input, reader, ho, htext, houtcome⟩ := h.exists_emission
  obtain ⟨node, hf, -, -, ⟨harray, -⟩ | ⟨-, path, hpath, hlisting⟩⟩ := exists_of_openSource ho
  · rw [hc] at harray
    cases harray
  · obtain ⟨hblock, hout⟩ := AssemblyListing.emission_listing c.width symbol path node.size reader
    rw [hlisting] at htext houtcome
    have hn : n = node.size := Except.ok.inj (houtcome.symm.trans hout)
    refine ⟨input.location, node, path, hf, hn, hpath, ?_⟩
    rw [htext, Emission.bytes, hblock, hn]

end Produces
end Conversion

theorem Rendered.produces (r : Rendered) :
    r.conversion.Produces r.source r.symbol r.store r.length r.written := by
  obtain ⟨input, -, ht, -, -⟩ := r.exists_input
  exact .received r.keeps r.succeeded ht

theorem Conversion.exists_produces_assembly {c : Conversion} (hc : c.form = .assembly)
    {s : Store} {source : Path} {location : Location} {node : Node} {path : String}
    (hf : s.find source = .ok (location, node)) (hd : node ≠ .directory)
    (hp : source.text? = some path) (symbol : Symbol) :
    ∃ text, c.Produces source symbol s node.size text := by
  obtain ⟨r, rfl, rfl, rfl, -, -, rfl, hlength⟩ := Rendered.exists_of_find hc hf hd hp symbol
  exact ⟨r.written, hlength ▸ r.produces⟩

/-- What can be rendered can be written to a file as well, if that is not the source. -/
theorem Rendered.exists_filed (r : Rendered) (hm : r.meanwhile = id) {destination : Path}
    {l : Location} (hd : r.store.Opens destination l) (hne : r.location ≠ l) :
    let embedding := r.conversion.embed r.source destination r.symbol r.store
    embedding.result = .ok ⟨r.symbol, r.length, r.conversion.form, destination⟩ ∧
      ∃ content, embedding.store.content? destination = some content ∧
        content.toList = r.written := by
  intro embedding
  obtain ⟨input, ho, -, hwritten, houtcome⟩ := r.exists_input
  obtain ⟨node, hfound, -, -, -⟩ := Conversion.exists_of_openSource ho
  obtain ⟨hlocation, -⟩ := Store.find_unique hfound r.found
  have hembed : embedding = _ := Conversion.embed_of_opens ho hd (hlocation ▸ hne)
  simp only [hm, id, Store.readerAfter_self] at hwritten houtcome
  constructor
  · rw [hembed]
    dsimp only
    rw [houtcome]
    rfl
  · refine ⟨.ofBytes r.written, ?_, Content.toList_ofBytes _⟩
    rw [hembed, hwritten]
    dsimp only
    exact hd.content?_put_file _

/-- Of every regular file a text can be filed elsewhere, if the assembly form can name it. -/
theorem Conversion.exists_filed (c : Conversion) {s : Store} {source destination : Path}
    {location l : Location} {content : Content}
    (hf : s.find source = .ok (location, .file content)) (hd : s.Opens destination l)
    (hne : location ≠ l) (hp : c.form = .assembly → ∃ path, source.text? = some path)
    (symbol : Symbol) :
    ∃ (report : Report) (filed : Content),
      (c.embed source destination symbol s).result = .ok report ∧
      (c.embed source destination symbol s).store.content? destination = some filed := by
  have hrendered : ∃ r : Rendered, r.conversion = c ∧ r.source = source ∧ r.symbol = symbol ∧
      r.meanwhile = id ∧ r.store = s := by
    cases hc : c.form with
    | array =>
      obtain ⟨r, h₁, h₂, h₃, -, h₄, h₅, -⟩ := Rendered.exists_of_file hc hf symbol
      exact ⟨r, h₁, h₂, h₃, h₄, h₅⟩
    | assembly =>
      obtain ⟨path, hpath⟩ := hp hc
      obtain ⟨r, h₁, h₂, h₃, -, h₄, h₅, -⟩ :=
        Rendered.exists_of_find hc hf (by simp) hpath symbol
      exact ⟨r, h₁, h₂, h₃, h₄, h₅⟩
  obtain ⟨r, rfl, rfl, rfl, hm, rfl⟩ := hrendered
  obtain ⟨hlocation, -⟩ := Store.find_unique r.found hf
  obtain ⟨hresult, filed, hfiled, -⟩ := r.exists_filed hm hd (hlocation ▸ hne)
  exact ⟨_, filed, hresult, hfiled⟩

end BlobSource
