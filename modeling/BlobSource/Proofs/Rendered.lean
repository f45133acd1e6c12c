import BlobSource.Conversion
import BlobSource.Proofs.Received

/-! Renderings that succeed, and the text that they hand over. -/
namespace BlobSource

/-- A rendering that succeeded, for a receiver that keeps what it takes. -/
structure Rendered where
  conversion : Conversion
  source : Path
  symbol : Symbol
  sink : Sink
  meanwhile : Store → Store
  store : Store
  location : Location
  node : Node
  length : ℕ
  keeps : sink.keepsNothing = false
  found : store.find source = .ok (location, node)
  succeeded : (conversion.render source symbol sink meanwhile store).result = .ok length

theorem Store.find_unique {s : Store} {p : Path} {l k : Location} {node found : Node}
    (h : s.find p = .ok (l, node)) (h' : s.find p = .ok (k, found)) : l = k ∧ node = found :=
  Prod.mk.inj (Except.ok.inj (h.symm.trans h'))

namespace Conversion
variable {c : Conversion} {source : Path} {symbol : Symbol} {store : Store} {input : Input}

theorem exists_of_openSource (h : c.openSource source symbol store = .ok input) :
    ∃ node, store.find source = .ok (input.location, node) ∧ node ≠ .directory ∧
      input.length = node.size ∧
      ((c.form = .array ∧ node.barrier? = none ∧
          input.listing = ArrayListing.listing symbol source node.size) ∨
        (c.form = .assembly ∧ ∃ path, source.text? = some path ∧
          input.listing = AssemblyListing.listing c.width symbol path node.size)) := by
  unfold openSource at h
  split at h
  · cases h
  · cases h
  rename_i location node hnode hf
  split at h
  · rename_i hform
    split at h
    · cases h
    · rename_i hb
      cases h
      exact ⟨node, hf, hnode, rfl, .inl ⟨hform, hb, rfl⟩⟩
  · rename_i hform
    split at h
    · rename_i path hp
      cases h
      exact ⟨node, hf, hnode, rfl, .inr ⟨hform, path, hp, rfl⟩⟩
    · cases h

theorem render_of_openSource (h : c.openSource source symbol store = .ok input) (sink : Sink)
    (meanwhile : Store → Store) :
    c.render source symbol sink meanwhile store =
      let written :=
        (input.listing.emission (store.readerAfter (meanwhile store) input.location)).onto sink
      ⟨written.1, meanwhile store, written.2⟩ := by
  simp only [render, h, Listing.onto_const]

/-- A receiver without bounds gets the whole emission, and nothing besides its outcome comes of it. -/
theorem render_boundless_meanwhile (h : c.openSource source symbol store = .ok input)
    (meanwhile : Store → Store) :
    let emission := input.listing.emission (store.readerAfter (meanwhile store) input.location)
    (c.render source symbol .boundless meanwhile store).sink.text = emission.bytes ∧
      (c.render source symbol .boundless meanwhile store).result = emission.outcome := by
  rw [render_of_openSource h]
  exact Emission.onto_boundless _

/-- A rendering that succeeds has written its listing whole, behind what had been written before. -/
theorem exists_of_render {sink : Sink} (hk : sink.keepsNothing = false) {meanwhile : Store → Store}
    {n : ℕ} (hr : (c.render source symbol sink meanwhile store).result = .ok n) :
    ∃ input, c.openSource source symbol store = .ok input ∧
      (c.render source symbol sink meanwhile store).sink.text = sink.text ++
        (input.listing.emission (store.readerAfter (meanwhile store) input.location)).bytes ∧
      (input.listing.emission (store.readerAfter (meanwhile store) input.location)).outcome =
        .ok n := by
  cases ho : c.openSource source symbol store with
  | error e =>
    unfold render at hr
    rw [ho] at hr
    cases hr
  | ok input =>
    have hw :=
      (input.listing.emission (store.readerAfter (meanwhile store) input.location)).onto_sink hk
    rw [render_of_openSource ho, hw] at hr
    dsimp only at hr
    split at hr
    · rename_i hroom
      refine ⟨input, rfl, ?_, hr⟩
      rw [render_of_openSource ho, hw]
      dsimp only
      rw [Sink.text_offered, Sink.admitted_of_hasRoom hroom]
    · cases hr

end Conversion

namespace Rendered
variable (r : Rendered)

/-- The bytes of the source at the time when it was read. -/
def bytes : Bytes := (r.store.readerAfter (r.meanwhile r.store) r.location).bytes.toList

/-- What the receiver got. -/
def written : Bytes :=
  (r.conversion.render r.source r.symbol r.sink r.meanwhile r.store).sink.text.drop
    r.sink.text.length

/-- The listing that was written: it was written whole, and what had been written before is kept. -/
theorem exists_input : ∃ input, r.conversion.openSource r.source r.symbol r.store = .ok input ∧
    (r.conversion.render r.source r.symbol r.sink r.meanwhile r.store).sink.text =
      r.sink.text ++ r.written ∧
    r.written =
      (input.listing.emission (r.store.readerAfter (r.meanwhile r.store) input.location)).bytes ∧
    (input.listing.emission (r.store.readerAfter (r.meanwhile r.store) input.location)).outcome =
      .ok r.length := by
  obtain ⟨input, ho, htext, houtcome⟩ := Conversion.exists_of_render r.keeps r.succeeded
  have hwritten : r.written =
      (input.listing.emission
        (r.store.readerAfter (r.meanwhile r.store) input.location)).bytes := by
    rw [written, htext, List.drop_left]
  rw [hwritten]
  exact ⟨input, ho, htext, rfl, houtcome⟩

end Rendered
end BlobSource
