import BlobSource.Proofs.Rendered
import BlobSource.Proofs.Store.Overwriting

/-! Writing to a file: what is handed over to the receiver in one case is in the file in the
other. -/
namespace BlobSource

namespace Emission

theorem onto_buffered (e : Emission) :
    ∃ after : Buffered, e.onto (Buffered.ofSink .boundless) = (after, e.outcome) ∧
      after.sink.room? = none ∧ after.text = e.bytes := by
  obtain ⟨after, hw, hroom, htext⟩ := Buffered.writeAll_of_boundless
    (b := .ofSink .boundless) rfl rfl e.pieces
  refine ⟨after, ?_, hroom, htext⟩
  unfold onto
  rw [hw]

end Emission

/-- What is written before anything of the source is read. -/
def Listing.head : Listing → List String
  | settled _ _ => []
  | streamed head _ => head

/-- Whatever the receiver does to the source, what is listed is what the source holds once the head
is written. -/
theorem Listing.onto_eq {σ : Type} [Receiver σ] (listing : Listing) (source : σ → Reader) (t : σ) :
    listing.onto source t =
      (listing.emission (source (Receiver.writeAll t (.ofList listing.head)).1)).onto t := by
  cases listing with
  | settled pieces length => rfl
  | streamed head body =>
    rw [← onto_const]
    dsimp only [onto, Listing.head]
    rcases Receiver.writeAll t (.ofList head) with ⟨after, refusal?⟩
    cases refusal? <;> rfl

/-- The source as it is when its reading begins, once the destination has been emptied and holds what
the buffer has handed on of the head. -/
def Input.readerOver (input : Input) (s : Store) (l : Location) : Reader :=
  let begun := (Receiver.writeAll (Buffered.ofSink .boundless) (.ofList input.listing.head)).1
  (s.put l (.file (.ofBytes begun.sink.text))).readerAt input.location

theorem Input.readerOver_of_ne {input : Input} {s : Store} {l : Location} (hl : l ≠ [])
    (hne : input.location ≠ l) : input.readerOver s l = s.readerAt input.location :=
  Store.readerAt_put_of_ne s hl hne _

namespace Conversion
variable {c : Conversion} {source destination : Path} {symbol : Symbol} {s : Store}
  {input : Input} {l : Location}

theorem finish_of_boundless {out : Buffered} (h : out.sink.room? = none)
    (result : Except ConversionError ℕ) :
    (finish out result).1.sink.text = out.text ∧ (finish out result).2 = result := by
  unfold finish
  rw [Buffered.flush_of_boundless h]
  cases result <;> simp [Sink.text, Buffered.text]

theorem openSource_put_file (ho : c.openSource source symbol s = .ok input) (hl : s.IsFree l)
    (hne : input.location ≠ l) (content : Content) :
    c.openSource source symbol (s.put l (.file content)) = .ok input := by
  obtain ⟨node, hf, hd, -, -⟩ := exists_of_openSource ho
  have hf' := Store.find_put_file hl content hf hne
  rw [← ho]
  unfold openSource
  rw [hf, hf']

theorem embed_of_openSource_error {e : ConversionError}
    (ho : c.openSource source symbol s = .error e) (destination : Path) :
    c.embed source destination symbol s = ⟨s, [], .error e⟩ := by
  unfold embed
  rw [ho]

/-- A listing of an opened source ends badly in two ways. Only a receiver can refuse it. -/
theorem error_of_outcome (ho : c.openSource source symbol s = .ok input) {reader : Reader}
    {e : ConversionError} (h : (input.listing.emission reader).outcome = .error e) :
    (∃ cause, e = .sourceUnreadable source cause) ∨
      ∃ expected actual, e = .lengthMismatch source expected actual := by
  obtain ⟨node, -, -, -, ⟨-, -, hlisting⟩ | ⟨-, path, -, hlisting⟩⟩ := exists_of_openSource ho
  · rw [hlisting] at h
    cases hf : reader.failure? with
    | some cause =>
      simp only [ArrayListing.listing, Listing.emission, ArrayListing.body, hf] at h
      cases h
      exact .inl ⟨cause, rfl⟩
    | none =>
      simp only [ArrayListing.listing, Listing.emission, ArrayListing.body, hf] at h
      split at h
      · cases h
      · cases h
        exact .inr ⟨_, _, rfl⟩
  · rw [hlisting] at h
    cases h

/-- The file holds a whole emission in the end, and nothing besides changes. -/
theorem embed_eq_of_opens (ho : c.openSource source symbol s = .ok input)
    (hd : s.Opens destination l) : c.embed source destination symbol s =
      let emission := input.listing.emission (input.readerOver s l)
      ⟨s.put l (.file (.ofBytes emission.bytes)),
        [.generating symbol c.form input.length source],
        emission.outcome.map (⟨symbol, ·, c.form, destination⟩)⟩ := by
  have hl := hd.isFree.ne_nil
  have hreader : input.listing.onto (fun out : Buffered => ((s.put l (.file .empty)).fill l
      (.ofBytes out.sink.text)).readerAt input.location) (.ofSink .boundless) =
      (input.listing.emission (input.readerOver s l)).onto (.ofSink .boundless) := by
    rw [Listing.onto_eq, Store.fill_put s hl]
    rfl
  generalize input.readerOver s l = reader at hreader
  obtain ⟨after, honto, hroom, htext⟩ := (input.listing.emission reader).onto_buffered
  obtain ⟨hsink, hresult⟩ := finish_of_boundless hroom (input.listing.emission reader).outcome
  unfold embed
  rw [ho, hd.create]
  dsimp only
  rw [Store.sinkAt_put s hl, hreader, honto]
  dsimp only
  rw [hsink, hresult, htext, Store.fill_put s hl]
  cases houtcome : (input.listing.emission reader).outcome with
  | ok n => rfl
  | error e =>
    rcases error_of_outcome ho houtcome with ⟨cause, rfl⟩ | ⟨expected, actual, rfl⟩ <;> rfl

theorem exists_of_embed {report : Report}
    (h : (c.embed source destination symbol s).result = .ok report) :
    ∃ input, c.openSource source symbol s = .ok input ∧
      ((∃ l, s.Opens destination l) ∨ (c.embed source destination symbol s).store = s ∧
        ∃ l device, s.find destination = .ok (l, .device device)) := by
  cases ho : c.openSource source symbol s with
  | error e =>
    rw [embed_of_openSource_error ho] at h
    cases h
  | ok input =>
    refine ⟨input, rfl, ?_⟩
    cases hc : s.create destination with
    | error cause =>
      unfold embed at h
      rw [ho, hc] at h
      cases h
    | ok created =>
      obtain ⟨opened, l⟩ := created
      rcases Store.create_cases hc with ⟨hopens, -⟩ | ⟨rfl, device, hdevice⟩
      · exact .inl ⟨l, hopens⟩
      · refine .inr ⟨?_, l, device, Store.find_of_create_device hc hdevice⟩
        unfold embed
        rw [ho, hc]
        exact Store.fill_of_device hdevice _

/-- From another place than the destination the source is listed as it was before. -/
theorem embed_of_opens (ho : c.openSource source symbol s = .ok input)
    (hd : s.Opens destination l) (hne : input.location ≠ l) :
    c.embed source destination symbol s =
      let emission := input.listing.emission (s.readerAt input.location)
      ⟨s.put l (.file (.ofBytes emission.bytes)),
        [.generating symbol c.form input.length source],
        emission.outcome.map (⟨symbol, ·, c.form, destination⟩)⟩ := by
  rw [embed_eq_of_opens ho hd, Input.readerOver_of_ne hd.isFree.ne_nil hne]

end Conversion
end BlobSource
