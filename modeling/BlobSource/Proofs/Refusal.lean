import BlobSource.Proofs.Outlet
import BlobSource.Proofs.Rendered

/-! What a receiver that runs out of room gets of a text, and how the conversion ends then. -/
namespace BlobSource

namespace Receiver
variable {σ τ : Type} [Receiver σ] [Receiver τ] {view : σ → τ}

/-- What holds of one piece holds of all: a view that writing agrees with shows what is written. -/
theorem writeAll_view (hk : ∀ t : σ, keepsNothing (view t) = keepsNothing t)
    (hw : ∀ (t : σ) (piece : Bytes), write (view t) piece =
      (view (write t piece).1, (write t piece).2)) (t : σ) (pieces : Deferred String) :
    writeAll (view t) pieces = (view (writeAll t pieces).1, (writeAll t pieces).2) := by
  induction pieces generalizing t with
  | nil => rfl
  | cons piece rest ih =>
    simp only [writeAll, hk, hw]
    split
    · rfl
    · rcases write t (Utf8.encode piece) with ⟨after, refusal?⟩
      cases refusal? with
      | none => exact ih () after
      | some refusal => rfl

end Receiver

theorem Emission.onto_view {σ τ : Type} [Receiver σ] [Receiver τ] (view : σ → τ)
    (hk : ∀ t : σ, Receiver.keepsNothing (view t) = Receiver.keepsNothing t)
    (hw : ∀ (t : σ) (piece : Bytes), Receiver.write (view t) piece =
      (view (Receiver.write t piece).1, (Receiver.write t piece).2)) (e : Emission) (t : σ) :
    e.onto (view t) = (view (e.onto t).1, (e.onto t).2) := by
  unfold onto
  rw [Receiver.writeAll_view hk hw]
  rcases Receiver.writeAll t e.pieces with ⟨after, refusal?⟩
  cases refusal? <;> rfl

namespace Conversion
variable {σ : Type} [Receiver σ]

def deliver (c : Conversion) (source : Path) (symbol : Symbol) (receiver : σ)
    (meanwhile : Store → Store) (s : Store) : σ × Except ConversionError ℕ :=
  match c.openSource source symbol s with
  | .error e => (receiver, .error e)
  | .ok input =>
    input.listing.onto (fun _ => s.readerAfter (meanwhile s) input.location) receiver

theorem render_eq_deliver (c : Conversion) (source : Path) (symbol : Symbol) (sink : Sink)
    (meanwhile : Store → Store) (s : Store) :
    (c.render source symbol sink meanwhile s).sink =
        (c.deliver source symbol sink meanwhile s).1 ∧
      (c.render source symbol sink meanwhile s).result =
        (c.deliver source symbol sink meanwhile s).2 := by
  unfold render deliver
  cases c.openSource source symbol s <;> exact ⟨rfl, rfl⟩

theorem deliver_eq (c : Conversion) (source : Path) (symbol : Symbol) (meanwhile : Store → Store)
    (s : Store) : ∃ emission : Emission, ∀ {σ : Type} [Receiver σ] (receiver : σ),
      c.deliver source symbol receiver meanwhile s = emission.onto receiver := by
  cases ho : c.openSource source symbol s with
  | error e =>
    refine ⟨⟨.nil, .error e⟩, ?_⟩
    intro σ _ receiver
    unfold deliver
    rw [ho]
    rfl
  | ok input =>
    refine ⟨input.listing.emission (s.readerAfter (meanwhile s) input.location), ?_⟩
    intro σ _ receiver
    unfold deliver
    rw [ho]
    exact Listing.onto_const _ _ _

end Conversion

/-- A sink with room for some bytes takes the beginning of an emission. It hides how that would
have ended if it cannot take all of it. -/
theorem Emission.onto_of_room (e : Emission) (sink : Sink) {room : ℕ}
    (hk : sink.keepsNothing = false) (hr : sink.room? = some room) :
    (e.onto sink).1.text = sink.text ++ e.bytes.take room ∧
      (e.onto sink).2 = if e.bytes.length ≤ room then e.outcome
        else .error (.outputRefused sink.refusal) := by
  rw [e.onto_sink hk]
  have htext : (sink.offered e.bytes).text = sink.text ++ e.bytes.take room := by
    rw [Sink.text_offered, Sink.admitted, hr]
  have hfits : sink.hasRoom e.bytes.length = decide (e.bytes.length ≤ room) := by
    rw [Sink.hasRoom, hr]
    rfl
  refine ⟨htext, ?_⟩
  rw [hfits]
  simp

/-- A receiver with room for a number of bytes gets so many bytes of the text that a receiver
without bounds gets, or all of them. If it cannot take all, its refusal is the result, also where
the rendering would have failed later; otherwise the result is that of the receiver without
bounds. It does not matter in which portions the receiver takes the bytes, whether it is
interrupted, and whether it fails or takes nothing where it has no room. -/
theorem rendering_cut_off (c : Conversion) (source : Path) (symbol : Symbol)
    (meanwhile : Store → Store) (s : Store) :
    let whole := c.render source symbol .boundless meanwhile s
    let text := whole.sink.text
    (∀ (room : ℕ) (refusal : FileError),
      let cut := c.render source symbol (.limited room refusal) meanwhile s
      cut.sink.text = text.take room ∧
        cut.result = if text.length ≤ room then whole.result
          else .error (.outputRefused refusal)) ∧
    (∀ outlet : Outlet,
      let cut := c.deliver source symbol outlet meanwhile s
      cut.1.taken = outlet.taken ++ text.take outlet.room ∧
        cut.2 = if text.length ≤ outlet.room then whole.result
          else .error (.outputRefused (outlet.failure?.getD .nothingTaken))) := by
  intro whole text
  obtain ⟨emission, hdeliver⟩ := c.deliver_eq source symbol meanwhile s
  have hrender : ∀ sink : Sink,
      (c.render source symbol sink meanwhile s).sink = (emission.onto sink).1 ∧
        (c.render source symbol sink meanwhile s).result = (emission.onto sink).2 := by
    intro sink
    rw [← hdeliver sink]
    exact c.render_eq_deliver source symbol sink meanwhile s
  have htext : text = emission.bytes := by
    have h := (hrender .boundless).1
    exact (congrArg Sink.text h).trans emission.onto_boundless.1
  have hresult : whole.result = emission.outcome :=
    (hrender .boundless).2.trans emission.onto_boundless.2
  constructor
  · intro room refusal cut
    obtain ⟨hsink, hcut⟩ := hrender (.limited room refusal)
    obtain ⟨htaken, hend⟩ := emission.onto_of_room (.limited room refusal) rfl rfl
    refine ⟨?_, ?_⟩
    · rw [hsink, htaken, htext]
      rfl
    · rw [hcut, hend, htext, hresult]
      rfl
  · intro outlet cut
    have hcut : cut = emission.onto outlet := hdeliver outlet
    have hview := emission.onto_view Outlet.sink (fun _ => rfl) Outlet.sink_write outlet
    obtain ⟨htaken, hend⟩ := emission.onto_of_room outlet.sink rfl rfl
    rw [hview] at htaken hend
    simp only [Outlet.text_sink] at htaken
    rw [hcut, htext, hresult]
    exact ⟨htaken, hend⟩

end BlobSource
