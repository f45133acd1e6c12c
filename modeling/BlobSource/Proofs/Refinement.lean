import BlobSource.Proofs.Embedded

/-! Writing to a file refines rendering. -/
namespace BlobSource.Conversion

theorem render_boundless {c : Conversion} {source : Path} {symbol : Symbol} {s : Store}
    {input : Input} (ho : c.openSource source symbol s = .ok input) :
    let emission := input.listing.emission (s.readerAt input.location)
    (c.render source symbol .boundless id s).sink.text = emission.bytes ∧
      (c.render source symbol .boundless id s).result = emission.outcome := by
  simpa only [id_eq, Store.readerAfter_self] using render_boundless_meanwhile ho id

theorem embed_embed (c : Conversion) {source destination : Path} (symbol : Symbol) {s : Store}
    {l : Location} (hd : s.Opens destination l) (hs : ∀ node, s.find source ≠ .ok (l, node)) :
    c.embed source destination symbol (c.embed source destination symbol s).store =
      c.embed source destination symbol s := by
  cases ho : c.openSource source symbol s with
  | error e => rw [embed_of_openSource_error ho, embed_of_openSource_error ho]
  | ok input =>
    obtain ⟨node, hf, -, -, -⟩ := exists_of_openSource ho
    have hne : input.location ≠ l := by
      rintro rfl
      exact hs node hf
    rw [embed_of_opens ho hd hne]
    dsimp only
    rw [embed_of_opens (openSource_put_file ho hd.isFree hne _) (hd.put_file _) hne]
    dsimp only
    rw [Store.readerAt_put_of_ne s hd.isFree.ne_nil hne, Store.put_put]

/-- Where the source and the destination are different files, writing to the destination ends as
rendering to a receiver without bounds does, and leaves in it exactly the text that the receiver
gets, also of a conversion that fails on the way. A source that cannot be opened leaves everything
as it was. What is there after one embedding stays there after the next. Every regular file can be
opened for writing here, and has room without bound. -/
theorem embed_refines_render (c : Conversion) {source destination : Path} (symbol : Symbol)
    {s : Store} {l : Location} (hd : s.Opens destination l)
    (hs : ∀ node, s.find source ≠ .ok (l, node)) :
    let rendering := c.render source symbol .boundless id s
    let embedding := c.embed source destination symbol s
    (∀ n, rendering.result = .ok n →
      embedding.result = .ok ⟨symbol, n, c.form, destination⟩ ∧
        (embedding.store.content? destination).map Content.toList = some rendering.sink.text) ∧
    (∀ e, rendering.result = .error e → embedding.result = .error e) ∧
    (∀ input, c.openSource source symbol s = .ok input →
      (embedding.store.content? destination).map Content.toList = some rendering.sink.text) ∧
    (∀ e, c.openSource source symbol s = .error e →
      rendering.result = .error e ∧ embedding.store = s) ∧
    (∀ k, k ≠ l → embedding.store.get? k = s.get? k) ∧
    c.embed source destination symbol embedding.store = embedding := by
  dsimp only
  cases ho : c.openSource source symbol s with
  | error e =>
    have hrender : (c.render source symbol .boundless id s).result = .error e := by
      unfold render
      rw [ho]
    have hembed := embed_of_openSource_error ho destination
    have hagain := embed_embed c symbol hd hs
    rw [hrender]
    rw [hembed] at hagain ⊢
    exact ⟨by simp, by simp, by simp, by simp, fun _ _ => rfl, hagain⟩
  | ok input =>
    obtain ⟨node, hf, -, -, -⟩ := exists_of_openSource ho
    have hne : input.location ≠ l := by
      rintro rfl
      exact hs node hf
    obtain ⟨htext, hresult⟩ := render_boundless ho
    have hagain := embed_embed c symbol hd hs
    have hcontent := hd.content?_put_file
      (.ofBytes (input.listing.emission (s.readerAt input.location)).bytes)
    rw [htext, hresult]
    rw [embed_of_opens ho hd hne] at hagain ⊢
    dsimp only at hagain ⊢
    rw [hcontent, Option.map_some, Content.toList_ofBytes]
    refine ⟨?_, ?_, fun _ _ => rfl, by simp, ?_, hagain⟩
    · intro n hn
      rw [hn]
      exact ⟨rfl, rfl⟩
    · intro e he
      rw [he]
      rfl
    · intro k hk
      exact Store.get?_put_of_ne s hd.isFree.ne_nil hk _

/-- A destination that held nine bytes, and a source that fails after thirteen, twelve of which are
listed. -/
theorem embed_refines_render_faulty :
    let sound : Content := .ofBytes [1, 2, 3, 4, 5, 6, 7, 8, 9, 10, 11, 12, 13]
    let s : Store := ⟨.place [0x66] (some (.device (.faulty 20 sound))) .nil
      (.single (some (.file (.zeros 9))) [[0x67]]), []⟩
    let embedding := Conversion.default.embed ⟨[0x66]⟩ ⟨[0x67]⟩ ⟨"blob"⟩ s
    embedding.result = .error (.sourceUnreadable ⟨[0x66]⟩ .deviceFailure) ∧
      (embedding.store.content? ⟨[0x67]⟩).map Content.toList =
        some (Conversion.default.render ⟨[0x66]⟩ ⟨"blob"⟩ .boundless id s).sink.text ∧
      Conversion.default.embed ⟨[0x66]⟩ ⟨[0x67]⟩ ⟨"blob"⟩ embedding.store = embedding := by
  intro sound s embedding
  have hd : s.Opens ⟨[0x67]⟩ [[0x67]] := .inr ⟨rfl, .zeros 9, rfl⟩
  have hf : s.find ⟨[0x66]⟩ = .ok ([[0x66]], .device (.faulty 20 sound)) := rfl
  have hs : ∀ node, s.find ⟨[0x66]⟩ ≠ .ok ([[0x67]], node) := by
    intro node h
    rw [hf] at h
    cases h
  obtain ⟨-, hresult, hcontent, -, -, hagain⟩ :=
    embed_refines_render .default ⟨"blob"⟩ hd hs
  exact ⟨hresult _ rfl, hcontent _ rfl, hagain⟩

end BlobSource.Conversion
