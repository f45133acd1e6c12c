import BlobSource.Proofs.ArrayRoundTrip
import BlobSource.Proofs.AssemblyReading
import BlobSource.Proofs.Refusal

/-! What a rendered text depends on: for an assembler block the path, the size and the width, and
for an array the size and the bytes that are read. Two runs that agree on these cannot be told
apart. -/
namespace BlobSource

/-- A rendering of a source that is there and is no directory. -/
structure Attempt where
  conversion : Conversion
  source : Path
  meanwhile : Store → Store
  store : Store
  location : Location
  node : Node
  found : store.find source = .ok (location, node)
  notDirectory : node ≠ .directory

namespace Attempt

def size (t : Attempt) : ℕ := t.node.size

def reader (t : Attempt) : Reader := t.store.readerAfter (t.meanwhile t.store) t.location

def render (t : Attempt) (symbol : Symbol) (sink : Sink) : Rendering :=
  t.conversion.render t.source symbol sink t.meanwhile t.store

def deliver {σ : Type} [Receiver σ] (t : Attempt) (symbol : Symbol) (receiver : σ) :
    σ × Except ConversionError ℕ :=
  t.conversion.deliver t.source symbol receiver t.meanwhile t.store

/-- Both paths are the same text, or they are the same without being one. -/
def SamePath (t t' : Attempt) : Prop :=
  t.source = t'.source ∨ ∃ path, t.source.text? = some path ∧ t'.source.text? = some path

end Attempt

/-- Two results that differ at most in the path that they name. -/
inductive EndsAlike (p p' : Path) :
    Except ConversionError ℕ → Except ConversionError ℕ → Prop where
  | succeeded (n : ℕ) : EndsAlike p p' (.ok n) (.ok n)
  | mismatched (expected actual : ℕ) :
      EndsAlike p p' (.error (.lengthMismatch p expected actual))
        (.error (.lengthMismatch p' expected actual))
  | unreadable (cause : FileError) :
      EndsAlike p p' (.error (.sourceUnreadable p cause)) (.error (.sourceUnreadable p' cause))
  | refused (cause : FileError) :
      EndsAlike p p' (.error (.outputRefused cause)) (.error (.outputRefused cause))

namespace Conversion

theorem openSource_of_text?_none {c : Conversion} (hc : c.form = .assembly) {source : Path}
    {s : Store} {location : Location} {node : Node} (hf : s.find source = .ok (location, node))
    (hd : node ≠ .directory) (hp : source.text? = none) (symbol : Symbol) :
    c.openSource source symbol s = .error (.pathNotText source) := by
  unfold openSource
  rw [hf]
  split
  · cases ‹_ = _›
  · cases ‹_ = _›
    exact absurd rfl hd
  · simp [hc, hp]

end Conversion

namespace Reader

theorem rows_eq_of_bytes {r r' : Reader} (hbytes : r'.bytes.toList = r.bytes.toList)
    (hfailure : r'.failure? = r.failure?) : r'.rows = r.rows := by
  have h : r'.bytes = r.bytes := Deferred.eq_of_toList_eq hbytes
  rw [rows, rows, hfailure, h]

theorem size_eq_of_bytes {r r' : Reader} (hbytes : r'.bytes.toList = r.bytes.toList) :
    r'.size = r.size := by
  rw [← length_bytes, ← length_bytes, hbytes]

end Reader

/-- Of the reader an array listing uses nothing but the bytes, and how they end. The path is used
for errors alone. -/
theorem ArrayListing.emission_congr (symbol : Symbol) (p p' : Path) (length : ℕ) {r r' : Reader}
    (hbytes : r'.bytes.toList = r.bytes.toList) (hfailure : r'.failure? = r.failure?) :
    ((listing symbol p' length).emission r').pieces =
        ((listing symbol p length).emission r).pieces ∧
      EndsAlike p p' ((listing symbol p length).emission r).outcome
        ((listing symbol p' length).emission r').outcome := by
  have hrows := Reader.rows_eq_of_bytes hbytes hfailure
  have hsize := Reader.size_eq_of_bytes hbytes
  cases hf : r.failure? with
  | some cause =>
    rw [hf] at hfailure
    simp only [listing, Listing.emission, body, hf, hfailure, hrows, true_and]
    exact .unreadable cause
  | none =>
    rw [hf] at hfailure
    simp only [listing, Listing.emission, body, hf, hfailure, hrows, hsize, true_and]
    split
    · exact .succeeded length
    · exact .mismatched length r.size

/-- A receiver gets the same from two emissions with the same pieces. If it refuses one of them, it
refuses the other in the same way. -/
theorem Emission.onto_congr {σ : Type} [Receiver σ] {p p' : Path} {e e' : Emission}
    (hpieces : e'.pieces = e.pieces) (houtcome : EndsAlike p p' e.outcome e'.outcome)
    (receiver : σ) :
    (e'.onto receiver).1 = (e.onto receiver).1 ∧
      EndsAlike p p' (e.onto receiver).2 (e'.onto receiver).2 := by
  unfold onto
  rw [hpieces]
  rcases Receiver.writeAll receiver e.pieces with ⟨after, refusal?⟩
  cases refusal? with
  | none => exact ⟨rfl, houtcome⟩
  | some refusal => exact ⟨rfl, .refused refusal⟩

namespace Attempt
variable {t t' : Attempt} (symbol : Symbol)

theorem deliver_of_assembly (hc : t.conversion.form = .assembly) {path : String}
    (hp : t.source.text? = some path) {σ : Type} [Receiver σ] (receiver : σ) :
    t.deliver symbol receiver =
      (AssemblyListing.listing t.conversion.width symbol path t.size).onto (fun _ => ⟨[], none⟩)
        receiver := by
  unfold deliver Conversion.deliver
  rw [Conversion.openSource_assembly hc t.found t.notDirectory hp]
  rfl

theorem deliver_of_text?_none (hc : t.conversion.form = .assembly) (hp : t.source.text? = none)
    {σ : Type} [Receiver σ] (receiver : σ) :
    t.deliver symbol receiver = (receiver, .error (.pathNotText t.source)) := by
  unfold deliver Conversion.deliver
  rw [Conversion.openSource_of_text?_none hc t.found t.notDirectory hp]

theorem deliver_of_array (hc : t.conversion.form = .array) (hb : t.node.barrier? = none)
    {σ : Type} [Receiver σ] (receiver : σ) :
    t.deliver symbol receiver =
      ((ArrayListing.listing symbol t.source t.size).emission t.reader).onto receiver := by
  unfold deliver Conversion.deliver
  rw [Conversion.openSource_of_readable hc t.found t.notDirectory hb]
  exact Listing.onto_const _ _ _

theorem deliver_congr_assembly (hc : t.conversion.form = .assembly)
    (hc' : t'.conversion.form = .assembly) (hwidth : t'.conversion.width = t.conversion.width)
    (hsize : t'.size = t.size) (hpath : t.SamePath t') {σ : Type} [Receiver σ] (receiver : σ) :
    t'.deliver symbol receiver = t.deliver symbol receiver := by
  have htext : t'.source.text? = t.source.text? := by
    rcases hpath with heq | ⟨path, hp, hp'⟩
    · rw [heq]
    · rw [hp, hp']
  cases hp : t.source.text? with
  | some path =>
    rw [hp] at htext
    rw [deliver_of_assembly symbol hc hp, deliver_of_assembly symbol hc' htext, hwidth, hsize]
  | none =>
    rw [hp] at htext
    have heq : t.source = t'.source := by
      rcases hpath with heq | ⟨path, hsome, -⟩
      · exact heq
      · rw [hp] at hsome
        cases hsome
    rw [deliver_of_text?_none symbol hc hp, deliver_of_text?_none symbol hc' htext, heq]

theorem deliver_congr_array (hc : t.conversion.form = .array) (hc' : t'.conversion.form = .array)
    (hb : t.node.barrier? = none) (hb' : t'.node.barrier? = none) (hsize : t'.size = t.size)
    (hbytes : t'.reader.bytes.toList = t.reader.bytes.toList)
    (hfailure : t'.reader.failure? = t.reader.failure?) {σ : Type} [Receiver σ] (receiver : σ) :
    (t'.deliver symbol receiver).1 = (t.deliver symbol receiver).1 ∧
      EndsAlike t.source t'.source (t.deliver symbol receiver).2
        (t'.deliver symbol receiver).2 := by
  obtain ⟨hpieces, houtcome⟩ :=
    ArrayListing.emission_congr symbol t.source t'.source t.size hbytes hfailure
  rw [deliver_of_array symbol hc hb, deliver_of_array symbol hc' hb', hsize]
  exact Emission.onto_congr hpieces houtcome receiver

theorem result_boundless (hc : t.conversion.form = .array) (hb : t.node.barrier? = none)
    (hsound : t.reader.failure? = none) :
    (t.render symbol .boundless).result =
      if t.reader.bytes.toList.length = t.size then .ok t.size
      else .error (.lengthMismatch t.source t.size t.reader.bytes.toList.length) := by
  have hrender := (t.conversion.render_eq_deliver t.source symbol .boundless t.meanwhile t.store).2
  have hdeliver := deliver_of_array symbol hc hb Sink.boundless
  have houtcome := (ArrayListing.emission_of_sound symbol t.source t.size hsound).2
  rw [Reader.length_bytes]
  exact hrender.trans <| (congrArg Prod.snd hdeliver).trans <|
    (Emission.onto_boundless _).2.trans houtcome

end Attempt

/-- Of two sources with the same size, an assembler block depends on the path and the width alone:
whatever the sources hold, whether they change on the way and whether they can be opened or read,
every receiver gets the same, and the results are the same. An array depends on the bytes that are
read alone: whatever the paths and the widths, every receiver gets the same, and the results differ
at most in the path that an error names. If the bytes could be read to their end, both runs succeed
or both tell the same two numbers. -/
theorem text_determined (symbol : Symbol) (t t' : Attempt)
    (hform : t'.conversion.form = t.conversion.form) (hsize : t'.size = t.size) :
    (t.conversion.form = .assembly → t'.conversion.width = t.conversion.width → t.SamePath t' →
      (∀ sink, (t'.render symbol sink).sink = (t.render symbol sink).sink ∧
        (t'.render symbol sink).result = (t.render symbol sink).result) ∧
      ∀ {σ : Type} [Receiver σ] (receiver : σ),
        t'.deliver symbol receiver = t.deliver symbol receiver) ∧
    (t.conversion.form = .array → t.node.barrier? = none → t'.node.barrier? = none →
      t'.reader.bytes.toList = t.reader.bytes.toList → t'.reader.failure? = t.reader.failure? →
      (∀ sink, (t'.render symbol sink).sink = (t.render symbol sink).sink ∧
        EndsAlike t.source t'.source (t.render symbol sink).result
          (t'.render symbol sink).result) ∧
      (∀ {σ : Type} [Receiver σ] (receiver : σ),
        (t'.deliver symbol receiver).1 = (t.deliver symbol receiver).1 ∧
        EndsAlike t.source t'.source (t.deliver symbol receiver).2
          (t'.deliver symbol receiver).2) ∧
      (t.reader.failure? = none →
        let actual := t.reader.bytes.toList.length
        (t.render symbol .boundless).result =
            (if actual = t.size then .ok t.size
              else .error (.lengthMismatch t.source t.size actual)) ∧
          (t'.render symbol .boundless).result =
            (if actual = t.size then .ok t.size
              else .error (.lengthMismatch t'.source t.size actual)))) := by
  have hrender : ∀ (a : Attempt) (sink : Sink),
      (a.render symbol sink).sink = (a.deliver symbol sink).1 ∧
        (a.render symbol sink).result = (a.deliver symbol sink).2 := fun a sink =>
    a.conversion.render_eq_deliver a.source symbol sink a.meanwhile a.store
  constructor
  · intro hc hwidth hpath
    have hc' := hform.trans hc
    constructor
    · intro sink
      have hsame := Attempt.deliver_congr_assembly symbol hc hc' hwidth hsize hpath sink
      rw [(hrender t sink).1, (hrender t sink).2, (hrender t' sink).1, (hrender t' sink).2, hsame]
      exact ⟨rfl, rfl⟩
    · intro σ _ receiver
      exact Attempt.deliver_congr_assembly symbol hc hc' hwidth hsize hpath receiver
  · intro hc hb hb' hbytes hfailure
    have hc' := hform.trans hc
    refine ⟨?_, ?_, ?_⟩
    · intro sink
      rw [(hrender t sink).1, (hrender t sink).2, (hrender t' sink).1, (hrender t' sink).2]
      exact Attempt.deliver_congr_array symbol hc hc' hb hb' hsize hbytes hfailure sink
    · intro σ _ receiver
      exact Attempt.deliver_congr_array symbol hc hc' hb hb' hsize hbytes hfailure receiver
    · intro hsound
      have hresult' := Attempt.result_boundless symbol hc' hb' (hfailure.trans hsound)
      rw [hbytes, hsize] at hresult'
      exact ⟨Attempt.result_boundless symbol hc hb hsound, hresult'⟩

/-- A file of three bytes that is replaced and a file of that size which may not be opened, under
one path; then two files of five bytes of which three are left when they are read, under two paths,
one of which is no text. -/
theorem text_determined_replaced :
    let holding (name : Bytes) (node : Node) : Store := ⟨.single (some node) [name], []⟩
    let plain := holding [0x66] (.file (.ofBytes [7, 8, 9]))
    let shut := holding [0x66] (.device (.locked 3))
    let zeros := holding [0x66] (.file (.zeros 5))
    let nines := holding [0xFF] (.file (.ofBytes [9, 9, 9, 9, 9]))
    let rewrite (name : Bytes) (t : Store) : Store := t.put [name] (.file (.ofBytes [1, 2, 3]))
    let block : Conversion := ⟨.assembly, .bits32⟩
    (block.render ⟨[0x66]⟩ ⟨"blob"⟩ .boundless id shut).sink =
        (block.render ⟨[0x66]⟩ ⟨"blob"⟩ .boundless (rewrite [0x66]) plain).sink ∧
      ((⟨.array, .bits64⟩ : Conversion).render ⟨[0xFF]⟩ ⟨"blob"⟩ .boundless
          (rewrite [0xFF]) nines).sink =
        ((⟨.array, .bits32⟩ : Conversion).render ⟨[0x66]⟩ ⟨"blob"⟩ .boundless
          (rewrite [0x66]) zeros).sink ∧
      ((⟨.array, .bits64⟩ : Conversion).render ⟨[0xFF]⟩ ⟨"blob"⟩ .boundless
          (rewrite [0xFF]) nines).result = .error (.lengthMismatch ⟨[0xFF]⟩ 5 3) := by
  intro holding plain shut zeros nines rewrite block
  let replaced : Attempt := ⟨block, ⟨[0x66]⟩, rewrite [0x66], plain, _, _, rfl, by decide⟩
  let locked : Attempt := ⟨block, ⟨[0x66]⟩, id, shut, _, _, rfl, by decide⟩
  let short : Attempt :=
    ⟨⟨.array, .bits32⟩, ⟨[0x66]⟩, rewrite [0x66], zeros, _, _, rfl, by decide⟩
  let unnamed : Attempt :=
    ⟨⟨.array, .bits64⟩, ⟨[0xFF]⟩, rewrite [0xFF], nines, _, _, rfl, by decide⟩
  obtain ⟨hblock, -⟩ := text_determined ⟨"blob"⟩ replaced locked rfl rfl
  obtain ⟨-, harray⟩ := text_determined ⟨"blob"⟩ short unnamed rfl rfl
  obtain ⟨hsame, -, hends⟩ := harray rfl rfl rfl rfl rfl
  exact ⟨((hblock rfl rfl (.inl rfl)).1 .boundless).1, (hsame .boundless).1, (hends rfl).2⟩

end BlobSource
