import BlobSource.CommandLine.Program
import BlobSource.Proofs.Path.Segments
import BlobSource.Proofs.Refinement
import BlobSource.Proofs.Strict

/-! The build step, the command line and rendering: what one of them makes of a source, all of them
make of it. -/
namespace BlobSource

namespace Store

/-- What is read at the source is not what is written to at the destination. -/
def Apart (s : Store) (source destination : Path) : Prop :=
  ∀ l node, s.find source = .ok (l, node) → ¬ s.Opens destination l

/-- The text is in the file at the path, unless a device is there, which keeps none. -/
def Holds (s : Store) (p : Path) (text : Bytes) : Prop :=
  (s.content? p).map Content.toList = some text ∨
    ∃ l device, s.find p = .ok (l, .device device)

end Store

namespace Conversion
variable {c : Conversion} {source destination : Path} {symbol : Symbol} {s : Store} {input : Input}

/-- A rendering that succeeds adds the text to what its receiver keeps. -/
def Hands (c : Conversion) (source : Path) (symbol : Symbol) (s : Store) (text : Bytes) : Prop :=
  ∀ sink n, sink.keepsNothing = false → (c.render source symbol sink id s).result = .ok n →
    (c.render source symbol sink id s).sink.text = sink.text ++ text

/-- The text that a receiver without bounds gets. -/
def rendered (c : Conversion) (source : Path) (symbol : Symbol) (s : Store) : Bytes :=
  (c.render source symbol .boundless id s).sink.text

theorem rendered_of_openSource (ho : c.openSource source symbol s = .ok input) :
    c.rendered source symbol s = (input.listing.emission (s.readerAt input.location)).bytes :=
  (render_boundless ho).1

theorem rendered_of_array (hc : c.form = .array) (source : Path) (symbol : Symbol) (s : Store) :
    c.rendered source symbol s = default.rendered source symbol s := by
  have hopen : c.openSource source symbol s = default.openSource source symbol s := by
    unfold openSource
    rw [hc]
    rfl
  unfold rendered render
  rw [hopen]

theorem hands_rendered (c : Conversion) (source : Path) (symbol : Symbol) (s : Store) :
    c.Hands source symbol s (c.rendered source symbol s) := by
  intro sink n hk hr
  obtain ⟨input, ho, htext, -⟩ := exists_of_render hk hr
  rw [htext, rendered_of_openSource ho, id, Store.readerAfter_self]

theorem emission_of_assembly (hc : c.form = .assembly)
    (ho : c.openSource source symbol s = .ok input) (r r' : Reader) :
    input.listing.emission r = input.listing.emission r' := by
  obtain ⟨node, -, -, -, ⟨harray, -⟩ | ⟨-, path, -, hlisting⟩⟩ := exists_of_openSource ho
  · rw [hc] at harray
    cases harray
  · rw [hlisting]
    rfl

theorem holds_embed {report : Report} (h : (c.embed source destination symbol s).result = .ok report)
    (hs : c.form = .array → s.Apart source destination) :
    (c.embed source destination symbol s).store.Holds destination (c.rendered source symbol s) := by
  obtain ⟨input, ho, ⟨l, hopens⟩ | ⟨hstore, hdevice⟩⟩ := exists_of_embed h
  · have hemission : input.listing.emission (input.readerOver s l) =
        input.listing.emission (s.readerAt input.location) := by
      cases hform : c.form with
      | assembly => exact emission_of_assembly hform ho _ _
      | array =>
        obtain ⟨node, hf, -⟩ := exists_of_openSource ho
        have hne : input.location ≠ l := by
          rintro rfl
          exact hs hform _ _ hf hopens
        rw [Input.readerOver_of_ne hopens.isFree.ne_nil hne]
    left
    rw [embed_eq_of_opens ho hopens]
    dsimp only
    rw [hopens.content?_put_file, hemission, rendered_of_openSource ho, Option.map_some,
      Content.toList_ofBytes]
  · right
    rw [hstore]
    exact hdevice

end Conversion

namespace BuildStep
variable {b : BuildStep} {env : Environment} {s : Store} {c : Conversion} {source : Path}

theorem form_of_target (h : b.target env s = .ok (c, source)) :
    c.form = b.form ∧ (b.form = .array → source = b.source) := by
  cases hb : b.form with
  | array =>
    rw [target_of_array hb] at h
    cases h
    exact ⟨rfl, fun _ => rfl⟩
  | assembly =>
    rw [target_of_assembly hb] at h
    split at h
    · cases h
    · cases h
      exact ⟨rfl, fun harray => by cases harray⟩
    · cases h

/-- A step that succeeds leaves the text at its destination. An array must not be written over the
source that it is read from. -/
def Leaves (b : BuildStep) (env : Environment) (s : Store) (text : Bytes) : Prop :=
  ∀ d, (b.run env s).result = .ok d → (b.form = .array → s.Apart b.source d) →
    (b.run env s).store.Holds d text

theorem leaves_rendered {symbol : Symbol} (htarget : b.target env s = .ok (c, source))
    (hsymbol : b.symbol = .ok symbol) : b.Leaves env s (c.rendered source symbol s) := by
  intro d hd hs
  obtain ⟨j, report, hj, hreport, hstore, rfl⟩ := exists_job_of_run hd
  obtain ⟨dir, hsettled, -, -, htarget', -⟩ := exists_of_job hj
  obtain ⟨rfl, rfl⟩ := Prod.mk.inj (Except.ok.inj (htarget.symm.trans htarget'))
  obtain rfl : symbol = j.symbol := Except.ok.inj (hsymbol.symm.trans hsettled)
  rw [hstore]
  obtain ⟨hform, hsource⟩ := form_of_target htarget
  refine Conversion.holds_embed hreport fun harray => ?_
  rw [hform] at harray
  rw [hsource harray]
  exact hs harray

theorem leaves_rendered_absolute {symbol : Symbol} {width : WordWidth} {q : Path}
    (hb : b.form = .assembly) (hsymbol : b.symbol = .ok symbol)
    (hwidth : env.targetWidth = .ok width)
    (habsolute : Path.absolute? s.here.toPath b.source = some q) :
    b.Leaves env s ((Conversion.mk .assembly width).rendered q symbol s) := by
  intro d hd hs
  obtain ⟨j, -, hj, -⟩ := exists_job_of_run hd
  obtain ⟨-, -, -, -, htarget, -⟩ := exists_of_job hj
  have hreached : b.target env s = .ok (⟨.assembly, width⟩, q) := by
    rw [target_of_assembly hb, hwidth] at htarget ⊢
    cases hsource : s.absolute b.source with
    | error cause =>
      rw [hsource] at htarget
      cases htarget
    | ok source =>
      obtain ⟨hfound, -⟩ := Store.absolute_eq_ok_iff.1 hsource
      obtain rfl : q = source := Option.some.inj (habsolute.symm.trans hfound)
      rfl
  exact leaves_rendered hreached hsymbol d hd hs

end BuildStep

namespace CommandLine
variable {t : Toolkit} {args : List Bytes} {a : Arguments} {s : Store} {symbol : Symbol}

theorem Toolkit.run_of_parse (h : t.parse args = .ok (.convert a)) (logVariable? : Option Bytes)
    (s : Store) :
    t.run args logVariable? s = t.convert a (t.filterFor logVariable? a.verbose) s := by
  unfold run
  rw [h]

/-- A run with these arguments that succeeds leaves the text at its destination. -/
def Arguments.Leaves (a : Arguments) (s : Store) (text : Bytes) : Prop :=
  ∀ (t : Toolkit) (args : List Bytes) (logVariable? : Option Bytes),
    t.parse args = .ok (.convert a) → (t.run args logVariable? s).exit = .success →
    (a.conversion.form = .array → s.Apart a.source a.destination) →
    (t.run args logVariable? s).store.Holds a.destination text

theorem Arguments.leaves_rendered (hsymbol : a.symbol = .ok symbol) (s : Store) :
    a.Leaves s (a.conversion.rendered a.source symbol s) := by
  intro t args logVariable? hparse hexit hs
  have hasked : (Call.program t args logVariable?).job? s = a.job.map some :=
    Toolkit.job?_eq_map hparse
  obtain ⟨j, report, hj, hreport⟩ := Call.exists_job_of_asked hasked hexit
  have hstore := Call.run_eq s (.program t args logVariable?)
  rw [hasked, hj] at hstore
  change (t.run args logVariable? s).store = (j.embedding s).store at hstore
  obtain ⟨hsettled, -, hjob⟩ := job_eq_ok_iff.1 hj
  obtain rfl : symbol = j.symbol := Except.ok.inj (hsymbol.symm.trans hsettled)
  rw [hstore]
  rw [hjob] at hreport ⊢
  exact Conversion.holds_embed hreport hs

theorem Toolkit.exit_of_settled (t : Toolkit) (hsymbol : a.symbol = .ok symbol)
    (hsettled : symbol.issue? = none ∨ a.strict = false) (filter : LogLine → Bool) (s : Store) :
    (t.convert a filter s).exit =
      match (a.conversion.embed a.source a.destination symbol s).result with
      | .ok _ => .success
      | .error _ => .failure := by
  have hj : a.job = .ok ⟨a.conversion, a.source, a.destination, symbol⟩ :=
    Arguments.job_eq_ok_iff.2 ⟨hsymbol, hsettled, rfl⟩
  have hconvert := convert_of_job t a filter s
  rw [hj] at hconvert
  obtain ⟨-, hresult⟩ := hconvert
  unfold Job.embedding at hresult
  dsimp only at hresult
  cases hr : (a.conversion.embed a.source a.destination symbol s).result with
  | ok report =>
    rw [hr] at hresult
    exact hresult
  | error e =>
    rw [hr] at hresult
    exact hresult.1

end CommandLine

/-- Of a source and a symbol every front end makes the same. For an array the step, the command line
and rendering agree on the text whenever they succeed. For an assembler block the step agrees with
the other two on the absolute path of its source, from which the same symbol is derived. With a
settled symbol the command line ends like the embedding that it asks for. -/
theorem front_ends_agree (s : Store) (source : Path) (symbol : Symbol) :
    (let text := Conversion.default.rendered source symbol s;
      (∀ c : Conversion, c.form = .array → c.Hands source symbol s text) ∧
      (∀ b env, b.form = .array → b.source = source → b.symbol = .ok symbol →
        BuildStep.Leaves b env s text) ∧
      (∀ a, a.conversion.form = .array → a.source = source → a.symbol = .ok symbol →
        CommandLine.Arguments.Leaves a s text)) ∧
    (∀ q, Path.absolute? s.here.toPath source = some q →
      (Symbol.ofPath source = .ok symbol → Symbol.ofPath q = .ok symbol) ∧
      ∀ width,
        let c : Conversion := ⟨.assembly, width⟩
        let text := c.rendered q symbol s
        c.Hands q symbol s text ∧
        (∀ b env, b.form = .assembly → b.source = source → b.symbol = .ok symbol →
          env.targetWidth = .ok width → BuildStep.Leaves b env s text) ∧
        (∀ a, a.conversion = c → a.source = q → a.symbol = .ok symbol →
          CommandLine.Arguments.Leaves a s text)) ∧
    (∀ (t : CommandLine.Toolkit) (args : List Bytes) (a : CommandLine.Arguments),
      t.parse args = .ok (.convert a) → a.symbol = .ok symbol →
      (symbol.issue? = none ∨ a.strict = false) → ∀ logVariable?,
      let result := (a.conversion.embed a.source a.destination symbol s).result
      let exit := (t.run args logVariable? s).exit
      (exit.code = 0 ↔ ∃ report, result = .ok report) ∧
        (exit.code = 1 ↔ ∃ e, result = .error e)) := by
  refine ⟨⟨?_, ?_, ?_⟩, ?_, ?_⟩
  · intro c hc
    rw [← Conversion.rendered_of_array hc]
    exact c.hands_rendered source symbol s
  · rintro b env hb rfl hsymbol
    have htarget : b.target env s = .ok (.default, b.source) := BuildStep.target_of_array hb
    exact BuildStep.leaves_rendered htarget hsymbol
  · rintro a hc rfl hsymbol
    rw [← Conversion.rendered_of_array hc]
    exact CommandLine.Arguments.leaves_rendered hsymbol s
  · intro q habsolute
    refine ⟨Symbol.ofPath_absolute? habsolute, ?_⟩
    intro width
    refine ⟨Conversion.hands_rendered _ q symbol s, ?_, ?_⟩
    · rintro b env hb rfl hsymbol hwidth
      exact BuildStep.leaves_rendered_absolute hb hsymbol hwidth habsolute
    · rintro a hc rfl hsymbol
      rw [← hc]
      exact CommandLine.Arguments.leaves_rendered hsymbol s
  · intro t args a hparse hsymbol hsettled logVariable?
    dsimp only
    rw [t.run_of_parse hparse, t.exit_of_settled hsymbol hsettled]
    cases (a.conversion.embed a.source a.destination symbol s).result with
    | ok report => simp [CommandLine.ExitStatus.code]
    | error e => simp [CommandLine.ExitStatus.code]

/-- A strict step and a command line, which both derive the symbol, on a source of three bytes. -/
theorem front_ends_agree_three :
    let s : Store := ⟨.single (some (.file (.ofBytes [1, 2, 3]))) [[0x66]], []⟩
    let b : BuildStep := ⟨.ofText "f", .array, none, some (.ofText "."), true⟩
    let built := b.run ⟨none, none⟩ s
    let ran := CommandLine.run [Utf8.encode "f", Utf8.encode "g"] none s
    built.result = .ok (.ofText "./f.c") ∧ ran.exit = .success ∧
      ∃ text, built.store.Holds (.ofText "./f.c") text ∧ ran.store.Holds (.ofText "g") text := by
  intro s b built ran
  let a : CommandLine.Arguments := ⟨false, none, none, false, false, .ofText "f", .ofText "g"⟩
  have hparse : CommandLine.Toolkit.usual.parse [Utf8.encode "f", Utf8.encode "g"] =
      .ok (.convert a) := by
    decide +kernel
  have hbuilt : built.result = .ok (.ofText "./f.c") := by decide +kernel
  have hran : ran.exit = .success := by decide +kernel
  have hsymbol : Symbol.ofPath (.ofText "f") = .ok ⟨"f"⟩ := by decide +kernel
  have hsource : s.find (.ofText "f") = .ok ([[0x66]], .file (.ofBytes [1, 2, 3])) := rfl
  have hapart : ∀ d, (s.create d).map (·.2) ≠ .ok [[0x66]] → s.Apart (.ofText "f") d := by
    intro d hd l node hl hopens
    rw [hsource] at hl
    cases hl
    exact hd (by rw [hopens.create]; rfl)
  obtain ⟨⟨-, hstep, hline⟩, -⟩ := front_ends_agree s (.ofText "f") ⟨"f"⟩
  refine ⟨hbuilt, hran, _, hstep b ⟨none, none⟩ rfl rfl hsymbol _ hbuilt ?_,
    hline a rfl rfl hsymbol .usual _ none hparse hran ?_⟩
  · intro _
    exact hapart _ (by decide)
  · intro _
    exact hapart _ (by decide)

end BlobSource
