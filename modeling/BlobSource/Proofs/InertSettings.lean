import BlobSource.Proofs.Strictness

/-! Settings that do not apply. What is converted, what is left and which error is reported do not
depend on them: neither on how much of the log is shown, nor on the width of a word that an array
does not hold, nor on a variable that is not asked for. -/
namespace BlobSource

namespace Conversion
variable {c c' : Conversion}

theorem openSource_of_array (hc : c.form = .array) (hc' : c'.form = .array) (source : Path)
    (symbol : Symbol) (s : Store) :
    c'.openSource source symbol s = c.openSource source symbol s := by
  unfold openSource
  rw [hc, hc']

theorem embed_of_array (hc : c.form = .array) (hc' : c'.form = .array) (source destination : Path)
    (symbol : Symbol) (s : Store) :
    c'.embed source destination symbol s = c.embed source destination symbol s := by
  unfold embed
  rw [openSource_of_array hc hc', hc, hc']

end Conversion

namespace CommandLine

/-- What a run comes to: all but the choice of the log lines that are shown. -/
structure Ending where
  store : Store
  exit : ExitStatus
  stdout : String
  events : List Event
  /-- Printed after the log, whatever is logged. -/
  error : String

/-- Without the settings that do not bear on what is converted: how much is logged and, for an array,
the width of a word. -/
def Arguments.applied (a : Arguments) : Arguments :=
  { a with
    verbose := false
    width? := if a.useAssembly then a.width? else none }

namespace Toolkit
variable {t : Toolkit}

/-- The run that shows of its log what the filter lets through. -/
def shown (t : Toolkit) (filter : LogLine → Bool) (e : Ending) : Run :=
  ⟨e.store, e.exit, e.stdout, t.logText filter e.events ++ e.error⟩

/-- What a conversion comes to, after some events. -/
def endingOf (t : Toolkit) (a : Arguments) (noted : List Event) (embedding : Embedding) : Ending :=
  match embedding.result with
  | .ok report =>
    ⟨embedding.store, .success, "", noted ++ embedding.events ++ [.wrote report], ""⟩
  | .error e =>
    ⟨embedding.store, .failure, "", noted ++ embedding.events, t.report a.failure (causesOf e)⟩

def endingFor (t : Toolkit) (a : Arguments) (s : Store) : Ending :=
  match a.symbol with
  | .error e => ⟨s, .failure, "", [], t.report e.message []⟩
  | .ok symbol =>
    match symbol.issue?, a.strict with
    | some issue, true => ⟨s, .failure, "", [], t.report (refusal symbol issue) []⟩
    | issue?, _ => t.endingOf a (issue?.toList.map (Event.issueFound symbol))
        (a.conversion.embed a.source a.destination symbol s)

def ending (t : Toolkit) (args : List Bytes) (s : Store) : Ending :=
  match t.parse args with
  | .error text => ⟨s, .usage, "", [], text⟩
  | .ok (.inform text) => ⟨s, .success, text, [], ""⟩
  | .ok (.convert a) => t.endingFor a s

def isVerbose (t : Toolkit) (args : List Bytes) : Bool :=
  match t.parse args with
  | .ok (.convert a) => a.verbose
  | _ => false

theorem shown_of_no_events (t : Toolkit) (filter : LogLine → Bool) (s : Store) (exit : ExitStatus)
    (stdout error : String) :
    t.shown filter ⟨s, exit, stdout, [], error⟩ = ⟨s, exit, stdout, error⟩ := by
  simp [shown, logText]

theorem outcome_eq_shown (t : Toolkit) (a : Arguments) (filter : LogLine → Bool)
    (noted : List Event) (embedding : Embedding) :
    t.outcome a filter noted embedding = t.shown filter (t.endingOf a noted embedding) := by
  unfold outcome endingOf
  cases embedding.result with
  | ok report => simp [shown]
  | error e => rfl

theorem convert_eq_shown (t : Toolkit) (a : Arguments) (filter : LogLine → Bool) (s : Store) :
    t.convert a filter s = t.shown filter (t.endingFor a s) := by
  cases hs : a.symbol with
  | error e =>
    unfold convert endingFor
    rw [hs]
    exact (t.shown_of_no_events ..).symm
  | ok symbol =>
    rw [t.convert_of_symbol hs]
    unfold endingFor
    rw [hs]
    dsimp only
    cases symbol.issue? with
    | none => exact t.outcome_eq_shown ..
    | some issue =>
      cases a.strict with
      | false => exact t.outcome_eq_shown ..
      | true => exact (t.shown_of_no_events ..).symm

theorem run_eq_shown (t : Toolkit) (args : List Bytes) (logVariable? : Option Bytes) (s : Store) :
    t.run args logVariable? s =
      t.shown (t.filterFor logVariable? (t.isVerbose args)) (t.ending args s) := by
  unfold run ending isVerbose
  cases t.parse args with
  | error text => exact (t.shown_of_no_events ..).symm
  | ok request =>
    cases request with
    | inform text => exact (t.shown_of_no_events ..).symm
    | convert a => exact t.convert_eq_shown ..

theorem endingFor_applied (t : Toolkit) (a : Arguments) (s : Store) :
    t.endingFor a.applied s = t.endingFor a s := by
  have hembed : a.applied.conversion.embed = a.conversion.embed := by
    cases ha : a.useAssembly with
    | true => simp [Arguments.conversion, Arguments.applied, ha]
    | false =>
      funext source destination symbol s
      apply Conversion.embed_of_array <;> simp [Arguments.conversion, Arguments.applied, ha]
  have hsymbol : a.applied.symbol = a.symbol := rfl
  unfold endingFor
  rw [hsymbol]
  cases a.symbol with
  | error e => rfl
  | ok symbol =>
    dsimp only
    rw [hembed]
    rfl

theorem ending_congr {args args' : List Bytes} {a a' : Arguments}
    (h : t.parse args = .ok (.convert a)) (h' : t.parse args' = .ok (.convert a'))
    (happlied : a'.applied = a.applied) (s : Store) : t.ending args' s = t.ending args s := by
  unfold ending
  rw [h, h']
  dsimp only
  rw [← t.endingFor_applied a', happlied, t.endingFor_applied]

end Toolkit
end CommandLine

theorem BuildStep.run_congr {b : BuildStep} {env env' : Environment}
    (hwidth : b.form = .assembly → env'.targetWidth? = env.targetWidth?)
    (hdir : b.outDir? = none → env'.outDir? = env.outDir?) (s : Store) :
    b.run env' s = b.run env s := by
  have hout : b.outDir env' = b.outDir env := by
    unfold BuildStep.outDir
    cases h : b.outDir? with
    | some dir => rfl
    | none => rw [Environment.outDir, Environment.outDir, hdir h]
  have htarget : b.target env' s = b.target env s := by
    unfold BuildStep.target
    cases h : b.form with
    | array => rfl
    | assembly => rw [Environment.targetWidth, Environment.targetWidth, hwidth h]
  have hprepare : b.prepare env' s = b.prepare env s := by
    rw [BuildStep.prepare, BuildStep.prepare, hout, htarget]
  unfold BuildStep.run
  rw [hprepare]

open CommandLine

/-- Settings that do not apply have no effect. On the variable for the log depends which lines of the
log are shown, and nothing else: neither the exit status nor the files, the standard output, the
error, or what is logged in the first place. Two accepted command lines that differ only in whether
they ask for a verbose log and, for an array, in the width of a word come to the same; refused ones
leave the files alone and have one exit status. A build step does not depend on the width of the
target unless it makes an assembler block, nor on the output directory in the environment unless it
is given none. -/
theorem inert_settings (s : Store) :
    (∀ (t : Toolkit) args logVariable?, t.run args logVariable? s =
      t.shown (t.filterFor logVariable? (t.isVerbose args)) (t.ending args s)) ∧
    (∀ (t : Toolkit) args args' a a', t.parse args = .ok (.convert a) →
      t.parse args' = .ok (.convert a') → Arguments.applied a' = a.applied →
        t.ending args' s = t.ending args s) ∧
    (∀ (t : Toolkit) args text, t.parse args = .error text → ∀ logVariable?,
      (t.run args logVariable? s).exit = .usage ∧ (t.run args logVariable? s).store = s) ∧
    (∀ b env env', (BuildStep.form b = .assembly →
        Environment.targetWidth? env' = Environment.targetWidth? env) →
      (BuildStep.outDir? b = none → Environment.outDir? env' = Environment.outDir? env) →
        b.run env' s = b.run env s) := by
  refine ⟨?_, ?_, ?_, ?_⟩
  · intro t args logVariable?
    exact t.run_eq_shown args logVariable? s
  · intro t args args' a a' h h' happlied
    exact Toolkit.ending_congr h h' happlied s
  · intro t args text h logVariable?
    unfold Toolkit.run
    rw [h]
    exact ⟨rfl, rfl⟩
  · intro b env env' hwidth hdir
    exact BuildStep.run_congr hwidth hdir s

/-- A verbose log and a width for an array, put before and between the operands; and a step with all
it needs, among variables that make no sense. -/
theorem inert_settings_array :
    let s : Store := ⟨.single (some (.file (.ofBytes [1, 2, 3]))) [[0x66]], []⟩
    let t := Toolkit.usual
    let plain := ["f", "o"].map Utf8.encode
    let verbose := ["--verbose", "f", "o"].map Utf8.encode
    let narrow := ["f", "--pointer-width", "32", "o"].map Utf8.encode
    let b : BuildStep := ⟨.ofText "f", .array, none, some ⟨[0x2E]⟩, false⟩
    t.ending verbose s = t.ending plain s ∧ t.ending narrow s = t.ending plain s ∧
      (t.run [] none s).exit = .usage ∧
      b.run ⟨some ⟨[0xFF]⟩, some [0x38]⟩ s = b.run ⟨none, none⟩ s := by
  intro s t plain verbose narrow b
  let a : Arguments := ⟨false, none, none, false, false, .ofText "f", .ofText "o"⟩
  have hplain : t.parse plain = .ok (.convert a) := by decide +kernel
  have hverbose : t.parse verbose = .ok (.convert { a with verbose := true }) := by decide +kernel
  have hnarrow : t.parse narrow = .ok (.convert { a with width? := some .bits32 }) := by
    decide +kernel
  have hnone : ∃ text, t.parse [] = .error text := ⟨_, rfl⟩
  obtain ⟨-, hsame, hrefused, hbuild⟩ := inert_settings s
  obtain ⟨text, htext⟩ := hnone
  refine ⟨hsame t _ _ a _ hplain hverbose rfl, hsame t _ _ a _ hplain hnarrow rfl,
    (hrefused t [] text htext none).1, ?_⟩
  exact hbuild b ⟨none, none⟩ ⟨some ⟨[0xFF]⟩, some [0x38]⟩ (by decide) (by decide)

end BlobSource
