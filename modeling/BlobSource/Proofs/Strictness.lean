import BlobSource.Proofs.BuildStages
import BlobSource.Proofs.Frame
import BlobSource.Proofs.FrontEnds

/-! What the strict mode changes: it refuses the symbols that C does not take, and that is all. The
other mode warns about them and goes on. -/
namespace BlobSource

/-- A check that only filters. What it accepts goes on unchecked in both modes. What it rejects is
refused in the one, and gets a warning in the other. -/
structure Filters {α : Type} (issue? : Option SymbolIssue) (refused warned : SymbolIssue → α)
    (unchecked strict lenient : α) : Prop where
  accepted : issue? = none → strict = unchecked ∧ lenient = unchecked
  rejected : ∀ issue, issue? = some issue → strict = refused issue ∧ lenient = warned issue

namespace BuildStep

/-- The symbol, if it passes the check. No variable and no file bears on it. -/
def settled (b : BuildStep) : Except ConversionError Symbol := do
  let symbol ← b.symbol
  b.checkSymbol symbol
  return symbol

/-- The step with its symbol settled, and no check of it. -/
def unchecked (b : BuildStep) (symbol : Symbol) (env : Environment) (s : Store) : Built :=
  match b.prepare env s with
  | .error e => ⟨s, "", .error e⟩
  | .ok (dir, conversion, source) =>
    let embedding := conversion.embed source (dir.join (fileName symbol)) symbol s
    ⟨embedding.store, dependency source, embedding.result.map Report.destination⟩

end BuildStep

namespace Built

def refused (s : Store) (symbol : Symbol) (issue : SymbolIssue) : Built :=
  ⟨s, "", .error (.invalidSymbol symbol issue)⟩

/-- Cargo is told of the symbol first. -/
def warned (built : Built) (symbol : Symbol) (issue : SymbolIssue) : Built :=
  { built with
    printed := s!"cargo:warning=bin2c: symbol '{symbol.name}' is not a valid C identifier: " ++
      s!"{issue.message}\n" ++ built.printed }

end Built

namespace CommandLine

/-- The words in which a symbol is refused. -/
def refusal (symbol : Symbol) (issue : SymbolIssue) : String :=
  s!"symbol '{symbol.name}' is not a valid C identifier: {issue.message}"

/-- The line in which the log warns of a symbol. -/
def warningLine (symbol : Symbol) (issue : SymbolIssue) : LogLine :=
  ⟨.warn, "bin2c", "symbol is not a valid C identifier",
    [("symbol", symbol.name), ("issue", issue.message)]⟩

namespace Toolkit

/-- What the filter for a level is relied on for: that it shows the lines up to that level. -/
def ShowsUpTo (t : Toolkit) : Prop :=
  ∀ level line, line.level.rank ≤ Level.rank level → t.upTo level line = true

/-- What a run comes to that has logged some events before its conversion. -/
def outcome (t : Toolkit) (a : Arguments) (filter : LogLine → Bool) (noted : List Event)
    (embedding : Embedding) : Run :=
  match embedding.result with
  | .ok report =>
    ⟨embedding.store, .success, "",
      t.logText filter (noted ++ embedding.events ++ [.wrote report])⟩
  | .error e =>
    ⟨embedding.store, .failure, "",
      t.logText filter (noted ++ embedding.events) ++ t.report a.failure (causesOf e)⟩

/-- The conversion with its symbol settled, and no check of it. -/
def unchecked (t : Toolkit) (a : Arguments) (symbol : Symbol) (filter : LogLine → Bool)
    (s : Store) : Run :=
  t.outcome a filter [] (a.conversion.embed a.source a.destination symbol s)

def refused (t : Toolkit) (s : Store) (symbol : Symbol) (issue : SymbolIssue) : Run :=
  ⟨s, .failure, "", t.report (refusal symbol issue) []⟩

/-- The symbol is logged first, if the filter shows that. -/
def warned (t : Toolkit) (filter : LogLine → Bool) (ran : Run) (symbol : Symbol)
    (issue : SymbolIssue) : Run :=
  let line := warningLine symbol issue
  { ran with stderr := (if filter line then t.spell line else "") ++ ran.stderr }

end Toolkit
end CommandLine

namespace BuildStep
variable {b : BuildStep} {symbol : Symbol}

theorem settled_of_symbol (h : b.symbol = .ok symbol) :
    b.settled = (b.checkSymbol symbol).map fun _ => symbol := by
  unfold settled
  rw [h]
  rfl

theorem settled_of_rejected {issue : SymbolIssue} (h : b.symbol = .ok symbol)
    (hstrict : b.strict = true) (hissue : symbol.issue? = some issue) :
    b.settled = .error (.invalidSymbol symbol issue) := by
  rw [settled_of_symbol h, checkSymbol, if_pos hstrict,
    Symbol.validate_eq_error_iff.2 ⟨issue, hissue, rfl⟩]
  rfl

theorem run_of_settled (b : BuildStep) (env : Environment) (s : Store) :
    b.run env s = match b.settled with
      | .error e => ⟨s, "", .error e⟩
      | .ok symbol =>
        { b.unchecked symbol env s with
          printed := b.warning symbol ++ (b.unchecked symbol env s).printed } := by
  unfold run settled unchecked
  cases b.symbol with
  | error e => rfl
  | ok symbol =>
    dsimp only [bind, Except.bind]
    cases b.checkSymbol symbol with
    | error e => rfl
    | ok _ =>
      dsimp only [pure, Except.pure]
      cases b.prepare env s with
      | error e => simp
      | ok prepared => rfl

theorem run_of_issue?_none (h : b.symbol = .ok symbol) (hissue : symbol.issue? = none)
    (env : Environment) (s : Store) : b.run env s = b.unchecked symbol env s := by
  have hchecked : b.checkSymbol symbol = .ok () := by
    unfold checkSymbol Symbol.validate
    rw [hissue]
    split <;> rfl
  have hsilent : b.warning symbol = "" := by
    unfold warning
    rw [hissue]
  rw [run_of_settled, settled_of_symbol h, hchecked]
  dsimp only [Except.map]
  rw [hsilent, String.empty_append]

theorem run_of_lenient {issue : SymbolIssue} (h : b.symbol = .ok symbol)
    (hlenient : b.strict = false) (hissue : symbol.issue? = some issue) (env : Environment)
    (s : Store) : b.run env s = (b.unchecked symbol env s).warned symbol issue := by
  have hchecked : b.checkSymbol symbol = .ok () := by
    rw [checkSymbol, hlenient]
    rfl
  have hwarning : b.warning symbol =
      s!"cargo:warning=bin2c: symbol '{symbol.name}' is not a valid C identifier: " ++
        s!"{issue.message}\n" := by
    unfold warning
    rw [hissue, hlenient]
    rfl
  rw [run_of_settled, settled_of_symbol h, hchecked]
  dsimp only [Except.map]
  rw [hwarning]
  rfl

theorem filters (h : b.symbol = .ok symbol) (env : Environment) (s : Store) :
    Filters symbol.issue? (Built.refused s symbol) ((b.unchecked symbol env s).warned symbol)
      (b.unchecked symbol env s) (run { b with strict := true } env s)
      (run { b with strict := false } env s) := by
  constructor
  · intro hissue
    exact ⟨run_of_issue?_none (b := { b with strict := true }) h hissue env s,
      run_of_issue?_none (b := { b with strict := false }) h hissue env s⟩
  · intro issue hissue
    refine ⟨?_, run_of_lenient (b := { b with strict := false }) h rfl hissue env s⟩
    rw [run_of_settled, settled_of_rejected (b := { b with strict := true }) h rfl hissue]
    rfl

end BuildStep

theorem Conversion.result_embed_ne_invalidSymbol {c : Conversion} {source destination : Path}
    {symbol other : Symbol} {issue : SymbolIssue} {s : Store} :
    (c.embed source destination symbol s).result ≠ .error (.invalidSymbol other issue) := by
  intro h
  cases ho : c.openSource source symbol s with
  | error e =>
    rw [embed_of_openSource_error ho] at h
    cases h
    unfold openSource at ho
    split at ho
    · cases ho
    · cases ho
    · split at ho <;> split at ho <;> cases ho
  | ok input =>
    cases hc : s.create destination with
    | error cause =>
      rw [embed_of_create_error ho hc] at h
      cases h
    | ok created => cases isLate_of_embed ho hc h

theorem BuildStep.result_eq_invalidSymbol_iff {b : BuildStep} {symbol : Symbol}
    (h : b.symbol = .ok symbol) (hstrict : b.strict = true) (env : Environment) (s : Store)
    (issue : SymbolIssue) :
    (b.run env s).result = .error (.invalidSymbol symbol issue) ↔ symbol.issue? = some issue := by
  constructor
  · intro hresult
    obtain ⟨stage, -, hfails⟩ := result_eq_error_iff.1 hresult
    cases hfails with
    | refused _ _ hissue => exact hissue
    | embedding _ he => exact absurd he Conversion.result_embed_ne_invalidSymbol
  · intro hissue
    rw [run_of_settled, settled_of_rejected h hstrict hissue]

namespace CommandLine
variable {t : Toolkit} {a : Arguments} {symbol : Symbol}

namespace Toolkit

theorem logText_append (t : Toolkit) (filter : LogLine → Bool) (es es' : List Event) :
    t.logText filter (es ++ es') = t.logText filter es ++ t.logText filter es' := by
  simp [logText, String.join_append]

theorem logText_issueFound (t : Toolkit) (filter : LogLine → Bool) (symbol : Symbol)
    (issue : SymbolIssue) : t.logText filter [.issueFound symbol issue] =
      if filter (warningLine symbol issue) then t.spell (warningLine symbol issue) else "" := by
  have hline : LogLine.ofEvent (.issueFound symbol issue) = warningLine symbol issue := rfl
  unfold logText
  rw [List.map_singleton, hline]
  cases hshown : filter (warningLine symbol issue) <;> simp [hshown]

theorem convert_of_symbol (t : Toolkit) (h : a.symbol = .ok symbol) (filter : LogLine → Bool)
    (s : Store) : t.convert a filter s = match symbol.issue?, a.strict with
      | some issue, true => t.refused s symbol issue
      | issue?, _ => t.outcome a filter (issue?.toList.map (Event.issueFound symbol))
          (a.conversion.embed a.source a.destination symbol s) := by
  unfold convert
  rw [h]
  rfl

theorem outcome_issueFound (t : Toolkit) (a : Arguments) (filter : LogLine → Bool)
    (symbol : Symbol) (issue : SymbolIssue) (embedding : Embedding) :
    t.outcome a filter [.issueFound symbol issue] embedding =
      t.warned filter (t.outcome a filter [] embedding) symbol issue := by
  unfold outcome warned
  dsimp only
  rw [← logText_issueFound]
  cases embedding.result with
  | ok report =>
    simp only [List.nil_append, List.append_assoc]
    rw [logText_append]
  | error e =>
    simp only [List.nil_append]
    rw [logText_append, String.append_assoc]

theorem filters (t : Toolkit) (h : a.symbol = .ok symbol) (filter : LogLine → Bool) (s : Store) :
    Filters symbol.issue? (t.refused s symbol)
      (t.warned filter (t.unchecked a symbol filter s) symbol) (t.unchecked a symbol filter s)
      (t.convert { a with strict := true } filter s)
      (t.convert { a with strict := false } filter s) := by
  have hconvert := fun mode => t.convert_of_symbol (a := { a with strict := mode }) h filter s
  constructor
  · intro hi
    have hunchecked : ∀ mode,
        t.convert { a with strict := mode } filter s = t.unchecked a symbol filter s := by
      intro mode
      rw [hconvert mode, hi]
      rfl
    exact ⟨hunchecked true, hunchecked false⟩
  · intro issue hi
    constructor
    · rw [hconvert true, hi]
    · rw [hconvert false, hi]
      exact t.outcome_issueFound a filter symbol issue _

theorem filterFor_warningLine (hshows : t.ShowsUpTo) {value? : Option Bytes}
    (h : t.filter? value? = none) (verbose : Bool) (symbol : Symbol) (issue : SymbolIssue) :
    t.filterFor value? verbose (warningLine symbol issue) = true := by
  have hrank : Level.warn.rank ≤ (if verbose then Level.debug else Level.info).rank := by
    cases verbose <;> decide
  unfold filterFor
  rw [h]
  exact hshows _ _ hrank

end Toolkit

theorem Arguments.job_eq_rejected_iff (h : a.symbol = .ok symbol) (hstrict : a.strict = true)
    (issue : SymbolIssue) :
    a.job = .error (.symbol, .rejected symbol issue) ↔ symbol.issue? = some issue := by
  unfold job
  rw [h]
  dsimp only
  cases hissue : symbol.issue? with
  | none => simp
  | some found => simp [hstrict]

end CommandLine

theorem Call.failure?_eq_rejected_iff {t : CommandLine.Toolkit} {args : List Bytes}
    {a : CommandLine.Arguments} {symbol : Symbol} (hparse : t.parse args = .ok (.convert a))
    (h : a.symbol = .ok symbol) (hstrict : a.strict = true) (logVariable? : Option Bytes)
    (s : Store) (issue : SymbolIssue) :
    (program t args logVariable?).failure? s = some (.symbol, .rejected symbol issue) ↔
      symbol.issue? = some issue := by
  rw [← CommandLine.Arguments.job_eq_rejected_iff h hstrict]
  have hjob : (program t args logVariable?).job? s = a.job.map some :=
    CommandLine.Toolkit.job?_eq_map hparse
  cases hasked : a.job with
  | error failure =>
    rw [hasked] at hjob
    rw [failure?_of_job?_error hjob, Option.some.injEq, Except.error.injEq]
  | ok j =>
    rw [hasked] at hjob
    rw [failure?_of_job? hjob]
    exact iff_of_false (fun hfails => absurd rfl (Job.stage_ne_symbol hfails)) nofun

open CommandLine

/-- The strict mode refuses exactly the symbols with an issue, and changes nothing else; the other
mode does the same as without a check, and warns. A step is refused before any variable or file is
read. A command line is refused whatever the files and the variable for its log are. A step prints
its warning. The command line logs one line, which its filter can hide; without a filter that is
asked for, the line is shown. Both refuse the same symbols. -/
theorem strictness_filters (symbol : Symbol) :
    (∀ b env s, BuildStep.symbol b = .ok symbol →
      Filters symbol.issue? (Built.refused s symbol) ((b.unchecked symbol env s).warned symbol)
        (b.unchecked symbol env s) (BuildStep.run { b with strict := true } env s)
        (BuildStep.run { b with strict := false } env s)) ∧
    (∀ b issue, BuildStep.symbol b = .ok symbol → b.strict = true → symbol.issue? = some issue →
      b.settled = .error (.invalidSymbol symbol issue)) ∧
    (∀ b e, BuildStep.settled b = .error e → ∀ env s, b.run env s = ⟨s, "", .error e⟩) ∧
    (∀ (t : Toolkit) a args args', Arguments.symbol a = .ok symbol →
      t.parse args = .ok (.convert { a with strict := true }) →
      t.parse args' = .ok (.convert { a with strict := false }) → ∀ logVariable? s,
      let filter := t.filterFor logVariable? a.verbose
      Filters symbol.issue? (t.refused s symbol)
        (t.warned filter (t.unchecked a symbol filter s) symbol) (t.unchecked a symbol filter s)
        (t.run args logVariable? s) (t.run args' logVariable? s)) ∧
    (∀ t : Toolkit, t.ShowsUpTo → ∀ logVariable?, t.filter? logVariable? = none →
      ∀ verbose issue, t.filterFor logVariable? verbose (warningLine symbol issue) = true) ∧
    (∀ b env s (t : Toolkit) a args logVariable? s' issue, BuildStep.symbol b = .ok symbol →
      b.strict = true → Arguments.symbol a = .ok symbol → a.strict = true →
      t.parse args = .ok (.convert a) →
      ((b.run env s).result = .error (.invalidSymbol symbol issue) ↔
        symbol.issue? = some issue) ∧
      ((Call.program t args logVariable?).failure? s' = some (.symbol, .rejected symbol issue) ↔
        symbol.issue? = some issue)) := by
  refine ⟨?_, ?_, ?_, ?_, ?_, ?_⟩
  · intro b env s h
    exact BuildStep.filters h env s
  · intro b issue h hstrict hissue
    exact BuildStep.settled_of_rejected h hstrict hissue
  · intro b e h env s
    rw [BuildStep.run_of_settled, h]
  · intro t a args args' h hstrict hlenient logVariable? s
    dsimp only
    rw [t.run_of_parse hstrict, t.run_of_parse hlenient]
    exact t.filters h _ s
  · intro t hshows logVariable? h verbose issue
    exact Toolkit.filterFor_warningLine hshows h verbose symbol issue
  · intro b env s t a args logVariable? s' issue hb hstrict ha hstrict' hparse
    exact ⟨BuildStep.result_eq_invalidSymbol_iff hb hstrict env s issue,
      Call.failure?_eq_rejected_iff hparse ha hstrict' logVariable? s' issue⟩

theorem CommandLine.Toolkit.showsUpTo_usual : usual.ShowsUpTo := by
  intro level line h
  have hconcerns : (Directive.ofRank level.rank).concerns line = true := by
    simp [Directive.concerns, Directive.isAboutLines, Directive.ofRank]
  have hrank : (Directive.ofRank level.rank).rank = level.rank := rfl
  change (LogFilter.mk [.ofRank level.rank]).shows line = true
  simp [LogFilter.shows, LogFilter.directiveFor?, hconcerns, hrank, h]

/-- A symbol that is one digit, refused by the two strict modes and passed with a warning. -/
theorem strictness_filters_digit :
    let s : Store := ⟨.single (some (.file (.ofBytes [1, 2, 3]))) [[0x66]], []⟩
    let b : BuildStep := ⟨.ofText "f", .array, some "9", some (.ofText "."), true⟩
    let a : Arguments := ⟨false, some "9", none, false, false, .ofText "f", .ofText "g"⟩
    let args := ["--symbol", "9", "f", "g"].map Utf8.encode
    let t := Toolkit.usual
    let line : LogLine := ⟨.warn, "bin2c", "symbol is not a valid C identifier",
      [("symbol", "9"), ("issue", "identifier starts with a digit")]⟩
    b.settled = .error (.invalidSymbol ⟨"9"⟩ .leadingDigit) ∧
      (b.run ⟨none, none⟩ s).result = .error (.invalidSymbol ⟨"9"⟩ .leadingDigit) ∧
      t.run (Utf8.encode "--strict" :: args) none s = t.refused s ⟨"9"⟩ .leadingDigit ∧
      (t.run args none s).stderr =
        t.spell line ++ (t.unchecked a ⟨"9"⟩ (t.filterFor none false) s).stderr := by
  intro s b a args t line
  have hissue : Symbol.issue? ⟨"9"⟩ = some .leadingDigit := by decide +kernel
  have hlenient : t.parse args = .ok (.convert a) := by decide +kernel
  have hstrict : t.parse (Utf8.encode "--strict" :: args) =
      .ok (.convert { a with strict := true }) := by decide +kernel
  obtain ⟨hstep, hearly, -, hline, hdefault, -⟩ := strictness_filters ⟨"9"⟩
  obtain ⟨hrefused, -⟩ := (hstep b ⟨none, none⟩ s rfl).rejected _ hissue
  obtain ⟨hrefused', hwarned⟩ := (hline t a _ args rfl hstrict hlenient none s).rejected _ hissue
  have hlogged : warningLine ⟨"9"⟩ .leadingDigit = line := rfl
  have hshown := hdefault t Toolkit.showsUpTo_usual none rfl false .leadingDigit
  refine ⟨hearly b _ rfl rfl hissue, congrArg Built.result hrefused, hrefused', ?_⟩
  rw [hwarned, Toolkit.warned]
  dsimp only
  rw [← hlogged, if_pos hshown]

/-- A log whose variable can ask for errors alone. -/
def CommandLine.Toolkit.curbed : Toolkit :=
  { usual with
    filter? := fun value? =>
      if value? = some (Utf8.encode "error") then some fun line => line.level = .error else none }

/-- With a variable that asks for errors alone, such a symbol goes through without a word: nothing
is printed besides what is printed without a check, and that is nothing either. -/
theorem lenient_warning_hidden :
    let s : Store := ⟨.single (some (.file (.ofBytes [1, 2, 3]))) [[0x66]], []⟩
    let a : Arguments := ⟨false, some "9", none, false, false, .ofText "f", .ofText "g"⟩
    let args := ["--symbol", "9", "f", "g"].map Utf8.encode
    let errorsOnly := Utf8.encode "error"
    let t := Toolkit.curbed
    let filter := t.filterFor (some errorsOnly) false
    let ran := t.run args (some errorsOnly) s
    t.parse args = .ok (.convert a) ∧ a.strict = false ∧ a.symbol = .ok ⟨"9"⟩ ∧
      Symbol.issue? ⟨"9"⟩ = some .leadingDigit ∧ ran.exit = .success ∧ ran.stdout = "" ∧
      ¬ ∃ warning, warning ≠ "" ∧
        ran.stderr = warning ++ (t.unchecked a ⟨"9"⟩ filter s).stderr := by
  intro s a args errorsOnly t filter ran
  have hparse : t.parse args = .ok (.convert a) := by decide +kernel
  have hissue : Symbol.issue? ⟨"9"⟩ = some .leadingDigit := by decide +kernel
  have hran : ran.exit = .success ∧ ran.stdout = "" ∧ ran.stderr = "" := by decide +kernel
  refine ⟨hparse, rfl, rfl, hissue, hran.1, hran.2.1, ?_⟩
  rintro ⟨warning, hwarning, hstderr⟩
  rw [hran.2.2] at hstderr
  exact hwarning (String.append_eq_empty_iff.1 hstderr.symm).1

end BlobSource
