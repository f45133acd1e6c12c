import BlobSource.BuildStep
import BlobSource.CommandLine.Run
import BlobSource.Proofs.Embedded

/-! The calls that can be made, and at which stage each of them fails. -/
namespace BlobSource

/-- What a call is about when it fails. -/
inductive Stage where
  | arguments
  | symbol
  /-- The variables, and the absolute path of the source. -/
  | settings
  /-- The size, the kind and the opening of the source, and its path as a text. -/
  | source
  | destination
  | writing
  deriving DecidableEq, Repr

inductive Cause where
  | usage (text : String)
  /-- Only the command line refuses a symbol in words of its own. -/
  | rejected (symbol : Symbol) (issue : SymbolIssue)
  | conversion (e : ConversionError)
  deriving DecidableEq, Repr

/-- The errors that can come up after the destination has been created. -/
def ConversionError.isLate : ConversionError → Bool
  | sourceUnreadable _ _ | destinationUnwritable _ _ => true
  | outputRefused _ | lengthMismatch _ _ _ => true
  | _ => false

namespace Conversion

/-- Where a conversion with the given result fails, with or without a destination. -/
def failure? {α : Type} (c : Conversion) (source : Path) (destination? : Option Path)
    (symbol : Symbol) (s : Store) (result : Except ConversionError α) : Option (Stage × Cause) :=
  match c.openSource source symbol s, destination?.map fun p => (p, s.create p) with
  | .error e, _ => some (.source, .conversion e)
  | .ok _, some (p, .error cause) =>
    some (.destination, .conversion (.destinationUnwritable p cause))
  | .ok _, _ =>
    match result with
    | .ok _ => none
    | .error e => some (.writing, .conversion e)

end Conversion

structure Job where
  conversion : Conversion
  source : Path
  destination : Path
  symbol : Symbol

namespace Job

def embedding (j : Job) (s : Store) : Embedding :=
  j.conversion.embed j.source j.destination j.symbol s

def failure? (j : Job) (s : Store) : Option (Stage × Cause) :=
  j.conversion.failure? j.source (some j.destination) j.symbol s (j.embedding s).result

end Job

inductive Call where
  | render (conversion : Conversion) (source : Path) (symbol : Symbol) (sink : Sink)
  | embed (job : Job)
  | build (step : BuildStep) (env : Environment)
  | program (toolkit : CommandLine.Toolkit) (args : List Bytes) (logVariable? : Option Bytes)

/-- The job that a build step comes down to. -/
def BuildStep.job (b : BuildStep) (env : Environment) (s : Store) : Except (Stage × Cause) Job :=
  match b.symbol with
  | .error e => .error (.symbol, .conversion e)
  | .ok symbol =>
    match b.checkSymbol symbol with
    | .error e => .error (.symbol, .conversion e)
    | .ok () =>
      match b.prepare env s with
      | .error e => .error (.settings, .conversion e)
      | .ok (dir, conversion, source) =>
        .ok ⟨conversion, source, dir.join (fileName symbol), symbol⟩

def CommandLine.Arguments.job (a : Arguments) : Except (Stage × Cause) Job :=
  match a.symbol with
  | .error e => .error (.symbol, .conversion e)
  | .ok symbol =>
    match symbol.issue?, a.strict with
    | some issue, true => .error (.symbol, .rejected symbol issue)
    | _, _ => .ok ⟨a.conversion, a.source, a.destination, symbol⟩

def CommandLine.Toolkit.job? (t : Toolkit) (args : List Bytes) :
    Except (Stage × Cause) (Option Job) :=
  match t.parse args with
  | .error text => .error (.arguments, .usage text)
  | .ok (.convert a) => a.job.map some
  | .ok (.inform _) => .ok none

namespace Call

def run (s : Store) : Call → Store
  | render conversion source symbol sink => (conversion.render source symbol sink id s).store
  | embed job => (job.embedding s).store
  | build step env => (step.run env s).store
  | program toolkit args logVariable? => (toolkit.run args logVariable? s).store

def runAll (s : Store) (calls : List Call) : Store := calls.foldl run s

/-- What a call is to write to a file, unless it fails before or writes none. -/
def job? (s : Store) : Call → Except (Stage × Cause) (Option Job)
  | render _ _ _ _ => .ok none
  | embed job => .ok (some job)
  | build step env => (step.job env s).map some
  | program toolkit args _ => toolkit.job? args

def failure? (s : Store) (call : Call) : Option (Stage × Cause) :=
  match call.job? s, call with
  | .error failure, _ => some failure
  | .ok (some job), _ => job.failure? s
  | .ok none, render conversion source symbol sink =>
    conversion.failure? source none symbol s (conversion.render source symbol sink id s).result
  | .ok none, _ => none

def destination? (s : Store) (call : Call) : Option Path :=
  match call.job? s with
  | .ok (some job) => some job.destination
  | _ => none

/-- A result that shows a failure, if there is one, and its cause. -/
def Agrees {α : Type} (result : Except ConversionError α) : Option (Stage × Cause) → Prop
  | none => ∃ a, result = .ok a
  | some (_, cause) => ∃ e, cause = .conversion e ∧ result = .error e

/-- An exit and an error text that show a failure, if there is one, and its cause. The exit alone
tells that the arguments are wrong. -/
def Tells (toolkit : CommandLine.Toolkit) (run : CommandLine.Run) : Option (Stage × Cause) → Prop
  | none => run.exit = .success
  | some (_, .usage _) => run.exit = .usage
  | some (_, .rejected symbol issue) =>
    run.exit = .failure ∧ run.stderr = toolkit.report
      s!"symbol '{symbol.name}' is not a valid C identifier: {issue.message}" []
  | some (stage, .conversion e) =>
    run.exit = .failure ∧
      if stage = .symbol then run.stderr = toolkit.report e.message []
      else ∃ (log : String) (a : CommandLine.Arguments),
        run.stderr = log ++ toolkit.report a.failure (CommandLine.causesOf e)

/-- What the caller gets back shows where the call fails, and why. -/
def Shows (s : Store) : Call → Prop
  | call@(render conversion source symbol sink) =>
    Agrees (conversion.render source symbol sink id s).result (call.failure? s)
  | call@(embed job) => Agrees (job.embedding s).result (call.failure? s)
  | call@(build step env) => Agrees (step.run env s).result (call.failure? s)
  | call@(program toolkit args logVariable?) =>
    Tells toolkit (toolkit.run args logVariable? s) (call.failure? s)

end Call

namespace Conversion
variable {c : Conversion} {source destination : Path} {symbol : Symbol} {s : Store}

theorem agrees_render (c : Conversion) (source : Path) (symbol : Symbol) (sink : Sink) (s : Store) :
    Call.Agrees (c.render source symbol sink id s).result
      (c.failure? source none symbol s (c.render source symbol sink id s).result) := by
  unfold failure?
  cases ho : c.openSource source symbol s with
  | error e =>
    have hr : (c.render source symbol sink id s).result = .error e := by
      unfold render
      rw [ho]
    rw [hr]
    exact ⟨e, rfl, rfl⟩
  | ok input =>
    cases hr : (c.render source symbol sink id s).result with
    | ok n => exact ⟨n, rfl⟩
    | error e => exact ⟨e, rfl, rfl⟩

theorem report_of_embed {report : Report}
    (h : (c.embed source destination symbol s).result = .ok report) :
    report = ⟨symbol, report.length, c.form, destination⟩ := by
  unfold embed at h
  split at h
  · cases h
  · split at h
    · cases h
    · dsimp only at h
      split at h
      · cases h
        rfl
      · cases h

theorem embed_of_create_error {input : Input} {cause : FileError}
    (ho : c.openSource source symbol s = .ok input) (hc : s.create destination = .error cause) :
    c.embed source destination symbol s =
      ⟨s, [], .error (.destinationUnwritable destination cause)⟩ := by
  unfold embed
  rw [ho, hc]

end Conversion

theorem Job.agrees (j : Job) (s : Store) : Call.Agrees (j.embedding s).result (j.failure? s) := by
  unfold failure? Conversion.failure?
  cases ho : j.conversion.openSource j.source j.symbol s with
  | error e =>
    rw [embedding, Conversion.embed_of_openSource_error ho]
    exact ⟨e, rfl, rfl⟩
  | ok input =>
    cases hc : s.create j.destination with
    | error cause =>
      rw [embedding, Conversion.embed_of_create_error ho hc]
      simp [hc, Call.Agrees]
    | ok created =>
      cases hr : (j.embedding s).result with
      | ok report => simp [hc, Call.Agrees]
      | error e => simp [hc, Call.Agrees]

theorem Job.stage_ne_symbol {j : Job} {s : Store} {stage : Stage} {cause : Cause}
    (h : j.failure? s = some (stage, cause)) : stage ≠ .symbol := by
  unfold failure? Conversion.failure? at h
  rintro rfl
  split at h
  · cases h
  · cases h
  · split at h <;> cases h

/-- A build step does what its job does, or what comes before the job fails. -/
theorem BuildStep.run_of_job (b : BuildStep) (env : Environment) (s : Store) :
    match b.job env s with
    | .error (_, cause) => (b.run env s).store = s ∧
      ∃ e, cause = .conversion e ∧ (b.run env s).result = .error e
    | .ok j => (b.run env s).store = (j.embedding s).store ∧
      (b.run env s).result = (j.embedding s).result.map Report.destination := by
  unfold job run
  cases b.symbol with
  | error e => exact ⟨rfl, e, rfl, rfl⟩
  | ok symbol =>
    cases hc : b.checkSymbol symbol with
    | error e =>
      dsimp only
      rw [hc]
      exact ⟨rfl, e, rfl, rfl⟩
    | ok _ =>
      dsimp only
      rw [hc]
      cases b.prepare env s with
      | error e => exact ⟨rfl, e, rfl, rfl⟩
      | ok prepared => exact ⟨rfl, rfl⟩

theorem BuildStep.exists_job_of_run {b : BuildStep} {env : Environment} {s : Store} {d : Path}
    (h : (b.run env s).result = .ok d) : ∃ (j : Job) (report : Report), b.job env s = .ok j ∧
      (j.embedding s).result = .ok report ∧ (b.run env s).store = (j.embedding s).store ∧
      d = j.destination := by
  have hrun := b.run_of_job env s
  cases hj : b.job env s with
  | error failure =>
    rw [hj] at hrun
    obtain ⟨-, e, -, hresult⟩ := hrun
    rw [hresult] at h
    cases h
  | ok j =>
    rw [hj] at hrun
    obtain ⟨hstore, hresult⟩ := hrun
    rw [hresult] at h
    cases hr : (j.embedding s).result with
    | error e =>
      rw [hr] at h
      cases h
    | ok report =>
      rw [hr] at h
      cases h
      have hreport := Conversion.report_of_embed hr
      exact ⟨j, report, rfl, hr, hstore, congrArg Report.destination hreport⟩

theorem BuildStep.exists_of_job {b : BuildStep} {env : Environment} {s : Store} {j : Job}
    (h : b.job env s = .ok j) : ∃ dir, b.symbol = .ok j.symbol ∧
      b.checkSymbol j.symbol = .ok () ∧ b.outDir env = .ok dir ∧
      b.target env s = .ok (j.conversion, j.source) ∧
      j.destination = dir.join (fileName j.symbol) := by
  unfold job at h
  cases hs : b.symbol with
  | error e =>
    rw [hs] at h
    cases h
  | ok symbol =>
    rw [hs] at h
    dsimp only at h
    cases hc : b.checkSymbol symbol with
    | error e =>
      rw [hc] at h
      cases h
    | ok _ =>
      rw [hc] at h
      unfold prepare at h
      cases hd : b.outDir env with
      | error e =>
        rw [hd] at h
        cases h
      | ok dir =>
        cases ht : b.target env s with
        | error e =>
          rw [hd, ht] at h
          cases h
        | ok target =>
          rw [hd, ht] at h
          cases h
          exact ⟨dir, rfl, hc, rfl, rfl, rfl⟩

namespace CommandLine

private theorem convert_accepted (t : Toolkit) {a : Arguments} {symbol : Symbol}
    (hs : a.symbol = .ok symbol) (hi : symbol.issue? = none ∨ a.strict = false)
    (filter : LogLine → Bool) (s : Store) :
    let embedding := a.conversion.embed a.source a.destination symbol s
    (t.convert a filter s).store = embedding.store ∧
      match embedding.result with
      | .ok _ => (t.convert a filter s).exit = .success
      | .error e => (t.convert a filter s).exit = .failure ∧
        ∃ log : String, (t.convert a filter s).stderr = log ++ t.report a.failure (causesOf e) := by
  unfold Toolkit.convert
  rw [hs]
  dsimp only
  split
  · rename_i hissue hstrict
    rcases hi with hi | hi
    · rw [hi] at hissue
      cases hissue
    · rw [hi] at hstrict
      cases hstrict
  · cases (a.conversion.embed a.source a.destination symbol s).result with
    | ok report => exact ⟨rfl, rfl⟩
    | error e => exact ⟨rfl, rfl, _, rfl⟩

theorem Arguments.job_eq_ok_iff {a : Arguments} {j : Job} :
    a.job = .ok j ↔ a.symbol = .ok j.symbol ∧ (j.symbol.issue? = none ∨ a.strict = false) ∧
      j = ⟨a.conversion, a.source, a.destination, j.symbol⟩ := by
  unfold job
  cases hs : a.symbol with
  | error e => simp
  | ok symbol =>
    dsimp only
    constructor
    · intro h
      split at h
      · cases h
      · rename_i hsettled
        cases h
        refine ⟨rfl, ?_, rfl⟩
        cases hi : symbol.issue? with
        | none => exact .inl rfl
        | some issue =>
          cases hstrict : a.strict with
          | false => exact .inr rfl
          | true => exact absurd hstrict (hsettled issue hi)
    · rintro ⟨hsymbol, hsettled, hj⟩
      obtain rfl : symbol = j.symbol := Except.ok.inj hsymbol
      split
      · rename_i hissue hstrict
        rw [hissue, hstrict] at hsettled
        simp at hsettled
      · rw [← hj]

theorem convert_of_job (t : Toolkit) (a : Arguments) (filter : LogLine → Bool) (s : Store) :
    match a.job with
    | .error failure =>
      (t.convert a filter s).store = s ∧ Call.Tells t (t.convert a filter s) (some failure)
    | .ok j => (t.convert a filter s).store = (j.embedding s).store ∧
      match (j.embedding s).result with
      | .ok _ => (t.convert a filter s).exit = .success
      | .error e => (t.convert a filter s).exit = .failure ∧
        ∃ log : String, (t.convert a filter s).stderr = log ++ t.report a.failure (causesOf e) := by
  cases hs : a.symbol with
  | error e =>
    unfold Arguments.job Toolkit.convert
    rw [hs]
    exact ⟨rfl, rfl, rfl⟩
  | ok symbol =>
    have haccepted := fun hi => convert_accepted t hs hi filter s
    unfold Arguments.job
    rw [hs]
    dsimp only
    cases hi : symbol.issue? with
    | none => exact haccepted (.inl hi)
    | some issue =>
      cases hstrict : a.strict with
      | false => exact haccepted (.inr hstrict)
      | true =>
        unfold Toolkit.convert
        rw [hs]
        dsimp only
        rw [hi, hstrict]
        exact ⟨rfl, rfl, rfl⟩

end CommandLine

namespace Call

private theorem agrees_map {α β : Type} {f : α → β} {result : Except ConversionError α}
    {failure? : Option (Stage × Cause)} (h : Agrees result failure?) :
    Agrees (result.map f) failure? := by
  cases failure? with
  | none =>
    obtain ⟨a, ha⟩ := h
    exact ⟨f a, by rw [ha]; rfl⟩
  | some failure =>
    obtain ⟨e, hcause, hresult⟩ := h
    exact ⟨e, hcause, by rw [hresult]; rfl⟩

private theorem tells_of_job {t : CommandLine.Toolkit} {j : Job} {s : Store}
    {run : CommandLine.Run} {a : CommandLine.Arguments}
    (h : match (j.embedding s).result with
      | .ok _ => run.exit = .success
      | .error e => run.exit = .failure ∧ ∃ log : String,
        run.stderr = log ++ t.report a.failure (CommandLine.causesOf e)) :
    Tells t run (j.failure? s) := by
  have hj := j.agrees s
  cases hf : j.failure? s with
  | none =>
    rw [hf] at hj
    obtain ⟨report, hreport⟩ := hj
    rw [hreport] at h
    exact h
  | some failure =>
    obtain ⟨stage, cause⟩ := failure
    rw [hf] at hj
    obtain ⟨e, rfl, he⟩ := hj
    rw [he] at h
    obtain ⟨hexit, log, hlog⟩ := h
    refine ⟨hexit, ?_⟩
    rw [if_neg (Job.stage_ne_symbol hf)]
    exact ⟨log, a, hlog⟩

end Call

/-- A run of the program does what its job does, or what comes before the job fails. -/
theorem CommandLine.Toolkit.run_of_job (t : Toolkit) (args : List Bytes)
    (logVariable? : Option Bytes) (s : Store) :
    match t.job? args with
    | .error failure => (t.run args logVariable? s).store = s ∧
      Call.Tells t (t.run args logVariable? s) (some failure)
    | .ok none => (t.run args logVariable? s).store = s ∧
      (t.run args logVariable? s).exit = .success
    | .ok (some j) => (t.run args logVariable? s).store = (j.embedding s).store ∧
      Call.Tells t (t.run args logVariable? s) (j.failure? s) := by
  unfold job? run
  cases t.parse args with
  | error text => exact ⟨rfl, rfl⟩
  | ok request =>
    cases request with
    | inform text => exact ⟨rfl, rfl⟩
    | convert a =>
      have h := convert_of_job t a (t.filterFor logVariable? a.verbose) s
      dsimp only
      cases hj : a.job with
      | error failure =>
        rw [hj] at h
        exact h
      | ok j =>
        rw [hj] at h
        exact ⟨h.1, Call.tells_of_job h.2⟩

namespace Call
variable {s : Store} {call : Call}

theorem failure?_of_job?_error {failure : Stage × Cause} (h : call.job? s = .error failure) :
    call.failure? s = some failure := by
  unfold failure?
  rw [h]

theorem failure?_of_job? {j : Job} (h : call.job? s = .ok (some j)) :
    call.failure? s = j.failure? s := by
  unfold failure?
  rw [h]

/-- Every call shows its failures, and no others. -/
theorem shows (s : Store) (call : Call) : call.Shows s := by
  cases call with
  | render c source symbol sink => exact c.agrees_render source symbol sink s
  | embed j => exact j.agrees s
  | build b env =>
    have h := b.run_of_job env s
    have hjob : (build b env).job? s = (b.job env s).map some := rfl
    change Agrees (b.run env s).result ((build b env).failure? s)
    cases hj : b.job env s with
    | error failure =>
      rw [hj] at h hjob
      obtain ⟨-, e, hcause, hresult⟩ := h
      rw [failure?_of_job?_error hjob]
      exact ⟨e, hcause, hresult⟩
    | ok j =>
      rw [hj] at h hjob
      rw [failure?_of_job? hjob, h.2]
      exact agrees_map (j.agrees s)
  | program t args logVariable? =>
    have h := t.run_of_job args logVariable? s
    have hjob : (program t args logVariable?).job? s = t.job? args := rfl
    change Tells t (t.run args logVariable? s) ((program t args logVariable?).failure? s)
    cases hj : t.job? args with
    | error failure =>
      rw [hj] at h hjob
      rw [failure?_of_job?_error hjob]
      exact h.2
    | ok j? =>
      rw [hj] at h hjob
      cases j? with
      | none =>
        have hnone : (program t args logVariable?).failure? s = none := by
          unfold failure?
          rw [hjob]
        rw [hnone]
        exact h.2
      | some j =>
        rw [failure?_of_job? hjob]
        exact h.2

/-- Nothing but the job of a call changes the files. -/
theorem run_eq (s : Store) (call : Call) :
    call.run s = match call.job? s with
      | .ok (some j) => (j.embedding s).store
      | _ => s := by
  cases call with
  | render c source symbol sink =>
    change (c.render source symbol sink id s).store = s
    unfold Conversion.render
    cases c.openSource source symbol s <;> rfl
  | embed j => rfl
  | build b env =>
    have h := b.run_of_job env s
    have hjob : (build b env).job? s = (b.job env s).map some := rfl
    change (b.run env s).store = _
    cases hj : b.job env s <;> rw [hj] at h hjob <;> rw [hjob] <;> exact h.1
  | program t args logVariable? =>
    have h := t.run_of_job args logVariable? s
    have hjob : (program t args logVariable?).job? s = t.job? args := rfl
    change (t.run args logVariable? s).store = _
    rw [hjob]
    cases hj : t.job? args with
    | error failure =>
      rw [hj] at h
      exact h.1
    | ok j? =>
      rw [hj] at h
      cases j? with
      | none => exact h.1
      | some j => exact h.1

end Call
end BlobSource
