import BlobSource.Proofs.CargoLines
import BlobSource.Proofs.DerivedSymbol

/-! The stages of a build step, and what makes each of them fail by itself. The first that fails says
what a step returns, what it prints and whether it touches any file. -/
namespace BlobSource

inductive BuildStage where
  | symbol
  | check
  | directory
  | width
  /-- Only an assembler block names its source by an absolute path. -/
  | absolutePath
  | embedding
  deriving DecidableEq, Repr

/-- The order that the stages come in. -/
def BuildStage.rank : BuildStage → ℕ
  | symbol => 0
  | check => 1
  | directory => 2
  | width => 3
  | absolutePath => 4
  | embedding => 5

theorem BuildStage.rank_injective : Function.Injective rank := by
  intro stage other h
  cases stage <;> cases other <;> simp_all [rank]

theorem BuildStage.eq_embedding_of_rank_le {stage : BuildStage}
    (h : embedding.rank ≤ stage.rank) : stage = embedding := by
  cases stage <;> simp_all [rank]

theorem Environment.targetWidth_eq_ok_iff {env : Environment} {width : WordWidth} :
    env.targetWidth = .ok width ↔
      ∃ text, env.targetWidth? = some (Utf8.encode text) ∧
        WordWidth.ofText? text = some width := by
  unfold targetWidth
  constructor
  · intro h
    split at h
    · cases h
    · rename_i text htext
      obtain ⟨bytes, hbytes, hdecode⟩ := Option.bind_eq_some_iff.1 htext
      split at h
      · rename_i width' hwidth
        cases h
        exact ⟨text, Utf8.decode?_eq_some_iff.1 hdecode ▸ hbytes, hwidth⟩
      · cases h
  · rintro ⟨text, htext, hwidth⟩
    rw [htext, Option.bind_some, Utf8.decode?_encode]
    dsimp only
    rw [hwidth]

namespace BuildStep
variable {b : BuildStep} {env : Environment} {s : Store}

/-- The job that is handed to the embedding, by the settings and variables that decide its parts. -/
structure Hands (b : BuildStep) (env : Environment) (s : Store) (j : Job) : Prop where
  symbol : b.symbol = .ok j.symbol
  destination : ∃ dir, (b.outDir? <|> env.outDir?) = some dir ∧
    j.destination = dir.join (fileName j.symbol)
  array : b.form = .array → j.conversion = .ofForm .array ∧ j.source = b.source
  assembly : b.form = .assembly → ∃ text width, env.targetWidth? = some (Utf8.encode text) ∧
    WordWidth.ofText? text = some width ∧ j.conversion = ⟨.assembly, width⟩ ∧
      s.absolute b.source = .ok j.source

/-- What goes wrong at a stage, whatever goes wrong at others. -/
inductive Fails (b : BuildStep) (env : Environment) (s : Store) :
    BuildStage → ConversionError → Prop where
  | unnamed : b.symbol? = none → b.source.fileName? = none →
    Fails b env s .symbol (.noFileName b.source)
  | refused {symbol : Symbol} {issue : SymbolIssue} : b.strict = true → b.symbol = .ok symbol →
    symbol.issue? = some issue → Fails b env s .check (.invalidSymbol symbol issue)
  | nowhere : b.outDir? = none → env.outDir? = none →
    Fails b env s .directory (.variableUnset "OUT_DIR")
  | widthUnset : b.form = .assembly → (∀ text, env.targetWidth? ≠ some (Utf8.encode text)) →
    Fails b env s .width (.variableUnset "CARGO_CFG_TARGET_POINTER_WIDTH")
  | widthUnsupported {text : String} : b.form = .assembly →
    env.targetWidth? = some (Utf8.encode text) → WordWidth.ofText? text = none →
      Fails b env s .width (.unsupportedWidth text)
  | unplaced : b.form = .assembly → b.source.bytes = [] →
    Fails b env s .absolutePath (.sourceUnreadable b.source .emptyPath)
  | homeless : b.form = .assembly → b.source.bytes ≠ [] → b.source.isAbsolute = false →
    s.isDirectory s.here = false →
      Fails b env s .absolutePath (.sourceUnreadable b.source .notFound)
  | embedding {j : Job} {e : ConversionError} : b.Hands env s j →
    (j.embedding s).result = .error e → Fails b env s .embedding e

/-- Whether no stage before this one fails. -/
def Reaches (b : BuildStep) (env : Environment) (s : Store) (stage : BuildStage) : Prop :=
  ∀ other e, b.Fails env s other e → stage.rank ≤ other.rank

theorem reaches_symbol : b.Reaches env s .symbol := fun _ _ _ => Nat.zero_le _

theorem Reaches.next {stage next : BuildStage} (h : b.Reaches env s stage)
    (hpass : ∀ e, ¬ b.Fails env s stage e) (hnext : next.rank = stage.rank + 1) :
    b.Reaches env s next := by
  intro other e hother
  have hle := h other e hother
  have hne : other.rank ≠ stage.rank := by
    intro heq
    exact hpass e (BuildStage.rank_injective heq ▸ hother)
  omega

theorem symbol_eq_error_iff {e : ConversionError} :
    b.symbol = .error e ↔ b.Fails env s .symbol e := by
  constructor
  · intro h
    unfold BuildStep.symbol at h
    cases hs : b.symbol? with
    | some name =>
      rw [hs] at h
      cases h
    | none =>
      rw [hs] at h
      obtain ⟨rfl, hname⟩ := Symbol.ofPath_eq_error_iff.1 h
      exact .unnamed hs hname
  · intro h
    cases h with
    | unnamed hs hname =>
      unfold BuildStep.symbol
      rw [hs]
      exact Symbol.ofPath_eq_error_iff.2 ⟨rfl, hname⟩

theorem checkSymbol_eq_error_iff {symbol : Symbol} (hs : b.symbol = .ok symbol)
    {e : ConversionError} : b.checkSymbol symbol = .error e ↔ b.Fails env s .check e := by
  unfold checkSymbol
  constructor
  · intro h
    split at h
    · rename_i hstrict
      obtain ⟨issue, hissue, rfl⟩ := Symbol.validate_eq_error_iff.1 h
      exact .refused hstrict hs hissue
    · cases h
  · intro h
    cases h with
    | refused hstrict hs' hissue =>
      obtain rfl := Except.ok.inj (hs.symm.trans hs')
      rw [if_pos hstrict]
      exact Symbol.validate_eq_error_iff.2 ⟨_, hissue, rfl⟩

theorem outDir_eq_ok_iff {dir : Path} :
    b.outDir env = .ok dir ↔ (b.outDir? <|> env.outDir?) = some dir := by
  unfold outDir Environment.outDir
  cases b.outDir? with
  | some given => simp
  | none => cases env.outDir? <;> simp

theorem outDir_eq_error_iff {e : ConversionError} :
    b.outDir env = .error e ↔ b.Fails env s .directory e := by
  unfold outDir Environment.outDir
  constructor
  · intro h
    cases hgiven : b.outDir? with
    | some dir =>
      rw [hgiven] at h
      cases h
    | none =>
      rw [hgiven] at h
      cases henv : env.outDir? with
      | some dir =>
        rw [henv] at h
        cases h
      | none =>
        rw [henv] at h
        cases h
        exact .nowhere hgiven henv
  · intro h
    cases h with
    | nowhere hgiven henv =>
      rw [hgiven, henv]
      rfl

theorem targetWidth_eq_error_iff (hform : b.form = .assembly) {e : ConversionError} :
    env.targetWidth = .error e ↔ b.Fails env s .width e := by
  unfold Environment.targetWidth
  constructor
  · intro h
    split at h
    · rename_i hnone
      cases h
      refine .widthUnset hform ?_
      intro text htext
      rw [htext, Option.bind_some, Utf8.decode?_encode] at hnone
      cases hnone
    · rename_i text htext
      obtain ⟨bytes, hbytes, hdecode⟩ := Option.bind_eq_some_iff.1 htext
      split at h
      · cases h
      · rename_i hwidth
        cases h
        exact .widthUnsupported hform (Utf8.decode?_eq_some_iff.1 hdecode ▸ hbytes) hwidth
  · intro h
    cases h with
    | widthUnset _ hunset =>
      have hnone : env.targetWidth?.bind Utf8.decode? = none := by
        rw [Option.bind_eq_none_iff]
        intro bytes hbytes
        cases hdecode : Utf8.decode? bytes with
        | none => rfl
        | some text => exact absurd (Utf8.decode?_eq_some_iff.1 hdecode ▸ hbytes) (hunset text)
      rw [hnone]
      rfl
    | widthUnsupported _ htext hwidth =>
      rw [htext, Option.bind_some, Utf8.decode?_encode]
      dsimp only
      rw [hwidth]

theorem target_eq_ok_iff {conversion : Conversion} {source : Path} :
    b.target env s = .ok (conversion, source) ↔
      (b.form = .array → conversion = .ofForm .array ∧ source = b.source) ∧
      (b.form = .assembly → ∃ text width, env.targetWidth? = some (Utf8.encode text) ∧
        WordWidth.ofText? text = some width ∧ conversion = ⟨.assembly, width⟩ ∧
          s.absolute b.source = .ok source) := by
  cases hform : b.form with
  | array =>
    rw [target_of_array hform]
    simp [eq_comm]
  | assembly =>
    rw [target_of_assembly hform]
    constructor
    · intro h
      split at h
      · cases h
      · rename_i width source' hwidth habsolute
        cases h
        obtain ⟨text, htext, hspelled⟩ := Environment.targetWidth_eq_ok_iff.1 hwidth
        exact ⟨by simp, fun _ => ⟨text, width, htext, hspelled, rfl, habsolute⟩⟩
      · cases h
    · rintro ⟨-, hassembly⟩
      obtain ⟨text, width, htext, hspelled, rfl, habsolute⟩ := hassembly rfl
      rw [Environment.targetWidth_eq_ok_iff.2 ⟨text, htext, hspelled⟩, habsolute]

theorem absolute_eq_error_iff (hform : b.form = .assembly) {cause : FileError} :
    s.absolute b.source = .error cause ↔
      b.Fails env s .absolutePath (.sourceUnreadable b.source cause) := by
  rw [Store.absolute_eq_error_iff]
  constructor
  · rintro (⟨hempty, rfl⟩ | ⟨hne, hrelative, hhere, rfl⟩)
    · exact .unplaced hform hempty
    · exact .homeless hform hne hrelative hhere
  · intro h
    cases h with
    | unplaced _ hempty => exact .inl ⟨hempty, rfl⟩
    | homeless _ hne hrelative hhere => exact .inr ⟨hne, hrelative, hhere, rfl⟩

theorem Fails.exists_cause {e : ConversionError} (h : b.Fails env s .absolutePath e) :
    ∃ cause, e = .sourceUnreadable b.source cause := by
  cases h with
  | unplaced _ _ => exact ⟨_, rfl⟩
  | homeless _ _ _ _ => exact ⟨_, rfl⟩

private theorem forall_not_of_eq_ok {α : Type} {result : Except ConversionError α} {a : α}
    {P : ConversionError → Prop} (h : result = .ok a) (hP : ∀ e, P e → result = .error e)
    (e : ConversionError) : ¬ P e := by
  intro he
  have herror := hP e he
  rw [h] at herror
  cases herror

theorem target_spec (b : BuildStep) (env : Environment) (s : Store) :
    match b.target env s with
    | .error e => b.Fails env s .width e ∨
      (∀ e', ¬ b.Fails env s .width e') ∧ b.Fails env s .absolutePath e
    | .ok _ => (∀ e, ¬ b.Fails env s .width e) ∧ ∀ e, ¬ b.Fails env s .absolutePath e := by
  cases hform : b.form with
  | array =>
    rw [target_of_array hform]
    constructor
    · intro e he
      cases he with
      | widthUnset hassembly _ => cases hform.symm.trans hassembly
      | widthUnsupported hassembly _ _ => cases hform.symm.trans hassembly
    · intro e he
      cases he with
      | unplaced hassembly _ => cases hform.symm.trans hassembly
      | homeless hassembly _ _ _ => cases hform.symm.trans hassembly
  | assembly =>
    rw [target_of_assembly hform]
    cases hwidth : env.targetWidth with
    | error e => exact .inl ((targetWidth_eq_error_iff hform).1 hwidth)
    | ok width =>
      have hpass := forall_not_of_eq_ok hwidth fun e => (targetWidth_eq_error_iff hform (s := s)).2
      cases habsolute : s.absolute b.source with
      | error cause => exact .inr ⟨hpass, (absolute_eq_error_iff hform).1 habsolute⟩
      | ok source =>
        refine ⟨hpass, fun e he => ?_⟩
        obtain ⟨cause, rfl⟩ := he.exists_cause
        rw [(absolute_eq_error_iff hform).2 he] at habsolute
        cases habsolute

theorem hands_iff {j : Job} : b.Hands env s j ↔ b.symbol = .ok j.symbol ∧
    (∃ dir, b.outDir env = .ok dir ∧ j.destination = dir.join (fileName j.symbol)) ∧
    b.target env s = .ok (j.conversion, j.source) := by
  simp only [outDir_eq_ok_iff, target_eq_ok_iff]
  constructor
  · intro h
    exact ⟨h.symbol, h.destination, h.array, h.assembly⟩
  · rintro ⟨hsymbol, hdestination, harray, hassembly⟩
    exact ⟨hsymbol, hdestination, harray, hassembly⟩

theorem Hands.unique {j k : Job} (hj : b.Hands env s j) (hk : b.Hands env s k) : j = k := by
  obtain ⟨hsymbol, ⟨dir, hdir, hdestination⟩, htarget⟩ := hands_iff.1 hj
  obtain ⟨hsymbol', ⟨dir', hdir', hdestination'⟩, htarget'⟩ := hands_iff.1 hk
  cases j
  cases k
  dsimp only at *
  obtain rfl := Except.ok.inj (hsymbol.symm.trans hsymbol')
  obtain rfl := Except.ok.inj (hdir.symm.trans hdir')
  cases htarget.symm.trans htarget'
  rw [hdestination, hdestination']

/-- A step has a job if the embedding is reached. Otherwise it has the error of the first stage that
fails. -/
theorem job_spec (b : BuildStep) (env : Environment) (s : Store) :
    match b.job env s with
    | .error (_, cause) => ∃ stage e, stage ≠ .embedding ∧ cause = .conversion e ∧
      b.Reaches env s stage ∧ b.Fails env s stage e
    | .ok j => b.Reaches env s .embedding ∧ b.Hands env s j := by
  unfold job
  cases hs : b.symbol with
  | error e => exact ⟨.symbol, e, by decide, rfl, reaches_symbol, symbol_eq_error_iff.1 hs⟩
  | ok symbol =>
    have hcheck : b.Reaches env s .check :=
      reaches_symbol.next (forall_not_of_eq_ok hs fun e => symbol_eq_error_iff.2) rfl
    dsimp only
    cases hc : b.checkSymbol symbol with
    | error e => exact ⟨.check, e, by decide, rfl, hcheck, (checkSymbol_eq_error_iff hs).1 hc⟩
    | ok _ =>
      have hdirectory : b.Reaches env s .directory :=
        hcheck.next (forall_not_of_eq_ok hc fun e => (checkSymbol_eq_error_iff hs).2) rfl
      unfold prepare
      cases hd : b.outDir env with
      | error e => exact ⟨.directory, e, by decide, rfl, hdirectory, outDir_eq_error_iff.1 hd⟩
      | ok dir =>
        have hwidth : b.Reaches env s .width :=
          hdirectory.next (forall_not_of_eq_ok hd fun e => outDir_eq_error_iff.2) rfl
        have htarget := b.target_spec env s
        cases ht : b.target env s with
        | error e =>
          rw [ht] at htarget
          rcases htarget with hfails | ⟨hpass, hfails⟩
          · exact ⟨.width, e, by decide, rfl, hwidth, hfails⟩
          · exact ⟨.absolutePath, e, by decide, rfl, hwidth.next hpass rfl, hfails⟩
        | ok target =>
          rw [ht] at htarget
          obtain ⟨hpass, hplaced⟩ := htarget
          exact ⟨(hwidth.next hpass rfl).next hplaced rfl, hands_iff.2 ⟨hs, ⟨dir, hd, rfl⟩, ht⟩⟩

theorem Fails.unique {stage : BuildStage} {e e' : ConversionError} (h : b.Fails env s stage e)
    (h' : b.Fails env s stage e') : e = e' := by
  cases h with
  | unnamed | nowhere =>
    cases h'
    rfl
  | unplaced _ hempty =>
    cases h' with
    | unplaced => rfl
    | homeless _ hne _ _ => exact absurd hempty hne
  | homeless _ hne _ _ =>
    cases h' with
    | unplaced _ hempty => exact absurd hempty hne
    | homeless => rfl
  | refused _ hs hissue =>
    cases h' with
    | refused _ hs' hissue' =>
      obtain rfl := Except.ok.inj (hs.symm.trans hs')
      rw [Option.some.inj (hissue.symm.trans hissue')]
  | widthUnset _ hunset =>
    cases h' with
    | widthUnset => rfl
    | widthUnsupported _ htext _ => exact absurd htext (hunset _)
  | widthUnsupported _ htext _ =>
    cases h' with
    | widthUnset _ hunset => exact absurd htext (hunset _)
    | widthUnsupported _ htext' _ =>
      have hdecode := congrArg Utf8.decode? (Option.some.inj (htext.symm.trans htext'))
      rw [Utf8.decode?_encode, Utf8.decode?_encode] at hdecode
      rw [Option.some.inj hdecode]
  | embedding hj he =>
    cases h' with
    | embedding hj' he' =>
      obtain rfl := hj.unique hj'
      exact Except.error.inj (he.symm.trans he')

theorem Reaches.unique {stage stage' : BuildStage} {e e' : ConversionError}
    (h : b.Reaches env s stage) (he : b.Fails env s stage e) (h' : b.Reaches env s stage')
    (he' : b.Fails env s stage' e') : stage = stage' :=
  BuildStage.rank_injective (Nat.le_antisymm (h stage' e' he') (h' stage e he))

theorem job_eq_ok_iff {j : Job} :
    b.job env s = .ok j ↔ b.Reaches env s .embedding ∧ b.Hands env s j := by
  have hspec := b.job_spec env s
  cases hj : b.job env s with
  | ok k =>
    rw [hj] at hspec
    obtain ⟨hreaches, hhands⟩ := hspec
    constructor
    · intro h
      obtain rfl := Except.ok.inj h
      exact ⟨hreaches, hhands⟩
    · rintro ⟨-, hother⟩
      rw [hhands.unique hother]
  | error failure =>
    rw [hj] at hspec
    obtain ⟨stage, e, hne, -, -, hfails⟩ := hspec
    constructor
    · intro h
      cases h
    · rintro ⟨hreaches, -⟩
      exact absurd (BuildStage.eq_embedding_of_rank_le (hreaches stage e hfails)) hne

theorem result_eq_error_iff {e : ConversionError} : (b.run env s).result = .error e ↔
    ∃ stage, b.Reaches env s stage ∧ b.Fails env s stage e := by
  have hrun := b.run_of_job env s
  have hspec := b.job_spec env s
  cases hj : b.job env s with
  | error failure =>
    rw [hj] at hrun hspec
    obtain ⟨first, e', -, hcause, hreaches, hfails⟩ := hspec
    obtain ⟨-, found, hfound, hresult⟩ := hrun
    obtain rfl : e' = found := Cause.conversion.inj (hcause.symm.trans hfound)
    rw [hresult]
    constructor
    · intro h
      obtain rfl := Except.error.inj h
      exact ⟨first, hreaches, hfails⟩
    · rintro ⟨stage, hreaches', hfails'⟩
      obtain rfl := hreaches.unique hfails hreaches' hfails'
      rw [hfails.unique hfails']
  | ok j =>
    rw [hj] at hrun hspec
    obtain ⟨hreaches, hhands⟩ := hspec
    rw [hrun.2]
    constructor
    · intro h
      cases hr : (j.embedding s).result with
      | ok report =>
        rw [hr] at h
        cases h
      | error found =>
        rw [hr] at h
        cases h
        exact ⟨.embedding, hreaches, .embedding hhands hr⟩
    · rintro ⟨stage, hreaches', hfails⟩
      obtain rfl := BuildStage.eq_embedding_of_rank_le (hreaches stage e hfails)
      cases hfails with
      | embedding hhands' he =>
        obtain rfl := hhands.unique hhands'
        rw [he]
        rfl

theorem warned?_eq_some_iff {symbol : Symbol} {issue : SymbolIssue} :
    b.warned? = some (symbol, issue) ↔
      b.strict = false ∧ b.symbol = .ok symbol ∧ symbol.issue? = some issue := by
  unfold warned?
  cases b.symbol with
  | error e => simp
  | ok found =>
    cases b.strict with
    | true => simp
    | false =>
      simp only [Bool.false_eq_true, if_false, Option.map_eq_some_iff, Prod.mk.injEq, true_and,
        Except.ok.injEq]
      constructor
      · rintro ⟨_, hissue, rfl, rfl⟩
        exact ⟨rfl, hissue⟩
      · rintro ⟨rfl, hissue⟩
        exact ⟨issue, hissue, rfl, rfl⟩

theorem printed_run_eq (b : BuildStep) (env : Environment) (s : Store) : (b.run env s).printed =
    (b.warned?.elim "" fun w => warningText w.1 w.2 ++ "\n") ++
      (b.watched? env s).elim "" fun source => dependencyText source ++ "\n" := by
  rw [← String.toList_inj, printed_run, messages, String.toList_append]
  cases b.warned? <;> cases b.watched? env s <;> simp

theorem exists_job_of_reaches (h : b.Reaches env s .embedding) : ∃ j, b.job env s = .ok j := by
  have hspec := b.job_spec env s
  cases hj : b.job env s with
  | ok j => exact ⟨j, rfl⟩
  | error failure =>
    rw [hj] at hspec
    obtain ⟨stage, e, hne, -, -, hfails⟩ := hspec
    exact absurd (BuildStage.eq_embedding_of_rank_le (h stage e hfails)) hne

theorem run_of_reaches (h : b.Reaches env s .embedding) : ∃ j, b.Hands env s j ∧
    b.watched? env s = some j.source ∧ (b.run env s).store = (j.embedding s).store ∧
    (b.run env s).result = (j.embedding s).result.map Report.destination := by
  obtain ⟨j, hj⟩ := exists_job_of_reaches h
  have hrun := b.run_of_job env s
  rw [hj] at hrun
  refine ⟨j, (job_eq_ok_iff.1 hj).2, ?_, hrun⟩
  rw [watched?, hj]
  rfl

theorem run_of_not_reaches (h : ¬ b.Reaches env s .embedding) :
    b.watched? env s = none ∧ (b.run env s).store = s := by
  have hrun := b.run_of_job env s
  cases hj : b.job env s with
  | ok j => exact absurd (job_eq_ok_iff.1 hj).1 h
  | error failure =>
    rw [hj] at hrun
    refine ⟨?_, hrun.1⟩
    rw [watched?, hj]
    rfl

end BuildStep

open BuildStep in
/-- A step fails with the error of the first stage that would fail by itself: of its symbol, the
check of it, the directory, the width of the target, the absolute path and the embedding, in this
order. It prints a warning if it is not strict and has a symbol that C does not take, and behind
that the dependency on the path that is handed to the embedding, if no stage before that fails. If
one does, no file is touched. -/
theorem stages_in_order (b : BuildStep) (env : Environment) (s : Store) :
    (∀ e, (b.run env s).result = .error e ↔
      ∃ stage, b.Reaches env s stage ∧ b.Fails env s stage e) ∧
    (b.run env s).printed = (b.warned?.elim "" fun w => warningText w.1 w.2 ++ "\n") ++
      ((b.watched? env s).elim "" fun source => dependencyText source ++ "\n") ∧
    (∀ symbol issue, b.warned? = some (symbol, issue) ↔
      b.strict = false ∧ b.symbol = .ok symbol ∧ symbol.issue? = some issue) ∧
    (b.Reaches env s .embedding → ∃ j, b.Hands env s j ∧ b.watched? env s = some j.source ∧
      (b.run env s).store = (j.embedding s).store ∧
      (b.run env s).result = (j.embedding s).result.map Report.destination) ∧
    (¬ b.Reaches env s .embedding → b.watched? env s = none ∧ (b.run env s).store = s) := by
  exact ⟨fun e => result_eq_error_iff, b.printed_run_eq env s,
    fun symbol issue => warned?_eq_some_iff, run_of_reaches, run_of_not_reaches⟩

open BuildStep in
/-- Neither a directory is given nor a width that is supported, and C does not take the symbol. -/
theorem stages_in_order_overlapping :
    let b : BuildStep := ⟨.ofText "40", .assembly, none, none, false⟩
    let env : Environment := ⟨none, some (Utf8.encode "12")⟩
    let s : Store := ⟨.nil, []⟩
    b.Fails env s .width (.unsupportedWidth "12") ∧
      (b.run env s).result = .error (.variableUnset "OUT_DIR") ∧
      (b.run env s).printed = "cargo:warning=bin2c: symbol '40' is not a valid C identifier: " ++
        "identifier starts with a digit\n" := by
  intro b env s
  obtain ⟨hresult, hprinted, hwarned, -, hstopped⟩ := stages_in_order b env s
  have hdirectory : b.Fails env s .directory (.variableUnset "OUT_DIR") := .nowhere rfl rfl
  have hfirst : b.Reaches env s .directory := by
    intro other e h
    cases h with
    | unnamed _ hname => exact absurd hname (by decide)
    | refused hstrict _ _ => cases hstrict
    | _ => decide
  have hnot : ¬ b.Reaches env s .embedding := fun h => absurd (h _ _ hdirectory) (by decide)
  refine ⟨.widthUnsupported rfl rfl (by decide), (hresult _).2 ⟨_, hfirst, hdirectory⟩, ?_⟩
  rw [hprinted, (hstopped hnot).1, (hwarned ⟨"40"⟩ .leadingDigit).2 (by decide +kernel)]
  decide +kernel

end BlobSource
