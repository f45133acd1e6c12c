import BlobSource.Proofs.Calls
import BlobSource.Proofs.Symbol

/-! Strict calls, which succeed only with a symbol that C takes. -/
namespace BlobSource

theorem BuildStep.issue?_of_checkSymbol {b : BuildStep} {symbol : Symbol} (hstrict : b.strict = true)
    (h : b.checkSymbol symbol = .ok ()) : symbol.issue? = none := by
  rw [checkSymbol, if_pos hstrict] at h
  exact Symbol.validate_eq_ok_iff.1 h

theorem BuildStep.issue?_of_job {b : BuildStep} {env : Environment} {s : Store} {j : Job}
    (hstrict : b.strict = true) (h : b.job env s = .ok j) : j.symbol.issue? = none := by
  obtain ⟨dir, -, hchecked, -⟩ := exists_of_job h
  exact issue?_of_checkSymbol hstrict hchecked

theorem CommandLine.Arguments.issue?_of_job {a : Arguments} {j : Job} (hstrict : a.strict = true)
    (h : a.job = .ok j) : j.symbol.issue? = none := by
  obtain ⟨-, hsettled, -⟩ := job_eq_ok_iff.1 h
  simpa [hstrict] using hsettled

theorem CommandLine.Toolkit.job?_eq_map {t : Toolkit} {args : List Bytes} {a : Arguments}
    (h : t.parse args = .ok (.convert a)) : t.job? args = a.job.map some := by
  unfold job?
  rw [h]

theorem CommandLine.Toolkit.job?_of_parse {t : Toolkit} {args : List Bytes} {a : Arguments}
    {symbol : Symbol} (h : t.parse args = .ok (.convert a)) (hs : a.symbol = .ok symbol)
    (hi : symbol.issue? = none) :
    t.job? args = .ok (some ⟨a.conversion, a.source, a.destination, symbol⟩) := by
  have hjob : a.job = .ok ⟨a.conversion, a.source, a.destination, symbol⟩ :=
    Arguments.job_eq_ok_iff.2 ⟨hs, .inl hi, rfl⟩
  rw [job?_eq_map h, hjob]
  rfl

namespace Call
variable {s : Store} {call : Call}

/-- A call that is to refuse a symbol that C does not take. -/
def IsStrict : Call → Prop
  | build step _ => step.strict = true
  | program toolkit args _ => ∃ a, toolkit.parse args = .ok (.convert a) ∧ a.strict = true
  | _ => False

/-- What a caller sees as a success. -/
def Succeeds (s : Store) : Call → Prop
  | render conversion source symbol sink =>
    ∃ n, (conversion.render source symbol sink id s).result = .ok n
  | embed job => ∃ report, (job.embedding s).result = .ok report
  | build step env => ∃ written, (step.run env s).result = .ok written
  | program toolkit args logVariable? => (toolkit.run args logVariable? s).exit = .success

private theorem eq_none_iff_of_agrees {α : Type} {result : Except ConversionError α}
    {failure? : Option (Stage × Cause)} (h : Agrees result failure?) :
    failure? = none ↔ ∃ a, result = .ok a := by
  cases failure? with
  | none => exact iff_of_true rfl h
  | some failure =>
    obtain ⟨e, -, rfl⟩ := h
    simp

private theorem eq_none_iff_of_tells {t : CommandLine.Toolkit} {run : CommandLine.Run}
    {failure? : Option (Stage × Cause)} (h : Tells t run failure?) :
    failure? = none ↔ run.exit = .success := by
  cases failure? with
  | none => exact iff_of_true rfl h
  | some failure =>
    obtain ⟨stage, cause⟩ := failure
    have hexit : run.exit ≠ .success := by
      cases cause with
      | usage text => rw [show run.exit = .usage from h]; decide
      | rejected symbol issue => rw [h.1]; decide
      | conversion e => rw [h.1]; decide
    simp [hexit]

theorem failure?_eq_none_iff (s : Store) (call : Call) :
    call.failure? s = none ↔ call.Succeeds s := by
  have hshows := call.shows s
  cases call with
  | render c source symbol sink => exact eq_none_iff_of_agrees hshows
  | embed j => exact eq_none_iff_of_agrees hshows
  | build b env => exact eq_none_iff_of_agrees hshows
  | program toolkit args logVariable? => exact eq_none_iff_of_tells hshows

theorem succeeds_of_job? {j : Job} {report : Report} (h : call.job? s = .ok (some j))
    (hr : (j.embedding s).result = .ok report) : call.Succeeds s := by
  rw [← failure?_eq_none_iff, failure?_of_job? h, eq_none_iff_of_agrees (j.agrees s)]
  exact ⟨report, hr⟩

theorem exists_job?_eq_map (hstrict : call.IsStrict) (s : Store) :
    ∃ asked : Except (Stage × Cause) Job, call.job? s = asked.map some ∧
      ∀ j, asked = .ok j → j.symbol.issue? = none := by
  cases call with
  | render c source symbol sink => exact hstrict.elim
  | embed j => exact hstrict.elim
  | build b env =>
    refine ⟨b.job env s, rfl, ?_⟩
    intro j hj
    exact BuildStep.issue?_of_job hstrict hj
  | program toolkit args logVariable? =>
    obtain ⟨a, hparse, hstrict⟩ := hstrict
    refine ⟨a.job, CommandLine.Toolkit.job?_eq_map hparse, ?_⟩
    intro j hj
    exact CommandLine.Arguments.issue?_of_job hstrict hj

theorem exists_job_of_asked {asked : Except (Stage × Cause) Job}
    (hjob : call.job? s = asked.map some) (h : call.Succeeds s) :
    ∃ (j : Job) (report : Report), asked = .ok j ∧ (j.embedding s).result = .ok report := by
  have hnone := (failure?_eq_none_iff s call).2 h
  cases asked with
  | error failure =>
    rw [failure?_of_job?_error hjob] at hnone
    cases hnone
  | ok j =>
    rw [failure?_of_job? hjob, eq_none_iff_of_agrees (j.agrees s)] at hnone
    obtain ⟨report, hreport⟩ := hnone
    exact ⟨j, report, rfl, hreport⟩

theorem exists_job_of_strict (hstrict : call.IsStrict) (h : call.Succeeds s) :
    ∃ (j : Job) (report : Report), call.job? s = .ok (some j) ∧ j.symbol.issue? = none ∧
      (j.embedding s).result = .ok report := by
  obtain ⟨asked, hjob, hsymbol⟩ := exists_job?_eq_map hstrict s
  obtain ⟨j, report, rfl, hreport⟩ := exists_job_of_asked hjob h
  exact ⟨j, report, hjob, hsymbol j rfl, hreport⟩

end Call
end BlobSource
