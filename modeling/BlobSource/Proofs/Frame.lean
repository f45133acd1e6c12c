import BlobSource.Proofs.Calls

/-! What calls leave as it was: all but the file that each of them is to write, and that too if
they fail early. -/
namespace BlobSource

namespace Store

/-- Regular files may have come or changed. Everything else is as it was, and nothing is gone. -/
structure Keeps (before after : Store) : Prop where
  here : after.here = before.here
  directory : ∀ l, after.get? l = some .directory ↔ before.get? l = some .directory
  link : ∀ l target, after.get? l = some (.link target) ↔ before.get? l = some (.link target)
  hardLink : ∀ l home, after.get? l = some (.hardLink home) ↔ before.get? l = some (.hardLink home)
  device : ∀ l device,
    after.get? l = some (.device device) ↔ before.get? l = some (.device device)
  file : ∀ l content, before.get? l = some (.file content) →
    ∃ content', after.get? l = some (.file content')

namespace Keeps

theorem refl (s : Store) : s.Keeps s :=
  ⟨rfl, fun _ => Iff.rfl, fun _ _ => Iff.rfl, fun _ _ => Iff.rfl, fun _ _ => Iff.rfl,
    fun _ content h => ⟨content, h⟩⟩

theorem trans {r s t : Store} (h : r.Keeps s) (h' : s.Keeps t) : r.Keeps t where
  here := h'.here.trans h.here
  directory l := (h'.directory l).trans (h.directory l)
  link l target := (h'.link l target).trans (h.link l target)
  hardLink l home := (h'.hardLink l home).trans (h.hardLink l home)
  device l device := (h'.device l device).trans (h.device l device)
  file l content hf := by
    obtain ⟨content', hf'⟩ := h.file l content hf
    exact h'.file l content' hf'

theorem put_file {s : Store} {l : Location} (h : s.IsFree l) (content : Content) :
    s.Keeps (s.put l (.file content)) := by
  have hl := get?_put_self s h.ne_nil (.file content)
  have hk : ∀ k, k ≠ l → (s.put l (.file content)).get? k = s.get? k := fun k hk =>
    get?_put_of_ne s h.ne_nil hk _
  have hother : ∀ node, (∀ before, node ≠ .file before) → ∀ k,
      (s.put l (.file content)).get? k = some node ↔ s.get? k = some node := by
    intro node hnode k
    by_cases hkl : k = l
    · subst hkl
      rw [hl]
      constructor
      · intro heq
        exact absurd (Option.some.inj heq).symm (hnode content)
      · intro heq
        rcases h with hn | ⟨before, hf⟩
        · rw [hn] at heq
          cases heq
        · rw [hf] at heq
          exact absurd (Option.some.inj heq).symm (hnode before)
    · rw [hk k hkl]
  refine ⟨rfl, ?_, ?_, ?_, ?_, ?_⟩
  · exact hother .directory (by simp)
  · exact fun k target => hother (.link target) (by simp) k
  · exact fun k home => hother (.hardLink home) (by simp) k
  · exact fun k device => hother (.device device) (by simp) k
  · intro k before hf
    by_cases hkl : k = l
    · exact ⟨content, hkl ▸ hl⟩
    · exact ⟨before, (hk k hkl).trans hf⟩

end Keeps
end Store

/-- Whatever a listing reads, it ends badly because it is refused, or as it does for some reader. -/
theorem Listing.error_of_onto {σ : Type} [Receiver σ] (listing : Listing) (source : σ → Reader)
    (t : σ) {error : ConversionError} (h : (listing.onto source t).2 = .error error) :
    (∃ cause, error = .outputRefused cause) ∨
      ∃ reader, (listing.emission reader).outcome = .error error := by
  rw [listing.onto_eq] at h
  generalize source (Receiver.writeAll t (.ofList listing.head)).1 = reader at h
  rcases (listing.emission reader).result_onto t with houtcome | ⟨cause, hrefused⟩
  · exact .inr ⟨reader, houtcome.symm.trans h⟩
  · exact .inl ⟨cause, (Except.error.inj (hrefused.symm.trans h)).symm⟩

namespace Conversion
variable {c : Conversion} {source destination : Path} {symbol : Symbol} {s : Store}
  {e : ConversionError}

theorem isLate_of_onto {σ : Type} [Receiver σ] {input : Input}
    (ho : c.openSource source symbol s = .ok input) (reader : σ → Reader) (t : σ)
    (h : (input.listing.onto reader t).2 = .error e) : e.isLate = true := by
  rcases input.listing.error_of_onto reader t h with ⟨cause, rfl⟩ | ⟨r, hr⟩
  · rfl
  · rcases error_of_outcome ho hr with ⟨cause, rfl⟩ | ⟨expected, actual, rfl⟩ <;> rfl

theorem isLate_of_render {input : Input} (ho : c.openSource source symbol s = .ok input)
    {sink : Sink} (h : (c.render source symbol sink id s).result = .error e) :
    e.isLate = true := by
  unfold render at h
  rw [ho] at h
  exact isLate_of_onto ho _ sink h

private theorem isLate_of_finish {out : Buffered} {result : Except ConversionError ℕ}
    (hr : ∀ e, result = .error e → e.isLate = true) (h : (finish out result).2 = .error e) :
    e.isLate = true := by
  unfold finish at h
  split at h
  · cases h
    rfl
  · exact hr e h

private theorem isLate_blame (h : e.isLate = true) : (blame destination e).isLate = true := by
  cases e <;> first | rfl | exact h

theorem isLate_of_embed {input : Input} {created : Store × Location}
    (ho : c.openSource source symbol s = .ok input) (hc : s.create destination = .ok created)
    (h : (c.embed source destination symbol s).result = .error e) : e.isLate = true := by
  unfold embed at h
  rw [ho, hc] at h
  dsimp only at h
  split at h
  · cases h
  · rename_i hfinish
    cases h
    exact isLate_blame (isLate_of_finish (fun _ => isLate_of_onto ho _ _) hfinish)

end Conversion

namespace Job
variable {j : Job} {s : Store} {stage : Stage} {cause : Cause}

theorem store_embedding (j : Job) (s : Store) :
    (j.embedding s).store = s ∨ ∃ l content, s.Opens j.destination l ∧
      (j.embedding s).store = s.put l (.file content) := by
  unfold embedding
  cases ho : j.conversion.openSource j.source j.symbol s with
  | error e =>
    rw [Conversion.embed_of_openSource_error ho]
    exact .inl rfl
  | ok input =>
    cases hc : s.create j.destination with
    | error cause =>
      rw [Conversion.embed_of_create_error ho hc]
      exact .inl rfl
    | ok created =>
      obtain ⟨opened, l⟩ := created
      unfold Conversion.embed
      rw [ho, hc]
      dsimp only
      rcases Store.create_cases hc with ⟨hopens, rfl⟩ | ⟨rfl, device, hdevice⟩
      · rw [Store.fill_put s hopens.isFree.ne_nil]
        exact .inr ⟨l, _, hopens, rfl⟩
      · exact .inl (Store.fill_of_device hdevice _)

theorem store_embedding_of_failure (h : j.failure? s = some (stage, cause))
    (hs : stage ≠ .writing) : (j.embedding s).store = s := by
  unfold failure? Conversion.failure? at h
  unfold embedding
  cases ho : j.conversion.openSource j.source j.symbol s with
  | error e => rw [Conversion.embed_of_openSource_error ho]
  | ok input =>
    cases hc : s.create j.destination with
    | error cause => rw [Conversion.embed_of_create_error ho hc]
    | ok created =>
      rw [ho] at h
      simp only [Option.map_some, hc] at h
      split at h
      · cases h
      · cases h
        exact absurd rfl hs

theorem isLate_of_failure (h : j.failure? s = some (.writing, cause)) :
    ∃ e, cause = .conversion e ∧ e.isLate = true := by
  unfold failure? Conversion.failure? at h
  cases ho : j.conversion.openSource j.source j.symbol s with
  | error e => simp [ho] at h
  | ok input =>
    cases hc : s.create j.destination with
    | error cause => simp [ho, hc] at h
    | ok created =>
      rw [ho] at h
      simp only [Option.map_some, hc] at h
      split at h
      · cases h
      · rename_i e hresult
        cases h
        exact ⟨e, rfl, Conversion.isLate_of_embed ho hc hresult⟩

end Job

namespace Call
variable {s : Store} {call : Call} {stage : Stage} {cause : Cause}

theorem run_cases (s : Store) (call : Call) :
    call.run s = s ∨ ∃ destination l content, call.destination? s = some destination ∧
      s.Opens destination l ∧ call.run s = s.put l (.file content) := by
  rw [run_eq]
  cases hj : call.job? s with
  | error failure => exact .inl rfl
  | ok j? =>
    cases j? with
    | none => exact .inl rfl
    | some j =>
      have hd : call.destination? s = some j.destination := by
        unfold destination?
        rw [hj]
      rcases j.store_embedding s with hs | ⟨l, content, hopens, hs⟩
      · exact .inl hs
      · exact .inr ⟨j.destination, l, content, hd, hopens, hs⟩

theorem run_of_failure (h : call.failure? s = some (stage, cause)) (hs : stage ≠ .writing) :
    call.run s = s := by
  rw [run_eq]
  cases hj : call.job? s with
  | error failure => rfl
  | ok j? =>
    cases j? with
    | none => rfl
    | some j =>
      rw [failure?_of_job? hj] at h
      exact Job.store_embedding_of_failure h hs

theorem stage_ne_writing (h : call.job? s = .error (stage, cause)) : stage ≠ .writing := by
  rintro rfl
  cases call with
  | render c source symbol sink => cases h
  | embed j => cases h
  | build b env =>
    change (b.job env s).map some = _ at h
    unfold BuildStep.job at h
    split at h
    · cases h
    · split at h
      · cases h
      · split at h <;> cases h
  | program toolkit args logVariable? =>
    change toolkit.job? args = _ at h
    unfold CommandLine.Toolkit.job? CommandLine.Arguments.job at h
    split at h
    · cases h
    · split at h
      · cases h
      · split at h <;> cases h
    · cases h

theorem isLate_of_failure (h : call.failure? s = some (.writing, cause)) :
    ∃ e, cause = .conversion e ∧ e.isLate = true := by
  cases hj : call.job? s with
  | error failure =>
    rw [failure?_of_job?_error hj] at h
    obtain rfl := Option.some.inj h
    exact absurd rfl (stage_ne_writing hj)
  | ok j? =>
    cases j? with
    | some j =>
      rw [failure?_of_job? hj] at h
      exact Job.isLate_of_failure h
    | none =>
      unfold failure? at h
      rw [hj] at h
      cases call with
      | embed j => cases h
      | build b env => cases h
      | program toolkit args logVariable? => cases h
      | render c source symbol sink =>
        dsimp only at h
        unfold Conversion.failure? at h
        cases ho : c.openSource source symbol s with
        | error e => simp [ho] at h
        | ok input =>
          cases hr : (c.render source symbol sink id s).result with
          | ok n => simp [ho, hr] at h
          | error e =>
            simp only [ho, hr, Option.map_none, Option.some.injEq, Prod.mk.injEq, true_and] at h
            exact ⟨e, h.symm, Conversion.isLate_of_render ho hr⟩

theorem keeps_run (s : Store) (call : Call) : s.Keeps (call.run s) := by
  rcases call.run_cases s with hs | ⟨destination, l, content, -, hopens, hs⟩
  · rw [hs]
    exact .refl s
  · rw [hs]
    exact .put_file hopens.isFree content

theorem keeps_runAll (calls : List Call) (s : Store) : s.Keeps (runAll s calls) := by
  induction calls generalizing s with
  | nil => exact .refl s
  | cons call calls ih => exact (keeps_run s call).trans (ih (call.run s))

theorem get?_runAll {calls : List Call} {s : Store} {l : Location}
    (h : ∀ before call after destination, calls = before ++ call :: after →
      call.destination? (runAll s before) = some destination →
      ¬ (runAll s before).Opens destination l) :
    (runAll s calls).get? l = s.get? l := by
  induction calls generalizing s with
  | nil => rfl
  | cons call calls ih =>
    have hcall : (call.run s).get? l = s.get? l := by
      rcases call.run_cases s with hs | ⟨destination, k, content, hd, hopens, hs⟩
      · rw [hs]
      · rw [hs]
        have hkl : l ≠ k := by
          rintro rfl
          exact h [] call calls destination rfl hd hopens
        exact Store.get?_put_of_ne s hopens.isFree.ne_nil hkl _
    have hrest : (runAll (call.run s) calls).get? l = (call.run s).get? l := by
      apply ih
      intro before next after destination hcalls hd hopens
      exact h (call :: before) next after destination (by rw [hcalls]; rfl) hd hopens
    exact hrest.trans hcall

end Call

/-- Whatever calls are made, one after the other, directories, links and devices stay, and no file
and no name of a file goes. Each call writes one file, where its destination leads at that time, or
none; a rendering writes none. A call that fails before its destination has been created changes
nothing, and afterwards it fails only because it cannot read on or write on, or has read too little
or too much. -/
theorem calls_frame :
    (∀ (s : Store) (call : Call), call.Shows s) ∧
    (∀ (s : Store) (call : Call), call.run s = s ∨ ∃ destination l content,
      call.destination? s = some destination ∧ s.Opens destination l ∧
      call.run s = s.put l (.file content)) ∧
    (∀ (s : Store) (c : Conversion) (source : Path) (symbol : Symbol) (sink : Sink),
      (Call.render c source symbol sink).run s = s) ∧
    (∀ (s : Store) (call : Call) (stage : Stage) (cause : Cause),
      call.failure? s = some (stage, cause) →
      stage ≠ .writing ∨ (∀ e, cause = .conversion e → e.isLate = false) → call.run s = s) ∧
    (∀ (s : Store) (calls : List Call), s.Keeps (Call.runAll s calls)) ∧
    (∀ (s : Store) (calls : List Call) (l : Location),
      (∀ before call after destination, calls = before ++ call :: after →
        call.destination? (Call.runAll s before) = some destination →
        ¬ (Call.runAll s before).Opens destination l) →
      (Call.runAll s calls).get? l = s.get? l) := by
  refine ⟨Call.shows, Call.run_cases, ?_, ?_, ?_, ?_⟩
  · intro s c source symbol sink
    rw [Call.run_eq]
    rfl
  · intro s call stage cause h hearly
    by_cases hs : stage = .writing
    · subst hs
      obtain ⟨e, hcause, hlate⟩ := Call.isLate_of_failure h
      rcases hearly with hne | hnever
      · exact absurd rfl hne
      · rw [hnever e hcause] at hlate
        cases hlate
    · exact Call.run_of_failure h hs
  · intro s calls
    exact Call.keeps_runAll calls s
  · intro s calls l h
    exact Call.get?_runAll h

/-- Of two embeddings into an existing file, the first fails for want of its source. -/
theorem calls_frame_missing :
    let s : Store := ⟨.place [0x66] (some (.file (.ofBytes [1, 2, 3]))) .nil
      (.single (some (.file (.zeros 9))) [[0x67]]), []⟩
    let missing : Call := .embed ⟨.default, ⟨[0x68]⟩, ⟨[0x67]⟩, ⟨"blob"⟩⟩
    let present : Call := .embed ⟨.default, ⟨[0x66]⟩, ⟨[0x67]⟩, ⟨"blob"⟩⟩
    missing.run s = s ∧ s.Keeps (Call.runAll s [missing, present]) ∧
      (Call.runAll s [missing, present]).get? [[0x66]] = some (.file (.ofBytes [1, 2, 3])) := by
  intro s missing present
  obtain ⟨-, -, -, hfails, hkeeps, hframe⟩ := calls_frame
  have hmissing : missing.run s = s :=
    hfails s missing .source (.conversion (.sourceUnreadable ⟨[0x68]⟩ .notFound)) rfl
      (.inl (by decide))
  have hdestination : ∀ call ∈ [missing, present], call.destination? s = some ⟨[0x67]⟩ := by
    intro call hcall
    rcases List.mem_cons.1 hcall with rfl | hcall
    · rfl
    · rw [List.mem_singleton.1 hcall]
      rfl
  have hopens : ¬ s.Opens ⟨[0x67]⟩ [[0x66]] := by
    have hl : s.locate .writing ⟨[0x67]⟩ = .ok (.present [[0x67]]) := rfl
    rintro (h | ⟨h, -⟩) <;> simp [hl] at h
  refine ⟨hmissing, hkeeps s _, hframe s _ [[0x66]] ?_⟩
  intro before call after destination hcalls hd
  have hcall : call ∈ [missing, present] := by simp [hcalls]
  have hbefore : Call.runAll s before = s := by
    match before, hcalls with
    | [], _ => rfl
    | [first], hcalls =>
      obtain ⟨rfl, -⟩ := List.cons.inj hcalls
      exact hmissing
    | _ :: _ :: _, hcalls => simp at hcalls
  rw [hbefore] at hd ⊢
  obtain rfl := Option.some.inj ((hdestination call hcall).symm.trans hd)
  exact hopens

end BlobSource
