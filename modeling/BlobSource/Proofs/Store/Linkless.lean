import BlobSource.Proofs.Path.Segments
import BlobSource.Proofs.Store.Naming

/-! Files without symbolic links: whatever the directories on the way, a path with a file name leads
to a location of that name. A file may still have several names, by hard links. -/
namespace BlobSource

theorem Places.mem_toList_of_get? {α : Type} {places : Places α} {l : Location} {a : α}
    (h : places.get? l = some a) : (l, a) ∈ places.toList := by
  induction places generalizing l with
  | nil => simp at h
  | place name here? below others ihb iho =>
    cases l with
    | nil => simp at h
    | cons step rest =>
      unfold get? at h
      rw [toList, List.mem_append, List.mem_append]
      split at h
      · rename_i hstep
        subst hstep
        split at h
        · rename_i hrest
          subst hrest
          exact .inl (.inl (by simp [h]))
        · exact .inl (.inr (List.mem_map.2 ⟨(rest, a), ihb h, rfl⟩))
      · exact .inr (iho h)

/-- A step that goes nowhere, and only asks for a directory. -/
def Step.IsIdle (step : Step) : Prop := step = .stay ∨ step = .finalSlash

theorem Path.exists_steps_of_fileName? {p : Path} {name : Bytes} (h : p.fileName? = some name) :
    ∃ before after, p.steps = before ++ .down name :: after ∧ ∀ step ∈ after, step.IsIdle := by
  obtain ⟨hlast, hparent⟩ := fileName?_eq_some_iff.1 h
  obtain ⟨front, hsegments⟩ := List.getLast?_eq_some_iff.1 hlast
  have hsegment := isSegment_of_mem_segments (List.mem_of_getLast? hlast)
  obtain ⟨l₁, l₂, hpieces, -, hname⟩ := List.filter_eq_append_iff.1 hsegments
  obtain ⟨m₁, m₂, rfl, -, -, hrest⟩ := List.filter_eq_cons_iff.1 hname
  have hdown : Step.ofPiece name = .down name := by
    rw [Step.ofPiece, if_neg hsegment.2.1, if_neg hparent]
  have hbody : ((pieces p.bytes).filter (· ≠ [])).map Step.ofPiece =
      ((l₁ ++ m₁).filter (· ≠ [])).map Step.ofPiece ++
        .down name :: (m₂.filter (· ≠ [])).map Step.ofPiece := by
    rw [hpieces, ← List.append_assoc, List.filter_append, List.map_append,
      List.filter_cons_of_pos (by simpa using hsegment.1), List.map_cons, hdown]
  have hidle : ∀ step ∈ (m₂.filter (· ≠ [])).map Step.ofPiece, step.IsIdle := by
    intro step hstep
    obtain ⟨piece, hpiece, rfl⟩ := List.mem_map.1 hstep
    obtain ⟨hmem, hne⟩ := List.mem_filter.1 hpiece
    have hcurrent : piece = currentName := by
      have hnone := List.filter_eq_nil_iff.1 hrest piece hmem
      simp_all
    exact .inl (by rw [hcurrent, Step.ofPiece, if_pos rfl])
  unfold steps
  dsimp only
  rw [hbody]
  split
  · refine ⟨_, _, by rw [List.append_assoc, List.cons_append], ?_⟩
    intro step hstep
    rcases List.mem_append.1 hstep with hstep | hstep
    · exact hidle step hstep
    · exact .inr (List.mem_singleton.1 hstep)
  · exact ⟨_, _, rfl, hidle⟩

def Place.location : Place → Location
  | present l | vacant l => l

namespace Store
variable {s : Store} {purpose : Purpose} {links : ℕ} {k l : Location}

/-- There is no symbolic link. -/
def Linkless (s : Store) : Prop := ∀ l target, s.get? l ≠ some (.link target)

theorem linkless_of_toList (h : ∀ x ∈ s.places.toList, ∀ target, x.2 ≠ .link target) :
    s.Linkless := by
  intro l target hl
  unfold get? at hl
  split at hl
  · cases hl
  · exact h _ (Places.mem_toList_of_get? hl) target rfl

theorem Leads.eq_present_of_isIdle {steps : List Step} {place : Place}
    (h : Leads s purpose links k steps place) (hidle : ∀ step ∈ steps, step.IsIdle) :
    place = .present k := by
  induction h with
  | arrive => rfl
  | stay _ _ ih | finalSlash _ _ ih => exact ih (List.forall_mem_cons.1 hidle).2
  | up | create | enter | follow =>
    have hfirst := (List.forall_mem_cons.1 hidle).1
    simp [Step.IsIdle] at hfirst

theorem Leads.getLast?_location (hs : s.Linkless) {name : Bytes} {before after steps : List Step}
    {place : Place} (h : Leads s purpose links k steps place)
    (hsteps : steps = before ++ .down name :: after) (hafter : ∀ step ∈ after, step.IsIdle) :
    place.location.getLast? = some name := by
  induction h generalizing before with
  | arrive => simp at hsteps
  | stay _ _ ih | finalSlash _ _ ih | up _ _ ih =>
    cases before with
    | nil => cases hsteps
    | cons step before => exact ih (List.cons.inj hsteps).2
  | create _ _ _ _ =>
    cases before with
    | nil =>
      cases hsteps
      simp [Place.location]
    | cons step before => simp at hsteps
  | enter _ _ _ _ _ hrest ih =>
    cases before with
    | nil =>
      cases hsteps
      rw [hrest.eq_present_of_isIdle hafter]
      simp [Place.location]
    | cons step before => exact ih (List.cons.inj hsteps).2
  | follow _ _ _ hg _ _ => exact absurd hg (hs _ _)

variable {p : Path} {name : Bytes}

theorem getLast?_of_reach (hs : s.Linkless) {place : Place}
    (h : s.reach purpose p = .ok place) (hp : p.fileName? = some name) :
    place.location.getLast? = some name := by
  obtain ⟨-, -, -, hlead⟩ := reach_eq_ok_iff.1 h
  obtain ⟨before, after, hsteps, hafter⟩ := Path.exists_steps_of_fileName? hp
  exact hlead.getLast?_location hs hsteps hafter

/-- The two paths lead to different names of one file, the second of them for a writer. -/
def HardLinked (s : Store) (p q : Path) : Prop :=
  ∃ k place, s.reach .reading p = .ok (.present k) ∧ s.reach .writing q = .ok place ∧
    k ≠ place.location ∧ s.home k = s.home place.location

theorem Opens.exists_reach (h : s.Opens p l) :
    ∃ place, s.reach .writing p = .ok place ∧ s.home place.location = l := by
  rcases h with hv | ⟨hl, -⟩
  · have hfree : s.IsFree l := .inl (get?_of_vacant hv)
    exact ⟨.vacant l, locate_eq_vacant_iff.1 hv, hfree.home_eq⟩
  · obtain ⟨k, hk, hhome⟩ := locate_eq_present_iff.1 hl
    exact ⟨.present k, hk, hhome⟩

theorem Opens.not_names {destination : Path} (h : s.Opens destination l) (hs : s.Linkless)
    {other : Bytes} (hd : destination.fileName? = some other) (hp : p.fileName? = some name)
    (hne : name ≠ other) (hlinked : ¬ s.HardLinked p destination) : ¬ s.Names p l := by
  obtain ⟨place, hplace, hhome⟩ := h.exists_reach
  have hlast := getLast?_of_reach hs hplace hd
  rintro (hnamed | hvacant)
  · obtain ⟨k, hk, hhome'⟩ := locate_eq_present_iff.1 hnamed
    have hname : k.getLast? = some name := getLast?_of_reach hs hk hp
    refine hlinked ⟨k, place, hk, hplace, ?_, hhome'.trans hhome.symm⟩
    rintro rfl
    exact hne (Option.some.inj (hname.symm.trans hlast))
  · have hname : l.getLast? = some name := getLast?_of_reach hs (locate_eq_vacant_iff.1 hvacant) hp
    rcases h with hv | ⟨-, content, hf⟩
    · have hother : l.getLast? = some other := getLast?_of_reach hs (locate_eq_vacant_iff.1 hv) hd
      exact hne (Option.some.inj (hname.symm.trans hother))
    · rw [get?_of_vacant hvacant] at hf
      cases hf

theorem Opens.content?_put_file_of_ne {destination : Path} (h : s.Opens destination l)
    (hs : s.Linkless) {other : Bytes} (hd : destination.fileName? = some other)
    (hp : p.fileName? = some name) (hne : name ≠ other) (hlinked : ¬ s.HardLinked p destination)
    (content : Content) : (s.put l (.file content)).content? p = s.content? p := by
  have hnames : ¬ s.Names p l := h.not_names hs hd hp hne hlinked
  apply Store.content?_put_file_of_ne h.isFree content
  · intro node hfound
    exact hnames (names_of_find hfound)
  · intro node hfound
    exact hnames ((names_put_file_iff h.isFree content).1 (names_of_find hfound))

end Store
end BlobSource
