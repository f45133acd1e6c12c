import BlobSource.Proofs.Store.Overwriting

/-! The location that a path names, whether something lies there or a new file would. Laying files
does not change it. -/
namespace BlobSource.Store
variable {s : Store} {purpose : Purpose} {links : ℕ} {k l : Location} {steps : List Step}

theorem Leads.steps_eq_nil_of_not_isDirectory {place : Place}
    (h : Leads s purpose links k steps place) (hk : s.isDirectory k = false) : steps = [] := by
  cases h with
  | arrive => rfl
  | stay hd | finalSlash hd | up hd | create hd | enter hd | follow hd =>
    rw [hk] at hd
    cases hd

theorem Leads.getLast?_ne_finalSlash {place : Place} (h : Leads s purpose links k steps place)
    (hplace : ∀ l, place = .present l → s.isDirectory l = false) :
    steps.getLast? ≠ some .finalSlash := by
  induction h with
  | arrive => simp
  | create => simp
  | @stay _ _ rest _ _ _ ih | @up _ _ rest _ _ _ ih =>
    cases rest with
    | nil => simp
    | cons step rest =>
      rw [List.getLast?_cons_cons]
      exact ih hplace
  | @finalSlash _ k rest _ hd hrest ih =>
    cases rest with
    | nil =>
      cases hrest
      have hfile := hplace k rfl
      rw [hd] at hfile
      cases hfile
    | cons step rest =>
      rw [List.getLast?_cons_cons]
      exact ih hplace
  | @enter _ _ _ rest _ _ _ _ _ _ _ _ ih =>
    cases rest with
    | nil => simp
    | cons step rest =>
      rw [List.getLast?_cons_cons]
      exact ih hplace
  | @follow _ _ _ rest _ target _ _ _ _ _ ih =>
    cases rest with
    | nil => simp
    | cons step rest =>
      have hlast := ih hplace
      rw [List.getLast?_append_cons] at hlast
      rwa [List.getLast?_cons_cons]

/-- A writer is led where a reader is, if no directory lies there. -/
theorem Leads.writing (h : Leads s .reading links k steps (.present l))
    (hl : s.isDirectory l = false) : Leads s .writing links k steps (.present l) := by
  have hfile : ∀ m, Place.present l = .present m → s.isDirectory m = false := by
    intro m hm
    cases hm
    exact hl
  generalize hreading : Purpose.reading = purpose at h
  generalize Place.present l = place at h hfile
  induction h with
  | arrive => exact .arrive
  | stay hd _ ih => exact .stay hd (ih hfile)
  | finalSlash hd _ ih => exact .finalSlash hd (ih hfile)
  | up hd _ ih => exact .up hd (ih hfile)
  | create _ hp =>
    rw [hp] at hreading
    cases hreading
  | enter hd _ hlong hg hn hrest ih =>
    refine .enter hd ?_ hlong hg hn (ih hfile)
    rintro ⟨-, rfl⟩
    exact hrest.getLast?_ne_finalSlash hfile rfl
  | follow hd _ hlong hg hrest ih =>
    refine .follow hd ?_ hlong hg (ih hfile)
    rintro ⟨-, rfl⟩
    exact hrest.getLast?_ne_finalSlash hfile (by simp)

/-- A way that leads to a file which has been laid led there before, as far as a way can lead to
what is not there yet. -/
theorem Leads.of_put_file_self (h : s.IsFree l) {content : Content}
    (hw : Leads (s.put l (.file content)) .reading links k steps (.present l)) :
    Leads s .reading links k steps (.present l) ∨ Leads s .writing links k steps (.vacant l) := by
  have hd := fun k => (isDirectory_put_file h content k).symm
  have hget := fun k => get?_put s l k (.file content) h.ne_nil
  have hreading : ∀ rest : List Step, ¬ (Purpose.reading = .writing ∧ rest = [.finalSlash]) := by
    simp
  generalize hplace : Place.present l = place at hw
  induction hw with
  | arrive =>
    cases hplace
    exact .inl .arrive
  | stay hk _ ih => exact (ih hplace).imp (.stay ((hd _).trans hk)) (.stay ((hd _).trans hk))
  | finalSlash hk _ ih =>
    exact (ih hplace).imp (.finalSlash ((hd _).trans hk)) (.finalSlash ((hd _).trans hk))
  | up hk _ ih => exact (ih hplace).imp (.up ((hd _).trans hk)) (.up ((hd _).trans hk))
  | create _ hp => cases hp
  | @enter links k name rest place node hk _ hl hg hn hrest ih =>
    have hgk := hget (k ++ [name])
    have hdk := (hd k).trans hk
    by_cases hkl : k ++ [name] = l
    · subst hkl
      have hfile := get?_put_self s h.ne_nil (.file content)
      obtain rfl := hrest.steps_eq_nil_of_not_isDirectory (by simp [isDirectory, hfile])
      cases hplace
      rcases h with hnone | ⟨before, hbefore⟩
      · exact .inr (.create hdk rfl hl hnone)
      · exact .inl (.enter hdk (hreading _) hl hbefore (by simp) .arrive)
    · rw [if_neg hkl, hg] at hgk
      rcases ih hplace with hold | hnew
      · exact .inl (.enter hdk (hreading _) hl hgk.symm hn hold)
      · refine .inr (.enter hdk ?_ hl hgk.symm hn hnew)
        rintro ⟨-, rfl⟩
        exact hnew.getLast?_ne_finalSlash (by simp) rfl
  | @follow links k name rest place target hk _ hl hg _ ih =>
    have hgk := hget (k ++ [name])
    have hdk := (hd k).trans hk
    by_cases hkl : k ++ [name] = l
    · rw [if_pos hkl, hg] at hgk
      cases hgk
    · rw [if_neg hkl, hg] at hgk
      rcases ih hplace with hold | hnew
      · exact .inl (.follow hdk (hreading _) hl hgk.symm hold)
      · refine .inr (.follow hdk ?_ hl hgk.symm hnew)
        rintro ⟨-, rfl⟩
        exact hnew.getLast?_ne_finalSlash (by simp) (by simp)

/-- The path leads to the location, where something lies or a new file would. -/
def Names (s : Store) (p : Path) (l : Location) : Prop :=
  s.locate .reading p = .ok (.present l) ∨ s.locate .writing p = .ok (.vacant l)

variable {p : Path}

theorem names_of_find {node : Node} (h : s.find p = .ok (l, node)) : s.Names p l :=
  .inl (find_eq_ok_iff.1 h).1

theorem Opens.names (h : s.Opens p l) : s.Names p l := by
  rcases h with hv | ⟨hl, -⟩
  · exact .inr hv
  · exact .inl (locate_reading hl)

private theorem isDirectory_of_home (h : s.get? (s.home l) ≠ some .directory) :
    s.isDirectory l = false := by
  unfold isDirectory
  split
  · rename_i hdirectory
    rw [home, hdirectory] at h
    exact absurd hdirectory h
  · rfl

theorem opens_of_find {content : Content} (h : s.find p = .ok (l, .file content)) :
    s.Opens p l := by
  obtain ⟨hlocate, hfile⟩ := find_eq_ok_iff.1 h
  obtain ⟨name, hreach, hhome⟩ := locate_eq_present_iff.1 hlocate
  obtain ⟨hzero, hnil, hlong, hlead⟩ := reach_eq_ok_iff.1 hreach
  have hwriting : s.reach .writing p = .ok (.present name) :=
    reach_eq_ok_iff.2 ⟨hzero, hnil, hlong,
      hlead.writing (isDirectory_of_home (by rw [hhome, hfile]; simp))⟩
  exact .inr ⟨locate_eq_present_iff.2 ⟨name, hwriting, hhome⟩, content, hfile⟩

private theorem eq_of_present_of_vacant (hl : s.locate .reading p = .ok (.present l))
    (hk : s.locate .writing p = .ok (.vacant k)) : k = l := by
  have hopens : s.Opens p k := .inl hk
  have hnew := locate_reading (hopens.locate_put_file .empty)
  have hold := locate_put_file hopens.isFree .empty hl
  rw [Place.filled, if_neg (by simp)] at hold
  rw [hold] at hnew
  cases hnew
  rfl

theorem Names.unique (hl : s.Names p l) (hk : s.Names p k) : k = l := by
  rcases hl with hl | hl <;> rcases hk with hk | hk
  · rw [hl] at hk
    cases hk
    rfl
  · exact eq_of_present_of_vacant hl hk
  · exact (eq_of_present_of_vacant hk hl).symm
  · rw [hl] at hk
    cases hk
    rfl

private theorem names_of_put_file_self (h : s.IsFree l) {content : Content}
    (hr : (s.put l (.file content)).locate .reading p = .ok (.present l)) : s.Names p l := by
  obtain ⟨name, hreach, hhome⟩ := locate_eq_present_iff.1 hr
  rw [home_put_file h] at hhome
  obtain ⟨hzero, hnil, hlong, hlead⟩ := reach_eq_ok_iff.1 hreach
  by_cases hname : name = l
  · subst hname
    rcases hlead.of_put_file_self h with hold | hnew
    · have hold' := reach_eq_ok_iff.2 ⟨hzero, hnil, hlong, hold⟩
      exact .inl (locate_eq_present_iff.2 ⟨name, hold', hhome⟩)
    · exact .inr (locate_eq_vacant_iff.2 (reach_eq_ok_iff.2 ⟨hzero, hnil, hlong, hnew⟩))
  · have hold := reach_eq_ok_iff.2 ⟨hzero, hnil, hlong, hlead.of_put_file h (by simpa using hname)⟩
    exact .inl (locate_eq_present_iff.2 ⟨name, hold, hhome⟩)

/-- A file, old or new, changes nothing about what paths name. -/
theorem names_put_file_iff (h : s.IsFree l) (content : Content) :
    (s.put l (.file content)).Names p k ↔ s.Names p k := by
  constructor
  · rintro (hr | hv)
    · by_cases hk : k = l
      · subst hk
        exact names_of_put_file_self h hr
      · exact .inl (locate_of_put_file h hr (by simpa using hk))
    · exact .inr (locate_of_put_file h hv (by simp))
  · rintro (hr | hv)
    · have hplace := locate_put_file h content hr
      rw [Place.filled, if_neg (by simp)] at hplace
      exact .inl hplace
    · have hplace := locate_put_file h content hv
      by_cases hk : k = l
      · subst hk
        rw [Place.filled, if_pos rfl] at hplace
        exact .inl (locate_reading hplace)
      · rw [Place.filled, if_neg (by simpa using hk)] at hplace
        exact .inr hplace

/-- The path leads to a device that takes what is written to it, or refuses it piece by piece. -/
structure Serves (s : Store) (p : Path) (l : Location) (device : Device) : Prop where
  locate : s.locate .writing p = .ok (.present l)
  get? : s.get? l = some (.device device)
  barrier : device.barrier? = none

theorem Serves.names {device : Device} (h : s.Serves p l device) : s.Names p l :=
  .inl (locate_reading h.locate)

theorem Serves.create {device : Device} (h : s.Serves p l device) : s.create p = .ok (s, l) := by
  unfold Store.create
  simp [h.locate, h.get?, h.barrier]

theorem opens_or_serves_of_create {opened : Store} (h : s.create p = .ok (opened, l)) :
    s.Opens p l ∨ ∃ device, s.Serves p l device := by
  unfold Store.create at h
  split at h
  · cases h
  · rename_i hl
    cases h
    exact .inl (.inl hl)
  · rename_i m hl
    split at h
    · rename_i content hg
      cases h
      exact .inl (.inr ⟨hl, content, hg⟩)
    · rename_i device hg
      split at h
      · cases h
      · rename_i hb
        cases h
        exact .inr ⟨device, hl, hg, hb⟩
    · cases h
    · cases h

section Elsewhere
variable (h : s.IsFree l) (content : Content)
include h

theorem locate_put_file_iff {place : Place} (hp : place ≠ .present l) (hv : place ≠ .vacant l) :
    (s.put l (.file content)).locate purpose p = .ok place ↔ s.locate purpose p = .ok place := by
  constructor
  · intro hlocate
    exact locate_of_put_file h hlocate hp
  · intro hlocate
    have hplace := locate_put_file h content hlocate
    rwa [Place.filled, if_neg hv] at hplace

theorem find_put_file_iff {node : Node} (hk : k ≠ l) :
    (s.put l (.file content)).find p = .ok (k, node) ↔ s.find p = .ok (k, node) :=
  ⟨fun hf => find_of_put_file h hf hk, fun hf => find_put_file h content hf hk⟩

theorem opens_put_file_iff (hk : k ≠ l) : (s.put l (.file content)).Opens p k ↔ s.Opens p k := by
  unfold Opens
  rw [locate_put_file_iff h content (by simp) (by simpa using hk),
    locate_put_file_iff h content (by simpa using hk) (by simp), get?_put_of_ne s h.ne_nil hk]

theorem serves_put_file_iff {device : Device} (hk : k ≠ l) :
    (s.put l (.file content)).Serves p k device ↔ s.Serves p k device := by
  have hlocate : (s.put l (.file content)).locate .writing p = .ok (.present k) ↔
      s.locate .writing p = .ok (.present k) :=
    locate_put_file_iff h content (by simpa using hk) (by simp)
  have hget := get?_put_of_ne s h.ne_nil hk (.file content)
  constructor
  · rintro ⟨hl, hg, hb⟩
    exact ⟨hlocate.1 hl, hget ▸ hg, hb⟩
  · rintro ⟨hl, hg, hb⟩
    exact ⟨hlocate.2 hl, hget.trans hg, hb⟩

end Elsewhere

/-- The second store is the first with one more file, or with one that has another content. -/
def Adds (s t : Store) (l : Location) (content : Content) : Prop :=
  ∀ k, t.get? k = if k = l then some (.file content) else s.get? k

namespace Adds
variable {t : Store} {content : Content} {m : Location}

theorem put_file (s : Store) (hl : l ≠ []) (content : Content) :
    s.Adds (s.put l (.file content)) l content := fun k => get?_put s l k _ hl

theorem put (h : s.Adds t l content) (hm : m ≠ []) (hml : m ≠ l) (n : Node) :
    (s.put m n).Adds (t.put m n) l content := by
  intro k
  rw [get?_put t m k n hm, get?_put s m k n hm, h k]
  by_cases hk : k = m
  · rw [if_pos hk, if_pos hk, if_neg (hk ▸ hml)]
  · rw [if_neg hk, if_neg hk]

theorem fill (h : s.Adds t l content) (hml : m ≠ l) (x : Content) :
    (s.fill m x).Adds (t.fill m x) l content := by
  unfold Store.fill
  rw [h m, if_neg hml]
  split
  · rename_i before hfile
    have hm : m ≠ [] := by
      rintro rfl
      cases hfile
    exact h.put hm hml _
  · exact h

theorem readerAt (h : s.Adds t l content) (hml : m ≠ l) : t.readerAt m = s.readerAt m := by
  unfold Store.readerAt
  rw [h m, if_neg hml]

theorem sinkAt (h : s.Adds t l content) (hml : m ≠ l) : t.sinkAt m = s.sinkAt m := by
  unfold Store.sinkAt
  rw [h m, if_neg hml]

end Adds

section Created
variable (h : s.IsFree l) (content : Content) (hp : ¬ s.Names p l) {m : Location}
include h hp

theorem create_put_file {opened : Store} (hc : s.create p = .ok (opened, m)) :
    m ≠ l ∧ ∃ opened', (s.put l (.file content)).create p = .ok (opened', m) ∧
      opened.Adds opened' l content := by
  have hadds := Adds.put_file s h.ne_nil content
  rcases opens_or_serves_of_create hc with hopens | ⟨device, hserves⟩
  · have hml : m ≠ l := fun heq => hp (heq ▸ hopens.names)
    obtain ⟨rfl, -⟩ := Prod.mk.inj (Except.ok.inj (hopens.create.symm.trans hc))
    exact ⟨hml, _, ((opens_put_file_iff h content hml).2 hopens).create,
      hadds.put hopens.isFree.ne_nil hml _⟩
  · have hml : m ≠ l := fun heq => hp (heq ▸ hserves.names)
    obtain ⟨rfl, -⟩ := Prod.mk.inj (Except.ok.inj (hserves.create.symm.trans hc))
    exact ⟨hml, _, ((serves_put_file_iff h content hml).2 hserves).create, hadds⟩

theorem exists_create_of_put_file {opened' : Store}
    (hc : (s.put l (.file content)).create p = .ok (opened', m)) :
    ∃ opened, s.create p = .ok (opened, m) := by
  have hne : (s.put l (.file content)).Names p m → m ≠ l := fun hnames heq =>
    hp (heq ▸ (names_put_file_iff h content).1 hnames)
  rcases opens_or_serves_of_create hc with hopens | ⟨device, hserves⟩
  · exact ⟨_, ((opens_put_file_iff h content (hne hopens.names)).1 hopens).create⟩
  · exact ⟨_, ((serves_put_file_iff h content (hne hserves.names)).1 hserves).create⟩

end Created
end BlobSource.Store
