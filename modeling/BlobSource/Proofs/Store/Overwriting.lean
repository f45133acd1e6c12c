import BlobSource.Proofs.Store.Leads

/-! Laying a regular file where one lies already or can be created, and where paths lead then. -/
namespace BlobSource

namespace Places
variable {α : Type}

private theorem set_single (a? b? : Option α) (l : Location) :
    (single a? l).set b? l = single b? l := by
  induction l with
  | nil => rfl
  | cons step rest ih =>
    by_cases hr : rest = []
    · simp [single, set, hr]
    · simp [single, set, hr, ih]

theorem set_set (a? b? : Option α) (places : Places α) (l : Location) :
    (places.set a? l).set b? l = places.set b? l := by
  induction places generalizing l with
  | nil =>
    cases l with
    | nil => rfl
    | cons step rest =>
      unfold set
      exact set_single a? b? (step :: rest)
  | place name here? below others ihb iho =>
    cases l with
    | nil => rfl
    | cons step rest =>
      by_cases hs : step = name
      · by_cases hr : rest = [] <;> simp [set, hs, hr, ihb]
      · simp [set, hs, iho]

end Places

/-- Where a walk ends once a file has been laid at a location. -/
def Place.filled (l : Location) (place : Place) : Place :=
  if place = .vacant l then .present l else place

namespace Store
variable {s : Store} {l : Location}

theorem put_put (s : Store) (l : Location) (m n : Node) : (s.put l m).put l n = s.put l n := by
  unfold put
  rw [Places.set_set]

theorem get?_put_self (s : Store) {l : Location} (hl : l ≠ []) (n : Node) :
    (s.put l n).get? l = some n := by
  rw [get?_put s l l n hl, if_pos rfl]

theorem get?_put_of_ne (s : Store) {l k : Location} (hl : l ≠ []) (hk : k ≠ l) (n : Node) :
    (s.put l n).get? k = s.get? k := by
  rw [get?_put s l k n hl, if_neg hk]

theorem fill_put (s : Store) {l : Location} (hl : l ≠ []) (before content : Content) :
    (s.put l (.file before)).fill l content = s.put l (.file content) := by
  unfold fill
  rw [get?_put_self s hl]
  exact put_put s l _ _

theorem sinkAt_put (s : Store) {l : Location} (hl : l ≠ []) (content : Content) :
    (s.put l (.file content)).sinkAt l = .boundless := by
  unfold sinkAt
  rw [get?_put_self s hl]
  rfl

theorem readerAt_put_of_ne (s : Store) {l k : Location} (hl : l ≠ []) (hk : k ≠ l) (n : Node) :
    (s.put l n).readerAt k = s.readerAt k := by
  unfold readerAt
  rw [get?_put_of_ne s hl hk]

/-- Whether a regular file lies at the location, or nothing at all. -/
def IsFree (s : Store) (l : Location) : Prop :=
  s.get? l = none ∨ ∃ content, s.get? l = some (.file content)

theorem IsFree.ne_nil (h : s.IsFree l) : l ≠ [] := by
  rintro rfl
  rcases h with h | ⟨content, h⟩
  · cases h
  · cases h

/-- A source that lies there has the same content after a file has been laid, whether that is said of
the new store or of what was opened in the old one. -/
theorem readerAfter_put_file (h : s.IsFree l) {k : Location} {node : Node}
    (hk : s.get? k = some node) (content : Content) :
    s.readerAfter (s.put l (.file content)) k = (s.put l (.file content)).readerAt k := by
  unfold readerAfter readerAt
  by_cases hkl : k = l
  · subst hkl
    rcases h with hn | ⟨before, hf⟩
    · rw [hn] at hk
      cases hk
    · rw [hf, get?_put_self s (IsFree.ne_nil (.inr ⟨before, hf⟩))]
      rfl
  · rw [get?_put_of_ne s h.ne_nil hkl, hk]
    cases node <;> rfl

theorem isDirectory_put_file (h : s.IsFree l) (content : Content) (k : Location) :
    (s.put l (.file content)).isDirectory k = s.isDirectory k := by
  unfold isDirectory
  rw [get?_put s l k _ h.ne_nil]
  by_cases hk : k = l
  · subst hk
    rcases h with hn | ⟨before, hf⟩
    · rw [if_pos rfl, hn]
    · rw [if_pos rfl, hf]
  · rw [if_neg hk]

theorem IsFree.home_eq (h : s.IsFree l) : s.home l = l := by
  rcases h with h | ⟨content, h⟩ <;> simp [home, h]

theorem home_put_file (h : s.IsFree l) (content : Content) (k : Location) :
    (s.put l (.file content)).home k = s.home k := by
  by_cases hk : k = l
  · rw [hk, h.home_eq, home, get?_put_self s h.ne_nil]
  · rw [home, home, get?_put_of_ne s h.ne_nil hk]

/-- A new or rewritten file closes no way: it is found at its location, and every other place that
could be reached still is. -/
theorem Leads.put_file (h : s.IsFree l) (content : Content) {purpose : Purpose} {links : ℕ}
    {k : Location} {steps : List Step} {place : Place} (hw : Leads s purpose links k steps place) :
    Leads (s.put l (.file content)) purpose links k steps (place.filled l) := by
  have hd := isDirectory_put_file h content
  have hget := fun k => get?_put s l k (.file content) h.ne_nil
  induction hw with
  | arrive => exact .arrive
  | stay hk _ ih => exact .stay ((hd _).trans hk) ih
  | finalSlash hk _ ih => exact .finalSlash ((hd _).trans hk) ih
  | up hk _ ih => exact .up ((hd _).trans hk) ih
  | @create links k name hk hp hl hg =>
    have hgk := hget (k ++ [name])
    by_cases hkl : k ++ [name] = l
    · rw [if_pos hkl] at hgk
      have hplace : (Place.vacant (k ++ [name])).filled l = .present (k ++ [name]) := by
        rw [Place.filled, hkl, if_pos rfl]
      rw [hplace]
      exact .enter ((hd k).trans hk) (by simp) hl hgk (by simp) .arrive
    · rw [if_neg hkl, hg] at hgk
      have hplace : (Place.vacant (k ++ [name])).filled l = .vacant (k ++ [name]) :=
        if_neg (by simpa using hkl)
      rw [hplace]
      exact .create ((hd k).trans hk) hp hl hgk
  | @enter links k name rest place node hk hf hl hg hn _ ih =>
    have hgk := hget (k ++ [name])
    by_cases hkl : k ++ [name] = l
    · rw [if_pos hkl] at hgk
      exact .enter ((hd k).trans hk) hf hl hgk (by simp) ih
    · rw [if_neg hkl, hg] at hgk
      exact .enter ((hd k).trans hk) hf hl hgk hn ih
  | @follow links k name rest place target hk hf hl hg _ ih =>
    have hgk := hget (k ++ [name])
    have hkl : k ++ [name] ≠ l := by
      rintro rfl
      rcases h with hn | ⟨before, hb⟩
      · rw [hg] at hn
        cases hn
      · rw [hg] at hb
        cases hb
    rw [if_neg hkl, hg] at hgk
    exact .follow ((hd k).trans hk) hf hl hgk ih

theorem reach_put_file (h : s.IsFree l) (content : Content) {purpose : Purpose} {p : Path}
    {place : Place} (hp : s.reach purpose p = .ok place) :
    (s.put l (.file content)).reach purpose p = .ok (place.filled l) := by
  rw [reach_eq_ok_iff] at hp ⊢
  obtain ⟨hzero, hnil, hlong, hlead⟩ := hp
  exact ⟨hzero, hnil, hlong, hlead.put_file h content⟩

theorem locate_put_file (h : s.IsFree l) (content : Content) {purpose : Purpose} {p : Path}
    {place : Place} (hp : s.locate purpose p = .ok place) :
    (s.put l (.file content)).locate purpose p = .ok (place.filled l) := by
  cases place with
  | present k =>
    obtain ⟨name, hname, rfl⟩ := locate_eq_present_iff.1 hp
    exact locate_eq_present_iff.2 ⟨name, reach_put_file h content hname, home_put_file h _ _⟩
  | vacant k =>
    have hreach := reach_put_file h content (locate_eq_vacant_iff.1 hp)
    by_cases hk : k = l
    · subst hk
      rw [Place.filled, if_pos rfl] at hreach ⊢
      exact locate_eq_present_iff.2 ⟨k, hreach, (home_put_file h _ _).trans h.home_eq⟩
    · rw [Place.filled, if_neg (by simpa using hk)] at hreach ⊢
      exact locate_eq_vacant_iff.2 hreach

theorem find_eq_ok_iff {p : Path} {k : Location} {node : Node} :
    s.find p = .ok (k, node) ↔
      s.locate .reading p = .ok (.present k) ∧ s.get? k = some node := by
  unfold find
  constructor
  · intro h
    split at h
    · cases h
    · cases h
    · rename_i l hlocate
      split at h
      · rename_i n hn
        cases h
        exact ⟨hlocate, hn⟩
      · cases h
  · rintro ⟨hlocate, hn⟩
    rw [hlocate]
    dsimp only
    rw [hn]

/-- A path that leads to another location leads there still, and to the same node. -/
theorem find_put_file (h : s.IsFree l) (content : Content) {p : Path} {k : Location} {node : Node}
    (hp : s.find p = .ok (k, node)) (hk : k ≠ l) :
    (s.put l (.file content)).find p = .ok (k, node) := by
  rw [find_eq_ok_iff] at hp ⊢
  obtain ⟨hlocate, hnode⟩ := hp
  have hplace := locate_put_file h content hlocate
  rw [Place.filled, if_neg (by simp)] at hplace
  exact ⟨hplace, (get?_put_of_ne s h.ne_nil hk _).trans hnode⟩

/-- A file opens no way either: whatever can be reached with it there, but the file itself, could be
reached before. -/
theorem Leads.of_put_file (h : s.IsFree l) {content : Content} {purpose : Purpose} {links : ℕ}
    {k : Location} {steps : List Step} {place : Place}
    (hw : Leads (s.put l (.file content)) purpose links k steps place)
    (hplace : place ≠ .present l) : Leads s purpose links k steps place := by
  have hd := isDirectory_put_file h content
  have hget := fun k => get?_put s l k (.file content) h.ne_nil
  induction hw with
  | arrive => exact .arrive
  | stay hk _ ih => exact .stay ((hd _).symm.trans hk) (ih hplace)
  | finalSlash hk _ ih => exact .finalSlash ((hd _).symm.trans hk) (ih hplace)
  | up hk _ ih => exact .up ((hd _).symm.trans hk) (ih hplace)
  | @create links k name hk hp hl hg =>
    have hgk := hget (k ++ [name])
    by_cases hkl : k ++ [name] = l
    · rw [if_pos hkl, hg] at hgk
      cases hgk
    · rw [if_neg hkl, hg] at hgk
      exact .create ((hd k).symm.trans hk) hp hl hgk.symm
  | @enter links k name rest place node hk hf hl hg hn hrest ih =>
    have hgk := hget (k ++ [name])
    by_cases hkl : k ++ [name] = l
    · rw [hkl] at hrest
      have hfile := get?_put_self s h.ne_nil (.file content)
      exact absurd (hrest.eq_present_of_not_isDirectory (by simp [isDirectory, hfile])) hplace
    · rw [if_neg hkl, hg] at hgk
      exact .enter ((hd k).symm.trans hk) hf hl hgk.symm hn (ih hplace)
  | @follow links k name rest place target hk hf hl hg _ ih =>
    have hgk := hget (k ++ [name])
    by_cases hkl : k ++ [name] = l
    · rw [if_pos hkl, hg] at hgk
      cases hgk
    · rw [if_neg hkl, hg] at hgk
      exact .follow ((hd k).symm.trans hk) hf hl hgk.symm (ih hplace)

theorem locate_of_put_file (h : s.IsFree l) {content : Content} {purpose : Purpose} {p : Path}
    {place : Place} (hp : (s.put l (.file content)).locate purpose p = .ok place)
    (hplace : place ≠ .present l) : s.locate purpose p = .ok place := by
  have hreach : ∀ place', (s.put l (.file content)).reach purpose p = .ok place' →
      place' ≠ .present l → s.reach purpose p = .ok place' := by
    intro place' hp' hne
    obtain ⟨hzero, hnil, hlong, hlead⟩ := reach_eq_ok_iff.1 hp'
    exact reach_eq_ok_iff.2 ⟨hzero, hnil, hlong, hlead.of_put_file h hne⟩
  cases place with
  | present k =>
    obtain ⟨name, hname, rfl⟩ := locate_eq_present_iff.1 hp
    rw [home_put_file h] at hplace ⊢
    refine locate_eq_present_iff.2 ⟨name, hreach _ hname ?_, rfl⟩
    rintro ⟨⟩
    exact hplace (congrArg Place.present h.home_eq)
  | vacant k => exact locate_eq_vacant_iff.2 (hreach _ (locate_eq_vacant_iff.1 hp) (by simp))

theorem find_of_put_file (h : s.IsFree l) {content : Content} {p : Path} {k : Location}
    {node : Node} (hp : (s.put l (.file content)).find p = .ok (k, node)) (hk : k ≠ l) :
    s.find p = .ok (k, node) := by
  rw [find_eq_ok_iff] at hp ⊢
  obtain ⟨hlocate, hnode⟩ := hp
  rw [get?_put_of_ne s h.ne_nil hk] at hnode
  exact ⟨locate_of_put_file h hlocate (by simpa using hk), hnode⟩

theorem content?_put_file_of_ne (h : s.IsFree l) (content : Content) {p : Path}
    (hbefore : ∀ node, s.find p ≠ .ok (l, node))
    (hafter : ∀ node, (s.put l (.file content)).find p ≠ .ok (l, node)) :
    (s.put l (.file content)).content? p = s.content? p := by
  unfold content?
  cases hp : s.find p with
  | ok found =>
    obtain ⟨k, node⟩ := found
    have hk : k ≠ l := by
      rintro rfl
      exact hbefore node hp
    rw [find_put_file h content hp hk]
  | error e =>
    cases hp' : (s.put l (.file content)).find p with
    | error e' => rfl
    | ok found =>
      obtain ⟨k, node⟩ := found
      have hk : k ≠ l := by
        rintro rfl
        exact hafter node hp'
      have hfound := find_of_put_file h hp' hk
      rw [hp] at hfound
      cases hfound

/-- A path leads to a location for a writer, where a regular file lies or can be created. -/
def Opens (s : Store) (p : Path) (l : Location) : Prop :=
  s.locate .writing p = .ok (.vacant l) ∨
    s.locate .writing p = .ok (.present l) ∧ ∃ content, s.get? l = some (.file content)

variable {p : Path}

theorem Opens.isFree (h : s.Opens p l) : s.IsFree l := by
  rcases h with hv | ⟨-, hf⟩
  · exact .inl (get?_of_vacant hv)
  · exact .inr hf

theorem Opens.create (h : s.Opens p l) : s.create p = .ok (s.put l (.file .empty), l) := by
  unfold Store.create
  rcases h with hv | ⟨hl, content, hf⟩
  · rw [hv]
  · rw [hl]
    simp [hf]

theorem Opens.locate_put_file (h : s.Opens p l) (content : Content) :
    (s.put l (.file content)).locate .writing p = .ok (.present l) := by
  have hfree := h.isFree
  rcases h with hv | ⟨hl, -⟩
  · have hw := Store.locate_put_file hfree content hv
    rwa [Place.filled, if_pos rfl] at hw
  · exact Store.locate_put_file hfree content hl

theorem Opens.put_file (h : s.Opens p l) (content : Content) :
    (s.put l (.file content)).Opens p l := by
  refine .inr ⟨h.locate_put_file content, content, ?_⟩
  rw [get?_put s l l _ h.isFree.ne_nil, if_pos rfl]

theorem Opens.content?_put_file (h : s.Opens p l) (content : Content) :
    (s.put l (.file content)).content? p = some content := by
  have hread := locate_reading (h.locate_put_file content)
  have hg := get?_put s l l (.file content) h.isFree.ne_nil
  rw [if_pos rfl] at hg
  simp [content?, find, hread, hg]

/-- Opening a path for writing empties a regular file, or touches nothing but a device. -/
theorem create_cases {opened : Store} (h : s.create p = .ok (opened, l)) :
    (s.Opens p l ∧ opened = s.put l (.file .empty)) ∨
      (opened = s ∧ ∃ device, s.get? l = some (.device device)) := by
  unfold Store.create at h
  cases hp : s.locate .writing p with
  | error e => simp [hp] at h
  | ok place =>
    rw [hp] at h
    cases place with
    | vacant m =>
      cases h
      exact .inl ⟨.inl hp, rfl⟩
    | present m =>
      dsimp only at h
      split at h
      · cases h
        exact .inl ⟨.inr ⟨hp, _, ‹_›⟩, rfl⟩
      · split at h
        · cases h
        · cases h
          exact .inr ⟨rfl, _, ‹_›⟩
      · cases h
      · cases h

theorem find_of_create_device {opened : Store} {device : Device}
    (h : s.create p = .ok (opened, l)) (hg : s.get? l = some (.device device)) :
    s.find p = .ok (l, .device device) := by
  have hlocate : s.locate .writing p = .ok (.present l) := by
    unfold Store.create at h
    cases hp : s.locate .writing p with
    | error e => simp [hp] at h
    | ok place =>
      rw [hp] at h
      cases place with
      | vacant m =>
        cases h
        rw [get?_of_vacant hp] at hg
        cases hg
      | present m =>
        dsimp only at h
        split at h
        · cases h
          rfl
        · split at h
          · cases h
          · cases h
            rfl
        · cases h
        · cases h
  exact find_eq_ok_iff.2 ⟨locate_reading hlocate, hg⟩

theorem fill_of_device {device : Device} (h : s.get? l = some (.device device))
    (content : Content) : s.fill l content = s := by
  unfold fill
  rw [h]

end Store
end BlobSource
