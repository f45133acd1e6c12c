import BlobSource.Proofs.Path.Segments

/-! The components of a path, which are what two spellings of one path have in common, and those of
a name joined to a directory. -/
namespace BlobSource.Path

inductive Component where
  | root
  /-- Only at the start of a relative path; everywhere else a single dot counts for nothing. -/
  | current
  | parent
  | named (name : Bytes)
  deriving DecidableEq, Repr

def Component.ofSegment (name : Bytes) : Component :=
  if name = parentName then .parent else .named name

/-- The start of a path, as far as it is a component of its own. -/
def start (p : Path) : List Component :=
  if p.isAbsolute then [.root]
  else if (cut p.bytes).1 = currentName then [.current]
  else []

/-- The parent of a path has all components of it but the last. -/
def components (p : Path) : List Component := p.start ++ p.segments.map .ofSegment

theorem start_append {bytes : Bytes} (h : bytes ≠ []) (more : Bytes) :
    (Path.mk (bytes ++ slash :: more)).start = (Path.mk bytes).start := by
  have habsolute : (Path.mk (bytes ++ slash :: more)).isAbsolute = (Path.mk bytes).isAbsolute := by
    cases bytes with
    | nil => exact absurd rfl h
    | cons b bs => rfl
  rw [start, start, habsolute, cut_append_slash]

theorem IsSegment.start {name : Bytes} (h : IsSegment name) : (Path.mk name).start = [] := by
  obtain ⟨-, hcurrent, hslash⟩ := id h
  have hcut : (cut name).1 = name := by
    have hpieces := pieces_of_slash_notMem hslash
    simp only [pieces, List.cons.injEq] at hpieces
    exact hpieces.1
  rw [Path.start, h.isAbsolute, hcut]
  simp [hcurrent]

theorem start_join (base : Path) {name : Bytes} (h : IsSegment name) :
    (base.join ⟨name⟩).start = base.start := by
  obtain ⟨bytes⟩ := base
  rw [join, if_neg (by simp [h.isAbsolute])]
  by_cases hempty : bytes = []
  · subst hempty
    exact h.start
  by_cases hslash : (Path.mk bytes).endsInSlash = true
  · obtain ⟨body, hbody⟩ := exists_of_endsInSlash hslash
    dsimp only at hbody
    subst hbody
    rw [if_pos (.inr hslash), List.append_assoc, List.singleton_append]
    by_cases hbody : body = []
    · subst hbody
      rfl
    · rw [start_append hbody, start_append hbody]
  · rw [if_neg (by simp [hempty, hslash]), start_append hempty]

/-- A name that is joined to a directory is one component more, under whatever name the directory
goes. -/
theorem components_join (base : Path) {name : Bytes} (h : IsSegment name)
    (hparent : name ≠ parentName) :
    (base.join ⟨name⟩).components = base.components ++ [.named name] := by
  rw [components, start_join base h, segments_join base h.isAbsolute, h.segments, List.map_append,
    ← List.append_assoc]
  simp [components, Component.ofSegment, hparent]

theorem fileName?_join (base : Path) {name : Bytes} (h : IsSegment name)
    (hparent : name ≠ parentName) : (base.join ⟨name⟩).fileName? = some name := by
  rw [fileName?, segments_join base h.isAbsolute, h.segments, List.getLast?_append]
  simp [hparent]

end BlobSource.Path
