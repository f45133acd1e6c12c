import BlobSource.Path.Absolute

/-! The bytes that paths are made of. Cutting a path brings in none, and putting paths together none
but slashes. -/
namespace BlobSource.Path

theorem mem_of_mem_pieces {bs piece : Bytes} {b : UInt8} (hpiece : piece ∈ pieces bs)
    (hb : b ∈ piece) : b ∈ bs := by
  induction bs generalizing piece with
  | nil => simp_all [pieces, cut]
  | cons a bs ih =>
    simp only [pieces, cut] at ih hpiece
    split at hpiece
    · rcases List.mem_cons.1 hpiece with rfl | hpiece
      · cases hb
      · exact List.mem_cons_of_mem a (ih hpiece hb)
    · rcases List.mem_cons.1 hpiece with rfl | hpiece
      · exact (List.mem_cons.1 hb).elim (· ▸ List.mem_cons_self)
          fun hb => List.mem_cons_of_mem a (ih List.mem_cons_self hb)
      · exact List.mem_cons_of_mem a (ih (List.mem_cons_of_mem _ hpiece) hb)

theorem mem_of_mem_segments {p : Path} {name : Bytes} {b : UInt8} (hname : name ∈ p.segments)
    (hb : b ∈ name) : b ∈ p.bytes :=
  mem_of_mem_pieces (List.mem_filter.1 hname).1 hb

theorem mem_of_mem_join {base relative : Path} {b : UInt8} (hb : b ∈ (base.join relative).bytes) :
    b = slash ∨ b ∈ base.bytes ∨ b ∈ relative.bytes := by
  unfold join at hb
  split at hb
  · exact .inr (.inr hb)
  · split at hb
    · exact .inr (List.mem_append.1 hb)
    · rcases List.mem_append.1 hb with hb | hb
      · exact .inr (.inl hb)
      · exact (List.mem_cons.1 hb).imp id .inr

theorem mem_of_mem_foldl_join {names : List Bytes} {base : Path} {b : UInt8}
    (hb : b ∈ (names.foldl (fun base s => base.join ⟨s⟩) base).bytes) :
    b = slash ∨ b ∈ base.bytes ∨ ∃ name ∈ names, b ∈ name := by
  induction names generalizing base with
  | nil => exact .inr (.inl hb)
  | cons name names ih =>
    rcases ih hb with hslash | hbase | ⟨other, hother, hb⟩
    · exact .inl hslash
    · rcases mem_of_mem_join hbase with hslash | hbase | hname
      · exact .inl hslash
      · exact .inr (.inl hbase)
      · exact .inr (.inr ⟨name, List.mem_cons_self, hname⟩)
    · exact .inr (.inr ⟨other, List.mem_cons_of_mem name hother, hb⟩)

theorem eq_slash_of_mem_rootOf {p : Path} {b : UInt8} (hb : b ∈ p.rootOf.bytes) : b = slash := by
  unfold rootOf at hb
  split at hb
  · split at hb <;> simp_all
  · split at hb <;> simp_all
  · simp_all

/-- A path made absolute has its own bytes and, if it was relative, those of the directory. -/
theorem mem_of_mem_absolute? {directory p q : Path} {b : UInt8}
    (h : absolute? directory p = some q) (hb : b ∈ q.bytes) :
    b = slash ∨ b ∈ p.bytes ∨ p.isAbsolute = false ∧ b ∈ directory.bytes := by
  unfold absolute? at h
  split at h
  · cases h
  · dsimp only at h
    generalize hstart : (if p.isAbsolute then p.rootOf else directory) = start at h
    generalize hjoined : p.segments.foldl (fun base s => base.join ⟨s⟩) start = joined at h
    cases h
    have hbody : b = slash ∨ b ∈ joined.bytes := by
      split at hb
      · simpa using mem_of_mem_join hb
      · exact .inr hb
    rcases hbody with hslash | hbody
    · exact .inl hslash
    · subst hjoined
      rcases mem_of_mem_foldl_join hbody with hslash | hfirst | ⟨name, hname, hb⟩
      · exact .inl hslash
      · subst hstart
        split at hfirst
        · exact .inl (eq_slash_of_mem_rootOf hfirst)
        · exact .inr (.inr ⟨by simpa using ‹¬p.isAbsolute = true›, hfirst⟩)
      · exact .inr (.inl (mem_of_mem_segments hname hb))

end BlobSource.Path
