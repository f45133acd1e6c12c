import BlobSource.Path.Absolute
import BlobSource.Symbol.Derived
import Mathlib.Data.List.Basic

/-! The segments of joined and of absolute paths, and that a path keeps its file name when it is made
absolute. -/
namespace BlobSource

namespace Path

theorem cut_append_slash (as bs : Bytes) :
    cut (as ++ slash :: bs) = ((cut as).1, (cut as).2 ++ pieces bs) := by
  induction as with
  | nil => simp [cut, pieces]
  | cons a as ih =>
    rw [List.cons_append, cut, cut, ih]
    by_cases ha : a = slash <;> simp [ha]

theorem pieces_append_slash (as bs : Bytes) :
    pieces (as ++ slash :: bs) = pieces as ++ pieces bs := by
  simp [pieces, cut_append_slash]

theorem pieces_of_slash_notMem {bs : Bytes} (h : slash ∉ bs) : pieces bs = [bs] := by
  induction bs with
  | nil => rfl
  | cons b bs ih =>
    have hb : b ≠ slash := fun hb => h (hb ▸ List.mem_cons_self)
    have hcut := ih fun hs => h (List.mem_cons_of_mem b hs)
    simp only [pieces, List.cons.injEq] at hcut
    simp [pieces, cut, hb, hcut]

/-- Whether a byte string can be the name of something in a directory, or of its parent. -/
def IsSegment (name : Bytes) : Prop := name ≠ [] ∧ name ≠ currentName ∧ slash ∉ name

theorem isSegment_of_mem_segments {p : Path} {name : Bytes} (h : name ∈ p.segments) :
    IsSegment name := by
  obtain ⟨hmem, hname⟩ := List.mem_filter.1 h
  have hboth : name ≠ [] ∧ name ≠ currentName := by simpa using hname
  exact ⟨hboth.1, hboth.2, slash_notMem_of_mem_pieces hmem⟩

namespace IsSegment
variable {name : Bytes}

theorem segments (h : IsSegment name) : (Path.mk name).segments = [name] := by
  obtain ⟨hne, hcurrent, hslash⟩ := h
  simp [Path.segments, pieces_of_slash_notMem hslash, hne, hcurrent]

theorem isAbsolute (h : IsSegment name) : (Path.mk name).isAbsolute = false := by
  obtain ⟨-, -, hslash⟩ := h
  cases name with
  | nil => rfl
  | cons b bs =>
    have hb : b ≠ slash := fun hb => hslash (hb ▸ List.mem_cons_self)
    simp [Path.isAbsolute, hb]

end IsSegment

theorem segments_append_slash (as bs : Bytes) :
    (Path.mk (as ++ slash :: bs)).segments = (Path.mk as).segments ++ (Path.mk bs).segments := by
  simp [segments, pieces_append_slash]

@[simp] theorem segments_empty : (Path.mk []).segments = [] := rfl

theorem exists_of_endsInSlash {p : Path} (h : p.endsInSlash = true) :
    ∃ body, p.bytes = body ++ [slash] := by
  have hlast : p.bytes.getLast? = some slash := by simpa [endsInSlash] using h
  obtain ⟨body, hbody⟩ := List.getLast?_eq_some_iff.1 hlast
  exact ⟨body, hbody⟩

/-- A relative path goes on where the base ends, whatever slashes either of them has. -/
theorem segments_join (base : Path) {relative : Path} (h : relative.isAbsolute = false) :
    (base.join relative).segments = base.segments ++ relative.segments := by
  obtain ⟨bytes⟩ := base
  obtain ⟨more⟩ := relative
  rw [join, if_neg (by simp [h])]
  by_cases hempty : bytes = []
  · subst hempty
    simp
  by_cases hslash : (Path.mk bytes).endsInSlash = true
  · obtain ⟨body, hbody⟩ := exists_of_endsInSlash hslash
    dsimp only at hbody
    subst hbody
    have hends := segments_append_slash body []
    rw [segments_empty, List.append_nil] at hends
    rw [if_pos (.inr hslash), List.append_assoc, List.singleton_append, segments_append_slash, hends]
  · rw [if_neg (by simp [hempty, hslash]), segments_append_slash]

theorem segments_foldl_join (base : Path) {names : List Bytes} (h : ∀ name ∈ names, IsSegment name) :
    (names.foldl (fun base name => base.join ⟨name⟩) base).segments = base.segments ++ names := by
  induction names generalizing base with
  | nil => simp
  | cons name names ih =>
    have hname := h name List.mem_cons_self
    have hrest := ih (base.join ⟨name⟩) fun other ho => h other (List.mem_cons_of_mem name ho)
    rw [List.foldl_cons, hrest, segments_join base hname.isAbsolute, hname.segments,
      List.append_assoc, List.singleton_append]

theorem segments_rootOf (p : Path) : p.rootOf.segments = [] := by
  unfold rootOf
  split <;> (try split) <;> rfl

/-- An absolute path has the segments of the given one, behind those of the directory if it was
relative. -/
theorem segments_absolute? {directory p q : Path} (h : absolute? directory p = some q) :
    q.segments = (if p.isAbsolute then [] else directory.segments) ++ p.segments := by
  unfold absolute? at h
  split at h
  · cases h
  cases h
  have hjoined := fun start => segments_foldl_join start fun _ => isSegment_of_mem_segments (p := p)
  have hstart : (if p.isAbsolute then p.rootOf else directory).segments =
      if p.isAbsolute then [] else directory.segments := by
    split
    · exact p.segments_rootOf
    · rfl
  split
  · rw [segments_join _ rfl, segments_empty, List.append_nil, hjoined, hstart]
  · rw [hjoined, hstart]

theorem fileName?_eq_some_iff {p : Path} {name : Bytes} :
    p.fileName? = some name ↔ p.segments.getLast? = some name ∧ name ≠ parentName := by
  simp [fileName?, Option.filter_eq_some_iff]

theorem mem_segments_of_fileName? {p : Path} {name : Bytes} (h : p.fileName? = some name) :
    name ∈ p.segments :=
  List.mem_of_getLast? (fileName?_eq_some_iff.1 h).1

theorem fileName?_absolute? {directory p q : Path} {name : Bytes}
    (h : absolute? directory p = some q) (hp : p.fileName? = some name) :
    q.fileName? = some name := by
  obtain ⟨hlast, hname⟩ := fileName?_eq_some_iff.1 hp
  rw [fileName?, segments_absolute? h, List.getLast?_append, hlast, Option.some_or]
  simpa using hname

end Path

theorem Symbol.ofPath_absolute? {directory p q : Path} {symbol : Symbol}
    (h : Path.absolute? directory p = some q) (hp : ofPath p = .ok symbol) :
    ofPath q = .ok symbol := by
  unfold ofPath at hp ⊢
  cases hname : p.fileName? with
  | none =>
    rw [hname] at hp
    cases hp
  | some name =>
    rw [hname] at hp
    rw [Path.fileName?_absolute? h hname]
    exact hp

end BlobSource
