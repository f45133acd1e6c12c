import BlobSource.Path.Basic

/-! Absolute paths, made without a look at any file. -/
namespace BlobSource.Path

/-- Exactly two leading slashes may mean something else than one, and so they stay. -/
def rootOf (p : Path) : Path :=
  match p.bytes with
  | a :: b :: c :: _ => if a = slash ∧ b = slash ∧ c ≠ slash then ⟨[slash, slash]⟩ else ⟨[slash]⟩
  | [a, b] => if a = slash ∧ b = slash then ⟨[slash, slash]⟩ else ⟨[slash]⟩
  | _ => ⟨[slash]⟩

/-- The path from the root, for a path seen from a directory. Repeated slashes and `.` go,
while `..` and a final slash stay. An empty path has no absolute form. -/
def absolute? (directory p : Path) : Option Path :=
  if p.bytes = [] then none
  else
    let start := if p.isAbsolute then p.rootOf else directory
    let joined := p.segments.foldl (fun base s => base.join ⟨s⟩) start
    some (if p.endsInSlash then joined.join ⟨[]⟩ else joined)

theorem absolute?_eq_none_iff {directory p : Path} :
    absolute? directory p = none ↔ p.bytes = [] := by
  unfold absolute?
  split <;> simp_all

end BlobSource.Path
