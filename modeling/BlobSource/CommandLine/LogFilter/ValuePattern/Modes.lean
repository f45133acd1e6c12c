/-! The modes of a pattern, which are changed by letters within it. -/
namespace BlobSource.CommandLine.ValuePattern

/-- The modes that bear on what is right: letters stand for both cases, characters are those of
Unicode and not bytes, blanks and comments may stand between the parts. -/
structure Modes where
  caseless : Bool
  unicode : Bool
  spaced : Bool
  deriving DecidableEq, Repr

namespace Modes

def usual : Modes := ⟨false, true, false⟩

/-- The modes after the letters between `(?` and the colon or bracket: those that follow a dash
are turned off. -/
def change : Bool → Modes → List Char → Modes
  | _, m, [] => m
  | on, m, letter :: letters => match letter with
    | '-' => change false m letters
    | 'i' => change on { m with caseless := on } letters
    | 'u' => change on { m with unicode := on } letters
    | 'x' => change on { m with spaced := on } letters
    | _ => change on m letters

/-- A set may hold each character that has no case to fold, and among bytes the ASCII ones. -/
def allowsMember (m : Modes) (c : Char) : Bool :=
  if m.unicode then !m.caseless else c.toNat < 0x80

/-- A negated set of bytes would match parts of characters. -/
def allowsClass (m : Modes) (negated : Bool) : Bool :=
  if m.unicode then !m.caseless else !negated

/-- Outside a set the character alone is matched, or the byte of that value. -/
def allowsLiteral (m : Modes) (c : Char) (isByte : Bool) : Bool :=
  if m.unicode then !m.caseless else !isByte || c.toNat < 0x80

end Modes
end BlobSource.CommandLine.ValuePattern
