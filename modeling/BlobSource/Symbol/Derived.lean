import BlobSource.Error

/-! Symbols taken from a path, and symbols refused. -/
namespace BlobSource.Symbol

/-- The symbol of the final segment of the path, its extension included. -/
def ofPath (p : Path) : Except ConversionError Symbol :=
  match p.fileName? with
  | some name => .ok ⟨sanitize (Utf8.decodeLossy name)⟩
  | none => .error (.noFileName p)

def validate (s : Symbol) : Except ConversionError Unit :=
  match s.issue? with
  | some issue => .error (.invalidSymbol s issue)
  | none => .ok ()

end BlobSource.Symbol
