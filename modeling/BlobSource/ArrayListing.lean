import BlobSource.Listing

/-! The blob as an array of bytes, twelve to a row. -/
namespace BlobSource.ArrayListing

def hexDigit (n : Nat) : Char :=
  if n < 10 then Char.ofNat ('0'.toNat + n) else Char.ofNat ('A'.toNat + (n - 10))

/-- A byte as a C constant of two digits. -/
def byteLiteral (b : UInt8) : String :=
  String.ofList ['0', 'x', hexDigit (b.toNat / 16), hexDigit (b.toNat % 16)]

def row (bytes : Bytes) : String :=
  "    " ++ String.intercalate ", " (bytes.map byteLiteral) ++ ",\n"

/-- The declaration of the length and the start of the array. -/
def header (symbol : Symbol) (length : Nat) : List String :=
  [Listing.preamble, "const size_t ", symbol.lengthName, " = ", toString length,
    ";\nconst uint8_t ", symbol.name, "[] = \x7b\n"]

def closing : String := "\x7d;\n"

/-- The rows that the source fills, and the closing line if it could be read to its end. The
number of bytes listed has to be the one declared. -/
def body (path : Path) (length : Nat) (r : Reader) : Emission :=
  match r.failure? with
  | some cause => ⟨r.rows.map row, .error (.sourceUnreadable path cause)⟩
  | none =>
    ⟨(r.rows.map row).append fun _ => .ofList [closing],
      if r.size = length then .ok length else .error (.lengthMismatch path length r.size)⟩

/-- The listing of a source with the given path and size. -/
def listing (symbol : Symbol) (path : Path) (length : Nat) : Listing :=
  .streamed (header symbol length) (body path length)

end BlobSource.ArrayListing
