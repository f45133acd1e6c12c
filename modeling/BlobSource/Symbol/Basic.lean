import BlobSource.Text.Quoted

/-! The name a blob is exported under, and what makes a name unusable in C. -/
namespace BlobSource

/-- The words that C has reserved, from its first standard to that of 2023. -/
def cKeywords : List String :=
  ["alignas", "alignof", "auto", "bool", "break", "case", "char", "const", "constexpr",
    "continue", "default", "do", "double", "else", "enum", "extern", "false", "float", "for",
    "goto", "if", "inline", "int", "long", "nullptr", "register", "restrict", "return", "short",
    "signed", "sizeof", "static", "static_assert", "struct", "switch", "thread_local", "true",
    "typedef", "typeof", "typeof_unqual", "union", "unsigned", "void", "volatile", "while",
    "_Alignas", "_Alignof", "_Atomic", "_BitInt", "_Bool", "_Complex", "_Decimal128",
    "_Decimal32", "_Decimal64", "_Generic", "_Imaginary", "_Noreturn", "_Static_assert",
    "_Thread_local"]

/-- The base name with every `-` and `.` replaced by `_`. -/
def sanitize (baseName : String) : String :=
  String.ofList (baseName.toList.map fun c => if c = '-' ∨ c = '.' then '_' else c)

inductive SymbolIssue where
  | empty
  | leadingDigit
  | illegalChar (c : Char)
  | keyword (word : String)
  | reservedStart
  deriving DecidableEq, Repr

def SymbolIssue.message : SymbolIssue → String
  | .empty => "identifier is empty"
  | .leadingDigit => "identifier starts with a digit"
  | .illegalChar c => s!"character {Quoted.char c} is not allowed in an identifier"
  | .keyword word => s!"`{word}` is a C keyword"
  | .reservedStart => "names starting with `__` or `_` and an uppercase letter are reserved"

/-- The name of a blob in the generated source. -/
structure Symbol where
  name : String
  deriving DecidableEq, Repr

namespace Symbol

def lengthName (s : Symbol) : String := s.name ++ "_len"

/-- The characters of a C identifier: ASCII letters, digits and the underscore. -/
def isNameChar (c : Char) : Bool := c.isAlphanum || c == '_'

/-- Names that start with two underscores, or with one and an upper-case letter. -/
def hasReservedStart : List Char → Bool
  | c :: d :: _ => c == '_' && (d == '_' || d.isUpper)
  | _ => false

/-- The first reason why the symbol cannot be declared, if there is one. -/
def issue? (s : Symbol) : Option SymbolIssue :=
  match s.name.toList with
  | [] => some .empty
  | first :: rest =>
    if first.isDigit then some .leadingDigit
    else match (first :: rest).find? (!isNameChar ·) with
      | some c => some (.illegalChar c)
      | none =>
        if s.name ∈ cKeywords then some (.keyword s.name)
        else if hasReservedStart (first :: rest) then some .reservedStart
        else none

end Symbol
end BlobSource
