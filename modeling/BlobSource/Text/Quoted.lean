import BlobSource.Text.CharClass.Shown

/-! A character in single quotes, as messages show it. -/
namespace BlobSource.Quoted

def codePoint (c : Char) : String := String.ofList (Nat.toDigits 16 c.toNat)

/-- The five characters with a short escape use it; a character that would not stand alone
visibly is written by its code point; every other one, the double quote too, is itself. -/
def escape (c : Char) : String :=
  match c with
  | '\x00' => "\\0"
  | '\t' => "\\t"
  | '\r' => "\\r"
  | '\n' => "\\n"
  | '\'' => "\\'"
  | '\\' => "\\\\"
  | c =>
    if CharClass.isExtendingMark c || !CharClass.isPrintable c then
      "\\u\x7b" ++ codePoint c ++ "\x7d"
    else c.toString

def char (c : Char) : String := "'" ++ escape c ++ "'"

end BlobSource.Quoted
