import BlobSource.Conversion
import BlobSource.Text.Quoted

/-! The lines of the log. -/
namespace BlobSource.CommandLine

inductive Level where
  | error
  | warn
  | info
  | debug
  | trace
  deriving DecidableEq, Repr

namespace Level

/-- The rank of the level, with the most important first. -/
def rank : Level → Nat
  | error => 1
  | warn => 2
  | info => 3
  | debug => 4
  | trace => 5

def label : Level → String
  | error => "ERROR"
  | warn => " WARN"
  | info => " INFO"
  | debug => "DEBUG"
  | trace => "TRACE"

end Level

/-- A log line: its level, the target it is filed under, a message, and fields. -/
structure LogLine where
  level : Level
  target : String
  message : String
  fields : List (String × String)
  deriving DecidableEq, Repr

namespace LogLine

/-- The names of all that the line holds; the message is a field as well. -/
def fieldNames (l : LogLine) : List String := "message" :: l.fields.map (·.1)

/-- Characters that could steer a terminal are spelled out in a message. -/
def harmless (c : Char) : String :=
  let n := c.toNat
  if n = 0x1B ∨ n = 0x07 ∨ n = 0x08 ∨ n = 0x0C ∨ n = 0x7F then
    "\\x" ++ (if n < 0x10 then "0" else "") ++ Quoted.codePoint c
  else if 0x80 ≤ n ∧ n ≤ 0x9F then "\\u\x7b" ++ Quoted.codePoint c ++ "\x7d"
  else c.toString

def text (l : LogLine) : String :=
  s!"{l.level.label} {l.target}: " ++ String.join (l.message.toList.map harmless) ++
    String.join (l.fields.map fun (name, value) => s!" {name}={value}") ++ "\n"

def ofEvent : Event → LogLine
  | .issueFound symbol issue =>
    ⟨.warn, "bin2c", "symbol is not a valid C identifier",
      [("symbol", symbol.name), ("issue", issue.message)]⟩
  | .generating symbol form length source =>
    ⟨.debug, "bin2c::embed", "generating source",
      [("symbol", symbol.name), ("mode", form.name), ("length", toString length),
        ("path", source.display)]⟩
  | .wrote report =>
    ⟨.info, "bin2c", s!"wrote {report.destination.display}",
      [("symbol", report.symbol.name), ("length", toString report.length),
        ("mode", report.form.name)]⟩

end LogLine
end BlobSource.CommandLine
