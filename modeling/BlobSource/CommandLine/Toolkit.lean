import BlobSource.CommandLine.LogLine

/-! What the program is asked for, and what it leaves to its libraries. -/
namespace BlobSource.CommandLine

structure Arguments where
  useAssembly : Bool
  symbol? : Option String
  width? : Option WordWidth
  strict : Bool
  verbose : Bool
  source : Path
  destination : Path
  deriving DecidableEq, Repr

inductive Request where
  /-- To print a text about the program, and do nothing. -/
  | inform (text : String)
  | convert (arguments : Arguments)
  deriving DecidableEq, Repr

/-- The libraries that the program is built on. -/
structure Toolkit where
  /-- The request that the arguments make, or the text of what is wrong with them. -/
  parse : List Bytes → Except String Request
  /-- The filter for log lines that a variable of the environment asks for, if it does. -/
  filter? : Option Bytes → Option (LogLine → Bool)
  /-- The filter for the lines up to a level. -/
  upTo : Level → LogLine → Bool
  /-- The text of a log line, but for the time at its start. -/
  spell : LogLine → String
  /-- The text of an error with its causes. -/
  report : String → List String → String

end BlobSource.CommandLine
