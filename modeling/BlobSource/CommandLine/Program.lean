import BlobSource.CommandLine.Arguments
import BlobSource.CommandLine.LogFilter
import BlobSource.CommandLine.Run

/-! The program as it is built: its arguments, its log and its errors in their usual form. -/
namespace BlobSource.CommandLine

/-- The text with a margin after each line end. -/
def indented (margin text : String) : String :=
  String.join (text.toList.map fun c => if c = '\n' then "\n" ++ margin else c.toString)

def causeLines : List String → String
  | [cause] => "    " ++ indented "    " cause ++ "\n"
  | causes => String.join <| causes.zipIdx.map fun (cause, n) =>
      let number := toString n
      String.ofList (List.replicate (5 - number.length) ' ') ++ number ++ ": " ++
        indented "       " cause ++ "\n"

def errorText (message : String) (causes : List String) : String :=
  s!"Error: {message}\n" ++
    if causes = [] then "" else "\nCaused by:\n" ++ causeLines causes

def Toolkit.usual : Toolkit where
  parse args := (CommandLine.parse args).mapError UsageError.text
  filter? value? := ((value?.bind Utf8.decode?).bind LogFilter.parse?).map LogFilter.shows
  upTo level := (LogFilter.mk [.ofRank level.rank]).shows
  spell := LogLine.text
  report := errorText

def run (args : List Bytes) (logVariable? : Option Bytes) (store : Store) : Run :=
  Toolkit.usual.run args logVariable? store

end BlobSource.CommandLine
