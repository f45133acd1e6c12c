import BlobSource.CommandLine.Toolkit

/-! The program: its arguments, its log, its error messages, its exit status. -/
namespace BlobSource.CommandLine

inductive ExitStatus where
  | success
  | failure
  | usage
  deriving DecidableEq, Repr

def ExitStatus.code : ExitStatus → Nat
  | success => 0
  | failure => 1
  | usage => 2

structure Run where
  store : Store
  exit : ExitStatus
  stdout : String
  stderr : String

/-- The causes of a failed conversion, the conversion's own error first. -/
def causesOf (e : ConversionError) : List String :=
  e.message :: e.cause?.toList.map FileError.message

namespace Arguments

def symbol (a : Arguments) : Except ConversionError Symbol :=
  match a.symbol? with
  | some name => .ok ⟨name⟩
  | none => Symbol.ofPath a.source

def conversion (a : Arguments) : Conversion where
  form := if a.useAssembly then .assembly else .array
  width := a.width?.getD .host

def failure (a : Arguments) : String :=
  s!"failed to convert '{a.source.display}' into '{a.destination.display}'"

end Arguments

namespace Toolkit
variable (t : Toolkit)

/-- The filter for the log: the one that the variable asks for, or else the usual one, which a
verbose log widens. -/
def filterFor (logVariable? : Option Bytes) (verbose : Bool) : LogLine → Bool :=
  (t.filter? logVariable?).getD (t.upTo (if verbose then .debug else .info))

def logText (filter : LogLine → Bool) (events : List Event) : String :=
  String.join <| ((events.map LogLine.ofEvent).filter filter).map t.spell

/-- Runs a conversion. A symbol that C does not take is refused if the arguments are strict, and
otherwise logged. -/
def convert (a : Arguments) (filter : LogLine → Bool) (store : Store) : Run :=
  match a.symbol with
  | .error e => ⟨store, .failure, "", t.report e.message []⟩
  | .ok symbol =>
    match symbol.issue?, a.strict with
    | some issue, true =>
      ⟨store, .failure, "", t.report
        s!"symbol '{symbol.name}' is not a valid C identifier: {issue.message}" []⟩
    | issue?, _ =>
      let noted := issue?.toList.map (Event.issueFound symbol)
      let embedding := a.conversion.embed a.source a.destination symbol store
      match embedding.result with
      | .ok report =>
        ⟨embedding.store, .success, "",
          t.logText filter (noted ++ embedding.events ++ [.wrote report])⟩
      | .error e =>
        ⟨embedding.store, .failure, "",
          t.logText filter (noted ++ embedding.events) ++ t.report a.failure (causesOf e)⟩

def run (args : List Bytes) (logVariable? : Option Bytes) (store : Store) : Run :=
  match t.parse args with
  | .error text => ⟨store, .usage, "", text⟩
  | .ok (.inform text) => ⟨store, .success, text, ""⟩
  | .ok (.convert a) => t.convert a (t.filterFor logVariable? a.verbose) store

end Toolkit
end BlobSource.CommandLine
