import BlobSource.CommandLine.Help
import BlobSource.CommandLine.Toolkit

/-! What the arguments of the program ask for, read one after the other. -/
namespace BlobSource.CommandLine

/-- What is wrong with the arguments. -/
inductive UsageError where
  | unexpected (argument : Bytes)
  | repeated (option : String)
  | valueMissing (option : String)
  | valueUnexpected (value : Bytes) (option : String)
  | valueInvalid (value : Bytes) (option : String)
  | notText
  | operandsMissing
  deriving DecidableEq, Repr

namespace UsageError

def message : UsageError → String
  | unexpected argument => s!"unexpected argument '{Utf8.decodeLossy argument}' found"
  | repeated option => s!"the argument '{option}' cannot be used multiple times"
  | valueMissing option => s!"a value is required for '{option}' but none was supplied"
  | valueUnexpected value option =>
    s!"unexpected value '{Utf8.decodeLossy value}' for '{option}' found; no more were expected"
  | valueInvalid value option => s!"invalid value '{Utf8.decodeLossy value}' for '{option}'"
  | notText => "invalid UTF-8 was detected in one or more arguments"
  | operandsMissing => "the required arguments were not provided: <BINARY> <OUTPUT>"

def text (e : UsageError) : String :=
  s!"error: {e.message}\n\nFor more information, try '--help'.\n"

end UsageError

inductive Flag where
  | useAssembly
  | strict
  | verbose
  deriving DecidableEq, Repr

inductive Setting where
  | symbol
  | width
  deriving DecidableEq, Repr

def Flag.shown : Flag → String
  | useAssembly => "--use-asm"
  | strict => "--strict"
  | verbose => "--verbose"

def Setting.shown : Setting → String
  | symbol => "--symbol <NAME>"
  | width => "--pointer-width <BITS>"

/-- What the name of an option stands for. -/
inductive Meaning where
  | flag (flag : Flag)
  | setting (setting : Setting)
  | help
  | version
  deriving DecidableEq, Repr

def Meaning.shown : Meaning → String
  | flag f => f.shown
  | setting s => s.shown
  | help => "--help"
  | version => "--version"

def longNames : List (String × Meaning) :=
  [("use-asm", .flag .useAssembly), ("symbol", .setting .symbol),
    ("pointer-width", .setting .width), ("strict", .flag .strict),
    ("verbose", .flag .verbose), ("help", .help), ("version", .version)]

def letters : List (UInt8 × Meaning) :=
  [(0x76, .flag .verbose), (0x68, .help), (0x56, .version)]

/-- The arguments read so far: the flags raised, the values given, the operands, the setting
whose value comes next, and whether only operands follow. -/
structure Draft where
  flags : List Flag
  symbol? : Option String
  width? : Option WordWidth
  operands : List Path
  awaited? : Option Setting
  operandsOnly : Bool
  deriving DecidableEq, Repr

/-- The end of the reading before the last argument. -/
inductive Stop where
  | request (request : Request)
  | wrong (error : UsageError)
  deriving DecidableEq, Repr

namespace Draft

def empty : Draft := ⟨[], none, none, [], none, false⟩

def raise (d : Draft) (f : Flag) : Except Stop Draft :=
  if f ∈ d.flags then .error (.wrong (.repeated f.shown))
  else .ok { d with flags := f :: d.flags }

def assign (d : Draft) (value : Bytes) : Setting → Except Stop Draft
  | .symbol =>
    match d.symbol?, Utf8.decode? value with
    | some _, _ => .error (.wrong (.repeated Setting.symbol.shown))
    | none, none => .error (.wrong .notText)
    | none, some text => .ok { d with symbol? := some text, awaited? := none }
  | .width =>
    let width? :=
      if value = Utf8.encode "32" then some WordWidth.bits32
      else if value = Utf8.encode "64" then some WordWidth.bits64
      else none
    match d.width?, width? with
    | some _, _ => .error (.wrong (.repeated Setting.width.shown))
    | none, none => .error (.wrong (.valueInvalid value Setting.width.shown))
    | none, some width => .ok { d with width? := some width, awaited? := none }

def addOperand (d : Draft) (arg : Bytes) : Except Stop Draft :=
  if 2 ≤ d.operands.length then .error (.wrong (.unexpected arg))
  else if arg = [] then
    .error (.wrong (.valueMissing (if d.operands = [] then "<BINARY>" else "<OUTPUT>")))
  else .ok { d with operands := d.operands ++ [⟨arg⟩] }

def dash : UInt8 := 0x2D

def equals : UInt8 := 0x3D

/-- An option by its long name, which a value may follow after an equals sign. -/
def readLong (d : Draft) (body : Bytes) : Except Stop Draft :=
  let name := body.takeWhile (· ≠ equals)
  let value? := if equals ∈ body then some (body.drop (name.length + 1)) else none
  match (Utf8.decode? name).bind (longNames.lookup ·), value? with
  | none, _ => .error (.wrong (.unexpected (dash :: dash :: name)))
  | some (.setting s), none => .ok { d with awaited? := some s }
  | some (.setting s), some value => d.assign value s
  | some meaning, some value => .error (.wrong (.valueUnexpected value meaning.shown))
  | some (.flag f), none => d.raise f
  | some .help, none => .error (.request (.inform helpText))
  | some .version, none => .error (.request (.inform versionText))

def readLetters (d : Draft) : Bytes → Except Stop Draft
  | [] => .ok d
  | b :: bs =>
    match letters.lookup b with
    | some (.flag f) =>
      match d.raise f with
      | .ok d => d.readLetters bs
      | .error stop => .error stop
    | some .help => .error (.request (.inform helpText))
    | some .version => .error (.request (.inform versionText))
    | _ => .error (.wrong (.unexpected [dash, b]))

/-- Whether an argument that is no operand begins so. A dash alone is an operand. -/
def looksLikeOption : Bytes → Bool
  | a :: _ :: _ => a = dash
  | _ => false

/-- Reads one argument. Two dashes alone end the options. -/
def read (d : Draft) (arg : Bytes) : Except Stop Draft :=
  if d.operandsOnly then d.addOperand arg
  else match d.awaited? with
    | some s =>
      if looksLikeOption arg then .error (.wrong (.valueMissing s.shown)) else d.assign arg s
    | none =>
      match arg with
      | a :: b :: body =>
        if a ≠ dash then d.addOperand arg
        else if b ≠ dash then d.readLetters (b :: body)
        else if body = [] then .ok { d with operandsOnly := true }
        else d.readLong body
      | _ => d.addOperand arg

/-- The request that the arguments make when none is left. -/
def finish (d : Draft) : Except UsageError Request :=
  match d.awaited?, d.operands with
  | some s, _ => .error (.valueMissing s.shown)
  | none, [source, destination] =>
    .ok (.convert {
      useAssembly := .useAssembly ∈ d.flags
      symbol? := d.symbol?
      width? := d.width?
      strict := .strict ∈ d.flags
      verbose := .verbose ∈ d.flags
      source, destination })
  | none, _ => .error .operandsMissing

end Draft

/-- The request that the arguments make. The first that is wrong, or that asks for help or the
version, settles it. -/
def parse (args : List Bytes) : Except UsageError Request :=
  match args.foldlM Draft.read .empty with
  | .ok draft => draft.finish
  | .error (.request request) => .ok request
  | .error (.wrong e) => .error e

end BlobSource.CommandLine
