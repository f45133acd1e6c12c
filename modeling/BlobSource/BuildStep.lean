import BlobSource.Conversion
import BlobSource.Path.Absolute

/-! One file turned into C source by the build script of a Cargo package. -/
namespace BlobSource

namespace Store

/-- The path from the root. A relative path has none without a directory to work in. -/
def absolute (s : Store) (p : Path) : Except FileError Path :=
  match Path.absolute? s.here.toPath p with
  | none => .error .emptyPath
  | some q => if p.isAbsolute || s.isDirectory s.here then .ok q else .error .notFound

theorem absolute_eq_ok_iff {s : Store} {p q : Path} : s.absolute p = .ok q ↔
    Path.absolute? s.here.toPath p = some q ∧
      (p.isAbsolute = true ∨ s.isDirectory s.here = true) := by
  unfold absolute
  cases Path.absolute? s.here.toPath p with
  | none => simp
  | some r => cases p.isAbsolute <;> cases s.isDirectory s.here <;> simp

theorem absolute_eq_error_iff {s : Store} {p : Path} {e : FileError} : s.absolute p = .error e ↔
    p.bytes = [] ∧ e = .emptyPath ∨
      p.bytes ≠ [] ∧ p.isAbsolute = false ∧ s.isDirectory s.here = false ∧ e = .notFound := by
  unfold absolute
  cases h : Path.absolute? s.here.toPath p with
  | none =>
    have hempty := Path.absolute?_eq_none_iff.1 h
    simp only [hempty, Except.error.injEq, ne_eq, not_true_eq_false, true_and, false_and, or_false]
    exact eq_comm
  | some r =>
    have hne : p.bytes ≠ [] := fun hempty => by
      rw [Path.absolute?_eq_none_iff.2 hempty] at h
      cases h
    cases p.isAbsolute <;> cases s.isDirectory s.here <;> simp [hne]
    exact eq_comm

end Store

/-- The variables that Cargo hands to a build script, where they are set. -/
structure Environment where
  outDir? : Option Path
  targetWidth? : Option Bytes
  deriving DecidableEq, Repr

namespace Environment

def outDirName : String := "OUT_DIR"

def targetWidthName : String := "CARGO_CFG_TARGET_POINTER_WIDTH"

def outDir (env : Environment) : Except ConversionError Path :=
  match env.outDir? with
  | some dir => .ok dir
  | none => .error (.variableUnset outDirName)

/-- The width of the target that is built for. A value that is no text counts as unset. -/
def targetWidth (env : Environment) : Except ConversionError WordWidth :=
  match env.targetWidth?.bind Utf8.decode? with
  | none => .error (.variableUnset targetWidthName)
  | some text =>
    match WordWidth.ofText? text with
    | some width => .ok width
    | none => .error (.unsupportedWidth text)

end Environment

structure BuildStep where
  source : Path
  form : Form
  symbol? : Option String
  outDir? : Option Path
  strict : Bool
  deriving DecidableEq, Repr

/-- The outcome of a build step, with what it says to Cargo. -/
structure Built where
  store : Store
  printed : String
  result : Except ConversionError Path

namespace BuildStep

def ofSource (source : Path) : BuildStep := ⟨source, .array, none, none, false⟩

def symbol (b : BuildStep) : Except ConversionError Symbol :=
  match b.symbol? with
  | some name => .ok ⟨name⟩
  | none => Symbol.ofPath b.source

/-- A strict step refuses a symbol that C does not take. -/
def checkSymbol (b : BuildStep) (symbol : Symbol) : Except ConversionError Unit :=
  if b.strict then symbol.validate else .ok ()

/-- A step that is not strict warns about such a symbol. -/
def warning (b : BuildStep) (symbol : Symbol) : String :=
  match symbol.issue? with
  | some issue =>
    if b.strict then ""
    else
      s!"cargo:warning=bin2c: symbol '{symbol.name}' is not a valid C identifier: " ++
        s!"{issue.message}\n"
  | none => ""

def dependency (source : Path) : String := s!"cargo:rerun-if-changed={source.display}\n"

/-- The conversion and the source path to convert. An assembler block has to suit the target, and
to name the source in a way that holds in every directory. -/
def target (b : BuildStep) (env : Environment) (store : Store) :
    Except ConversionError (Conversion × Path) :=
  match b.form with
  | .array => .ok (.ofForm .array, b.source)
  | .assembly => do
    let width ← env.targetWidth
    match store.absolute b.source with
    | .ok source => .ok ((Conversion.ofForm .assembly).withWidth width, source)
    | .error cause => .error (.sourceUnreadable b.source cause)

theorem target_of_array {b : BuildStep} {env : Environment} {store : Store}
    (h : b.form = .array) : b.target env store = .ok (.ofForm .array, b.source) := by
  unfold target
  rw [h]

theorem target_of_assembly {b : BuildStep} {env : Environment} {store : Store}
    (h : b.form = .assembly) : b.target env store =
      match env.targetWidth, store.absolute b.source with
      | .error e, _ => .error e
      | .ok width, .ok source => .ok (⟨.assembly, width⟩, source)
      | .ok _, .error cause => .error (.sourceUnreadable b.source cause) := by
  unfold target
  rw [h]
  cases env.targetWidth with
  | error e => rfl
  | ok width => cases store.absolute b.source <;> rfl

def outDir (b : BuildStep) (env : Environment) : Except ConversionError Path :=
  match b.outDir? with
  | some dir => .ok dir
  | none => env.outDir

def fileName (symbol : Symbol) : Path := .ofText (symbol.name ++ ".c")

/-- What is settled before any file is touched. -/
def prepare (b : BuildStep) (env : Environment) (store : Store) :
    Except ConversionError (Path × Conversion × Path) := do
  let dir ← b.outDir env
  let (conversion, source) ← b.target env store
  return (dir, conversion, source)

/-- Writes the generated source into the directory for it. -/
def run (b : BuildStep) (env : Environment) (store : Store) : Built :=
  match b.symbol with
  | .error e => ⟨store, "", .error e⟩
  | .ok symbol =>
    match b.checkSymbol symbol with
    | .error e => ⟨store, "", .error e⟩
    | .ok () =>
      match b.prepare env store with
      | .error e => ⟨store, b.warning symbol, .error e⟩
      | .ok (dir, conversion, source) =>
        let embedding := conversion.embed source (dir.join (fileName symbol)) symbol store
        { store := embedding.store
          printed := b.warning symbol ++ dependency source
          result := embedding.result.map Report.destination }

end BuildStep
end BlobSource
