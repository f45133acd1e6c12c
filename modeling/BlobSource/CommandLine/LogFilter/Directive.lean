import BlobSource.CommandLine.LogLine

/-! One rule of a log filter: a level for the lines of a target, for those with a field, or for
what is logged within a span. -/
namespace BlobSource.CommandLine

/-- What a rule asks of a field: that there is one of the name, and that its value fits. -/
structure FieldTest where
  name : String
  value? : Option String
  deriving DecidableEq, Repr

/-- Shows lines up to a rank. A target is given by its beginning, so the empty one is every
target. -/
structure Directive where
  target : String
  span? : Option String
  field? : Option FieldTest
  rank : Nat
  deriving DecidableEq, Repr

namespace Directive

def ofRank (rank : Nat) : Directive := ⟨"", none, none, rank⟩

/-- Whether the rule is about single lines. Values are compared, and names of spans looked up,
in the spans around a line only, and no line has a span around it. -/
def isAboutLines (d : Directive) : Bool :=
  d.span?.isNone && d.field?.all (·.value?.isNone)

def concerns (d : Directive) (l : LogLine) : Bool :=
  d.isAboutLines && d.target.toList.isPrefixOf l.target.toList &&
    d.field?.all fun field => l.fieldNames.contains field.name

/-- The name of the field that the rule is about, and nothing if it is about none. -/
def fieldName (d : Directive) : String := (d.field?.map (·.name)).getD ""

/-- Whether the second of two rules about one line is at least as specific: by the length of the
target, then by whether it names a field, then by the order of these names. -/
def yields (d e : Directive) : Bool :=
  d.target.length < e.target.length ||
    d.target.length = e.target.length && !(e.fieldName < d.fieldName)

end Directive
end BlobSource.CommandLine
