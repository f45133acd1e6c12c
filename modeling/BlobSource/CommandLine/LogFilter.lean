import BlobSource.CommandLine.LogFilter.Reading
import BlobSource.Text.Utf8

/-! Which log lines are shown, as a list of rules says. -/
namespace BlobSource.CommandLine

/-- The rules of a filter, in the order in which they are given. -/
structure LogFilter where
  directives : List Directive
  deriving DecidableEq, Repr

namespace LogFilter

/-- The rule that decides a line: of those that concern it the most specific, and of equal ones
the last. -/
def directiveFor? (f : LogFilter) (l : LogLine) : Option Directive :=
  (f.directives.filter (·.concerns l)).foldl
    (fun best? d => match best? with
      | some best => if best.yields d then some d else some best
      | none => some d)
    none

def shows (f : LogFilter) (l : LogLine) : Bool :=
  match f.directiveFor? l with
  | some d => l.level.rank ≤ d.rank
  | none => false

def parts (text : List Char) : List (List Char) :=
  text.foldr
    (fun c parts => match parts with
      | part :: rest => if c = ',' then [] :: part :: rest else (c :: part) :: rest
      | [] => [[c]])
    [[]]

/-- The filter that a text spells; an empty one leaves the errors. -/
def parse? (text : String) : Option LogFilter :=
  match (parts text.toList).filter (· ≠ []) with
  | [] => some ⟨[.ofRank Level.error.rank]⟩
  | given => (given.mapM Directive.parse?).map LogFilter.mk

end LogFilter
end BlobSource.CommandLine
