import BlobSource.CommandLine.LogFilter.Directive
import BlobSource.CommandLine.LogFilter.ValuePattern

/-! Rules of a log filter as text: `level`, or `target[span{field=value}]=level`, of which every
part may be missing but not all. -/
namespace BlobSource.CommandLine

/-- The rank up to which lines are shown, by its name in any case or by its number. -/
def Level.rankOf? (text : String) : Option Nat :=
  let digits := match text.toList with
    | '+' :: rest => rest
    | cs => cs
  if digits ≠ [] ∧ digits.all Char.isDigit then
    (String.ofList digits).toNat?.filter (· ≤ 5)
  else
    [("off", 0), ("error", 1), ("warn", 2), ("info", 3), ("debug", 4), ("trace", 5)].lookup
      text.toLower

namespace FieldTest

/-- Whether the text is digits with at most one point among them and perhaps an exponent. -/
def isUnsignedNumber (text : List Char) : Bool :=
  let whole := text.takeWhile Char.isDigit
  let (fraction, rest) := match text.dropWhile Char.isDigit with
    | '.' :: rest => (rest.takeWhile Char.isDigit, rest.dropWhile Char.isDigit)
    | rest => ([], rest)
  let hasExponent := match rest with
    | 'e' :: '+' :: ds | 'e' :: '-' :: ds | 'E' :: '+' :: ds | 'E' :: '-' :: ds
    | 'e' :: ds | 'E' :: ds => ds ≠ [] && ds.all Char.isDigit
    | _ => false
  whole ++ fraction ≠ [] && (rest = [] || hasExponent)

/-- Whether the text is a number, infinity, or no number at all. -/
def isNumber (text : List Char) : Bool :=
  let unsigned := match text with
    | '+' :: rest | '-' :: rest => rest
    | _ => text
  isUnsignedNumber unsigned ||
    ["inf", "infinity", "nan"].contains (String.ofList unsigned).toLower

/-- Reads a name and, after an equals sign, a value: a number, or a pattern. What follows a second
equals sign is left out. -/
def ofText? (text : List Char) : Option FieldTest :=
  let name := String.ofList (text.takeWhile (· ≠ '='))
  match text.dropWhile (· ≠ '=') with
  | [] => if text = [] then none else some ⟨name, none⟩
  | _ :: rest =>
    let value := rest.takeWhile (· ≠ '=')
    if isNumber value || ValuePattern.isPattern value then
      some ⟨name, some (String.ofList value)⟩
    else none

end FieldTest

namespace Directive

/-- What is being read, with the position at which it begins. -/
inductive Part where
  | opening
  | name
  | span (start : Nat)
  | field (start : Nat)
  | fieldClosed
  | spanClosed
  | level (start : Nat)
  deriving DecidableEq, Repr

/-- The first bytes of a text, and the others; nothing if that would divide a character. -/
def splitAt? : List Char → Nat → Option (List Char × List Char)
  | text, 0 => some ([], text)
  | [], _ + 1 => none
  | c :: text, n + 1 =>
    if n + 1 < c.utf8Size then none
    else (splitAt? text (n + 1 - c.utf8Size)).map fun (first, rest) => (c :: first, rest)

def between? (text : List Char) (start stop : Nat) : Option (List Char) := do
  let (_, rest) ← splitAt? text start
  let (part, _) ← splitAt? rest (stop - start)
  return part

/-- Whether a rule may begin so, if it does not begin with a bracket. -/
def startsName (c : Char) : Bool :=
  c = '-' || c = ':' || c = '_' || CharClass.isAlphanumeric c

/-- After a character at a position: what is read next, and the rule so far. -/
def step? (text : List Char) (position : Nat) (c : Char) :
    Part → Directive → Option (Part × Directive)
  | .opening, d =>
    if c = '[' then some (.span (position + 1), d)
    else if startsName c then some (.name, d)
    else none
  | .name, d =>
    if c = '=' ∨ c = '[' then do
      let target ← between? text 0 position
      let next := if c = '=' then .level (position + 1) else .span (position + 1)
      return (next, { d with target := String.ofList target })
    else some (.name, d)
  | .span start, d =>
    if c = ']' then do
      let span ← between? text start position
      return (.spanClosed, { d with span? := some (String.ofList span) })
    else if c = '\x7b' then do
      let span ← between? text start position
      return (.field (position + 1),
        { d with span? := if span = [] then none else some (String.ofList span) })
    else some (.span start, d)
  | .field start, d =>
    if c = '\x7d' then do
      let field ← FieldTest.ofText? (← between? text start position)
      return (.fieldClosed, { d with field? := some field })
    else some (.field start, d)
  | .fieldClosed, d => if c = ']' then some (.spanClosed, d) else none
  | .spanClosed, d => if c = '=' then some (.level (position + 1), d) else none
  | .level start, d => some (.level start, d)

/-- The rule that is complete at the end. A text without brackets and equals sign is a level if it
names one, and otherwise a target; after an equals sign everything is shown by default. -/
def finish? (text : List Char) : Part → Directive → Option Directive
  | .name, d =>
    match Level.rankOf? (String.ofList text) with
    | some rank => some { d with rank }
    | none => some { d with target := String.ofList text }
  | .level start, d => do
    let (_, level) ← splitAt? text start
    if level = [] then return d
    return { d with rank := ← Level.rankOf? (String.ofList level) }
  | .spanClosed, d => some d
  | _, _ => none

def read? (text : List Char) : Part → Directive → Nat → List Char → Option Directive
  | part, d, _, [] => finish? text part d
  | part, d, position, c :: rest => do
    let (part, d) ← step? text position c part d
    read? text part d (position + c.utf8Size) rest

/-- Reads a rule. Positions count the bytes from the first character that is not blank, and the
parts are cut out of the whole text at these positions: after leading blanks each part is taken
from so many bytes earlier, and the last one ends with the blanks at the end. -/
def parse? (text : List Char) : Option Directive :=
  read? text .opening (.ofRank Level.trace.rank) 0 (withoutOuterBlanks text)

end Directive
end BlobSource.CommandLine
