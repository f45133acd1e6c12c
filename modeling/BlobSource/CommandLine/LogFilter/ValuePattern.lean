import BlobSource.CommandLine.LogFilter.ValuePattern.Modes
import BlobSource.CommandLine.LogFilter.ValuePattern.Nesting
import BlobSource.Text.CharClass.Alphanumeric
import BlobSource.Text.CharClass.Blank

/-! Which texts are patterns for the value of a field: regular expressions that match whole UTF-8
text, read character by character. A closing brace ends the field, so a pattern holds none, and
whatever it would close is wrong: a count, a code point, the name of a class. Unicode's tables of
word characters and of letter cases are not used: what needs one is wrong as well. -/
namespace BlobSource.CommandLine.ValuePattern

def depthLimit : Nat := 250

/-- Where a character stands: outside the sets, in a set, or above the lower end of a range. -/
inductive Place where
  | outside
  | member
  | upper (low : Char)
  deriving DecidableEq, Repr

inductive Part where
  /-- A part of a sequence; an operator may repeat what is before it. -/
  | item (repeatable : Bool)
  | group
  /-- Letters that change modes, the last one first. -/
  | modes (letters : List Char)
  /-- The name of a group, the last character first. -/
  | name (read : List Char)
  | escape (place : Place)
  /-- Hexadecimal digits of a character, or of a byte. -/
  | code (place : Place) (left : Nat) (value : Nat) (isByte : Bool)
  | bracket (mayNegate mayClose : Bool)
  | member
  /-- What follows a member: a single character, or a class. -/
  | afterMember (low? : Option Char)
  /-- The upper end of a range. -/
  | upper (low : Char)
  deriving DecidableEq, Repr

/-- Whether blanks may stand before such a part in spaced patterns. -/
def Part.allowsBlanks : Part → Bool
  | item _ | group | code .. | bracket .. | member | afterMember _ | upper _ => true
  | modes _ | name _ | escape _ => false

/-- What is known of a pattern between two of its characters. -/
structure State where
  part : Part
  modes : Modes
  /-- What the innermost open group holds, or the whole pattern. -/
  choices : Choices
  /-- The modes and the contents around each open group, the innermost first. -/
  outer : List (Modes × Choices)
  /-- What each open set holds, the innermost first. -/
  sets : List SetParts
  names : List (List Char)
  inComment : Bool
  /-- The number of next characters that are accounted for. -/
  settled : Nat
  deriving DecidableEq, Repr

def classNames : List String :=
  ["alnum", "alpha", "ascii", "blank", "cntrl", "digit", "graph", "lower", "print", "punct",
    "space", "upper", "word", "xdigit"]

/-- The class whose name begins after a bracket: whether it is negated, and its length. -/
def namedClass? (text : List Char) : Option (Bool × Nat) :=
  (classNames.flatMap fun name => [(false, s!":{name}:]"), (true, s!":^{name}:]")]).findSome?
    fun (negated, form) =>
      if form.toList.isPrefixOf text then some (negated, form.length) else none

/-- A backslash makes each of these the character itself. -/
def isEscapable (c : Char) : Bool :=
  c.toNat < 0x80 && !c.isAlphanum && c ≠ '<' && c ≠ '>'

def hexDigit? (c : Char) : Option Nat :=
  if c.isDigit then some (c.toNat - '0'.toNat)
  else if 'a' ≤ c ∧ c ≤ 'f' then some (c.toNat - 'a'.toNat + 10)
  else if 'A' ≤ c ∧ c ≤ 'F' then some (c.toNat - 'A'.toNat + 10)
  else none

/-- What stands after a dash in a set. In spaced patterns that is the first character that is
neither a blank nor the sign that begins a comment; what the comment says is not left out. -/
def afterDash? (spaced : Bool) (text : List Char) : Option Char :=
  if spaced then
    match text.dropWhile CharClass.isBlank with
    | '#' :: rest => rest.find? (!CharClass.isBlank ·)
    | rest => rest.head?
  else text.head?

namespace State

def start : State := ⟨.item false, .usual, .empty, [], [], [], false, 0⟩

def withPart (s : State) (repeatable : Bool) : State :=
  { s with part := .item repeatable, choices := s.choices.push 0 }

def withMember (s : State) (part : Part) (depth : Nat) : State :=
  { s with
    part
    sets := match s.sets with
      | set :: sets => set.push depth :: sets
      | [] => [] }

def literal? (s : State) (place : Place) (c : Char) (isByte : Bool) : Option State :=
  match place with
  | .outside => if s.modes.allowsLiteral c isByte then some (s.withPart true) else none
  | .member =>
    if s.modes.allowsMember c then some (s.withMember (.afterMember (some c)) 0) else none
  | .upper low =>
    if s.modes.allowsMember c && low ≤ c then some { s with part := .member } else none

def letterClass? (s : State) (place : Place) (negated : Bool) : Option State :=
  if s.modes.unicode || negated then none
  else match place with
    | .outside => some (s.withPart true)
    | .member => some (s.withMember (.afterMember none) 0)
    | .upper _ => none

def escaped? (s : State) (place : Place) (c : Char) : Option State :=
  match c with
  | 'x' => some { s with part := .code place 2 0 true }
  | 'u' => some { s with part := .code place 4 0 false }
  | 'U' => some { s with part := .code place 8 0 false }
  | 'd' | 's' | 'w' => s.letterClass? place false
  | 'D' | 'S' | 'W' => s.letterClass? place true
  | 'a' => s.literal? place '\x07' false
  | 't' => s.literal? place '\t' false
  | 'n' => s.literal? place '\n' false
  | 'v' => s.literal? place '\x0b' false
  | 'f' => s.literal? place '\x0c' false
  | 'r' => s.literal? place '\r' false
  | 'A' | 'z' => if place = .outside then some (s.withPart true) else none
  | 'b' | 'B' | '<' | '>' =>
    if place = .outside && !s.modes.unicode then some (s.withPart true) else none
  | c => if isEscapable c then s.literal? place c false else none

def digit? (s : State) (place : Place) (left value : Nat) (isByte : Bool) (c : Char) :
    Option State := do
  let value := value * 16 + (← hexDigit? c)
  if 1 < left then some { s with part := .code place (left - 1) value isByte }
  else if value.isValidChar then s.literal? place (Char.ofNat value) isByte
  else none

/-- After a character where a member of a set may begin. Two like signs are an operator. -/
def member? (s : State) (c : Char) (rest : List Char) : Option State :=
  match c with
  | '[' => match namedClass? rest with
    | some (negated, length) =>
      if s.modes.allowsClass negated then
        some { s.withMember .member 0 with settled := length }
      else none
    | none => some { s with part := .bracket true true, sets := .empty :: s.sets }
  | ']' => match s.sets with
    | set :: around :: sets =>
      some ({ s with sets := around :: sets }.withMember .member (set.depth + 1))
    | [set] =>
      some { s with part := .item true, choices := s.choices.push (set.depth + 1), sets := [] }
    | [] => none
  | '\\' => some { s with part := .escape .member }
  | c =>
    if (c = '&' ∨ c = '-' ∨ c = '~') ∧ rest.head? = some c then
      match s.sets with
      | set :: sets => some { s with part := .member, sets := set.operator :: sets, settled := 1 }
      | [] => none
    else s.literal? .member c false

def bracket? (s : State) (mayNegate mayClose : Bool) (c : Char) (rest : List Char) :
    Option State :=
  if c = '^' ∧ mayNegate then
    if s.modes.unicode then some { s with part := .bracket false true } else none
  else if c = '-' then
    (s.literal? .member c false).map fun s => { s with part := .bracket false false }
  else if c = ']' ∧ mayClose then
    (s.literal? .member c false).map fun s => { s with part := .member }
  else s.member? c rest

/-- After the character that follows a member. A dash is a member too before a closing bracket,
half of an operator before another dash, and otherwise the middle of a range of characters. -/
def afterMember? (s : State) (low? : Option Char) (c : Char) (rest : List Char) : Option State :=
  if c = '-' ∧ afterDash? s.modes.spaced rest ∉ [some ']', some '-'] then
    low?.map fun low => { s with part := .upper low }
  else s.member? c rest

/-- After the upper end of a range, or the backslash before it. -/
def upper? (s : State) (low c : Char) : Option State :=
  if c = '\\' then some { s with part := .escape (.upper low) }
  else s.literal? (.upper low) c false

/-- After a character of a sequence. A question mark may follow an operator and belongs to it. -/
def item? (s : State) (repeatable : Bool) (c : Char) (rest : List Char) : Option State :=
  match c with
  | '(' => some { s with part := .group }
  | ')' => match s.outer with
    | (modes, around) :: outer =>
      some { s with
        part := .item true
        modes
        choices := around.push (s.choices.depth + 1)
        outer }
    | [] => none
  | '|' => some { s with part := .item false, choices := s.choices.other }
  | '*' | '+' | '?' =>
    if repeatable then
      some { s with
        choices := s.choices.repeatLast
        settled := if rest.head? = some '?' then 1 else 0 }
    else none
  | '\x7b' => none
  | '[' => some { s with part := .bracket true true, sets := [.empty] }
  | '\\' => some { s with part := .escape .outside }
  | '.' => if s.modes.unicode then some (s.withPart true) else none
  | '^' | '$' => some (s.withPart true)
  | c => s.literal? .outside c false

def opened (s : State) (modes : Modes) : State :=
  { s with
    part := .item false
    modes
    choices := .empty
    outer := (s.modes, s.choices) :: s.outer }

def group? (s : State) (c : Char) (rest : List Char) : Option State :=
  if c = '?' then
    match rest with
    | 'P' :: '<' :: _ => some { s with part := .name [], settled := 2 }
    | '<' :: _ => some { s with part := .name [], settled := 1 }
    | _ => some { s with part := .modes [] }
  else (s.opened s.modes).item? false c rest

/-- After a character among the letters that change modes. Each may stand there once, and a dash
needs one after it. -/
def modes? (s : State) (letters : List Char) (c : Char) : Option State :=
  if c = ':' ∨ c = ')' then
    let changed := s.modes.change true letters.reverse
    if letters.head? = some '-' then none
    else if c = ':' then some (s.opened changed)
    else if letters = [] then none
    else some { s.withPart false with modes := changed }
  else if c ∈ ['-', 'i', 'm', 's', 'U', 'u', 'R', 'x'] ∧ c ∉ letters then
    some { s with part := .modes (c :: letters) }
  else none

/-- After a character of the name of a group. No two groups have one name. -/
def name? (s : State) (read : List Char) (c : Char) : Option State :=
  if c = '>' then
    if read = [] ∨ read ∈ s.names then none
    else some ({ s with names := read :: s.names }.opened s.modes)
  else
    let fits := if read = [] then CharClass.isAlphabetic c
      else c ∈ ['.', '[', ']'] || CharClass.isAlphanumeric c
    if c = '_' || fits then some { s with part := .name (c :: read) } else none

/-- After a character, in view of those that follow it. -/
def next? (s : State) (c : Char) (rest : List Char) : Option State :=
  if 0 < s.settled then some { s with settled := s.settled - 1 }
  else if s.inComment then some { s with inComment := c ≠ '\n' }
  else if s.modes.spaced && s.part.allowsBlanks && (CharClass.isBlank c || c = '#') then
    some { s with inComment := c = '#' }
  else match s.part with
    | .item repeatable => s.item? repeatable c rest
    | .group => s.group? c rest
    | .modes letters => s.modes? letters c
    | .name read => s.name? read c
    | .escape place => s.escaped? place c
    | .code place left value isByte => s.digit? place left value isByte c
    | .bracket mayNegate mayClose => s.bracket? mayNegate mayClose c rest
    | .member => s.member? c rest
    | .afterMember low? => s.afterMember? low? c rest
    | .upper low => s.upper? low c

/-- Whether a pattern may end here: in no group, in no set, after no backslash, and with nothing
nested too deep. -/
def mayEnd (s : State) : Bool :=
  match s.part with
  | .item _ => s.outer.isEmpty && s.choices.depth ≤ depthLimit
  | _ => false

def completes : State → List Char → Bool
  | s, [] => s.mayEnd
  | s, c :: rest => match s.next? c rest with
    | some s => s.completes rest
    | none => false

end State

def isPattern (text : List Char) : Bool := State.start.completes text

end BlobSource.CommandLine.ValuePattern
