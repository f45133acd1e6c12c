import BlobSource.Proofs.Reading.CText
import BlobSource.Width
import BlobSource.Text.Utf8
import Mathlib.Logic.Function.Basic

/-! A reader of assembler blocks in C, and what the assembler makes of their statements. -/
namespace BlobSource.Reading

inductive Statement where
  | inSection (name : String)
  | align (bytes : ℕ)
  | global (name : String)
  | label (name : String)
  | word (width : WordWidth) (operand : ℕ)
  | contents (path : String)
  deriving DecidableEq, Repr

/-- The bytes that a word takes. -/
def wordSize : WordWidth → ℕ
  | .bits32 => 4
  | .bits64 => 8

/-- The characters of words for the assembler, which are also those of directives. -/
def isAssemblerChar (c : Char) : Bool :=
  Symbol.isNameChar c || c == '.' || c == '$'

theorem isAssemblerChar_space : isAssemblerChar ' ' = false := rfl

theorem isAssemblerChar_quote : isAssemblerChar '"' = false := rfl

def directive? (name operand : List Char) : Option Statement :=
  if name = ".section".toList then some (.inSection (String.ofList operand))
  else if name = ".global".toList then some (.global (String.ofList operand))
  else if name = ".balign".toList then (decimal? operand).map .align
  else if name = ".int".toList then (decimal? operand).map (.word .bits32)
  else if name = ".quad".toList then (decimal? operand).map (.word .bits64)
  else none

/-- The statements of a line, at most one. -/
def statements? : List Token → Option (List Statement)
  | [] => some []
  | [.word name, .mark ':'] =>
    if name.head?.any Char.isDigit then none else some [.label (String.ofList name)]
  | [.word name, .word operand] => (directive? name operand).map ([·])
  | [.word name, .literal path] =>
    if name = ".incbin".toList then some [.contents (String.ofList path)] else none
  | _ => none

def program? (text : List Char) : Option (List Statement) :=
  ((text.splitOn '\n').mapM fun line =>
    (scan isAssemblerChar .nothing line).bind statements?).map List.flatten

/-- Adjacent literals up to the end of the block, put together. -/
def literals? : List Token → Option (List Char)
  | [.mark ')', .mark ';'] => some []
  | .literal s :: rest => (literals? rest).map (s ++ ·)
  | _ => none

/-- The assembler text of a C text that holds nothing but one block. -/
def block? : List Token → Option (List Char)
  | .word keyword :: .mark '(' :: rest =>
    if keyword = "asm".toList then literals? rest else none
  | _ => none

/-- What a compiler and its assembler learn from a text that holds nothing but one assembler
block: the headers that it asks for, and the statements. -/
def readAssembly? (text : Bytes) : Option (List String × List Statement) := do
  let text ← Utf8.decode? text
  let u ← CUnit.ofText? text.toList
  let block ← block? u.tokens
  let program ← program? block
  return (u.headers, program)

/-- An object file in the making: the section that is written to, the size of each section so
far, and what has been put where. -/
structure Object where
  current : String
  size : String → ℕ
  labels : List (String × String × ℕ)
  globals : List String
  words : List (String × ℕ × WordWidth × ℕ)
  contents : List (String × ℕ × String)

/-- The first multiple of a number of bytes that is not below a position. -/
def alignUp (bytes position : ℕ) : ℕ := (position + (bytes - 1)) / bytes * bytes

theorem alignUp_spec {bytes : ℕ} (hb : 0 < bytes) (position : ℕ) :
    bytes ∣ alignUp bytes position ∧ position ≤ alignUp bytes position ∧
      alignUp bytes position < position + bytes := by
  have hdiv := Nat.div_add_mod (position + (bytes - 1)) bytes
  have hmod := Nat.mod_lt (position + (bytes - 1)) hb
  have hcomm : alignUp bytes position = bytes * ((position + (bytes - 1)) / bytes) :=
    Nat.mul_comm _ _
  rw [← hcomm] at hdiv
  exact ⟨Nat.dvd_mul_left _ _, by omega, by omega⟩

namespace Object

def position (o : Object) : ℕ := o.size o.current

def moveTo (o : Object) (position : ℕ) : Object :=
  { o with size := Function.update o.size o.current position }

/-- One statement, where each file that is included has the given size. -/
def add (sizeOf : String → ℕ) (o : Object) : Statement → Object
  | .inSection name => { o with current := name }
  | .align bytes => o.moveTo (alignUp bytes o.position)
  | .global name => { o with globals := o.globals ++ [name] }
  | .label name => { o with labels := o.labels ++ [(name, o.current, o.position)] }
  | .word width operand =>
    { o with words := o.words ++ [(o.current, o.position, width, operand)] }.moveTo
      (o.position + wordSize width)
  | .contents path =>
    { o with contents := o.contents ++ [(o.current, o.position, path)] }.moveTo
      (o.position + sizeOf path)

def assemble (sizeOf : String → ℕ) (o : Object) (program : List Statement) : Object :=
  program.foldl (add sizeOf) o

end Object

theorem program?_lines {lines : List (List Char)} {program : List Statement}
    (hn : ∀ l ∈ lines, '\n' ∉ l)
    (h : List.Forall₂ (fun line statement =>
      (scan isAssemblerChar .nothing line).bind statements? = some [statement]) lines program) :
    program? (lines.flatMap (· ++ ['\n'])) = some program := by
  have hm : lines.mapM (fun l => (scan isAssemblerChar .nothing l).bind statements?) =
      some (program.map ([·])) := by
    clear hn
    induction h with
    | nil => rfl
    | cons h _ ih =>
      rw [List.mapM_cons, h, ih]
      rfl
  have hflat : (program.map ([·]) : List (List Statement)).flatten = program := by
    rw [← List.flatMap_def, List.flatMap_singleton']
  rw [program?, splitOn_lines hn, List.mapM_append, hm]
  simp [statements?, hflat]

end BlobSource.Reading
