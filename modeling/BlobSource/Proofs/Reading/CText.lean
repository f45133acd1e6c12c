import BlobSource.Listing
import BlobSource.Proofs.Reading.Token
import Mathlib.Data.List.Forall2

/-! C source as a compiler takes it in: its directives, and the tokens that they leave. -/
namespace BlobSource.Reading

/-- What the lines read so far add up to. -/
structure CUnit where
  headers : List String
  macros : List (List Char × List Token)
  tokens : List Token
  deriving DecidableEq, Repr

namespace CUnit

def empty : CUnit := ⟨[], [], []⟩

/-- A word that names a macro gives way to what the macro stands for. -/
def expand (u : CUnit) : Token → List Token
  | .word w => (u.macros.lookup w).getD [.word w]
  | t => [t]

def includeHeader (u : CUnit) : List Token → Option CUnit
  | [.mark '<', .word base, .mark '.', .word extension, .mark '>'] =>
    some { u with headers := u.headers ++ [String.ofList (base ++ '.' :: extension)] }
  | _ => none

/-- Only macros that stand for literals are read, so that none can lead to another. -/
def defineMacro (u : CUnit) : List Token → Option CUnit
  | [.word name, .literal text] => some { u with macros := (name, [.literal text]) :: u.macros }
  | _ => none

/-- A line is a directive, or it is code. -/
def addTokens (u : CUnit) : List Token → Option CUnit
  | .mark '#' :: .word directive :: rest =>
    if directive = "include".toList then u.includeHeader rest
    else if directive = "define".toList then u.defineMacro rest
    else none
  | tokens => some { u with tokens := u.tokens ++ tokens.flatMap u.expand }

def addLine (u : CUnit) (line : List Char) : Option CUnit :=
  (scan Symbol.isNameChar .nothing line).bind u.addTokens

/-- Reads a text line by line; no token goes on from one line to the next. -/
def ofText? (text : List Char) : Option CUnit := (text.splitOn '\n').foldlM addLine empty

end CUnit

theorem splitOn_lines {lines : List (List Char)} (h : ∀ l ∈ lines, '\n' ∉ l) :
    (lines.flatMap (· ++ ['\n'])).splitOn '\n' = lines ++ [[]] := by
  induction lines with
  | nil => rfl
  | cons l lines ih =>
    rw [List.flatMap_cons, List.append_assoc, List.singleton_append,
      List.splitOn_append_cons_self_of_not_mem (h l List.mem_cons_self),
      ih fun k hk => h k (List.mem_cons_of_mem _ hk)]
    rfl

namespace CUnit

theorem ofText?_lines {lines : List (List Char)} (h : ∀ l ∈ lines, '\n' ∉ l) :
    ofText? (lines.flatMap (· ++ ['\n'])) = lines.foldlM addLine empty := by
  have hblank : ∀ u : CUnit, u.addLine [] = some u := fun u => by simp [addLine, addTokens]
  rw [ofText?, splitOn_lines h, List.foldlM_append]
  simp [hblank]

/-- A line with some tokens that is no directive. -/
def IsCode (line : List Char) (tokens : List Token) : Prop :=
  scan Symbol.isNameChar .nothing line = some tokens ∧ tokens.head? ≠ some (.mark '#')

theorem addLine_code {u : CUnit} {line : List Char} {tokens : List Token}
    (h : IsCode line tokens) :
    u.addLine line = some { u with tokens := u.tokens ++ tokens.flatMap u.expand } := by
  obtain ⟨hs, hd⟩ := h
  rw [addLine, hs, Option.bind_some]
  unfold addTokens
  split
  · simp at hd
  · rfl

theorem foldlM_addLine_code (u : CUnit) {lines : List (List Char)} {tokens : List (List Token)}
    (h : List.Forall₂ IsCode lines tokens) :
    lines.foldlM addLine u =
      some { u with tokens := u.tokens ++ tokens.flatten.flatMap u.expand } := by
  induction h generalizing u with
  | nil => simp
  | cons h _ ih =>
    rw [List.foldlM_cons, addLine_code h, Option.bind_eq_bind, Option.bind_some, ih,
      List.flatten_cons, List.flatMap_append, List.append_assoc]
    rfl

theorem flatMap_expand_of_no_macros {u : CUnit} (h : u.macros = []) (tokens : List Token) :
    tokens.flatMap u.expand = tokens := by
  have he : u.expand = fun t => [t] := funext fun t => by cases t <;> simp [expand, h]
  rw [he, List.flatMap_singleton']

private def preambleLines : List (List Char) :=
  ["#include <stddef.h>".toList, "#include <stdint.h>".toList, []]

private theorem toList_preamble :
    Listing.preamble.toList = preambleLines.flatMap (· ++ ['\n']) := by
  simp [Listing.preamble, preambleLines]

private theorem foldlM_preambleLines :
    preambleLines.foldlM addLine empty = some ⟨["stddef.h", "stdint.h"], [], []⟩ := by
  decide

/-- Behind the preamble the two headers are known, and reading goes on with what follows. -/
theorem ofText?_preamble {lines : List (List Char)} (h : ∀ l ∈ lines, '\n' ∉ l) :
    ofText? (Listing.preamble.toList ++ lines.flatMap (· ++ ['\n'])) =
      lines.foldlM addLine ⟨["stddef.h", "stdint.h"], [], []⟩ := by
  have hp : ∀ l ∈ preambleLines, '\n' ∉ l := by decide
  have hall : ∀ l ∈ preambleLines ++ lines, '\n' ∉ l := fun l hl =>
    (List.mem_append.1 hl).elim (hp l) (h l)
  rw [toList_preamble, ← List.flatMap_append, ofText?_lines hall, List.foldlM_append,
    foldlM_preambleLines]
  rfl

end CUnit
end BlobSource.Reading
