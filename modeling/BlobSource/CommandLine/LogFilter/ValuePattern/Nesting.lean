/-! How deep the parts of a pattern lie in one another. A character has depth 0; a group, a set, a
repetition, a sequence, a choice, a union and an operator on sets are each one deeper than the
deepest part of theirs. -/
namespace BlobSource.CommandLine.ValuePattern

/-- The depth of what the parts make together. One part alone is the whole. -/
def joinedDepth : List Nat → Nat
  | [] => 0
  | [depth] => depth
  | depth :: depths => depths.foldr max depth + 1

/-- What a group holds so far: the depths of its finished choices, and those of the parts of the
choice that is being read, the last one first. -/
structure Choices where
  finished : List Nat
  parts : List Nat
  deriving DecidableEq, Repr

namespace Choices

def empty : Choices := ⟨[], []⟩

def depth (g : Choices) : Nat := joinedDepth (joinedDepth g.parts :: g.finished)

def push (g : Choices) (depth : Nat) : Choices := { g with parts := depth :: g.parts }

def repeatLast (g : Choices) : Choices :=
  match g.parts with
  | depth :: parts => { g with parts := (depth + 1) :: parts }
  | [] => g

def other (g : Choices) : Choices := ⟨joinedDepth g.parts :: g.finished, []⟩

end Choices

/-- What a set holds so far: the depth of all before the last operator, and those of the members
after it. -/
structure SetParts where
  before? : Option Nat
  members : List Nat
  deriving DecidableEq, Repr

namespace SetParts

def empty : SetParts := ⟨none, []⟩

/-- The depth of what the brackets enclose. Operators group to the left. -/
def depth (s : SetParts) : Nat :=
  match s.before? with
  | some before => max before (joinedDepth s.members) + 1
  | none => joinedDepth s.members

def push (s : SetParts) (depth : Nat) : SetParts := { s with members := depth :: s.members }

def operator (s : SetParts) : SetParts := ⟨some s.depth, []⟩

end SetParts
end BlobSource.CommandLine.ValuePattern
