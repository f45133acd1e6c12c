import BlobSource.Proofs.Symbol
import Mathlib.Computability.Language

/-! The names that C leaves to its users, as a language, and the reasons that keep a name out of it.
Of the reasons that hold of a name, the first one is reported. -/
namespace BlobSource

namespace Identifier
open scoped Computability

def IsDigit (c : Char) : Prop := '0' ≤ c ∧ c ≤ '9'

def IsUpper (c : Char) : Prop := 'A' ≤ c ∧ c ≤ 'Z'

/-- A letter or the underscore. -/
def IsStart (c : Char) : Prop := 'a' ≤ c ∧ c ≤ 'z' ∨ IsUpper c ∨ c = '_'

def IsPart (c : Char) : Prop := IsStart c ∨ IsDigit c

instance : DecidablePred IsDigit := fun c => inferInstanceAs (Decidable ('0' ≤ c ∧ c ≤ '9'))

instance : DecidablePred IsUpper := fun c => inferInstanceAs (Decidable ('A' ≤ c ∧ c ≤ 'Z'))

instance : DecidablePred IsStart := fun c =>
  inferInstanceAs (Decidable ('a' ≤ c ∧ c ≤ 'z' ∨ IsUpper c ∨ c = '_'))

instance : DecidablePred IsPart := fun c => inferInstanceAs (Decidable (IsStart c ∨ IsDigit c))

/-- The words of one character of some kind. -/
def single (kind : Char → Prop) : Language Char := {word | ∃ c, kind c ∧ word = [c]}

/-- The words that have the form of an identifier. -/
def words : Language Char := single IsStart * (single IsPart)∗

/-- The keywords of C by the standard that brought them in, the latest that of 2023. -/
def keywords : List String :=
  ["auto", "break", "case", "char", "const", "continue", "default", "do", "double", "else", "enum",
    "extern", "float", "for", "goto", "if", "int", "long", "register", "return", "short", "signed",
    "sizeof", "static", "struct", "switch", "typedef", "union", "unsigned", "void", "volatile",
    "while"] ++
  ["inline", "restrict", "_Bool", "_Complex", "_Imaginary"] ++
  ["_Alignas", "_Alignof", "_Atomic", "_Generic", "_Noreturn", "_Static_assert",
    "_Thread_local"] ++
  ["alignas", "alignof", "bool", "constexpr", "false", "nullptr", "static_assert", "thread_local",
    "true", "typeof", "typeof_unqual", "_BitInt", "_Decimal32", "_Decimal64", "_Decimal128"]

/-- Two underscores, or one and an upper-case letter, at the start. -/
def StartsReserved (word : List Char) : Prop :=
  ['_', '_'] <+: word ∨ ∃ c, IsUpper c ∧ ['_', c] <+: word

theorem mem_keywords_iff {word : String} : word ∈ keywords ↔ word ∈ cKeywords := by
  have hall : ∀ k ∈ cKeywords, k ∈ keywords := by decide +kernel
  have honly : ∀ k ∈ keywords, k ∈ cKeywords := by decide +kernel
  exact ⟨honly word, hall word⟩

theorem isDigit_iff {c : Char} : IsDigit c ↔ c.isDigit = true := by
  change _ ↔ (decide ('0' ≤ c) && decide (c ≤ '9')) = true
  rw [Bool.and_eq_true, decide_eq_true_iff, decide_eq_true_iff]
  exact Iff.rfl

theorem isUpper_iff {c : Char} : IsUpper c ↔ c.isUpper = true := decide_eq_true_iff.symm

theorem isPart_iff {c : Char} : IsPart c ↔ Symbol.isNameChar c = true := by
  have hlower : c.isLower = true ↔ 'a' ≤ c ∧ c ≤ 'z' := by
    change (decide ('a' ≤ c) && decide (c ≤ 'z')) = true ↔ _
    rw [Bool.and_eq_true, decide_eq_true_iff, decide_eq_true_iff]
  change _ ↔ (((c.isUpper || c.isLower) || c.isDigit) || c == '_') = true
  rw [Bool.or_eq_true, Bool.or_eq_true, Bool.or_eq_true, hlower, ← isUpper_iff, ← isDigit_iff,
    beq_iff_eq]
  unfold IsPart IsStart
  tauto

theorem not_isDigit_of_isStart {c : Char} (h : IsStart c) : ¬ IsDigit c := by
  rintro ⟨-, hdigit⟩
  have hnine : c.toNat ≤ '9'.toNat := hdigit
  rcases h with ⟨hlower, -⟩ | ⟨hupper, -⟩ | rfl
  · exact absurd (Nat.le_trans hlower hnine) (by decide)
  · exact absurd (Nat.le_trans hupper hnine) (by decide)
  · exact absurd hnine (by decide)

theorem isStart_iff {c : Char} : IsStart c ↔ IsPart c ∧ ¬ IsDigit c :=
  ⟨fun h => ⟨.inl h, not_isDigit_of_isStart h⟩, fun ⟨hpart, hdigit⟩ => hpart.resolve_right hdigit⟩

theorem startsReserved_iff {word : List Char} :
    StartsReserved word ↔ Symbol.hasReservedStart word = true := by
  unfold StartsReserved
  match word with
  | [] => simp [Symbol.hasReservedStart]
  | [c] => simp [Symbol.hasReservedStart]
  | c :: d :: rest =>
    have hpair : ∀ e, ['_', e] <+: c :: d :: rest ↔ '_' = c ∧ e = d := by
      intro e
      rw [List.cons_prefix_cons, List.cons_prefix_cons]
      simp
    constructor
    · rintro (h | ⟨e, he, h⟩)
      · obtain ⟨rfl, rfl⟩ := (hpair '_').1 h
        rfl
      · obtain ⟨rfl, rfl⟩ := (hpair e).1 h
        simp [Symbol.hasReservedStart, isUpper_iff.1 he]
    · intro h
      have hboth : c = '_' ∧ (d = '_' ∨ d.isUpper = true) := by
        simpa [Symbol.hasReservedStart] using h
      obtain ⟨rfl, rfl | hd⟩ := hboth
      · exact .inl ((hpair '_').2 ⟨rfl, rfl⟩)
      · exact .inr ⟨d, isUpper_iff.2 hd, (hpair d).2 ⟨rfl, rfl⟩⟩

theorem mem_words_iff {word : List Char} : word ∈ words ↔
    ∃ first rest, word = first :: rest ∧ IsStart first ∧ ∀ c ∈ rest, IsPart c := by
  constructor
  · intro h
    obtain ⟨_, ⟨first, hfirst, rfl⟩, rest, hrest, rfl⟩ := Language.mem_mul.1 h
    obtain ⟨parts, rfl, hparts⟩ := Language.mem_kstar.1 hrest
    refine ⟨first, parts.flatten, rfl, hfirst, ?_⟩
    intro c hc
    obtain ⟨part, hpart, hc⟩ := List.mem_flatten.1 hc
    obtain ⟨d, hd, rfl⟩ := hparts part hpart
    exact List.mem_singleton.1 hc ▸ hd
  · rintro ⟨first, rest, rfl, hfirst, hrest⟩
    refine Language.mem_mul.2 ⟨[first], ⟨first, hfirst, rfl⟩, rest, ?_, rfl⟩
    have hparts : rest = (rest.map ([·])).flatten := by
      rw [← List.flatMap_def, List.flatMap_singleton']
    refine Language.mem_kstar.2 ⟨rest.map ([·]), hparts, ?_⟩
    intro part hpart
    obtain ⟨c, hc, rfl⟩ := List.mem_map.1 hpart
    exact ⟨c, hrest c hc, rfl⟩

theorem mem_words_iff_forall {word : List Char} : word ∈ words ↔
    word ≠ [] ∧ (∀ c ∈ word, IsPart c) ∧ ∀ c, [c] <+: word → ¬ IsDigit c := by
  rw [mem_words_iff]
  constructor
  · rintro ⟨first, rest, rfl, hfirst, hrest⟩
    refine ⟨List.cons_ne_nil first rest, List.forall_mem_cons.2 ⟨.inl hfirst, hrest⟩, ?_⟩
    intro c hc
    obtain ⟨rfl, -⟩ := List.cons_prefix_cons.1 hc
    exact not_isDigit_of_isStart hfirst
  · rintro ⟨hne, hparts, hdigit⟩
    obtain ⟨first, rest, rfl⟩ := List.exists_cons_of_ne_nil hne
    obtain ⟨hfirst, hrest⟩ := List.forall_mem_cons.1 hparts
    exact ⟨first, rest, rfl, isStart_iff.2 ⟨hfirst, hdigit first ⟨rest, rfl⟩⟩, hrest⟩

end Identifier

namespace SymbolIssue
open Identifier

/-- Whether a reason holds of a name, whatever other reasons there are. -/
def HoldsOf (name : String) : SymbolIssue → Prop
  | empty => name = ""
  | leadingDigit => ∃ first rest, name.toList = first :: rest ∧ IsDigit first
  | illegalChar c => ∃ before after, name.toList = before ++ c :: after ∧
      (∀ d ∈ before, IsPart d) ∧ ¬ IsPart c
  | keyword word => word = name ∧ word ∈ keywords
  | reservedStart => StartsReserved name.toList

/-- The order in which the reasons are looked for. -/
def rank : SymbolIssue → ℕ
  | empty => 0
  | leadingDigit => 1
  | illegalChar _ => 2
  | keyword _ => 3
  | reservedStart => 4

theorem holdsOf_illegalChar_iff {name : String} {c : Char} :
    HoldsOf name (illegalChar c) ↔ name.toList.find? (!Symbol.isNameChar ·) = some c := by
  simp only [HoldsOf, isPart_iff, List.find?_eq_some_iff_append]
  constructor
  · rintro ⟨before, after, hname, hbefore, hc⟩
    exact ⟨by simpa using hc, before, after, hname, by simpa using hbefore⟩
  · rintro ⟨hc, before, after, hname, hbefore⟩
    exact ⟨before, after, hname, by simpa using hbefore, by simpa using hc⟩

theorem eq_of_rank_eq {name : String} {issue other : SymbolIssue} (h : issue.HoldsOf name)
    (ho : other.HoldsOf name) (hrank : issue.rank = other.rank) : issue = other := by
  cases issue <;> cases other <;> simp [rank] at hrank
  case empty.empty | leadingDigit.leadingDigit | reservedStart.reservedStart => rfl
  case illegalChar.illegalChar =>
    exact congrArg illegalChar (Option.some.inj
      ((holdsOf_illegalChar_iff.1 h).symm.trans (holdsOf_illegalChar_iff.1 ho)))
  case keyword.keyword => exact congrArg keyword (h.1.trans ho.1.symm)

end SymbolIssue

namespace Symbol
open Identifier SymbolIssue

theorem issue?_spec (s : Symbol) :
    match s.issue? with
    | some issue => HoldsOf s.name issue ∧ ∀ other, HoldsOf s.name other → issue.rank ≤ other.rank
    | none => ∀ other, ¬ HoldsOf s.name other := by
  unfold issue?
  cases hcons : s.name.toList with
  | nil => exact ⟨String.toList_inj.1 hcons, fun other _ => Nat.zero_le _⟩
  | cons first rest =>
    dsimp only
    have hempty : ¬ HoldsOf s.name .empty := by
      intro h
      rw [show s.name = "" from h] at hcons
      cases hcons
    by_cases hdigit : first.isDigit = true
    · rw [if_pos hdigit]
      refine ⟨⟨first, rest, hcons, isDigit_iff.2 hdigit⟩, fun other ho => ?_⟩
      cases other with
      | empty => exact absurd ho hempty
      | _ => simp [rank]
    have hleading : ¬ HoldsOf s.name .leadingDigit := by
      rintro ⟨first', rest', hcons', hd⟩
      obtain ⟨rfl, -⟩ := List.cons.inj (hcons.symm.trans hcons')
      exact hdigit (isDigit_iff.1 hd)
    rw [if_neg hdigit, ← hcons]
    cases hfind : s.name.toList.find? (!isNameChar ·) with
    | some c =>
      refine ⟨holdsOf_illegalChar_iff.2 hfind, fun other ho => ?_⟩
      cases other with
      | empty => exact absurd ho hempty
      | leadingDigit => exact absurd ho hleading
      | _ => simp [rank]
    | none =>
      have hlegal : ∀ c, ¬ HoldsOf s.name (.illegalChar c) := by
        intro c h
        rw [holdsOf_illegalChar_iff, hfind] at h
        cases h
      dsimp only
      by_cases hkeyword : s.name ∈ cKeywords
      · rw [if_pos hkeyword]
        refine ⟨⟨rfl, mem_keywords_iff.2 hkeyword⟩, fun other ho => ?_⟩
        cases other with
        | empty => exact absurd ho hempty
        | leadingDigit => exact absurd ho hleading
        | illegalChar c => exact absurd ho (hlegal c)
        | _ => simp [rank]
      rw [if_neg hkeyword]
      by_cases hstart : hasReservedStart s.name.toList = true
      · rw [if_pos hstart]
        refine ⟨startsReserved_iff.2 hstart, fun other ho => ?_⟩
        cases other with
        | empty => exact absurd ho hempty
        | leadingDigit => exact absurd ho hleading
        | illegalChar c => exact absurd ho (hlegal c)
        | keyword word => exact absurd (mem_keywords_iff.1 (ho.1 ▸ ho.2)) hkeyword
        | reservedStart => exact Nat.le_refl _
      · rw [if_neg hstart]
        intro other ho
        cases other with
        | empty => exact hempty ho
        | leadingDigit => exact hleading ho
        | illegalChar c => exact hlegal c ho
        | keyword word => exact hkeyword (mem_keywords_iff.1 (ho.1 ▸ ho.2))
        | reservedStart => exact hstart (startsReserved_iff.1 ho)

theorem issue?_eq_some_iff {s : Symbol} {issue : SymbolIssue} : s.issue? = some issue ↔
    HoldsOf s.name issue ∧ ∀ other, HoldsOf s.name other → issue.rank ≤ other.rank := by
  have hspec := s.issue?_spec
  constructor
  · intro h
    rw [h] at hspec
    exact hspec
  · rintro ⟨hholds, hfirst⟩
    cases h : s.issue? with
    | none =>
      rw [h] at hspec
      exact absurd hholds (hspec issue)
    | some found =>
      rw [h] at hspec
      obtain ⟨hfound, hleast⟩ := hspec
      have hrank := Nat.le_antisymm (hleast issue hholds) (hfirst found hfound)
      exact congrArg some (eq_of_rank_eq hfound hholds hrank)

/-- A symbol without an issue is an identifier, no keyword, and not reserved by its start. -/
theorem issue?_eq_none_iff_mem_words {s : Symbol} : s.issue? = none ↔
    s.name.toList ∈ words ∧ s.name ∉ keywords ∧ ¬ StartsReserved s.name.toList := by
  rw [issue?_eq_none_iff, mem_words_iff, mem_keywords_iff, startsReserved_iff]
  constructor
  · rintro ⟨first, rest, hname, hdigit, hchars, hkeyword, hstart⟩
    have hparts : ∀ c ∈ first :: rest, IsPart c := fun c hc => isPart_iff.2 (hchars c hc)
    have hfirst : IsStart first := by
      refine isStart_iff.2 ⟨hparts first List.mem_cons_self, ?_⟩
      rw [isDigit_iff, hdigit]
      decide
    refine ⟨⟨first, rest, hname, hfirst, ?_⟩, hkeyword, by simp [hname, hstart]⟩
    exact fun c hc => hparts c (List.mem_cons_of_mem first hc)
  · rintro ⟨⟨first, rest, hname, hfirst, hrest⟩, hkeyword, hstart⟩
    obtain ⟨hpart, hdigit⟩ := isStart_iff.1 hfirst
    rw [isDigit_iff] at hdigit
    refine ⟨first, rest, hname, by simpa using hdigit, ?_, hkeyword, by simpa [hname] using hstart⟩
    rw [List.forall_mem_cons]
    exact ⟨isPart_iff.1 hpart, fun c hc => isPart_iff.1 (hrest c hc)⟩

theorem issue?_of_mem_keywords {s : Symbol} (h : s.name ∈ keywords) :
    s.issue? = some (.keyword s.name) := by
  have hall : ∀ word ∈ keywords, Symbol.issue? ⟨word⟩ = some (.keyword word) := by decide +kernel
  exact hall s.name h

end Symbol

open Identifier in
/-- The symbols that C takes are its identifiers but for the keywords and the names that are
reserved by their start. Of the reasons against any other symbol, each judged by itself, the first
is reported: that it is empty, starts with a digit, holds a character that no identifier has (the
leftmost, and never a digit), is a keyword, or has a reserved start. So a keyword is reported as
such also where it has one. A symbol that is refused is named as it is, with that reason. -/
theorem first_issue_reported (s : Symbol) :
    (s.issue? = none ↔
      s.name.toList ∈ words ∧ s.name ∉ keywords ∧ ¬ StartsReserved s.name.toList) ∧
    (∀ issue, s.issue? = some issue ↔ issue.HoldsOf s.name ∧
      ∀ other, SymbolIssue.HoldsOf s.name other → issue.rank ≤ other.rank) ∧
    (∀ c, s.issue? = some (.illegalChar c) → ¬ IsDigit c) ∧
    (s.name ∈ keywords → s.issue? = some (.keyword s.name)) ∧
    (s.validate = .ok () ↔ s.issue? = none) ∧
    (∀ e, s.validate = .error e ↔ ∃ issue, s.issue? = some issue ∧ e = .invalidSymbol s issue) := by
  refine ⟨Symbol.issue?_eq_none_iff_mem_words, fun issue => Symbol.issue?_eq_some_iff, ?_,
    Symbol.issue?_of_mem_keywords, Symbol.validate_eq_ok_iff,
    fun e => Symbol.validate_eq_error_iff⟩
  intro c hc hdigit
  obtain ⟨⟨before, after, -, -, hpart⟩, -⟩ := Symbol.issue?_eq_some_iff.1 hc
  exact hpart (.inr hdigit)

/-- A keyword with a reserved start, an illegal character at the start and one behind a digit. -/
theorem first_issue_reported_overlapping :
    Symbol.issue? ⟨"_Bool"⟩ = some (.keyword "_Bool") ∧
      SymbolIssue.HoldsOf "_Bool" .reservedStart ∧
      Symbol.issue? ⟨"é9"⟩ = some (.illegalChar 'é') ∧ ¬ Identifier.IsDigit 'é' ∧
      Symbol.issue? ⟨"9é"⟩ = some .leadingDigit := by
  obtain ⟨-, -, -, hkeyword, -⟩ := first_issue_reported ⟨"_Bool"⟩
  obtain ⟨-, -, hillegal, -⟩ := first_issue_reported ⟨"é9"⟩
  have hfirst : Symbol.issue? ⟨"é9"⟩ = some (.illegalChar 'é') := by decide
  refine ⟨hkeyword (by decide), ?_, hfirst, hillegal 'é' hfirst, by decide⟩
  exact .inr ⟨'B', by decide, by decide⟩

end BlobSource
