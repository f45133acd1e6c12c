import BlobSource.Proofs.ExportedNames
import Mathlib.Logic.Function.Basic

/-! The two types that an array listing takes from its headers, and the names that it declares: when
it declares one of its own types once more, which C does not take. -/
namespace BlobSource
open Reading

namespace Reading

def Declaration.type : Declaration → String
  | number type _ _ => type
  | bytes type _ _ => type

/-- What a name stands for outside of functions. -/
inductive Meaning where
  | type
  | constant (d : Declaration)
  deriving DecidableEq, Repr

abbrev Scope := String → Option Meaning

namespace Scope
variable {scope : Scope} {d : Declaration} {ds : List Declaration} {name : String}

/-- The scope behind a declaration, whatever its name stood for before. -/
def extend (scope : Scope) (d : Declaration) : Scope :=
  Function.update scope d.name (some (.constant d))

/-- Whether a constant is declared under the name of a type. C does not compile that: outside of
functions no name has two meanings. -/
def Redeclares : Scope → List Declaration → Prop
  | _, [] => False
  | scope, d :: ds => scope d.name = some .type ∨ Redeclares (scope.extend d) ds

theorem extend_of_ne (h : name ≠ d.name) : scope.extend d name = scope name :=
  Function.update_of_ne h ..

theorem foldl_extend_of_notMem (h : name ∉ ds.map Declaration.name) :
    ds.foldl extend scope name = scope name := by
  induction ds generalizing scope with
  | nil => rfl
  | cons d ds ih =>
    rw [List.map_cons, List.mem_cons, not_or] at h
    rw [List.foldl_cons, ih h.2, extend_of_ne h.1]

theorem redeclares_iff (h : (ds.map Declaration.name).Nodup) :
    scope.Redeclares ds ↔ ∃ d ∈ ds, scope d.name = some .type := by
  induction ds generalizing scope with
  | nil => simp [Redeclares]
  | cons d ds ih =>
    rw [List.map_cons, List.nodup_cons] at h
    obtain ⟨hnew, hnodup⟩ := h
    have hsame : ∀ e ∈ ds, scope.extend d e.name = scope e.name := by
      intro e he
      apply extend_of_ne
      rintro heq
      exact hnew (heq ▸ List.mem_map_of_mem he)
    rw [Redeclares, ih hnodup]
    simp only [List.mem_cons, exists_eq_or_imp]
    refine or_congr Iff.rfl (exists_congr fun e => and_congr_right fun he => ?_)
    rw [hsame e he]

end Scope
end Reading

namespace Symbol
variable {symbol : Symbol} {bytes : Bytes}

/-- What an array listing under the symbol declares, in order. -/
def constants (symbol : Symbol) (bytes : Bytes) : List Declaration :=
  [.number "size_t" symbol.lengthName bytes.length, .bytes "uint8_t" symbol.name bytes]

theorem type_ne_lengthName : ∀ d ∈ symbol.constants bytes, d.type ≠ symbol.lengthName := by
  have htypes : ∀ type ∈ ["size_t", "uint8_t"], ¬ ['_', 'l', 'e', 'n'] <:+ type.toList := by decide
  intro d hd htype
  have hmem : d.type ∈ ["size_t", "uint8_t"] := List.mem_map_of_mem (f := Declaration.type) hd
  apply htypes d.type hmem
  rw [htype, toList_lengthName]
  exact List.suffix_append _ _

theorem forall_type_ne_iff :
    (∀ d ∈ symbol.constants bytes, ∀ e ∈ symbol.constants bytes, d.type ≠ e.name) ↔
      symbol.name ≠ "size_t" ∧ symbol.name ≠ "uint8_t" := by
  have hlength : ∀ d ∈ symbol.constants bytes, d.type ≠ symbol.lengthName := type_ne_lengthName
  have hsize : "size_t" ≠ symbol.lengthName :=
    hlength (.number "size_t" symbol.lengthName bytes.length) (by simp [constants])
  have hbyte : "uint8_t" ≠ symbol.lengthName :=
    hlength (.bytes "uint8_t" symbol.name bytes) (by simp [constants])
  simp [constants, Declaration.type, Declaration.name, hsize, hbyte, eq_comm]

/-- Of the names that are declared, only the last can be that of a type, and behind it none is used
any more. So the types stay what they are as long as they are used. -/
theorem extend_type {before rest : List Declaration}
    (h : symbol.constants bytes = before ++ rest) (scope : Scope) :
    ∀ d ∈ rest, before.foldl Scope.extend scope d.type = scope d.type := by
  intro d hd
  have hmem : d ∈ symbol.constants bytes := by
    rw [h]
    exact List.mem_append_right before hd
  have hlength : d.type ≠ symbol.lengthName := type_ne_lengthName d hmem
  apply Scope.foldl_extend_of_notMem
  cases before with
  | nil => simp
  | cons first before =>
    obtain ⟨rfl, hrest⟩ := List.cons.inj h
    cases before with
    | nil => simpa [Declaration.name] using hlength
    | cons second before =>
      obtain ⟨-, hnone⟩ := List.cons.inj hrest
      rw [(List.append_eq_nil_iff.1 hnone.symm).2] at hd
      cases hd

theorem redeclares_constants_iff {scope : Scope} : scope.Redeclares (symbol.constants bytes) ↔
    scope symbol.lengthName = some .type ∨ scope symbol.name = some .type := by
  have hnodup : ((symbol.constants bytes).map Declaration.name).Nodup := by
    simpa [constants, Declaration.name] using symbol.lengthName_ne_name
  rw [Scope.redeclares_iff hnodup]
  simp [constants, Declaration.name]

end Symbol

theorem Conversion.Produces.exists_constants {c : Conversion} {source : Path} {symbol : Symbol}
    {s : Store} {n : ℕ} {text : Bytes} (h : c.Produces source symbol s n text)
    (hc : c.form = .array) (hs : symbol.issue? = none) :
    ∃ bytes : Bytes, bytes.length = n ∧
      readDeclarations? text = some (["stddef.h", "stdint.h"], symbol.constants bytes) := by
  obtain ⟨rows, hne, rfl, htext⟩ := h.exists_rows hc
  refine ⟨rows.flatten, rfl, ?_⟩
  rw [htext, readDeclarations?_arrayText hs _ hne]
  rfl

theorem Conversion.exists_produces_array {c : Conversion} (hc : c.form = .array) {s : Store}
    {source : Path} {location : Location} {content : Content}
    (hf : s.find source = .ok (location, .file content)) {symbol : Symbol}
    (hs : symbol.issue? = none) :
    ∃ text, c.Produces source symbol s content.toList.length text ∧
      readDeclarations? text =
        some (["stddef.h", "stdint.h"], symbol.constants content.toList) := by
  obtain ⟨r, rfl, rfl, rfl, -, -, rfl, hbytes⟩ := Rendered.exists_of_file hc hf symbol
  obtain ⟨-, -, -, hlength, -⟩ := Rendered.exists_rows hc
  refine ⟨r.written, ?_, ?_⟩
  · rw [← hbytes, ← hlength]
    exact r.produces
  · rw [Rendered.read_array hc hs, hbytes]
    rfl

/-- Under a symbol that has no issue, an array listing uses two types of its headers. No type gets
another meaning before its last use, and the name of the length is never spelled like one. So no
name is spelled like a type of the listing if and only if the symbol is neither of the two words. The
listing declares a type of its headers once more if and only if the name of the length or the symbol
is one; so it does under the two words. Every content has such a listing. -/
theorem own_types_kept {symbol : Symbol} (hs : symbol.issue? = none) :
    (∀ (c : Conversion) (source : Path) (s : Store) (n : ℕ) (text : Bytes),
      c.form = .array → c.Produces source symbol s n text →
      ∃ bytes : Bytes, bytes.length = n ∧
        readDeclarations? text = some (["stddef.h", "stdint.h"], symbol.constants bytes) ∧
        (∀ d ∈ symbol.constants bytes, d.type ≠ symbol.lengthName) ∧
        ((∀ d ∈ symbol.constants bytes, ∀ e ∈ symbol.constants bytes, d.type ≠ e.name) ↔
          symbol.name ≠ "size_t" ∧ symbol.name ≠ "uint8_t") ∧
        (∀ (scope : Scope) (before rest : List Declaration),
          symbol.constants bytes = before ++ rest →
          ∀ d ∈ rest, before.foldl Scope.extend scope d.type = scope d.type) ∧
        ∀ scope : Scope, scope "size_t" = some .type → scope "uint8_t" = some .type →
          (scope.Redeclares (symbol.constants bytes) ↔
            scope symbol.lengthName = some .type ∨ scope symbol.name = some .type) ∧
          (symbol.name = "size_t" ∨ symbol.name = "uint8_t" →
            scope.Redeclares (symbol.constants bytes))) ∧
    (∀ (c : Conversion) (source : Path) (s : Store) (location : Location) (content : Content),
      c.form = .array → s.find source = .ok (location, .file content) →
      ∃ text, c.Produces source symbol s content.toList.length text ∧
        readDeclarations? text =
          some (["stddef.h", "stdint.h"], symbol.constants content.toList)) := by
  constructor
  · intro c source s n text hc h
    obtain ⟨bytes, hn, hread⟩ := h.exists_constants hc hs
    refine ⟨bytes, hn, hread, Symbol.type_ne_lengthName, Symbol.forall_type_ne_iff, ?_, ?_⟩
    · intro scope before rest hparts
      exact Symbol.extend_type hparts scope
    · intro scope hsize hbyte
      refine ⟨Symbol.redeclares_constants_iff, ?_⟩
      intro hname
      refine Symbol.redeclares_constants_iff.2 (.inr ?_)
      rcases hname with hname | hname
      · rw [hname, hsize]
      · rw [hname, hbyte]
  · intro c source s location content hc hf
    exact Conversion.exists_produces_array hc hf hs

/-- The scope in which the two types of a listing stand for types, and nothing else for anything. -/
def Listing.ownScope : Scope := fun name =>
  if name = "size_t" ∨ name = "uint8_t" then some .type else none

/-- A symbol that is named like the length under one of the two types is free. -/
theorem own_types_kept_suffixed :
    let s : Store := ⟨.single (some (.file (.ofBytes [1, 2, 3]))) [[0x66]], []⟩
    let symbol : Symbol := ⟨"uint8_t_len"⟩
    symbol.issue? = none ∧ ∃ text,
      Conversion.default.Produces ⟨[0x66]⟩ symbol s 3 text ∧
      (∀ d ∈ symbol.constants [1, 2, 3], ∀ e ∈ symbol.constants [1, 2, 3], d.type ≠ e.name) ∧
      ¬ Listing.ownScope.Redeclares (symbol.constants [1, 2, 3]) := by
  intro s symbol
  have hf : s.find ⟨[0x66]⟩ = .ok ([[0x66]], .file (.ofBytes [1, 2, 3])) := rfl
  have hs : symbol.issue? = none := by decide
  obtain ⟨hlisting, hexists⟩ := own_types_kept hs
  obtain ⟨text, htext, hread⟩ := hexists .default _ s _ _ rfl hf
  obtain ⟨bytes, -, hagain, -, hfree, -, hscope⟩ := hlisting _ _ _ _ _ rfl htext
  have hlisted : symbol.constants bytes = symbol.constants [1, 2, 3] :=
    congrArg Prod.snd (Option.some.inj (hagain.symm.trans hread))
  rw [hlisted] at hfree hscope
  refine ⟨hs, text, htext, hfree.2 (by decide), ?_⟩
  rw [(hscope Listing.ownScope rfl rfl).1]
  decide

/-- Both types of the listing pass the check of a strict step. The step succeeds, and the file that
it leaves declares that type once more. -/
theorem own_types_declared :
    let s : Store := ⟨.single (some (.file (.ofBytes [1, 2, 3]))) [[0x66]], []⟩
    let headers := "#include <stddef.h>\n#include <stdint.h>\n\n"
    let row := "    0x01, 0x02, 0x03,\n\x7d;\n"
    let size := headers ++ "const size_t size_t_len = 3;\nconst uint8_t size_t[] = \x7b\n" ++ row
    let byte := headers ++ "const size_t uint8_t_len = 3;\nconst uint8_t uint8_t[] = \x7b\n" ++ row
    let built (name : String) : Built :=
      BuildStep.run ⟨.ofText "f", .array, some name, some (.ofText "."), true⟩ ⟨none, none⟩ s
    ((Symbol.mk "size_t").issue? = none ∧ (built "size_t").result = .ok (.ofText "./size_t.c") ∧
      (built "size_t").store.content? (.ofText "./size_t.c") = some (.ofBytes (Utf8.encode size)) ∧
      readDeclarations? (Utf8.encode size) = some (["stddef.h", "stdint.h"],
        [.number "size_t" "size_t_len" 3, .bytes "uint8_t" "size_t" [1, 2, 3]]) ∧
      Listing.ownScope.Redeclares
        [.number "size_t" "size_t_len" 3, .bytes "uint8_t" "size_t" [1, 2, 3]]) ∧
    ((Symbol.mk "uint8_t").issue? = none ∧ (built "uint8_t").result = .ok (.ofText "./uint8_t.c") ∧
      (built "uint8_t").store.content? (.ofText "./uint8_t.c") =
        some (.ofBytes (Utf8.encode byte)) ∧
      readDeclarations? (Utf8.encode byte) = some (["stddef.h", "stdint.h"],
        [.number "size_t" "uint8_t_len" 3, .bytes "uint8_t" "uint8_t" [1, 2, 3]]) ∧
      Listing.ownScope.Redeclares
        [.number "size_t" "uint8_t_len" 3, .bytes "uint8_t" "uint8_t" [1, 2, 3]]) := by
  intro s headers row size byte built
  have hread : ∀ symbol : Symbol, symbol.issue? = none →
      readDeclarations? (Utf8.encode (arrayText symbol 3 [[1, 2, 3]])) =
        some (["stddef.h", "stdint.h"], symbol.constants [1, 2, 3]) := fun symbol hs =>
    readDeclarations?_arrayText hs 3 (by decide)
  have hredeclared : ∀ symbol : Symbol, Listing.ownScope symbol.name = some .type →
      Listing.ownScope.Redeclares (symbol.constants [1, 2, 3]) := fun symbol htype =>
    Symbol.redeclares_constants_iff.2 (.inr htype)
  have hsize : size = arrayText ⟨"size_t"⟩ 3 [[1, 2, 3]] := by decide +kernel
  have hbyte : byte = arrayText ⟨"uint8_t"⟩ 3 [[1, 2, 3]] := by decide +kernel
  refine ⟨⟨by decide, by decide +kernel, by decide +kernel, ?_, hredeclared ⟨"size_t"⟩ rfl⟩,
    ⟨by decide, by decide +kernel, by decide +kernel, ?_, hredeclared ⟨"uint8_t"⟩ rfl⟩⟩
  · rw [hsize]
    exact hread ⟨"size_t"⟩ (by decide)
  · rw [hbyte]
    exact hread ⟨"uint8_t"⟩ (by decide)

end BlobSource
