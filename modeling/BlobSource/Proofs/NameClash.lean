import BlobSource.Proofs.DerivedSymbol
import BlobSource.Proofs.ExportedNames

/-! When two listings export a common name, so that they cannot be linked together: said of the
symbols, of the texts that these are derived from, and of the paths. -/
namespace BlobSource

namespace Identifier

/-- Two texts have as many characters, and one by one these are the same or both joints. -/
structure Agree (a b : String) : Prop where
  length : a.toList.length = b.toList.length
  chars (index : ℕ) (ha : index < a.toList.length) (hb : index < b.toList.length) :
    a.toList[index] = b.toList[index] ∨ IsJoint a.toList[index] ∧ IsJoint b.toList[index]

/-- The second text agrees with the first, followed by a joint and `len`. -/
def AgreesWithLength (a b : String) : Prop :=
  ∃ joint, IsJoint joint ∧ Agree b (a ++ String.ofList [joint, 'l', 'e', 'n'])

theorem replaced_eq_iff {c d : Char} : replaced c = replaced d ↔ c = d ∨ IsJoint c ∧ IsJoint d := by
  constructor
  · intro h
    by_cases hc : IsJoint c
    · have hunderscore : replaced d = '_' := by
        rw [← h]
        exact replaced_eq_underscore_iff.2 hc
      exact .inr ⟨hc, replaced_eq_underscore_iff.1 hunderscore⟩
    · have hd : ¬ IsJoint d := by
        rw [← replaced_eq_underscore_iff, ← h, replaced_eq_underscore_iff]
        exact hc
      have hself : ∀ e, ¬ IsJoint e → replaced e = e := fun e he =>
        replaced_of_ne (fun hdash => he (.inr (.inl hdash))) (fun hdot => he (.inr (.inr hdot)))
      rw [hself c hc, hself d hd] at h
      exact .inl h
  · rintro (rfl | ⟨hc, hd⟩)
    · rfl
    · rw [replaced_eq_underscore_iff.2 hc, replaced_eq_underscore_iff.2 hd]

theorem sanitize_eq_iff {a b : String} : sanitize a = sanitize b ↔ Agree a b := by
  rw [← String.toList_inj, toList_sanitize_eq_map, toList_sanitize_eq_map, List.ext_getElem_iff]
  constructor
  · rintro ⟨hlength, hchars⟩
    constructor
    · simpa using hlength
    · intro index ha hb
      have hchar := hchars index (by simpa using ha) (by simpa using hb)
      rw [List.getElem_map, List.getElem_map] at hchar
      exact replaced_eq_iff.1 hchar
  · intro hagree
    constructor
    · simpa using hagree.length
    · intro index ha hb
      rw [List.length_map] at ha hb
      rw [List.getElem_map, List.getElem_map]
      exact replaced_eq_iff.2 (hagree.chars index ha hb)

theorem sanitize_append_length {joint : Char} (h : IsJoint joint) (a : String) :
    sanitize (a ++ String.ofList [joint, 'l', 'e', 'n']) = sanitize a ++ "_len" := by
  have hjoint := replaced_eq_underscore_iff.2 h
  have hrest : ['l', 'e', 'n'].map replaced = ['l', 'e', 'n'] := by decide
  apply String.toList_inj.1
  rw [toList_sanitize_eq_map, String.toList_append, String.toList_append, toList_sanitize_eq_map,
    String.toList_ofList, List.map_append, List.map_cons, hjoint, hrest]
  rfl

theorem sanitize_eq_append_iff {a b : String} :
    sanitize b = sanitize a ++ "_len" ↔ AgreesWithLength a b := by
  constructor
  · intro h
    have hjoint : IsJoint '_' := .inl rfl
    refine ⟨'_', hjoint, sanitize_eq_iff.1 ?_⟩
    rw [sanitize_append_length hjoint, h]
  · rintro ⟨joint, hjoint, hagree⟩
    rw [sanitize_eq_iff.2 hagree, sanitize_append_length hjoint]

end Identifier

namespace Symbol
open Identifier Reading

/-- The names that a listing under the symbol shows to others. -/
def exports (s : Symbol) : List String := [s.lengthName, s.name]

/-- A name is exported under both symbols. -/
def Clash (s t : Symbol) : Prop := ∃ name ∈ s.exports, name ∈ t.exports

instance (s t : Symbol) : Decidable (s.Clash t) :=
  inferInstanceAs (Decidable (∃ name ∈ s.exports, name ∈ t.exports))

theorem name_inj {s t : Symbol} : s.name = t.name ↔ s = t := by
  cases s
  cases t
  rw [mk.injEq]

theorem lengthName_inj {s t : Symbol} : s.lengthName = t.lengthName ↔ s = t := by
  rw [lengthName, lengthName, String.append_left_inj, name_inj]

theorem clash_iff {s t : Symbol} :
    s.Clash t ↔ s = t ∨ t.name = s.lengthName ∨ s.name = t.lengthName := by
  have hexports : ∀ (name : String) (u : Symbol),
      name ∈ u.exports ↔ name = u.lengthName ∨ name = u.name := by
    intro name u
    rw [exports, List.mem_pair]
  constructor
  · rintro ⟨name, hs, ht⟩
    rw [hexports] at hs ht
    rcases hs with rfl | rfl <;> rcases ht with ht | ht
    · exact .inl (lengthName_inj.1 ht)
    · exact .inr (.inl ht.symm)
    · exact .inr (.inr ht)
    · exact .inl (name_inj.1 ht)
  · rintro (rfl | h | h)
    · exact ⟨s.name, (hexports _ _).2 (.inr rfl), (hexports _ _).2 (.inr rfl)⟩
    · exact ⟨s.lengthName, (hexports _ _).2 (.inl rfl), (hexports _ _).2 (.inr h.symm)⟩
    · exact ⟨s.name, (hexports _ _).2 (.inr rfl), (hexports _ _).2 (.inl h)⟩

theorem clash_sanitize_iff {a b : String} :
    Clash ⟨sanitize a⟩ ⟨sanitize b⟩ ↔
      Agree a b ∨ AgreesWithLength a b ∨ AgreesWithLength b a := by
  rw [clash_iff, mk.injEq, sanitize_eq_iff, ← sanitize_eq_append_iff, ← sanitize_eq_append_iff]
  rfl

end Symbol

open Identifier Reading in
/-- Two texts give the same symbol just if they agree up to which of the joints they have. Different
symbols export a common name just if one of them is the name of the other's length; a symbol itself is
no such name for itself. So two paths give symbols that clash just if their final segments agree so,
or one with the other followed by a joint and `len`. What clashes are the names in the listings
under the symbols, of any sources and in any form. -/
theorem exported_names_clash :
    (∀ a b : String, sanitize a = sanitize b ↔ Agree a b) ∧
    (∀ s t : Symbol, s ≠ t → (s.Clash t ↔ t.name = s.lengthName ∨ s.name = t.lengthName)) ∧
    (∀ s : Symbol, s.name ≠ s.lengthName) ∧
    (∀ (p q : Path) (name other : Bytes),
      p.fileName? = some name → q.fileName? = some other →
      let a := Utf8.decodeLossy name
      let b := Utf8.decodeLossy other
      ∃ s t : Symbol, Symbol.ofPath p = .ok s ∧ Symbol.ofPath q = .ok t ∧
        (s.Clash t ↔ Agree a b ∨ AgreesWithLength a b ∨ AgreesWithLength b a)) ∧
    (∀ (c d : Conversion) (p q : Path) (s t : Symbol) (before later : Store) (m n : ℕ)
      (text other : Bytes),
      c.Produces p s before m text → d.Produces q t later n other →
      s.issue? = none → t.issue? = none → c.Quotes p → d.Quotes q →
      ∃ names others, exportedNames? c.form text = some names ∧
        exportedNames? d.form other = some others ∧
        ((∃ name ∈ names, name ∈ others) ↔ s.Clash t)) := by
  refine ⟨fun a b => sanitize_eq_iff, ?_, ?_, ?_, ?_⟩
  · intro s t hne
    rw [Symbol.clash_iff]
    exact or_iff_right hne
  · intro s
    exact s.lengthName_ne_name.symm
  · intro p q name other hp hq a b
    exact ⟨_, _, Symbol.ofPath_of_fileName? hp, Symbol.ofPath_of_fileName? hq,
      Symbol.clash_sanitize_iff⟩
  · intro c d p q s t before later m n text other hs ht hsissue htissue hsquotes htquotes
    have hnames := hs.exportedNames? hsissue hsquotes
    have hothers := ht.exportedNames? htissue htquotes
    exact ⟨s.exports, t.exports, hnames, hothers, Iff.rfl⟩

open Identifier Reading in
/-- A file that is named like the length of another, and two names that differ in a joint. -/
theorem exported_names_clash_suffixed :
    Agree "my-logo" "my.logo" ∧ Symbol.Clash ⟨"logo"⟩ ⟨"logo_len"⟩ ∧
      (∃ s t, Symbol.ofPath (.ofText "assets/logo") = .ok s ∧
        Symbol.ofPath (.ofText "logo.len") = .ok t ∧ s.Clash t) ∧
      ∃ text other names others, exportedNames? .array text = some names ∧
        exportedNames? .assembly other = some others ∧ ∃ name ∈ names, name ∈ others := by
  obtain ⟨hsanitize, hclash, -, hpaths, hlistings⟩ := exported_names_clash
  have hagree : Agree "my-logo" "my.logo" := (hsanitize _ _).1 (by decide)
  have hsymbols : Symbol.Clash ⟨"logo"⟩ ⟨"logo_len"⟩ := (hclash _ _ (by decide)).2 (.inl rfl)
  obtain ⟨s, t, hs, ht, hclashes⟩ := hpaths (.ofText "assets/logo") (.ofText "logo.len")
    (Utf8.encode "logo") (Utf8.encode "logo.len") (by decide +kernel) (by decide +kernel)
  have hlength : AgreesWithLength "logo" "logo.len" := ⟨'.', .inr (.inr rfl), (hsanitize _ _).1 rfl⟩
  rw [Utf8.decodeLossy_encode, Utf8.decodeLossy_encode] at hclashes
  let file : Node := .file (.ofBytes [1, 2, 3])
  let store : Store := ⟨.single (some file) [[0x66]], []⟩
  have hf : store.find ⟨[0x66]⟩ = .ok ([[0x66]], file) := rfl
  have hp : (Path.mk [0x66]).text? = some "f" := by decide
  obtain ⟨r, hr, hrsource, hrsymbol, -, -, hrstore, -⟩ :=
    Rendered.exists_of_file (c := .ofForm .array) rfl hf ⟨"logo"⟩
  have htext := r.produces
  rw [hr, hrsource, hrsymbol, hrstore] at htext
  obtain ⟨other, hother⟩ :=
    Conversion.exists_produces_assembly (c := .ofForm .assembly) rfl hf (by decide) hp ⟨"logo_len"⟩
  have hquotes : (Conversion.ofForm .assembly).Quotes ⟨[0x66]⟩ := by
    intro _ path hpath
    obtain rfl := Option.some.inj (hp.symm.trans hpath)
    decide
  obtain ⟨names, others, hnames, hothers, hshared⟩ :=
    hlistings _ _ _ _ _ _ _ _ _ _ _ _ htext hother (by decide) (by decide) nofun hquotes
  exact ⟨hagree, hsymbols, ⟨s, t, hs, ht, hclashes.2 (.inr (.inl hlength))⟩, _, _, names, others,
    hnames, hothers, hshared.2 hsymbols⟩

end BlobSource
