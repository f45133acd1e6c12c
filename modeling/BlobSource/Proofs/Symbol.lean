import BlobSource.Symbol.Derived
import Mathlib.Data.List.Infix

/-! Which symbols C takes, and that the name of the length is then one that it takes too. -/
namespace BlobSource.Symbol

/-- A symbol without an issue is an identifier that C leaves to its users. -/
theorem issue?_eq_none_iff (s : Symbol) :
    s.issue? = none ↔ ∃ first rest, s.name.toList = first :: rest ∧ first.isDigit = false ∧
      (∀ c ∈ first :: rest, isNameChar c = true) ∧ s.name ∉ cKeywords ∧
      hasReservedStart (first :: rest) = false := by
  unfold issue?
  split
  · simp_all
  · rename_i first rest heq
    constructor
    · intro h
      split at h
      · cases h
      split at h
      · cases h
      rename_i hd _ hfind
      have hname : ∀ c ∈ first :: rest, isNameChar c = true := by
        simpa [List.find?_eq_none] using hfind
      split at h
      · cases h
      split at h
      · cases h
      exact ⟨first, rest, heq, by simpa using hd, hname, ‹_›, by simp_all⟩
    · rintro ⟨first', rest', heq', hd, hname, hk, hres⟩
      obtain ⟨rfl, rfl⟩ : first = first' ∧ rest = rest' := by
        simpa using heq.symm.trans heq'
      have hfind : (first :: rest).find? (!isNameChar ·) = none := by
        rw [List.find?_eq_none]
        intro c hc
        simp [hname c hc]
      rw [hd, hfind]
      simp [hk, hres]

theorem validate_eq_error_iff {s : Symbol} {e : ConversionError} :
    s.validate = .error e ↔ ∃ issue, s.issue? = some issue ∧ e = .invalidSymbol s issue := by
  unfold validate
  cases s.issue? with
  | none => simp
  | some issue => simp [eq_comm]

theorem validate_eq_ok_iff {s : Symbol} : s.validate = .ok () ↔ s.issue? = none := by
  unfold validate
  cases s.issue? <;> simp

theorem toList_lengthName (s : Symbol) :
    s.lengthName.toList = s.name.toList ++ ['_', 'l', 'e', 'n'] := by
  simp [lengthName]

theorem lengthName_ne_name (s : Symbol) : s.lengthName ≠ s.name := by
  intro h
  have hl := congrArg (List.length ∘ String.toList) h
  simp [toList_lengthName] at hl

theorem lengthName_notMem_cKeywords (s : Symbol) : s.lengthName ∉ cKeywords := by
  have hk : ∀ k ∈ cKeywords, ¬ ['_', 'l', 'e', 'n'] <:+ k.toList := by decide
  intro h
  apply hk _ h
  rw [toList_lengthName]
  exact List.suffix_append _ _

theorem isNameChar_of_mem_lengthName {s : Symbol} (h : ∀ c ∈ s.name.toList, isNameChar c = true) :
    ∀ c ∈ s.lengthName.toList, isNameChar c = true := by
  intro c hc
  rw [toList_lengthName, List.mem_append] at hc
  rcases hc with hc | hc
  · exact h c hc
  · have hl : ∀ d ∈ ['_', 'l', 'e', 'n'], isNameChar d = true := List.all_eq_true.1 rfl
    exact hl c hc

/-- Behind two characters or more the ending of the length's name changes nothing about the start;
behind a single one it does. -/
theorem hasReservedStart_append_lengthEnd (first : Char) (rest : List Char) :
    hasReservedStart (first :: rest ++ ['_', 'l', 'e', 'n']) =
      (hasReservedStart (first :: rest) || decide (first :: rest = ['_'])) := by
  cases rest with
  | nil => simp [hasReservedStart, beq_eq_decide]
  | cons d rest => simp [hasReservedStart]

/-- If C takes a symbol, it also takes the name of the length; but behind `_` alone that name gets
a second underscore. -/
theorem issue?_lengthName {s : Symbol} (h : s.issue? = none) :
    (Symbol.mk s.lengthName).issue? = if s.name = "_" then some .reservedStart else none := by
  obtain ⟨first, rest, hname, hdigit, hchars, -, hstart⟩ := s.issue?_eq_none_iff.1 h
  have hreserved := hasReservedStart_append_lengthEnd first rest
  rw [hstart, Bool.false_or] at hreserved
  by_cases hunderscore : s.name = "_"
  · have hlength : s.lengthName = "__len" := congrArg (· ++ "_len") hunderscore
    rw [if_pos hunderscore, hlength]
    decide
  · have hlist : first :: rest ≠ ['_'] := by
      intro hlist
      exact hunderscore (String.toList_inj.1 (hname.trans hlist))
    rw [if_neg hunderscore, issue?_eq_none_iff]
    refine ⟨first, rest ++ ['_', 'l', 'e', 'n'], ?_, hdigit, ?_, s.lengthName_notMem_cKeywords, ?_⟩
    · exact s.toList_lengthName.trans (by rw [hname]; rfl)
    · intro c hc
      apply isNameChar_of_mem_lengthName (hname ▸ hchars)
      rw [toList_lengthName, hname]
      exact hc
    · simpa [hlist] using hreserved

end BlobSource.Symbol
