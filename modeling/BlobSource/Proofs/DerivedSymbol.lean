import BlobSource.Proofs.Destination
import BlobSource.Proofs.Identifier
import BlobSource.Proofs.Utf8.Exactness

/-! The symbol that a path gives, said of the path's bytes, and which file names give one that C
takes. -/
namespace BlobSource

namespace Path

theorem pieces_eq_splitOn (bs : Bytes) : pieces bs = bs.splitOn slash := by
  induction bs with
  | nil => rfl
  | cons b bs ih =>
    rw [List.splitOn_cons_eq_if_modifyHead, ← ih]
    by_cases hb : b = slash <;> simp [pieces, cut, hb]

theorem segments_append_flatten (bs : Bytes) {ends : List Bytes}
    (h : ∀ e ∈ ends, e = [slash] ∨ e = slash :: currentName) :
    (Path.mk (bs ++ ends.flatten)).segments = (Path.mk bs).segments := by
  induction ends generalizing bs with
  | nil => simp
  | cons e ends ih =>
    have hrest := ih (bs ++ e) fun other ho => h other (List.mem_cons_of_mem e ho)
    rw [List.flatten_cons, ← List.append_assoc, hrest]
    rcases h e List.mem_cons_self with rfl | rfl
    · rw [segments_append_slash, segments_empty, List.append_nil]
    · rw [segments_append_slash]
      exact List.append_nil _

theorem fileName?_eq_none_iff {p : Path} :
    p.fileName? = none ↔ p.segments = [] ∨ p.segments.getLast? = some parentName := by
  rw [fileName?, ← List.getLast?_eq_none_iff]
  cases p.segments.getLast? <;> simp

end Path

namespace Identifier

/-- The characters that are an underscore in a derived symbol. -/
def IsJoint (c : Char) : Prop := c = '_' ∨ c = '-' ∨ c = '.'

/-- What a character of a file name is in the symbol. -/
def replaced (c : Char) : Char := if c = '-' ∨ c = '.' then '_' else c

/-- The texts from which a symbol is derived that C takes, by their characters as they stand. Only
the keywords are judged on what is derived, as some of them are made by replacing. -/
structure NamesSymbol (text : String) : Prop where
  chars : ∀ c ∈ text.toList, IsPart c ∨ c = '-' ∨ c = '.'
  first : ∀ c, [c] <+: text.toList → ¬ IsDigit c
  second : ∀ c d, [c, d] <+: text.toList → IsJoint c → ¬ IsJoint d ∧ ¬ IsUpper d
  keyword : sanitize text ∉ keywords

theorem replaced_of_ne {c : Char} (hdash : c ≠ '-') (hdot : c ≠ '.') : replaced c = c :=
  if_neg (not_or.2 ⟨hdash, hdot⟩)

theorem replaced_cases (c : Char) :
    (c = '-' ∨ c = '.') ∧ replaced c = '_' ∨ c ≠ '-' ∧ c ≠ '.' ∧ replaced c = c := by
  by_cases h : c = '-' ∨ c = '.'
  · exact .inl ⟨h, if_pos h⟩
  · obtain ⟨hdash, hdot⟩ := not_or.1 h
    exact .inr ⟨hdash, hdot, replaced_of_ne hdash hdot⟩

theorem isPart_replaced_iff {c : Char} : IsPart (replaced c) ↔ IsPart c ∨ c = '-' ∨ c = '.' := by
  obtain ⟨hmark, hc⟩ | ⟨hdash, hdot, hc⟩ := replaced_cases c
  · rw [hc]
    exact ⟨fun _ => .inr hmark, fun _ => .inl (.inr (.inr rfl))⟩
  · rw [hc]
    simp [hdash, hdot]

theorem isDigit_replaced_iff {c : Char} : IsDigit (replaced c) ↔ IsDigit c := by
  obtain ⟨rfl | rfl, hc⟩ | ⟨-, -, hc⟩ := replaced_cases c
  · rw [hc]
    decide
  · rw [hc]
    decide
  · rw [hc]

theorem isUpper_replaced_iff {c : Char} : IsUpper (replaced c) ↔ IsUpper c := by
  obtain ⟨rfl | rfl, hc⟩ | ⟨-, -, hc⟩ := replaced_cases c
  · rw [hc]
    decide
  · rw [hc]
    decide
  · rw [hc]

theorem replaced_eq_underscore_iff {c : Char} : replaced c = '_' ↔ IsJoint c := by
  obtain ⟨hmark, hc⟩ | ⟨hdash, hdot, hc⟩ := replaced_cases c
  · exact ⟨fun _ => .inr hmark, fun _ => hc⟩
  · rw [hc]
    simp [IsJoint, hdash, hdot]

theorem notMem_map_replaced {c : Char} (h : c = '-' ∨ c = '.') (word : List Char) :
    c ∉ word.map replaced := by
  intro hmem
  obtain ⟨d, -, rfl⟩ := List.mem_map.1 hmem
  obtain ⟨-, hd⟩ | ⟨hdash, hdot, hd⟩ := replaced_cases d
  · rw [hd] at h
    exact absurd h (by decide)
  · rw [hd] at h
    exact h.elim hdash hdot

theorem singleton_isPrefix_map_iff {word : List Char} {c : Char} :
    [c] <+: word.map replaced ↔ ∃ a, [a] <+: word ∧ replaced a = c := by
  cases word with
  | nil => simp
  | cons a word => simp [List.cons_prefix_cons, eq_comm]

theorem pair_isPrefix_map_iff {word : List Char} {c d : Char} :
    [c, d] <+: word.map replaced ↔ ∃ a b, [a, b] <+: word ∧ replaced a = c ∧ replaced b = d := by
  match word with
  | [] => simp
  | [a] => simp [List.cons_prefix_cons]
  | a :: b :: word => simp [List.cons_prefix_cons, eq_comm]

theorem startsReserved_map_replaced_iff {word : List Char} : StartsReserved (word.map replaced) ↔
    ∃ c d, [c, d] <+: word ∧ IsJoint c ∧ (IsJoint d ∨ IsUpper d) := by
  constructor
  · rintro (h | ⟨e, he, h⟩)
    · obtain ⟨c, d, hstart, hc, hd⟩ := pair_isPrefix_map_iff.1 h
      exact ⟨c, d, hstart, replaced_eq_underscore_iff.1 hc, .inl (replaced_eq_underscore_iff.1 hd)⟩
    · obtain ⟨c, d, hstart, hc, rfl⟩ := pair_isPrefix_map_iff.1 h
      exact ⟨c, d, hstart, replaced_eq_underscore_iff.1 hc, .inr (isUpper_replaced_iff.1 he)⟩
  · rintro ⟨c, d, hstart, hc, hd | hd⟩
    · exact .inl (pair_isPrefix_map_iff.2 ⟨c, d, hstart, replaced_eq_underscore_iff.2 hc,
        replaced_eq_underscore_iff.2 hd⟩)
    · exact .inr ⟨replaced d, isUpper_replaced_iff.2 hd, pair_isPrefix_map_iff.2
        ⟨c, d, hstart, replaced_eq_underscore_iff.2 hc, rfl⟩⟩

theorem toList_sanitize_eq_map (text : String) :
    (sanitize text).toList = text.toList.map replaced :=
  toList_sanitize text

theorem sanitize_mem_words_iff {text : String} (h : text ≠ "") :
    (sanitize text).toList ∈ words ↔
      (∀ c ∈ text.toList, IsPart c ∨ c = '-' ∨ c = '.') ∧
        ∀ c, [c] <+: text.toList → ¬ IsDigit c := by
  have hne : text.toList ≠ [] := fun hnil => h (String.toList_inj.1 hnil)
  rw [mem_words_iff_forall, toList_sanitize_eq_map, List.forall_mem_map]
  simp only [isPart_replaced_iff, singleton_isPrefix_map_iff]
  constructor
  · rintro ⟨-, hchars, hfirst⟩
    exact ⟨hchars, fun c hc hdigit =>
      hfirst (replaced c) ⟨c, hc, rfl⟩ (isDigit_replaced_iff.2 hdigit)⟩
  · rintro ⟨hchars, hfirst⟩
    refine ⟨by simpa using hne, hchars, ?_⟩
    rintro _ ⟨a, ha, rfl⟩ hdigit
    exact hfirst a ha (isDigit_replaced_iff.1 hdigit)

theorem issue?_sanitize_eq_none_iff {text : String} (h : text ≠ "") :
    (Symbol.mk (sanitize text)).issue? = none ↔ NamesSymbol text := by
  rw [Symbol.issue?_eq_none_iff_mem_words, sanitize_mem_words_iff h, toList_sanitize_eq_map,
    startsReserved_map_replaced_iff]
  constructor
  · rintro ⟨⟨hchars, hfirst⟩, hkeyword, hstart⟩
    exact {
      chars := hchars
      first := hfirst
      second := fun c d hpair hc =>
        ⟨fun hd => hstart ⟨c, d, hpair, hc, .inl hd⟩, fun hd => hstart ⟨c, d, hpair, hc, .inr hd⟩⟩
      keyword := hkeyword }
  · intro hnames
    refine ⟨⟨hnames.chars, hnames.first⟩, hnames.keyword, ?_⟩
    rintro ⟨c, d, hpair, hc, hd⟩
    obtain ⟨hjoint, hupper⟩ := hnames.second c d hpair hc
    exact hd.elim hjoint hupper

theorem replacement_notMem_of_issue? {text : String}
    (h : (Symbol.mk (sanitize text)).issue? = none) : '\uFFFD' ∉ text.toList := by
  intro hmem
  obtain ⟨hwords, -⟩ := Symbol.issue?_eq_none_iff_mem_words.1 h
  obtain ⟨-, hparts, -⟩ := mem_words_iff_forall.1 hwords
  rw [toList_sanitize_eq_map] at hparts
  have hpart := hparts _ (List.mem_map_of_mem hmem)
  rw [replaced_of_ne (by decide) (by decide), isPart_iff] at hpart
  exact absurd hpart (by decide)

theorem issue?_sanitize_decodeLossy_eq_none_iff {name : Bytes} (h : name ≠ []) :
    (Symbol.mk (sanitize (Utf8.decodeLossy name))).issue? = none ↔
      ∃ text, name = Utf8.encode text ∧ NamesSymbol text := by
  have hissue := issue?_sanitize_eq_none_iff (Utf8.decodeLossy_ne_empty h)
  constructor
  · intro hnone
    have htext := Utf8.eq_encode_of_notMem_decodeLossy (replacement_notMem_of_issue? hnone)
    exact ⟨Utf8.decodeLossy name, htext, hissue.1 hnone⟩
  · rintro ⟨text, rfl, htext⟩
    rw [Utf8.decodeLossy_encode] at hissue ⊢
    exact hissue.2 htext

end Identifier

namespace Symbol
open Identifier

theorem ofPath_of_fileName? {p : Path} {name : Bytes} (h : p.fileName? = some name) :
    ofPath p = .ok ⟨sanitize (Utf8.decodeLossy name)⟩ := by
  rw [ofPath, h]

theorem ofPath_eq_error_iff {p : Path} {e : ConversionError} :
    ofPath p = .error e ↔ e = .noFileName p ∧ p.fileName? = none := by
  unfold ofPath
  cases p.fileName? <;> simp [eq_comm]

theorem ofPath_of_getLast? {p q : Path} {name : Bytes} (h : p.fileName? = some name)
    (hq : q.segments.getLast? = p.segments.getLast?) : ofPath q = ofPath p := by
  have hname : q.fileName? = some name := by
    rw [Path.fileName?_eq_some_iff, hq]
    exact Path.fileName?_eq_some_iff.1 h
  rw [ofPath_of_fileName? h, ofPath_of_fileName? hname]

theorem ofPath_append_slash {p : Path} {name : Bytes} (h : p.fileName? = some name)
    (directory : Bytes) : ofPath ⟨directory ++ Path.slash :: p.bytes⟩ = ofPath p := by
  obtain ⟨hlast, -⟩ := Path.fileName?_eq_some_iff.1 h
  refine ofPath_of_getLast? h ?_
  rw [Path.segments_append_slash, List.getLast?_append, hlast, Option.some_or]

theorem ofPath_join {p : Path} {name : Bytes} (h : p.fileName? = some name) (directory : Path) :
    ofPath (directory.join p) = ofPath p := by
  obtain ⟨hlast, -⟩ := Path.fileName?_eq_some_iff.1 h
  cases habsolute : p.isAbsolute with
  | true => rw [Path.join, if_pos habsolute]
  | false =>
    refine ofPath_of_getLast? h ?_
    rw [Path.segments_join directory habsolute, List.getLast?_append, hlast, Option.some_or]

theorem ofPath_append_flatten {p : Path} {name : Bytes} (h : p.fileName? = some name)
    {ends : List Bytes} (hends : ∀ e ∈ ends, e = [Path.slash] ∨ e = Path.slash :: Path.currentName) :
    ofPath ⟨p.bytes ++ ends.flatten⟩ = ofPath p := by
  refine ofPath_of_getLast? h ?_
  rw [Path.segments_append_flatten p.bytes hends]

theorem ne_empty_of_ofPath {p : Path} {symbol : Symbol} (h : ofPath p = .ok symbol) :
    symbol.name ≠ "" := by
  obtain ⟨name, hname, hsymbol⟩ := exists_of_ofPath h
  have hsegment := Path.isSegment_of_mem_segments (Path.mem_segments_of_fileName? hname)
  intro hempty
  have hlength := length_sanitize (Utf8.decodeLossy name)
  rw [← hsymbol, hempty] at hlength
  refine Utf8.decodeLossy_ne_empty hsegment.1 (String.toList_inj.1 ?_)
  exact List.eq_nil_of_length_eq_zero hlength.symm

theorem notMem_of_ofPath {p : Path} {symbol : Symbol} (h : ofPath p = .ok symbol) {c : Char}
    (hc : c ∈ ['/', '-', '.']) : c ∉ symbol.name.toList := by
  rcases List.mem_cons.1 hc with rfl | hmark
  · exact slash_notMem_of_ofPath h
  · obtain ⟨name, -, hsymbol⟩ := exists_of_ofPath h
    rw [hsymbol, toList_sanitize_eq_map]
    exact notMem_map_replaced (List.mem_pair.1 hmark) _

end Symbol

open Identifier in
/-- A path gives no symbol if, split at its slashes and without what is empty or a single dot, it has
no part left or ends with the way up. Otherwise the symbol is the last part, decoded and with an
underscore for each dash and dot. A directory in front and slashes and dots behind make no
difference to it; it is never empty and holds no slash, dash or dot. C takes it just if the part is
a text that meets the conditions for that, and so never if the part is no text. -/
theorem derived_symbol_usable (p : Path) :
    let segments := (p.bytes.splitOn Path.slash).filter fun s => s ≠ [] ∧ s ≠ Path.currentName
    (∀ e, Symbol.ofPath p = .error e ↔
      e = .noFileName p ∧ (segments = [] ∨ segments.getLast? = some Path.parentName)) ∧
    ∀ name, segments.getLast? = some name → name ≠ Path.parentName →
      ∃ symbol, Symbol.ofPath p = .ok symbol ∧
        symbol.name.toList = (Utf8.decodeLossy name).toList.map replaced ∧
        (∀ directory : Bytes, Symbol.ofPath ⟨directory ++ Path.slash :: p.bytes⟩ = .ok symbol) ∧
        (∀ directory : Path, Symbol.ofPath (directory.join p) = .ok symbol) ∧
        (∀ ends : List Bytes,
          (∀ e ∈ ends, e = [Path.slash] ∨ e = Path.slash :: Path.currentName) →
            Symbol.ofPath ⟨p.bytes ++ ends.flatten⟩ = .ok symbol) ∧
        symbol.name ≠ "" ∧ (∀ c ∈ ['/', '-', '.'], c ∉ symbol.name.toList) ∧
        (symbol.issue? = none ↔ ∃ text, name = Utf8.encode text ∧ NamesSymbol text) ∧
        (Utf8.decode? name = none → symbol.issue? ≠ none) := by
  intro segments
  have hsegments : p.segments = segments := by rw [Path.segments, Path.pieces_eq_splitOn]
  clear_value segments
  subst hsegments
  refine ⟨?_, ?_⟩
  · intro e
    rw [Symbol.ofPath_eq_error_iff, Path.fileName?_eq_none_iff]
  intro name hlast hparent
  have hname := Path.fileName?_eq_some_iff.2 ⟨hlast, hparent⟩
  have hsymbol := Symbol.ofPath_of_fileName? hname
  have hsegment := Path.isSegment_of_mem_segments (Path.mem_segments_of_fileName? hname)
  have hissue := issue?_sanitize_decodeLossy_eq_none_iff hsegment.1
  refine ⟨_, hsymbol, toList_sanitize_eq_map _, ?_, ?_, ?_, Symbol.ne_empty_of_ofPath hsymbol,
    fun c hc => Symbol.notMem_of_ofPath hsymbol hc, hissue, ?_⟩
  · intro directory
    rw [Symbol.ofPath_append_slash hname, hsymbol]
  · intro directory
    rw [Symbol.ofPath_join hname, hsymbol]
  · intro ends hends
    rw [Symbol.ofPath_append_flatten hname hends, hsymbol]
  · intro hdecode hnone
    obtain ⟨text, htext, -⟩ := hissue.1 hnone
    have hsome := Utf8.decode?_eq_some_iff.2 htext
    rw [hdecode] at hsome
    cases hsome

open Identifier in
/-- Behind a way up, and with slashes and a dot at the end: a name that replacing makes a keyword
of, and one with a dash in front of a digit. -/
theorem derived_symbol_usable_trailing :
    let keyword := Path.ofText "/x/../static-assert/./"
    let free := Path.ofText "/x/../-9.bin/./"
    Symbol.ofPath keyword = .ok ⟨"static_assert"⟩ ∧ Symbol.issue? ⟨"static_assert"⟩ ≠ none ∧
      Symbol.ofPath (.ofText "/x/../static-assert/.///./") = .ok ⟨"static_assert"⟩ ∧
      Symbol.ofPath free = .ok ⟨"_9_bin"⟩ ∧ Symbol.issue? ⟨"_9_bin"⟩ = none := by
  intro keyword free
  have hderived : Symbol.ofPath keyword = .ok ⟨"static_assert"⟩ := by decide +kernel
  have hfree : Symbol.ofPath free = .ok ⟨"_9_bin"⟩ := by decide +kernel
  obtain ⟨-, hkeyword⟩ := derived_symbol_usable keyword
  obtain ⟨symbol, hsymbol, -, -, -, hends, -, -, hissue, -⟩ :=
    hkeyword (Utf8.encode "static-assert") (by decide) (by decide)
  obtain rfl := Except.ok.inj (hderived.symm.trans hsymbol)
  obtain ⟨-, hother⟩ := derived_symbol_usable free
  obtain ⟨symbol', hsymbol', -, -, -, -, -, -, hissue', -⟩ :=
    hother (Utf8.encode "-9.bin") (by decide) (by decide)
  obtain rfl := Except.ok.inj (hfree.symm.trans hsymbol')
  refine ⟨hderived, ?_, hends [[0x2F], [0x2F, 0x2E], [0x2F]] (by decide), hfree, ?_⟩
  · intro hnone
    obtain ⟨text, htext, hnames⟩ := hissue.1 hnone
    have hsame : "static-assert" = text := by
      rw [← Utf8.decodeLossy_encode text, ← htext, Utf8.decodeLossy_encode]
    exact hnames.keyword (hsame ▸ by decide +kernel)
  · refine hissue'.2 ⟨"-9.bin", rfl, List.forall_iff_forall_mem.1 (by decide), ?_, ?_,
      by decide +kernel⟩
    · intro c hc
      obtain ⟨rfl, -⟩ := List.cons_prefix_cons.1 hc
      decide
    · intro c d hpair _
      obtain ⟨-, hrest⟩ := List.cons_prefix_cons.1 hpair
      obtain ⟨rfl, -⟩ := List.cons_prefix_cons.1 hrest
      unfold IsJoint
      decide

end BlobSource
