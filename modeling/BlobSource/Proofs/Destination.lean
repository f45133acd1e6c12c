import BlobSource.Proofs.Frame
import BlobSource.Proofs.Path.Components
import BlobSource.Proofs.Strict
import BlobSource.Proofs.Symbol
import BlobSource.Proofs.Utf8

/-! Where a build step writes: a file with the name of its symbol, right in the directory for it. -/
namespace BlobSource

theorem toList_sanitize (baseName : String) :
    (sanitize baseName).toList =
      baseName.toList.map fun c => if c = '-' ∨ c = '.' then '_' else c :=
  String.toList_ofList

theorem length_sanitize (baseName : String) :
    (sanitize baseName).toList.length = baseName.toList.length := by
  rw [toList_sanitize, List.length_map]

namespace Symbol
variable {symbol : Symbol}

theorem exists_of_ofPath {p : Path} (h : ofPath p = .ok symbol) : ∃ name,
    p.fileName? = some name ∧ symbol.name = sanitize (Utf8.decodeLossy name) := by
  unfold ofPath at h
  cases hname : p.fileName? with
  | none =>
    rw [hname] at h
    cases h
  | some name =>
    rw [hname] at h
    cases h
    exact ⟨name, rfl, rfl⟩

theorem slash_notMem_of_ofPath {p : Path} (h : ofPath p = .ok symbol) :
    '/' ∉ symbol.name.toList := by
  obtain ⟨name, hname, hsymbol⟩ := exists_of_ofPath h
  have hsegment := Path.isSegment_of_mem_segments (Path.mem_segments_of_fileName? hname)
  rw [hsymbol, toList_sanitize]
  intro hslash
  obtain ⟨c, hc, hreplaced⟩ := List.mem_map.1 hslash
  split at hreplaced
  · exact absurd hreplaced (by decide)
  · subst hreplaced
    exact hsegment.2.2 (Utf8.mem_of_mem_decodeLossy (by decide) hc)

theorem slash_notMem_of_issue? (h : symbol.issue? = none) : '/' ∉ symbol.name.toList := by
  obtain ⟨first, rest, hname, -, hchars, -⟩ := symbol.issue?_eq_none_iff.1 h
  rw [hname]
  intro hslash
  exact absurd (hchars '/' hslash) (by decide)

end Symbol

/-- The path is that of something called so in the directory, and of nothing further down, higher up
or elsewhere: the components before the last, which are those of its parent, are the directory's. -/
structure Path.IsChildOf (p directory : Path) (name : Bytes) : Prop where
  components : p.components = directory.components ++ [.named name]
  fileName : p.fileName? = some name
  slash_notMem : Path.slash ∉ name
  relative : (Path.mk name).isAbsolute = false
  ne_current : name ≠ Path.currentName
  ne_parent : name ≠ Path.parentName

theorem Path.IsSegment.isChildOf {name : Bytes} (h : IsSegment name) (hparent : name ≠ parentName)
    (directory : Path) : (directory.join ⟨name⟩).IsChildOf directory name where
  components := components_join directory h hparent
  fileName := fileName?_join directory h hparent
  slash_notMem := h.2.2
  relative := h.isAbsolute
  ne_current := h.2.1
  ne_parent := hparent

namespace BuildStep
variable {b : BuildStep} {env : Environment} {symbol : Symbol} {dir : Path}

/-- The symbol and the directory that a destination is made of, once both have been settled. -/
structure Settles (b : BuildStep) (env : Environment) (symbol : Symbol) (dir : Path) : Prop where
  named : b.symbol = .ok symbol
  checked : b.checkSymbol symbol = .ok ()
  located : b.outDir env = .ok dir

theorem exists_settles_of_job {s : Store} {j : Job} (h : b.job env s = .ok j) :
    ∃ dir, b.Settles env j.symbol dir ∧ j.destination = dir.join (fileName j.symbol) := by
  obtain ⟨dir, hsymbol, hchecked, hdir, -, hdestination⟩ := exists_of_job h
  exact ⟨dir, ⟨hsymbol, hchecked, hdir⟩, hdestination⟩

theorem Settles.derived (h : b.Settles env symbol dir) (hb : b.symbol? = none) :
    Symbol.ofPath b.source = .ok symbol := by
  have hnamed := h.named
  unfold BuildStep.symbol at hnamed
  rwa [hb] at hnamed

theorem Settles.slash_notMem (h : b.Settles env symbol dir)
    (hb : b.symbol? = none ∨ b.strict = true) : '/' ∉ symbol.name.toList := by
  rcases hb with hderived | hstrict
  · exact Symbol.slash_notMem_of_ofPath (h.derived hderived)
  · exact Symbol.slash_notMem_of_issue? (issue?_of_checkSymbol hstrict h.checked)

theorem run_cases (b : BuildStep) (env : Environment) (s : Store) :
    (b.run env s).store = s ∨ ∃ symbol dir l content, b.Settles env symbol dir ∧
      s.Opens (dir.join (fileName symbol)) l ∧
      (b.run env s).store = s.put l (.file content) := by
  have hrun := b.run_of_job env s
  cases hj : b.job env s with
  | error failure =>
    rw [hj] at hrun
    exact .inl hrun.1
  | ok j =>
    rw [hj] at hrun
    obtain ⟨dir, hsettles, hdestination⟩ := exists_settles_of_job hj
    rw [hrun.1]
    rcases j.store_embedding s with hs | ⟨l, content, hopens, hs⟩
    · exact .inl hs
    · exact .inr ⟨j.symbol, dir, l, content, hsettles, hdestination ▸ hopens, hs⟩

theorem isSegment_fileName (h : '/' ∉ symbol.name.toList) :
    Path.IsSegment (fileName symbol).bytes ∧ (fileName symbol).bytes ≠ Path.parentName := by
  have hbytes : (fileName symbol).bytes = Utf8.encode symbol.name ++ [0x2E, 0x63] := by
    simp [fileName, Path.ofText, Utf8.encode, String.utf8EncodeChar]
  have hslash : Path.slash ∉ (fileName symbol).bytes := by
    intro hmem
    have htext := Utf8.mem_toList_of_mem_encode (b := Path.slash) (by decide) hmem
    rw [String.toList_append, List.mem_append] at htext
    rcases htext with htext | htext
    · exact h htext
    · exact absurd htext (by decide)
  have hlast : (fileName symbol).bytes.getLast? = some 0x63 := by
    rw [hbytes, List.getLast?_append]
    rfl
  have hne : ∀ other : Bytes, other.getLast? ≠ some 0x63 → (fileName symbol).bytes ≠ other := by
    rintro other hother rfl
    exact hother hlast
  exact ⟨⟨hne _ (by decide), hne _ (by decide), hslash⟩, hne _ (by decide)⟩

end BuildStep

/-- If the symbol is derived from the source or the step is strict, the destination is a file with
the name of the symbol right in the directory for it. A step that succeeds returns that path, and
the only file that any step writes is the one which that path leads to. -/
theorem destination_contained {b : BuildStep} (hb : b.symbol? = none ∨ b.strict = true)
    (env : Environment) :
    (∀ symbol dir, b.Settles env symbol dir →
      (dir.join (BuildStep.fileName symbol)).IsChildOf dir (Utf8.encode (symbol.name ++ ".c"))) ∧
    (∀ s d, (b.run env s).result = .ok d →
      ∃ symbol dir, b.Settles env symbol dir ∧ d = dir.join (BuildStep.fileName symbol)) ∧
    (∀ s, (b.run env s).store = s ∨ ∃ symbol dir l content, b.Settles env symbol dir ∧
      s.Opens (dir.join (BuildStep.fileName symbol)) l ∧
      (b.run env s).store = s.put l (.file content)) := by
  refine ⟨?_, ?_, ?_⟩
  · intro symbol dir hsettles
    obtain ⟨hsegment, hparent⟩ := BuildStep.isSegment_fileName (hsettles.slash_notMem hb)
    exact hsegment.isChildOf hparent dir
  · intro s d hd
    obtain ⟨j, report, hj, -, -, rfl⟩ := BuildStep.exists_job_of_run hd
    obtain ⟨dir, hsettles, hdestination⟩ := BuildStep.exists_settles_of_job hj
    exact ⟨j.symbol, dir, hsettles, hdestination⟩
  · intro s
    exact b.run_cases env s

/-- A name that is no text and has a dot, behind a way up, and an unusual spelling of the directory. -/
theorem destination_contained_derived :
    let source : Path := ⟨[0x2F, 0x78, 0x2F, 0x2E, 0x2E, 0x2F, 0x61, 0x2E, 0x62, 0xFF]⟩
    let b := BuildStep.ofSource source
    let env : Environment := ⟨some (.ofText "./o//"), none⟩
    let s : Store := ⟨.place [0x78] (some .directory) .nil (.place [0x6F] (some .directory) .nil
      (.single (some (.file (.ofBytes [1, 2, 3]))) [[0x61, 0x2E, 0x62, 0xFF]])), []⟩
    ∃ d, (b.run env s).result = .ok d ∧ d = .ofText "./o//a_b\uFFFD.c" ∧
      d.IsChildOf (.ofText "./o//") (Utf8.encode "a_b\uFFFD.c") ∧
      d.components = [.current, .named (Utf8.encode "o"), .named (Utf8.encode "a_b\uFFFD.c")] := by
  intro source b env s
  have hrun : (b.run env s).result = .ok (.ofText "./o//a_b\uFFFD.c") := by decide +kernel
  obtain ⟨hchild, hreturned, -⟩ := destination_contained (b := b) (.inl rfl) env
  obtain ⟨symbol, dir, hsettles, hd⟩ := hreturned s _ hrun
  have hsymbol : Symbol.mk "a_b\uFFFD" = symbol := by
    have hderived : b.symbol = .ok ⟨"a_b\uFFFD"⟩ := by decide +kernel
    exact Except.ok.inj (hderived.symm.trans hsettles.named)
  obtain rfl := hsymbol
  obtain rfl : Path.ofText "./o//" = dir := Except.ok.inj hsettles.located
  have hcontained := hchild _ _ hsettles
  rw [← hd] at hcontained
  refine ⟨_, hrun, rfl, hcontained, ?_⟩
  rw [hcontained.components]
  decide +kernel

end BlobSource
