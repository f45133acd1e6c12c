import BlobSource.Proofs.Destination
import BlobSource.Proofs.Store.Linkless

/-! A build step that derives the symbol does not write to its own source: the file that it writes
never has the name of the source. -/
namespace BlobSource

theorem Symbol.fileName_ne_of_ofPath {p : Path} {symbol : Symbol} {name : Bytes}
    (h : ofPath p = .ok symbol) (hp : p.fileName? = some name) :
    (BuildStep.fileName symbol).bytes ≠ name := by
  obtain ⟨other, hother, hsymbol⟩ := exists_of_ofPath h
  obtain rfl : name = other := Option.some.inj (hp.symm.trans hother)
  intro hname
  have htext : Utf8.decodeLossy name = symbol.name ++ ".c" := by
    rw [← hname]
    exact Utf8.decodeLossy_encode _
  have hlength : symbol.name.toList.length = symbol.name.toList.length + 2 := by
    calc symbol.name.toList.length
        = (Utf8.decodeLossy name).toList.length := by rw [hsymbol, length_sanitize]
      _ = (symbol.name ++ ".c").toList.length := by rw [htext]
      _ = symbol.name.toList.length + 2 := by rw [String.toList_append, List.length_append]; rfl
  omega

namespace BuildStep
variable {b : BuildStep} {env : Environment} {symbol : Symbol} {dir : Path}

theorem Settles.exists_fileName?_ne (h : b.Settles env symbol dir) (hb : b.symbol? = none) :
    ∃ name other, b.source.fileName? = some name ∧
      (dir.join (fileName symbol)).fileName? = some other ∧ other ≠ name := by
  have hderived := h.derived hb
  obtain ⟨name, hname, -⟩ := Symbol.exists_of_ofPath hderived
  obtain ⟨hsegment, hparent⟩ := isSegment_fileName (h.slash_notMem (.inl hb))
  refine ⟨name, (fileName symbol).bytes, hname, ?_, ?_⟩
  · exact Path.fileName?_join dir hsegment hparent
  · exact Symbol.fileName_ne_of_ofPath hderived hname

end BuildStep

/-- Where the symbol is derived from the source, the destination has another file name than the
source, whatever the directory for it. So where there are no symbolic links, and the destination is
not a second name of the source by a hard link, a step leaves the content of its source as it was,
also if it fails, and under the absolute path of the source too. -/
theorem source_spared {b : BuildStep} (hb : b.symbol? = none) (env : Environment) :
    (∀ symbol dir, b.Settles env symbol dir →
      ∃ name other, b.source.fileName? = some name ∧
        (dir.join (BuildStep.fileName symbol)).fileName? = some other ∧ other ≠ name) ∧
    (∀ s : Store, s.Linkless →
      ∀ p, p = b.source ∨ Path.absolute? s.here.toPath b.source = some p →
        (∀ symbol dir, b.Settles env symbol dir →
          ¬ s.HardLinked p (dir.join (BuildStep.fileName symbol))) →
        (b.run env s).store.content? p = s.content? p) := by
  constructor
  · intro symbol dir hsettles
    exact hsettles.exists_fileName?_ne hb
  · intro s hs p hp hlinked
    rcases b.run_cases env s with hstore | ⟨symbol, dir, l, content, hsettles, hopens, hstore⟩
    · rw [hstore]
    · obtain ⟨name, other, hname, hother, hne⟩ := hsettles.exists_fileName?_ne hb
      have hsource : p.fileName? = some name := by
        rcases hp with rfl | habsolute
        · exact hname
        · exact Path.fileName?_absolute? habsolute hname
      rw [hstore]
      exact hopens.content?_put_file_of_ne hs hother hsource hne.symm
        (hlinked symbol dir hsettles) content

/-- A source that is a C file already, with a second name under which it is converted in its own
directory. -/
theorem source_spared_beside :
    let b : BuildStep := { BuildStep.ofSource (.ofText "x.c") with outDir? := some (.ofText ".") }
    let before : Content := .ofBytes [1, 2, 3]
    let s : Store := ⟨.place (Utf8.encode "y") (some (.file before)) .nil
      (.single (some (.hardLink [Utf8.encode "y"])) [Utf8.encode "x.c"]), []⟩
    (b.run ⟨none, none⟩ s).result = .ok (.ofText "./x_c.c") ∧
      (b.run ⟨none, none⟩ s).store.content? (.ofText "x.c") = some before := by
  intro b before s
  have hs : s.Linkless := Store.linkless_of_toList (by simp [s, Places.toList, Places.single])
  have hlinked : ∀ symbol dir, b.Settles ⟨none, none⟩ symbol dir →
      ¬ s.HardLinked (.ofText "x.c") (dir.join (BuildStep.fileName symbol)) := by
    rintro symbol dir hsettles ⟨k, place, hk, hplace, -, hhome⟩
    obtain rfl : Path.ofText "." = dir := Except.ok.inj hsettles.located
    have hsymbol : b.symbol = .ok ⟨"x_c"⟩ := by decide +kernel
    obtain rfl : Symbol.mk "x_c" = symbol := Except.ok.inj (hsymbol.symm.trans hsettles.named)
    have hnew : s.reach .writing (Path.join (.ofText ".") (BuildStep.fileName ⟨"x_c"⟩)) =
        .ok (.vacant [Utf8.encode "x_c.c"]) := by decide +kernel
    have hold : s.reach .reading (.ofText "x.c") = .ok (.present [Utf8.encode "x.c"]) := by
      decide +kernel
    obtain rfl := Except.ok.inj (hnew.symm.trans hplace)
    obtain rfl := Place.present.inj (Except.ok.inj (hold.symm.trans hk))
    exact absurd hhome (by decide +kernel)
  have hspared :=
    (source_spared (b := b) rfl ⟨none, none⟩).2 s hs (.ofText "x.c") (.inl rfl) hlinked
  constructor
  · decide +kernel
  · exact hspared

/-- A hard link to the source that has the derived name: without any symbolic link, the step empties
its own source. -/
theorem source_emptied_under_derived_name :
    let b : BuildStep := { BuildStep.ofSource (.ofText "a.bin") with outDir? := some (.ofText ".") }
    let before : Content := .ofBytes [1, 2, 3]
    let s : Store := ⟨.place (Utf8.encode "a.bin") (some (.file before)) .nil
      (.single (some (.hardLink [Utf8.encode "a.bin"])) [Utf8.encode "a_bin.c"]), []⟩
    b.symbol? = none ∧ s.Linkless ∧ s.content? (.ofText "a.bin") = some before ∧
      (b.run ⟨none, none⟩ s).result = .error (.lengthMismatch (.ofText "a.bin") 3 0) ∧
      (b.run ⟨none, none⟩ s).store.content? (.ofText "a.bin") ≠ some before := by
  intro b before s
  have hs : s.Linkless := Store.linkless_of_toList (by simp [s, Places.toList, Places.single])
  exact ⟨rfl, hs, by decide +kernel, by decide +kernel, by decide +kernel⟩

end BlobSource
