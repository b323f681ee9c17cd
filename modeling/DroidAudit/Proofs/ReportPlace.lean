import DroidAudit.Proofs.NewDirectories
import DroidAudit.Proofs.ReportHistory

/-! Where a report can go. The directories on the way to its path are made, but the last step of the
path is none of them unless a slash is behind it. Main statement: for which paths a report is
written. -/
namespace DroidAudit.Report

open FileSystem

/-- A path for a report, with a slash behind it or without, and how many directories are missing for
it. If none is, the file can be written. -/
inductive Place (fs : FileSystem) (path file : String) : Nat → Prop
  | present : (Path.directory path = "" ∨ fs.exists? (Path.directory path) = true) →
      fs.Writable file → Place fs path file 0
  | missing {p : String} {n : Nat} : fs.Lacks p n → (path = p ∨ path = p ++ "/") →
      Place fs path file n

variable {r : Report} {fs fs' : FileSystem} {kind : PageKind} {p : String} {n : Nat}

theorem isName_page (kind : PageKind) : IsName ("report." ++ kind.name) := by
  cases kind <;> exact .of_plain (by decide) (by decide) (by decide)

theorem file_of_slash (h : Text.hasSuffix r.path "/" = true) (kind : PageKind) :
    r.file kind.name = r.path ++ ("report." ++ kind.name) := by
  have hname : Path.isAbsolute ("report." ++ kind.name) = false := by cases kind <;> rfl
  simp only [file, Path.join, hname, h, Bool.or_true, Bool.false_eq_true, if_false, if_true]

theorem file_of_name (h : EndsInName r.path) (kind : PageKind) :
    r.file kind.name = r.path ++ "/" ++ ("report." ++ kind.name) := by
  have hname : Path.isAbsolute ("report." ++ kind.name) = false := by cases kind <;> rfl
  have hempty : r.path.isEmpty = false := by simpa using h.ne_empty
  simp only [file, Path.join, hname, hempty, h.hasSuffix, Bool.or_false, Bool.false_eq_true, if_false]

theorem hasSuffix_slash (p : String) : Text.hasSuffix (p ++ "/") "/" = true := by
  rw [Text.hasSuffix_iff]
  exact ⟨p.toList, by simp⟩

/-- There is a page of a kind, and it can be written down. -/
def HasPage (r : Report) (kind : PageKind) (text : String) : Prop :=
  kind.render? r.findings = some text ∧ Text.encodeFault? text = none

theorem hasPage_of_generate {file : String}
    (h : r.generate fs kind.name none = (.ok file, fs')) : ∃ text, r.HasPage kind text := by
  obtain ⟨-, w, -, hw, -⟩ := generate_ok h
  obtain ⟨text, htext, -⟩ := Option.map_eq_some_iff.mp hw
  refine ⟨text, (render?_name r kind).symm.trans htext, ?_⟩
  rw [render?_eq_some_iff] at htext
  cases hfault : Text.encodeFault? text with
  | none => rfl
  | some f =>
    simp only [generate, htext, hfault] at h
    split at h
    · cases h
    · split at h <;> cases h

/-- Without a slash the last directory is missing when the file is opened. -/
theorem generate_bare (h : fs.Lacks r.path n) (hfile : Usable (r.file kind.name)) :
    if n ≤ maxMissing + 1 then
      (r.generate fs kind.name none).1 = .error (.report (.file ⟨.notFound, r.file kind.name⟩))
    else ∃ e, (r.generate fs kind.name none).1 = .error e := by
  rw [file_of_name h.endsInName] at hfile
  have hway := h.makeWay (hfile.above h.endsInName)
  by_cases hdepth : n ≤ maxMissing + 1
  · -- All directories but the last are there by now, so the way to the file stops at the last.
    obtain ⟨fs₁, l, hmade, hvacant⟩ := (if_pos hdepth).mp hway
    have hlocate := hvacant.locate_below (isName_page kind) hfile true
    rw [← file_of_name h.endsInName] at hlocate
    refine (if_pos hdepth).mpr ?_
    simp only [generate, hmade, writeText, writeBytes, hlocate, bind, Except.bind, fault]
  · obtain ⟨e, fs₁, hfails⟩ := (if_neg hdepth).mp hway
    exact (if_neg hdepth).mpr ⟨e, by simp only [generate, hfails]⟩

/-- With a slash the last directory is made as well. -/
theorem generate_slash (h : fs.Lacks p n) (hpath : r.path = p ++ "/")
    (hfile : Usable (r.file kind.name)) :
    if n ≤ maxMissing then
      ∀ text, r.HasPage kind text →
        ∃ fs', r.generate fs kind.name none = (.ok (r.file kind.name), fs') ∧
          fs'.isDirectory r.path = true
    else ∃ e, (r.generate fs kind.name none).1 = .error e := by
  have hne := h.endsInName.ne_empty
  have hslash : Text.hasSuffix r.path "/" = true := hpath ▸ hasSuffix_slash p
  rw [file_of_slash hslash, hpath] at hfile
  have hway := h.makeWay_below (hfile.above h.endsInName) (s := "") (by simp)
  rw [String.append_empty, ← hpath] at hway
  by_cases hdepth : n ≤ maxMissing
  · obtain ⟨fs₁, l, hmade, hlast⟩ := (if_pos hdepth).mp hway
    have hvacant := hlast.vacant_below hne (isName_page kind) hfile
    rw [← hpath, ← file_of_slash hslash] at hvacant
    refine (if_pos hdepth).mpr fun text hpage => ?_
    obtain ⟨fs', hdone, hgrows⟩ := generate_of_way hmade (.inl ⟨_, hvacant⟩)
      ((render?_name r kind).trans hpage.1) hpage.2
    refine ⟨fs', hdone, ?_⟩
    rw [hpath]
    exact hlast.isDirectory_later hgrows hne (hfile.front (by simp))
  · obtain ⟨e, fs₁, hfails⟩ := (if_neg hdepth).mp hway
    exact (if_neg hdepth).mpr ⟨e, by simp only [generate, hfails]⟩

/-- If there is a page and it can be encoded, it is written exactly if no directory is missing, or if the path has a
slash behind it and not too many are missing, which are made then. Without the slash the file is not
found when it is opened. -/
theorem generate_succeeds_iff {missing : Nat} (hfile : Usable (r.file kind.name))
    (hplace : Place fs r.path (r.file kind.name) missing) :
    ((∃ fs' text l, r.generate fs kind.name none = (.ok (r.file kind.name), fs') ∧
        kind.render? r.findings = some text ∧
        PageWrite.Puts ⟨r.file kind.name, r.keep, text⟩ fs fs' l ∧
        (0 < missing → fs'.isDirectory r.path = true)) ↔
      (∃ text, r.HasPage kind text) ∧
        (missing = 0 ∨ Text.hasSuffix r.path "/" = true ∧ missing ≤ maxMissing)) ∧
    (0 < missing → missing ≤ maxMissing → Text.hasSuffix r.path "/" = false →
      (r.generate fs kind.name none).1 =
        .error (.report (.file ⟨.notFound, r.file kind.name⟩))) := by
  cases hplace with
  | present habove hwritable =>
    refine ⟨⟨?_, ?_⟩, fun hmissing => absurd hmissing (Nat.lt_irrefl 0)⟩
    · rintro ⟨fs', text, l, hdone, -⟩
      exact ⟨hasPage_of_generate hdone, .inl rfl⟩
    · rintro ⟨⟨text, hpage⟩, -⟩
      have htext := (render?_name r kind).trans hpage.1
      obtain ⟨fs', hdone, -⟩ :=
        generate_of_way (makeWay_of_above habove) hwritable htext hpage.2
      obtain ⟨l, hput⟩ := puts_of_generate hdone htext
      exact ⟨fs', text, l, hdone, hpage.1, hput, fun hmissing => absurd hmissing (Nat.lt_irrefl 0)⟩
  | @missing p n hlacks hpath =>
    rcases hpath with rfl | hpath
    · have hbare := generate_bare hlacks hfile
      have hnamed : Text.hasSuffix r.path "/" = false := hlacks.endsInName.hasSuffix
      obtain ⟨e, hfails⟩ : ∃ e, (r.generate fs kind.name none).1 = .error e := by
        split at hbare
        · exact ⟨_, hbare⟩
        · exact hbare
      refine ⟨iff_of_false ?_ ?_, fun _ hdepth _ => (if_pos (by omega)).mp hbare⟩
      · rintro ⟨fs', text, l, hdone, -⟩
        rw [hdone] at hfails
        cases hfails
      · rintro ⟨-, hzero | ⟨hslash, -⟩⟩
        · exact absurd hzero hlacks.ne_zero
        · cases hslash.symm.trans hnamed
    · have hall := generate_slash hlacks hpath hfile
      have hslash : Text.hasSuffix r.path "/" = true := hpath ▸ hasSuffix_slash p
      refine ⟨⟨?_, ?_⟩, fun _ _ hnamed => absurd (hslash.symm.trans hnamed) (by decide)⟩
      · rintro ⟨fs', text, l, hdone, -⟩
        refine ⟨hasPage_of_generate hdone, .inr ⟨hslash, ?_⟩⟩
        by_contra hdeep
        obtain ⟨e, hfails⟩ := (if_neg hdeep).mp hall
        rw [hdone] at hfails
        cases hfails
      · rintro ⟨⟨text, hpage⟩, hzero | ⟨-, hdepth⟩⟩
        · exact absurd hzero hlacks.ne_zero
        · obtain ⟨fs', hdone, hdirectory⟩ := (if_pos hdepth).mp hall text hpage
          obtain ⟨l, hput⟩ := puts_of_generate hdone ((render?_name r kind).trans hpage.1)
          exact ⟨fs', text, l, hdone, hpage.1, hput, fun _ => hdirectory⟩

theorem lacks_of_plainPlace {l : Location} (hl : fs.plainPlace? p = some l)
    (hfree : fs.root.at? l = none) (hnamed : Text.hasSuffix p "/" = false)
    (habove : Path.directory p = "") : fs.Lacks p 1 :=
  .first ⟨locate_of_plainPlace hl false, hfree, hnamed⟩ (.inl habove)

theorem generate_succeeds_iff_nested :
    ∃ fs' l, Report.generate ⟨[], "a/b/c/", false⟩ (.empty []) "csv" none =
        (.ok "a/b/c/report.csv", fs') ∧
      PageWrite.Puts ⟨"a/b/c/report.csv", false, Page.table []⟩ (.empty []) fs' l ∧
      fs'.isDirectory "a/b/c/" = true := by
  have hfirst : (FileSystem.empty []).Lacks "a" 1 := lacks_of_plainPlace rfl rfl rfl rfl
  have hb : IsName "b" := .of_plain (by decide) (by decide) (by decide)
  have hc : IsName "c" := .of_plain (by decide) (by decide) (by decide)
  have hlacks : (FileSystem.empty []).Lacks "a/b/c" 3 := (hfirst.next hb).next hc
  have hfile : Report.file ⟨[], "a/b/c/", false⟩ PageKind.csv.name = "a/b/c/report.csv" := by
    have hjoin : Path.join "a/b/c/" ("report." ++ "csv") = "a/b/c/report.csv" := rfl
    exact hjoin
  have husable : Usable "a/b/c/report.csv" := ⟨by decide, by decide, by decide, by decide⟩
  have hplace := generate_succeeds_iff (hfile ▸ husable) (.missing hlacks (.inr rfl))
  have hpage : Report.HasPage ⟨[], "a/b/c/", false⟩ .csv (Page.table []) := ⟨rfl, by decide +kernel⟩
  obtain ⟨fs', text, l, hdone, htext, hput, hmade⟩ :=
    hplace.1.mpr ⟨⟨_, hpage⟩, .inr ⟨by decide, by decide⟩⟩
  cases Option.some.inj htext
  rw [hfile] at hdone hput
  exact ⟨fs', l, hdone, hput, hmade (by decide)⟩

/-- The directory of the report is missing, and its path has no slash. -/
theorem directory_not_made :
    (Report.generate ⟨[], "out", false⟩ (.empty []) "csv" none).1 =
      .error (.report (.file ⟨.notFound, "out/report.csv"⟩)) := by
  have hlacks : (FileSystem.empty []).Lacks "out" 1 := lacks_of_plainPlace rfl rfl rfl rfl
  have hfile : Report.file ⟨[], "out", false⟩ PageKind.csv.name = "out/report.csv" := by
    have hjoin : Path.join "out" ("report." ++ "csv") = "out/report.csv" := rfl
    exact hjoin
  have husable : Usable "out/report.csv" := ⟨by decide, by decide, by decide, by decide⟩
  have hbare := generate_bare hlacks (hfile ▸ husable)
  rw [hfile] at hbare
  exact (if_pos (by omega)).mp hbare

end DroidAudit.Report
