import DroidAudit.Proofs.ReportHistory

/-! Reports that are not made, and what is left of the files then. The file of a report is opened
before there is a page for it, so a report that is not kept and has no page has lost the one that was
there before. -/
namespace DroidAudit

namespace FileSystem

structure KeepsFiles (fs fs' : FileSystem) : Prop where
  contents : ∀ l bytes, fs.contentAt l = some bytes → fs'.contentAt l = some bytes
  reads : ∀ path bytes, fs.readBytes path = .ok bytes → fs'.readBytes path = .ok bytes

variable {fs : FileSystem}

theorem Grows.keepsFiles {fs' : FileSystem} (hg : Grows fs fs')
    (h : ∀ l bytes, fs.contentAt l = some bytes → fs'.contentAt l = some bytes) :
    KeepsFiles fs fs' where
  contents := h
  reads := by
    intro path bytes hread
    obtain ⟨l, hl, hbytes⟩ := contentAt_of_readBytes hread
    exact readBytes_of_content (hg.locate_file hl hbytes) (h l bytes hbytes)

/-- A file that is opened is made if it is missing, and emptied unless it is to be added to. -/
theorem writeText_nothing {fs' : FileSystem} {path : String} {append : Bool}
    (h : fs.writeText path append "" = .ok fs') :
    ∃ l, fs.locate true path = .ok l ∧ Grows fs fs' ∧
      fs'.contentAt l = some (if append then (fs.contentAt l).getD .empty else .empty) ∧
      ∀ l', l' ≠ l → fs'.contentAt l' = fs.contentAt l' := by
  obtain ⟨l, hl, hgrows, hcontent, hothers⟩ := writeBytes_ok h
  rw [Report.encoded_nothing, ByteArray.append_empty] at hcontent
  exact ⟨l, hl, hgrows, hcontent, hothers⟩

end FileSystem

namespace Report
open FileSystem

/-- There is no page, or none that can be written down, and how that is said. -/
inductive NoPage (r : Report) (kind : String) (layout : Option Layout) : Failure → Prop
  | noLayout : (∀ own ∈ layout, own.source = "") → pageKind? kind = none →
      NoPage r kind layout (.report (.noLayout kind))
  | tooDeep {k : PageKind} : (∀ own ∈ layout, own.source = "") → pageKind? kind = some k →
      k.render? r.findings = none → NoPage r kind layout (.report .tooDeep)
  | badLayout {own : Layout} {message : String} : layout = some own → own.source ≠ "" →
      own.fill r.findings = .error message → NoPage r kind layout (.report (.badLayout message))
  | unencodable {text : String} {f : Text.EncodeFault} : r.render? kind layout = some text →
      Text.encodeFault? text = some f → NoPage r kind layout (.report (.unencodable f))

inductive Fails (r : Report) (fs : FileSystem) (kind : String) (layout : Option Layout) :
    Failure → FileSystem → Prop
  | noWay {e : Failure} {fs' : FileSystem} :
      fs.makeWay r.path = (.error e, fs') → Fails r fs kind layout e fs'
  | unopened {f : Fault} {fs' : FileSystem} :
      fs.makeWay r.path = (.ok (), fs') → fs'.writeText (r.file kind) r.keep "" = .error f →
      Fails r fs kind layout (.report (.file f)) fs'
  | unrendered {e : Failure} {fs₁ fs' : FileSystem} :
      fs.makeWay r.path = (.ok (), fs₁) → fs₁.writeText (r.file kind) r.keep "" = .ok fs' →
      r.NoPage kind layout e → Fails r fs kind layout e fs'
  | unwritten {text : String} {f : Fault} {fs₁ fs' : FileSystem} :
      fs.makeWay r.path = (.ok (), fs₁) → fs₁.writeText (r.file kind) r.keep "" = .ok fs' →
      r.render? kind layout = some text → Text.encodeFault? text = none →
      fs'.writeText (r.file kind) true text = .error f →
      Fails r fs kind layout (.report (.file f)) fs'

variable {e : Failure} {fs fs' : FileSystem} {kind : String} {layout : Option Layout} {r : Report}

theorem noPage_of_renderKind {f : ReportFault} (hown : ∀ own ∈ layout, own.source = "")
    (h : r.renderKind kind = .error f) : r.NoPage kind layout (.report f) := by
  unfold renderKind at h
  split at h
  · rename_i hkind
    cases h
    exact .noLayout hown hkind
  · rename_i hkind
    split at h
    · rename_i hpage
      cases h
      exact .tooDeep hown hkind hpage
    · cases h

theorem noPage_of_render {f : ReportFault} (h : r.render kind layout = .error f) :
    r.NoPage kind layout (.report f) := by
  unfold render at h
  split at h
  · exact noPage_of_renderKind (by simp) h
  · split at h
    · rename_i hempty
      exact noPage_of_renderKind (by simpa using hempty) h
    · rename_i hempty
      split at h
      · rename_i hfill
        cases h
        exact .badLayout rfl (by simpa using hempty) hfill
      · cases h

theorem fails_of_generate (h : r.generate fs kind layout = (.error e, fs')) :
    Fails r fs kind layout e fs' := by
  unfold generate at h
  split at h
  · rename_i hway
    cases h
    exact .noWay hway
  · rename_i fs₁ hway
    split at h
    · rename_i hopen
      cases h
      exact .unopened hway hopen
    · rename_i fs₂ hopen
      split at h
      · rename_i hrender
        cases h
        exact .unrendered hway hopen (noPage_of_render hrender)
      · rename_i text hrender
        rw [← render?_eq_some_iff] at hrender
        split at h
        · rename_i hfault
          cases h
          exact .unrendered hway hopen (.unencodable hrender hfault)
        · rename_i hfault
          split at h
          · rename_i hwrite
            cases h
            exact .unwritten hway hopen hrender hfault hwrite
          · cases h

/-- What a report leaves that fails after its file was opened, which is at `l`. If the file was there
before, the failure is one of the page. -/
structure Opened (r : Report) (fs : FileSystem) (kind : String) (layout : Option Layout)
    (e : Failure) (fs' : FileSystem) (l : Location) : Prop where
  way : (fs.makeWay r.path).1 = .ok ()
  leads : (fs.makeWay r.path).2.locate true (r.file kind) = .ok l
  grows : Grows (fs.makeWay r.path).2 fs'
  content : fs'.contentAt l = some (if r.keep then (fs.contentAt l).getD .empty else .empty)
  others : ∀ l', l' ≠ l → fs'.contentAt l' = fs.contentAt l'
  noPage : ∀ bytes, fs.contentAt l = some bytes → r.NoPage kind layout e

theorem opened_of_writeText {fs₁ : FileSystem} (hway : fs.makeWay r.path = (.ok (), fs₁))
    (hopen : fs₁.writeText (r.file kind) r.keep "" = .ok fs')
    (hpage : r.NoPage kind layout e ∨
      ∃ text f, fs'.writeText (r.file kind) true text = .error f) :
    ∃ l, Opened r fs kind layout e fs' l := by
  have hkeeps : Keeps fs fs₁ := by simpa only [hway] using makeWay_keeps fs r.path
  obtain ⟨l, hl, hgrows, hcontent, hothers⟩ := writeText_nothing hopen
  rw [hkeeps.contents] at hcontent
  refine ⟨l, by rw [hway], by rw [hway]; exact hl, by rw [hway]; exact hgrows, hcontent, ?_, ?_⟩
  · intro l' hne
    rw [hothers l' hne, hkeeps.contents]
  · intro bytes hbytes
    rcases hpage with hpage | ⟨text, f, hwrite⟩
    · exact hpage
    · -- a file that is there and was opened can be written
      have hleads := hgrows.locate_file hl (by rw [hkeeps.contents]; exact hbytes)
      obtain ⟨fs₂, hok⟩ := writeBytes_of_content hleads hcontent true (Text.encoded text)
      cases hok.symm.trans hwrite

theorem Fails.opened_or_keeps (h : Fails r fs kind layout e fs') :
    (∃ l, Opened r fs kind layout e fs' l) ∨
      Keeps fs fs' ∧ ((fs.makeWay r.path).1 = .error e ∨
        ∀ bytes, (fs.makeWay r.path).2.readBytes (r.file kind) ≠ .ok bytes) := by
  have hkeeps := makeWay_keeps fs r.path
  cases h with
  | noWay hway =>
    rw [hway] at hkeeps ⊢
    exact .inr ⟨hkeeps, .inl rfl⟩
  | unopened hway hopen =>
    rw [hway] at hkeeps ⊢
    refine .inr ⟨hkeeps, .inr fun bytes hread => ?_⟩
    obtain ⟨l, hl, hbytes⟩ := contentAt_of_readBytes hread
    obtain ⟨fs₂, hok⟩ := writeBytes_of_content hl hbytes r.keep (Text.encoded "")
    cases hok.symm.trans hopen
  | unrendered hway hopen hpage => exact .inl (opened_of_writeText hway hopen (.inl hpage))
  | unwritten hway hopen _ _ hwrite =>
    exact .inl (opened_of_writeText hway hopen (.inr ⟨_, _, hwrite⟩))

theorem Opened.grows_all {l : Location} (h : Opened r fs kind layout e fs' l) : Grows fs fs' :=
  (makeWay_keeps fs r.path).grows.trans h.grows

/-- A report that fails leaves the files as they were exactly if it is one that is added, or no way
to its directory was made, or there was nothing in its file. Otherwise there was no page for it, and
its file, and no other, is empty. -/
theorem keepsFiles_iff_of_failure {r : Report} {fs fs' : FileSystem} {kind : String}
    {layout : Option Layout} {e : Failure} (h : r.generate fs kind layout = (.error e, fs')) :
    (KeepsFiles fs fs' ↔ r.keep = true ∨ (fs.makeWay r.path).1 = .error e ∨
      ∀ bytes, (fs.makeWay r.path).2.readBytes (r.file kind) = .ok bytes → bytes = .empty) ∧
    ∀ l bytes, fs.contentAt l = some bytes → fs'.contentAt l ≠ some bytes →
      fs'.contentAt l = some .empty ∧ fs'.locate true (r.file kind) = .ok l ∧
        r.NoPage kind layout e := by
  rcases (fails_of_generate h).opened_or_keeps with ⟨l, hopened⟩ | ⟨hkeeps, hnone⟩
  · have hcontents := (makeWay_keeps fs r.path).contents
    refine ⟨⟨?_, ?_⟩, ?_⟩
    · intro hfiles
      by_cases hkeep : r.keep = true
      · exact .inl hkeep
      · refine .inr (.inr fun bytes hread => ?_)
        obtain ⟨l', hl', hbytes⟩ := contentAt_of_readBytes hread
        cases hopened.leads.symm.trans hl'
        rw [hcontents] at hbytes
        have hempty := hopened.content
        rw [hfiles.contents l bytes hbytes, if_neg hkeep] at hempty
        exact Option.some.inj hempty
    · intro hcond
      refine hopened.grows_all.keepsFiles fun l' bytes hbytes => ?_
      by_cases hl : l' = l
      · subst hl
        rw [hopened.content]
        rcases hcond with hkeep | hway | hempty
        · rw [if_pos hkeep, hbytes, Option.getD_some]
        · cases hopened.way.symm.trans hway
        · have hread := readBytes_of_content hopened.leads ((hcontents l').trans hbytes)
          rw [hbytes, Option.getD_some, hempty bytes hread, ite_self]
      · rw [hopened.others l' hl, hbytes]
    · intro l' bytes hbytes hlost
      by_cases hl : l' = l
      · subst hl
        have hleads := hopened.grows.locate_file hopened.leads (by rw [hcontents]; exact hbytes)
        refine ⟨?_, hleads, hopened.noPage bytes hbytes⟩
        by_cases hkeep : r.keep = true
        · rw [hopened.content, if_pos hkeep, hbytes, Option.getD_some] at hlost
          exact absurd rfl hlost
        · rw [hopened.content, if_neg hkeep]
      · rw [hopened.others l' hl] at hlost
        exact absurd hbytes hlost
  · have hfiles : KeepsFiles fs fs' :=
      hkeeps.grows.keepsFiles fun l bytes hbytes => (hkeeps.contents l).trans hbytes
    refine ⟨iff_of_true hfiles (.inr ?_), fun l bytes hbytes hlost => ?_⟩
    · rcases hnone with hway | hnone
      · exact .inl hway
      · exact .inr fun bytes hread => absurd hread (hnone bytes)
    · exact absurd (hfiles.contents l bytes hbytes) hlost

theorem generate_noPage {old : ByteArray} {f : ReportFault}
    (hway : (Path.directory r.path).isEmpty = true)
    (hfile : fs.readBytes (r.file kind) = .ok old) (hpage : r.render kind layout = .error f) :
    ∃ fs', r.generate fs kind layout = (.error (.report f), fs') ∧
      fs'.readBytes (r.file kind) = .ok (if r.keep then old else .empty) := by
  have hmade : fs.makeWay r.path = (.ok (), fs) :=
    makeWay_of_above (.inl (String.isEmpty_iff.mp hway))
  obtain ⟨l, hl, hold⟩ := contentAt_of_readBytes hfile
  obtain ⟨fs', hopen⟩ := writeBytes_of_content hl hold r.keep (Text.encoded "")
  obtain ⟨l', hl', hgrows, hcontent, -⟩ := writeText_nothing hopen
  cases hl.symm.trans hl'
  rw [hold, Option.getD_some] at hcontent
  exact ⟨fs', by simp only [generate, hmade, writeText, hopen, hpage],
    readBytes_of_content (hgrows.locate_file hl hold) hcontent⟩

def printedFiles (old : ByteArray) : FileSystem where
  root := .directory [("out", .directory [("report.pdf", .file old false)])]
  working := []

theorem printedFiles_generate (old : ByteArray) {keep : Bool} {layout : Option Layout}
    {f : ReportFault} (hpage : Report.render ⟨[], "out", keep⟩ "pdf" layout = .error f) :
    (printedFiles old).readBytes "out/report.pdf" = .ok old ∧
    ∃ fs', Report.generate ⟨[], "out", keep⟩ (printedFiles old) "pdf" layout =
        (.error (.report f), fs') ∧
      fs'.readBytes "out/report.pdf" = .ok (if keep then old else .empty) := by
  have hfile : Report.file ⟨[], "out", keep⟩ "pdf" = "out/report.pdf" := by
    have hjoin : Path.join "out" ("report." ++ "pdf") = "out/report.pdf" := rfl
    exact hjoin
  have hold : (printedFiles old).readBytes "out/report.pdf" = .ok old :=
    readBytes_of_plainBytes rfl
  refine ⟨hold, ?_⟩
  rw [← hfile] at hold ⊢
  have hway : (Path.directory "out").isEmpty = true := rfl
  exact generate_noPage hway hold hpage

/-- A layout that divides by zero. -/
def brokenLayout : Layout := ⟨"\x7b\x7b 1 / 0 \x7d\x7d", fun _ => .error "division by zero"⟩

theorem keepsFiles_iff_of_failure_added :
    ∃ fs', Report.generate ⟨[], "out", true⟩ (printedFiles "old\n".toUTF8) "pdf" brokenLayout =
        (.error (.report (.badLayout "division by zero")), fs') ∧
      KeepsFiles (printedFiles "old\n".toUTF8) fs' ∧
      fs'.readBytes "out/report.pdf" = .ok "old\n".toUTF8 := by
  obtain ⟨hold, fs', hmade, -⟩ := printedFiles_generate "old\n".toUTF8
    (show Report.render ⟨[], "out", true⟩ "pdf" brokenLayout = .error (.badLayout _) from rfl)
  have hfiles := (keepsFiles_iff_of_failure hmade).1.mpr (.inl rfl)
  exact ⟨fs', hmade, hfiles, hfiles.reads _ _ hold⟩

/-- The report that was there is lost, and there is no new one. -/
theorem old_report_emptied :
    (printedFiles "old\n".toUTF8).readBytes "out/report.pdf" = .ok "old\n".toUTF8 ∧
    ∃ fs', Report.generate ⟨[], "out", false⟩ (printedFiles "old\n".toUTF8) "pdf" none =
        (.error (.report (.noLayout "pdf")), fs') ∧
      fs'.readBytes "out/report.pdf" = .ok .empty ∧
      ¬KeepsFiles (printedFiles "old\n".toUTF8) fs' := by
  have hkind : pageKind? "pdf" = none := by decide
  have hpage : Report.render ⟨[], "out", false⟩ "pdf" none = .error (.noLayout "pdf") := by
    simp only [render, renderKind, hkind]
  obtain ⟨hold, fs', hmade, hempty⟩ := printedFiles_generate _ hpage
  refine ⟨hold, fs', hmade, hempty, fun hfiles => ?_⟩
  have hsize : "old\n".toUTF8.size = ByteArray.empty.size :=
    congrArg ByteArray.size (Except.ok.inj ((hfiles.reads _ _ hold).symm.trans hempty))
  exact absurd hsize (by decide)

end Report
end DroidAudit
