import DroidAudit.Cli.Run
import DroidAudit.Proofs.ExploitResources
import DroidAudit.Proofs.RecordedLines
import DroidAudit.Proofs.ReportHistory
import DroidAudit.Proofs.ScanSequence

/-! What of a scan comes into the report. The findings are put into a set, but each of them is a
member of its own, so the report has as many of the same name, file and line as were collected. -/
namespace DroidAudit

namespace Finding

def mark (f : Finding) : Value × Value × Value := (f.name, f.file, f.line)

def OnceIn (m : Value × Value × Value) (findings : List Finding) : Prop :=
  ∃ before f after, findings = before ++ f :: after ∧ f.mark = m ∧
    ∀ g ∈ before ++ after, g.mark ≠ m

/-- Of what was collected, those with the same mark were made one, and none was lost. -/
structure Merged (handed collected : List Finding) : Prop where
  once : ∀ f ∈ collected, OnceIn f.mark handed
  only : ∀ f ∈ handed, f ∈ collected

theorem merged_self_iff (findings : List Finding) :
    Merged findings findings ↔ (findings.map mark).Nodup := by
  constructor
  · intro h
    classical
    rw [List.nodup_iff_count_eq_one]
    intro m hm
    obtain ⟨f, hf, rfl⟩ := List.mem_map.mp hm
    obtain ⟨before, g, after, hsplit, hg, hothers⟩ := h.once f hf
    have hnone : ∀ part ⊆ before ++ after, f.mark ∉ part.map mark := by
      intro part hpart hmem
      obtain ⟨g', hg', heq⟩ := List.mem_map.mp hmem
      exact hothers g' (hpart hg') heq
    rw [hsplit, List.map_append, List.map_cons, hg, List.count_append, List.count_cons_self,
      List.count_eq_zero_of_not_mem (hnone before (List.subset_append_left ..)),
      List.count_eq_zero_of_not_mem (hnone after (List.subset_append_right ..))]
  · intro h
    refine ⟨fun f hf => ?_, fun f hf => hf⟩
    obtain ⟨before, after, hsplit⟩ := List.append_of_mem hf
    refine ⟨before, f, after, hsplit, rfl, ?_⟩
    rw [hsplit, List.map_append, List.map_cons] at h
    have hnot := (List.nodup_middle.mp h)
    rw [List.nodup_cons] at hnot
    intro g hg heq
    apply hnot.1
    rw [← List.map_append, ← heq]
    exact List.mem_map_of_mem hg

end Finding

namespace Detector
open Finding

/-! Keys. -/

theorem keys_marks {w : Surroundings} {source text : String}
    (hjava : Path.isJavaFile source = true) (htext : w.fs.textAt (some source) = .ok text)
    (hsome : text.isEmpty = false) :
    (contentKeys.alone w source).map mark =
      (contentKeys.hitLines text).map fun n =>
        (.text ContentDetector.keyNotice.name, .text source, recorded n) := by
  let s : Sight := ⟨some source, some text, none⟩
  have hs : s.OfJava text := ⟨⟨source, rfl, hjava⟩, rfl, by simp [s]⟩
  have hmark : ∀ f ∈ contentKeys.onFile w s,
      f.mark = (.text ContentDetector.keyNotice.name, .text source, f.line) := by
    intro f hf
    simp only [onFile, family, run, ContentDetector.keys, s, plainly,
      ContentDetector.not_binary_of_java hjava, Bool.false_eq_true, if_false, List.nil_append,
      List.mem_flatMap, List.mem_map] at hf
    obtain ⟨l, -, word, -, rfl⟩ := hf
    rfl
  have hlines := onFile_lines (d := .contentKeys) rfl w hs
  calc (contentKeys.alone w source).map mark
      = (contentKeys.onFile w s).map mark := by
        rw [alone_of_text rfl htext hsome]
        rfl
    _ = ((contentKeys.onFile w s).map (·.line)).map fun l =>
          (.text ContentDetector.keyNotice.name, .text source, l) := by
        rw [List.map_congr_left hmark, List.map_map]
        rfl
    _ = _ := by
        rw [hlines, List.map_map]
        rfl

/-- No line of a Java file has two keys if what was collected from it is merged. -/
theorem hitLines_nodup_of_marks {w : Surroundings} {source text : String}
    (hjava : Path.isJavaFile source = true) (htext : w.fs.textAt (some source) = .ok text)
    (hsome : text.isEmpty = false)
    (h : ((Scan.fileDetectors.flatMap (·.alone w source)).map mark).Nodup) :
    (contentKeys.hitLines text).Nodup := by
  have hmem : contentKeys ∈ Scan.fileDetectors := by decide
  have hsub : (contentKeys.alone w source).Sublist
      (Scan.fileDetectors.flatMap (·.alone w source)) :=
    List.sublist_flatten_of_mem (List.mem_map_of_mem hmem)
  have hkeys := (hsub.map mark).nodup h
  rw [keys_marks hjava htext hsome] at hkeys
  exact hkeys.of_map

end Detector

namespace FileSystem

theorem exists?_of_readBytes {fs : FileSystem} {path : String} {bytes : ByteArray}
    (h : fs.readBytes path = .ok bytes) : fs.exists? path = true := by
  unfold readBytes at h
  unfold exists?
  cases hentry : fs.entry path with
  | error c =>
    rw [hentry] at h
    cases h
  | ok e => rfl

def oneJava (text : String) : FileSystem where
  root := .directory [("A.java", .file text.toUTF8 false)]
  working := []

theorem readBytes_oneJava (text : String) :
    (oneJava text).readBytes "A.java" = .ok text.toUTF8 :=
  readBytes_of_plainBytes rfl

end FileSystem

namespace Preparation

/-! Sources. -/

theorem prepare_source (t : Tools) (desk : Desk) {p : Preparation} (h : p.isSource = true) :
    (prepare t).outcome ⟨desk, p⟩ = (.ok (), ⟨desk, p⟩) := by
  have happ : app.outcome ⟨desk, p⟩ = (.ok p, ⟨desk, p⟩) := rfl
  rw [prepare, Step.outcome_bind happ, if_pos h]
  rfl

theorem run_source (t : Tools) (desk : Desk) {p : Preparation} (h : p.isSource = true) :
    (run t).outcome ⟨desk, p⟩ = (.ok (), ⟨desk, p⟩) := by
  have happ : app.outcome ⟨desk, p⟩ = (.ok p, ⟨desk, p⟩) := rfl
  rw [run, Step.outcome_bind happ, if_pos h]
  rfl

end Preparation

namespace Cli
open Finding

/-! The set of what was collected. -/

theorem foldl_addMember (set : List (Finding × Nat)) (findings : List Finding) (next : Nat)
    (h : ∀ g ∈ set, g.2 < next) :
    (findings.zipIdx next).foldl addMember set = set ++ findings.zipIdx next := by
  induction findings generalizing set next with
  | nil => simp
  | cons f rest ih =>
    have hnew : addMember set (f, next) = set ++ [(f, next)] := by
      rw [addMember, if_neg]
      intro hany
      obtain ⟨g, hg, heq⟩ := List.any_eq_true.mp hany
      exact absurd (beq_iff_eq.mp heq) (Nat.ne_of_lt (h g hg))
    rw [List.zipIdx_cons, List.foldl_cons, hnew, ih, List.append_assoc]
    · rfl
    · intro g hg
      rcases List.mem_append.mp hg with hg | hg
      · exact Nat.lt_succ_of_lt (h g hg)
      · cases List.mem_singleton.mp hg
        exact Nat.lt_succ_self next

theorem members_eq (collected : List Finding) : members collected = collected := by
  rw [members, foldl_addMember [] collected 0 (by simp), List.nil_append, List.zipIdx_map_fst]

theorem reportOn_findings (setup : Setup) (o : Options) (collected : List Finding) :
    (reportOn setup o collected).findings = collected :=
  members_eq collected

/-! The report. -/

theorem audit_outcome {setup : Setup} {o : Options} {source : String} {p p' : Progress}
    {app : Preparation} {collected : List Finding}
    (h : (collect setup o source).outcome p = (.ok (app, collected), p')) (sdk : Option String) :
    (audit setup o source sdk).outcome p = (conclude setup o sdk app collected).outcome p' := by
  rw [audit, Step.outcome_bind h]

theorem report_puts {setup : Setup} {o : Options} {collected : List Finding} {p p' : Progress}
    {path : String} (h : (report setup o collected).outcome p = (.ok path, p')) :
    ∃ text l, o.kind.render? collected = some text ∧
      PageWrite.Puts ⟨path, o.keepReport, text⟩ p.desk.fs p'.desk.fs l := by
  have hmade : (reportOn setup o collected).generate p.desk.fs o.kind.name none =
      (.ok path, p'.desk.fs) := by
    generalize hgenerate : (reportOn setup o collected).generate p.desk.fs o.kind.name none = made
    obtain ⟨result, fs'⟩ := made
    rw [report, atDesk, Desk.perform] at h
    simp only [Step.within, Step.outcome_of, hgenerate, Prod.mk.injEq] at h
    obtain ⟨rfl, rfl⟩ := h
    rfl
  obtain ⟨rfl, w, l, hw, hputs⟩ := Report.generate_ok hmade
  rw [Report.pageWrite?, Report.render?_name, reportOn_findings] at hw
  obtain ⟨text, htext, rfl⟩ := Option.map_eq_some_iff.mp hw
  exact ⟨text, l, htext, hputs⟩

/-- Everything that was collected is handed to the report, in some order. So there is one finding for
each name, file and line exactly if no two were collected that agree in them. -/
theorem merged_iff_marks_nodup {setup : Setup} {o : Options} {source : String} {p p' : Progress}
    {app : Preparation} {collected : List Finding}
    (h : (collect setup o source).outcome p = (.ok (app, collected), p')) (sdk : Option String) :
    (audit setup o source sdk).outcome p = (conclude setup o sdk app collected).outcome p' ∧
    (reportOn setup o collected).findings.Perm collected ∧
    (Merged (reportOn setup o collected).findings collected ↔ (collected.map mark).Nodup) ∧
    ∀ p₁ p₂ path, (report setup o collected).outcome p₁ = (.ok path, p₂) →
      ∃ handed text l, handed.Perm collected ∧ o.kind.render? handed = some text ∧
        PageWrite.Puts ⟨path, o.keepReport, text⟩ p₁.desk.fs p₂.desk.fs l := by
  rw [reportOn_findings]
  refine ⟨audit_outcome h sdk, .refl collected, merged_self_iff collected, fun p₁ p₂ path hmade => ?_⟩
  obtain ⟨text, l, htext, hputs⟩ := report_puts hmade
  exact ⟨collected, text, l, .refl collected, htext, hputs⟩

/-! Runs on one Java file. -/

theorem prepare_java (t : Tools) (build : String) {source : String} {p : Progress}
    (hjava : Path.isJavaFile source = true)
    (hsuits : Preparation.isAcceptable p.desk.fs source = true) :
    (prepare t source build).outcome p =
      (.ok (Preparation.given p.desk.fs source (some build)), p) := by
  have hsource : (Preparation.given p.desk.fs source (some build)).isSource = true := by
    simp [Preparation.given, hjava]
  have hstart : Preparation.start t p.desk source (some build) =
      (.ok (Preparation.given p.desk.fs source (some build)), p.desk) := by
    rw [Preparation.start, hsuits, Preparation.prepare_source t _ hsource]
    rfl
  rw [prepare, atDesk, Step.within, Step.outcome_of, Step.outcome_of, hstart]
  dsimp only
  rw [Preparation.run_source t _ hsource]
  rfl

theorem scan_java {app : Preparation} {p : Progress} (hsource : app.isSource = true)
    (hmanifest : app.manifest = none) (hjava : Path.isJavaFile app.source = true)
    (hholds : Surroundings.Holds ⟨p.desk.fs, {}⟩ app.source) :
    ∃ p', (scan app).outcome p =
      (.ok (Scan.fileDetectors.flatMap (·.alone ⟨p.desk.fs, {}⟩ app.source)), p') := by
  let r : Scan.Request := ⟨p.desk.fs, none, app.source, hjava⟩
  have hgather : Scan.gather p.desk.fs (some app.source) = .ok [app.source] := by
    rw [Scan.gather, if_pos hjava]
  have hcheck : r.checked {} app.source =
      (Scan.fileDetectors.flatMap (·.alone ⟨p.desk.fs, {}⟩ app.source), none) :=
    Scan.check_single Scan.fileDetectors_of_files hholds
  have hrun : (Scan.run { fs := p.desk.fs } none [app.source]).2 =
      ⟨[app.source], Scan.fileDetectors.flatMap (·.alone ⟨p.desk.fs, {}⟩ app.source), none⟩ := by
    have hstep := (r.run_step { fs := p.desk.fs } hjava (.inr ⟨rfl, rfl⟩)).2.2
    have hlearnt : (Manifest.update r.fs {} r.manifest).1 = {} := rfl
    rw [r.result_of_reaches rfl, hlearnt, hcheck, Scan.Request.run, r.files_eq] at hstep
    exact hstep
  generalize hresult : Scan.run { fs := p.desk.fs } none [app.source] = result at hrun
  obtain ⟨s, result⟩ := result
  cases hrun
  simp only [scan, atDesk, Desk.perform, Step.within, Step.outcome_of, hsource, hmanifest, if_true,
    hgather, hresult]
  exact ⟨_, rfl⟩

theorem collect_java (setup : Setup) (o : Options) {source : String} {p : Progress}
    (hjava : Path.isJavaFile source = true)
    (hsuits : Preparation.isAcceptable p.desk.fs source = true)
    (hholds : Surroundings.Holds ⟨p.desk.fs, {}⟩ source) :
    ∃ app p', (collect setup o source).outcome p =
      (.ok (app, Scan.fileDetectors.flatMap (·.alone ⟨p.desk.fs, {}⟩ source)), p') := by
  have hsay : ∀ (line : String) (p : Progress),
      (say line).outcome p = (.ok (), { p with lines := p.lines ++ [line] }) := fun _ _ => rfl
  have hsource : (Preparation.given p.desk.fs source (some o.buildPath)).isSource = true := by
    simp [Preparation.given, hjava]
  have hprepare := prepare_java setup.tools o.buildPath
    (p := { p with lines := p.lines ++ ["Starting Decompilation..."] }) hjava hsuits
  obtain ⟨p', hscan⟩ := scan_java (p := { p with
    lines := p.lines ++ ["Starting Decompilation..."] ++ ["Scanning for vulnerabilities..."] })
    hsource rfl hjava hholds
  rw [collect, Step.outcome_bind (hsay ..), Step.outcome_bind hprepare,
    Step.outcome_bind (hsay ..), Step.outcome_bind hscan, Step.outcome_bind (hsay ..)]
  exact ⟨_, _, rfl⟩

theorem oneJava_acceptable (text : String) :
    Preparation.isAcceptable (.oneJava text) "A.java" = true := by
  have hexists := FileSystem.exists?_of_readBytes (FileSystem.readBytes_oneJava text)
  have hends : Preparation.extensions.contains (Path.extension (Text.lower "A.java")) = true := by
    decide
  rw [Preparation.isAcceptable, hexists, hends]
  simp

def plainSetup : Setup where
  tools :=
    { converter := "", unpacker := "", decompilers := "", javaVersion := .error ""
      run := fun _ fs => (.error "", fs) }
  environment := []
  reports := "default_report"
  template := "tpl"

def csvOptions : Options := ⟨none, "build", false, some "A.java", .csv, false, none, false⟩

theorem flatMap_eq_of_others {α β : Type} {f : α → List β} {a : α} {as : List α} (has : as.Nodup)
    (ha : a ∈ as) (hothers : ∀ b ∈ as, b ≠ a → f b = []) : as.flatMap f = f a := by
  obtain ⟨before, after, rfl⟩ := List.append_of_mem ha
  have hnot := (List.nodup_cons.mp (List.nodup_middle.mp has)).1
  have hnone : ∀ part ⊆ before ++ after, part.flatMap f = [] := by
    refine fun part hpart => List.flatMap_eq_nil_iff.mpr fun b hb => hothers b ?_ ?_
    · exact List.perm_middle.mem_iff.mpr (List.mem_cons_of_mem a (hpart hb))
    · exact ne_of_mem_of_not_mem (hpart hb) hnot
  rw [List.flatMap_append, List.flatMap_cons, hnone before (List.subset_append_left ..),
    hnone after (List.subset_append_right ..), List.nil_append, List.append_nil]

theorem collect_oneJava (text : String) (hplain : Text.plainText? text.toUTF8 = some text)
    (hread : (Java.read text).toOption.isSome = true) :
    (FileSystem.oneJava text).textAt (some "A.java") = .ok text ∧
    ∃ app p', (collect plainSetup csvOptions "A.java").outcome { desk := { fs := .oneJava text } } =
      (.ok (app, Scan.fileDetectors.flatMap (·.alone ⟨.oneJava text, {}⟩ "A.java")), p') := by
  have htext : (FileSystem.oneJava text).textAt (some "A.java") = .ok text :=
    FileSystem.textAt_of_plain text.toUTF8 rfl hplain
  have hjava : Path.isJavaFile "A.java" = true := by decide
  exact ⟨htext, collect_java plainSetup csvOptions (p := { desk := { fs := .oneJava text } }) hjava
    (oneJava_acceptable text) ⟨⟨text, htext⟩, Surroundings.tame_of_read htext hread⟩⟩

def keyLines : String := "// aB3456789012345678-x\n// aB3456789012345678-y\nclass A \x7b\x7d"

def keyLinesTree : Java.Node :=
  .mk .compilationUnit none [(.other, .mk (.classDeclaration "A") (some ⟨3, 1⟩) [])]

def keyLinesSight : Sight := ⟨some "A.java", some keyLines, some keyLinesTree⟩

/-- The text, the tree and the keys of the file. No pattern is on a line of it, and no detector that
does not look for keys or for a pattern on a line reports anything. -/
theorem keyLines_facts :
    (Text.plainText? keyLines.toUTF8 = some keyLines ∧ Java.read keyLines = .ok keyLinesTree ∧
      Detector.contentKeys.hitLines keyLines = [1, 2]) ∧
    (∀ p ∈ [LinePattern.worldReadable, .worldWriteable, .privateKey],
      ((Text.Encoding.utf8.linesOf keyLines.toUTF8).filter p.keeps).isEmpty = true) ∧
    ∀ d ∈ Scan.fileDetectors, d = .contentKeys ∨ d = .filePermissions ∨ d = .privateKeys ∨
      (d.run ⟨.oneJava keyLines, {}⟩ keyLinesSight none []).1.isEmpty = true := by
  have hchars : keyLines.toList = _ := String.toList_ofList
  refine ⟨⟨Text.plainText?_toUTF8 ?_ ?_, ?_, ?_⟩, by decide +kernel⟩
  · rw [Text.isPlain, hchars]
    decide
  · rw [hchars]
    decide
  · rw [Java.read_of_toList hchars]
    decide +kernel
  · rw [Detector.hitLines, hchars]
    decide +kernel

theorem keyLines_others {d : Detector} (hd : d ∈ Scan.fileDetectors) (hne : d ≠ .contentKeys)
    (htext : (FileSystem.oneJava keyLines).textAt (some "A.java") = .ok keyLines) :
    d.alone ⟨.oneJava keyLines, {}⟩ "A.java" = [] := by
  obtain ⟨⟨-, hread, -⟩, hkeeps, hothers⟩ := keyLines_facts
  have hrun : d.alone ⟨.oneJava keyLines, {}⟩ "A.java" =
      (d.run ⟨.oneJava keyLines, {}⟩ keyLinesSight none []).1 :=
    Detector.alone_of_tree (w := ⟨.oneJava keyLines, {}⟩) htext rfl (by decide) hread
  have hbytes := FileSystem.bytesAt_of_readBytes (FileSystem.readBytes_oneJava keyLines)
  have hlines : ∀ p ∈ [LinePattern.worldReadable, .worldWriteable, .privateKey],
      p.linesIn (.oneJava keyLines) keyLinesSight.path (some .utf8) = [] := by
    intro p hp
    rw [LinePattern.linesIn, keyLinesSight, hbytes]
    exact List.map_eq_nil_iff.mpr (List.isEmpty_iff.mp (hkeeps p hp))
  rw [hrun]
  rcases hothers d hd with heq | rfl | rfl | hempty
  · exact absurd heq hne
  · simp only [Detector.run, ContentDetector.filePermissions, ContentDetector.ifSomeLine,
      hlines .worldReadable (by simp), hlines .worldWriteable (by simp), List.isEmpty_nil, if_true,
      List.append_nil]
  · simp only [Detector.run, ContentDetector.privateKeys, ContentDetector.ifSomeLine,
      hlines .privateKey (by simp), List.isEmpty_nil, if_true, List.append_nil]
  · exact List.isEmpty_iff.mp hempty

theorem merged_iff_marks_nodup_key_lines :
    ∃ app collected p', (collect plainSetup csvOptions "A.java").outcome
        { desk := { fs := .oneJava keyLines } } = (.ok (app, collected), p') ∧
      collected.length = 2 ∧
      Merged (reportOn plainSetup csvOptions collected).findings collected := by
  obtain ⟨hplain, hread, hlines⟩ := keyLines_facts.1
  obtain ⟨htext, app, p', hcollect⟩ := collect_oneJava keyLines hplain (by rw [hread]; rfl)
  have hkeys : Scan.fileDetectors.flatMap (·.alone ⟨.oneJava keyLines, {}⟩ "A.java") =
      Detector.contentKeys.alone ⟨.oneJava keyLines, {}⟩ "A.java" :=
    flatMap_eq_of_others (by decide) (by decide) fun d hd hne => keyLines_others hd hne htext
  rw [hkeys] at hcollect
  have hmarks := Detector.keys_marks (w := ⟨.oneJava keyLines, {}⟩) (by decide) htext rfl
  rw [hlines] at hmarks
  refine ⟨app, _, p', hcollect, ?_, (merged_iff_marks_nodup hcollect none).2.2.1.mpr ?_⟩
  · rw [← List.length_map mark, hmarks, List.length_map]
    rfl
  · rw [hmarks]
    simp [Detector.recorded]

def twoKeys : String := "class A \x7b\x7d // aB3456789012345678-x aB3456789012345678-y"

theorem two_keys_not_merged :
    ∃ app collected p', (collect plainSetup csvOptions "A.java").outcome
        { desk := { fs := .oneJava twoKeys } } = (.ok (app, collected), p') ∧
      ¬Merged (reportOn plainSetup csvOptions collected).findings collected := by
  have hfacts : Text.plainText? twoKeys.toUTF8 = some twoKeys ∧
      (Java.read twoKeys).toOption.isSome = true ∧
      Detector.contentKeys.hitLines twoKeys = [1, 1] := by
    have hchars : twoKeys.toList = _ := String.toList_ofList
    rw [Java.read_of_toList hchars, Detector.hitLines, hchars]
    refine ⟨Text.plainText?_toUTF8 ?_ ?_, by decide +kernel⟩
    · rw [Text.isPlain, hchars]
      decide
    · rw [hchars]
      decide
  obtain ⟨hplain, hread, htwo⟩ := hfacts
  obtain ⟨htext, app, p', hcollect⟩ := collect_oneJava twoKeys hplain hread
  refine ⟨app, _, p', hcollect, fun hmerged => ?_⟩
  rw [reportOn_findings, merged_self_iff] at hmerged
  have hlines : (Detector.contentKeys.hitLines twoKeys).Nodup :=
    Detector.hitLines_nodup_of_marks (w := ⟨.oneJava twoKeys, {}⟩) (by decide) htext rfl hmerged
  rw [htwo] at hlines
  exact absurd hlines (by decide)

end Cli
end DroidAudit
