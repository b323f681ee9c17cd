import DroidAudit.Proofs.EncodedText
import DroidAudit.Proofs.ExportedReport
import DroidAudit.Proofs.ManifestHistory
import DroidAudit.Proofs.Numeral
import DroidAudit.Scan

/-! The first part of a scan: the manifest is learnt and its detectors run. Main statement: for which
documents this part gets through. -/
namespace DroidAudit

namespace Manifest

def givenLevel? (root : Xml.Element) (key : String) : Option String :=
  (root.allWritten "uses-sdk").head?.bind fun e => e.attribute? key

inductive Gives (root : Xml.Element) (key : String) : Int → Prop
  | unwritten (h : givenLevel? root key = none) : Gives root key 1
  | written (text : String) (n : Text.Numeral) (h : givenLevel? root key = some text)
      (hchars : Text.plainNumber text.toList = n.chars) : Gives root key n.value

theorem level_eq (root : Xml.Element) (key : String) :
    level root key =
      if root.isTooDeep then .error .tooDeep
      else
        match givenLevel? root key with
        | none => .ok 1
        | some text => (Text.readInteger text).mapError .number := by
  unfold level givenLevel?
  cases root.allWritten "uses-sdk" <;> rfl

theorem level_ok_iff (root : Xml.Element) (key : String) (value : Int) :
    level root key = .ok value ↔ root.isTooDeep = false ∧ Gives root key value := by
  rw [level_eq]
  cases hdeep : root.isTooDeep with
  | true => simp
  | false =>
    simp only [Bool.false_eq_true, if_false, true_and]
    constructor
    · intro h
      cases hgiven : givenLevel? root key with
      | none =>
        rw [hgiven] at h
        cases h
        exact .unwritten hgiven
      | some text =>
        cases hread : Text.readInteger text with
        | error e => simp [hgiven, hread, Except.mapError] at h
        | ok n =>
          obtain rfl : n = value := by simpa [hgiven, hread, Except.mapError] using h
          obtain ⟨n, hchars, rfl⟩ := Text.readInteger_ok_iff.mp hread
          exact .written text n hgiven hchars
    · rintro (hgiven | ⟨text, n, hgiven, hchars⟩)
      · rw [hgiven]
      · simp [hgiven, n.readInteger hchars, Except.mapError]

end Manifest

namespace ExportedDetector

theorem complete_nil (fs : FileSystem) {f : Finding} {c : Component} (h : Concerns f c) :
    (complete fs [] f).2 = none := by
  unfold complete
  split
  · split <;> rfl
  · rfl
  · rename_i htable _
    cases hexploit : f.exploit with
    | table entries => exact absurd hexploit (htable entries)
    | _ => simp [Concerns, hexploit, Value.get?] at h

theorem completeAll_nil (fs : FileSystem) {found : List Finding}
    (h : ∀ f ∈ found, ∃ c, Concerns f c) : (completeAll fs [] found).2 = none := by
  induction found with
  | nil => rfl
  | cons f rest ih =>
    obtain ⟨⟨c, hc⟩, hrest⟩ := List.forall_mem_cons.mp h
    have hnone := complete_nil fs hc
    rw [completeAll]
    cases hcomplete : complete fs [] f with
    | mk g e =>
      rw [hcomplete] at hnone
      cases hnone
      exact ih hrest

theorem run_of_root (fs : FileSystem) {m : Manifest} {root : Xml.Element}
    (hroot : m.root = some root) (files : List String) (known : List Finding) :
    run fs m (some files) known =
      if root.isTooDeep then (known, some .tooDeep)
      else completeAll fs (files.filter Path.isJavaFile) (known ++ fromManifest m root) := by
  rw [run, hroot]

theorem run_eq_none_iff (fs : FileSystem) {m : Manifest} {root : Xml.Element} {files : List String}
    (hroot : m.root = some root) (hfiles : ∀ f ∈ files, Path.isJavaFile f = false) :
    (run fs m (some files) []).2 = none ↔ root.isTooDeep = false := by
  have hjava : files.filter Path.isJavaFile = [] :=
    List.filter_eq_nil_iff.mpr fun f hf => by simp [hfiles f hf]
  rw [run_of_root fs hroot, hjava, List.nil_append]
  by_cases hdeep : root.isTooDeep = true
  · rw [if_pos hdeep]
    simp [hdeep]
  · rw [if_neg hdeep, completeAll_nil fs (fromManifest_concerns m root)]
    simp [hdeep]

end ExportedDetector

namespace ManifestDetector

theorem linesWith_eq_none_iff {fs : FileSystem} {m : Manifest} {bytes : ByteArray}
    (h : fs.bytesAt m.path = .ok bytes) (word : String) (n : Notice) :
    (linesWith fs m word n).2 = none ↔ ∃ s : String, bytes = s.toUTF8 := by
  rw [← Text.utf8Fault_eq_none_iff]
  simp [linesWith, h, Text.utf8Lines]

end ManifestDetector

namespace Scan

theorem runManifest_eq_none_iff (w : Surroundings) (files : List String) (ds : List Detector) :
    (runManifest w files ds).2 = none ↔
      ∀ d ∈ ds, (d.run w ⟨none, none, none⟩ (some files) []).2 = none := by
  induction ds with
  | nil => simp [runManifest]
  | cons d rest ih =>
    rw [runManifest, List.forall_mem_cons, ← ih]
    cases d.run w ⟨none, none, none⟩ (some files) [] with
    | mk found e => cases e <;> simp

/-- The detectors of manifests get through a document that is not nested too deep and is UTF-8. -/
theorem runManifest_manifest_eq_none_iff {w : Surroundings} {root : Xml.Element}
    {bytes : ByteArray} {files : List String} (hroot : w.manifest.root = some root)
    (hbytes : w.fs.bytesAt w.manifest.path = .ok bytes)
    (hfiles : ∀ f ∈ files, Path.isJavaFile f = false) :
    (runManifest w files (Category.manifest.detectors.map (·.2))).2 = none ↔
      root.isTooDeep = false ∧ ∃ s : String, bytes = s.toUTF8 := by
  have hexported := ExportedDetector.run_eq_none_iff w.fs hroot hfiles
  have hlines := ManifestDetector.linesWith_eq_none_iff hbytes
  rw [runManifest_eq_none_iff]
  simp only [Category.detectors, List.map_cons, List.map_nil, List.forall_mem_cons, Detector.run,
    hexported, hlines]
  simp

/-- The first part of a scan: the session it leaves, what it found, and its failure. -/
def manifestStage (s : Session) (manifest : Option String) (files : List String) :
    Session × List Finding × Option Failure :=
  match s.updateManifest manifest with
  | (s, some e) => (s, [], some e)
  | (s, none) =>
    if s.manifest.root.isSome then
      (s, runManifest s.surroundings files (Category.manifest.detectors.map (·.2)))
    else (s, [], none)

theorem manifestStage_spec (s : Session) (path : Option String) (files : List String) :
    manifestStage s path files =
      ({ s with manifest := (s.manifest.update s.fs path).1 },
        match (s.manifest.update s.fs path).2 with
        | some e => ([], some e)
        | none =>
          if (⟨s.fs, path⟩ : Manifest.Lesson).root?.isSome then
            runManifest ⟨s.fs, (s.manifest.update s.fs path).1⟩ files
              (Category.manifest.detectors.map (·.2))
          else ([], none)) := by
  rw [← Manifest.update_root s.manifest]
  unfold manifestStage Session.updateManifest
  cases s.manifest.update s.fs path with
  | mk m e =>
    cases e with
    | some e => rfl
    | none => by_cases hroot : m.root.isSome = true <;> simp [hroot, Session.surroundings]

theorem manifestStage_eq (s : Session) (path : Option String) (files : List String) :
    manifestStage s path files =
      ({ s with manifest := (s.manifest.update s.fs path).1 },
        (manifestStage { fs := s.fs } path files).2) := by
  rw [manifestStage_spec s, manifestStage_spec { fs := s.fs }]
  have hfailure := Manifest.update_failure s.manifest s.fs path
  cases hupdate : (Manifest.update s.fs {} path).2 with
  | some e => simp only [hfailure, hupdate]
  | none =>
    by_cases hroot : (⟨s.fs, path⟩ : Manifest.Lesson).root?.isSome = true
    · have hsame := Manifest.update_of_root hroot (hfailure.trans hupdate)
      simp only [hsame, hfailure, hupdate]
    · simp only [hfailure, hupdate, if_neg hroot]

theorem run_eq (s : Session) (manifest : Option String) (files : List String) :
    run s manifest files =
      match manifestStage s manifest files with
      | (s, found, some e) => (s, ⟨files, found, some e⟩)
      | (s, found, none) =>
        ((check s fileDetectors files).1,
          ⟨files, found ++ (check s fileDetectors files).2.1,
            (check s fileDetectors files).2.2⟩) := by
  unfold run manifestStage
  cases s.updateManifest manifest with
  | mk t e =>
    cases e with
    | some e => rfl
    | none =>
      by_cases hroot : t.manifest.root.isSome = true
      · simp only [hroot, if_true]
        cases runManifest t.surroundings files (Category.manifest.detectors.map (·.2)) with
        | mk found e => cases e <;> rfl
      · simp only [hroot]
        rfl

end Scan

/-! Which documents the first part gets through. -/

namespace Manifest
namespace Lesson

variable {c : Lesson} {root tree : Xml.Element}

theorem gives_of_package? (hroot : c.root? = some root) (h : c.package?.isSome = true) :
    ∃ v w, c.minSdk? = some v ∧ c.targetSdk? = some w ∧ root.isTooDeep = false ∧
      Gives root "android:minSdkVersion" v ∧ Gives root "android:targetSdkVersion" w := by
  obtain ⟨v, w, -, hv, hw, -⟩ := of_package?_isSome h
  have hmin := hv
  have htarget := hw
  rw [minSdk?, hroot, Option.bind_some, toOption_eq_some_iff] at hmin
  rw [targetSdk?, hv, Option.bind_some, hroot, Option.bind_some, toOption_eq_some_iff] at htarget
  obtain ⟨hdeep, hgives⟩ := (level_ok_iff _ _ _).mp hmin
  exact ⟨v, w, hv, hw, hdeep, hgives, ((level_ok_iff _ _ _).mp htarget).2⟩

theorem package?_isSome_iff (hroot : c.root? = some root)
    (htree : readRoot c.fs .tree c.path = .ok tree) :
    c.package?.isSome = true ↔ root.isTooDeep = false ∧
      (∃ v, Gives root "android:minSdkVersion" v) ∧
      ∃ w, Gives root "android:targetSdkVersion" w := by
  constructor
  · intro h
    obtain ⟨v, w, -, -, hdeep, hv, hw⟩ := gives_of_package? hroot h
    exact ⟨hdeep, ⟨v, hv⟩, ⟨w, hw⟩⟩
  · rintro ⟨hdeep, ⟨v, hv⟩, ⟨w, hw⟩⟩
    have hmin : minSdkOf root = .ok v := (level_ok_iff _ _ _).mpr ⟨hdeep, hv⟩
    have htarget : targetSdkOf root = .ok w := (level_ok_iff _ _ _).mpr ⟨hdeep, hw⟩
    have hpackage : packageAt c.fs c.path = .ok (packageOf tree) := by
      rw [packageAt, htree]
      rfl
    simp [package?, targetSdk?, minSdk?, hroot, hmin, htarget, hpackage, Except.toOption]

end Lesson
end Manifest

namespace Scan

/-- The first part of a scan with a document: it fails where learning the document fails, or else
where its detectors do. -/
theorem manifestStage_of_root {s : Session} {path : Option String} {root : Xml.Element}
    (hroot : (⟨s.fs, path⟩ : Manifest.Lesson).root? = some root) (files : List String) :
    (manifestStage s path files).1.manifest = (s.manifest.update s.fs path).1 ∧
    ((manifestStage s path files).2.2 = none ↔
      (⟨s.fs, path⟩ : Manifest.Lesson).package?.isSome = true ∧
      (runManifest ⟨s.fs, (s.manifest.update s.fs path).1⟩ files
        (Category.manifest.detectors.map (·.2))).2 = none) := by
  have hfails := Manifest.update_eq_none_iff s.manifest ⟨s.fs, path⟩
  rw [hroot] at hfails
  simp only [reduceCtorEq, false_or] at hfails
  rw [manifestStage_spec, ← hfails, hroot]
  cases (s.manifest.update s.fs path).2 <;> simp

theorem root?_of_readBytes {fs : FileSystem} {path : String} {bytes : ByteArray}
    {root : Xml.Element} (hbytes : fs.readBytes path = .ok bytes)
    (hroot : Xml.read .document bytes = .ok root) :
    (⟨fs, some path⟩ : Manifest.Lesson).root? = some root := by
  have hat := FileSystem.bytesAt_of_readBytes hbytes
  rw [Manifest.Lesson.root?, Manifest.readRoot_of_bytes hat, hroot]
  rfl

theorem manifestStage_eq_none_iff (s : Session) {path : String} {bytes : ByteArray}
    {root tree : Xml.Element} {files : List String} (hbytes : s.fs.readBytes path = .ok bytes)
    (hroot : Xml.read .document bytes = .ok root) (htree : Xml.read .tree bytes = .ok tree)
    (hfiles : ∀ f ∈ files, Path.isJavaFile f = false) :
    (manifestStage s (some path) files).2.2 = none ↔ root.isTooDeep = false ∧
      (∃ v, Manifest.Gives root "android:minSdkVersion" v) ∧
      (∃ w, Manifest.Gives root "android:targetSdkVersion" w) ∧
      ∃ text : String, bytes = text.toUTF8 := by
  have hat := FileSystem.bytesAt_of_readBytes hbytes
  have hread : Manifest.readRoot s.fs .tree (some path) = .ok tree := by
    rw [Manifest.readRoot_of_bytes hat, htree]
    rfl
  have hlesson := Manifest.update_lesson s.manifest ⟨s.fs, some path⟩
  have hdocument := root?_of_readBytes hbytes hroot
  have hdetectors : (runManifest ⟨s.fs, (s.manifest.update s.fs (some path)).1⟩ files
      (Category.manifest.detectors.map (·.2))).2 = none ↔
      root.isTooDeep = false ∧ ∃ text : String, bytes = text.toUTF8 :=
    runManifest_manifest_eq_none_iff (by rw [hlesson, hdocument]) (by rw [hlesson]; exact hat) hfiles
  rw [(manifestStage_of_root hdocument files).2, hdetectors,
    Manifest.Lesson.package?_isSome_iff hdocument hread]
  constructor
  · rintro ⟨⟨hdeep, hmin, htarget⟩, -, htext⟩
    exact ⟨hdeep, hmin, htarget, htext⟩
  · rintro ⟨hdeep, hmin, htarget, htext⟩
    exact ⟨⟨hdeep, hmin, htarget⟩, hdeep, htext⟩

/-- A manifest that can be read gets through the first part of a scan without source files exactly if
it is not nested too deep, each level that it gives is a whole number, and its bytes are UTF-8. The
scan then goes on with the levels that the manifest gives, which are one where it gives none. -/
theorem manifestStage_completes_iff (s : Session) {path : String} {bytes : ByteArray}
    {root tree : Xml.Element} {files : List String} (hbytes : s.fs.readBytes path = .ok bytes)
    (hroot : Xml.read .document bytes = .ok root) (htree : Xml.read .tree bytes = .ok tree)
    (hfiles : ∀ f ∈ files, Path.isJavaFile f = false) :
    ((manifestStage s (some path) files).2.2 = none ↔ root.isTooDeep = false ∧
      (∃ v, Manifest.Gives root "android:minSdkVersion" v) ∧
      (∃ w, Manifest.Gives root "android:targetSdkVersion" w) ∧
      ∃ text : String, bytes = text.toUTF8) ∧
    ((manifestStage s (some path) files).2.2 = none →
      Manifest.Gives root "android:minSdkVersion"
        (manifestStage s (some path) files).1.manifest.minSdk ∧
      Manifest.Gives root "android:targetSdkVersion"
        (manifestStage s (some path) files).1.manifest.targetSdk) ∧
    ∀ key value, Manifest.level root key = .ok value ↔
      root.isTooDeep = false ∧ Manifest.Gives root key value := by
  refine ⟨manifestStage_eq_none_iff s hbytes hroot htree hfiles, fun h => ?_,
    Manifest.level_ok_iff root⟩
  have hdocument := root?_of_readBytes hbytes hroot
  obtain ⟨hmanifest, hstage⟩ := manifestStage_of_root hdocument files
  obtain ⟨v, w, hmin, htarget, -, hv, hw⟩ :=
    Manifest.Lesson.gives_of_package? hdocument (hstage.mp h).1
  rw [hmanifest, Manifest.update_lesson s.manifest ⟨s.fs, some path⟩, hmin, htarget]
  exact ⟨hv, hw⟩

def leveledText (level : String) : String :=
  "<m xmlns:android=\"a\"><uses-sdk android:minSdkVersion=\"" ++ level ++ "\"/></m>"

/-- A document can be read in both ways, is not nested too deep and gives a lower level only. -/
def givesLevel (bytes : ByteArray) (level : String) : Bool :=
  match Xml.read .document bytes, Xml.read .tree bytes with
  | .ok root, .ok _ =>
    !root.isTooDeep && Manifest.givenLevel? root "android:minSdkVersion" == some level &&
      Manifest.givenLevel? root "android:targetSdkVersion" == none
  | _, _ => false

theorem of_givesLevel {bytes : ByteArray} {level : String} (h : givesLevel bytes level = true) :
    ∃ root tree, Xml.read .document bytes = .ok root ∧ Xml.read .tree bytes = .ok tree ∧
      root.isTooDeep = false ∧
      Manifest.givenLevel? root "android:minSdkVersion" = some level ∧
      Manifest.givenLevel? root "android:targetSdkVersion" = none := by
  unfold givesLevel at h
  split at h
  · rename_i root tree hroot htree
    simp only [Bool.and_eq_true, Bool.not_eq_true', beq_iff_eq] at h
    exact ⟨root, tree, hroot, htree, h.1.1, h.1.2, h.2⟩
  · cases h

theorem manifestStage_completes_iff_spaced :
    (∃ root tree, Xml.read .document (leveledText "+1_6").toUTF8 = .ok root ∧
      Xml.read .tree (leveledText "+1_6").toUTF8 = .ok tree) ∧
    (manifestStage { fs := .oneManifest (leveledText "+1_6") } (some "m.xml") ["a.txt"]).2.2 = none ∧
    (manifestStage { fs := .oneManifest (leveledText "+1_6") } (some "m.xml")
      ["a.txt"]).1.manifest.minSdk = 16 := by
  have hgives : givesLevel (leveledText "+1_6").toUTF8 "+1_6" = true := by decide +kernel
  obtain ⟨root, tree, hroot, htree, hdeep, hmin, htarget⟩ := of_givesLevel hgives
  have hlevel : Manifest.level root "android:minSdkVersion" = .ok 16 := by
    rw [Manifest.level_eq, hdeep, hmin]
    decide +kernel
  have hfiles : ∀ f ∈ ["a.txt"], Path.isJavaFile f = false := by decide
  obtain ⟨hcompletes, hlevels, hread⟩ := manifestStage_completes_iff
    { fs := .oneManifest (leveledText "+1_6") } (FileSystem.readBytes_oneManifest _) hroot htree
    hfiles
  have hsixteen := ((hread _ _).mp hlevel).2
  have hnone := hcompletes.mpr
    ⟨hdeep, ⟨16, hsixteen⟩, ⟨1, .unwritten htarget⟩, ⟨leveledText "+1_6", rfl⟩⟩
  have hfound := (hread _ _).mpr ⟨hdeep, (hlevels hnone).1⟩
  rw [hlevel] at hfound
  exact ⟨⟨root, tree, hroot, htree⟩, hnone, (Except.ok.inj hfound).symm⟩

/-- The letter by which a coming level is named stops the scan. -/
theorem lettered_level_stops :
    (∃ root tree, Xml.read .document (leveledText "Q").toUTF8 = .ok root ∧
      Xml.read .tree (leveledText "Q").toUTF8 = .ok tree) ∧
    (manifestStage { fs := .oneManifest (leveledText "Q") } (some "m.xml") []).2.2 ≠ none := by
  have hgives : givesLevel (leveledText "Q").toUTF8 "Q" = true := by decide +kernel
  obtain ⟨root, tree, hroot, htree, hdeep, hmin, -⟩ := of_givesLevel hgives
  refine ⟨⟨root, tree, hroot, htree⟩, fun hnone => ?_⟩
  obtain ⟨-, ⟨v, hv⟩, -⟩ := (manifestStage_eq_none_iff { fs := .oneManifest (leveledText "Q") }
    (FileSystem.readBytes_oneManifest _) hroot htree (by simp)).mp hnone
  have hlevel := (Manifest.level_ok_iff _ _ _).mpr ⟨hdeep, hv⟩
  have hletter : (Text.readInteger "Q").toOption = none := by decide +kernel
  rw [Manifest.level_eq, hdeep, hmin] at hlevel
  cases hread : Text.readInteger "Q" with
  | error e => simp [hread, Except.mapError] at hlevel
  | ok n =>
    rw [hread] at hletter
    cases hletter

end Scan
end DroidAudit
