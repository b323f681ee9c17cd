import DroidAudit.Detector.Manifest
import DroidAudit.Proofs.ManifestHistory
import DroidAudit.Proofs.ResolvedNames

/-! Flags in a manifest: applications to debug or to back up, weak permissions, and exact paths. Three
of their detectors ask for an attribute in no namespace whose name has a label, and no document has
one; the fourth does not look at the value. Main statement: for which documents each flag is
reported. -/
namespace DroidAudit

namespace Xml.Element

mutual
/-- The intent filters from an element on that lie in an application, in document order; `inside`
tells whether the element itself lies in one. -/
def filtersFrom (inside : Bool) : Element → List Element
  | mk name attributes text children =>
    let below := filtersOfChildren (inside || name.written == "application") children
    if inside && name.written == "intent-filter" then mk name attributes text children :: below
    else below

def filtersOfChildren (inside : Bool) : List (Element × String) → List Element
  | [] => []
  | (e, _) :: rest => filtersFrom inside e ++ filtersOfChildren inside rest
end

def childrenWritten (e : Element) (written : String) : List Element :=
  (e.children.map (·.1)).filter fun c => c.name.written == written

mutual
theorem mem_all_trans {e d : Element} (hd : d ∈ e.all) :
    ∀ root : Element, e ∈ root.all → d ∈ root.all
  | mk name attributes text children, he => by
    rw [all] at he ⊢
    rcases List.mem_cons.mp he with rfl | he
    · exact hd
    · exact List.mem_cons_of_mem _ (mem_allOfChildren_trans hd children he)

theorem mem_allOfChildren_trans {e d : Element} (hd : d ∈ e.all) :
    ∀ children : List (Element × String), e ∈ allOfChildren children → d ∈ allOfChildren children
  | [], he => absurd he List.not_mem_nil
  | (c, _) :: rest, he => by
    rw [allOfChildren] at he ⊢
    rcases List.mem_append.mp he with he | he
    · exact List.mem_append_left _ (mem_all_trans hd c he)
    · exact List.mem_append_right _ (mem_allOfChildren_trans hd rest he)
end

theorem all_eq_cons (e : Element) : e.all = e :: e.descendants := by
  cases e
  rfl

theorem mem_descendants_trans {root e d : Element} (he : e ∈ root.descendants)
    (hd : d ∈ e.descendants) : d ∈ root.descendants := by
  refine mem_allOfChildren_trans ?_ root.children he
  rw [all_eq_cons]
  exact List.mem_cons_of_mem _ hd

theorem mem_descendants_of_mem_childrenPlain {e c : Element} {part : String}
    (hc : c ∈ e.childrenPlain part) : c ∈ e.descendants := by
  obtain ⟨child, hchild, rfl⟩ := List.mem_map.mp (List.mem_of_mem_filter hc)
  rw [descendants, allOfChildren_eq]
  refine List.mem_flatMap.mpr ⟨child, hchild, ?_⟩
  rw [all_eq_cons]
  exact List.mem_cons_self

end Xml.Element

namespace ManifestDetector

/-! What is wanted of the detectors. -/

def debugApplications (tree : Xml.Element) : List Xml.Element :=
  (tree.allWritten "application").filter fun e =>
    (e.attribute? "android:debuggable").any fun v => Text.lower v == "true"

def backupApplications (root : Xml.Element) : List Xml.Element :=
  (root.allWritten "application").filter fun e => e.attribute? "android:allowBackup" == some "true"

def backupMentions (root : Xml.Element) : List Xml.Element :=
  (root.allWritten "application").filter fun e => (e.attribute? "android:allowBackup").isSome

/-- The permissions that protect little: dangerous ones, and those by signature on levels below
21. -/
def weakPermissions (minSdk : Int) (tree : Xml.Element) : List Xml.Element :=
  (tree.allWritten "permission").filter fun e =>
    (e.attribute? "android:protectionLevel").any fun level =>
      level == "dangerous" ||
        (level == "signature" || level == "signatureOrSystem") && decide (minSdk < 21)

/-- The data of intent filters in an application that names a path. -/
def pathData (tree : Xml.Element) : List Xml.Element :=
  ((tree.filtersFrom false).flatMap (·.childrenWritten "data")).filter fun e =>
    (e.attribute? "android:path").any (!·.isEmpty)

/-- Each flag of a document gets one finding, and there are no others. -/
structure FlagsReported (fs : FileSystem) (m : Manifest) (root tree : Xml.Element) : Prop where
  debug : (debuggable fs m).length = (debugApplications tree).length
  backup : (allowBackup m).length = (backupApplications root).length
  permissions : (customPermissions fs m).length = (weakPermissions m.minSdk tree).length
  paths : (exactPath fs m).length = (pathData tree).length

/-! What the detectors find. -/

theorem readRoot_resolved {fs : FileSystem} {w : Xml.Way} {path : Option String}
    {root : Xml.Element} (h : Manifest.readRoot fs w path = .ok root) : root.Resolved := by
  have hyields : Xml.Yields Xml.Element.Resolved (Manifest.readRoot fs w path) :=
    .thenRead fun bytes => (Xml.read_resolved w bytes).mapError _
  exact hyields root h

section
variable {fs : FileSystem} {m : Manifest} {tree : Xml.Element}

theorem mem_descendants_of_mem_filterData {e : Xml.Element}
    (he : e ∈ (tree.descendantsPlain "application").flatMap filterData) : e ∈ tree.descendants := by
  obtain ⟨application, happlication, he⟩ := List.mem_flatMap.mp he
  obtain ⟨filter, hfilter, he⟩ := List.mem_flatMap.mp he
  have hbelow := Xml.Element.mem_descendants_trans (List.mem_of_mem_filter happlication)
    (List.mem_of_mem_filter hfilter)
  exact Xml.Element.mem_descendants_trans hbelow (Xml.Element.mem_descendants_of_mem_childrenPlain he)

variable (htree : Manifest.readRoot fs .tree m.path = .ok tree)
include htree

theorem readAnew_of_tree (elements : Xml.Element → List Xml.Element) :
    readAnew fs m elements = elements tree := by
  rw [readAnew, htree]

theorem debuggable_eq_nil : debuggable fs m = [] := by
  rw [debuggable, readAnew_of_tree htree, List.map_eq_nil_iff, List.filter_eq_nil_iff]
  intro e he
  -- it is asked for by a name with one colon and in no namespace, and no attribute has such a name
  simp [(readRoot_resolved htree).plainAttribute?_eq_none (List.mem_of_mem_filter he)
    (show "android:debuggable".toList.count ':' = 1 from rfl)]

theorem customPermissions_eq_nil : customPermissions fs m = [] := by
  rw [customPermissions, readAnew_of_tree htree, List.filterMap_eq_nil_iff]
  intro e he
  simp [(readRoot_resolved htree).plainAttribute?_eq_none (List.mem_of_mem_filter he)
    (show "android:protectionLevel".toList.count ':' = 1 from rfl)]

theorem exactPath_eq_nil : exactPath fs m = [] := by
  rw [exactPath, readAnew_of_tree htree, List.map_eq_nil_iff, List.filter_eq_nil_iff]
  intro e he
  simp [(readRoot_resolved htree).plainAttribute?_eq_none (mem_descendants_of_mem_filterData he)
    (show "android:path".toList.count ':' = 1 from rfl)]

end

theorem allowBackup_eq {m : Manifest} {root : Xml.Element} (hroot : m.root = some root) :
    allowBackup m = List.replicate (if root.isTooDeep then 0 else (backupMentions root).length)
      (backupNotice.about m.path none) := by
  rw [allowBackup, hroot]
  dsimp only
  split
  · rfl
  · exact List.map_const'

/-- As many applications allow backups as say something on them exactly if none says something
else. -/
theorem length_backupMentions_eq_iff (root : Xml.Element) :
    (backupMentions root).length = (backupApplications root).length ↔
      ∀ e ∈ backupMentions root, e.attribute? "android:allowBackup" = some "true" := by
  have hsub : backupApplications root =
      (backupMentions root).filter fun e => e.attribute? "android:allowBackup" == some "true" := by
    rw [backupMentions, List.filter_filter, backupApplications]
    refine List.filter_congr fun e _ => ?_
    cases e.attribute? "android:allowBackup" <;> simp
  rw [hsub, eq_comm, List.length_filter_eq_length_iff]
  simp only [beq_iff_eq]

/-- Debugging, permissions and paths are never reported, and backups for each application that says
something on them. So the flags of a document are reported exactly if it has none of the first three
kinds, and says on backups only that they are allowed; a document nested too deep may not say that
either. -/
theorem flags_reported_iff {fs : FileSystem} {m : Manifest} {root tree : Xml.Element}
    (hroot : m.root = some root) (htree : Manifest.readRoot fs .tree m.path = .ok tree) :
    debuggable fs m = [] ∧ customPermissions fs m = [] ∧ exactPath fs m = [] ∧
    allowBackup m = List.replicate (if root.isTooDeep then 0 else (backupMentions root).length)
      (backupNotice.about m.path none) ∧
    (FlagsReported fs m root tree ↔
      debugApplications tree = [] ∧ weakPermissions m.minSdk tree = [] ∧ pathData tree = [] ∧
      if root.isTooDeep then backupApplications root = []
      else ∀ e ∈ backupMentions root, e.attribute? "android:allowBackup" = some "true") := by
  have hdebug := debuggable_eq_nil htree
  have hpermissions := customPermissions_eq_nil htree
  have hpaths := exactPath_eq_nil htree
  have hbackup := allowBackup_eq hroot
  have hcount : (allowBackup m).length = (backupApplications root).length ↔
      if root.isTooDeep then backupApplications root = []
      else ∀ e ∈ backupMentions root, e.attribute? "android:allowBackup" = some "true" := by
    rw [hbackup, List.length_replicate]
    split
    · rw [eq_comm, List.length_eq_zero_iff]
    · exact length_backupMentions_eq_iff root
  refine ⟨hdebug, hpermissions, hpaths, hbackup, ?_⟩
  rw [← hcount]
  constructor
  · intro h
    refine ⟨?_, ?_, ?_, h.backup⟩
    · exact List.length_eq_zero_iff.mp (by rw [← h.debug, hdebug, List.length_nil])
    · exact List.length_eq_zero_iff.mp (by rw [← h.permissions, hpermissions, List.length_nil])
    · exact List.length_eq_zero_iff.mp (by rw [← h.paths, hpaths, List.length_nil])
  · rintro ⟨hnoDebug, hnoPermission, hnoPath, hcounts⟩
    exact ⟨by simp [hdebug, hnoDebug], hcounts, by simp [hpermissions, hnoPermission],
      by simp [hpaths, hnoPath]⟩

def flaggedText (flag : String) : String :=
  "<m xmlns:android=\"http://schemas.android.com/apk/res/android\"><application android:" ++ flag ++
    "/></m>"

def flaggedFiles (flag : String) : FileSystem := .oneManifest (flaggedText flag)

def flaggedManifest (flag : String) : Manifest :=
  (Manifest.update (flaggedFiles flag) {} (some "m.xml")).1

def passes (bytes : ByteArray) (rootTest treeTest : Xml.Element → Bool) : Bool :=
  match Xml.read .document bytes, Xml.read .tree bytes with
  | .ok root, .ok tree => rootTest root && treeTest tree
  | _, _ => false

theorem of_passes {flag : String} {rootTest treeTest : Xml.Element → Bool}
    (h : passes (flaggedText flag).toUTF8 rootTest treeTest = true) :
    ∃ root tree, (flaggedManifest flag).root = some root ∧
      Manifest.readRoot (flaggedFiles flag) .tree (flaggedManifest flag).path = .ok tree ∧
      rootTest root = true ∧ treeTest tree = true := by
  unfold passes at h
  split at h
  · rename_i root tree hroot htree
    have hbytes : (flaggedFiles flag).bytesAt (some "m.xml") = .ok (flaggedText flag).toUTF8 :=
      FileSystem.bytesAt_of_readBytes (FileSystem.readBytes_oneManifest _)
    have hlesson := Manifest.update_lesson {} ⟨flaggedFiles flag, some "m.xml"⟩
    refine ⟨root, tree, ?_, ?_, Bool.and_eq_true_iff.mp h⟩
    · rw [flaggedManifest, hlesson, Manifest.Lesson.root?, Manifest.readRoot_of_bytes hbytes, hroot]
      rfl
    · rw [flaggedManifest, hlesson, Manifest.readRoot_of_bytes hbytes, htree]
      rfl
  · cases h

/-- An application that only allows backups is reported for that. -/
theorem flags_reported_iff_backup :
    ∃ root tree, (flaggedManifest "allowBackup='true'").root = some root ∧
      Manifest.readRoot (flaggedFiles "allowBackup='true'") .tree
        (flaggedManifest "allowBackup='true'").path = .ok tree ∧
      FlagsReported (flaggedFiles "allowBackup='true'") (flaggedManifest "allowBackup='true'")
        root tree ∧
      (allowBackup (flaggedManifest "allowBackup='true'")).length = 1 := by
  have hpasses : passes (flaggedText "allowBackup='true'").toUTF8
      (fun root => !root.isTooDeep && (backupMentions root).length == 1 &&
        (backupMentions root).all fun e => e.attribute? "android:allowBackup" == some "true")
      (fun tree => (debugApplications tree).isEmpty && (tree.allWritten "permission").isEmpty &&
        (pathData tree).isEmpty) = true := by
    decide +kernel
  obtain ⟨root, tree, hroot, htree, hrootTest, htreeTest⟩ := of_passes hpasses
  simp only [Bool.and_eq_true, Bool.not_eq_true', beq_iff_eq, List.all_eq_true,
    List.isEmpty_iff] at hrootTest htreeTest
  obtain ⟨⟨hdeep, hmentions⟩, htrue⟩ := hrootTest
  obtain ⟨⟨hdebug, hpermissions⟩, hpaths⟩ := htreeTest
  obtain ⟨-, -, -, hbackup, hreported⟩ := flags_reported_iff hroot htree
  refine ⟨root, tree, hroot, htree, hreported.mpr ⟨hdebug, ?_, hpaths, ?_⟩, ?_⟩
  · rw [weakPermissions, hpermissions, List.filter_nil]
  · rw [if_neg (by simp [hdeep])]
    exact htrue
  · rw [hbackup, List.length_replicate, hdeep, hmentions]
    rfl

/-- An application that is set to debug is not reported. -/
theorem debug_application_unreported :
    ∃ root tree, (flaggedManifest "debuggable='true'").root = some root ∧
      Manifest.readRoot (flaggedFiles "debuggable='true'") .tree
        (flaggedManifest "debuggable='true'").path = .ok tree ∧
      (debugApplications tree).length = 1 ∧
      ¬ FlagsReported (flaggedFiles "debuggable='true'") (flaggedManifest "debuggable='true'")
        root tree := by
  have hpasses : passes (flaggedText "debuggable='true'").toUTF8 (fun _ => true)
      (fun tree => (debugApplications tree).length == 1) = true := by
    decide +kernel
  obtain ⟨root, tree, hroot, htree, -, hdebug⟩ := of_passes hpasses
  rw [beq_iff_eq] at hdebug
  refine ⟨root, tree, hroot, htree, hdebug, fun h => ?_⟩
  have hnone := h.debug
  rw [debuggable_eq_nil htree, hdebug] at hnone
  cases hnone

end ManifestDetector
end DroidAudit
