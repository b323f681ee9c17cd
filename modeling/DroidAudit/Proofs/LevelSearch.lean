import DroidAudit.Proofs.KeyWords
import DroidAudit.Proofs.ManifestStage

/-! Two searches for the least level of the platform. One takes the first path that ends in the name
of a manifest, the other the first where a slash stands in front of that name; and only the other one
has a level for paths without a manifest. Main statement: for which paths they find the same level. -/
namespace DroidAudit.Manifest

def isNamed (path : String) : Bool := Text.hasSuffix (Text.lower path) "androidmanifest.xml"

def isNamedBelow (path : String) : Bool := Text.hasSuffix (Text.lower path) "/androidmanifest.xml"

/-- The least level, asked of the manifest among the files. -/
def minSdkAmong (fs : FileSystem) (files : List String) : Except Failure Int := do
  minSdkOf (← chosenRoot fs none files)

def minSdkAt (fs : FileSystem) (path : String) : Except Failure Int := do
  minSdkOf (← readRoot fs .document (some path))

/-- A path leads to a document that can be searched and gives a least level. -/
def HasMinSdk (fs : FileSystem) (path : String) (level : Int) : Prop :=
  ∃ root, readRoot fs .document (some path) = .ok root ∧ root.isTooDeep = false ∧
    Gives root "android:minSdkVersion" level

theorem isNamed_of_isNamedBelow {path : String} (h : isNamedBelow path = true) :
    isNamed path = true := by
  have hname : "androidmanifest.xml".toList <:+ "/androidmanifest.xml".toList := ⟨['/'], rfl⟩
  exact (Text.hasSuffix_iff _ _).mpr (hname.trans ((Text.hasSuffix_iff _ _).mp h))

variable {fs : FileSystem} {files : List String} {path : String} {level : Int}

theorem minSdkAt_ok_iff : minSdkAt fs path = .ok level ↔ HasMinSdk fs path level := by
  simp only [minSdkAt, HasMinSdk, bind_eq_ok_iff, minSdkOf, level_ok_iff]

theorem minSdkAmong_eq (fs : FileSystem) (files : List String) :
    minSdkAmong fs files =
      (files.find? isNamed).elim (.error (.absent .document)) (minSdkAt fs) := by
  have hfind : Manifest.find? files = files.find? isNamed := rfl
  cases files with
  | nil => rfl
  | cons first rest =>
    simp only [minSdkAmong, chosenRoot, hfind]
    cases (first :: rest).find? isNamed <;> rfl

theorem minSdkFromFiles_eq (fs : FileSystem) (files : List String) :
    minSdkFromFiles fs files .null = (files.find? isNamedBelow).elim (.ok 1) (minSdkAt fs) := by
  have hfind : (files.find? fun f => Text.hasSuffix (Text.lower f) "/androidmanifest.xml") =
      files.find? isNamedBelow := rfl
  simp only [minSdkFromFiles, Value.get?, hfind]
  cases files.find? isNamedBelow <;> rfl

/-- If the first path that ends in the name has a slash in front of it, it is the first of those
too. -/
theorem find?_isNamedBelow (h : files.find? isNamed = some path)
    (hbelow : isNamedBelow path = true) : files.find? isNamedBelow = some path := by
  obtain ⟨-, before, after, rfl, hbefore⟩ := List.find?_eq_some_iff_append.mp h
  refine List.find?_eq_some_iff_append.mpr ⟨hbelow, before, after, rfl, fun f hf => ?_⟩
  have hunnamed : isNamed f = false := by simpa using hbefore f hf
  cases hf : isNamedBelow f with
  | false => rfl
  | true => exact absurd (isNamed_of_isNamedBelow hf) (by simp [hunnamed])

/-- Both searches find the same level exactly if some path ends in the name and the first of these
has the level of the first one with a slash in front of the name, or level one if there is none.
Without such a path one of them fails where the other gives level one; and where the first path that
ends in the name has the slash, they do the same, whatever they find. -/
theorem minSdk_found_alike_iff (fs : FileSystem) (files : List String) :
    (∀ level, minSdkAmong fs files = .ok level ∧ minSdkFromFiles fs files .null = .ok level ↔
      ∃ path, files.find? isNamed = some path ∧ HasMinSdk fs path level ∧
        (files.find? isNamedBelow = none ∧ level = 1 ∨
          ∃ other, files.find? isNamedBelow = some other ∧ HasMinSdk fs other level)) ∧
    ((∀ f ∈ files, isNamed f = false) →
      minSdkAmong fs files = .error (.absent .document) ∧
        minSdkFromFiles fs files .null = .ok 1) ∧
    ∀ path, files.find? isNamed = some path → isNamedBelow path = true →
      minSdkFromFiles fs files .null = minSdkAmong fs files := by
  rw [minSdkAmong_eq, minSdkFromFiles_eq]
  refine ⟨fun level => ?_, fun hnone => ?_, fun path hpath hbelow => ?_⟩
  · cases hnamed : files.find? isNamed with
    | none => simp
    | some path =>
      have hother : (files.find? isNamedBelow).elim (.ok 1) (minSdkAt fs) = .ok level ↔
          files.find? isNamedBelow = none ∧ level = 1 ∨
            ∃ other, files.find? isNamedBelow = some other ∧ HasMinSdk fs other level := by
        cases files.find? isNamedBelow with
        | none => simp [eq_comm]
        | some other => simp [minSdkAt_ok_iff]
      rw [Option.elim_some, minSdkAt_ok_iff, hother]
      simp
  · have hnamed : files.find? isNamed = none :=
      List.find?_eq_none.mpr fun f hf => by simp [hnone f hf]
    have hbelow : files.find? isNamedBelow = none :=
      List.find?_eq_none.mpr fun f hf h => by
        simpa [hnone f hf] using isNamed_of_isNamedBelow h
    rw [hnamed, hbelow]
    exact ⟨rfl, rfl⟩
  · rw [find?_isNamedBelow hpath hbelow, hpath]
    rfl

/-! A manifest beside a directory that holds another one. -/

def twoManifests : FileSystem where
  root := .directory
    [("AndroidManifest.xml", .file (Scan.leveledText "21").toUTF8 false),
     ("lib", .directory [("AndroidManifest.xml", .file (Scan.leveledText "16").toUTF8 false)])]
  working := []

theorem hasMinSdk_of_givesLevel {bytes : ByteArray} {text : String}
    (hread : fs.readBytes path = .ok bytes)
    (h : Scan.givesLevel bytes text = true ∧ Text.readInteger text = .ok level) :
    HasMinSdk fs path level := by
  obtain ⟨hgives, hlevel⟩ := h
  obtain ⟨root, -, hroot, -, hdeep, hmin, -⟩ := Scan.of_givesLevel hgives
  have hbytes := FileSystem.bytesAt_of_readBytes hread
  have hdocument : readRoot fs .document (some path) = .ok root := by
    rw [readRoot_of_bytes hbytes, hroot]
    rfl
  refine ⟨root, hdocument, hdeep, ((level_ok_iff _ _ _).mp ?_).2⟩
  rw [level_eq, hdeep, hmin]
  simp [hlevel, Except.mapError]

theorem twoManifests_levels :
    HasMinSdk twoManifests "AndroidManifest.xml" 21 ∧
      HasMinSdk twoManifests "lib/AndroidManifest.xml" 16 := by
  have hgives : (Scan.givesLevel (Scan.leveledText "21").toUTF8 "21" = true ∧
        Text.readInteger "21" = .ok 21) ∧
      Scan.givesLevel (Scan.leveledText "16").toUTF8 "16" = true ∧
        Text.readInteger "16" = .ok 16 := by
    decide +kernel
  exact ⟨hasMinSdk_of_givesLevel (FileSystem.readBytes_of_plainBytes rfl) hgives.1,
    hasMinSdk_of_givesLevel (FileSystem.readBytes_of_plainBytes rfl) hgives.2⟩

theorem minSdk_found_alike_iff_below :
    minSdkAmong twoManifests ["A.java", "lib/AndroidManifest.xml", "AndroidManifest.xml"] = .ok 16 ∧
      minSdkFromFiles twoManifests
        ["A.java", "lib/AndroidManifest.xml", "AndroidManifest.xml"] .null = .ok 16 := by
  have hlevel := twoManifests_levels.2
  have hnamed : ["A.java", "lib/AndroidManifest.xml", "AndroidManifest.xml"].find? isNamed =
      some "lib/AndroidManifest.xml" := by rfl
  exact ((minSdk_found_alike_iff _ _).1 16).mpr
    ⟨_, hnamed, hlevel, .inr ⟨_, find?_isNamedBelow hnamed rfl, hlevel⟩⟩

/-- Without a manifest one search fails; and of the same two manifests they take different ones. -/
theorem levels_found_differ :
    (minSdkAmong twoManifests ["A.java"] = .error (.absent .document) ∧
      minSdkFromFiles twoManifests ["A.java"] .null = .ok 1) ∧
    minSdkAmong twoManifests ["AndroidManifest.xml", "lib/AndroidManifest.xml"] = .ok 21 ∧
    minSdkFromFiles twoManifests ["AndroidManifest.xml", "lib/AndroidManifest.xml"] .null =
      .ok 16 := by
  obtain ⟨hbare, hbelow⟩ := twoManifests_levels
  rw [← minSdkAt_ok_iff] at hbare hbelow
  have hnone : ["A.java"].find? isNamed = none ∧ ["A.java"].find? isNamedBelow = none := by
    decide
  have hfound : ["AndroidManifest.xml", "lib/AndroidManifest.xml"].find? isNamed =
        some "AndroidManifest.xml" ∧
      ["AndroidManifest.xml", "lib/AndroidManifest.xml"].find? isNamedBelow =
        some "lib/AndroidManifest.xml" := by
    decide
  rw [minSdkAmong_eq, minSdkAmong_eq, minSdkFromFiles_eq, minSdkFromFiles_eq, hnone.1, hnone.2,
    hfound.1, hfound.2]
  exact ⟨⟨rfl, rfl⟩, hbare, hbelow⟩

end DroidAudit.Manifest
