import DroidAudit.Manifest
import DroidAudit.Proofs.PlainPath
import Mathlib.Data.List.Induction

/-! What is known of the manifest after several files. A file gives its parts in order: the root,
the two levels and the package, each only if those before it could be read. What a file does not
give stays as an earlier file left it. Main statement: when the knowledge is that of the last
file. -/
namespace DroidAudit.Manifest

/-- A file to learn from, and the files among which it stands. -/
structure Lesson where
  fs : FileSystem
  path : Option String

namespace Lesson

variable (c : Lesson)

def root? : Option Xml.Element := (readRoot c.fs .document c.path).toOption

def minSdk? : Option Int := c.root?.bind fun root => (minSdkOf root).toOption

def targetSdk? : Option Int :=
  c.minSdk?.bind fun _ => c.root?.bind fun root => (targetSdkOf root).toOption

def package? : Option (Option String) :=
  c.targetSdk?.bind fun _ => (packageAt c.fs c.path).toOption

variable {c}

theorem of_package?_isSome (h : c.package?.isSome = true) :
    ∃ least target package, c.minSdk? = some least ∧ c.targetSdk? = some target ∧
      c.package? = some package := by
  obtain ⟨package, hpackage⟩ := Option.isSome_iff_exists.mp h
  obtain ⟨target, htarget, -⟩ := Option.bind_eq_some_iff.mp hpackage
  obtain ⟨least, hmin, -⟩ := Option.bind_eq_some_iff.mp htarget
  exact ⟨least, target, package, hmin, htarget, hpackage⟩

end Lesson

/-! One file. -/

theorem update_spec (m : Manifest) (c : Lesson) :
    (m.update c.fs c.path).1 =
      { path := c.path
        root := c.root?
        minSdk := c.minSdk?.getD m.minSdk
        targetSdk := c.targetSdk?.getD m.targetSdk
        package := c.package?.getD m.package } ∧
    ((m.update c.fs c.path).2 = none ↔ c.root? = none ∨ c.package?.isSome = true) := by
  unfold update Lesson.package? Lesson.targetSdk? Lesson.minSdk? Lesson.root?
  cases readRoot c.fs .document c.path with
  | error e => simp [Except.toOption]
  | ok root =>
    cases hmin : minSdkOf root with
    | error e => simp [hmin, Except.toOption]
    | ok minSdk =>
      cases htarget : targetSdkOf root with
      | error e => simp [hmin, htarget, Except.toOption]
      | ok targetSdk => cases packageAt c.fs c.path <;> simp [hmin, htarget, Except.toOption]

/-- Learning takes over what the file gives and keeps the rest. -/
theorem update_lesson (m : Manifest) (c : Lesson) :
    (m.update c.fs c.path).1 =
      { path := c.path
        root := c.root?
        minSdk := c.minSdk?.getD m.minSdk
        targetSdk := c.targetSdk?.getD m.targetSdk
        package := c.package?.getD m.package } :=
  (update_spec m c).1

/-- Learning fails if the file has a root and does not give all the rest. -/
theorem update_eq_none_iff (m : Manifest) (c : Lesson) :
    (m.update c.fs c.path).2 = none ↔ c.root? = none ∨ c.package?.isSome = true :=
  (update_spec m c).2

/-- A file that gives all parts leaves nothing of what was known. -/
theorem update_of_package? (m n : Manifest) {c : Lesson} (h : c.package?.isSome = true) :
    (m.update c.fs c.path).1 = (n.update c.fs c.path).1 := by
  obtain ⟨least, target, package, hmin, htarget, hpackage⟩ := Lesson.of_package?_isSome h
  rw [update_lesson, update_lesson, hmin, htarget, hpackage]
  rfl

theorem update_failure (m : Manifest) (fs : FileSystem) (path : Option String) :
    (m.update fs path).2 = (update fs {} path).2 := by
  unfold update
  cases readRoot fs .document path with
  | error e => rfl
  | ok root =>
    cases hmin : minSdkOf root with
    | error e => simp only [hmin]
    | ok least =>
      cases htarget : targetSdkOf root with
      | error e => simp only [hmin, htarget]
      | ok target => cases packageAt fs path <;> simp only [hmin, htarget]

theorem update_root (m : Manifest) (fs : FileSystem) (path : Option String) :
    (m.update fs path).1.root = (⟨fs, path⟩ : Lesson).root? :=
  congrArg root (update_lesson m ⟨fs, path⟩)

theorem update_of_root {m : Manifest} {fs : FileSystem} {path : Option String}
    (hroot : (⟨fs, path⟩ : Lesson).root?.isSome = true) (h : (m.update fs path).2 = none) :
    (m.update fs path).1 = (update fs {} path).1 := by
  have hgiven := ((update_eq_none_iff m ⟨fs, path⟩).mp h).resolve_left
    (Option.ne_none_iff_isSome.mpr hroot)
  exact update_of_package? m {} hgiven

/-! Several files. -/

/-- What is known after files, in the order in which they are learnt from. -/
def learnt (cs : List Lesson) : Manifest := cs.foldl (fun m c => (m.update c.fs c.path).1) {}

/-- What the last file that gives a part gives for it. -/
def lastGiven {α : Type} (part? : Lesson → Option α) (cs : List Lesson) : Option α :=
  cs.reverse.findSome? part?

theorem lastGiven_concat {α : Type} (part? : Lesson → Option α) (cs : List Lesson) (c : Lesson) :
    lastGiven part? (cs ++ [c]) = (part? c).or (lastGiven part? cs) := by
  rw [lastGiven, List.reverse_append, List.reverse_singleton, List.singleton_append,
    List.findSome?_cons]
  cases part? c <;> rfl

theorem learnt_concat (cs : List Lesson) (c : Lesson) :
    learnt (cs ++ [c]) = ((learnt cs).update c.fs c.path).1 := by
  rw [learnt, List.foldl_append]
  rfl

theorem learnt_parts (cs : List Lesson) :
    (learnt cs).minSdk = (lastGiven Lesson.minSdk? cs).getD (-1) ∧
      (learnt cs).targetSdk = (lastGiven Lesson.targetSdk? cs).getD (-1) ∧
      (learnt cs).package = (lastGiven Lesson.package? cs).getD (some "PACKAGE_NOT_FOUND") := by
  induction cs using List.reverseRecOn with
  | nil => exact ⟨rfl, rfl, rfl⟩
  | append_singleton cs c ih =>
    simp only [learnt_concat, update_lesson, lastGiven_concat, Option.getD_or, ih, and_self]

theorem learnt_eq (before : List Lesson) (last : Lesson) :
    learnt (before ++ [last]) =
      { path := last.path
        root := last.root?
        minSdk := (lastGiven Lesson.minSdk? (before ++ [last])).getD (-1)
        targetSdk := (lastGiven Lesson.targetSdk? (before ++ [last])).getD (-1)
        package := (lastGiven Lesson.package? (before ++ [last])).getD
          (some "PACKAGE_NOT_FOUND") } := by
  obtain ⟨hmin, htarget, hpackage⟩ := learnt_parts (before ++ [last])
  rw [← hmin, ← htarget, ← hpackage, learnt_concat, update_lesson]

/-- A part is as if nothing had been learnt before, if it is given now or was never given. -/
theorem getD_eq_getD_iff {α : Type} (part? : Option α) (known initial : α) :
    part?.getD known = part?.getD initial ↔ (part? = none → known = initial) := by
  cases part? <;> simp

theorem learnt_eq_single_iff (before : List Lesson) (last : Lesson) :
    learnt (before ++ [last]) = learnt [last] ↔
      (last.minSdk? = none → (learnt before).minSdk = -1) ∧
      (last.targetSdk? = none → (learnt before).targetSdk = -1) ∧
      (last.package? = none → (learnt before).package = some "PACKAGE_NOT_FOUND") := by
  have hsingle : learnt [last] = (update last.fs {} last.path).1 := rfl
  rw [hsingle, learnt_concat, update_lesson, update_lesson]
  simp only [mk.injEq, true_and, getD_eq_getD_iff]

/-! A short manifest, and a file that is none. -/

theorem readRoot_of_bytes {fs : FileSystem} {path : Option String} {bytes : ByteArray}
    (h : fs.bytesAt path = .ok bytes) (way : Xml.Way) :
    readRoot fs way path = (Xml.read way bytes).mapError (.document way) := by
  rw [readRoot, h]
  rfl

def shortText : String := "<m package=\"p\"/>"

def shortFiles : FileSystem where
  root := .directory [("m.xml", .file shortText.toUTF8 false), ("n.xml", .file ⟨#[]⟩ false)]
  working := []

def shortLesson : Lesson := ⟨shortFiles, some "m.xml"⟩

def emptyLesson : Lesson := ⟨shortFiles, some "n.xml"⟩

theorem bytesAt_shortLesson : shortLesson.fs.bytesAt shortLesson.path = .ok shortText.toUTF8 :=
  FileSystem.bytesAt_of_readBytes (FileSystem.readBytes_of_plainBytes rfl)

theorem bytesAt_emptyLesson : emptyLesson.fs.bytesAt emptyLesson.path = .ok ⟨#[]⟩ :=
  FileSystem.bytesAt_of_readBytes (FileSystem.readBytes_of_plainBytes rfl)

theorem shortLesson_gives :
    shortLesson.minSdk? = some 1 ∧ shortLesson.targetSdk? = some 1 ∧
      shortLesson.package? = some (some "p") := by
  simp only [Lesson.package?, Lesson.targetSdk?, Lesson.minSdk?, Lesson.root?, packageAt,
    readRoot_of_bytes bytesAt_shortLesson]
  decide +kernel

theorem root?_emptyLesson : emptyLesson.root? = none := by
  rw [Lesson.root?, readRoot_of_bytes bytesAt_emptyLesson, ← Option.isNone_iff_eq_none]
  decide +kernel

theorem learnt_shortLesson :
    (learnt [shortLesson]).minSdk = 1 ∧ (learnt [shortLesson]).targetSdk = 1 ∧
      (learnt [shortLesson]).package = some "p" := by
  obtain ⟨hmin, htarget, hpackage⟩ := shortLesson_gives
  have hupdate := learnt_concat [] shortLesson
  rw [update_lesson, hmin, htarget, hpackage] at hupdate
  rw [List.nil_append] at hupdate
  rw [hupdate]
  exact ⟨rfl, rfl, rfl⟩

theorem learnt_of_root_none (before : List Lesson) {last : Lesson} (h : last.root? = none) :
    learnt (before ++ [last]) = { learnt before with path := last.path, root := none } := by
  have hmin : last.minSdk? = none := by rw [Lesson.minSdk?, h]; rfl
  have htarget : last.targetSdk? = none := by rw [Lesson.targetSdk?, hmin]; rfl
  have hpackage : last.package? = none := by rw [Lesson.package?, htarget]; rfl
  rw [learnt_concat, update_lesson, h, hmin, htarget, hpackage]
  rfl

/-- What is known after files: path and root are those of the last file, and each other part is that
of the last file that gives it. It is what the last file alone would give if the parts that this file
does not give were never learnt before; and this is so after whatever files exactly if the last one
has a root and learning it does not fail. -/
theorem learnt_from_last_iff (before : List Lesson) (last : Lesson) :
    learnt (before ++ [last]) =
      { path := last.path
        root := last.root?
        minSdk := (lastGiven Lesson.minSdk? (before ++ [last])).getD (-1)
        targetSdk := (lastGiven Lesson.targetSdk? (before ++ [last])).getD (-1)
        package := (lastGiven Lesson.package? (before ++ [last])).getD
          (some "PACKAGE_NOT_FOUND") } ∧
    (last.root? = none → learnt [last] = { path := last.path }) ∧
    (learnt (before ++ [last]) = learnt [last] ↔
      (last.minSdk? = none → (learnt before).minSdk = -1) ∧
      (last.targetSdk? = none → (learnt before).targetSdk = -1) ∧
      (last.package? = none → (learnt before).package = some "PACKAGE_NOT_FOUND")) ∧
    ((∀ earlier, learnt (earlier ++ [last]) = learnt [last]) ↔
      last.root?.isSome = true ∧ ∀ m : Manifest, (m.update last.fs last.path).2 = none) := by
  refine ⟨learnt_eq before last, learnt_of_root_none [], learnt_eq_single_iff before last, ?_, ?_⟩
  · intro h
    -- after the short manifest all parts are known, so the last file must give them all
    obtain ⟨-, -, hpackage⟩ := (learnt_eq_single_iff [shortLesson] last).mp (h [shortLesson])
    have hgiven : last.package?.isSome = true := by
      rw [← Option.ne_none_iff_isSome]
      intro hnone
      have hinitial := hpackage hnone
      rw [learnt_shortLesson.2.2] at hinitial
      exact absurd hinitial (by decide)
    refine ⟨?_, fun m => (update_eq_none_iff m last).mpr (.inr hgiven)⟩
    rw [← Option.ne_none_iff_isSome]
    intro hroot
    simp [Lesson.package?, Lesson.targetSdk?, Lesson.minSdk?, hroot] at hgiven
  · rintro ⟨hroot, hlearns⟩ earlier
    have hgiven : last.package?.isSome = true :=
      ((update_eq_none_iff {} last).mp (hlearns {})).resolve_left
        (Option.ne_none_iff_isSome.mpr hroot)
    rw [learnt_concat]
    exact update_of_package? _ _ hgiven

/-- An empty file behind a short manifest leaves the levels and the package of that manifest. -/
theorem short_manifest_stays :
    (learnt [shortLesson, emptyLesson]).minSdk = 1 ∧
      (learnt [shortLesson, emptyLesson]).targetSdk = 1 ∧
      (learnt [shortLesson, emptyLesson]).package = some "p" ∧
      learnt [emptyLesson] = { path := some "n.xml" } := by
  have hstays := learnt_of_root_none [shortLesson] root?_emptyLesson
  rw [List.singleton_append] at hstays
  obtain ⟨hmin, htarget, hpackage⟩ := learnt_shortLesson
  rw [hstays]
  exact ⟨hmin, htarget, hpackage, learnt_of_root_none [] root?_emptyLesson⟩

end DroidAudit.Manifest
