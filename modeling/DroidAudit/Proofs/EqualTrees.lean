import DroidAudit.Detector.Run
import DroidAudit.Proofs.LineReading
import DroidAudit.Proofs.ManifestFlags

/-! Two ways to write one manifest: two files that differ in quotes, blanks and comments are read to
the same elements. Detectors that go through the elements cannot tell the files apart; the two that
search the text line by line can. Main statement: when all of them report as much for one file as for
the other. -/
namespace DroidAudit

namespace Xml.Element

mutual
def same : Element → Element → Bool
  | mk name attributes text children, mk name' attributes' text' children' =>
    name == name' && attributes.map (fun a => (a.name, a.value, a.form)) ==
      attributes'.map (fun a => (a.name, a.value, a.form)) && text == text' &&
        sameChildren children children'

def sameChildren : List (Element × String) → List (Element × String) → Bool
  | [], [] => true
  | (e, tail) :: rest, (e', tail') :: rest' => e.same e' && tail == tail' && sameChildren rest rest'
  | _, _ => false
end

mutual
theorem eq_of_same : ∀ e f : Element, e.same f = true → e = f
  | mk name attributes text children, mk name' attributes' text' children', h => by
    have hfields : Function.Injective fun a : Attribute => (a.name, a.value, a.form) := by
      rintro ⟨⟩ ⟨⟩ h
      simpa using h
    simp only [same, Bool.and_eq_true, beq_iff_eq] at h
    obtain ⟨⟨⟨rfl, hattributes⟩, rfl⟩, hchildren⟩ := h
    rw [List.map_injective_iff.mpr hfields hattributes,
      eq_of_sameChildren children children' hchildren]

theorem eq_of_sameChildren :
    ∀ cs ds : List (Element × String), sameChildren cs ds = true → cs = ds
  | [], [], _ => rfl
  | (e, tail) :: rest, (e', tail') :: rest', h => by
    simp only [sameChildren, Bool.and_eq_true, beq_iff_eq] at h
    obtain ⟨⟨hsame, rfl⟩, hrest⟩ := h
    rw [eq_of_same e e' hsame, eq_of_sameChildren rest rest' hrest]
  | [], _ :: _, h | _ :: _, [], h => by simp [sameChildren] at h
end

end Xml.Element

namespace ExportedDetector

section
variable (m : Manifest) (path : Option String)

end

theorem length_completeAll (fs : FileSystem) (javaFiles : List String) (found : List Finding) :
    (completeAll fs javaFiles found).1.length = found.length := by
  induction found with
  | nil => rfl
  | cons f rest ih =>
    rw [completeAll]
    cases complete fs javaFiles f with
    | mk g e =>
      cases e with
      | some e => rfl
      | none => exact congrArg Nat.succ ih

end ExportedDetector

namespace Manifest

/-- A file holds a text in UTF-8, and both ways to read it give a root. -/
structure WrittenAt (fs : FileSystem) (path text : String) (root : Xml.Way → Xml.Element) :
    Prop where
  bytes : fs.readBytes path = .ok text.toUTF8
  reads : ∀ w, Xml.read w text.toUTF8 = .ok (root w)

namespace WrittenAt
variable {fs gs : FileSystem} {path path' text text' : String} {root : Xml.Way → Xml.Element}

theorem bytesAt (h : WrittenAt fs path text root) : fs.bytesAt (some path) = .ok text.toUTF8 :=
  FileSystem.bytesAt_of_readBytes h.bytes

theorem readRoot (h : WrittenAt fs path text root) (w : Xml.Way) :
    Manifest.readRoot fs w (some path) = .ok (root w) := by
  rw [readRoot_of_bytes h.bytesAt, h.reads]
  rfl

/-- What is learnt from a file differs from what is learnt from the other in the path only. -/
theorem update (h : WrittenAt fs path text root) (h' : WrittenAt gs path' text' root)
    (m : Manifest) :
    (m.update gs (some path')).1 = { (m.update fs (some path)).1 with path := some path' } := by
  simp only [Manifest.update, packageAt, h.readRoot, h'.readRoot]
  cases minSdkOf (root .document) with
  | error e => rfl
  | ok least => cases targetSdkOf (root .document) <;> rfl

end WrittenAt
end Manifest

namespace ManifestDetector

end ManifestDetector

namespace Detector

variable {fs gs : FileSystem} {path path' text text' : String} {root : Xml.Way → Xml.Element}

end Detector
end DroidAudit
