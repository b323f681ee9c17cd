import DroidAudit.Detector.Exported

/-! Which components are reported. A component can be reached from other apps if it is marked as
exported, or is an unmarked provider on old levels of the platform, or has an action for which it is
started. Not each of those is reported: the levels that excuse providers excuse whatever is marked,
and behind an intent filter a component is only reported for its named actions. -/
namespace DroidAudit.ExportedDetector

/-- What an element says on whether it is exported, in small letters. -/
def marking (e : Xml.Element) : Option String := (e.attribute? "android:exported").map Text.lower

def HasNamedAction (e : Xml.Element) : Prop :=
  ∃ f ∈ e.descendantsWritten "intent-filter", ∃ a ∈ f.descendantsWritten "action",
    (a.attribute? "android:name").isSome = true

/-- The three ways in which other apps reach a component. -/
inductive Reachable (m : Manifest) (tag : String) (e : Xml.Element) : Prop
  | marked (h : marking e = some "true")
  | provider (ht : tag = "provider") (h : marking e = none) (hmin : m.minSdk ≤ 16)
      (htarget : m.targetSdk ≤ 16)
  | started (h : marking e = none) (ha : HasNamedAction e)

/-- The levels at which an element that is marked, or a provider, is not looked at. -/
def Excused (m : Manifest) (tag : String) : Prop :=
  tag = "provider" ∧ 16 < m.minSdk ∨ 16 < m.targetSdk

instance (m : Manifest) (tag : String) : Decidable (Excused m tag) :=
  inferInstanceAs (Decidable (_ ∨ _))

section
variable {m : Manifest} {tag name : String} {component : Component} {e : Xml.Element}

theorem excused_iff :
    (tag == "provider" && decide (m.minSdk > 16) || decide (m.targetSdk > 16)) = true ↔
      Excused m tag := by
  simp [Excused]

theorem elementFindings_excused {exported : Option String} (permission filters : Bool)
    (h : exported.isSome = true ∨ tag = "provider") (hx : Excused m tag) :
    elementFindings m tag component name exported permission filters = none := by
  have hlooked : (exported.isSome || tag == "provider") = true := by simpa using h
  simp only [elementFindings, hlooked, excused_iff, hx, if_true, ite_self]

theorem elementFindings_marked (filters : Bool) (hx : ¬ Excused m tag) :
    elementFindings m tag component name (some "true") false filters =
      some (if filters then []
        else [report m component name "Exported tags" .warning (exportedText tag name)]) := by
  simp only [elementFindings, excused_iff, hx]
  cases filters <;> rfl

theorem elementFindings_unmarked (filters : Bool) (hx : tag = "provider" → ¬ Excused m tag) :
    elementFindings m tag component name none false filters = some [] := by
  simp only [elementFindings, excused_iff]
  by_cases ht : tag = "provider"
  · simp [hx ht]
  · simp [ht]

def actionNames (e : Xml.Element) : List String :=
  (e.descendantsWritten "intent-filter").flatMap fun f =>
    (f.descendantsWritten "action").filterMap fun a => a.attribute? "android:name"

theorem actionNames_ne_nil_iff : actionNames e ≠ [] ↔ HasNamedAction e := by
  simp [actionNames, HasNamedAction, List.flatMap_eq_nil_iff, Option.isSome_iff_ne_none]

/-- An element that is not left out is reported for itself and for each of its named actions. -/
theorem tagFindings_eq (hp : e.attribute? "android:permission" = none) :
    tagFindings m tag component e =
      (elementFindings m tag component ((e.attribute? "android:name").getD "unknown_tag")
        (marking e) false (!(e.descendantsWritten "intent-filter").isEmpty)).elim []
        (· ++ (actionNames e).map (actionFinding m tag component
          ((e.attribute? "android:name").getD "unknown_tag") false)) := by
  simp only [tagFindings, marking, actionNames, hp, Option.isSome_none]
  split
  · rename_i h
    rw [h, Option.elim_none]
  · rename_i h
    rw [h, Option.elim_some]

theorem tagFindings_ne_nil_iff (hp : e.attribute? "android:permission" = none) :
    tagFindings m tag component e ≠ [] ↔
      ∃ found, elementFindings m tag component ((e.attribute? "android:name").getD "unknown_tag")
        (marking e) false (!(e.descendantsWritten "intent-filter").isEmpty) = some found ∧
        (found ≠ [] ∨ HasNamedAction e) := by
  rw [← actionNames_ne_nil_iff, tagFindings_eq hp]
  cases elementFindings m tag component ((e.attribute? "android:name").getD "unknown_tag")
    (marking e) false (!(e.descendantsWritten "intent-filter").isEmpty) with
  | none => simp
  | some found => simp [Decidable.imp_iff_not_or]

end

/-- A component that can be reached and asks for no permission is reported exactly if it has a named
action, or is marked and has no filters at all, and if no level excuses it. The levels excuse
providers and also, whatever their kind, components that are marked. -/
theorem reachable_reported_iff (m : Manifest) (tag : String) (component : Component)
    (e : Xml.Element) (hp : e.attribute? "android:permission" = none) (hr : Reachable m tag e) :
    tagFindings m tag component e ≠ [] ↔
      (HasNamedAction e ∨
        marking e = some "true" ∧ e.descendantsWritten "intent-filter" = []) ∧
      (marking e = some "true" ∨ tag = "provider" → ¬ Excused m tag) := by
  rw [tagFindings_ne_nil_iff hp]
  cases hr with
  | marked h =>
    by_cases hx : Excused m tag
    · rw [h, elementFindings_excused false _ (.inl rfl) hx]
      simp [hx]
    · rw [h, elementFindings_marked _ hx]
      simp [hx, or_comm]
  | provider ht h hmin htarget =>
    have hx : ¬ Excused m tag := by
      rintro (⟨-, hmin'⟩ | htarget')
      · omega
      · omega
    rw [h, elementFindings_unmarked _ fun _ => hx]
    simp [hx]
  | started h ha =>
    by_cases ht : tag = "provider" ∧ Excused m tag
    · rw [h, elementFindings_excused false _ (.inr ht.1) ht.2]
      simp [ht.1, ht.1 ▸ ht.2]
    · rw [not_and] at ht
      rw [h, elementFindings_unmarked _ ht]
      simpa [ha] using ht

def markedActivity : Xml.Element :=
  .mk (.plain "activity")
    [{ name := ⟨"android", "exported", "http://schemas.android.com/apk/res/android"⟩,
       value := "True" }] none []

theorem markedActivity_reachable (m : Manifest) : Reachable m "activity" markedActivity :=
  .marked rfl

theorem reachable_reported_iff_activity :
    Reachable { minSdk := 16, targetSdk := 16 } "activity" markedActivity ∧
      tagFindings { minSdk := 16, targetSdk := 16 } "activity" .activity markedActivity ≠ [] := by
  refine ⟨markedActivity_reachable _, ?_⟩
  rw [reachable_reported_iff _ _ _ _ rfl (markedActivity_reachable _)]
  exact ⟨.inr ⟨rfl, rfl⟩, fun _ => by decide⟩

/-- On a newer level, an exported activity without a permission goes unreported. -/
theorem marked_activity_unreported :
    Reachable { minSdk := 16, targetSdk := 17 } "activity" markedActivity ∧
      markedActivity.attribute? "android:permission" = none ∧
      tagFindings { minSdk := 16, targetSdk := 17 } "activity" .activity markedActivity = [] :=
  ⟨markedActivity_reachable _, rfl, rfl⟩

end DroidAudit.ExportedDetector
