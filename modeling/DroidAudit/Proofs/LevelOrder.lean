import DroidAudit.Proofs.EqualTrees
import DroidAudit.Proofs.Exported
import Mathlib.Algebra.Order.BigOperators.Group.List
import Mathlib.Algebra.Order.Group.Nat

/-! Components on lower and higher levels of the platform. A higher level only takes findings away:
it excuses an element as a whole, or takes the finding that a permission is no protection. What takes
the place of that finding is at most one other. -/
namespace DroidAudit

namespace Manifest

def atLevels (m : Manifest) (min target : Int) : Manifest :=
  { m with minSdk := min, targetSdk := target }

end Manifest

namespace ExportedDetector

section
variable {m m' : Manifest} {tag name : String} {component : Component} {exported : Option String}
  {permission filters : Bool}

theorem Excused.of_le (h : Excused m tag) (hmin : m.minSdk ≤ m'.minSdk)
    (htarget : m.targetSdk ≤ m'.targetSdk) : Excused m' tag := by
  rcases h with ⟨htag, hlow⟩ | hlow
  · exact .inl ⟨htag, by omega⟩
  · exact .inr (by omega)

/-- What is found on an element that is looked at and not excused. -/
def ownFindings (m : Manifest) (tag : String) (component : Component) (name : String)
    (exported : Option String) (permission filters : Bool) : List Finding :=
  if permission && m.minSdk < 20 then
    [report m component name "Exported tags" .info (permittedText tag name)]
  else if exported.any (!·.isEmpty) && !filters then
    [report m component name "Exported tags" .warning (exportedText tag name)]
  else []

theorem elementFindings_eq :
    elementFindings m tag component name exported permission filters =
      if exported = some "false" then none
      else if exported.isSome = true ∨ tag = "provider" then
        if Excused m tag then none
        else some (ownFindings m tag component name exported permission filters)
      else some [] := by
  simp only [elementFindings, excused_iff]
  simp only [beq_iff_eq, Bool.or_eq_true, ownFindings, apply_ite some]

theorem length_ownFindings_le_one :
    (ownFindings m tag component name exported permission filters).length ≤ 1 := by
  unfold ownFindings
  split
  · exact Nat.le_refl 1
  split
  · exact Nat.le_refl 1
  · exact Nat.zero_le 1

theorem length_ownFindings_le (hmin : m.minSdk ≤ m'.minSdk) :
    (ownFindings m' tag component name exported permission filters).length ≤
      (ownFindings m tag component name exported permission filters).length := by
  by_cases hlow : (permission && decide (m.minSdk < 20)) = true
  · have hone : (ownFindings m tag component name exported permission filters).length = 1 := by
      rw [ownFindings, if_pos hlow, List.length_singleton]
    rw [hone]
    exact length_ownFindings_le_one
  · have hhigh : ¬(permission && decide (m'.minSdk < 20)) = true := by
      simp only [Bool.and_eq_true, decide_eq_true_eq, not_and] at hlow ⊢
      exact fun hp => by have := hlow hp; omega
    rw [ownFindings, ownFindings, if_neg hlow, if_neg hhigh]
    split
    · rfl
    · rfl

/-- What is looked at on higher levels is looked at on lower ones, and as much is found there. -/
theorem elementFindings_of_le (hmin : m.minSdk ≤ m'.minSdk) (htarget : m.targetSdk ≤ m'.targetSdk)
    {found' : List Finding}
    (h : elementFindings m' tag component name exported permission filters = some found') :
    ∃ found, elementFindings m tag component name exported permission filters = some found ∧
      found'.length ≤ found.length := by
  rw [elementFindings_eq] at h ⊢
  split at h
  · cases h
  rename_i hmarked
  rw [if_neg hmarked]
  split at h
  · rename_i hlooked
    split at h
    · cases h
    rename_i hexcused
    cases h
    rw [if_pos hlooked, if_neg fun hx => hexcused (hx.of_le hmin htarget)]
    exact ⟨_, rfl, length_ownFindings_le hmin⟩
  · rename_i hlooked
    cases h
    rw [if_neg hlooked]
    exact ⟨[], rfl, Nat.le_refl 0⟩

theorem length_tagFindings (m : Manifest) (tag : String) (component : Component)
    (e : Xml.Element) :
    (tagFindings m tag component e).length =
      (elementFindings m tag component ((e.attribute? "android:name").getD "unknown_tag")
        (marking e) (e.attribute? "android:permission").isSome
        (!(e.descendantsWritten "intent-filter").isEmpty)).elim 0
        (·.length + (actionNames e).length) := by
  simp only [tagFindings, marking, actionNames]
  split
  · rename_i h
    rw [h]
    rfl
  · rename_i h
    rw [h, List.length_append, List.length_map]
    rfl

theorem length_tagFindings_le (hmin : m.minSdk ≤ m'.minSdk) (htarget : m.targetSdk ≤ m'.targetSdk)
    (tag : String) (component : Component) (e : Xml.Element) :
    (tagFindings m' tag component e).length ≤ (tagFindings m tag component e).length := by
  rw [length_tagFindings m' tag component e]
  cases h : elementFindings m' tag component ((e.attribute? "android:name").getD "unknown_tag")
      (marking e) (e.attribute? "android:permission").isSome
      (!(e.descendantsWritten "intent-filter").isEmpty) with
  | none => exact Nat.zero_le _
  | some found' =>
    obtain ⟨found, hfound, hle⟩ := elementFindings_of_le hmin htarget h
    rw [length_tagFindings m tag component e, hfound]
    exact Nat.add_le_add_right hle _

end

theorem length_flatMap_le {α β γ : Type} {f : α → List β} {g : α → List γ} {as : List α}
    (h : ∀ a ∈ as, (f a).length ≤ (g a).length) : (as.flatMap f).length ≤ (as.flatMap g).length := by
  rw [List.length_flatMap, List.length_flatMap]
  exact List.sum_le_sum h

theorem length_run (fs : FileSystem) (m : Manifest) (files : Option (List String))
    (known : List Finding) :
    (run fs m files known).1.length = known.length +
      m.root.elim 0 fun root => if root.isTooDeep then 0 else (fromManifest m root).length := by
  cases hroot : m.root with
  | none => rw [run, hroot]; rfl
  | some root =>
    rw [run, hroot]
    dsimp only [Option.elim_some]
    split
    · rfl
    · cases files with
      | none => exact List.length_append
      | some files => rw [length_completeAll, List.length_append]

/-- On higher levels no more is reported: not for any element, not for the whole manifest, and not by
a run over it, whatever source files there are and whatever was found before. -/
theorem reported_antitone (m : Manifest) (min min' target target' : Int) (hmin : min ≤ min')
    (htarget : target ≤ target') :
    (∀ tag component e, (tagFindings (m.atLevels min' target') tag component e).length ≤
        (tagFindings (m.atLevels min target) tag component e).length) ∧
      (∀ root, (fromManifest (m.atLevels min' target') root).length ≤
        (fromManifest (m.atLevels min target) root).length) ∧
      ∀ fs files known, (run fs (m.atLevels min' target') files known).1.length ≤
        (run fs (m.atLevels min target) files known).1.length := by
  have htag : ∀ tag component e, (tagFindings (m.atLevels min' target') tag component e).length ≤
      (tagFindings (m.atLevels min target) tag component e).length :=
    length_tagFindings_le hmin htarget
  have hall : ∀ root, (fromManifest (m.atLevels min' target') root).length ≤
      (fromManifest (m.atLevels min target) root).length := fun root =>
    length_flatMap_le fun t _ => length_flatMap_le fun e _ => htag t.1 t.2 e
  refine ⟨htag, hall, fun fs files known => ?_⟩
  rw [length_run, length_run]
  refine Nat.add_le_add_left ?_ _
  have hroot : ∀ a b, (m.atLevels a b).root = m.root := fun _ _ => rfl
  rw [hroot, hroot]
  cases m.root with
  | none => exact Nat.le_refl 0
  | some root =>
    dsimp only [Option.elim_some]
    split
    · exact Nat.le_refl 0
    · exact hall root

def guardedService : Xml.Element :=
  .mk (.plain "service")
    [{ name := ⟨"android", "exported", "http://schemas.android.com/apk/res/android"⟩,
       value := "true" },
     { name := ⟨"android", "permission", "http://schemas.android.com/apk/res/android"⟩,
       value := "p" }] none
    [(.mk (.plain "intent-filter") [] none
      [(.mk (.plain "action")
        [{ name := ⟨"android", "name", "http://schemas.android.com/apk/res/android"⟩,
           value := "a" }] none [], "")], "")]

def guardedCount (min target : Int) : Nat :=
  (tagFindings (Manifest.atLevels {} min target) "service" .service guardedService).length

/-- The service is reported for itself and its action, then for its action, then no more. -/
theorem reported_antitone_service :
    (16 : Int) ≤ 20 ∧ (16 : Int) ≤ 17 ∧ guardedCount 20 16 ≤ guardedCount 16 16 ∧
      guardedCount 20 17 ≤ guardedCount 20 16 ∧
      [guardedCount 16 16, guardedCount 20 16, guardedCount 20 17] = [2, 1, 0] :=
  ⟨by decide, by decide,
    (reported_antitone {} 16 20 16 16 (by decide) (by decide)).1 "service" .service guardedService,
    (reported_antitone {} 20 20 16 17 (by decide) (by decide)).1 "service" .service guardedService,
    by decide +kernel⟩

end ExportedDetector
end DroidAudit
