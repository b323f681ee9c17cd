import DroidAudit.Proofs.Completion

/-! Access from files to everything, and the level of the app. From level 16 on a call that grants it
is reported; below, what counts is whether a web view is left that nobody told `false`, and calls are
not looked at. So a call that is reported on a new level can go unreported on an old one. -/
namespace DroidAudit

def Surroundings.atLevel (w : Surroundings) (level : Int) : Surroundings :=
  { w with manifest := { w.manifest with minSdk := level } }

namespace Detector
open WebViewDetector

/-- A run adds findings to those that are known. -/
def Adds (d : Detector) (w : Surroundings) (s : Sight) (files : Option (List String))
    (known : List Finding) : Prop :=
  ∃ found failure, d.run w s files known = (known ++ found, failure) ∧ found ≠ []

def Grants (nodes : List Java.Node) : Prop :=
  ∃ n ∈ nodes, n.isCallWith universalMethod "true" = true

variable {d : Detector} {w : Surroundings} {s : Sight} {tree : Java.Node}
  {files : Option (List String)} {known : List Finding}

theorem adds_stream_iff {waits : Bool} (hd : d.family = .stream waits) :
    d.Adds w s files known ↔ (d.runStream waits w s).1 ≠ [] := by
  rw [Adds, run_stream hd]
  constructor
  · rintro ⟨found, failure, hrun, hne⟩
    rwa [List.append_cancel_left (congrArg Prod.fst hrun)]
  · exact fun hne => ⟨_, _, rfl, hne⟩

theorem see_universalAccess_ne_nil_iff {nodes : List Java.Node} :
    nodes.flatMap (universalAccess.see w s) ≠ [] ↔ Grants nodes := by
  rw [Ne, List.flatMap_eq_nil_iff, Grants]
  simp [see, ifCall]

/-- From level 16 on, what is met of the tree is looked through for calls. -/
theorem universalAccess_adds_new_iff (ht : s.tree = some tree)
    (hlevel : ¬w.manifest.minSdk ≤ 15) :
    universalAccess.Adds w s files known ↔ Grants tree.reached.1 := by
  have hmay : universalAccess.mayRun w s = .ok (true, []) := by rw [mayRun, if_neg hlevel]
  rw [adds_stream_iff rfl, runStream_of_wants hmay ht, yields, hmay]
  exact see_universalAccess_ne_nil_iff

/-- Up to level 15, what counts is whether a view is left. -/
theorem universalAccess_adds_old_iff (ht : s.tree = some tree) (hlevel : w.manifest.minSdk ≤ 15) :
    universalAccess.Adds w s files known ↔
      CanSeek universalMethod tree ∧ LeavesView universalMethod tree := by
  rw [adds_stream_iff rfl, CanSeek, ← defaults_left_iff universalMethod universalNotice s.path]
  have hmay : universalAccess.mayRun w s =
      (defaults (some tree) universalMethod universalNotice s.path).map fun found =>
        (false, found) := by
    rw [mayRun, if_pos hlevel, ht]
    rfl
  cases hdefaults : defaults (some tree) universalMethod universalNotice s.path <;>
    simp [runStream, hmay, hdefaults, Except.map]

/-- What is reported on each level, and for which files a call that grants access is always reported
and a lower level never takes findings away: those without such a call, and those in which a web view
is left wherever it is looked for. -/
theorem universalAccess_levels (w : Surroundings) {s : Sight} {tree : Java.Node}
    (ht : s.tree = some tree) (files : Option (List String)) (known : List Finding) :
    (∀ level, universalAccess.Adds (w.atLevel level) s files known ↔
      if level ≤ 15 then
        CanSeek universalMethod tree ∧ LeavesView universalMethod tree
      else Grants tree.reached.1) ∧
    (((∀ level, Grants tree.walk → universalAccess.Adds (w.atLevel level) s files known) ∧
        ∀ lower level, lower ≤ level → universalAccess.Adds (w.atLevel level) s files known →
          universalAccess.Adds (w.atLevel lower) s files known) ↔
      (Grants tree.walk →
        CanSeek universalMethod tree ∧ LeavesView universalMethod tree)) := by
  have hold : ∀ level ≤ 15, universalAccess.Adds (w.atLevel level) s files known ↔
      CanSeek universalMethod tree ∧ LeavesView universalMethod tree :=
    fun level hlevel => universalAccess_adds_old_iff ht hlevel
  have hnew : ∀ level, ¬level ≤ 15 → (universalAccess.Adds (w.atLevel level) s files known ↔
      Grants tree.reached.1) := fun level hlevel => universalAccess_adds_new_iff ht hlevel
  refine ⟨fun level => ?_, ?_, ?_⟩
  · split
    · exact hold level ‹_›
    · exact hnew level ‹_›
  · exact fun h hgrants => (hold 15 (Int.le_refl 15)).mp (h.1 15 hgrants)
  · intro hleft
    -- with a view left the whole tree is met, so each call of it is
    have hall : ∀ level, Grants tree.walk → universalAccess.Adds (w.atLevel level) s files known := by
      intro level hgrants
      by_cases hlevel : level ≤ 15
      · exact (hold level hlevel).mpr (hleft hgrants)
      · rw [hnew level hlevel, Java.Node.reached_of_whole (hleft hgrants).1.2]
        exact hgrants
    refine ⟨hall, fun lower level hle hadds => ?_⟩
    by_cases hlevel : level ≤ 15
    · rw [hold level hlevel] at hadds
      exact (hold lower (Int.le_trans hle hlevel)).mpr hadds
    · obtain ⟨n, hn, hcall⟩ := (hnew level hlevel).mp hadds
      exact hall lower ⟨n, Java.Node.mem_walk_of_reached hn, hcall⟩

/-- A method in which a web view is declared and its settings grant access. -/
def grantedView : Java.Node :=
  .mk (.methodDeclaration "f") none
    [(.body, .mk .localVariableDeclaration none
        [(.type, .mk (.referenceType "WebView") none []),
         (.declarator, .mk (.variableDeclarator "v") none [])]),
     (.body, .mk .statementExpression none
        [(.other, .mk (.methodInvocation (some "v") "getSettings") none
          [(.selector, .mk (.methodInvocation none universalMethod) none
            [(.argument, .mk (.literal "true") none [])])])])]

theorem universalAccess_levels_granted_view :
    Grants grantedView.walk ∧
      (∀ level, universalAccess.Adds (Surroundings.atLevel ⟨.empty [], {}⟩ level)
        ⟨none, none, some grantedView⟩ none []) := by
  have hgrants : Grants grantedView.walk :=
    ⟨.mk (.methodInvocation none universalMethod) none
      [(.argument, .mk (.literal "true") none [])], by decide, by decide⟩
  have hleft := (defaults_left_iff universalMethod universalNotice none).mp
    ⟨_, (rfl : defaults (some grantedView) universalMethod universalNotice none =
      .ok [universalNotice.about none none]), List.cons_ne_nil _ _⟩
  exact ⟨hgrants, fun level => ((universalAccess_levels ⟨.empty [], {}⟩
    (s := ⟨none, none, some grantedView⟩) rfl none []).2.mpr fun _ => hleft).1 level hgrants⟩

/-- The text of a class that grants access through settings it is given. -/
def grantSource : String :=
  "class A \x7bvoid f(WebSettings s) \x7bs.setAllowUniversalAccessFromFileURLs(true);\x7d\x7d"

def grantTree : Java.Node :=
  .mk .compilationUnit none [(.other, .mk (.classDeclaration "A") (some ⟨1, 1⟩)
    [(.body, .mk (.methodDeclaration "f") (some ⟨1, 10⟩)
      [(.other, .mk (.formalParameter "s") (some ⟨1, 17⟩)
          [(.type, .mk (.referenceType "WebSettings") none [])]),
       (.body, .mk .statementExpression (some ⟨1, 33⟩)
          [(.other, .mk (.methodInvocation (some "s") universalMethod) (some ⟨1, 33⟩)
            [(.argument, .mk (.literal "true") (some ⟨1, 71⟩) [])])])])])]

/-- On level 16 the call is reported, and on level 15 nothing is. -/
theorem grant_unreported_on_lower_level :
    Java.read grantSource = .ok grantTree ∧ Grants grantTree.walk ∧
      universalAccess.run (Surroundings.atLevel ⟨.empty [], {}⟩ 16)
          ⟨some "A.java", some grantSource, some grantTree⟩ none [] =
        ([universalNotice.about (some "A.java") (some ⟨1, 33⟩)], none) ∧
      universalAccess.run (Surroundings.atLevel ⟨.empty [], {}⟩ 15)
          ⟨some "A.java", some grantSource, some grantTree⟩ none [] = ([], none) := by
  have hchars : grantSource.toList = _ := String.toList_ofList
  refine ⟨?_, ?_, rfl, rfl⟩
  · rw [Java.read_of_toList hchars]
    decide +kernel
  · exact ⟨.mk (.methodInvocation (some "s") universalMethod) (some ⟨1, 33⟩)
      [(.argument, .mk (.literal "true") (some ⟨1, 71⟩) [])], by decide, by decide⟩

end Detector
end DroidAudit
