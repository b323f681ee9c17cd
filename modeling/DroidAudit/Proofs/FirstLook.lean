import DroidAudit.Proofs.Observation

/-! An observer that has seen nothing yet is told of a file. Either no path is set for all observers,
or the path of this file is; the outcome is the same. -/
namespace DroidAudit

/-- Everything as at the start, but for the path that is set for all observers. -/
def Shared.onPath (path : String) : Shared :=
  ({} : Shared).withPath (some (some path)) (some true)

/-- Nobody was reset, and no path is set but the given one, if it is one. -/
def Shared.About (path : String) (s : Shared) : Prop :=
  s = {} ∨ path ≠ "" ∧ s = Shared.onPath path

namespace Shared.About

theorem clean {path : String} {s : Shared} (h : s.About path) : s.Clean := by
  rcases h with rfl | ⟨-, rfl⟩
  · exact clean_initial
  · exact clean_initial.withPath _ _

theorem onPath {path : String} (h : path ≠ "") : (Shared.onPath path).About path := .inr ⟨h, rfl⟩

end Shared.About

/-- Failures to read a file that an observer takes for a file that cannot be read. -/
def Failure.isOfFile : Failure → Bool
  | .file _ => true
  | .undecodable _ => true
  | _ => false

namespace Observer

variable (w : Surroundings) (d : Detector) {path : String} {s : Shared}

theorem path_onPath (o : Observer) (ho : o.facts.path = none) (path : String) :
    o.path (Shared.onPath path) = some path := by
  unfold Observer.path holders
  split <;> simp [ho, Shared.onPath, Shared.withPath, Shared.ofDetector]

theorem path_initial (o : Observer) (ho : o.facts.path = none) : o.path {} = none := by
  unfold Observer.path holders
  split <;> simp [ho, Shared.ofDetector]

theorem isSet_onPath (o : Observer) (ho : o.facts.isSet = none) (path : String) :
    o.isSet (Shared.onPath path) = true := by
  unfold Observer.isSet holders
  split <;> simp [ho, Shared.onPath, Shared.withPath, Shared.ofDetector]

theorem isSet_initial (o : Observer) (ho : o.facts.isSet = none) : o.isSet {} = false := by
  unfold Observer.isSet holders
  split <;> simp [ho, Shared.ofDetector]

theorem updatePath_onPath {first : String} (hp : path ≠ "") :
    updatePath { detector := d } w (Shared.onPath first) (some path) false =
      ⟨{ detector := d }, Shared.onPath first, none⟩ := by
  have hfilter : (some path).filter (!·.isEmpty) = some path := by simp [hp]
  simp only [updatePath, hfilter, isSet_onPath { detector := d } rfl]
  rfl

theorem updatePath_first (hs : s.About path) (hp : path ≠ "") :
    updatePath { detector := d } w s (some path) false =
      ⟨{ detector := d }, Shared.onPath path, none⟩ := by
  rcases hs with rfl | ⟨-, rfl⟩
  · have hfilter : (some path).filter (!·.isEmpty) = some path := by simp [hp]
    simp only [updatePath, hfilter, isSet_initial { detector := d } rfl]
    rfl
  · exact updatePath_onPath w d hp

theorem updatePath_empty (callRun : Bool) :
    updatePath { detector := d } w {} (some "") callRun = ⟨{ detector := d }, {}, none⟩ := by
  have hfilter : (some "").filter (fun s : String => !s.isEmpty) = none := by simp
  simp only [updatePath, hfilter]

theorem updateText_first (hs : s.About path) (hp : path ≠ "") (callRun : Bool) :
    updateText { detector := d } w s (some path) callRun =
      match w.fs.textAt (some path) with
      | .ok text =>
        runIf { detector := d, facts := { contents := some (some text) } } w
          (Shared.onPath path) (callRun && !text.isEmpty)
      | .error e =>
        if e.isOfFile then
          ⟨{ detector := d, facts := { readable := some false, contents := some none } },
            Shared.onPath path, none⟩
        else ⟨{ detector := d }, Shared.onPath path, some e⟩ := by
  have hr : readable { detector := d } s = true := readable_eq hs.clean _
  have hc : contents { detector := d } s = none := contents_eq hs.clean _
  simp only [updateText, hr, hc, Bool.not_true, Bool.false_eq_true, if_false, Option.isSome_none,
    updatePath_first w d hs hp, path_onPath { detector := d } rfl]
  cases w.fs.textAt (some path) with
  | ok text => rfl
  | error e => cases e <;> rfl

theorem updateText_empty (callRun : Bool) :
    updateText { detector := d } w {} (some "") callRun =
      ⟨{ detector := d }, {}, some (.absent .path)⟩ := by
  have hr : readable { detector := d } {} = true := readable_eq Shared.clean_initial _
  have hc : contents { detector := d } {} = none := contents_eq Shared.clean_initial _
  simp only [updateText, hr, hc, Bool.not_true, Bool.false_eq_true, if_false, Option.isSome_none,
    updatePath_empty, path_initial { detector := d } rfl]
  rfl

theorem updateTree_other (hs : s.About path) (hj : Path.isJavaFile path = false)
    (callRun : Bool) :
    updateTree { detector := d } w s (some path) callRun = ⟨{ detector := d }, s, none⟩ := by
  have hp : parseable { detector := d } s = true := parseable_eq hs.clean _
  have ht : tree { detector := d } s = none := tree_eq hs.clean _
  simp only [updateTree, hp, ht, hj, Bool.not_true, Bool.not_false, Bool.false_eq_true, if_false,
    if_true, Option.isSome_none, runOnTree, Bool.and_false]

theorem updateTree_first (hs : s.About path) (hp : path ≠ "") (hj : Path.isJavaFile path = true)
    (callRun : Bool) :
    updateTree { detector := d } w s (some path) callRun =
      match w.fs.textAt (some path) with
      | .ok text =>
        if text.isEmpty then
          ⟨{ detector := d, facts := { contents := some (some text) } }, Shared.onPath path, none⟩
        else
          match Java.read text with
          | .ok tree =>
            runOnTree
              { detector := d, facts := { contents := some (some text), tree := some (some tree) } }
              w (Shared.onPath path) callRun
          | .error e =>
            if e.isPassedOver then
              ⟨{ detector := d, facts :=
                  { contents := some (some text), tree := some none, parseable := some false } },
                Shared.onPath path, none⟩
            else
              ⟨{ detector := d, facts := { contents := some (some text) } }, Shared.onPath path,
                some (.source e)⟩
      | .error e =>
        if e.isOfFile then
          ⟨{ detector := d, facts := { readable := some false, contents := some none } },
            Shared.onPath path, none⟩
        else ⟨{ detector := d }, Shared.onPath path, some e⟩ := by
  have hparse : parseable { detector := d } s = true := parseable_eq hs.clean _
  have htree : tree { detector := d } s = none := tree_eq hs.clean _
  have hclean : (Shared.onPath path).Clean := (Shared.About.onPath hp).clean
  simp only [updateTree, hparse, htree, hj, Bool.not_true, Bool.false_eq_true, if_false,
    Option.isSome_none, updateText_first w d hs hp, Bool.false_and]
  cases w.fs.textAt (some path) with
  | error e =>
    cases he : e.isOfFile with
    | false => simp only [he, Bool.false_eq_true, if_false]
    | true =>
      simp only [he, if_true, contents_eq hclean, Option.getD_some, Option.filter_none,
        runOnTree, tree_eq hclean, Option.getD_none, Option.isSome_none, Bool.and_false,
        Bool.false_eq_true, if_false]
  | ok text =>
    cases hempty : text.isEmpty with
    | true =>
      simp only [runIf, Bool.false_eq_true, if_false, contents_eq hclean, Option.getD_some,
        Option.filter, hempty, Bool.not_true, runOnTree, tree_eq hclean, Option.getD_none,
        Option.isSome_none, Bool.and_false, if_true]
    | false =>
      cases hread : Java.read text <;>
        simp only [runIf, Bool.false_eq_true, if_false, contents_eq hclean, Option.getD_some,
          Option.filter, hempty, Bool.not_false, if_true, hread]

end Observer
end DroidAudit
