import DroidAudit.Proofs.UnsettledViews

/-! Which runs of detectors of trees end without a failure. A failure of such a run is passed over,
and with it what the rest of the run would have found. Four things make a run fail: a detector that
waits for its nodes cannot be started on its own, a tree can lie too deep, and whoever looks for
settings that web views are never told asks each selector behind a call for settings for arguments,
which not all of them have, and copies the views that are left whenever one is declared, which may lie
too deep for that. -/
namespace DroidAudit

namespace Detector

/-- Detectors that look for web views that a method never tells `false`. One of them does so only on
old levels. -/
def SeeksDefaults (d : Detector) (w : Surroundings) (method : String) : Prop :=
  d.toldBy? = some method ∧ (d = .universalAccess → w.manifest.minSdk ≤ 15)

/-- Settings that web views are never told can be looked for. -/
def CanSeek (method : String) (tree : Java.Node) : Prop :=
  WebViewDetector.AllWalkable method tree ∧ tree.reached.2 = true

variable {d : Detector} {w : Surroundings} {path : Option String} {text : String}
  {tree : Java.Node}

theorem plainly_none_iff {result : Except Failure (List Finding)} :
    (plainly result).2 = none ↔ ∃ found, result = .ok found := by
  cases result <;> simp [plainly]

theorem mayRun_ok_iff :
    (∃ answer, d.mayRun w ⟨path, some text, some tree⟩ = .ok answer) ↔
      (d = .universalAccess ∧ w.manifest.minSdk ≤ 15 →
        CanSeek WebViewDetector.universalMethod tree) := by
  cases d with
  | universalAccess =>
    by_cases hm : w.manifest.minSdk ≤ 15
    · rw [CanSeek, ← WebViewDetector.defaults_ok_iff WebViewDetector.universalMethod
        WebViewDetector.universalNotice path]
      simp only [mayRun, hm, if_true, and_self, true_implies]
      rw [exists_bind_eq_ok_iff]
      simp
    · simp [mayRun, hm]
  | pendingIntent =>
    refine iff_of_true ?_ (by simp)
    simp only [mayRun]
    split
    · exact ⟨_, rfl⟩
    · exact ⟨_, rfl⟩
  | _ => exact iff_of_true ⟨_, rfl⟩ (by simp)

theorem runStream_none_iff {s : Sight} {waits : Bool} (ht : s.tree = some tree) :
    (d.runStream waits w s).2 = none ↔ (∃ answer, d.mayRun w s = .ok answer) ∧
      (d.Wants w s → waits = false ∧ tree.reached.2 = true) := by
  cases hm : d.mayRun w s with
  | error e => simp [runStream, hm]
  | ok answer =>
    obtain ⟨wants, asked⟩ := answer
    cases wants with
    | false =>
      rw [runStream_of_idle hm tree.reached.1]
      simp [Wants, hm]
    | true =>
      cases waits with
      | true => simp [runStream, hm, Wants]
      | false =>
        rw [runStream_of_wants hm ht]
        simp [Wants, hm]

/-- A stream that wants to see nodes and runs without a failure has been shown every node. -/
theorem runStream_sees {s : Sight} {waits : Bool} (ht : s.tree = some tree)
    (h : (d.runStream waits w s).2 = none) (hwants : d.Wants w s) :
    (d.runStream waits w s).1 = tree.walk.flatMap (d.see w s) := by
  obtain ⟨rfl, hwhole⟩ := ((runStream_none_iff ht).mp h).2 hwants
  obtain ⟨asked, hm⟩ := hwants
  have hnil : asked = [] := (mayRun_asked hm).resolve_right fun h => nomatch h.1
  rw [runStream_of_wants hm ht, Java.Node.reached_of_whole hwhole]
  simp [yields, hm, hnil]

theorem run_tree_none_iff (hd : d.family = .tree) (files : Option (List String))
    (known : List Finding) :
    (d.run w ⟨path, some text, some tree⟩ files known).2 = none ↔
      ∀ method, d.SeeksDefaults w method → CanSeek method tree := by
  cases d with
  | permissionChecks =>
    refine iff_of_true ?_ (by simp [SeeksDefaults, toldBy?])
    simp only [run, plainly_none_iff, ContentDetector.permissionChecks]
    split
    · exact ⟨_, rfl⟩
    · exact ⟨_, rfl⟩
  | taskAffinity =>
    refine iff_of_true ?_ (by simp [SeeksDefaults, toldBy?])
    simp only [run, plainly_none_iff, ContentDetector.taskAffinity]
    split
    · exact ⟨_, rfl⟩
    split
    · exact ⟨_, rfl⟩
    split
    · exact ⟨_, rfl⟩
    · exact ⟨_, rfl⟩
  | contentAccess =>
    simp only [run, plainly_none_iff, WebViewDetector.defaults_ok_iff]
    simp [SeeksDefaults, toldBy?, CanSeek]
  | fileAccess =>
    simp only [run, plainly_none_iff, WebViewDetector.defaults_ok_iff]
    simp [SeeksDefaults, toldBy?, CanSeek]
  | _ => cases hd

/-- A run on a source file ends without a failure exactly if a detector that looks for settings that
web views are never told can do so, and if one that wants to see nodes does not wait for them and the
tree does not lie too deep. It has then been shown all nodes. -/
theorem run_completes_iff (d : Detector) (hd : d.SeesTree) (w : Surroundings)
    (path : Option String) (text : String) (tree : Java.Node) (files : Option (List String))
    (known : List Finding) :
    ((d.run w ⟨path, some text, some tree⟩ files known).2 = none ↔
      (∀ method, d.SeeksDefaults w method → CanSeek method tree) ∧
      ∀ waits, d.family = .stream waits → d.Wants w ⟨path, some text, some tree⟩ →
        waits = false ∧ tree.reached.2 = true) ∧
    ((d.run w ⟨path, some text, some tree⟩ files known).2 = none →
      ∀ waits, d.family = .stream waits → d.Wants w ⟨path, some text, some tree⟩ →
        (d.run w ⟨path, some text, some tree⟩ files known).1 =
          known ++ tree.walk.flatMap (d.see w ⟨path, some text, some tree⟩)) := by
  rcases hd with hd | ⟨waits, hd⟩
  · rw [run_tree_none_iff hd]
    simp [hd]
  · rw [run_stream hd]
    refine ⟨?_, fun h _ _ hwants => by rw [runStream_sees rfl h hwants]⟩
    rw [runStream_none_iff rfl, mayRun_ok_iff]
    have hseeks : (∀ method, d.SeeksDefaults w method → CanSeek method tree) ↔
        (d = .universalAccess ∧ w.manifest.minSdk ≤ 15 →
          CanSeek WebViewDetector.universalMethod tree) := by
      cases d with
      | contentAccess => cases hd
      | fileAccess => cases hd
      | _ => simp [SeeksDefaults, toldBy?]
    simp [hseeks, hd]

theorem run_completes_iff_storage :
    (externalStorage.SeesTree ∧
      (externalStorage.run ⟨.empty [], {}⟩ ⟨none, some "", some storageTree⟩ none []).2 = none) ∧
    logging.SeesTree ∧
      (logging.run ⟨.empty [], {}⟩ ⟨none, some "", some storageTree⟩ none []).2 ≠ none := by
  have hplain : externalStorage.SeesTree := .inr ⟨false, rfl⟩
  have hwaits : logging.SeesTree := .inr ⟨true, rfl⟩
  refine ⟨⟨hplain, ?_⟩, hwaits, ?_⟩
  · rw [(run_completes_iff externalStorage hplain ⟨.empty [], {}⟩ none "" storageTree none []).1]
    refine ⟨by simp [SeeksDefaults, toldBy?], ?_⟩
    rintro waits ⟨⟩ -
    exact ⟨rfl, by decide⟩
  · intro h
    rw [(run_completes_iff logging hwaits ⟨.empty [], {}⟩ none "" storageTree none []).1] at h
    cases (h.2 true rfl ⟨[], rfl⟩).1

def loggingSource : String := "class A \x7bvoid f() \x7bLog.d(\"a\", \"b\");\x7d\x7d"

/-- A detector that waits for its nodes fails on a source file in which it would report a call. -/
theorem logging_call_unreported :
    ∃ tree, Java.read loggingSource = .ok tree ∧
      logging.run ⟨.empty [], {}⟩ ⟨some "A.java", some loggingSource, some tree⟩ none [] =
        ([], some cannotStart) ∧
      tree.walk.flatMap (logging.see ⟨.empty [], {}⟩
        ⟨some "A.java", some loggingSource, some tree⟩) ≠ [] := by
  have hread : ((Java.read loggingSource).toOption.any fun tree =>
      !(tree.walk.flatMap (logging.see ⟨.empty [], {}⟩
        ⟨some "A.java", some loggingSource, some tree⟩)).isEmpty) = true := by decide +kernel
  obtain ⟨tree, htree, hseen⟩ := (Option.any_eq_true _ _).mp hread
  exact ⟨tree, toOption_eq_some_iff.mp htree, rfl, by simpa using hseen⟩

end Detector
end DroidAudit
