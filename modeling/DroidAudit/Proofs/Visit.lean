import DroidAudit.Proofs.Notification
import DroidAudit.Scan
import Mathlib.Data.List.Basic

/-! Files one after the other. Observers go through the first file as if it were the only one, and
what they hold of it is not taken back between the files. From the second file on they are idle, if
the first one was empty, or one of them fails. -/
namespace DroidAudit

namespace Session

variable {places : List Nat} {s : Session}

theorem each_idle {step : Session → Nat → Stepped}
    (h : ∀ i ∈ places, step s i = (s, none)) : each step places s = (s, none) := by
  induction places with
  | nil => rfl
  | cons i places ih =>
    rw [each, h i (by simp)]
    exact ih fun j hj => h j (by simp [hj])

theorem each_fails {step : Session → Nat → Stepped} {P : Session → Prop} {k : Nat}
    (hk : ∀ s, P s → (step s k).2 ≠ none) (hother : ∀ s i, i ≠ k → P s → P (step s i).1)
    (hmem : k ∈ places) (hs : P s) :
    (each step places s).2 ≠ none := by
  induction places generalizing s with
  | nil => cases hmem
  | cons i places ih =>
    rw [each]
    cases hstep : step s i with
    | mk s' e =>
      cases e with
      | some e => simp
      | none =>
        have hne : i ≠ k := by
          rintro rfl
          exact hk s hs (by rw [hstep])
        have hs' : P s' := by
          have := hother s i hne hs
          rwa [hstep] at this
        exact ih (by simpa [hne.symm] using hmem) hs'

/-- Resetting observers of files never fails, touches no observer and no level, and clears their
detectors. -/
theorem each_reset (h : ∀ i ∈ places, ∃ o, s.observer? i = some o ∧ o.detector.family ≠ .manifest) :
    ∃ t, each (fun s i => s.reset i) places s = ({ s with shared := t }, none) ∧
      t.withoutDetectors = s.shared.withoutDetectors ∧ (s.shared.Clean → t.Clean) ∧
      (∀ o : Observer, o.IsCleared s.shared → o.IsCleared t) ∧
      ∀ i ∈ places, ∀ o, s.observer? i = some o → o.IsCleared t := by
  induction places generalizing s with
  | nil => exact ⟨s.shared, rfl, rfl, id, fun _ => id, by simp⟩
  | cons i places ih =>
    obtain ⟨o, ho, hd⟩ := h i (by simp)
    obtain ⟨level, hstep⟩ := reset_eq ho hd
    have hcleared := move_reset_cleared ho hd
    simp only [move, hstep] at hcleared
    obtain ⟨t, he, hlevels, hclean, hkept, hall⟩ :=
      ih (s := { s with shared := s.shared.clearDetector o.detector level })
        fun j hj => h j (by simp [hj])
    refine ⟨t, by rw [each, hstep]; exact he, hlevels, ?_, ?_, ?_⟩
    · exact fun hs => hclean (hs.clearDetector o.detector level)
    · exact fun p hp => hkept p (hp.clearDetector o.detector level)
    · intro j hj p hp
      rcases List.mem_cons.mp hj with rfl | hj
      · cases ho.symm.trans hp
        exact hkept o hcleared
      · exact hall j hj p hp

end Session
namespace Observer

/-- An observer that does nothing when it is told of a file. -/
def Idle (w : Surroundings) (path : String) (o : Observer) : Prop :=
  ∀ s : Shared, s.Clean → o.update w s (some path) true = ⟨o, s, none⟩

variable {w : Surroundings} {path text : String}

variable {o : Observer} {s : Shared}

theorem updateText_of_empty (ho : o.facts = { contents := some (some text) })
    (ht : text.isEmpty = true) (hs : s.Clean) (callRun : Bool) :
    o.updateText w s (some path) callRun = ⟨o, s, none⟩ := by
  have hr : o.readable s = true := by rw [readable_eq hs, ho]; rfl
  have hc : o.contents s = some text := by rw [contents_eq hs, ho]; rfl
  simp only [updateText, hr, hc, Bool.not_true, Bool.false_eq_true, if_false, Option.isSome_some,
    if_true, Option.any_some, ht, Bool.and_false, runIf]

theorem idle_of_text (hd : o.detector.family = .text)
    (ho : o.facts = { contents := some (some text) }) (ht : text.isEmpty = true) :
    o.Idle w path := by
  intro s hs
  rw [update_of_text hd]
  exact updateText_of_empty ho ht hs true

theorem idle_of_other (hd : o.detector.SeesTree) (ho : o.facts = {})
    (hj : Path.isJavaFile path = false) : o.Idle w path := by
  intro s hs
  have hp : o.parseable s = true := by rw [parseable_eq hs, ho]; rfl
  have ht : o.tree s = none := by rw [tree_eq hs, ho]; rfl
  rw [update_of_tree hd]
  simp only [updateTree, hp, ht, hj, Bool.not_true, Bool.not_false, Bool.false_eq_true, if_false,
    if_true, Option.isSome_none, runOnTree, Bool.and_false]

theorem idle_of_empty (hd : o.detector.SeesTree)
    (ho : o.facts = { contents := some (some text) }) (hempty : text.isEmpty = true) :
    o.Idle w path := by
  intro s hs
  have hp : o.parseable s = true := by rw [parseable_eq hs, ho]; rfl
  have ht : o.tree s = none := by rw [tree_eq hs, ho]; rfl
  have hc : o.contents s = some text := by rw [contents_eq hs, ho]; rfl
  rw [update_of_tree hd]
  simp only [updateTree, hp, ht, updateText_of_empty ho hempty hs, hc, Bool.not_true,
    Bool.false_eq_true, if_false, Option.isSome_none, Option.filter, hempty, runOnTree,
    Bool.and_false, ite_self]

/-- After a reset, a text that is not empty is run on without a path, and contents cannot be
searched for keys without one. -/
theorem update_keys_fails (hs : s.Clean) (hc : o.IsCleared s)
    (hd : o.detector = .contentKeys) (ho : o.facts = { contents := some (some text) })
    (ht : text.isEmpty = false) : (o.update w s (some path) true).failure ≠ none := by
  have hr : o.readable s = true := by rw [readable_eq hs, ho]; rfl
  have htext : o.contents s = some text := by rw [contents_eq hs, ho]; rfl
  have hpath : o.path s = none := path_of_cleared (by rw [ho]) hc
  rw [update_of_text (by rw [hd]; rfl)]
  simp only [updateText, hr, htext, Bool.not_true, Bool.false_eq_true, if_false, Option.isSome_some,
    if_true, Option.any_some, ht, Bool.not_false, Bool.and_self, runIf_eq, run, sight, hpath, hd]
  simp [Detector.run, ContentDetector.keys, Detector.plainly]

/-- After a reset, an observer of trees without a text has no path to read one from. -/
theorem update_tree_fails (hs : s.Clean) (hc : o.IsCleared s)
    (hd : o.detector.SeesTree) (ho : o.facts = {}) (hj : Path.isJavaFile path = true) :
    (o.update w s (some path) true).failure ≠ none := by
  have hp : o.parseable s = true := by rw [parseable_eq hs, ho]; rfl
  have ht : o.tree s = none := by rw [tree_eq hs, ho]; rfl
  have hr : o.readable s = true := by rw [readable_eq hs, ho]; rfl
  have htext : o.contents s = none := by rw [contents_eq hs, ho]; rfl
  obtain ⟨p, b, hu⟩ := o.updatePath_false w s (some path)
  have hpath : o.path (s.withPath p b) = none := path_of_cleared (by rw [ho]) hc
  have hread : w.fs.textAt none = .error (.absent .path) := rfl
  rw [update_of_tree hd]
  simp only [updateTree, updateText, hp, ht, hr, htext, hj, hu, hpath, hread, Bool.not_true,
    Bool.false_eq_true, if_false, Option.isSome_none]
  simp

end Observer
/-- A file with a text that can be read and, if it is a Java file, parsed or passed over. -/
structure Surroundings.Holds (w : Surroundings) (path : String) : Prop where
  text : ∃ text, w.fs.textAt (some path) = .ok text
  tame : w.Tame path

namespace Surroundings.Holds

variable {w : Surroundings} {path : String}

theorem ne_empty (h : w.Holds path) : path ≠ "" := by
  rintro rfl
  obtain ⟨text, ht⟩ := h.text
  obtain ⟨e, he⟩ := w.fs.textAt_empty
  rw [ht] at he
  cases he

theorem nameable (h : w.Holds path) : w.Nameable path := by
  refine ⟨h.ne_empty, fun e he => ?_⟩
  obtain ⟨text, ht⟩ := h.text
  rw [ht] at he
  cases he

end Surroundings.Holds

namespace Scan
open Session

/-- Observers of nodes that were taken out go back to their places. -/
theorem putStreams_filter (observers : List Observer) :
    putStreams observers (observers.filter fun o => o.detector.level? == some .stream) =
      observers := by
  induction observers with
  | nil => rfl
  | cons o rest ih =>
    cases ho : o.detector.level? == some .stream with
    | true => simp only [List.filter_cons, ho, putStreams, ih, if_true]
    | false =>
      simp only [List.filter_cons, ho, Bool.false_eq_true, if_false]
      cases hshown : rest.filter fun o => o.detector.level? == some .stream with
      | nil => simp [putStreams]
      | cons n shown => rw [putStreams, ho, ← hshown, ih]; rfl

/-- Levels hold no tree, so none is shown between the notification and the reset. -/
theorem visit_cons {s s' s'' : Session} {file : String} (rest : List String)
    (hn : s.notify (some file) = (s', none)) (hs : s'.shared.Clean)
    (hr : s'.resetRegistered = (s'', none)) : visit s (file :: rest) = visit s'' rest := by
  have hsilent : ∀ observers, showTree s'.surroundings s'.shared observers = (observers, none) := by
    intro observers
    simp only [showTree, hs.tree.tree]
  simp only [visit, hn, hsilent, putStreams_filter]
  rw [show ({ s' with observers := s'.observers } : Session) = s' from rfl, hr]

theorem visit_fails {s : Session} {file : String} (rest : List String)
    (hn : (s.notify (some file)).2 ≠ none) : (visit s (file :: rest)).2 ≠ none := by
  rw [visit]
  cases h : s.notify (some file) with
  | mk s' e =>
    cases e with
    | none => simp [h] at hn
    | some e => simp

structure Seen (w : Surroundings) (ds : List Detector) (path : String) (s : Session) : Prop where
  surroundings : s.surroundings = w
  observers : s.observers = ds.map (·.looked w path)
  registered : s.registered = List.range ds.length
  clean : s.shared.Clean

/-- The observers were reset since. -/
structure After (w : Surroundings) (ds : List Detector) (path : String) (s : Session) : Prop
    extends Seen w ds path s where
  cleared : ∀ d ∈ ds, (d.looked w path).IsCleared s.shared

section
variable {w : Surroundings} {ds : List Detector} {first path : String} {s : Session}

variable {d : Detector} {text : String} {rest : List String}

theorem Seen.observer? (h : Seen w ds first s) {i : Nat} (hd : ds[i]? = some d) :
    s.observer? i = some (d.looked w first) := by
  rw [Session.observer?, h.observers, List.getElem?_map, hd, Option.map_some]

theorem Seen.mem_registered (h : Seen w ds first s) {i : Nat} :
    i ∈ s.registered ↔ ∃ d ∈ ds, ds[i]? = some d := by
  rw [h.registered, List.mem_range]
  constructor
  · intro hi
    exact ⟨ds[i], List.getElem_mem hi, List.getElem?_eq_getElem hi⟩
  · rintro ⟨d, -, hi⟩
    exact (List.getElem?_eq_some_iff.mp hi).1

theorem visit_fails_at (hs : After w ds first s) (hd : d ∈ ds)
    (hbad : ∀ t : Shared, t.Clean → (d.looked w first).IsCleared t →
      ((d.looked w first).update w t (some path) true).failure ≠ none) (rest : List String) :
    (visit s (path :: rest)).2 ≠ none := by
  obtain ⟨k, hk⟩ := List.getElem?_of_mem hd
  refine visit_fails rest (each_fails (k := k) (P := fun s => s.surroundings = w ∧
    s.shared.Clean ∧ s.observer? k = some (d.looked w first) ∧
    (d.looked w first).IsCleared s.shared) ?_ ?_ (hs.mem_registered.mpr ⟨d, hd, hk⟩)
    ⟨hs.surroundings, hs.clean, hs.observer? hk, hs.cleared d hd⟩)
  · rintro s ⟨rfl, hclean, ho, hc⟩
    rw [update_eq ho]
    exact hbad s.shared hclean hc
  · rintro s i hne ⟨hw, hclean, ho, hc⟩
    obtain ⟨hsame, hsurr, p, b, hu⟩ := update_other hclean hne (some path) true
    refine ⟨hsurr.trans hw, ?_, hsame.trans ho, ?_⟩
    · rw [hu]
      exact hclean.withPath p b
    · rw [hu]
      exact hc

/-- After an empty file everybody is idle, apart from observers of trees that were told of no Java
file before and now are. -/
theorem idle_after_empty (hd : d.family ≠ .manifest)
    (hp : first ≠ "") (h : w.fs.textAt (some first) = .ok text) (ht : text.isEmpty = true)
    (hj : Path.isJavaFile first = true ∨ Path.isJavaFile path = false) :
    (d.looked w first).Idle w path := by
  rcases Detector.text_or_tree hd with hf | hf
  · rw [(Detector.looked_of_text hf hp h).1]
    exact Observer.idle_of_text hf rfl ht
  · cases hfirst : Path.isJavaFile first with
    | true =>
      rw [(Detector.looked_of_empty hf hp hfirst h ht).1]
      exact Observer.idle_of_empty hf rfl ht
    | false =>
      rw [(Detector.looked_of_other hf hfirst).1]
      exact Observer.idle_of_other hf rfl (hj.resolve_left (by simp [hfirst]))

theorem visit_fails_of_text (hkeys : .contentKeys ∈ ds) (hp : first ≠ "")
    (h : w.fs.textAt (some first) = .ok text) (ht : text.isEmpty = false)
    (hs : After w ds first s) (rest : List String) : (visit s (path :: rest)).2 ≠ none := by
  refine visit_fails_at hs hkeys (fun t hclean hc => ?_) rest
  rw [(Detector.looked_of_text rfl hp h).1] at hc ⊢
  exact Observer.update_keys_fails hclean hc rfl rfl ht

theorem check_fails {s : Session} {files : List String}
    (hv : (visit (s.watch ds) files).2 ≠ none) : (check s ds files).2.2 ≠ none := by
  unfold check
  split
  · simp
  · rename_i h
    simp [h] at hv

variable (hd : ∀ d ∈ ds, d.family ≠ .manifest)
include hd

theorem Seen.reset (h : Seen w ds first s) :
    ∃ s', s.resetRegistered = (s', none) ∧ After w ds first s' ∧
      s'.shared.withoutDetectors = s.shared.withoutDetectors := by
  have hall : ∀ i ∈ s.registered, ∃ o, s.observer? i = some o ∧ o.detector.family ≠ .manifest := by
    intro i hi
    obtain ⟨d, hmem, hplace⟩ := h.mem_registered.mp hi
    refine ⟨_, h.observer? hplace, ?_⟩
    rw [Detector.looked_detector]
    exact hd d hmem
  obtain ⟨t, he, hlevels, hclean, -, hcleared⟩ := each_reset hall
  refine ⟨{ s with shared := t }, he,
    ⟨⟨h.surroundings, h.observers, h.registered, hclean h.clean⟩, fun d hmem => ?_⟩, hlevels⟩
  obtain ⟨i, hi⟩ := List.getElem?_of_mem hmem
  exact hcleared i (h.mem_registered.mpr ⟨d, hmem, hi⟩) _ (h.observer? hi)

theorem visit_first (hf : w.Holds first) (rest : List String) :
    ∃ s, After w ds first s ∧ visit (w.session.watch ds) (first :: rest) = visit s rest := by
  obtain ⟨seen, unseen, t, hds, ht, hn, hend⟩ := notify_watch w first hd
  have hnone : ds.findSome? (·.lookFailure w first) = none := by
    have := (notify_first hd hf.tame).2 hf.nameable
    rwa [hn] at this
  rw [hend hnone, List.append_nil] at hds
  subst hds
  have hseen : Seen w ds first { w.session.watch ds with
      observers := ds.map (·.looked w first), shared := t } :=
    ⟨rfl, rfl, rfl, ht.clean⟩
  obtain ⟨s, hr, hs, -⟩ := hseen.reset hd
  refine ⟨s, hs, visit_cons rest ?_ ht.clean hr⟩
  simpa [hend hnone, hnone] using hn

theorem visit_idle (hs : After w ds first s)
    (hidle : ∀ d ∈ ds, (d.looked w first).Idle w path) (rest : List String) :
    ∃ s', After w ds first s' ∧ visit s (path :: rest) = visit s' rest := by
  have hn : s.notify (some path) = (s, none) := by
    refine each_idle fun i hi => ?_
    obtain ⟨d, hmem, hplace⟩ := hs.mem_registered.mp hi
    have ho := hs.observer? hplace
    rw [update_eq ho, hs.surroundings, hidle d hmem s.shared hs.clean]
    obtain ⟨hlt, hget⟩ := List.getElem?_eq_some_iff.mp ho
    simp only [apply, setObserver, ← hget, List.set_getElem_self]
  obtain ⟨s', hr, hs', -⟩ := hs.reset hd
  exact ⟨s', hs', visit_cons rest hn hs.clean hr⟩

theorem visit_all_idle (hs : After w ds first s)
    (hidle : ∀ path ∈ rest, ∀ d ∈ ds, (d.looked w first).Idle w path) :
    ∃ s', After w ds first s' ∧ visit s rest = (s', none) := by
  induction rest generalizing s with
  | nil => exact ⟨s, hs, rfl⟩
  | cons path rest ih =>
    obtain ⟨s₁, hs₁, he⟩ := visit_idle hd hs (hidle path (by simp)) rest
    rw [he]
    exact ih hs₁ fun p hp => hidle p (by simp [hp])

theorem visit_fails_of_java (hmem : d ∈ ds) (htree : d.SeesTree) (hp : first ≠ "")
    (h : w.fs.textAt (some first) = .ok text) (ht : text.isEmpty = true)
    (hfirst : Path.isJavaFile first = false) (hs : After w ds first s)
    (hjava : ∃ path ∈ rest, Path.isJavaFile path = true) : (visit s rest).2 ≠ none := by
  induction rest generalizing s with
  | nil => simp at hjava
  | cons path rest ih =>
    cases hj : Path.isJavaFile path with
    | true =>
      refine visit_fails_at hs hmem (fun t hclean hc => ?_) rest
      rw [(Detector.looked_of_other htree hfirst).1] at hc ⊢
      exact Observer.update_tree_fails hclean hc htree rfl hj
    | false =>
      have hidle : ∀ d ∈ ds, (d.looked w first).Idle w path := fun d hmem =>
        idle_after_empty (hd d hmem) hp h ht (.inr hj)
      obtain ⟨s₁, hs₁, he⟩ := visit_idle hd hs hidle rest
      rw [he]
      exact ih hs₁ (by simpa [hj] using hjava)

theorem check_of_after (hf : w.Holds first)
    {files : List String} (hv : visit (w.session.watch ds) files = (s, none))
    (hs : After w ds first s) :
    (check w.session ds files).2 = (ds.flatMap (·.alone w first), none) := by
  have hfound : ∀ d ∈ ds, (d.looked w first).findings = d.alone w first := fun d hmem =>
    (Detector.looked_findings (hd d hmem) hf.tame).1
  simp only [check, hv, hs.observers, List.flatMap_map, Prod.mk.injEq, and_true]
  exact List.flatMap_congr hfound

theorem check_single (hf : w.Holds first) :
    (check w.session ds [first]).2 = (ds.flatMap (·.alone w first), none) := by
  obtain ⟨s, hs, hv⟩ := visit_first hd hf []
  exact check_of_after hd hf hv hs

/-- Several files in a row go well if the first one is empty, and a Java file or in the company of
no Java file; then nothing is found. -/
theorem check_more_ok (hf : w.Holds first)
    (h : w.fs.textAt (some first) = .ok "")
    (hj : Path.isJavaFile first = true ∨ ∀ f ∈ rest, Path.isJavaFile f = false) :
    (check w.session ds (first :: rest)).2 = ([], none) := by
  obtain ⟨s, hs, hv⟩ := visit_first hd hf rest
  have hidle : ∀ path ∈ rest, ∀ d ∈ ds, (d.looked w first).Idle w path := fun path hp d hmem =>
    idle_after_empty (hd d hmem) hf.ne_empty h rfl (hj.imp_right fun hall => hall path hp)
  obtain ⟨s', hs', hv'⟩ := visit_all_idle hd hs hidle
  rw [check_of_after hd hf (hv.trans hv') hs']
  have hnone : ∀ d ∈ ds, d.alone w first = [] := fun d _ => Detector.alone_of_empty h rfl d
  rw [List.flatMap_eq_nil_iff.mpr hnone]

/-- Otherwise the second file, or the first Java file, makes them fail. -/
theorem check_more_fails (hkeys : .contentKeys ∈ ds)
    (hmem : d ∈ ds) (htree : d.SeesTree) (hf : w.Holds first) {second : String}
    (hbad : ¬ (w.fs.textAt (some first) = .ok "" ∧ (Path.isJavaFile first = true ∨
      ∀ f ∈ second :: rest, Path.isJavaFile f = false))) :
    (check w.session ds (first :: second :: rest)).2.2 ≠ none := by
  obtain ⟨s, hs, hv⟩ := visit_first hd hf (second :: rest)
  apply check_fails
  rw [hv]
  obtain ⟨text, h⟩ := hf.text
  cases ht : text.isEmpty with
  | false => exact visit_fails_of_text hkeys hf.ne_empty h ht hs rest
  | true =>
    obtain rfl : text = "" := by simpa using ht
    rw [not_and, not_or, Bool.not_eq_true] at hbad
    obtain ⟨hfirst, hjava⟩ := hbad h
    refine visit_fails_of_java hd hmem htree hf.ne_empty h ht hfirst hs ?_
    simpa only [not_forall, Bool.not_eq_false, exists_prop] using hjava

end

/-- Checking files together collects what they give one by one exactly in these cases: there is at
most one file, or the first file is empty, it is a Java file if one of the others is, and the others
give nothing. The order of the files therefore matters. -/
theorem check_union_iff (w : Surroundings) (files : List String)
    (hfiles : ∀ f ∈ files, w.Holds f) :
    ((check w.session fileDetectors files).2.2 = none ∧
      (check w.session fileDetectors files).2.1.Perm
        (files.flatMap fun f => (check w.session fileDetectors [f]).2.1)) ↔
    files.length ≤ 1 ∨ ∃ first rest, files = first :: rest ∧
      w.fs.textAt (some first) = .ok "" ∧
      (Path.isJavaFile first = true ∨ ∀ f ∈ rest, Path.isJavaFile f = false) ∧
      ∀ f ∈ rest, (check w.session fileDetectors [f]).2.1 = [] := by
  have hd : ∀ d ∈ fileDetectors, d.family ≠ .manifest := by decide
  match files with
  | [] =>
    refine iff_of_true ⟨rfl, ?_⟩ (.inl (by simp))
    simp [check, visit, watch]
  | [first] =>
    have hone := check_single hd (hfiles first (by simp))
    refine iff_of_true ⟨by rw [hone], ?_⟩ (.inl (by simp))
    rw [List.flatMap_singleton]
  | first :: second :: rest =>
    have hf := hfiles first (by simp)
    by_cases hgood : w.fs.textAt (some first) = .ok "" ∧ (Path.isJavaFile first = true ∨
        ∀ f ∈ second :: rest, Path.isJavaFile f = false)
    · have hfirst : (check w.session fileDetectors [first]).2.1 = [] := by
        rw [check_more_ok hd hf hgood.1 (.inr (by simp))]
      rw [check_more_ok hd hf hgood.1 hgood.2, List.flatMap_cons, hfirst, List.nil_append]
      constructor
      · rintro ⟨-, hperm⟩
        exact .inr ⟨first, second :: rest, rfl, hgood.1, hgood.2,
          List.flatMap_eq_nil_iff.mp hperm.nil_eq.symm⟩
      · rintro (hlen | ⟨first', rest', he, -, -, hnone⟩)
        · simp at hlen
        · cases he
          rw [List.flatMap_eq_nil_iff.mpr hnone]
          exact ⟨rfl, .refl _⟩
    · have hfails := check_more_fails hd (by decide) (d := .permissionChecks) (by decide)
        (.inl rfl) hf hgood
      refine iff_of_false (fun h => hfails h.1) ?_
      rintro (hlen | ⟨first', rest', he, h, hj, -⟩)
      · simp at hlen
      · cases he
        exact hgood ⟨h, hj⟩

theorem twoSources_holds (m : Manifest) :
    ∀ f ∈ ["s/A.java", "s/B.java"], Surroundings.Holds ⟨.twoSources, m⟩ f := by
  simp only [List.mem_cons, List.not_mem_nil, or_false, forall_eq_or_imp, forall_eq]
  exact ⟨⟨⟨_, FileSystem.twoSources_A⟩,
      Surroundings.tame_of_read FileSystem.twoSources_A (by decide +kernel)⟩,
    ⟨_, FileSystem.twoSources_B⟩,
    Surroundings.tame_of_read FileSystem.twoSources_B (by decide +kernel)⟩

theorem check_union_iff_two_sources :
    (∀ f ∈ ["s/A.java", "s/B.java"], Surroundings.Holds ⟨.twoSources, {}⟩ f) ∧
      ¬ ((check (Surroundings.session ⟨.twoSources, {}⟩) fileDetectors
          ["s/A.java", "s/B.java"]).2.2 = none ∧
        (check (Surroundings.session ⟨.twoSources, {}⟩) fileDetectors
          ["s/A.java", "s/B.java"]).2.1.Perm
            (["s/A.java", "s/B.java"].flatMap fun f =>
              (check (Surroundings.session ⟨.twoSources, {}⟩) fileDetectors [f]).2.1)) := by
  have hholds := twoSources_holds {}
  refine ⟨hholds, ?_⟩
  rw [check_union_iff ⟨.twoSources, {}⟩ ["s/A.java", "s/B.java"] hholds]
  rintro (hlen | ⟨first, rest, he, h, -⟩)
  · simp at hlen
  · cases he
    rw [FileSystem.twoSources_A] at h
    exact absurd h (by decide)

/-- Each of two small classes can be checked, but not both in a row. -/
theorem check_two_sources_fails :
    (∀ f ∈ ["s/A.java", "s/B.java"], Surroundings.Holds ⟨.twoSources, {}⟩ f ∧
      (check (Surroundings.session ⟨.twoSources, {}⟩) fileDetectors [f]).2.2 = none) ∧
    (check (Surroundings.session ⟨.twoSources, {}⟩) fileDetectors
      ["s/A.java", "s/B.java"]).2.2 ≠ none := by
  have hd : ∀ d ∈ fileDetectors, d.family ≠ .manifest := by decide
  have hholds := twoSources_holds {}
  refine ⟨fun f hf => ⟨hholds f hf, by rw [check_single hd (hholds f hf)]⟩, ?_⟩
  refine check_more_fails hd (by decide) (d := .permissionChecks) (by decide) (.inl rfl)
    (hholds _ (by simp)) ?_
  rintro ⟨h, -⟩
  rw [FileSystem.twoSources_A] at h
  exact absurd h (by decide)

end Scan
end DroidAudit
