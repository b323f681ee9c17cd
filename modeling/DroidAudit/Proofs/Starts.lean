import DroidAudit.Proofs.Visit

/-! Who starts a detector of nodes. An observer of nodes can be started when it is told of a file,
and again when the tree that is held for all observers is shown. No update and no reset ever puts a
tree there, so the second way is never taken, and each observer is started at most once for a file.
The rounds of a visit are repeated here with a record of every start. -/
namespace DroidAudit

/-- Something done to the observers of a session: one of them is told of a file, by its own update or
by that of a level; what a detector or a level holds is reset; the registered observers are notified
or reset; or the files and the manifest become others. -/
inductive Session.Event
  | update (place : Nat) (path : Option String) (callRun : Bool)
  | updateAt (level : Level) (place : Nat) (path : Option String) (callRun : Bool)
  | reset (place : Nat)
  | resetLevel (level : Level)
  | notify (path : Option String)
  | resetRegistered
  | surround (w : Surroundings)

namespace Shared

theorem Clean.clearLevel {s : Shared} (h : s.Clean) (level : Level) : (s.clearLevel level).Clean := by
  cases level with
  | path => exact ⟨h.path.cleared .path, h.text, h.tree, h.stream, h.detectors⟩
  | text => exact ⟨h.path, h.text.cleared .text, h.tree, h.stream, h.detectors⟩
  | tree => exact ⟨h.path, h.text, h.tree.cleared .tree, h.stream, h.detectors⟩
  | stream => exact ⟨h.path, h.text, h.tree, h.stream.cleared .stream, h.detectors⟩

theorem Clean.withoutDetectors {s : Shared} (h : s.Clean) : s.withoutDetectors.Clean :=
  ⟨h.path, h.text, h.tree, h.stream, fun _ => ⟨rfl, rfl, rfl, rfl⟩⟩

end Shared

namespace Observer

variable {s : Shared}

theorem updatePath_clean (hs : s.Clean) (o : Observer) (w : Surroundings)
    (path : Option String) (callRun : Bool) : (o.updatePath w s path callRun).shared.Clean := by
  unfold updatePath
  split
  · exact hs.withPath (some none) s.path.isSet
  · rename_i p hp
    rw [runIf_eq]
    change (if o.isSet s then s else s.withPath (some (some p)) (some true)).Clean
    split
    · exact hs
    · exact hs.withPath (some (some p)) (some true)

theorem Learns.clean {w : Surroundings} {o : Observer} {u : Updated} (hs : s.Clean)
    (h : Learns w o s u) : u.shared.Clean := by
  obtain ⟨p, b, hu⟩ := h.shared
  rw [hu]
  exact hs.withPath p b

theorem updateAt_clean (hs : s.Clean) (level : Level) (o : Observer)
    (w : Surroundings) (path : Option String) (callRun : Bool) :
    (updateAt level o w s path callRun).shared.Clean := by
  cases level with
  | path => exact updatePath_clean hs o w path callRun
  | text => exact (updateText_learns hs o w path callRun).clean hs
  | tree => exact (updateTree_learns hs o w path callRun).clean hs
  | stream => exact (updateTree_learns hs o w path callRun).clean hs

end Observer

namespace Session

/-- The session after a call. A call that fails counts as far as it went. -/
def call (s : Session) : Event → Session
  | .update i path callRun => (s.update i path callRun).1
  | .updateAt level i path callRun => (s.updateAt level i path callRun).1
  | .reset i => (s.reset i).1
  | .resetLevel level => s.resetLevel level
  | .notify path => (s.notify path).1
  | .resetRegistered => s.resetRegistered.1
  | .surround w => { s with fs := w.fs, manifest := w.manifest }

def calls (s : Session) (cs : List Event) : Session := cs.foldl call s

variable {s : Session}

theorem updateAt_clean (hs : s.shared.Clean) (level : Level) (i : Nat)
    (path : Option String) (callRun : Bool) : (s.updateAt level i path callRun).1.shared.Clean := by
  unfold updateAt atObserver
  split
  · rename_i o _
    have hreached := Observer.updateAt_clean hs level o s.surroundings path callRun
    exact iteInduction (motive := fun r : Stepped => r.1.shared.Clean) (fun _ => hreached) fun _ => hs
  · exact hs

theorem each_keeps {P : Session → Prop} {step : Session → Nat → Stepped}
    (hstep : ∀ s i, P s → P (step s i).1) (places : List Nat) (hs : P s) :
    P (each step places s).1 := by
  induction places generalizing s with
  | nil => exact hs
  | cons i places ih =>
    have hi := hstep s i hs
    rw [each]
    cases hs' : step s i with
    | mk s' e =>
      rw [hs'] at hi
      cases e with
      | some e => exact hi
      | none => exact ih hi

theorem notify_clean (hs : s.shared.Clean) (path : Option String) :
    (s.notify path).1.shared.Clean :=
  each_keeps (P := fun s => s.shared.Clean) (fun _ i h => move_clean h (.update i path true)) _ hs

theorem resetRegistered_clean (hs : s.shared.Clean) : s.resetRegistered.1.shared.Clean :=
  each_keeps (P := fun s => s.shared.Clean) (fun _ i h => move_clean h (.reset i)) _ hs

theorem call_clean (hs : s.shared.Clean) (c : Event) : (s.call c).shared.Clean := by
  cases c with
  | update i path callRun => exact move_clean hs (.update i path callRun)
  | updateAt level i path callRun => exact updateAt_clean hs level i path callRun
  | reset i => exact move_clean hs (.reset i)
  | resetLevel level => exact hs.clearLevel level
  | notify path => exact notify_clean hs path
  | resetRegistered => exact resetRegistered_clean hs
  | surround w => exact hs

theorem calls_clean (hs : s.shared.Clean) (cs : List Event) : (s.calls cs).shared.Clean := by
  induction cs generalizing s with
  | nil => exact hs
  | cons c cs ih => exact ih (call_clean hs c)

end Session

/-- Whether a run of a detector starts it on nodes. One that would wait for its nodes counts too,
although it fails right then. -/
def Detector.starts (d : Detector) (w : Surroundings) (s : Sight) : Bool :=
  match d.family with
  | .stream _ =>
    match d.mayRun w s with
    | .ok (wants, _) => wants
    | .error _ => false
  | _ => false

namespace Observer

/-- Whether an observer of trees that has been told of a file goes on to run. -/
def Updated.runs (u : Updated) : Bool :=
  u.failure.isNone && u.observer.parseable u.shared && (u.observer.tree u.shared).isSome

def Updated.thenRun (u : Updated) (w : Surroundings) : Updated :=
  if u.runs then { u with observer := (u.observer.run w u.shared).1 } else u

theorem runOnTree_false (o : Observer) (w : Surroundings) (s : Shared) :
    o.runOnTree w s false = ⟨o, s, none⟩ := by
  rw [runOnTree_eq]
  rfl

variable {s : Shared}

theorem runOnTree_true {o : Observer} (hp : o.parseable s = true)
    (w : Surroundings) : o.runOnTree w s true = Updated.thenRun ⟨o, s, none⟩ w := by
  rw [runOnTree_eq, Updated.thenRun, Updated.runs]
  simp only [Bool.true_and, Option.isNone_none, hp]
  split <;> rfl

theorem thenRun_of_failure (u : Updated) (e : Failure) (w : Surroundings) :
    Updated.thenRun { u with failure := some e } w = { u with failure := some e } := by
  simp [Updated.thenRun, Updated.runs]

/-- Reading a text without a run does not change whether the observer counts as parseable. -/
theorem parseable_updateText (hs : s.Clean) (o : Observer) (w : Surroundings)
    (path : Option String) :
    (o.updateText w s path false).observer.parseable (o.updateText w s path false).shared =
      o.parseable s := by
  unfold updateText
  split
  · rfl
  split
  · rfl
  · obtain ⟨p, b, hu⟩ := o.updatePath_false w s path
    simp only [hu]
    have hpath := parseable_eq (hs.withPath p b)
    split
    · rw [runIf_eq]
      exact (hpath _).trans (parseable_eq hs o).symm
    · exact (hpath _).trans (parseable_eq hs o).symm
    · exact (hpath _).trans (parseable_eq hs o).symm
    · exact (hpath _).trans (parseable_eq hs o).symm

/-- An observer of trees that is told of a file and lets itself run does the same as one that is
only told of the file and then runs, at most once. -/
theorem updateTree_thenRun (hs : s.Clean) (o : Observer) (w : Surroundings) (path : Option String) :
    o.updateTree w s path true = (o.updateTree w s path false).thenRun w := by
  unfold updateTree
  cases hp : o.parseable s with
  | false => simp [Updated.thenRun, Updated.runs, hp]
  | true =>
    simp only [Bool.not_true, Bool.false_eq_true, if_false]
    split
    · rw [runOnTree_false, runOnTree_true hp]
    split
    · exact (thenRun_of_failure ⟨o, s, none⟩ _ w).symm
    rename_i p
    split
    · rw [runOnTree_false, runOnTree_true hp]
    have hup := parseable_updateText hs o w (some p)
    have hclean := (updateText_learns hs o w (some p) false).clean hs
    rw [hp] at hup
    generalize o.updateText w s (some p) false = u at hup hclean
    split
    · exact (thenRun_of_failure u _ w).symm
    · rw [runOnTree_false, runOnTree_true hup]
    · split
      · rename_i tree _
        rw [runOnTree_false, runOnTree_true]
        rw [parseable_eq hclean] at hup ⊢
        exact hup
      · split
        · simp [Updated.thenRun, Updated.runs, parseable_eq hclean]
        · exact (thenRun_of_failure u _ w).symm

/-- Whether an observer is started on nodes when it is told of a file and lets itself run. -/
def startedBy (o : Observer) (w : Surroundings) (s : Shared) (path : Option String) : Bool :=
  let u := o.update w s path false
  u.runs && u.observer.detector.starts w (u.observer.sight u.shared)

theorem startedBy_first {w : Surroundings} {d : Detector} {path text : String}
    {tree : Java.Node} (hd : d.SeesTree) (hs : s.About path) (hp : path ≠ "")
    (hj : Path.isJavaFile path = true) (ht : w.fs.textAt (some path) = .ok text)
    (hempty : text.isEmpty = false) (hr : Java.read text = .ok tree) :
    startedBy { detector := d } w s (some path) =
      d.starts w ⟨some path, some text, some tree⟩ := by
  have hclean : (Shared.onPath path).Clean := (Shared.About.onPath hp).clean
  simp only [startedBy, update_of_tree (o := { detector := d }) hd, updateTree_first w d hs hp hj, ht,
    hempty, hr, Bool.false_eq_true, if_false, runOnTree_false, Updated.runs, Option.isNone_none,
    parseable_eq hclean, tree_eq hclean, contents_eq hclean, sight, path_onPath, Option.getD_none,
    Option.getD_some, Option.isSome_some, Bool.true_and]

end Observer

namespace Session

/-- What is noted in a round before each of its steps; the step that ends the round counts. -/
def notes (step : Session → Nat → Stepped) (note : Session → Nat → List Nat) :
    List Nat → Session → List Nat
  | [], _ => []
  | i :: rest, s =>
    note s i ++
      match step s i with
      | (s, none) => notes step note rest s
      | (_, some _) => []

def startAt (path : Option String) (s : Session) (i : Nat) : List Nat :=
  match s.observer? i with
  | some o => if o.startedBy s.surroundings s.shared path then [i] else []
  | none => []

def notifyStarts (s : Session) (path : Option String) : List Nat :=
  notes (fun s i => s.update i path true) (startAt path) s.registered s

def treeStarts (s : Session) : List Nat :=
  match s.shared.tree.tree.getD none with
  | none => []
  | some _ =>
    (List.range s.observers.length).filter fun i =>
      (s.observer? i).any fun o => o.detector.starts s.surroundings (o.sight s.shared)

theorem startAt_sublist (path : Option String) (s : Session) (i : Nat) :
    List.Sublist (startAt path s i) [i] := by
  unfold startAt
  split
  · split
    · exact List.Sublist.refl [i]
    · exact List.nil_sublist [i]
  · exact List.nil_sublist [i]

theorem notes_sublist {step : Session → Nat → Stepped} {note : Session → Nat → List Nat}
    (hnote : ∀ s i, List.Sublist (note s i) [i]) (places : List Nat) (s : Session) :
    List.Sublist (notes step note places s) places := by
  induction places generalizing s with
  | nil => exact List.nil_sublist []
  | cons i places ih =>
    have hrest : List.Sublist (match step s i with
        | (s, none) => notes step note places s
        | (_, some _) => []) places := by
      split
      · exact ih _
      · exact List.nil_sublist places
    exact (hnote s i).append hrest

variable {s : Session}

theorem count_notifyStarts (h : s.registered.Nodup) (path : Option String) (i : Nat) :
    (s.notifyStarts path).count i ≤ 1 :=
  calc (s.notifyStarts path).count i ≤ s.registered.count i :=
        (notes_sublist (startAt_sublist path) s.registered s).count_le i
    _ ≤ 1 := List.nodup_iff_count.mp h i

theorem treeStarts_of_clean (hs : s.shared.Clean) : s.treeStarts = [] := by
  simp only [treeStarts, hs.tree.tree]

/-- What each file of a visit relies on: nobody is registered twice, and no level or detector holds a
tree. -/
structure Ready (s : Session) : Prop where
  registered : s.registered.Nodup
  clean : s.shared.Clean

theorem Ready.update (h : s.Ready) (i : Nat) (path : Option String) (callRun : Bool) :
    (s.update i path callRun).1.Ready := by
  refine ⟨?_, move_clean h.clean (.update i path callRun)⟩
  cases ho : s.observer? i with
  | none =>
    rw [update_none ho]
    exact h.registered
  | some o =>
    rw [update_eq ho]
    exact h.registered

theorem Ready.reset (h : s.Ready) (i : Nat) : (s.reset i).1.Ready := by
  refine ⟨?_, move_clean h.clean (.reset i)⟩
  rcases s.reset_shared i with he | ⟨o, level, -, he⟩
  · rw [he]
    exact h.registered
  · rw [he]
    exact h.registered

theorem Ready.watch (hs : s.shared.Clean) (ds : List Detector) : (s.watch ds).Ready :=
  ⟨List.nodup_range, hs.withoutDetectors⟩

end Session

namespace Scan
open Session

/-- Who is started for one file: by being notified, and by the common tree. -/
structure Starts where
  notified : List Nat
  shown : List Nat

def starts (s : Session) : List String → List Starts
  | [] => []
  | file :: rest =>
    let notified := s.notifyStarts (some file)
    match s.notify (some file) with
    | (_, some _) => [⟨notified, []⟩]
    | (s, none) =>
      let streams := s.observers.filter fun o => o.detector.level? == some .stream
      match showTree s.surroundings s.shared streams with
      | (_, some _) => [⟨notified, s.treeStarts⟩]
      | (shown, none) =>
        let later := { s with observers := putStreams s.observers shown }
        ⟨notified, s.treeStarts⟩ ::
          match later.resetRegistered with
          | (_, some _) => []
          | (later, none) => starts later rest

theorem length_starts {s : Session} {files : List String} (h : (visit s files).2 = none) :
    (starts s files).length = files.length := by
  induction files generalizing s with
  | nil => rfl
  | cons file rest ih =>
    rw [visit] at h
    rw [starts]
    cases hn : s.notify (some file) with
    | mk s' e =>
      rw [hn] at h
      cases e with
      | some e => cases h
      | none =>
        dsimp only at h ⊢
        cases hshown : showTree s'.surroundings s'.shared
            (s'.observers.filter fun o => o.detector.level? == some .stream) with
        | mk shown e =>
          rw [hshown] at h
          cases e with
          | some e => cases h
          | none =>
            dsimp only at h ⊢
            cases hreset :
                ({ s' with observers := putStreams s'.observers shown } : Session).resetRegistered with
            | mk later e =>
              rw [hreset] at h
              cases e with
              | some e => cases h
              | none => exact congrArg (· + 1) (ih h)

theorem exists_starts (s : Session) (file : String) (rest : List String) :
    ∃ r ∈ starts s (file :: rest), r.notified = s.notifyStarts (some file) := by
  rw [starts]
  split
  · exact ⟨_, List.mem_singleton_self _, rfl⟩
  dsimp only
  split
  · exact ⟨_, List.mem_singleton_self _, rfl⟩
  · exact ⟨_, List.mem_cons_self, rfl⟩

/-- Nobody is started twice for a file, and nobody by the common tree. -/
theorem starts_once {s : Session} (hs : s.Ready) (files : List String) :
    ∀ r ∈ starts s files, r.shown = [] ∧ ∀ i, r.notified.count i ≤ 1 := by
  induction files generalizing s with
  | nil => simp [starts]
  | cons file rest ih =>
    have hcount := count_notifyStarts hs.registered (some file)
    -- neither the notification nor the reset makes a common tree
    have hnext : (s.notify (some file)).1.Ready :=
      each_keeps (P := Ready) (fun _ i h => h.update i (some file) true) _ hs
    rw [starts]
    cases hn : s.notify (some file) with
    | mk s' e =>
      rw [hn] at hnext
      cases e with
      | some e => simpa using hcount
      | none =>
        have hsilent : s'.treeStarts = [] := treeStarts_of_clean hnext.clean
        dsimp only
        split
        · simpa [hsilent] using hcount
        · rename_i shown _
          have hreset : Ready ({ s' with observers := putStreams s'.observers shown } :
              Session).resetRegistered.1 :=
            each_keeps (P := Ready) (fun _ i h => h.reset i) _ ⟨hnext.registered, hnext.clean⟩
          intro r hr
          rcases List.mem_cons.mp hr with rfl | hr
          · exact ⟨hsilent, hcount⟩
          · split at hr
            · cases hr
            · rename_i later hlater
              rw [hlater] at hreset
              exact ih hreset r hr

end Scan

/-- Whatever is done to observers, the tree that is held for all of them stays missing, and showing it
does nothing. An observer of trees that is notified of a file runs at most once, after it was told of
the file. In a visit from there each observer is started at most once for each file, and never by the
common tree. -/
theorem started_at_most_once (w : Surroundings) (observers : List Observer)
    (registered : List Nat) (cs : List Session.Event) (ds : List Detector) (files : List String)
    (s : Session) (hs : s = Session.calls
      { fs := w.fs, manifest := w.manifest, observers := observers, registered := registered } cs) :
    s.shared.tree.tree.getD none = none ∧
    (∀ observers, showTree s.surroundings s.shared observers = (observers, none)) ∧
    (∀ o : Observer, o.detector.SeesTree → ∀ path,
      o.update s.surroundings s.shared path true =
        (o.update s.surroundings s.shared path false).thenRun s.surroundings) ∧
    (∀ r ∈ Scan.starts (s.watch ds) files, r.shown = [] ∧
      ∀ i, (r.notified ++ r.shown).count i ≤ 1) ∧
    ((Scan.visit (s.watch ds) files).2 = none →
      (Scan.starts (s.watch ds) files).length = files.length) := by
  have hclean : s.shared.Clean := by
    rw [hs]
    exact Session.calls_clean Shared.clean_initial cs
  refine ⟨hclean.tree.tree, fun observers => ?_, fun o ho path => ?_, fun r hr => ?_,
    Scan.length_starts⟩
  · simp only [showTree, hclean.tree.tree]
  · rw [Observer.update_of_tree ho, Observer.update_of_tree ho]
    exact Observer.updateTree_thenRun hclean o s.surroundings path
  · obtain ⟨hshown, hcount⟩ := Scan.starts_once (Session.Ready.watch hclean ds) files r hr
    rw [hshown, List.append_nil]
    exact ⟨rfl, hcount⟩

/-- On a class that can be parsed, a detector of nodes is started once, by the notification. -/
theorem started_at_most_once_class :
    (Surroundings.session ⟨.twoSources, {}⟩).shared.tree.tree.getD none = none ∧
    ∃ r ∈ Scan.starts ((Surroundings.session ⟨.twoSources, {}⟩).watch [.externalStorage])
        ["s/A.java"],
      r.notified = [0] ∧ r.shown = [] := by
  obtain ⟨hnone, -, -, hstarts, -⟩ := started_at_most_once ⟨.twoSources, {}⟩ [] [] []
    [.externalStorage] ["s/A.java"] (Surroundings.session ⟨.twoSources, {}⟩) rfl
  obtain ⟨r, hr, hnotified⟩ := Scan.exists_starts
    ((Surroundings.session ⟨.twoSources, {}⟩).watch [.externalStorage]) "s/A.java" []
  refine ⟨hnone, r, hr, ?_, (hstarts r hr).1⟩
  obtain ⟨tree, hread⟩ : ∃ tree, Java.read FileSystem.sourceA = .ok tree := by
    have hsome : (Java.read FileSystem.sourceA).toOption.isSome = true := by decide +kernel
    obtain ⟨tree, htree⟩ := Option.isSome_iff_exists.mp hsome
    exact ⟨tree, toOption_eq_some_iff.mp htree⟩
  have hstart : Observer.startedBy { detector := .externalStorage } ⟨.twoSources, {}⟩ {}
      (some "s/A.java") = true :=
    Observer.startedBy_first (.inr ⟨false, rfl⟩) (.inl rfl) (by decide) (by decide +kernel)
      FileSystem.twoSources_A (by decide) hread
  have hnote : Session.startAt (some "s/A.java")
      ((Surroundings.session ⟨.twoSources, {}⟩).watch [.externalStorage]) 0 = [0] := if_pos hstart
  rw [hnotified, Session.notifyStarts, show Session.registered _ = [0] from rfl, Session.notes, hnote]
  split <;> rfl

end DroidAudit
