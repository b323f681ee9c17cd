import DroidAudit.Proofs.Persistence

/-! One file, told to observers that have seen nothing yet. They share the path that is set, and each
of them reads the file again; still none of them notices the others. What a detector reports then
is a function of the file alone. -/
namespace DroidAudit

namespace Detector

theorem run_text_tree {d : Detector} (hd : d.family = .text) (w : Surroundings)
    (path contents : Option String) (tree : Java.Node) (files : Option (List String))
    (known : List Finding) :
    d.run w ⟨path, contents, some tree⟩ files known = d.run w ⟨path, contents, none⟩ files known := by
  cases d with
  | contentKeys => rfl
  | plainUrl => rfl
  | phoneIdentifier => rfl
  | filePermissions => rfl
  | privateKeys => rfl
  | _ => simp [family] at hd

theorem run_text_failure {d : Detector} (hd : d.family = .text) (w : Surroundings)
    (path text : String) (tree : Option Java.Node) (files : Option (List String))
    (known : List Finding) :
    (d.run w ⟨some path, some text, tree⟩ files known).2 = none := by
  cases d with
  | contentKeys =>
    simp only [run, ContentDetector.keys]
    split <;> rfl
  | plainUrl =>
    simp only [run, ContentDetector.plainUrls]
    split <;> rfl
  | phoneIdentifier =>
    simp only [run, ContentDetector.phoneIdentifier]
    split
    · rfl
    split <;> rfl
  | filePermissions => rfl
  | privateKeys => rfl
  | _ => simp [family] at hd

/-- What a detector reports on one file: nothing if the file cannot be read or is empty. Without a
tree, because the file is no Java file or its words are misplaced, only detectors of texts report;
with a tree all do, up to where they fail. -/
def alone (d : Detector) (w : Surroundings) (path : String) : List Finding :=
  match w.fs.textAt (some path) with
  | .error _ => []
  | .ok text =>
    if text.isEmpty then []
    else
      match if Path.isJavaFile path then (Java.read text).toOption else none with
      | some tree => (d.run w ⟨some path, some text, some tree⟩ none []).1
      | none => if d.family = .text then (d.run w ⟨some path, some text, none⟩ none []).1 else []

end Detector

theorem FileSystem.textAt_empty (fs : FileSystem) : ∃ e, fs.textAt (some "") = .error e := by
  have hlocate : fs.locate true "" = .error .notFound := by
    have hfault : (Text.pathFault? "").isSome = false := by decide +kernel
    simp [locate, hfault]
  have hbytes : fs.bytesAt (some "") = .error (.ofFault ⟨.notFound, ""⟩) := by
    simp only [bytesAt, readBytes, entry, hlocate, bind, Except.bind, fault]
    rfl
  refine ⟨.ofFault ⟨.notFound, ""⟩, ?_⟩
  simp only [textAt, hbytes, bind, Except.bind]

def Surroundings.Tame (w : Surroundings) (path : String) : Prop :=
  Path.isJavaFile path = true → ∀ text e,
    w.fs.textAt (some path) = .ok text → Java.read text = .error e → e.isPassedOver = true

def Surroundings.Nameable (w : Surroundings) (path : String) : Prop :=
  path ≠ "" ∧ ∀ e, w.fs.textAt (some path) = .error e → e.isOfFile = true

namespace Detector

variable {w : Surroundings} {d : Detector} {path : String}

theorem alone_of_error {e : Failure} (h : w.fs.textAt (some path) = .error e) (d : Detector) :
    d.alone w path = [] := by
  simp only [alone, h]

variable {text : String}

theorem alone_of_empty (h : w.fs.textAt (some path) = .ok text)
    (ht : text.isEmpty = true) (d : Detector) : d.alone w path = [] := by
  simp only [alone, h, ht, if_true]

theorem alone_of_text (hd : d.family = .text)
    (h : w.fs.textAt (some path) = .ok text) (ht : text.isEmpty = false) :
    d.alone w path = (d.run w ⟨some path, some text, none⟩ none []).1 := by
  simp only [alone, h, ht, hd, Bool.false_eq_true, if_false, if_true]
  split
  · rw [run_text_tree hd]
  · rfl

theorem alone_of_no_tree (hd : d.SeesTree) (h : w.fs.textAt (some path) = .ok text)
    (hn : Path.isJavaFile path = false ∨ ∃ e, Java.read text = .error e) :
    d.alone w path = [] := by
  have hfam : d.family ≠ .text := by
    rcases hd with hd | ⟨waits, hd⟩ <;> simp [hd]
  have hnone : (if Path.isJavaFile path then (Java.read text).toOption else none) = none := by
    rcases hn with hj | ⟨e, he⟩
    · simp [hj]
    · simp [he, Except.toOption]
  simp only [alone, h, hnone, hfam, if_false, ite_self]

theorem alone_of_tree {tree : Java.Node}
    (h : w.fs.textAt (some path) = .ok text) (ht : text.isEmpty = false)
    (hj : Path.isJavaFile path = true) (hr : Java.read text = .ok tree) :
    d.alone w path = (d.run w ⟨some path, some text, some tree⟩ none []).1 := by
  simp only [alone, h, ht, hj, hr, Except.toOption, Bool.false_eq_true, if_false, if_true]

def looked (d : Detector) (w : Surroundings) (path : String) : Observer :=
  (Observer.update { detector := d } w {} (some path) true).observer

def lookFailure (d : Detector) (w : Surroundings) (path : String) : Option Failure :=
  (Observer.update { detector := d } w {} (some path) true).failure

theorem update_set {s : Shared} (hd : d.family ≠ .manifest) (hs : s.About path) (hp : path ≠ "")
    (hsets : d.family = .text ∨ Path.isJavaFile path = true) :
    Observer.update { detector := d } w s (some path) true =
      ⟨d.looked w path, Shared.onPath path, d.lookFailure w path⟩ := by
  have hstart : ({} : Shared).About path := .inl rfl
  unfold looked lookFailure
  rcases text_or_tree hd with hf | hf
  · rw [Observer.update_of_text hf, Observer.update_of_text hf,
      Observer.updateText_first w d hs hp, Observer.updateText_first w d hstart hp]
    split
    · rw [Observer.runIf_eq]
    · split <;> rfl
  · have hj : Path.isJavaFile path = true := by
      refine hsets.resolve_left fun ht => ?_
      rcases hf with hf | ⟨waits, hf⟩ <;> simp [hf] at ht
    rw [Observer.update_of_tree hf, Observer.update_of_tree hf,
      Observer.updateTree_first w d hs hp hj, Observer.updateTree_first w d hstart hp hj]
    split
    · split
      · rfl
      split
      · rw [Observer.runOnTree_eq]
      · split <;> rfl
    · split <;> rfl

theorem update_about {s : Shared} (hd : d.family ≠ .manifest) (hs : s.About path) :
    ∃ t : Shared, t.About path ∧
      Observer.update { detector := d } w s (some path) true =
        ⟨d.looked w path, t, d.lookFailure w path⟩ := by
  by_cases hsets : path ≠ "" ∧ (d.family = .text ∨ Path.isJavaFile path = true)
  · exact ⟨Shared.onPath path, .onPath hsets.1, update_set hd hs hsets.1 hsets.2⟩
  unfold looked lookFailure
  by_cases hp : path = ""
  · obtain rfl : s = {} := hs.resolve_right fun h => h.1 hp
    refine ⟨{}, .inl rfl, ?_⟩
    subst hp
    rcases text_or_tree hd with hf | hf
    · rw [Observer.update_of_text hf, Observer.updateText_empty]
    · rw [Observer.update_of_tree hf, Observer.updateTree_other w d (.inl rfl) (by decide)]
  · have hnot := not_or.mp fun h => hsets ⟨hp, h⟩
    have hj : Path.isJavaFile path = false := by simpa using hnot.2
    have hf := (text_or_tree hd).resolve_left hnot.1
    refine ⟨s, hs, ?_⟩
    rw [Observer.update_of_tree hf, Observer.update_of_tree hf,
      Observer.updateTree_other w d hs hj, Observer.updateTree_other w d (.inl rfl) hj]

theorem looked_detector (d : Detector) (w : Surroundings) (path : String) :
    (d.looked w path).detector = d :=
  (Observer.update_learns Shared.clean_initial { detector := d } w (some path) true).detector

theorem sight_onPath (o : Observer) (ho : o.facts.path = none) (hp : path ≠ "") :
    o.sight (Shared.onPath path) =
      ⟨some path, o.facts.contents.getD none, o.facts.tree.getD none⟩ := by
  have hclean : (Shared.onPath path).Clean := (Shared.About.onPath hp).clean
  rw [Observer.sight, Observer.path_onPath _ ho, Observer.contents_eq hclean,
    Observer.tree_eq hclean]

theorem looked_of_text (hd : d.family = .text) (hp : path ≠ "")
    (h : w.fs.textAt (some path) = .ok text) :
    d.looked w path = { detector := d, facts := { contents := some (some text) },
                        findings := d.alone w path } ∧
      d.lookFailure w path = none := by
  unfold looked lookFailure
  rw [Observer.update_of_text hd, Observer.updateText_first w d (.inl rfl) hp, h]
  cases ht : text.isEmpty with
  | true =>
    simp only [ht, alone_of_empty h ht, Bool.not_true, Bool.and_false, Observer.runIf_eq,
      Bool.false_eq_true, if_false, and_self]
  | false =>
    have hsight := sight_onPath { detector := d, facts := { contents := some (some text) } } rfl hp
    simp only [ht, Bool.not_false, Bool.and_self, Observer.runIf_eq, if_true, Observer.run, hsight,
      Option.getD_some, Option.getD_none, alone_of_text hd h ht, run_text_failure hd, and_self]

theorem looked_of_other (hd : d.SeesTree) (hj : Path.isJavaFile path = false) :
    d.looked w path = { detector := d } ∧ d.lookFailure w path = none := by
  unfold looked lookFailure
  rw [Observer.update_of_tree hd, Observer.updateTree_other w d (.inl rfl) hj]
  exact ⟨rfl, rfl⟩

theorem looked_of_empty (hd : d.SeesTree) (hp : path ≠ "")
    (hj : Path.isJavaFile path = true) (h : w.fs.textAt (some path) = .ok text)
    (ht : text.isEmpty = true) :
    d.looked w path = { detector := d, facts := { contents := some (some text) } } ∧
      d.lookFailure w path = none := by
  unfold looked lookFailure
  rw [Observer.update_of_tree hd, Observer.updateTree_first w d (.inl rfl) hp hj, h]
  simp only [ht, if_true, and_self]

theorem looked_of_java (hd : d.SeesTree) (hp : path ≠ "")
    (hj : Path.isJavaFile path = true) (h : w.fs.textAt (some path) = .ok text)
    (ht : text.isEmpty = false) (hw : w.Tame path) :
    (d.looked w path).findings = d.alone w path ∧ d.lookFailure w path = none := by
  have hclean : (Shared.onPath path).Clean := (Shared.About.onPath hp).clean
  unfold looked lookFailure
  rw [Observer.update_of_tree hd, Observer.updateTree_first w d (.inl rfl) hp hj, h]
  cases hr : Java.read text with
  | error e =>
    simp only [ht, hr, hw hj text e h hr, Bool.false_eq_true, if_false, if_true,
      alone_of_no_tree hd h (.inr ⟨e, hr⟩), and_self]
  | ok tree =>
    have hsight := sight_onPath
      { detector := d, facts := { contents := some (some text), tree := some (some tree) } } rfl hp
    simp only [ht, hr, Bool.false_eq_true, if_false, Observer.runOnTree_eq, Observer.tree_eq hclean,
      Option.getD_some, Option.isSome_some, Bool.and_self, if_true, Observer.run, hsight,
      alone_of_tree h ht hj hr, and_self]

theorem looked_of_error {e : Failure} (hd : d.family ≠ .manifest) (hp : path ≠ "")
    (h : w.fs.textAt (some path) = .error e) :
    (d.looked w path).findings = [] ∧
      (e.isOfFile = true → d.lookFailure w path = none) := by
  unfold looked lookFailure
  rcases text_or_tree hd with hf | hf
  · rw [Observer.update_of_text hf, Observer.updateText_first w d (.inl rfl) hp, h]
    cases he : e.isOfFile <;> simp [he]
  · cases hj : Path.isJavaFile path with
    | false =>
      rw [Observer.update_of_tree hf, Observer.updateTree_other w d (.inl rfl) hj]
      exact ⟨rfl, fun _ => rfl⟩
    | true =>
      rw [Observer.update_of_tree hf, Observer.updateTree_first w d (.inl rfl) hp hj, h]
      cases he : e.isOfFile <;> simp [he]

theorem looked_of_no_path (hd : d.family ≠ .manifest) : (d.looked w "").findings = [] := by
  unfold looked
  rcases text_or_tree hd with hf | hf
  · rw [Observer.update_of_text hf, Observer.updateText_empty]
  · rw [Observer.update_of_tree hf, Observer.updateTree_other w d (.inl rfl) (by decide)]

theorem looked_findings (hd : d.family ≠ .manifest) (hw : w.Tame path) :
    (d.looked w path).findings = d.alone w path ∧
      (w.Nameable path → d.lookFailure w path = none) := by
  by_cases hp : path = ""
  · subst hp
    obtain ⟨e, he⟩ := w.fs.textAt_empty
    refine ⟨?_, fun hn => absurd rfl hn.1⟩
    rw [looked_of_no_path hd, alone_of_error he]
  cases h : w.fs.textAt (some path) with
  | error e =>
    obtain ⟨hfound, hfail⟩ := looked_of_error hd hp h
    exact ⟨hfound.trans (alone_of_error h d).symm, fun hn => hfail (hn.2 e h)⟩
  | ok text =>
    rcases text_or_tree hd with hf | hf
    · obtain ⟨ho, hfail⟩ := looked_of_text hf hp h
      exact ⟨by rw [ho], fun _ => hfail⟩
    cases hj : Path.isJavaFile path with
    | false =>
      obtain ⟨ho, hfail⟩ := looked_of_other (w := w) hf hj
      exact ⟨by rw [ho, alone_of_no_tree hf h (.inl hj)], fun _ => hfail⟩
    | true =>
      cases ht : text.isEmpty with
      | true =>
        obtain ⟨ho, hfail⟩ := looked_of_empty hf hp hj h ht
        exact ⟨by rw [ho, alone_of_empty h ht], fun _ => hfail⟩
      | false =>
        obtain ⟨hfound, hfail⟩ := looked_of_java hf hp hj h ht hw
        exact ⟨hfound, fun _ => hfail⟩

theorem alone_of_not_nameable (h : ¬ w.Nameable path) (d : Detector) : d.alone w path = [] := by
  have herror : ∃ e, w.fs.textAt (some path) = .error e := by
    by_cases hp : path = ""
    · rw [hp]
      exact w.fs.textAt_empty
    · by_contra hno
      exact h ⟨hp, fun e he => absurd ⟨e, he⟩ hno⟩
  obtain ⟨e, he⟩ := herror
  exact alone_of_error he d

end Detector

namespace Session

variable {w : Surroundings} {path : String}

/-- A round over observers that have seen nothing. Whoever comes before the first failure has looked,
and so has the one that failed; the others are as before. What is shared may change on the way, as
long as this makes no difference to anybody. -/
theorem each_look {P Q : Shared → Prop} {look : Detector → Observer}
    {fails : Detector → Option Failure} (hkeeps : ∀ t, Q t → P t) (rest : List Detector)
    (hlook : ∀ d ∈ rest, ∀ t, P t → ∃ t', Q t' ∧
      Observer.update { detector := d } w t (some path) true = ⟨look d, t', fails d⟩)
    {s : Session} (hw : s.surroundings = w) (hs : P s.shared) (done : List Observer)
    (ho : s.observers = done ++ rest.map fun d => { detector := d }) :
    ∃ seen unseen t, rest = seen ++ unseen ∧ (rest = [] ∧ t = s.shared ∨ Q t) ∧
      each (fun s i => s.update i (some path) true) (List.range' done.length rest.length) s =
        ({ s with
            observers := done ++ (seen.map look ++ unseen.map fun d => { detector := d })
            shared := t }, rest.findSome? fails) ∧
      (rest.findSome? fails = none → unseen = []) := by
  induction rest generalizing s done with
  | nil =>
    refine ⟨[], [], s.shared, rfl, .inl ⟨rfl, rfl⟩, ?_, fun _ => rfl⟩
    rw [List.map_nil, List.append_nil] at ho
    simp [each, ← ho]
  | cons d rest ih =>
    have hd : s.observer? done.length = some { detector := d } := by simp [observer?, ho]
    obtain ⟨t, ht, hu⟩ := hlook d (by simp) s.shared hs
    have hstep : s.update done.length (some path) true =
        ({ s with
            observers := (done ++ [look d]) ++ rest.map fun d => { detector := d }
            shared := t }, fails d) := by
      rw [update_eq hd, hw, hu]
      simp [apply, setObserver, ho]
    rw [List.length_cons, List.range'_succ, each, hstep, List.findSome?_cons]
    cases hf : fails d with
    | some e =>
      refine ⟨[d], rest, t, rfl, .inr ht, ?_, by simp⟩
      simp
    | none =>
      obtain ⟨seen, unseen, t', rfl, ht', he, hend⟩ :=
        ih (fun d' hd' => hlook d' (by simp [hd'])) (s := { s with
            observers := (done ++ [look d]) ++ rest.map fun d => { detector := d }
            shared := t }) hw (hkeeps t ht) (done ++ [look d]) rfl
      refine ⟨d :: seen, unseen, t', rfl, .inr ?_, by simpa using he, hend⟩
      rcases ht' with ⟨-, rfl⟩ | ht'
      · exact ht
      · exact ht'

variable {ds : List Detector}

theorem notify_look {P Q : Shared → Prop} {look : Detector → Observer}
    {fails : Detector → Option Failure} (hkeeps : ∀ t, Q t → P t)
    (hlook : ∀ d ∈ ds, ∀ t, P t → ∃ t', Q t' ∧
      Observer.update { detector := d } w t (some path) true = ⟨look d, t', fails d⟩)
    {s : Session} (hw : s.surroundings = w) (hs : P s.shared.withoutDetectors) :
    ∃ seen unseen t, ds = seen ++ unseen ∧ (ds = [] ∧ t = s.shared.withoutDetectors ∨ Q t) ∧
      (s.watch ds).notify (some path) =
        ({ s.watch ds with
            observers := seen.map look ++ unseen.map fun d => { detector := d }
            shared := t }, ds.findSome? fails) ∧
      (ds.findSome? fails = none → unseen = []) := by
  have hplaces : (s.watch ds).registered = List.range' 0 ds.length := List.range_eq_range'
  rw [notify, hplaces]
  exact each_look hkeeps ds hlook (s := s.watch ds) hw hs [] rfl

theorem notify_watch (w : Surroundings) (path : String) (hd : ∀ d ∈ ds, d.family ≠ .manifest) :
    ∃ seen unseen t, ds = seen ++ unseen ∧ t.About path ∧
      (w.session.watch ds).notify (some path) =
        ({ w.session.watch ds with
            observers := seen.map (·.looked w path) ++ unseen.map fun d => { detector := d }
            shared := t }, ds.findSome? (·.lookFailure w path)) ∧
      (ds.findSome? (·.lookFailure w path) = none → unseen = []) := by
  have hstart : ({} : Shared).About path := .inl rfl
  obtain ⟨seen, unseen, t, hds, ht, hn⟩ := notify_look (fun _ => id)
    (fun d hmem _ => Detector.update_about (hd d hmem)) (s := w.session) rfl hstart
  refine ⟨seen, unseen, t, hds, ?_, hn⟩
  rcases ht with ⟨-, rfl⟩ | ht
  · exact hstart
  · exact ht

theorem notify_first (hd : ∀ d ∈ ds, d.family ≠ .manifest) (hw : w.Tame path) :
    ((w.session.watch ds).notify (some path)).1.observers.map (·.findings) =
        ds.map (·.alone w path) ∧
      (w.Nameable path → ((w.session.watch ds).notify (some path)).2 = none) := by
  have hfail : w.Nameable path → ds.findSome? (·.lookFailure w path) = none := fun hn =>
    List.findSome?_eq_none_iff.mpr fun d hmem => (Detector.looked_findings (hd d hmem) hw).2 hn
  obtain ⟨seen, unseen, t, rfl, -, hnotify, hend⟩ := notify_watch w path hd
  have hfound : ∀ d ∈ seen, (d.looked w path).findings = d.alone w path := fun d hs =>
    (Detector.looked_findings (hd d (by simp [hs])) hw).1
  have hmissed : ∀ d ∈ unseen, d.alone w path = [] := by
    intro d hu
    refine Detector.alone_of_not_nameable (fun hn => ?_) d
    simp [hend (hfail hn)] at hu
  rw [hnotify]
  refine ⟨?_, hfail⟩
  rw [List.map_append, List.map_append, List.map_map, List.map_map]
  congr 1
  · exact List.map_congr_left hfound
  · exact List.map_congr_left fun d hu => (hmissed d hu).symm

end Session
theorem Surroundings.tame_of_read {w : Surroundings} {path text : String}
    (h : w.fs.textAt (some path) = .ok text) (hr : (Java.read text).toOption.isSome = true) :
    w.Tame path := by
  intro _ text' e h' he
  rw [h] at h'
  cases h'
  rw [he] at hr
  cases hr

/-- Told of one file, observers that have seen nothing find what each of them finds alone, in
whatever company and order: what its detector reports on the file. No failure escapes if the path
can be asked for. -/
theorem notified_findings (w : Surroundings) (ds : List Detector) (path : String)
    (hd : ∀ d ∈ ds, d.family ≠ .manifest) (hw : w.Tame path) :
    ((w.session.watch ds).notify (some path)).1.observers.map (·.findings) =
        ds.map (·.alone w path) ∧
      (∀ d ∈ ds, ((w.session.watch [d]).notify (some path)).1.observers.map (·.findings) =
        [d.alone w path]) ∧
      (w.Nameable path → ((w.session.watch ds).notify (some path)).2 = none) := by
  refine ⟨(Session.notify_first hd hw).1, fun d hdd => ?_, (Session.notify_first hd hw).2⟩
  have hone : ∀ d' ∈ [d], d'.family ≠ .manifest := by simpa using hd d hdd
  exact (Session.notify_first hone hw).1

theorem notified_findings_address :
    Surroundings.Tame ⟨.twoSources, {}⟩ "s/A.java" ∧
      (((Surroundings.session ⟨.twoSources, {}⟩).watch [.plainUrl, .externalStorage, .plainUrl]).notify
        (some "s/A.java")).1.observers.map (·.findings.length) = [1, 0, 1] := by
  have hw : Surroundings.Tame ⟨.twoSources, {}⟩ "s/A.java" :=
    Surroundings.tame_of_read FileSystem.twoSources_A (by decide +kernel)
  have hfound := (notified_findings ⟨.twoSources, {}⟩ [.plainUrl, .externalStorage, .plainUrl]
    "s/A.java" (by decide) hw).1
  refine ⟨hw, ?_⟩
  calc _ = (List.map Observer.findings _).map List.length := (List.map_map ..).symm
    _ = [1, 0, 1] := by
      rw [hfound]
      simp only [Detector.alone, FileSystem.twoSources_A]
      decide +kernel

end DroidAudit
