import DroidAudit.Proofs.FirstLook
import DroidAudit.Proofs.PlainPath
import Mathlib.Data.List.Induction

/-! What observers remember. A session may go on for any number of moves, some of which fail, while
the files and the manifest change. Whatever an observer has read first stays with it, and after its
first reset it works on that without a path. -/
namespace DroidAudit

def Surroundings.session (w : Surroundings) : Session := { fs := w.fs, manifest := w.manifest }

/-- One move of a session: an observer is told of a file, run or reset, or the files and the
manifest become others. -/
inductive Move
  | update (place : Nat) (path : Option String) (callRun : Bool)
  | run (place : Nat)
  | reset (place : Nat)
  | surround (w : Surroundings)

namespace Session

/-- The session after a move. A move that fails counts as far as it went. -/
def move (s : Session) : Move → Session
  | .update i path callRun => (s.update i path callRun).1
  | .run i => (s.run i).1
  | .reset i => (s.reset i).1
  | .surround w => { s with fs := w.fs, manifest := w.manifest }

def moves (s : Session) (ms : List Move) : Session := ms.foldl move s

@[simp] theorem moves_nil (s : Session) : s.moves [] = s := rfl

@[simp] theorem moves_cons (s : Session) (m : Move) (ms : List Move) :
    s.moves (m :: ms) = (s.move m).moves ms := rfl

theorem moves_append (s : Session) (ms ns : List Move) :
    s.moves (ms ++ ns) = (s.moves ms).moves ns := List.foldl_append

theorem observer?_setObserver_same {s : Session} {i : Nat} {o : Observer}
    (ho : s.observer? i = some o) (o' : Observer) (t : Shared) :
    ({ s.setObserver i o' with shared := t } : Session).observer? i = some o' := by
  have hi : i < s.observers.length := (List.getElem?_eq_some_iff.mp ho).1
  simp [observer?, setObserver, hi]

theorem observer?_setObserver_other (s : Session) {i j : Nat} (h : j ≠ i) (o' : Observer)
    (t : Shared) : ({ s.setObserver j o' with shared := t } : Session).observer? i =
      s.observer? i := by
  simp [observer?, setObserver, List.getElem?_set_ne h]

end Session

/-- The detector of an observer was reset: it hides the common path. -/
def Observer.IsCleared (o : Observer) (s : Shared) : Prop :=
  (s.ofDetector o.detector).path = some none

/-- What one move of a session does to an observer at some place. -/
structure Observer.Moved (w : Surroundings) (o : Observer) (s : Shared) (o' : Observer)
    (s' : Shared) : Prop where
  detector : o'.detector = o.detector
  files : o'.files = o.files
  facts : o.facts.Advance w.fs (o'.path s') o'.facts
  cleared : o.IsCleared s → o'.IsCleared s'
  findings : o'.findings = o.findings ∨
    o'.findings = (o.detector.run w (o'.sight s') o.files o.findings).1

namespace Observer

variable {o : Observer} {s : Shared}

/-- An observer that a move leaves alone, whatever is said of other detectors and of the path. -/
theorem Moved.untouched (w : Surroundings) {s' : Shared}
    (h : o.IsCleared s → o.IsCleared s') : Moved w o s o s' :=
  ⟨rfl, rfl, .refl _, h, .inl rfl⟩

theorem Learns.moved {w : Surroundings} {u : Updated}
    (h : Learns w o s u) : Moved w o s u.observer u.shared := by
  obtain ⟨p, b, hu⟩ := h.shared
  refine ⟨h.detector, h.files, ?_, ?_, h.findings⟩
  · rw [path_congr u.shared h.detector h.facts.path_eq]
    exact h.facts
  · intro hc
    unfold IsCleared
    rw [h.detector, hu]
    exact hc

theorem IsCleared.clearDetector (h : o.IsCleared s) (d : Detector)
    (level : Level) : o.IsCleared (s.clearDetector d level) := by
  unfold IsCleared Shared.clearDetector
  by_cases hd : o.detector = d
  · rw [hd, Shared.ofDetector_setDetector_same]
    exact Facts.cleared_path _ level
  · rw [Shared.ofDetector_setDetector_other s d o.detector _ hd]
    exact h

end Observer

namespace Session

variable {i : Nat} {o : Observer} {s : Session}

theorem update_eq (ho : s.observer? i = some o) (path : Option String) (callRun : Bool) :
    s.update i path callRun = s.apply i (o.update s.surroundings s.shared path callRun) := by
  simp only [update, atObserver, ho]

theorem update_none (ho : s.observer? i = none) (path : Option String)
    (callRun : Bool) : (s.update i path callRun).1 = s := by
  simp only [update, atObserver, ho]

theorem update_other (hs : s.shared.Clean) {j : Nat} (h : j ≠ i)
    (path : Option String) (callRun : Bool) :
    (s.update j path callRun).1.observer? i = s.observer? i ∧
      (s.update j path callRun).1.surroundings = s.surroundings ∧
      ∃ p b, (s.update j path callRun).1.shared = s.shared.withPath p b := by
  cases hj : s.observer? j with
  | none =>
    rw [update_none hj]
    exact ⟨rfl, rfl, s.shared.path.path, s.shared.path.isSet, rfl⟩
  | some o =>
    rw [update_eq hj]
    exact ⟨observer?_setObserver_other s h _ _, rfl,
      (o.update_learns hs s.surroundings path callRun).shared⟩

theorem run_eq (ho : s.observer? i = some o) :
    (s.run i).1 = s.setObserver i (o.run s.surroundings s.shared).1 := by
  simp only [run, atObserver, ho]

theorem run_none (ho : s.observer? i = none) : (s.run i).1 = s := by
  simp only [run, atObserver, ho]

theorem reset_shared (s : Session) (i : Nat) :
    (s.reset i).1 = s ∨ ∃ o level, s.observer? i = some o ∧
      (s.reset i).1 = { s with shared := s.shared.clearDetector o.detector level } := by
  unfold reset atObserver
  split
  · rename_i o ho
    cases hr : o.reset s.shared with
    | error e => exact .inl (by simp only [hr])
    | ok t =>
      obtain ⟨level, rfl⟩ := Observer.reset_eq_ok hr
      exact .inr ⟨o, level, ho, by simp only [hr]⟩
  · exact .inl rfl

theorem move_clean (hs : s.shared.Clean) (m : Move) : (s.move m).shared.Clean := by
  cases m with
  | update i path callRun =>
    simp only [move]
    cases ho : s.observer? i with
    | none => rwa [update_none ho]
    | some o =>
      rw [update_eq ho]
      obtain ⟨p, b, hu⟩ := (o.update_learns hs s.surroundings path callRun).shared
      change (o.update s.surroundings s.shared path callRun).shared.Clean
      rw [hu]
      exact hs.withPath p b
  | run i =>
    simp only [move]
    cases ho : s.observer? i with
    | none => rwa [run_none ho]
    | some o =>
      rw [run_eq ho]
      exact hs
  | reset i =>
    simp only [move]
    rcases s.reset_shared i with he | ⟨o, level, -, he⟩
    · rwa [he]
    · rw [he]
      exact hs.clearDetector o.detector level
  | surround w => exact hs

/-- A move advances the observer it is for and leaves all others alone. Only an update touches the
facts that an observer holds itself. -/
theorem move_observer (hs : s.shared.Clean) (ho : s.observer? i = some o) (m : Move) :
    ∃ o', (s.move m).observer? i = some o' ∧
      o.Moved s.surroundings s.shared o' (s.move m).shared ∧
      (o'.facts = o.facts ∨ ∃ path callRun, m = .update i path callRun) := by
  cases m with
  | update j path callRun =>
    simp only [move]
    by_cases hj : j = i
    · subst hj
      rw [update_eq ho]
      have hl := o.update_learns hs s.surroundings path callRun
      exact ⟨_, observer?_setObserver_same ho _ _, hl.moved, .inr ⟨path, callRun, rfl⟩⟩
    · obtain ⟨hsame, -, p, b, hu⟩ := update_other hs hj path callRun
      refine ⟨o, hsame.trans ho, .untouched _ ?_, .inl rfl⟩
      intro hc
      rw [hu]
      exact hc
  | run j =>
    simp only [move]
    by_cases hj : j = i
    · subst hj
      rw [run_eq ho]
      exact ⟨_, observer?_setObserver_same ho _ s.shared, ⟨rfl, rfl, .refl _, id, .inr rfl⟩, .inl rfl⟩
    · cases hoj : s.observer? j with
      | none =>
        rw [run_none hoj]
        exact ⟨o, ho, .untouched _ id, .inl rfl⟩
      | some p =>
        rw [run_eq hoj]
        exact ⟨o, (observer?_setObserver_other s hj _ s.shared).trans ho, .untouched _ id, .inl rfl⟩
  | reset j =>
    simp only [move]
    rcases s.reset_shared j with he | ⟨p, level, -, he⟩
    · rw [he]
      exact ⟨o, ho, .untouched _ id, .inl rfl⟩
    · rw [he]
      exact ⟨o, ho, .untouched _ fun hc => hc.clearDetector p.detector level, .inl rfl⟩
  | surround w => exact ⟨o, ho, .untouched _ id, .inl rfl⟩

theorem reset_eq (ho : s.observer? i = some o) (hf : o.detector.family ≠ .manifest) :
    ∃ level, s.reset i = ({ s with shared := s.shared.clearDetector o.detector level }, none) := by
  obtain ⟨level, hl⟩ := Detector.level_of_family hf
  exact ⟨level, by simp only [reset, atObserver, ho, Observer.reset, hl, Shared.clearDetector]⟩

theorem move_reset_cleared (ho : s.observer? i = some o)
    (hf : o.detector.family ≠ .manifest) : o.IsCleared (s.move (.reset i)).shared := by
  obtain ⟨level, hr⟩ := reset_eq ho hf
  simp only [move, hr, Observer.IsCleared, Shared.clearDetector,
    Shared.ofDetector_setDetector_same, Facts.cleared_path]

theorem moves_clean (hs : s.shared.Clean) (ms : List Move) : (s.moves ms).shared.Clean := by
  induction ms generalizing s with
  | nil => exact hs
  | cons m ms ih => exact ih (move_clean hs m)

end Session

/-- What holds of an observer's own facts at any time: they name no path, and their tree is that of
their text. -/
structure Facts.Sound (f : Facts) : Prop where
  path : f.path = none
  tree : ∀ t, f.tree = some (some t) →
    ∃ text, f.contents = some (some text) ∧ Java.read text = .ok t

theorem Facts.Sound.advance {fs : FileSystem} {path : Option String} {f g : Facts} (hf : f.Sound)
    (h : f.Advance fs path g) : g.Sound where
  path := h.path_eq.trans hf.path
  tree t ht := by
    rcases h.tree_read t ht with hold | hnew
    · obtain ⟨text, hc, hr⟩ := hf.tree t hold
      exact ⟨text, h.contents_kept text hc, hr⟩
    · exact hnew

theorem Facts.Advance.contents_of_no_path {fs : FileSystem} {f g : Facts}
    (h : f.Advance fs none g) : g.contents.getD none = f.contents.getD none := by
  cases hf : f.contents.getD none with
  | some text =>
    exact getD_none_eq_some_iff.mpr (h.contents_kept text (getD_none_eq_some_iff.mp hf))
  | none =>
    cases hg : g.contents.getD none with
    | none => rfl
    | some text =>
      rcases h.contents_read text (getD_none_eq_some_iff.mp hg) with hold | ⟨-, hread⟩
      · simp [hold] at hf
      · simp [FileSystem.textAt, FileSystem.bytesAt, bind, Except.bind] at hread

/-- What an observer sees in one state and in a later one: a text stays and a tree stays, whoever
cannot be read or parsed stays so, and after a reset the text, or its absence, is final. -/
structure Observer.Later (o : Observer) (s : Shared) (o' : Observer) (s' : Shared) : Prop where
  detector : o'.detector = o.detector
  contents : ∀ text, o.contents s = some text → o'.contents s' = some text
  readable : o.readable s = false → o'.readable s' = false
  parseable : o.parseable s = false → o'.parseable s' = false
  tree : ∀ t, o.tree s = some t → o'.tree s' = some t
  cleared : o.IsCleared s → o'.IsCleared s' ∧ o'.contents s' = o.contents s

namespace Observer

theorem Later.refl (o : Observer) (s : Shared) : o.Later s o s :=
  ⟨rfl, fun _ h => h, id, id, fun _ h => h, fun h => ⟨h, rfl⟩⟩

theorem Later.trans {o o' o'' : Observer} {s s' s'' : Shared} (h : o.Later s o' s')
    (h' : o'.Later s' o'' s'') : o.Later s o'' s'' where
  detector := h'.detector.trans h.detector
  contents text ht := h'.contents text (h.contents text ht)
  readable hr := h'.readable (h.readable hr)
  parseable hp := h'.parseable (h.parseable hp)
  tree t ht := h'.tree t (h.tree t ht)
  cleared hc := by
    obtain ⟨hc', he⟩ := h.cleared hc
    obtain ⟨hc'', he'⟩ := h'.cleared hc'
    exact ⟨hc'', he'.trans he⟩

theorem Moved.later {w : Surroundings} {o o' : Observer} {s s' : Shared} (hs : s.Clean)
    (hs' : s'.Clean) (ho : o.facts.path = none) (h : o.Moved w s o' s') : o.Later s o' s' where
  detector := h.detector
  contents text ht := by
    rw [contents_eq hs, getD_none_eq_some_iff] at ht
    rw [contents_eq hs', getD_none_eq_some_iff]
    exact h.facts.contents_kept text ht
  readable hr := by
    rw [readable_eq hs, getD_true_eq_false_iff] at hr
    rw [readable_eq hs', getD_true_eq_false_iff]
    exact h.facts.readable_kept hr
  parseable hp := by
    rw [parseable_eq hs, getD_true_eq_false_iff] at hp
    rw [parseable_eq hs', getD_true_eq_false_iff]
    exact h.facts.parseable_kept hp
  tree t ht := by
    rw [tree_eq hs, getD_none_eq_some_iff] at ht
    rw [tree_eq hs', getD_none_eq_some_iff]
    exact h.facts.tree_kept t ht
  cleared hc := by
    have hc' := h.cleared hc
    have hpath : o'.path s' = none := path_of_cleared (h.facts.path_eq.trans ho) hc'
    have hfacts := h.facts
    rw [hpath] at hfacts
    rw [contents_eq hs, contents_eq hs']
    exact ⟨hc', hfacts.contents_of_no_path⟩

end Observer

namespace Session

variable {i : Nat} {o : Observer} {s : Session}

theorem moves_later (hs : s.shared.Clean)
    (ho : s.observer? i = some o) (hf : o.facts.Sound) (ms : List Move) :
    ∃ o', (s.moves ms).observer? i = some o' ∧ o'.facts.Sound ∧
      o.Later s.shared o' (s.moves ms).shared := by
  induction ms generalizing s o with
  | nil => exact ⟨o, ho, hf, .refl o _⟩
  | cons m ms ih =>
    obtain ⟨o₁, ho₁, hm, -⟩ := move_observer hs ho m
    have hs₁ := move_clean hs m
    obtain ⟨o₂, ho₂, hf₂, hl⟩ := ih hs₁ ho₁ (hf.advance hm.facts)
    exact ⟨o₂, ho₂, hf₂, (hm.later hs hs₁ hf.path).trans hl⟩

theorem moves_cleared (hs : s.shared.Clean) {o' : Observer}
    (ho : s.observer? i = some o) (hf : o.facts.Sound) (hd : o.detector.family ≠ .manifest)
    {ms : List Move} (hm : .reset i ∈ ms) (ho' : (s.moves ms).observer? i = some o') :
    o'.IsCleared (s.moves ms).shared := by
  obtain ⟨before, after, rfl⟩ := List.append_of_mem hm
  obtain ⟨o₁, ho₁, hf₁, hl₁⟩ := moves_later hs ho hf before
  have hs₁ := moves_clean hs before
  have hc₁ : o₁.IsCleared ((s.moves before).move (.reset i)).shared :=
    move_reset_cleared ho₁ (by rw [hl₁.detector]; exact hd)
  obtain ⟨o₂, ho₂, hm₂, -⟩ := move_observer hs₁ ho₁ (.reset i)
  have hc₂ : o₂.IsCleared ((s.moves before).move (.reset i)).shared := by
    unfold Observer.IsCleared
    rw [hm₂.detector]
    exact hc₁
  obtain ⟨o₃, ho₃, -, hl₃⟩ := moves_later (move_clean hs₁ (.reset i)) ho₂ (hf₁.advance hm₂.facts) after
  rw [moves_append, moves_cons] at ho' ⊢
  cases ho₃.symm.trans ho'
  exact (hl₃.cleared hc₂).1

/-- One of the moves let an observer read a text. Until then the observer had none; the text is that
of the file whose path the observer sees right after this move. -/
def ReadDuring (s : Session) (ms : List Move) (i : Nat) (text : String) : Prop :=
  ∃ before path callRun after o o',
    ms = before ++ .update i path callRun :: after ∧
    (s.moves before).observer? i = some o ∧
    o.contents (s.moves before).shared = none ∧
    (s.moves (before ++ [.update i path callRun])).observer? i = some o' ∧
    (s.moves before).fs.textAt
      (o'.path (s.moves (before ++ [.update i path callRun])).shared) = .ok text

theorem ReadDuring.append {ms : List Move} {text : String}
    (h : s.ReadDuring ms i text) (more : List Move) : s.ReadDuring (ms ++ more) i text := by
  obtain ⟨before, path, callRun, after, o, o', rfl, hrest⟩ := h
  exact ⟨before, path, callRun, after ++ more, o, o', by simp, hrest⟩

theorem moves_read (hs : s.shared.Clean)
    (ho : s.observer? i = some o) (hf : o.facts.Sound) (hnone : o.contents s.shared = none)
    (ms : List Move) {o' : Observer} (ho' : (s.moves ms).observer? i = some o') {text : String}
    (ht : o'.contents (s.moves ms).shared = some text) : s.ReadDuring ms i text := by
  -- the last move either found the text there or read it
  induction ms using List.reverseRecOn generalizing o' with
  | nil =>
    cases ho.symm.trans ho'
    simp [hnone] at ht
  | append_singleton ms m ih =>
    obtain ⟨o₁, ho₁, hf₁, -⟩ := moves_later hs ho hf ms
    have hs₁ := moves_clean hs ms
    obtain ⟨o₂, ho₂, hm, hfacts⟩ := move_observer hs₁ ho₁ m
    have hlast : s.moves (ms ++ [m]) = (s.moves ms).move m := moves_append s ms [m]
    rw [← hlast] at ho₂ hm
    cases ho₂.symm.trans ho'
    rw [Observer.contents_eq (moves_clean hs _), getD_none_eq_some_iff] at ht
    rcases hm.facts.contents_read text ht with hold | ⟨hmissing, hread⟩
    · refine (ih ho₁ ?_).append [m]
      rw [Observer.contents_eq hs₁, hold, Option.getD_some]
    · rcases hfacts with he | ⟨path, callRun, rfl⟩
      · rw [he] at ht
        simp [ht] at hmissing
      · refine ⟨ms, path, callRun, [], o₁, o', rfl, ho₁, ?_, ho', hread⟩
        rw [Observer.contents_eq hs₁, hmissing]

end Session
theorem Session.update_first_contents (w : Surroundings) (ds : List Detector) (i : Nat)
    {d : Detector} (hd : ds[i]? = some d) (hf : d.family = .text) {path text : String}
    (hp : path ≠ "") (h : w.fs.textAt (some path) = .ok text) (callRun : Bool) :
    ∃ o, ((w.session.watch ds).move (.update i (some path) callRun)).observer? i = some o ∧
      o.facts.Sound ∧
      o.contents ((w.session.watch ds).move (.update i (some path) callRun)).shared =
        some text := by
  have hstart : (w.session.watch ds).observer? i = some { detector := d } := by
    simp [observer?, watch, hd]
  have hfacts : (Observer.update { detector := d } w {} (some path) callRun).observer.facts =
      { contents := some (some text) } := by
    rw [Observer.update_of_text hf, Observer.updateText_first w d (.inl rfl) hp, h]
    simp only [Observer.runIf_eq]
    split <;> rfl
  have hclean := move_clean (s := w.session.watch ds) Shared.clean_initial
    (.update i (some path) callRun)
  simp only [move, update_eq hstart] at hclean ⊢
  refine ⟨_, observer?_setObserver_same hstart _ _, ?_, ?_⟩
  · exact hfacts ▸ ⟨rfl, fun t ht => by cases ht⟩
  · rw [Observer.contents_eq hclean]
    exact congrArg (·.contents.getD none) hfacts

open Session in
/-- Along any moves of any observers, an observer keeps its first text and the tree of this text, and
it stays unreadable or unparseable once it is. After its first reset it sees no path, and whatever
move makes it run, it runs on the text that it had then. -/
theorem first_file_stays (w : Surroundings) (ds : List Detector) (i : Nat) (d : Detector)
    (hd : ds[i]? = some d) (hf : d.family ≠ .manifest) (before after : List Move)
    (s s' : Session) (hs : s = (w.session.watch ds).moves before) (hs' : s' = s.moves after) :
    ∃ o o', s.observer? i = some o ∧ s'.observer? i = some o' ∧
      (∀ text, o.contents s.shared = some text →
        o'.contents s'.shared = some text ∧ (w.session.watch ds).ReadDuring before i text) ∧
      (o.readable s.shared = false → o'.readable s'.shared = false) ∧
      (o.parseable s.shared = false → o'.parseable s'.shared = false) ∧
      (∀ t, o.tree s.shared = some t → o'.tree s'.shared = some t ∧
        ∃ text, o.contents s.shared = some text ∧ Java.read text = .ok t) ∧
      (.reset i ∈ before →
        o'.path s'.shared = none ∧ o'.contents s'.shared = o.contents s.shared ∧
        ∀ m, ∃ o'', (s'.move m).observer? i = some o'' ∧
          (o''.findings = o'.findings ∨ o''.findings =
            (d.run s'.surroundings ⟨none, o.contents s.shared, o''.tree (s'.move m).shared⟩
              o'.files o'.findings).1)) := by
  subst hs hs'
  have hstart : (w.session.watch ds).observer? i = some { detector := d } := by
    simp [Session.observer?, Session.watch, hd]
  have hclean : (w.session.watch ds).shared.Clean := Shared.clean_initial
  have hsound : ({ detector := d } : Observer).facts.Sound := ⟨rfl, fun t ht => by cases ht⟩
  obtain ⟨o, ho, hof, hl⟩ := moves_later hclean hstart hsound before
  have hclean₁ := moves_clean hclean before
  obtain ⟨o', ho', hof', hl'⟩ := moves_later hclean₁ ho hof after
  refine ⟨o, o', ho, ho', ?_, hl'.readable, hl'.parseable, ?_, ?_⟩
  · intro text ht
    have hnone : ({ detector := d } : Observer).contents (w.session.watch ds).shared = none :=
      Observer.contents_eq hclean _
    exact ⟨hl'.contents text ht, moves_read hclean hstart hsound hnone before ho ht⟩
  · intro t ht
    refine ⟨hl'.tree t ht, ?_⟩
    rw [Observer.tree_eq hclean₁, getD_none_eq_some_iff] at ht
    obtain ⟨text, hc, hr⟩ := hof.tree t ht
    exact ⟨text, by rw [Observer.contents_eq hclean₁, hc, Option.getD_some], hr⟩
  · intro hreset
    have hc := moves_cleared hclean hstart hsound hf hreset ho
    obtain ⟨hc', he'⟩ := hl'.cleared hc
    have hclean₂ := moves_clean hclean₁ after
    refine ⟨Observer.path_of_cleared hof'.path hc', he', ?_⟩
    intro m
    obtain ⟨o'', ho'', hm, -⟩ := move_observer hclean₂ ho' m
    have hlast := hm.later hclean₂ (move_clean hclean₂ m) hof'.path
    obtain ⟨hc'', he''⟩ := hlast.cleared hc'
    have hpath := Observer.path_of_cleared (hof'.advance hm.facts).path hc''
    have hd' : o'.detector = d := hl'.detector.trans hl.detector
    refine ⟨o'', ho'', ?_⟩
    have hfound := hm.findings
    rw [hd', Observer.sight, hpath, he'', he'] at hfound
    exact hfound

/-- An observer read one file, was reset and is told of another. -/
theorem first_file_stays_two_sources :
    ∃ o s, s = ((Surroundings.session ⟨.twoSources, {}⟩).watch [.plainUrl]).moves
        [.update 0 (some "s/A.java") false, .reset 0, .update 0 (some "s/B.java") false] ∧
      s.observer? 0 = some o ∧
      o.contents s.shared = some FileSystem.sourceA ∧ o.path s.shared = none := by
  obtain ⟨o, o', ho, ho', hkept, -, -, -, hreset⟩ :=
    first_file_stays ⟨.twoSources, {}⟩ [.plainUrl] 0 .plainUrl rfl (by decide)
      [.update 0 (some "s/A.java") false, .reset 0] [.update 0 (some "s/B.java") false] _ _ rfl rfl
  obtain ⟨o₁, ho₁, hf₁, hc₁⟩ := Session.update_first_contents ⟨.twoSources, {}⟩ [.plainUrl] 0
    rfl rfl (by decide) FileSystem.twoSources_A false
  obtain ⟨o₂, ho₂, -, hl⟩ :=
    Session.moves_later (Session.move_clean Shared.clean_initial _) ho₁ hf₁ [.reset 0]
  cases ho.symm.trans ho₂
  exact ⟨o', _, rfl, ho', (hkept _ (hl.contents _ hc₁)).1, (hreset (by simp)).1⟩

end DroidAudit
