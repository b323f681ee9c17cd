import DroidAudit.Proofs.Results
import DroidAudit.Session

/-! What an observer learns from one update. Updates write the text and the tree into the facts of
the observer itself; levels and detectors never hold either. The observer's own facts therefore
decide what it sees of a file, apart from the path, which a reset hides for good. -/
namespace DroidAudit

theorem getD_none_eq_some_iff {α : Type} {x : Option (Option α)} {a : α} :
    x.getD none = some a ↔ x = some (some a) := by
  cases x <;> simp

theorem getD_true_eq_false_iff {x : Option Bool} : x.getD true = false ↔ x = some false := by
  cases x <;> simp

namespace Facts

/-- Facts that hide no text and no tree and blame no file. -/
structure Clean (f : Facts) : Prop where
  contents : f.contents.getD none = none
  readable : f.readable.getD true = true
  tree : f.tree.getD none = none
  parseable : f.parseable.getD true = true

theorem Clean.cleared {f : Facts} (h : f.Clean) (level : Level) : (f.cleared level).Clean := by
  cases level with
  | path => exact ⟨h.contents, h.readable, h.tree, h.parseable⟩
  | text => exact ⟨rfl, rfl, h.tree, h.parseable⟩
  | tree => exact ⟨rfl, rfl, rfl, rfl⟩
  | stream => exact ⟨rfl, rfl, rfl, rfl⟩

@[simp] theorem cleared_path (f : Facts) (level : Level) : (f.cleared level).path = some none := by
  cases level <;> rfl

/-- The nearest holder decides if all others hold nothing but the default. -/
theorem findSome_getD {α : Type} (get : Facts → Option α) (default : α) (f : Facts)
    (others : List Facts) (h : ∀ g ∈ others, (get g).getD default = default) :
    ((f :: others).findSome? get).getD default = (get f).getD default := by
  induction others generalizing f with
  | nil => cases hf : get f <;> simp [hf]
  | cons g others ih =>
    cases hf : get f with
    | some a => simp [hf]
    | none =>
      have hg := h g (by simp)
      have hrest := ih g (fun k hk => h k (by simp [hk]))
      rw [List.findSome?_cons, hf]
      simp only [hrest, hg, Option.getD_none]

end Facts

namespace Shared

structure Clean (s : Shared) : Prop where
  path : s.path.Clean
  text : s.text.Clean
  tree : s.tree.Clean
  stream : s.stream.Clean
  detectors : ∀ d, (s.ofDetector d).Clean

theorem clean_initial : ({} : Shared).Clean where
  path := ⟨rfl, rfl, rfl, rfl⟩
  text := ⟨rfl, rfl, rfl, rfl⟩
  tree := ⟨rfl, rfl, rfl, rfl⟩
  stream := ⟨rfl, rfl, rfl, rfl⟩
  detectors _ := ⟨rfl, rfl, rfl, rfl⟩

theorem ofDetector_setDetector_same (s : Shared) (d : Detector) (f : Facts) :
    (s.setDetector d f).ofDetector d = f := by
  simp [ofDetector, setDetector]

theorem ofDetector_setDetector_other (s : Shared) (d e : Detector) (f : Facts) (h : e ≠ d) :
    (s.setDetector d f).ofDetector e = s.ofDetector e := by
  have hkept : (s.detectors.filter (·.1 != d)).find? (·.1 == e) =
      s.detectors.find? (·.1 == e) := by
    rw [List.find?_filter]
    congr 1
    funext entry
    by_cases he : entry.1 = e
    · simp [he, h]
    · simp [he]
  simp only [ofDetector, setDetector, List.find?_cons]
  rw [show (d == e) = false by simpa using Ne.symm h]
  simp only [hkept]

variable {s : Shared}

theorem Clean.setDetector (h : s.Clean) (d : Detector) {f : Facts} (hf : f.Clean) :
    (s.setDetector d f).Clean where
  path := h.path
  text := h.text
  tree := h.tree
  stream := h.stream
  detectors e := by
    by_cases he : e = d
    · subst e
      rwa [ofDetector_setDetector_same]
    · rw [ofDetector_setDetector_other s d e f he]
      exact h.detectors e

def clearDetector (s : Shared) (d : Detector) (level : Level) : Shared :=
  s.setDetector d ((s.ofDetector d).cleared level)

theorem Clean.clearDetector (h : s.Clean) (d : Detector) (level : Level) :
    (s.clearDetector d level).Clean :=
  h.setDetector d ((h.detectors d).cleared level)

def withPath (s : Shared) (path : Option (Option String)) (isSet : Option Bool) : Shared :=
  { s with path := { s.path with path := path, isSet := isSet } }

theorem Clean.withPath (h : s.Clean) (p : Option (Option String))
    (b : Option Bool) : (s.withPath p b).Clean where
  path := ⟨h.path.contents, h.path.readable, h.path.tree, h.path.parseable⟩
  text := h.text
  tree := h.tree
  stream := h.stream
  detectors := h.detectors

end Shared

namespace Observer

theorem holders_eq (o : Observer) (s : Shared) :
    ∃ levels, o.holders s = o.facts :: s.ofDetector o.detector :: levels ∧
      ∀ f ∈ levels, f = s.stream ∨ f = s.tree ∨ f = s.text ∨ f = s.path := by
  unfold holders
  split
  · exact ⟨[s.stream, s.tree, s.text, s.path], rfl, by simp⟩
  · exact ⟨[s.tree, s.text, s.path], rfl, by simp⟩
  · exact ⟨[s.text, s.path], rfl, by simp⟩
  · exact ⟨[s.path], rfl, by simp⟩

variable {s : Shared}

theorem sees_own {α : Type} (get : Facts → Option α) (default : α)
    (hget : ∀ f : Facts, f.Clean → (get f).getD default = default)
    (hs : s.Clean) (o : Observer) :
    ((o.holders s).findSome? get).getD default = (get o.facts).getD default := by
  obtain ⟨levels, he, hlevels⟩ := o.holders_eq s
  rw [he]
  apply Facts.findSome_getD
  intro g hg
  rcases List.mem_cons.mp hg with rfl | hg
  · exact hget _ (hs.detectors _)
  · rcases hlevels g hg with rfl | rfl | rfl | rfl
    · exact hget _ hs.stream
    · exact hget _ hs.tree
    · exact hget _ hs.text
    · exact hget _ hs.path

theorem contents_eq (hs : s.Clean) (o : Observer) : o.contents s = o.facts.contents.getD none :=
  sees_own (·.contents) none (fun _ h => h.contents) hs o

theorem readable_eq (hs : s.Clean) (o : Observer) : o.readable s = o.facts.readable.getD true :=
  sees_own (·.readable) true (fun _ h => h.readable) hs o

theorem tree_eq (hs : s.Clean) (o : Observer) : o.tree s = o.facts.tree.getD none :=
  sees_own (·.tree) none (fun _ h => h.tree) hs o

theorem parseable_eq (hs : s.Clean) (o : Observer) : o.parseable s = o.facts.parseable.getD true :=
  sees_own (·.parseable) true (fun _ h => h.parseable) hs o

theorem path_of_cleared {o : Observer} (ho : o.facts.path = none)
    (hd : (s.ofDetector o.detector).path = some none) : o.path s = none := by
  obtain ⟨levels, he, -⟩ := o.holders_eq s
  simp [path, he, ho, hd]

/-- Neither findings nor what is learnt of a text or a tree changes the path that is seen. -/
theorem path_congr {o o' : Observer} (s : Shared) (hd : o'.detector = o.detector)
    (hp : o'.facts.path = o.facts.path) : o'.path s = o.path s := by
  have hh : ∀ f g : Facts, f.path = g.path → ∀ levels : List Facts,
      (f :: levels).findSome? (·.path) = (g :: levels).findSome? (·.path) := by
    intro f g hfg levels
    simp only [List.findSome?_cons, hfg]
  unfold path holders
  rw [hd]
  split <;> exact congrArg (·.getD none) (hh _ _ hp _)

end Observer

/-- How an observer's own facts may go on from `f` to `g` while the file at `path` is looked at. A
text or a tree that is there stays, and so does a complaint; a new text is that of the file, and a
new tree is that of the text. -/
structure Facts.Advance (fs : FileSystem) (path : Option String) (f g : Facts) : Prop where
  path_eq : g.path = f.path
  contents_kept : ∀ text, f.contents = some (some text) → g.contents = some (some text)
  readable_kept : f.readable = some false → g.readable = some false
  tree_kept : ∀ t, f.tree = some (some t) → g.tree = some (some t)
  parseable_kept : f.parseable = some false → g.parseable = some false
  contents_read : ∀ text, g.contents = some (some text) →
    f.contents = some (some text) ∨ f.contents.getD none = none ∧ fs.textAt path = .ok text
  tree_read : ∀ t, g.tree = some (some t) →
    f.tree = some (some t) ∨ ∃ text, g.contents = some (some text) ∧ Java.read text = .ok t

namespace Facts.Advance

variable {fs : FileSystem} {path : Option String}

theorem refl (f : Facts) : f.Advance fs path f where
  path_eq := rfl
  contents_kept _ h := h
  readable_kept h := h
  tree_kept _ h := h
  parseable_kept h := h
  contents_read _ h := .inl h
  tree_read _ h := .inl h

variable {f : Facts}

theorem trans {g k : Facts} (hfg : f.Advance fs path g) (hgk : g.Advance fs path k) :
    f.Advance fs path k where
  path_eq := hgk.path_eq.trans hfg.path_eq
  contents_kept t h := hgk.contents_kept t (hfg.contents_kept t h)
  readable_kept h := hgk.readable_kept (hfg.readable_kept h)
  tree_kept t h := hgk.tree_kept t (hfg.tree_kept t h)
  parseable_kept h := hgk.parseable_kept (hfg.parseable_kept h)
  contents_read t h := by
    rcases hgk.contents_read t h with hg | ⟨hnone, hread⟩
    · exact hfg.contents_read t hg
    · -- a text that was there before would still be there in between
      refine .inr ⟨?_, hread⟩
      cases hf : f.contents.getD none with
      | none => rfl
      | some t' => simp [hfg.contents_kept t' (getD_none_eq_some_iff.mp hf)] at hnone
  tree_read t h := by
    rcases hgk.tree_read t h with hg | hnew
    · rcases hfg.tree_read t hg with hf | ⟨text, hc, hr⟩
      · exact .inl hf
      · exact .inr ⟨text, hgk.contents_kept text hc, hr⟩
    · exact .inr hnew

theorem read {text : String} (hf : f.contents.getD none = none)
    (hread : fs.textAt path = .ok text) :
    f.Advance fs path { f with contents := some (some text) } where
  path_eq := rfl
  contents_kept t h := by simp [h] at hf
  readable_kept h := h
  tree_kept _ h := h
  parseable_kept h := h
  contents_read t h := by
    have ht : text = t := by simpa using h
    subst ht
    exact .inr ⟨hf, hread⟩
  tree_read _ h := .inl h

theorem unreadable (hf : f.contents.getD none = none) :
    f.Advance fs path { f with readable := some false, contents := some none } where
  path_eq := rfl
  contents_kept t h := by simp [h] at hf
  readable_kept _ := rfl
  tree_kept _ h := h
  parseable_kept h := h
  contents_read t h := by simp at h
  tree_read _ h := .inl h

theorem parsed {text : String} {tree : Java.Node} (hf : f.tree.getD none = none)
    (hc : f.contents = some (some text)) (hr : Java.read text = .ok tree) :
    f.Advance fs path { f with tree := some (some tree) } where
  path_eq := rfl
  contents_kept _ h := h
  readable_kept h := h
  tree_kept t h := by simp [h] at hf
  parseable_kept h := h
  contents_read _ h := .inl h
  tree_read t h := by
    have ht : tree = t := by simpa using h
    subst ht
    exact .inr ⟨text, hc, hr⟩

theorem unparseable (hf : f.tree.getD none = none) :
    f.Advance fs path { f with tree := some none, parseable := some false } where
  path_eq := rfl
  contents_kept _ h := h
  readable_kept h := h
  tree_kept t h := by simp [h] at hf
  parseable_kept _ := rfl
  contents_read _ h := .inl h
  tree_read t h := by simp at h

end Facts.Advance

namespace Observer

/-- What an update may do: the observer's own facts go on, the common path may be set, and the
detector runs at most once, on what is seen in the end. -/
structure Learns (w : Surroundings) (o : Observer) (s : Shared) (u : Updated) : Prop where
  detector : u.observer.detector = o.detector
  files : u.observer.files = o.files
  shared : ∃ p b, u.shared = s.withPath p b
  facts : o.facts.Advance w.fs (o.path u.shared) u.observer.facts
  findings : u.observer.findings = o.findings ∨
    u.observer.findings = (o.detector.run w (u.observer.sight u.shared) o.files o.findings).1

theorem Learns.nothing (w : Surroundings) (o : Observer) (s : Shared) (e : Option Failure) :
    Learns w o s ⟨o, s, e⟩ :=
  ⟨rfl, rfl, ⟨s.path.path, s.path.isSet, rfl⟩, .refl _, .inl rfl⟩

variable {s : Shared}

theorem Learns.run_after {w : Surroundings} {o : Observer} {t : Shared} {g : Facts}
    (ht : ∃ p b, t = s.withPath p b) (hg : o.facts.Advance w.fs (o.path t) g)
    (wanted : Bool) (e : Option Failure) :
    Learns w o s
      ⟨if wanted then (run { o with facts := g } w t).1 else { o with facts := g }, t, e⟩ := by
  cases wanted with
  | false => exact ⟨rfl, rfl, ht, hg, .inl rfl⟩
  | true => exact ⟨rfl, rfl, ht, hg, .inr rfl⟩

theorem runIf_eq (o : Observer) (w : Surroundings) (s : Shared) (wanted : Bool) :
    o.runIf w s wanted =
      ⟨if wanted then (o.run w s).1 else o, s, if wanted then (o.run w s).2 else none⟩ := by
  cases wanted <;> rfl

theorem runOnTree_eq (o : Observer) (w : Surroundings) (s : Shared) (callRun : Bool) :
    o.runOnTree w s callRun =
      ⟨if callRun && (o.tree s).isSome then (o.run w s).1 else o, s, none⟩ := by
  unfold runOnTree
  split <;> rfl

theorem updatePath_false (o : Observer) (w : Surroundings) (s : Shared) (path : Option String) :
    ∃ p b, o.updatePath w s path false = ⟨o, s.withPath p b, none⟩ := by
  unfold updatePath
  split
  · exact ⟨some none, s.path.isSet, rfl⟩
  · rename_i p hp
    rw [runIf_eq]
    by_cases hset : o.isSet s
    · exact ⟨s.path.path, s.path.isSet, by simp only [hset, if_true]; rfl⟩
    · exact ⟨some (some p), some true, by simp only [hset]; rfl⟩

theorem updateText_learns (hs : s.Clean) (o : Observer) (w : Surroundings)
    (path : Option String) (callRun : Bool) :
    Learns w o s (o.updateText w s path callRun) := by
  unfold updateText
  split
  · exact .nothing w o s none
  split
  · rw [runIf_eq]
    exact .run_after (g := o.facts) ⟨s.path.path, s.path.isSet, rfl⟩ (.refl _) _ _
  · rename_i hnone
    have hown : o.facts.contents.getD none = none := by
      rw [← contents_eq hs]
      simpa using hnone
    obtain ⟨p, b, hu⟩ := o.updatePath_false w s path
    simp only [hu]
    split
    · rename_i text hread
      rw [runIf_eq]
      exact .run_after ⟨p, b, rfl⟩ (.read hown hread) _ _
    · exact .run_after ⟨p, b, rfl⟩ (.unreadable hown) false none
    · exact .run_after ⟨p, b, rfl⟩ (.unreadable hown) false none
    · exact .run_after (g := o.facts) ⟨p, b, rfl⟩ (.refl _) false _

/-- Without a run, reading a text changes nothing but facts, and not those on trees. -/
theorem updateText_false (o : Observer) (w : Surroundings) (s : Shared) (path : Option String) :
    ∃ g : Facts, (o.updateText w s path false).observer = { o with facts := g } ∧
      g.tree = o.facts.tree := by
  unfold updateText
  split
  · exact ⟨o.facts, rfl, rfl⟩
  split
  · exact ⟨o.facts, rfl, rfl⟩
  · obtain ⟨p, b, hu⟩ := o.updatePath_false w s path
    simp only [hu]
    split
    · exact ⟨_, rfl, rfl⟩
    · exact ⟨_, rfl, rfl⟩
    · exact ⟨_, rfl, rfl⟩
    · exact ⟨o.facts, rfl, rfl⟩

theorem updateTree_learns (hs : s.Clean) (o : Observer) (w : Surroundings)
    (path : Option String) (callRun : Bool) :
    Learns w o s (o.updateTree w s path callRun) := by
  have hsame : ∃ p b, s = s.withPath p b := ⟨s.path.path, s.path.isSet, rfl⟩
  unfold updateTree
  split
  · exact .nothing w o s none
  split
  · rw [runOnTree_eq]
    exact .run_after (g := o.facts) hsame (.refl _) _ _
  rename_i hnone
  split
  · exact .nothing w o s _
  rename_i p
  split
  · rw [runOnTree_eq]
    exact .run_after (g := o.facts) hsame (.refl _) _ _
  have hl := updateText_learns hs o w (some p) false
  obtain ⟨g, hg, hgt⟩ := o.updateText_false w s (some p)
  obtain ⟨q, b, hu⟩ := hl.shared
  have hfacts := hl.facts
  have htree : g.tree.getD none = none := by
    rw [hgt, ← tree_eq hs]
    simpa using hnone
  rw [hg, hu] at hfacts
  simp only [hg, hu]
  split
  · exact .run_after ⟨q, b, rfl⟩ hfacts false _
  · rw [runOnTree_eq]
    exact .run_after ⟨q, b, rfl⟩ hfacts _ _
  · rename_i text hfail htext
    have hown : g.contents = some (some text) := by
      rw [contents_eq (hs.withPath q b), Option.filter_eq_some_iff] at htext
      exact getD_none_eq_some_iff.mp htext.1
    split
    · rename_i tree hread
      rw [runOnTree_eq]
      exact .run_after ⟨q, b, rfl⟩ (hfacts.trans (.parsed htree hown hread)) _ _
    · split
      · exact .run_after ⟨q, b, rfl⟩ (hfacts.trans (.unparseable htree)) false none
      · exact .run_after ⟨q, b, rfl⟩ hfacts false _

end Observer

/-- Detectors that need the tree of a file, as a whole or node by node. -/
def Detector.SeesTree (d : Detector) : Prop := d.family = .tree ∨ ∃ waits, d.family = .stream waits

theorem Detector.text_or_tree {d : Detector} (h : d.family ≠ .manifest) :
    d.family = .text ∨ d.SeesTree := by
  cases hf : d.family with
  | manifest => exact absurd hf h
  | text => exact .inl rfl
  | tree => exact .inr (.inl hf)
  | stream waits => exact .inr (.inr ⟨waits, hf⟩)

theorem Detector.level_of_family {d : Detector} (h : d.family ≠ .manifest) :
    ∃ level, d.level? = some level := by
  unfold level?
  split
  · rename_i hm
    exact absurd hm h
  · exact ⟨.text, rfl⟩
  · exact ⟨.tree, rfl⟩
  · exact ⟨.stream, rfl⟩

namespace Observer

variable {o : Observer}

theorem update_of_text (h : o.detector.family = .text) (w : Surroundings)
    (s : Shared) (path : Option String) (callRun : Bool) :
    o.update w s path callRun = o.updateText w s path callRun := by
  simp only [update, Detector.level?, h, updateAt]

theorem update_of_tree (h : o.detector.SeesTree) (w : Surroundings) (s : Shared)
    (path : Option String) (callRun : Bool) :
    o.update w s path callRun = o.updateTree w s path callRun := by
  rcases h with h | ⟨waits, h⟩ <;> simp only [update, Detector.level?, h, updateAt]

theorem update_learns {s : Shared} (hs : s.Clean) (o : Observer) (w : Surroundings)
    (path : Option String) (callRun : Bool) :
    Learns w o s (o.update w s path callRun) := by
  by_cases hm : o.detector.family = .manifest
  · simp only [update, Detector.level?, hm]
    exact .nothing w o s _
  · rcases Detector.text_or_tree hm with ht | ht
    · rw [update_of_text ht]
      exact updateText_learns hs o w path callRun
    · rw [update_of_tree ht]
      exact updateTree_learns hs o w path callRun

theorem reset_eq_ok {s t : Shared} (h : o.reset s = .ok t) :
    ∃ level, t = s.clearDetector o.detector level := by
  unfold reset at h
  split at h
  · rename_i level _
    exact ⟨level, (Except.ok.inj h).symm⟩
  · cases h

end Observer

end DroidAudit
