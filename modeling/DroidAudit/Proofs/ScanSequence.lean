import DroidAudit.Proofs.ManifestStage
import DroidAudit.Proofs.NamedFile
import DroidAudit.Proofs.Visit

/-! Scans one after the other, each of one source file. Every scan makes new observers, but a path is
set for all of them, by the first one that is told of a file, and is never taken back. Main
statement: what a scan finds behind others, and when this is what it finds alone. -/
namespace DroidAudit

theorem Path.ne_empty {path : String} (h : isJavaFile path = true) : path ≠ "" := by
  rintro rfl
  exact absurd h (by decide)

/-- The path of one file is set, or none is and this file is the one that observers are told of. -/
def Shared.Told (first path : String) (s : Shared) : Prop :=
  s = Shared.onPath first ∨ s = {} ∧ path = first

/-! A new observer that is told of a file takes the one whose path is set. -/

namespace Observer

variable (w : Surroundings) (d : Detector) {first path : String}

theorem updateText_onPath (hfirst : first ≠ "") (hpath : path ≠ "") (callRun : Bool) :
    updateText { detector := d } w (Shared.onPath first) (some path) callRun =
      updateText { detector := d } w (Shared.onPath first) (some first) callRun := by
  simp only [updateText, updatePath_onPath w d hpath, updatePath_onPath w d hfirst]

theorem updateTree_onPath (hfirst : Path.isJavaFile first = true)
    (hpath : Path.isJavaFile path = true) (callRun : Bool) :
    updateTree { detector := d } w (Shared.onPath first) (some path) callRun =
      updateTree { detector := d } w (Shared.onPath first) (some first) callRun := by
  simp only [updateTree, hfirst, hpath,
    updateText_onPath w d (Path.ne_empty hfirst) (Path.ne_empty hpath)]

end Observer

namespace Detector

variable {w : Surroundings} {d : Detector} {first path : String}

theorem update_told {s : Shared} (hd : d.family ≠ .manifest) (hfirst : Path.isJavaFile first = true)
    (hpath : Path.isJavaFile path = true) (hs : s.Told first path) :
    Observer.update { detector := d } w s (some path) true =
      ⟨d.looked w first, Shared.onPath first, d.lookFailure w first⟩ := by
  have hne := Path.ne_empty hfirst
  rcases hs with rfl | ⟨rfl, rfl⟩
  · rw [← update_set hd (.onPath hne) hne (.inr hfirst)]
    rcases text_or_tree hd with hf | hf
    · rw [Observer.update_of_text hf, Observer.update_of_text hf,
        Observer.updateText_onPath w d hne (Path.ne_empty hpath)]
    · rw [Observer.update_of_tree hf, Observer.update_of_tree hf,
        Observer.updateTree_onPath w d hfirst hpath]
  · exact update_set hd (.inl rfl) hne (.inr hfirst)

theorem looked_about (hd : d.family ≠ .manifest) (hpath : Path.isJavaFile path = true) :
    AllAbout (some path) (d.looked w path).findings := by
  have hne := Path.ne_empty hpath
  have hlearns := Observer.update_learns Shared.clean_initial { detector := d } w (some path) true
  rw [update_set hd (.inl rfl) hne (.inr hpath)] at hlearns
  rcases hlearns.findings with hnone | hrun
  · rw [show (d.looked w path).findings = [] from hnone]
    exact .nil
  · have hsight : ((d.looked w path).sight (Shared.onPath path)).path = some path :=
      Observer.path_onPath _ hlearns.facts.path_eq path
    rw [show (d.looked w path).findings = _ from hrun, ← hsight]
    exact run_about hd w _ none

end Detector

namespace Scan
open Session

/-! One check. -/

/-- What new observers of the detectors give that look at one file. -/
def looks (w : Surroundings) (ds : List Detector) (path : String) :
    List Finding × Option Failure :=
  match ds.findSome? (·.lookFailure w path) with
  | some e => ([], some e)
  | none => (ds.flatMap fun d => (d.looked w path).findings, none)

theorem looks_about {w : Surroundings} {ds : List Detector} {path : String}
    (hd : ∀ d ∈ ds, d.family ≠ .manifest) (hpath : Path.isJavaFile path = true) :
    AllAbout (some path) (looks w ds path).1 := by
  unfold looks
  split
  · exact .nil
  · exact .flatMap fun d hmem => Detector.looked_about (hd d hmem) hpath

section
variable {s : Session} {ds : List Detector} {first path : String}

theorem check_told (hne : ds ≠ []) (hd : ∀ d ∈ ds, d.family ≠ .manifest)
    (hfirst : Path.isJavaFile first = true) (hpath : Path.isJavaFile path = true)
    (hs : s.shared.withoutDetectors.Told first path) :
    (check s ds [path]).2 = looks s.surroundings ds first ∧
      (check s ds [path]).1.shared.withoutDetectors = Shared.onPath first ∧
      (check s ds [path]).1.manifest = s.manifest := by
  have hclean : (Shared.onPath first).Clean := (Shared.About.onPath (Path.ne_empty hfirst)).clean
  obtain ⟨seen, unseen, t, hds, ht, hn, hend⟩ :=
    notify_look (P := Shared.Told first path) (Q := (· = Shared.onPath first)) (fun _ => .inl)
      (fun d hmem t ht => ⟨_, rfl, Detector.update_told (hd d hmem) hfirst hpath ht⟩)
      (s := s) rfl hs
  obtain rfl : t = Shared.onPath first := ht.resolve_left fun h => hne h.1
  unfold looks
  cases hfail : ds.findSome? (·.lookFailure s.surroundings first) with
  | some e =>
    simp only [check, visit, hn, hfail, true_and]
    exact ⟨rfl, rfl⟩
  | none =>
    rw [hend hfail, List.append_nil] at hds
    subst hds
    have hseen : Seen s.surroundings ds first { s.watch ds with
        observers := ds.map (·.looked s.surroundings first), shared := Shared.onPath first } :=
      ⟨rfl, rfl, rfl, hclean⟩
    obtain ⟨s', hr, hs', hlevels⟩ := hseen.reset hd
    have hvisit : visit (s.watch ds) [path] = (s', none) :=
      visit_cons [] (by simpa [hend hfail, hfail] using hn) hclean hr
    simp only [check, hvisit, hs'.observers, List.flatMap_map, true_and]
    exact ⟨hlevels, congrArg Surroundings.manifest hs'.surroundings⟩

/-- A check gives what it gives in a session where nothing happened before, for the file whose path
is set. -/
theorem check_as_first (hne : ds ≠ []) (hd : ∀ d ∈ ds, d.family ≠ .manifest)
    (hfirst : Path.isJavaFile first = true) (hpath : Path.isJavaFile path = true)
    (hs : s.shared.withoutDetectors.Told first path) :
    (check s ds [path]).2 = (check s.surroundings.session ds [first]).2 :=
  (check_told hne hd hfirst hpath hs).1.trans
    (check_told (s := s.surroundings.session) hne hd hfirst hfirst (.inr ⟨rfl, rfl⟩)).1.symm

end

/-! Requests. -/

structure Request where
  fs : FileSystem
  manifest : Option String
  source : String
  isJava : Path.isJavaFile source = true

namespace Request

variable (r : Request)

def files : List String := (gather r.fs (some r.source)).toOption.getD []

theorem files_eq : r.files = [r.source] := by
  simp [files, gather, r.isJava, Except.toOption]

def run (s : Session) : Session × ScanResult := Scan.run { s with fs := r.fs } r.manifest r.files

def lesson : Manifest.Lesson := ⟨r.fs, r.manifest⟩

def opening : List Finding × Option Failure :=
  (manifestStage { fs := r.fs } r.manifest r.files).2

/-- The first part gets through, so that observers are told of the source. -/
def reaches : Bool := r.opening.2.isNone

/-- What is found at a path, as if nothing had happened before, when something is known of the
manifest. -/
def checked (known : Manifest) (path : String) : List Finding × Option Failure :=
  (check (Surroundings.session ⟨r.fs, known⟩) fileDetectors [path]).2

def result (known : Manifest) (path : String) : ScanResult :=
  match r.opening with
  | (found, some e) => ⟨[r.source], found, some e⟩
  | (found, none) => ⟨[r.source], found ++ (r.checked known path).1, (r.checked known path).2⟩

end Request

theorem fileDetectors_of_files : ∀ d ∈ fileDetectors, d.family ≠ .manifest := by decide

namespace Request

variable (r : Request) (s : Session)

def learns : Session :=
  { s with fs := r.fs, manifest := (s.manifest.update r.fs r.manifest).1 }

theorem run_eq :
    r.run s =
      match r.opening with
      | (found, some e) => (r.learns s, ⟨[r.source], found, some e⟩)
      | (found, none) =>
        ((check (r.learns s) fileDetectors [r.source]).1,
          ⟨[r.source], found ++ (check (r.learns s) fileDetectors [r.source]).2.1,
            (check (r.learns s) fileDetectors [r.source]).2.2⟩) := by
  rw [run, Scan.run_eq, manifestStage_eq, opening, files_eq]
  cases (manifestStage { fs := r.fs } r.manifest [r.source]).2 with
  | mk found e => cases e <;> rfl

/-- One scan in a session where a path is set, or none: it learns the manifest, it leaves a path set
if it reaches its source, and its result depends on this path. -/
theorem run_step {first : String} (hfirst : Path.isJavaFile first = true)
    (hs : s.shared.withoutDetectors.Told first r.source) :
    (r.run s).1.manifest = (s.manifest.update r.fs r.manifest).1 ∧
      (r.run s).1.shared.withoutDetectors =
        (if r.reaches then Shared.onPath first else s.shared.withoutDetectors) ∧
      (r.run s).2 = r.result (s.manifest.update r.fs r.manifest).1 first := by
  have hne : fileDetectors ≠ [] := by decide
  have hs' : (r.learns s).shared.withoutDetectors.Told first r.source := hs
  rw [run_eq, reaches, result]
  cases r.opening with
  | mk found e =>
    cases e with
    | some e => exact ⟨rfl, rfl, rfl⟩
    | none =>
      obtain ⟨-, hlevels, hmanifest⟩ := check_told hne fileDetectors_of_files hfirst r.isJava hs'
      have hfound : (check (r.learns s) fileDetectors [r.source]).2 =
          r.checked (s.manifest.update r.fs r.manifest).1 first :=
        check_as_first hne fileDetectors_of_files hfirst r.isJava hs'
      refine ⟨hmanifest, hlevels, ?_⟩
      simp only [hfound]

end Request

/-! Sequences of requests. -/

def after (rs : List Request) : Session := rs.foldl (fun s r => (r.run s).1) { fs := .empty [] }

def scanned (before : List Request) (r : Request) : ScanResult := (r.run (after before)).2

def firstSource? (rs : List Request) : Option String := (rs.find? (·.reaches)).map (·.source)

def lookedAt (before : List Request) (r : Request) : String := (firstSource? before).getD r.source

theorem after_concat (rs : List Request) (r : Request) :
    after (rs ++ [r]) = (r.run (after rs)).1 := by
  rw [after, List.foldl_append]
  rfl

theorem firstSource?_concat (rs : List Request) (r : Request) :
    firstSource? (rs ++ [r]) =
      (firstSource? rs).or (if r.reaches then some r.source else none) := by
  rw [firstSource?, List.find?_append, Option.map_or, firstSource?]
  cases hr : r.reaches <;> simp [hr]

theorem lookedAt_isJava (before : List Request) (r : Request) :
    Path.isJavaFile (lookedAt before r) = true := by
  unfold lookedAt firstSource?
  cases before.find? (·.reaches) with
  | none => exact r.isJava
  | some b => exact b.isJava

def levels : Option String → Shared
  | none => {}
  | some source => Shared.onPath source

theorem told_levels (before : List Request) (r : Request) :
    (levels (firstSource? before)).Told (lookedAt before r) r.source := by
  unfold lookedAt
  cases firstSource? before with
  | none => exact .inr ⟨rfl, rfl⟩
  | some first => exact .inl rfl

theorem after_eq (rs : List Request) :
    (after rs).manifest = Manifest.learnt (rs.map (·.lesson)) ∧
      (after rs).shared.withoutDetectors = levels (firstSource? rs) := by
  -- from the end: what the last scan leaves depends on what those before it left
  induction rs using List.reverseRecOn with
  | nil => exact ⟨rfl, rfl⟩
  | append_singleton rs r ih =>
    obtain ⟨hmanifest, hlevels⟩ := ih
    have htold := told_levels rs r
    rw [← hlevels] at htold
    obtain ⟨hlearnt, hset, -⟩ := r.run_step (after rs) (lookedAt_isJava rs r) htold
    rw [after_concat, List.map_append, List.map_singleton, Manifest.learnt_concat, hlearnt, hset,
      hmanifest, hlevels, firstSource?_concat, lookedAt]
    refine ⟨rfl, ?_⟩
    cases firstSource? rs <;> cases r.reaches <;> rfl

def known (before : List Request) (r : Request) : Manifest :=
  Manifest.learnt ((before ++ [r]).map (·.lesson))

theorem scanned_eq (before : List Request) (r : Request) :
    scanned before r = r.result (known before r) (lookedAt before r) := by
  obtain ⟨hmanifest, hlevels⟩ := after_eq before
  have htold := told_levels before r
  rw [← hlevels] at htold
  obtain ⟨-, -, hresult⟩ := r.run_step (after before) (lookedAt_isJava before r) htold
  rw [scanned, hresult, known, List.map_append, List.map_singleton, Manifest.learnt_concat,
    hmanifest]
  rfl

namespace Request

variable (r : Request)

theorem result_of_reaches (h : r.reaches = true) (known : Manifest) (path : String) :
    r.result known path =
      ⟨[r.source], r.opening.1 ++ (r.checked known path).1, (r.checked known path).2⟩ := by
  unfold reaches at h
  unfold result
  cases hopening : r.opening with
  | mk found e =>
    rw [hopening] at h
    cases e with
    | some e => cases h
    | none => rfl

/-- A scan that does not reach its source does not look at what is known or set. -/
theorem result_of_stops (h : r.reaches = false) (known known' : Manifest) (path path' : String) :
    r.result known path = r.result known' path' := by
  unfold reaches at h
  unfold result
  cases hopening : r.opening with
  | mk found e =>
    rw [hopening] at h
    cases e with
    | some e => rfl
    | none => cases h

theorem checked_about (known : Manifest) {path : String} (hpath : Path.isJavaFile path = true) :
    AllAbout (some path) (r.checked known path).1 := by
  have hne : fileDetectors ≠ [] := by decide
  rw [checked, (check_told hne fileDetectors_of_files hpath hpath (.inr ⟨rfl, rfl⟩)).1]
  exact looks_about fileDetectors_of_files hpath

end Request

theorem known_of_root {r : Request} (hreaches : r.reaches = true)
    (hroot : r.lesson.root?.isSome = true) (before : List Request) :
    known before r = known [] r := by
  obtain ⟨root, hroot⟩ := Option.isSome_iff_exists.mp hroot
  have hgiven : r.lesson.package?.isSome = true :=
    ((manifestStage_of_root (s := { fs := r.fs }) hroot r.files).2.mp
      (Option.isNone_iff_eq_none.mp hreaches)).1
  unfold known
  rw [List.map_append, List.map_singleton, Manifest.learnt_concat]
  exact Manifest.update_of_package? _ _ hgiven

theorem lookedAt_of_same {before : List Request} {r : Request}
    (h : ∀ b ∈ before, b.reaches = true → b.source = r.source) : lookedAt before r = r.source := by
  unfold lookedAt firstSource?
  cases hfind : before.find? (·.reaches) with
  | none => rfl
  | some b => exact h b (List.mem_of_find?_eq_some hfind) (List.find?_some hfind)

theorem eq_nil_of_allAbout {first path : String} (hne : first ≠ path) {found : List Finding}
    (hfirst : AllAbout (some first) found) (hpath : AllAbout (some path) found) : found = [] := by
  cases found with
  | nil => rfl
  | cons f rest =>
    have hsame := (hfirst f (by simp)).symm.trans (hpath f (by simp))
    exact absurd (Value.text.inj hsame) hne

/-- A scan behind others gives what its manifest gives, and then what is found in the source that the
first observers were told of; all of the latter names this source. The findings are those of the
scan alone exactly if the source is not reached, or it is the one that is looked at and what was
left of earlier manifests makes no difference to it, or there is nothing to find in either. So a
scan is as alone if it has a manifest that can be read and no other source was reached before. -/
theorem scanned_alone_iff (before : List Request) (r : Request) :
    scanned before r = r.result (known before r) (lookedAt before r) ∧
    (∀ f ∈ (r.checked (known before r) (lookedAt before r)).1,
      f.file = .text (lookedAt before r)) ∧
    ((scanned before r).findings = (scanned [] r).findings ↔
      (r.reaches = true →
        if lookedAt before r = r.source then
          (r.checked (known before r) r.source).1 = (r.checked (known [] r) r.source).1
        else (r.checked (known before r) (lookedAt before r)).1 = [] ∧
          (r.checked (known [] r) r.source).1 = [])) ∧
    ((∀ b ∈ before, b.reaches = true → b.source = r.source) →
      r.lesson.root?.isSome = true → scanned before r = scanned [] r) := by
  have halone : scanned [] r = r.result (known [] r) r.source := scanned_eq [] r
  have hlooked := r.checked_about (known before r) (lookedAt_isJava before r)
  refine ⟨scanned_eq before r, hlooked, ?_, ?_⟩
  · rw [scanned_eq before r, halone]
    cases hreaches : r.reaches with
    | false => simp [r.result_of_stops hreaches (known before r) (known [] r) _ r.source]
    | true =>
      rw [r.result_of_reaches hreaches, r.result_of_reaches hreaches]
      simp only [List.append_cancel_left_eq, true_imp_iff]
      by_cases hsource : lookedAt before r = r.source
      · rw [if_pos hsource, hsource]
      · rw [if_neg hsource]
        constructor
        · -- the same findings would name two sources
          intro hsame
          have hown := r.checked_about (known [] r) r.isJava
          rw [← hsame] at hown ⊢
          have hnil := eq_nil_of_allAbout hsource hlooked hown
          exact ⟨hnil, hnil⟩
        · rintro ⟨hfirst, hown⟩
          rw [hfirst, hown]
  · intro hbefore hroot
    rw [scanned_eq before r, halone]
    cases hreaches : r.reaches with
    | false => exact r.result_of_stops hreaches _ _ _ _
    | true => rw [known_of_root hreaches hroot, lookedAt_of_same hbefore]

def requestA : Request := ⟨.twoSources, none, "s/A.java", by decide⟩

def requestB : Request := ⟨.twoSources, none, "s/B.java", by decide⟩

theorem checked_sourceA : (requestB.checked {} "s/A.java").1 ≠ [] := by
  have haddress : (Detector.plainUrl.alone ⟨.twoSources, {}⟩ "s/A.java").isEmpty = false := by
    simp only [Detector.alone, FileSystem.twoSources_A]
    decide +kernel
  have hchecked : requestB.checked {} "s/A.java" = (_, none) :=
    check_single fileDetectors_of_files (twoSources_holds {} "s/A.java" (by simp))
  rw [hchecked]
  intro hnil
  have hnone : Detector.plainUrl.alone ⟨.twoSources, {}⟩ "s/A.java" = [] :=
    List.flatMap_eq_nil_iff.mp hnil .plainUrl (by decide)
  rw [hnone] at haddress
  cases haddress

/-- A scan of the second class gives the address that stands in the first, under its name. -/
theorem second_scan_names_first :
    (∃ f ∈ (scanned [requestA] requestB).findings, f.file = .text "s/A.java") ∧
      (scanned [requestA] requestB).findings ≠ (scanned [] requestB).findings := by
  have hknown : known [requestA] requestB = {} := rfl
  have hlooked : lookedAt [requestA] requestB = "s/A.java" := rfl
  have hfirst := requestB.checked_about {} requestA.isJava
  have hown := requestB.checked_about (known [] requestB) requestB.isJava
  rw [scanned_eq, scanned_eq, requestB.result_of_reaches rfl, requestB.result_of_reaches rfl,
    hknown, hlooked]
  constructor
  · obtain ⟨f, hf⟩ := List.exists_mem_of_ne_nil _ checked_sourceA
    exact ⟨f, List.mem_append_right _ hf, hfirst f hf⟩
  · intro hsame
    have hchecked : (requestB.checked {} "s/A.java").1 =
        (requestB.checked (known [] requestB) requestB.source).1 := List.append_cancel_left hsame
    rw [← hchecked] at hown
    exact checked_sourceA (eq_nil_of_allAbout (by decide) hfirst hown)

end Scan
end DroidAudit
