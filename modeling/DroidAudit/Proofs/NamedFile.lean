import DroidAudit.Proofs.Streams

/-! Which file and which place a finding names. Whatever a detector of files reports, it reports about
the file whose path it sees. A place that it names is that of a node for which it reports something,
unless it counts the lines of the text itself. -/
namespace DroidAudit

def AllAbout (path : Option String) (found : List Finding) : Prop :=
  ∀ f ∈ found, f.file = optionalText path

namespace AllAbout

variable {path : Option String}

@[simp] theorem nil : AllAbout path [] := by simp [AllAbout]

theorem flatMap {α : Type} {items : List α} {report : α → List Finding}
    (h : ∀ a ∈ items, AllAbout path (report a)) : AllAbout path (items.flatMap report) :=
  List.forall_mem_flatMap.mpr h

end AllAbout

def AllNoted (path : Option String) (T : Position → Prop) (found : List Finding) : Prop :=
  ∀ f ∈ found, ∃ (n : Notice) (place : Option Position), f = n.about path place ∧ ∀ p ∈ place, T p

namespace AllNoted

variable {path : Option String} {T : Position → Prop} {found more : List Finding}

@[simp] theorem nil : AllNoted path T [] := by simp [AllNoted]

theorem single (n : Notice) {place : Option Position} (h : ∀ p ∈ place, T p) :
    AllNoted path T [n.about path place] := by
  intro f hf
  rw [List.mem_singleton.mp hf]
  exact ⟨n, place, rfl, h⟩

@[simp] theorem unplaced (n : Notice) : AllNoted path T [n.about path none] :=
  single n nofun

theorem append (h : AllNoted path T found) (hmore : AllNoted path T more) :
    AllNoted path T (found ++ more) := List.forall_mem_append.mpr ⟨h, hmore⟩

theorem flatMap {α : Type} {items : List α} {report : α → List Finding}
    (h : ∀ a ∈ items, AllNoted path T (report a)) : AllNoted path T (items.flatMap report) :=
  List.forall_mem_flatMap.mpr h

theorem map {α : Type} {items : List α} {n : Notice} {place : α → Option Position}
    (h : ∀ a ∈ items, ∀ p ∈ place a, T p) :
    AllNoted path T (items.map fun a => n.about path (place a)) := by
  intro f hf
  obtain ⟨a, ha, rfl⟩ := List.mem_map.mp hf
  exact ⟨n, place a, rfl, h a ha⟩

theorem mono {T' : Position → Prop} (h : AllNoted path T found)
    (hT : found ≠ [] → ∀ p, T p → T' p) : AllNoted path T' found := by
  intro f hf
  obtain ⟨n, place, rfl, hplace⟩ := h f hf
  exact ⟨n, place, rfl, fun p hp => hT (List.ne_nil_of_mem hf) p (hplace p hp)⟩

theorem allAbout (h : AllNoted path T found) : AllAbout path found := by
  intro f hf
  obtain ⟨n, place, rfl, -⟩ := h f hf
  rfl

end AllNoted

/-! Calls. -/

namespace CallDetector

variable (path : Option String) {T : Position → Prop} {n : Java.Node}

theorem pendingIntent_noted : AllNoted path T (pendingIntent path n) := by
  unfold pendingIntent
  split
  · exact .flatMap fun _ _ => .flatMap fun _ _ => .map fun _ _ => nofun
  · exact .nil

theorem emptyCheck_noted (h : ∀ p ∈ n.position, T p) : AllNoted path T (emptyCheck path n) := by
  unfold emptyCheck
  split
  · exact .single _ h
  · split
    · exact .single _ h
    · exact .nil
  · exact .nil

theorem ignoredError_noted (h : ∀ m ∈ n.walk, m.calledMember? = some "proceed" → ∀ p ∈ m.position, T p) :
    AllNoted path T (ignoredError path n) := by
  unfold ignoredError
  split
  · split
    · refine .map fun m hm => ?_
      obtain ⟨hwalk, hcall⟩ := List.mem_filter.mp hm
      exact h m hwalk (beq_iff_eq.mp hcall)
    · exact .nil
  · exact .nil

end CallDetector

namespace Detector

/-- A node of the tree for which a detector reports something: it does so as it is shown the node, the
node is a call to proceed in a handler for which it does so, or a web view is declared there and stays
unsettled. -/
inductive Fires (d : Detector) (w : Surroundings) (s : Sight) (tree n : Java.Node) : Prop
  | shown (hn : n ∈ tree.walk) (h : d.see w s n ≠ [])
  | proceeds (m : Java.Node) (hd : d = certificates) (hm : m ∈ tree.walk) (h : d.see w s m ≠ [])
    (hn : n ∈ m.walk) (hcall : n.calledMember? = some "proceed")
  | stays (method : String) (m : Java.Node) (left : List Java.Node) (hd : d.toldBy? = some method)
    (hm : m ∈ tree.walk) (h : WebViewDetector.unsettled method m = .ok left) (hn : n ∈ left)

def FiresAt (d : Detector) (w : Surroundings) (s : Sight) (p : Position) : Prop :=
  ∃ tree n, s.tree = some tree ∧ d.Fires w s tree n ∧ n.position = some p

theorem see_noted (d : Detector) (w : Surroundings) {s : Sight} {tree n : Java.Node}
    (ht : s.tree = some tree) (hn : n ∈ tree.walk) :
    AllNoted s.path (d.FiresAt w s) (d.see w s n) := by
  by_cases hd : d = certificates
  · subst hd
    refine AllNoted.mono (T := fun p => ∃ m, (m = n ∨ m ∈ n.walk ∧ m.calledMember? = some "proceed") ∧
      m.position = some p) ?_ ?_
    · change AllNoted s.path _ (CallDetector.certificates s.path n)
      unfold CallDetector.certificates
      split
      · exact CallDetector.emptyCheck_noted s.path fun p hp => ⟨n, .inl rfl, hp⟩
      · exact CallDetector.ignoredError_noted s.path fun m hm hcall p hp => ⟨m, .inr ⟨hm, hcall⟩, hp⟩
      · exact .nil
    · rintro hsees p ⟨m, rfl | ⟨hm, hcall⟩, hp⟩
      · exact ⟨tree, m, ht, .shown hn hsees, hp⟩
      · exact ⟨tree, m, ht, .proceeds n rfl hn hsees hm hcall, hp⟩
  · refine AllNoted.mono (T := fun p => n.position = some p) ?_
      fun hsees p hp => ⟨tree, n, ht, .shown hn hsees, hp⟩
    have hplaced (notice : Notice) :
        AllNoted s.path (fun p => n.position = some p) [notice.about s.path n.position] :=
      .single notice fun p hp => hp
    cases d with
    | pendingIntent => exact CallDetector.pendingIntent_noted s.path
    | certificates => exact absurd rfl hd
    | _ =>
      simp only [see, CallDetector.dynamicReceiver, CallDetector.sentBroadcast, CallDetector.logging,
        CallDetector.externalStorage, CallDetector.insecureFunctions, CallDetector.ecbCipher,
        CallDetector.rsaCipher, CallDetector.fixedSeed, CallDetector.hostnames,
        WebViewDetector.ifCall]
      repeat' split
      all_goals simp [hplaced]

end Detector

/-! Texts and whole trees. -/

def AllNoted? (path : Option String) (T : Position → Prop)
    (found : Except Failure (List Finding)) : Prop :=
  ∀ all, found = .ok all → AllNoted path T all

namespace AllNoted?

variable {path : Option String} {T : Position → Prop} {found : Except Failure (List Finding)}

theorem plainly (h : AllNoted? path T found) : AllNoted path T (Detector.plainly found).1 := by
  cases found with
  | error e => exact .nil
  | ok all => exact h all rfl

@[simp] theorem error (e : Failure) : AllNoted? path T (.error e) := by
  intro all h
  cases h

@[simp] theorem ok {all : List Finding} : AllNoted? path T (.ok all) ↔ AllNoted path T all := by
  simp [AllNoted?]

end AllNoted?

namespace ContentDetector

variable (s : Sight) {T : Position → Prop}

theorem ifSomeLine_noted (fs : FileSystem) (p : LinePattern) (n : Notice) :
    AllNoted s.path T (ifSomeLine fs s p n) := by
  unfold ifSomeLine
  split <;> simp

theorem filePermissions_noted (fs : FileSystem) : AllNoted s.path T (filePermissions fs s) :=
  .append (ifSomeLine_noted s fs _ _) (ifSomeLine_noted s fs _ _)

theorem phoneIdentifier_noted : AllNoted? s.path T (phoneIdentifier s) := by
  unfold phoneIdentifier
  split
  · simp
  simp only
  split
  · simp
  split
  · simp
  rw [AllNoted?.ok]
  exact .map fun _ _ => nofun

theorem permissionChecks_noted : AllNoted? s.path T (permissionChecks s) := by
  unfold permissionChecks
  split
  · simp
  split
  · simp
  split
  · simp
  rw [AllNoted?.ok]
  dsimp only
  refine .append ?_ ?_
  · split <;> simp
  · split <;> simp

theorem taskAffinity_noted : AllNoted? s.path T (taskAffinity s) := by
  unfold taskAffinity
  repeat' split
  all_goals simp

end ContentDetector

/-! Web views. -/

namespace WebViewDetector

variable {T : Position → Prop}

theorem mapM_noted {α : Type} {path : Option String} {report : α → Except Failure (List Finding)}
    {items : List α} {lists : List (List Finding)} (h : ∀ a ∈ items, AllNoted? path T (report a))
    (hm : items.mapM report = .ok lists) : AllNoted path T lists.flatten := by
  induction items generalizing lists with
  | nil =>
    cases hm
    exact .nil
  | cons a items ih =>
    obtain ⟨hfirst, hitems⟩ := List.forall_mem_cons.mp h
    obtain ⟨found, rest, ha, hrest, rfl⟩ := mapM_cons_eq_ok_iff.mp hm
    rw [List.flatten_cons]
    exact .append (hfirst found ha) (ih hitems hrest)

theorem defaults_noted {tree : Option Java.Node} {method : String} (notice : Notice)
    (path : Option String)
    (hT : ∀ t m left, tree = some t → m ∈ t.walk → unsettled method m = .ok left → ∀ n ∈ left,
      ∀ p ∈ n.position, T p) :
    AllNoted? path T (defaults tree method notice path) := by
  unfold defaults
  split
  · simp
  rename_i tree
  intro all hall
  obtain ⟨lists, hlists, hall⟩ := bind_eq_ok_iff.mp hall
  split at hall
  · cases hall
    refine mapM_noted (fun m hm found hfound => ?_) hlists
    obtain ⟨left, hleft, hfound⟩ := bind_eq_ok_iff.mp hfound
    cases hfound
    exact .map (hT tree m left rfl (Java.Node.mem_walk_of_reached (List.mem_filter.mp hm).1) hleft)
  · cases hall

end WebViewDetector

namespace Detector

variable {s : Sight}

theorem defaults_firing {d : Detector} {method : String} (hd : d.toldBy? = some method)
    (w : Surroundings) (notice : Notice) :
    AllNoted? s.path (d.FiresAt w s) (WebViewDetector.defaults s.tree method notice s.path) :=
  WebViewDetector.defaults_noted notice s.path fun t m left ht hm hleft n hn _ hp =>
    ⟨t, n, ht, .stays method m left hd hm hleft hn, hp⟩

/-- Only one detector reports something by just being asked. -/
theorem mayRun_noted (d : Detector) (w : Surroundings) {b : Bool} {found : List Finding}
    (h : d.mayRun w s = .ok (b, found)) : AllNoted s.path (d.FiresAt w s) found := by
  cases d with
  | universalAccess =>
    simp only [mayRun] at h
    split at h
    · obtain ⟨all, hdefaults, h⟩ := bind_eq_ok_iff.mp h
      cases h
      exact defaults_firing rfl w _ _ hdefaults
    · cases h
      exact .nil
  | _ =>
    simp only [mayRun] at h
    repeat' split at h
    all_goals cases h
    all_goals exact .nil

theorem runStream_noted (d : Detector) (waits : Bool) (w : Surroundings) (s : Sight) :
    AllNoted s.path (d.FiresAt w s) (d.runStream waits w s).1 := by
  unfold runStream
  split
  · exact .nil
  · rename_i found hmay
    exact d.mayRun_noted w hmay
  · rename_i found hmay
    have hasked := d.mayRun_noted w hmay
    split
    · exact hasked
    split
    · exact hasked
    · rename_i tree htree
      exact .append hasked
        (.flatMap fun n hn => d.see_noted w htree (Java.Node.mem_walk_of_reached hn))

def countsLines : Detector → Bool
  | contentKeys | plainUrl => true
  | _ => false

/-- Whatever a detector of files reports, it reports about the file that it sees, and at places of
nodes for which it does, unless it counts lines. -/
theorem run_noted {d : Detector} (hd : d.family ≠ .manifest) (hcounts : d.countsLines = false)
    (w : Surroundings) (s : Sight) (files : Option (List String)) :
    AllNoted s.path (d.FiresAt w s) (d.run w s files []).1 := by
  cases hfamily : d.family with
  | manifest => exact absurd hfamily hd
  | stream waits =>
    rw [run_stream hfamily]
    exact d.runStream_noted waits w s
  | text =>
    cases d with
    | contentKeys => cases hcounts
    | plainUrl => cases hcounts
    | phoneIdentifier => exact (ContentDetector.phoneIdentifier_noted s).plainly
    | filePermissions => exact ContentDetector.filePermissions_noted s w.fs
    | privateKeys => exact ContentDetector.ifSomeLine_noted s w.fs _ _
    | _ => cases hfamily
  | tree =>
    cases d with
    | permissionChecks => exact (ContentDetector.permissionChecks_noted s).plainly
    | taskAffinity => exact (ContentDetector.taskAffinity_noted s).plainly
    | contentAccess => exact (defaults_firing rfl w _).plainly
    | fileAccess => exact (defaults_firing rfl w _).plainly
    | _ => cases hfamily

end Detector

/-! Files. -/

namespace ContentDetector

variable (s : Sight)

theorem keys_about : AllAbout s.path (Detector.plainly (keys s)).1 := by
  unfold keys
  split
  · exact .nil
  split
  · exact .nil
  split
  · exact .nil
  refine .flatMap fun _ _ f hf => ?_
  obtain ⟨word, -, rfl⟩ := List.mem_map.mp hf
  rfl

theorem plainUrls_about : AllAbout s.path (Detector.plainly (plainUrls s)).1 := by
  unfold plainUrls
  split
  · exact .nil
  split
  · exact .nil
  split
  · exact .nil
  intro f hf
  obtain ⟨⟨number, line⟩, -, hf⟩ := List.mem_filterMap.mp hf
  obtain ⟨url, -, rfl⟩ := Option.map_eq_some_iff.mp hf
  rfl

end ContentDetector

theorem Detector.run_about {d : Detector} (hd : d.family ≠ .manifest) (w : Surroundings) (s : Sight)
    (files : Option (List String)) : AllAbout s.path (d.run w s files []).1 := by
  cases hcounts : d.countsLines with
  | false => exact (run_noted hd hcounts w s files).allAbout
  | true =>
    cases d with
    | contentKeys => exact ContentDetector.keys_about s
    | plainUrl => exact ContentDetector.plainUrls_about s
    | _ => cases hcounts

end DroidAudit
