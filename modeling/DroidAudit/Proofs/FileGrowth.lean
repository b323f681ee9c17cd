import DroidAudit.Environment
import DroidAudit.Proofs.FileChange

/-! Files and directories that are made. Nothing that is there becomes something else, so a path that
leads to a file leads to it for good; and making directories changes no content. -/
namespace DroidAudit.FileSystem

/-! New entries. -/

def Entry.HasRoom (e : Entry) (l : Location) : Prop :=
  e.at? l = none ∧ ∃ here name entries, l = here ++ [name] ∧ e.at? here = some (.directory entries)

/-- Two entries, or nothing at two places, of which not more than the content of a directory
differs. -/
def Alike (new old : Option Entry) : Prop :=
  new = old ∨ ∃ es es', new = some (.directory es) ∧ old = some (.directory es')

theorem Alike.kind {new old : Option Entry} (h : Alike new old) :
    new.map Entry.kind = old.map Entry.kind := by
  rcases h with rfl | ⟨es, es', rfl, rfl⟩
  · rfl
  · rfl

variable {e root : Entry} {l here : Location} {fs fs' : FileSystem} {bytes : ByteArray}
  {follow : Bool} {links : Nat} {steps : List String} {path : String}

theorem at?_put_room (h : e.HasRoom l) (new : Entry) : (e.put l (some new)).at? l = some new := by
  obtain ⟨-, here, name, entries, rfl, hhere⟩ := h
  induction here generalizing e with
  | nil =>
    cases hhere
    simp [Entry.put, Entry.at?, child?_setChild]
  | cons n here ih =>
    obtain ⟨es, c, rfl, hc, hbelow⟩ := at?_cons_eq_some hhere
    simp [put_of_child? hc, Entry.at?, child?_setChild, ih hbelow]

/-- A new entry that holds nothing changes nothing elsewhere. -/
theorem alike_put_room {l' : Location} (h : e.HasRoom l) {new : Entry}
    (hnew : ∀ n, new.child? n = none) (hne : l' ≠ l) :
    Alike ((e.put l (some new)).at? l') (e.at? l') := by
  obtain ⟨hnone, here, name, entries, rfl, hhere⟩ := h
  induction here generalizing e l' with
  | nil =>
    cases hhere
    have hchild : (Entry.directory entries).child? name = none := by
      simpa [Entry.at?] using hnone
    cases l' with
    | nil => exact .inr ⟨_, _, rfl, rfl⟩
    | cons n l' =>
      by_cases hn : name = n
      · subst hn
        cases l' with
        | nil => exact absurd rfl hne
        | cons m l' =>
          left
          simp [Entry.put, Entry.at?, child?_setChild, hchild, hnew]
      · left
        simp [Entry.put, Entry.at?, child?_setChild, hn]
  | cons n here ih =>
    obtain ⟨es, c, rfl, hc, hbelow⟩ := at?_cons_eq_some hhere
    have hnoneBelow : c.at? (here ++ [name]) = none := by
      simpa [Entry.at?, hc] using hnone
    rw [List.cons_append, put_of_child? hc]
    cases l' with
    | nil => exact .inr ⟨_, _, rfl, rfl⟩
    | cons m l' =>
      by_cases hm : n = m
      · subst hm
        have hrest : l' ≠ here ++ [name] := fun heq => hne (by rw [heq, List.cons_append])
        simpa [Entry.at?, child?_setChild, hc] using ih hbelow hrest hnoneBelow
      · left
        simp [Entry.at?, child?_setChild, hm]

/-! Growing. -/

def contentAt (fs : FileSystem) (l : Location) : Option ByteArray :=
  match fs.root.at? l with
  | some (.file bytes _) => some bytes
  | _ => none

structure Grows (fs fs' : FileSystem) : Prop where
  working : fs'.working = fs.working
  kinds : ∀ l k, (fs.root.at? l).map Entry.kind = some k → (fs'.root.at? l).map Entry.kind = some k

theorem Grows.refl (fs : FileSystem) : Grows fs fs := ⟨rfl, fun _ _ h => h⟩

theorem Grows.trans {fs'' : FileSystem} (h : Grows fs fs') (h' : Grows fs' fs'') :
    Grows fs fs'' where
  working := h'.working.trans h.working
  kinds := fun l k hk => h'.kinds l k (h.kinds l k hk)

theorem contentAt_of_alike
    (h : Alike (fs'.root.at? l) (fs.root.at? l)) : fs'.contentAt l = fs.contentAt l := by
  unfold contentAt
  rcases h with heq | ⟨es, es', hnew, hold⟩
  · rw [heq]
  · rw [hnew, hold]

theorem kind_of_contentAt
    (h : fs.contentAt l = some bytes) : (fs.root.at? l).map Entry.kind = some .file := by
  unfold contentAt at h
  split at h
  · rename_i hat
    rw [hat]
    rfl
  · cases h

theorem put_file
    (h : (∃ old x, fs.root.at? l = some (.file old x)) ∨ fs.root.HasRoom l) (bytes : ByteArray)
    (x : Bool) :
    Grows fs (fs.put l (some (.file bytes x))) ∧
      (fs.put l (some (.file bytes x))).contentAt l = some bytes ∧
      ∀ l', l' ≠ l → (fs.put l (some (.file bytes x))).contentAt l' = fs.contentAt l' := by
  have hsame : (fs.put l (some (.file bytes x))).root.at? l = some (.file bytes x) := by
    rcases h with ⟨old, y, hat⟩ | hroom
    · exact at?_put_same hat _
    · exact at?_put_room hroom _
  have hother : ∀ l', l' ≠ l →
      Alike ((fs.put l (some (.file bytes x))).root.at? l') (fs.root.at? l') := by
    intro l' hne
    rcases h with ⟨old, y, hat⟩ | hroom
    · exact at?_put_other hat hne bytes x
    · exact alike_put_room hroom (fun _ => rfl) hne
  refine ⟨⟨rfl, fun l' k hk => ?_⟩, ?_, fun l' hne => contentAt_of_alike (hother l' hne)⟩
  · by_cases hl : l' = l
    · subst hl
      rw [hsame]
      rcases h with ⟨old, y, hat⟩ | hroom
      · rw [hat] at hk
        exact hk
      · rw [hroom.1] at hk
        cases hk
    · rw [(hother l' hl).kind, hk]
  · rw [contentAt, hsame]

theorem put_directory (h : fs.root.HasRoom l) :
    Grows fs (fs.put l (some (.directory []))) ∧
      ∀ l', (fs.put l (some (.directory []))).contentAt l' = fs.contentAt l' := by
  have hsame : (fs.put l (some (.directory []))).root.at? l = some (.directory []) :=
    at?_put_room h _
  have hother : ∀ l', l' ≠ l →
      Alike ((fs.put l (some (.directory []))).root.at? l') (fs.root.at? l') :=
    fun l' hne => alike_put_room h (fun _ => rfl) hne
  refine ⟨⟨rfl, fun l' k hk => ?_⟩, fun l' => ?_⟩
  · by_cases hl : l' = l
    · rw [hl, h.1] at hk
      cases hk
    · rw [(hother l' hl).kind, hk]
  · by_cases hl : l' = l
    · subst hl
      rw [contentAt, contentAt, hsame, h.1]
    · exact contentAt_of_alike (hother l' hl)

/-! Where paths lead. -/

def stepTo (here : Location) (s : String) : Location := here ++ [Text.listedName s]

def isNaming (s : String) : Bool :=
  !(s == "" || s == ".") && s != ".." && !decide (maxNameBytes < (Text.encoded s).size)

theorem isNaming_iff (s : String) :
    isNaming s = true ↔ (s == "" || s == ".") = false ∧ (s == "..") = false ∧
      ¬maxNameBytes < (Text.encoded s).size := by
  simp only [isNaming, Bool.and_eq_true, Bool.not_eq_true', bne, decide_eq_false_iff_not, and_assoc]

section
variable {s target : String} {rest : List String} (hhere : (root.at? here).map Entry.kind = some .directory)
include hhere

theorem walk_idle (hs : (s == "" || s == ".") = true) :
    walk root follow links here (s :: rest) = walk root follow links here rest := by
  simp only [walk_cons, hhere, hs, if_true]

theorem walk_up :
    walk root follow links here (".." :: rest) = walk root follow links here.dropLast rest := by
  rw [walk_cons, hhere]
  rfl

variable (hs : isNaming s = true)
include hs

theorem walk_missing (hthere : (root.at? (stepTo here s)).map Entry.kind = none) :
    walk root follow links here (s :: rest) =
      if rest.all (· == "") then .ok (stepTo here s) else .error .notFound := by
  obtain ⟨hidle, hup, hlong⟩ := (isNaming_iff s).mp hs
  rw [stepTo] at hthere ⊢
  simp only [walk_cons, hhere, hidle, hup, hlong, hthere, Bool.false_eq_true, if_false]

theorem walk_file (hthere : (root.at? (stepTo here s)).map Entry.kind = some .file) :
    walk root follow links here (s :: rest) =
      if rest.isEmpty then .ok (stepTo here s) else .error .notADirectory := by
  obtain ⟨hidle, hup, hlong⟩ := (isNaming_iff s).mp hs
  rw [stepTo] at hthere ⊢
  simp only [walk_cons, hhere, hidle, hup, hlong, hthere, Bool.false_eq_true, if_false]

theorem walk_directory (hthere : (root.at? (stepTo here s)).map Entry.kind = some .directory) :
    walk root follow links here (s :: rest) = walk root follow links (stepTo here s) rest := by
  obtain ⟨hidle, hup, hlong⟩ := (isNaming_iff s).mp hs
  rw [stepTo] at hthere ⊢
  simp only [walk_cons, hhere, hidle, hup, hlong, hthere, Bool.false_eq_true, if_false]

theorem walk_link (hthere : (root.at? (stepTo here s)).map Entry.kind = some (.link target))
    (hmore : (rest.isEmpty && !follow) = false) :
    walk root follow (links + 1) here (s :: rest) =
      walk root follow links (if Path.isAbsolute target then [] else here)
        (Path.steps target ++ rest) := by
  obtain ⟨hidle, hup, hlong⟩ := (isNaming_iff s).mp hs
  rw [stepTo] at hthere
  simp only [walk_cons, hhere, hidle, hup, hlong, hthere, hmore, Bool.false_eq_true, if_false]

end

/-- A walk that ends, step by step. -/
inductive Walks (root : Entry) (follow : Bool) : Nat → Location → List String → Location → Prop
  | done {links : Nat} {here : Location} : Walks root follow links here [] here
  | idle {links : Nat} {here l : Location} {s : String} {rest : List String} :
      (root.at? here).map Entry.kind = some .directory → (s == "" || s == ".") = true →
      Walks root follow links here rest l → Walks root follow links here (s :: rest) l
  | up {links : Nat} {here l : Location} {rest : List String} :
      (root.at? here).map Entry.kind = some .directory →
      Walks root follow links here.dropLast rest l → Walks root follow links here (".." :: rest) l
  | missing {links : Nat} {here : Location} {s : String} {rest : List String} :
      (root.at? here).map Entry.kind = some .directory → isNaming s = true →
      (root.at? (stepTo here s)).map Entry.kind = none → rest.all (· == "") = true →
      Walks root follow links here (s :: rest) (stepTo here s)
  | unfollowed {links : Nat} {here : Location} {s target : String} :
      (root.at? here).map Entry.kind = some .directory → isNaming s = true →
      (root.at? (stepTo here s)).map Entry.kind = some (.link target) → follow = false →
      Walks root follow links here [s] (stepTo here s)
  | followed {links : Nat} {here l : Location} {s target : String} {rest : List String} :
      (root.at? here).map Entry.kind = some .directory → isNaming s = true →
      (root.at? (stepTo here s)).map Entry.kind = some (.link target) →
      (rest.isEmpty && !follow) = false →
      Walks root follow links (if Path.isAbsolute target then [] else here)
        (Path.steps target ++ rest) l →
      Walks root follow (links + 1) here (s :: rest) l
  | file {links : Nat} {here : Location} {s : String} :
      (root.at? here).map Entry.kind = some .directory → isNaming s = true →
      (root.at? (stepTo here s)).map Entry.kind = some .file →
      Walks root follow links here [s] (stepTo here s)
  | directory {links : Nat} {here l : Location} {s : String} {rest : List String} :
      (root.at? here).map Entry.kind = some .directory → isNaming s = true →
      (root.at? (stepTo here s)).map Entry.kind = some .directory →
      Walks root follow links (stepTo here s) rest l → Walks root follow links here (s :: rest) l

theorem walks_of_walk (links : Nat) (steps : List String)
    (h : walk root follow links here steps = .ok l) :
    Walks root follow links here steps l := by
  -- a walk takes its steps one by one, or follows a link and has fewer of them left
  induction links using Nat.strongRecOn generalizing here steps with
  | ind links ihl =>
    induction steps generalizing here with
    | nil =>
      rw [walk] at h
      cases h
      exact .done
    | cons s rest ih =>
      rw [walk_cons] at h
      cases hhere : (root.at? here).map Entry.kind with
      | none => simp [hhere] at h
      | some k =>
        cases k with
        | file => simp [hhere] at h
        | link target => simp [hhere] at h
        | directory =>
          simp only [hhere] at h
          split at h
          · exact .idle hhere ‹_› (ih h)
          rename_i hidle
          split at h
          · rename_i hup
            rw [beq_iff_eq.mp hup]
            exact .up hhere (ih h)
          rename_i hup
          split at h
          · cases h
          rename_i hlong
          have hs : isNaming s = true :=
            (isNaming_iff s).mpr ⟨Bool.eq_false_iff.mpr hidle, Bool.eq_false_iff.mpr hup, hlong⟩
          cases hthere : (root.at? (stepTo here s)).map Entry.kind with
          | none =>
            simp only [stepTo] at hthere
            simp only [hthere] at h
            split at h
            · cases h
              exact .missing hhere hs hthere ‹_›
            · cases h
          | some k =>
            simp only [stepTo] at hthere
            cases k with
            | file =>
              simp only [hthere] at h
              split at h
              · rename_i hrest
                cases h
                rw [List.isEmpty_iff.mp hrest]
                exact .file hhere hs hthere
              · cases h
            | directory =>
              simp only [hthere] at h
              exact .directory hhere hs hthere (ih h)
            | link target =>
              simp only [hthere] at h
              split at h
              · rename_i hlast
                rw [Bool.and_eq_true, Bool.not_eq_true'] at hlast
                cases h
                rw [List.isEmpty_iff.mp hlast.1]
                exact .unfollowed hhere hs hthere hlast.2
              · rename_i hlast
                cases links with
                | zero => cases h
                | succ links =>
                  exact .followed hhere hs hthere (by simpa using hlast)
                    (ihl links (Nat.lt_succ_self links) _ h)

theorem directory_of_kind {e : Option Entry} (h : e.map Entry.kind = some .directory) :
    ∃ entries, e = some (.directory entries) := by
  obtain ⟨found, rfl, hkind⟩ := Option.map_eq_some_iff.mp h
  cases found with
  | directory entries => exact ⟨entries, rfl⟩
  | file bytes x => cases hkind
  | link target => cases hkind

theorem kind_dropLast (h : (e.at? l).map Entry.kind = some .directory) :
    (e.at? l.dropLast).map Entry.kind = some .directory := by
  rcases List.eq_nil_or_concat l with rfl | ⟨front, name, rfl⟩
  · exact h
  · rw [List.concat_eq_append, at?_append] at h
    rw [List.concat_eq_append, List.dropLast_concat]
    cases hfront : e.at? front with
    | none => simp [hfront] at h
    | some above =>
      cases above with
      | directory entries => rfl
      | file bytes x => simp [hfront, Entry.at?, Entry.child?] at h
      | link target => simp [hfront, Entry.at?, Entry.child?] at h

theorem splitAt_ne_nil (mark : Char) (cs : List Char) : Text.splitAt mark cs ≠ [] := by
  cases cs with
  | nil => simp [Text.splitAt]
  | cons c cs =>
    rw [Text.splitAt]
    split
    · simp
    · split <;> simp

theorem steps_ne_nil (p : String) : Path.steps p ≠ [] := by
  rw [Path.steps, ne_eq, List.map_eq_nil_iff]
  exact splitAt_ne_nil '/' p.toList

theorem Walks.ends (h : Walks root follow links here steps l)
    (hhere : steps = [] → (root.at? here).map Entry.kind = some .directory) :
    (∃ k, (root.at? l).map Entry.kind = some k ∧ (follow = true → ∀ target, k ≠ .link target)) ∨
      root.HasRoom l := by
  induction h with
  | done => exact .inl ⟨.directory, hhere rfl, by simp⟩
  | idle hdirectory _ _ ih => exact ih fun _ => hdirectory
  | up hdirectory _ ih => exact ih fun _ => kind_dropLast hdirectory
  | missing hdirectory _ hnone _ =>
    obtain ⟨entries, hentries⟩ := directory_of_kind hdirectory
    exact .inr ⟨Option.map_eq_none_iff.mp hnone, _, _, entries, rfl, hentries⟩
  | unfollowed _ _ hlink hfollow => exact .inl ⟨_, hlink, by simp [hfollow]⟩
  | followed _ _ _ _ _ ih => exact ih (by simp [steps_ne_nil])
  | file _ _ hfile => exact .inl ⟨.file, hfile, by simp⟩
  | directory _ _ hdirectory _ ih => exact ih fun _ => hdirectory

def Entry.GrowsTo (root root' : Entry) : Prop :=
  ∀ l k, (root.at? l).map Entry.kind = some k → (root'.at? l).map Entry.kind = some k

/-- A path that led to a place where a file is now leads there still. Only where nothing was there
before, it may lead nowhere, for nothing stands behind a file. -/
theorem Walks.later {root' : Entry} (hkinds : root.GrowsTo root')
    (h : Walks root follow links here steps l) (hfile : (root'.at? l).map Entry.kind = some .file) :
    walk root' follow links here steps = .ok l ∨
      root.at? l = none ∧ ∃ c, walk root' follow links here steps = .error c := by
  induction h with
  | done =>
    left
    rw [walk]
  | idle hdirectory hidle _ ih =>
    rw [walk_idle (hkinds _ _ hdirectory) hidle]
    exact ih hfile
  | up hdirectory _ ih =>
    rw [walk_up (hkinds _ _ hdirectory)]
    exact ih hfile
  | missing hdirectory hs hnone _ =>
    rw [walk_file (hkinds _ _ hdirectory) hs hfile]
    split
    · exact .inl rfl
    · exact .inr ⟨Option.map_eq_none_iff.mp hnone, _, rfl⟩
  | unfollowed _ _ hlink =>
    rw [hkinds _ _ hlink] at hfile
    cases hfile
  | followed hdirectory hs hlink hmore _ ih =>
    rw [walk_link (hkinds _ _ hdirectory) hs (hkinds _ _ hlink) hmore]
    exact ih hfile
  | file hdirectory hs =>
    rw [walk_file (hkinds _ _ hdirectory) hs hfile]
    exact .inl rfl
  | directory hdirectory hs hthere _ ih =>
    rw [walk_directory (hkinds _ _ hdirectory) hs (hkinds _ _ hthere)]
    exact ih hfile

/-- The steps lead to a directory and one name further; so they do when more is there, and when steps
follow. -/
def Arrives (root : Entry) (links : Nat) (here : Location) (steps : List String) (l : Location) :
    Prop :=
  ∃ links' there s, l = stepTo there s ∧ isNaming s = true ∧
    (root.at? there).map Entry.kind = some .directory ∧
    ∀ root', root.GrowsTo root' → ∀ follow rest,
      walk root' follow links here (steps ++ rest) = walk root' follow links' there (s :: rest)

theorem Arrives.after {links' : Nat} {here' : Location} {steps' : List String}
    (h : Arrives root links' here' steps' l)
    (hsteps : ∀ root', root.GrowsTo root' → ∀ follow rest,
      walk root' follow links here (steps ++ rest) =
        walk root' follow links' here' (steps' ++ rest)) : Arrives root links here steps l := by
  obtain ⟨links'', there, s, hl, hs, hthere, hwalk⟩ := h
  exact ⟨links'', there, s, hl, hs, hthere, fun root' hgrows follow rest =>
    (hsteps root' hgrows follow rest).trans (hwalk root' hgrows follow rest)⟩

/-- A walk to a place where nothing is, not even a link. -/
theorem Walks.arrives (h : Walks root false links here steps l)
    (hhere : steps = [] → (root.at? here).map Entry.kind = some .directory)
    (hfree : root.at? l = none) (hlast : ∀ s ∈ steps.getLast?, s ≠ "") :
    Arrives root links here steps l := by
  have htail {s : String} {rest : List String} (hlast : ∀ t ∈ (s :: rest).getLast?, t ≠ "") :
      ∀ t ∈ rest.getLast?, t ≠ "" := by
    cases rest with
    | nil => simp
    | cons t rest => rwa [List.getLast?_cons_cons] at hlast
  induction h with
  | done =>
    rw [hfree] at hhere
    cases hhere rfl
  | idle hdirectory hidle _ ih =>
    exact (ih (fun _ => hdirectory) hfree (htail hlast)).after fun _ hgrows _ _ =>
      walk_idle (hgrows _ _ hdirectory) hidle
  | up hdirectory _ ih =>
    exact (ih (fun _ => kind_dropLast hdirectory) hfree (htail hlast)).after fun _ hgrows _ _ =>
      walk_up (hgrows _ _ hdirectory)
  | @missing links here s rest hdirectory hs _ hrest =>
    have hnil : rest = [] := by
      rcases List.eq_nil_or_concat rest with rfl | ⟨front, t, rfl⟩
      · rfl
      · rw [List.concat_eq_append, List.all_append, Bool.and_eq_true] at hrest
        exact absurd (by simpa using hrest.2) (hlast t (by simp [List.getLast?_cons]))
    subst hnil
    exact ⟨links, here, s, rfl, hs, hdirectory, fun _ _ _ _ => rfl⟩
  | unfollowed _ _ hlink =>
    rw [hfree] at hlink
    cases hlink
  | @followed links here l s target rest hdirectory hs hlink hmore _ ih =>
    cases rest with
    | nil => cases hmore
    | cons t rest =>
      have hend : ∀ u ∈ (Path.steps target ++ t :: rest).getLast?, u ≠ "" := by
        rw [List.getLast?_append, List.getLast?_cons, Option.some_or, ← List.getLast?_cons]
        exact htail hlast
      refine (ih (by simp) hfree hend).after fun _ hgrows _ more => ?_
      rw [List.append_assoc]
      exact walk_link (hgrows _ _ hdirectory) hs (hgrows _ _ hlink) rfl
  | file _ _ hfile =>
    rw [hfree] at hfile
    cases hfile
  | directory hdirectory hs hdeeper _ ih =>
    exact (ih (fun _ => hdeeper) hfree (htail hlast)).after fun _ hgrows _ _ =>
      walk_directory (hgrows _ _ hdirectory) hs (hgrows _ _ hdeeper)

def start (fs : FileSystem) (path : String) : Location :=
  if Path.isAbsolute path then [] else fs.working

theorem locate_eq_walk (h : fs.locate follow path = .ok l) (fs' : FileSystem) (follow' : Bool) :
    fs'.locate follow' path =
      walk fs'.root follow' maxLinks (fs'.start path) (Path.steps path) := by
  unfold locate at h ⊢
  split at h
  · cases h
  rename_i hfault
  split at h
  · cases h
  rename_i hnull
  split at h
  · cases h
  rename_i hempty
  split at h
  · cases h
  rename_i hlong
  rw [if_neg hfault, if_neg hnull, if_neg hempty, if_neg hlong, start]

theorem locate_walks (h : fs.locate follow path = .ok l) :
    Walks fs.root follow maxLinks (fs.start path) (Path.steps path) l := by
  have hwalk := h
  rw [locate_eq_walk h fs follow] at hwalk
  exact walks_of_walk _ _ hwalk

theorem locate_ends (h : fs.locate follow path = .ok l) :
    (∃ k, (fs.root.at? l).map Entry.kind = some k ∧ (follow = true → ∀ target, k ≠ .link target)) ∨
      fs.root.HasRoom l :=
  (locate_walks h).ends fun hnil => absurd hnil (steps_ne_nil path)

theorem Grows.locate (hg : Grows fs fs')
    (h : fs.locate true path = .ok l) (hfile : (fs'.root.at? l).map Entry.kind = some .file) :
    fs'.locate true path = .ok l ∨
      fs.root.at? l = none ∧ ∃ c, fs'.locate true path = .error c := by
  rw [locate_eq_walk h fs' true, start, hg.working]
  exact (locate_walks h).later hg.kinds hfile

theorem Grows.locate_file (hg : Grows fs fs')
    (h : fs.locate true path = .ok l) (hcontent : fs.contentAt l = some bytes) :
    fs'.locate true path = .ok l := by
  have hkind := kind_of_contentAt hcontent
  rcases hg.locate h (hg.kinds l _ hkind) with hl | ⟨hnone, -⟩
  · exact hl
  · rw [hnone] at hkind
    cases hkind

/-! Operations. -/

theorem writeBytes_ok {append : Bool} (h : fs.writeBytes path append bytes = .ok fs') :
    ∃ l, fs.locate true path = .ok l ∧ Grows fs fs' ∧
      fs'.contentAt l =
        some ((if append then (fs.contentAt l).getD .empty else .empty) ++ bytes) ∧
      ∀ l', l' ≠ l → fs'.contentAt l' = fs.contentAt l' := by
  obtain ⟨l, hl, h⟩ := bind_eq_ok_iff.mp (fault_eq_ok_iff.mp h)
  refine ⟨l, hl, ?_⟩
  cases hat : fs.root.at? l with
  | none =>
    have hroom : fs.root.HasRoom l := by
      rcases locate_ends hl with ⟨k, hk, -⟩ | hroom
      · rw [hat] at hk
        cases hk
      · exact hroom
    have hcontent : fs.contentAt l = none := by rw [contentAt, hat]
    simp only [hat] at h
    split at h
    · cases h
    · cases h
      obtain ⟨hgrows, hsame, hother⟩ := put_file (.inr hroom) bytes false
      refine ⟨hgrows, ?_, hother⟩
      rw [hsame, hcontent]
      simp
  | some e =>
    cases e with
    | directory entries =>
      simp only [hat] at h
      cases h
    | link target =>
      rcases locate_ends hl with ⟨k, hk, hlink⟩ | ⟨hnone, -⟩
      · rw [hat] at hk
        cases hk
        exact absurd rfl (hlink rfl target)
      · rw [hat] at hnone
        cases hnone
    | file old x =>
      have hcontent : fs.contentAt l = some old := by rw [contentAt, hat]
      simp only [hat] at h
      cases h
      obtain ⟨hgrows, hsame, hother⟩ :=
        put_file (.inl ⟨old, x, hat⟩) (if append then old ++ bytes else bytes) x
      refine ⟨hgrows, ?_, hother⟩
      rw [hsame, hcontent]
      cases append <;> simp

theorem writeBytes_of_content {old : ByteArray}
    (hl : fs.locate true path = .ok l) (hold : fs.contentAt l = some old) (append : Bool)
    (bytes : ByteArray) : ∃ fs', fs.writeBytes path append bytes = .ok fs' := by
  unfold contentAt at hold
  split at hold
  · rename_i found x hat
    simp only [writeBytes, hl, hat, bind, Except.bind, fault]
    exact ⟨_, rfl⟩
  · cases hold

theorem readBytes_of_content
    (hl : fs.locate true path = .ok l) (hbytes : fs.contentAt l = some bytes) :
    fs.readBytes path = .ok bytes := by
  unfold contentAt at hbytes
  split at hbytes
  · rename_i found x hat
    cases hbytes
    exact Leads.readBytes ⟨hl, x, hat⟩
  · cases hbytes

theorem contentAt_of_readBytes (h : fs.readBytes path = .ok bytes) :
    ∃ l, fs.locate true path = .ok l ∧ fs.contentAt l = some bytes := by
  obtain ⟨l, hl, x, hat⟩ := leads_of_readBytes h
  exact ⟨l, hl, by rw [contentAt, hat]⟩

/-! Places for new files. -/

def EndsInName (p : String) : Prop := ∃ front c, p.toList = front ++ [c] ∧ c ≠ '/'

/-- A path to a place where nothing is, not even a link. -/
structure Vacant (fs : FileSystem) (path : String) (l : Location) : Prop where
  locate : fs.locate false path = .ok l
  free : fs.root.at? l = none
  named : Text.hasSuffix path "/" = false

theorem last_piece_ne_nil {mark : Char} {cs : List Char} (hne : cs ≠ [])
    (h : cs.getLast? ≠ some mark) : (Text.splitAt mark cs).getLast? ≠ some [] := by
  induction cs with
  | nil => exact absurd rfl hne
  | cons c cs ih =>
    cases cs with
    | nil =>
      have hc : c ≠ mark := by simpa using h
      simp [Text.splitAt, hc]
    | cons d ds =>
      rw [List.getLast?_cons_cons] at h
      have hrest := ih (by simp) h
      rw [Text.splitAt]
      cases hsplit : Text.splitAt mark (d :: ds) with
      | nil => exact absurd hsplit (splitAt_ne_nil mark _)
      | cons piece pieces =>
        rw [hsplit] at hrest
        split
        · rwa [List.getLast?_cons_cons]
        · cases pieces with
          | nil => simp
          | cons next pieces => rwa [List.getLast?_cons_cons] at hrest ⊢

namespace Vacant

variable {fs fs' : FileSystem} {path : String} {l : Location}

theorem endsInName (h : fs.Vacant path l) : EndsInName path := by
  rcases List.eq_nil_or_concat path.toList with hnil | ⟨front, c, hpath⟩
  · have hlocate := h.locate
    rw [String.toList_eq_nil_iff.mp hnil] at hlocate
    cases hlocate
  · rw [List.concat_eq_append] at hpath
    refine ⟨front, c, hpath, ?_⟩
    rintro rfl
    have hnamed := h.named
    rw [Text.hasSuffix, Text.endsWith, hpath, List.reverse_append] at hnamed
    cases hnamed

theorem last_step_ne (h : fs.Vacant path l) : ∀ s ∈ (Path.steps path).getLast?, s ≠ "" := by
  obtain ⟨front, c, hpath, hc⟩ := h.endsInName
  intro s hs heq
  rw [Path.steps, List.getLast?_map] at hs
  obtain ⟨piece, hpiece, rfl⟩ := Option.map_eq_some_iff.mp hs
  rw [String.ofList_eq_empty_iff] at heq
  exact last_piece_ne_nil (by simp [hpath]) (by simp [hpath, hc]) (heq ▸ hpiece)

theorem arrives (h : fs.Vacant path l) :
    Arrives fs.root maxLinks (fs.start path) (Path.steps path) l :=
  (locate_walks h.locate).arrives (fun hnil => absurd hnil (steps_ne_nil path)) h.free
    h.last_step_ne

theorem locate_later (h : fs.Vacant path l) (hgrows : Grows fs fs')
    (hfile : ∀ k, (fs'.root.at? l).map Entry.kind = some k → k = .file) (follow : Bool) :
    fs'.locate follow path = .ok l := by
  obtain ⟨links, there, s, rfl, hs, hthere, hwalk⟩ := h.arrives
  have hpath := hwalk fs'.root hgrows.kinds follow []
  rw [List.append_nil] at hpath
  rw [locate_eq_walk h.locate fs' follow, start, hgrows.working, ← start, hpath]
  cases hat : (fs'.root.at? (stepTo there s)).map Entry.kind with
  | none => rw [walk_missing (hgrows.kinds _ _ hthere) hs hat]; rfl
  | some k => rw [walk_file (hgrows.kinds _ _ hthere) hs (hfile k hat ▸ hat)]; rfl

theorem writeBytes (h : fs.Vacant path l) (append : Bool) (bytes : ByteArray) :
    ∃ fs', fs.writeBytes path append bytes = .ok fs' ∧ fs'.locate true path = .ok l ∧
      fs'.contentAt l = some bytes := by
  have hlocate : fs.locate true path = .ok l := h.locate_later (.refl fs) (by simp [h.free]) true
  have hwrite : fs.writeBytes path append bytes = .ok (fs.put l (some (.file bytes false))) := by
    simp only [FileSystem.writeBytes, hlocate, h.free, h.named, bind, Except.bind, fault,
      Bool.false_eq_true, if_false]
  obtain ⟨l', hl', hgrows, hcontent, -⟩ := writeBytes_ok hwrite
  rw [hlocate] at hl'
  cases hl'
  have hnone : fs.contentAt l = none := by rw [contentAt, h.free]
  rw [hnone] at hcontent
  refine ⟨_, hwrite, h.locate_later hgrows (fun k hk => ?_) true, by simpa using hcontent⟩
  rw [kind_of_contentAt hcontent] at hk
  exact (Option.some.inj hk).symm

end Vacant

/-- A file is at the end of the path, or it can be made there. -/
def Writable (fs : FileSystem) (path : String) : Prop :=
  (∃ l, fs.Vacant path l) ∨ ∃ old, fs.readBytes path = .ok old

theorem Writable.writeBytes {fs : FileSystem} {path : String} (h : fs.Writable path) (append : Bool)
    (bytes : ByteArray) :
    ∃ fs' l new, fs.writeBytes path append bytes = .ok fs' ∧ fs'.locate true path = .ok l ∧
      fs'.contentAt l = some new := by
  rcases h with ⟨l, hvacant⟩ | ⟨old, hold⟩
  · obtain ⟨fs', hwrite, hl, hnew⟩ := hvacant.writeBytes append bytes
    exact ⟨fs', l, bytes, hwrite, hl, hnew⟩
  · obtain ⟨l, hl, hold⟩ := contentAt_of_readBytes hold
    obtain ⟨fs', hwrite⟩ := writeBytes_of_content hl hold append bytes
    obtain ⟨l', hl', hgrows, hnew, -⟩ := writeBytes_ok hwrite
    cases hl.symm.trans hl'
    exact ⟨fs', l, _, hwrite, hgrows.locate_file hl hold, hnew⟩

/-- Nothing that is there becomes something else, and no content changes. -/
structure Keeps (fs fs' : FileSystem) : Prop where
  grows : Grows fs fs'
  contents : ∀ l, fs'.contentAt l = fs.contentAt l

theorem Keeps.refl (fs : FileSystem) : Keeps fs fs := ⟨.refl fs, fun _ => rfl⟩

theorem Keeps.trans {fs'' : FileSystem} (h : Keeps fs fs') (h' : Keeps fs' fs'') :
    Keeps fs fs'' := ⟨h.grows.trans h'.grows, fun l => (h'.contents l).trans (h.contents l)⟩

theorem makeDirectory_keeps (h : fs.makeDirectory path = .ok fs') : Keeps fs fs' := by
  obtain ⟨l, hl, h⟩ := bind_eq_ok_iff.mp (fault_eq_ok_iff.mp h)
  cases hat : fs.root.at? l with
  | some e =>
    simp only [hat] at h
    cases h
  | none =>
    simp only [hat] at h
    cases h
    rcases locate_ends hl with ⟨k, hk, -⟩ | hroom
    · rw [hat] at hk
      cases hk
    · obtain ⟨hgrows, hcontents⟩ := put_directory hroom
      exact ⟨hgrows, hcontents⟩

theorem makeDirectoriesWithin_keeps (fuel : Nat) (fs : FileSystem) (path : String) :
    Keeps fs (makeDirectoriesWithin fuel fs path).2 := by
  induction fuel generalizing fs path with
  | zero => exact .refl fs
  | succ fuel ih =>
    have habove := ih fs (aboveAndName path).1
    rw [makeDirectoriesWithin]
    dsimp only
    split
    · generalize makeDirectoriesWithin fuel fs (aboveAndName path).1 = made at habove
      obtain ⟨result, fs'⟩ := made
      have hlast : ∀ fs'', fs'.makeDirectory path = .ok fs'' → Keeps fs fs'' :=
        fun fs'' h => habove.trans (makeDirectory_keeps h)
      cases result with
      | error f =>
        dsimp only
        split
        · split
          · exact habove
          · cases h : fs'.makeDirectory path with
            | ok fs'' => exact hlast fs'' h
            | error f => exact habove
        · exact habove
      | ok _ =>
        dsimp only
        split
        · exact habove
        · cases h : fs'.makeDirectory path with
          | ok fs'' => exact hlast fs'' h
          | error f => exact habove
    · cases h : fs.makeDirectory path with
      | ok fs' => exact makeDirectory_keeps h
      | error f => exact .refl fs

theorem makeWay_of_above
    (h : Path.directory path = "" ∨ fs.exists? (Path.directory path) = true) :
    fs.makeWay path = (.ok (), fs) := by
  have hthere : ((Path.directory path).isEmpty || fs.exists? (Path.directory path)) = true := by
    rcases h with hnone | hsome
    · simp [hnone]
    · simp [hsome]
  simp only [makeWay, hthere, if_true]

theorem makeWay_keeps (fs : FileSystem) (path : String) : Keeps fs (fs.makeWay path).2 := by
  have hmade := makeDirectoriesWithin_keeps maxMissing fs (Path.directory path)
  simp only [makeWay]
  split
  · exact .refl fs
  · rw [makeDirectories]
    generalize makeDirectoriesWithin maxMissing fs (Path.directory path) = made at hmade
    obtain ⟨result, fs'⟩ := made
    cases result with
    | ok _ => exact hmade
    | error f => exact hmade

end DroidAudit.FileSystem
