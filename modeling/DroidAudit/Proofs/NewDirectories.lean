import DroidAudit.Proofs.CodePoints
import DroidAudit.Proofs.FileGrowth
import DroidAudit.Proofs.KeyWords

/-! Directories that are made on the way to a path. Where the first of them is missing, all below it
are, and each is made in the one before. -/
namespace DroidAudit.FileSystem

variable {fs fs' : FileSystem} {p q s : String} {l : Location} {n : Nat}

/-! One step below a path. -/

theorem toList_below (p s : String) : (p ++ "/" ++ s).toList = p.toList ++ '/' :: s.toList := by simp

theorem steps_below (hs : '/' ∉ s.toList) : Path.steps (p ++ "/" ++ s) = Path.steps p ++ [s] := by
  rw [Path.steps, toList_below, Text.splitAt_append_mark, Text.splitAt_of_not_mem hs, Path.steps]
  simp

theorem cut_below (hs : '/' ∉ s.toList) :
    Path.cut (p ++ "/" ++ s) = (p.toList ++ ['/'], s.toList) := by
  have hpass : ∀ c ∈ s.toList.reverse, (c != '/') = true := fun c hc =>
    bne_iff_ne.mpr (ne_of_mem_of_not_mem (List.mem_reverse.mp hc) hs)
  have htail : (p ++ "/" ++ s).toList.reverse.takeWhile (· != '/') = s.toList.reverse := by
    rw [toList_below, List.reverse_append, List.reverse_cons, List.append_assoc,
      List.takeWhile_append_of_pos hpass]
    simp
  have hsplit : (p ++ "/" ++ s).toList = p.toList ++ ['/'] ++ s.toList := by simp
  rw [Path.cut, htail, List.reverse_reverse, hsplit, List.length_append, Nat.add_sub_cancel,
    List.take_left]

theorem directory_below (hp : EndsInName p) (hs : '/' ∉ s.toList) :
    Path.directory (p ++ "/" ++ s) = p := by
  obtain ⟨front, c, hp, hc⟩ := hp
  have hback : (p.toList ++ ['/']).reverse = '/' :: c :: front.reverse := by simp [hp]
  have hmixed : (p.toList ++ ['/']).all (· == '/') = false := by simp [hp, hc]
  have hslash : (c == '/') = false := beq_false_of_ne hc
  rw [Path.directory, cut_below hs]
  simp only [hmixed, hback, List.dropWhile_cons, hslash, beq_self_eq_true, if_true, Bool.false_eq_true,
    if_false]
  rw [← List.reverse_concat, List.reverse_reverse, ← hp, String.ofList_toList]

namespace EndsInName

theorem name_ne_empty (hp : EndsInName p) : Path.name p ≠ "" := by
  obtain ⟨front, c, hp, hc⟩ := hp
  rw [Path.name, Path.cut, ne_eq, String.ofList_eq_empty_iff]
  simp [hp, hc]

theorem ne_empty (hp : EndsInName p) : p ≠ "" := by
  obtain ⟨front, c, hp, -⟩ := hp
  rintro rfl
  simp at hp

theorem hasSuffix (hp : EndsInName p) : Text.hasSuffix p "/" = false := by
  obtain ⟨front, c, hp, hc⟩ := hp
  rw [Bool.eq_false_iff, ne_eq, Text.hasSuffix_iff, hp]
  rintro ⟨rest, hrest⟩
  exact hc (by simpa using (List.append_inj' hrest rfl).2.symm)

end EndsInName

/-- A step that is neither empty nor idle nor up. -/
def IsName (s : String) : Prop := isNaming s = true ∧ '/' ∉ s.toList

theorem IsName.ne_empty (h : IsName s) : s ≠ "" := by
  rintro rfl
  cases h.1

theorem IsName.of_plain (hplain : Text.isPlain s = true) (hshort : s.utf8ByteSize ≤ maxNameBytes)
    (hs : (s == "" || s == ".") = false ∧ (s == "..") = false ∧ '/' ∉ s.toList) : IsName s := by
  refine ⟨(isNaming_iff s).mpr ⟨hs.1, hs.2.1, ?_⟩, hs.2.2⟩
  rw [Text.encoded_of_isPlain hplain]
  exact Nat.not_lt.mpr hshort

theorem IsName.endsInName_below (h : IsName s) (p : String) : EndsInName (p ++ "/" ++ s) := by
  rcases List.eq_nil_or_concat s.toList with hnil | ⟨front, c, hc⟩
  · exact absurd (String.toList_eq_nil_iff.mp hnil) h.ne_empty
  · rw [List.concat_eq_append] at hc
    refine ⟨p.toList ++ '/' :: front, c, by rw [toList_below, hc]; simp, ?_⟩
    exact ne_of_mem_of_not_mem (by simp [hc]) h.2

/-! Paths that can be asked for. -/

structure Usable (path : String) : Prop where
  plain : Text.isPlain path = true
  null : '\x00' ∉ path.toList
  ne_empty : path ≠ ""
  short : path.utf8ByteSize ≤ maxPathBytes

theorem Usable.front (h : Usable (p ++ q)) (hp : p ≠ "") : Usable p where
  plain := by
    have hplain := h.plain
    simp only [Text.isPlain, String.toList_append, List.any_append, Bool.not_or,
      Bool.and_eq_true] at hplain
    exact hplain.1
  null := fun hmem => h.null (by simp [hmem])
  ne_empty := hp
  short := Nat.le_trans (by simp [String.utf8ByteSize_append]) h.short

theorem Usable.above (h : Usable (p ++ "/" ++ s)) (hp : EndsInName p) : Usable p := by
  rw [String.append_assoc] at h
  exact h.front hp.ne_empty

theorem Usable.locate (h : Usable p) (fs : FileSystem) (follow : Bool) :
    fs.locate follow p = walk fs.root follow maxLinks (fs.start p) (Path.steps p) := by
  have hfault : Text.pathFault? p = none := by
    have hplain : ∀ c ∈ p.toList, Text.isReserved c = false := by
      simpa [Text.isPlain] using h.plain
    have hpoints := Text.points_plain hplain []
    rw [List.append_nil, Text.points, List.append_nil] at hpoints
    rw [Text.pathFault?_eq_none_iff, hpoints]
    intro n hn hhalf
    obtain ⟨c, -, rfl⟩ := List.mem_map.mp hn
    have hvalid : c.toNat < 0xD800 ∨ 0xDFFF < c.toNat ∧ c.toNat < 0x110000 := c.valid
    rw [Text.isHalf_iff] at hhalf
    omega
  have hnull : p.toList.contains '\x00' = false := by simpa using h.null
  have hempty : p.isEmpty = false := by simpa using h.ne_empty
  have hshort : ¬maxPathBytes < (Text.encoded p).size := by
    rw [Text.encoded_of_isPlain h.plain]
    exact Nat.not_lt.mpr h.short
  simp only [FileSystem.locate, hfault, hnull, hempty, hshort, Option.isSome_none, Bool.false_eq_true,
    if_false]
  rfl

theorem start_append (hp : p ≠ "") (fs : FileSystem) : fs.start (p ++ q) = fs.start p := by
  have hhead : (p ++ q).toList.head? = p.toList.head? := by
    cases h : p.toList with
    | nil => exact absurd (String.toList_eq_nil_iff.mp h) hp
    | cons c rest => rw [String.toList_append, h, List.cons_append, List.head?_cons, List.head?_cons]
  rw [start, start, Path.isAbsolute, Path.isAbsolute, hhead]

theorem start_below (hp : p ≠ "") (fs : FileSystem) : fs.start (p ++ "/" ++ s) = fs.start p := by
  rw [String.append_assoc, start_append hp]

/-! Places that are arrived at. -/

namespace Arrives
variable {root root' : Entry} {links : Nat} {here : Location} {steps : List String}

theorem later (h : Arrives root links here steps l) (hgrows : root.GrowsTo root') :
    Arrives root' links here steps l := by
  obtain ⟨links', there, s, hl, hs, hthere, hwalk⟩ := h
  exact ⟨links', there, s, hl, hs, hgrows _ _ hthere, fun root'' hlater =>
    hwalk root'' fun l k hk => hlater l k (hgrows l k hk)⟩

theorem hasRoom (h : Arrives root links here steps l) (hfree : root.at? l = none) :
    root.HasRoom l := by
  obtain ⟨-, there, s, rfl, -, hthere, -⟩ := h
  obtain ⟨entries, hentries⟩ := directory_of_kind hthere
  exact ⟨hfree, there, _, entries, rfl, hentries⟩

theorem walk_free (h : Arrives root links here steps l) (hfree : root.at? l = none) (follow : Bool)
    (rest : List String) : walk root follow links here (steps ++ rest) =
      if rest.all (· == "") then .ok l else .error .notFound := by
  obtain ⟨links', there, s, rfl, hs, hthere, hwalk⟩ := h
  rw [hwalk root (fun _ _ hk => hk), walk_missing hthere hs (by rw [hfree]; rfl)]

theorem below (h : Arrives root links here steps l)
    (hl : (root.at? l).map Entry.kind = some .directory) (hs : isNaming s = true) :
    Arrives root links here (steps ++ [s]) (stepTo l s) := by
  obtain ⟨links', there, t, rfl, ht, hthere, hwalk⟩ := h
  refine ⟨links', stepTo there t, s, rfl, hs, hl, fun root' hlater follow rest => ?_⟩
  rw [List.append_assoc, hwalk root' hlater, walk_directory (hlater _ _ hthere) ht (hlater _ _ hl)]
  rfl

end Arrives

/-- Nothing is below a path where nothing is. -/
theorem Vacant.locate_below (h : fs.Vacant p l) (hs : IsName s) (hpath : Usable (p ++ "/" ++ s))
    (follow : Bool) : fs.locate follow (p ++ "/" ++ s) = .error .notFound := by
  have hempty : ¬([s].all (· == "")) = true := by simpa using hs.ne_empty
  rw [hpath.locate, start_below h.endsInName.ne_empty, steps_below hs.2, h.arrives.walk_free h.free,
    if_neg hempty]

/-- A path to a directory that was made, and is empty. -/
structure Made (fs fs' : FileSystem) (path : String) (l : Location) : Prop where
  keeps : Keeps fs fs'
  arrives : Arrives fs'.root maxLinks (fs'.start path) (Path.steps path) l
  empty : fs'.root.at? l = some (.directory [])

theorem Vacant.made (h : fs.Vacant p l) : ∃ fs', fs.makeDirectory p = .ok fs' ∧ Made fs fs' p l := by
  have hmade : fs.makeDirectory p = .ok (fs.put l (some (.directory []))) := by
    simp only [makeDirectory, h.locate, h.free, bind, Except.bind, fault]
  have hkeeps := makeDirectory_keeps hmade
  exact ⟨_, hmade, hkeeps, h.arrives.later hkeeps.grows.kinds,
    at?_put_room (h.arrives.hasRoom h.free) _⟩

namespace Made

theorem directory (h : Made fs fs' p l) : (fs'.root.at? l).map Entry.kind = some .directory := by
  rw [h.empty]
  rfl

theorem vacant_below (h : Made fs fs' p l) (hp : p ≠ "") (hs : IsName s)
    (hpath : Usable (p ++ "/" ++ s)) : fs'.Vacant (p ++ "/" ++ s) (stepTo l s) := by
  have hfree : fs'.root.at? (stepTo l s) = none := by
    rw [stepTo, at?_append, h.empty]
    rfl
  have hwalk := (h.arrives.below h.directory hs.1).walk_free hfree false []
  rw [List.append_nil, ← steps_below hs.2, ← start_below hp] at hwalk
  exact ⟨(hpath.locate fs' false).trans hwalk, hfree, (hs.endsInName_below p).hasSuffix⟩

theorem isDirectory_later {fs₁ : FileSystem} (h : Made fs fs₁ p l) (hgrows : Grows fs₁ fs')
    (hp : p ≠ "") (hpath : Usable (p ++ "/")) : fs'.isDirectory (p ++ "/") = true := by
  obtain ⟨links, there, s, rfl, hs, hthere, hwalk⟩ := h.arrives
  have hl := hgrows.kinds _ _ h.directory
  obtain ⟨entries, hentries⟩ := directory_of_kind hl
  have hsteps : Path.steps (p ++ "/" ++ "") = Path.steps p ++ [""] := steps_below (by simp)
  have hlocate : fs'.locate true (p ++ "/") = .ok (stepTo there s) := by
    rw [String.append_empty] at hsteps
    rw [hpath.locate, hsteps, start_append hp, start, hgrows.working, ← start,
      hwalk _ hgrows.kinds, walk_directory (hgrows.kinds _ _ hthere) hs hl, walk_idle hl rfl, walk]
  rw [isDirectory, entry, hlocate]
  simp [hentries, bind, Except.bind, Except.toOption, Entry.isDirectory]

end Made

/-! Directories below one that is missing. -/

/-- How many directories are missing for a path: the first of them would be in a directory that is
there, and the others have names below it. -/
inductive Lacks (fs : FileSystem) : String → Nat → Prop
  | first {p : String} {l : Location} : fs.Vacant p l →
      (Path.directory p = "" ∨ fs.exists? (Path.directory p) = true) → Lacks fs p 1
  | next {p s : String} {n : Nat} : Lacks fs p n → IsName s → Lacks fs (p ++ "/" ++ s) (n + 1)

namespace Lacks

theorem endsInName (h : fs.Lacks p n) : EndsInName p := by
  cases h with
  | first hvacant _ => exact hvacant.endsInName
  | next _ hs => exact hs.endsInName_below _

theorem ne_zero (h : fs.Lacks p n) : n ≠ 0 := by cases h <;> simp

/-- The way to the path comes to a place where nothing is. -/
theorem ends_free (h : fs.Lacks p n) : ∃ l steps rest,
    Arrives fs.root maxLinks (fs.start p) steps l ∧ fs.root.at? l = none ∧
      Path.steps p = steps ++ rest := by
  induction h with
  | first hvacant _ => exact ⟨_, _, [], hvacant.arrives, hvacant.free, (List.append_nil _).symm⟩
  | next h hs ih =>
    obtain ⟨l, steps, rest, harrives, hfree, hsteps⟩ := ih
    refine ⟨l, steps, rest ++ [_], ?_, hfree, by rw [steps_below hs.2, hsteps, List.append_assoc]⟩
    rwa [start_below h.endsInName.ne_empty]

theorem exists?_eq_false (h : fs.Lacks p n) (hp : Usable p) : fs.exists? p = false := by
  obtain ⟨l, steps, rest, harrives, hfree, hsteps⟩ := h.ends_free
  have hlocate := hp.locate fs true
  rw [hsteps, harrives.walk_free hfree] at hlocate
  rw [exists?, entry, hlocate]
  split
  · simp [hfree, bind, Except.bind, Except.toOption]
  · rfl

/-- As many directories as there is fuel for are made, each in the one before. -/
theorem makeDirectoriesWithin (h : fs.Lacks p n) (hp : Usable p) (fuel : Nat) :
    if n ≤ fuel then
      ∃ fs' l, FileSystem.makeDirectoriesWithin fuel fs p = (.ok (), fs') ∧ Made fs fs' p l
    else
      ∃ f fs', FileSystem.makeDirectoriesWithin fuel fs p = (.error f, fs') ∧
        f.cause = .tooDeep := by
  -- Each missing directory takes one step of the fuel, and the one above it is made with the rest.
  induction h generalizing fuel with
  | @first p l hvacant habove =>
    cases fuel with
    | zero => exact ⟨_, _, rfl, rfl⟩
    | succ fuel =>
      obtain ⟨fs', hdone, hmade⟩ := hvacant.made
      have hname : (Path.name p == "") = false := beq_false_of_ne hvacant.endsInName.name_ne_empty
      have hthere : (Path.directory p != "" && Path.name p != "" &&
          !fs.exists? (Path.directory p)) = false := by
        rcases habove with hnone | hsome
        · simp [hnone]
        · simp [hsome]
      refine (if_pos (Nat.succ_pos fuel)).mpr ⟨fs', l, ?_, hmade⟩
      simp only [FileSystem.makeDirectoriesWithin, aboveAndName, hname, hthere, hdone,
        Bool.false_eq_true, if_false]
  | @next p s n h hs ih =>
    cases fuel with
    | zero => exact ⟨_, _, rfl, rfl⟩
    | succ fuel =>
      have habove : Usable p := hp.above h.endsInName
      have hname : Path.name (p ++ "/" ++ s) = s := by
        rw [Path.name, cut_below hs.2, String.ofList_toList]
      have hempty : (s == "") = false := beq_false_of_ne hs.ne_empty
      have hdot : (s == ".") = false := by
        rw [beq_eq_false_iff_ne]
        rintro rfl
        cases hs.1
      have hgoes : (p != "" && s != "" && !fs.exists? p) = true := by
        simp [habove.ne_empty, hs.ne_empty, h.exists?_eq_false habove]
      have hbefore := ih habove fuel
      by_cases hfuel : n ≤ fuel
      · obtain ⟨fs₁, l₁, hrun, hmade⟩ := (if_pos hfuel).mp hbefore
        obtain ⟨fs', hdone, hlast⟩ := (hmade.vacant_below habove.ne_empty hs hp).made
        refine (if_pos (Nat.succ_le_succ hfuel)).mpr ⟨fs', _, ?_, hmade.keeps.trans hlast.keeps,
          hlast.arrives, hlast.empty⟩
        simp only [FileSystem.makeDirectoriesWithin, aboveAndName, hname, hempty,
          directory_below h.endsInName hs.2, hgoes, hrun, hdot, hdone, Bool.false_eq_true, if_false,
          if_true]
      · obtain ⟨f, fs₁, hrun, hdeep⟩ := (if_neg hfuel).mp hbefore
        refine (if_neg (by omega)).mpr ⟨f, fs₁, ?_, hdeep⟩
        simp only [FileSystem.makeDirectoriesWithin, aboveAndName, hname, hempty,
          directory_below h.endsInName hs.2, hgoes, hrun, hdeep, Bool.false_eq_true, if_false,
          if_true, reduceCtorEq]

/-- What is right below the last directory needs all of them. -/
theorem makeWay_below (h : fs.Lacks p n) (hp : Usable p) (hs : '/' ∉ s.toList) :
    if n ≤ maxMissing then
      ∃ fs' l, fs.makeWay (p ++ "/" ++ s) = (.ok (), fs') ∧ Made fs fs' p l
    else ∃ e fs', fs.makeWay (p ++ "/" ++ s) = (.error e, fs') := by
  have hgoes : (p.isEmpty || fs.exists? p) = false := by
    rw [h.exists?_eq_false hp]
    simpa using hp.ne_empty
  have hmade := h.makeDirectoriesWithin hp maxMissing
  simp only [makeWay, makeDirectories, directory_below h.endsInName hs, hgoes, Bool.false_eq_true,
    if_false]
  by_cases hdepth : n ≤ maxMissing
  · obtain ⟨fs', l, hrun, hmade⟩ := (if_pos hdepth).mp hmade
    exact (if_pos hdepth).mpr ⟨fs', l, by rw [hrun], hmade⟩
  · obtain ⟨f, fs', hrun, -⟩ := (if_neg hdepth).mp hmade
    exact (if_neg hdepth).mpr ⟨_, fs', by rw [hrun]⟩

/-- The last directory itself is not made on the way to it. -/
theorem makeWay (h : fs.Lacks p n) (hp : Usable p) :
    if n ≤ maxMissing + 1 then ∃ fs' l, fs.makeWay p = (.ok (), fs') ∧ fs'.Vacant p l
    else ∃ e fs', fs.makeWay p = (.error e, fs') := by
  cases h with
  | first hvacant habove =>
    exact (if_pos (by omega)).mpr ⟨fs, _, makeWay_of_above habove, hvacant⟩
  | @next p s n h hs =>
    have habove : Usable p := hp.above h.endsInName
    have hway := h.makeWay_below habove hs.2
    by_cases hdepth : n ≤ maxMissing
    · obtain ⟨fs', l, hmade, hlast⟩ := (if_pos hdepth).mp hway
      exact (if_pos (Nat.succ_le_succ hdepth)).mpr
        ⟨fs', _, hmade, hlast.vacant_below habove.ne_empty hs hp⟩
    · exact (if_neg (by omega)).mpr ((if_neg hdepth).mp hway)

end Lacks
end DroidAudit.FileSystem
