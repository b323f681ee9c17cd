import DroidAudit.FileSystem.Operations
import DroidAudit.Proofs.Results

/-! Changing a file that is there. What a path leads to depends on the directories and links on its
way and on no file's content, so every path leads where it led before; and only the one file has
another content. -/
namespace DroidAudit.FileSystem

/-- What the way of a path depends on. -/
inductive Kind
  | file
  | directory
  | link (target : String)

def Entry.kind : Entry → Kind
  | .file _ _ => .file
  | .directory _ => .directory
  | .link target => .link target

theorem child?_setChild (name other : String) (e : Entry) (entries : List (String × Entry)) :
    (Entry.directory (setChild name (some e) entries)).child? other =
      if name = other then some e else (Entry.directory entries).child? other := by
  simp only [Entry.child?]
  induction entries with
  | nil =>
    by_cases h : name = other <;> simp [setChild, h]
  | cons first rest ih =>
    obtain ⟨n, x⟩ := first
    by_cases hn : n = name
    · subst hn
      by_cases h : n = other <;> simp [setChild, h]
    · have hset : setChild name (some e) ((n, x) :: rest) =
          (n, x) :: setChild name (some e) rest := by simp [setChild, hn]
      by_cases h : n = other
      · have hname : name ≠ other := fun heq => hn (h.trans heq.symm)
        rw [hset]
        simp [h, hname]
      · rw [hset]
        simp [h, ih]

theorem put_of_child? {entries : List (String × Entry)} {name : String} {c : Entry}
    (h : (Entry.directory entries).child? name = some c) (l : Location) (new : Entry) :
    (Entry.directory entries).put (name :: l) (some new) =
      .directory (setChild name (some (c.put l (some new))) entries) := by
  cases l with
  | nil => simp [Entry.put]
  | cons n l =>
    rw [Entry.child?] at h
    simp [Entry.put, h]

variable {e : Entry} {l : Location} {bytes : ByteArray} {fs : FileSystem} {path : String}

theorem at?_cons_eq_some {found : Entry} {name : String} (h : e.at? (name :: l) = some found) :
    ∃ entries c, e = .directory entries ∧ (Entry.directory entries).child? name = some c ∧
      c.at? l = some found := by
  obtain ⟨c, hc, hl⟩ := Option.bind_eq_some_iff.mp h
  cases e with
  | directory entries => exact ⟨entries, c, rfl, hc, hl⟩
  | file bytes x => cases hc
  | link target => cases hc

theorem at?_put_same {old : Entry} (h : e.at? l = some old) (new : Entry) :
    (e.put l (some new)).at? l = some new := by
  induction l generalizing e with
  | nil => rfl
  | cons name l ih =>
    obtain ⟨entries, c, rfl, hc, hl⟩ := at?_cons_eq_some h
    simp [put_of_child? hc, Entry.at?, child?_setChild, ih hl]

/-- At another location than that of a changed file stands what stood there, or a directory as
before. -/
theorem at?_put_other {l' : Location} {x : Bool}
    (h : e.at? l = some (.file bytes x)) (hne : l' ≠ l) (bytes' : ByteArray) (x' : Bool) :
    (e.put l (some (.file bytes' x'))).at? l' = e.at? l' ∨
      ∃ es es', (e.put l (some (.file bytes' x'))).at? l' = some (.directory es) ∧
        e.at? l' = some (.directory es') := by
  induction l generalizing e l' with
  | nil =>
    cases Option.some.inj h
    cases l' with
    | nil => exact absurd rfl hne
    | cons n l' => exact .inl rfl
  | cons name l ih =>
    obtain ⟨entries, c, rfl, hc, hl⟩ := at?_cons_eq_some h
    rw [put_of_child? hc]
    cases l' with
    | nil => exact .inr ⟨_, _, rfl, rfl⟩
    | cons n l' =>
      by_cases hn : name = n
      · subst hn
        have hrest : l' ≠ l := fun heq => hne (by rw [heq])
        simpa [Entry.at?, child?_setChild, hc] using ih hl hrest
      · simp [Entry.at?, child?_setChild, hn]

theorem kind_at?_put {x : Bool}
    (h : e.at? l = some (.file bytes x)) (bytes' : ByteArray) (x' : Bool) (l' : Location) :
    ((e.put l (some (.file bytes' x'))).at? l').map Entry.kind = (e.at? l').map Entry.kind := by
  by_cases hl : l' = l
  · rw [hl, at?_put_same h, h]
    rfl
  · rcases at?_put_other h hl bytes' x' with heq | ⟨es, es', hnew, hold⟩
    · rw [heq]
    · rw [hnew, hold]
      rfl

theorem at?_append (e : Entry) (l l' : Location) :
    e.at? (l ++ l') = (e.at? l).bind (·.at? l') := by
  induction l generalizing e with
  | nil => rfl
  | cons name l ih =>
    simp only [List.cons_append, Entry.at?, Option.bind_assoc]
    congr
    funext c
    exact ih c

theorem walk_cons (root : Entry) (follow : Bool) (links : Nat) (here : Location) (s : String)
    (rest : List String) :
    walk root follow links here (s :: rest) =
      match (root.at? here).map Entry.kind with
      | some .directory =>
        if s == "" || s == "." then walk root follow links here rest
        else if s == ".." then walk root follow links here.dropLast rest
        else if maxNameBytes < (Text.encoded s).size then .error .tooLong
        else
          let there := here ++ [Text.listedName s]
          match (root.at? there).map Entry.kind with
          | none => if rest.all (· == "") then .ok there else .error .notFound
          | some (.link target) =>
            if rest.isEmpty && !follow then .ok there
            else
              match links with
              | 0 => .error .tooManyLinks
              | links + 1 =>
                walk root follow links (if Path.isAbsolute target then [] else here)
                  (Path.steps target ++ rest)
          | some .file => if rest.isEmpty then .ok there else .error .notADirectory
          | some .directory => walk root follow links there rest
      | some _ => .error .notADirectory
      | none => .error .notFound := by
  rw [walk]
  cases hat : root.at? here with
  | none => rfl
  | some e =>
    cases e with
    | file bytes x => rfl
    | link target => rfl
    | directory entries =>
      have hthere : root.at? (here ++ [Text.listedName s]) =
          (entries.find? fun e => e.1 == Text.listedName s).map (·.2) := by
        simp [at?_append, hat, Entry.at?, Entry.child?]
      simp only [hthere, Option.map_some, Entry.kind]
      cases (entries.find? fun e => e.1 == Text.listedName s).map (·.2) with
      | none => rfl
      | some child => cases child <;> rfl

theorem walk_of_kinds {root root' : Entry}
    (h : ∀ l, (root'.at? l).map Entry.kind = (root.at? l).map Entry.kind) (follow : Bool)
    (links : Nat) (here : Location) (steps : List String) :
    walk root' follow links here steps = walk root follow links here steps := by
  induction links generalizing here steps with
  | zero =>
    induction steps generalizing here with
    | nil => simp only [walk]
    | cons s rest ih => simp only [walk_cons, h, ih]
  | succ links ihl =>
    induction steps generalizing here with
    | nil => simp only [walk]
    | cons s rest ih => simp only [walk_cons, h, ih, ihl]

def Leads (fs : FileSystem) (path : String) (l : Location) (bytes : ByteArray) : Prop :=
  fs.locate true path = .ok l ∧ ∃ x, fs.root.at? l = some (.file bytes x)

theorem fault_eq_ok_iff {α : Type} {x : Except Cause α} {a : α} :
    fault path x = .ok a ↔ x = .ok a := by
  cases x <;> simp [fault]

theorem leads_of_readBytes (h : fs.readBytes path = .ok bytes) : ∃ l, fs.Leads path l bytes := by
  obtain ⟨e, he, h⟩ := bind_eq_ok_iff.mp (fault_eq_ok_iff.mp h)
  obtain ⟨l, hl, he⟩ := bind_eq_ok_iff.mp he
  split at he
  · rename_i found hat
    cases he
    split at h
    · cases h
      exact ⟨l, hl, _, hat⟩
    · cases h
    · cases h
  · cases he

theorem Leads.readBytes (h : fs.Leads path l bytes) : fs.readBytes path = .ok bytes := by
  obtain ⟨hl, x, hat⟩ := h
  simp only [FileSystem.readBytes, entry, hl, hat, bind, Except.bind, fault]

/-- Writing a file that is there. The paths to other files still lead to them. -/
theorem Leads.writeText (h : fs.Leads path l bytes) (text : String) :
    ∃ fs', fs.writeText path false text = .ok fs' ∧ fs'.Leads path l (Text.encoded text) ∧
      ∀ path' l' bytes', l' ≠ l → fs.Leads path' l' bytes' → fs'.Leads path' l' bytes' := by
  obtain ⟨hl, x, hat⟩ := h
  have hlocate : ∀ p, (fs.put l (some (.file (Text.encoded text) x))).locate true p =
      fs.locate true p := by
    intro p
    simp only [locate, put, walk_of_kinds (kind_at?_put hat _ _)]
  refine ⟨fs.put l (some (.file (Text.encoded text) x)), ?_, ⟨?_, x, ?_⟩, ?_⟩
  · simp only [FileSystem.writeText, writeBytes, hl, hat, bind, Except.bind, fault]
    rfl
  · rw [hlocate, hl]
  · exact at?_put_same hat _
  · rintro path' l' bytes' hne ⟨hl', x', hat'⟩
    refine ⟨by rw [hlocate, hl'], x', ?_⟩
    rcases at?_put_other hat hne (Text.encoded text) x with heq | ⟨es, es', -, hold⟩
    · exact heq.trans hat'
    · rw [hat'] at hold
      cases hold

end DroidAudit.FileSystem
