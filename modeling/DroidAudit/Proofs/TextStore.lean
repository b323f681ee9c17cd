import DroidAudit.Proofs.DocumentRows
import DroidAudit.Proofs.UnreadableNames

/-! Files as stores of named texts. Texts are stored one after the other, and each of them is found
again, if all names of the document are of the first 128 characters. A document that is nested too
deep cannot be written to its end, and its file is cut off. -/
namespace DroidAudit.Resources

/-! Files. -/

variable {fs : FileSystem} {path : String} {root : Xml.Element}

theorem leads_of_readDocument (h : readDocument fs path = .ok root) :
    ∃ l bytes, fs.Leads path l bytes ∧ Xml.read .tree bytes = .ok root := by
  have hbytes : ∃ bytes, fs.readBytes path = .ok bytes := by
    unfold readDocument at h
    split at h
    · cases h
    · cases h
    · split at h
      · cases h
      · exact ⟨_, ‹_›⟩
  obtain ⟨bytes, hbytes⟩ := hbytes
  obtain ⟨l, hleads⟩ := FileSystem.leads_of_readBytes hbytes
  exact ⟨l, bytes, hleads, (readDocument_iff hleads root).mp h⟩

theorem readDocument_sound (h : readDocument fs path = .ok root) : root.Sound .tree := by
  obtain ⟨l, bytes, -, hread⟩ := leads_of_readDocument h
  exact Xml.read_sound .tree bytes root hread

theorem setText_eq
    (hread : readDocument fs (Path.tidy path) = .ok root) {key : String} (hquote : '\'' ∉ key.toList)
    (text : String) :
    setText fs (.text key) (.text text) path =
      writeDocument fs (Path.tidy path) (Xml.stored key text root) () := by
  have hfind := Xml.Query.find?_queryFor hquote root
  unfold setText Xml.stored
  extract_lets tidied
  simp only [tidied, hread]
  rw [hfind]
  cases (Xml.Query.below [] root).find? fun f => f.2.textName? == some key with
  | none => rfl
  | some f => rfl

/-- A named text that can be stored: it keeps all of its characters, and the name does not end the
query for it. -/
structure IsEntry (w : String × String) : Prop where
  key : Xml.IsText w.1
  quote : '\'' ∉ w.1.toList
  text : Xml.IsText w.2

section Storing

variable {fs : FileSystem} {path : String} {root : Xml.Element} {w : String × String}

/-- What a call for a text leaves in the file of the document. -/
theorem setText_written (hread : readDocument fs (Path.tidy path) = .ok root) (hw : IsEntry w) :
    ∃ fs' l, fs.writeText (Path.tidy path) false (Xml.documentText (Xml.stored w.1 w.2 root)).1 =
        .ok fs' ∧
      fs'.Leads (Path.tidy path) l
        (Text.encoded (Xml.documentText (Xml.stored w.1 w.2 root)).1) ∧
      setText fs (.text w.1) (.text w.2) path =
        (if root.height ≤ Xml.maxHeight then .ok () else .error .tooDeep, fs') := by
  have hsound := Xml.stored_sound (readDocument_sound hread) hw.key.isLegalText hw.text.isLegalText
  have hfault := Xml.documentText_fault hsound.whole
  simp only [Xml.stored_height] at hfault
  obtain ⟨l, bytes, hleads, -⟩ := leads_of_readDocument hread
  obtain ⟨fs', hwrite, hthere, -⟩ :=
    hleads.writeText (Xml.documentText (Xml.stored w.1 w.2 root)).1
  refine ⟨fs', l, hwrite, hthere, ?_⟩
  rw [setText_eq hread hw.quote]
  by_cases hheight : root.height ≤ Xml.maxHeight
  · rw [if_pos hheight] at hfault ⊢
    simp only [writeDocument, hwrite, hfault]
  · rw [if_neg hheight] at hfault ⊢
    simp only [writeDocument, hwrite, hfault, writeFailure]

theorem setText_error_iff (hw : IsEntry w) (e : Failure) (fs' : FileSystem) :
    setText fs (.text w.1) (.text w.2) path = (.error e, fs') ↔
      readDocument fs (Path.tidy path) = .error e ∧ fs' = fs ∨
      ∃ root, readDocument fs (Path.tidy path) = .ok root ∧ Xml.maxHeight < root.height ∧
        e = .tooDeep ∧
        fs.writeText (Path.tidy path) false (Xml.documentText (Xml.stored w.1 w.2 root)).1 =
          .ok fs' := by
  cases hread : readDocument fs (Path.tidy path) with
  | error f =>
    have hfails : setText fs (.text w.1) (.text w.2) path = (.error f, fs) := by
      unfold setText
      extract_lets tidied
      simp only [tidied, hread]
    rw [hfails]
    simp [eq_comm]
  | ok root =>
    obtain ⟨fs'', l, hwrite, -, hset⟩ := setText_written hread hw
    rw [hset]
    by_cases hheight : root.height ≤ Xml.maxHeight
    · simp [hheight]
    · simp [hheight, hwrite, Nat.lt_of_not_le hheight, eq_comm]

theorem setText_stores (hread : readDocument fs (Path.tidy path) = .ok root)
    (htexts : root.KeepsTexts) (hnames : root.HasSimpleNames)
    (hheight : root.height ≤ Xml.maxHeight) (hw : IsEntry w) :
    ∃ fs' root', setText fs (.text w.1) (.text w.2) path = (.ok (), fs') ∧
      readDocument fs' (Path.tidy path) = .ok root' ∧
      Xml.rows root' = Xml.put w.1 w.2 (Xml.rows root) := by
  obtain ⟨fs', l, -, hthere, hset⟩ := setText_written hread hw
  rw [if_pos hheight] at hset
  have hsound := Xml.stored_sound (readDocument_sound hread) hw.key.isLegalText hw.text.isLegalText
  have hagain := Xml.read_rewritten hsound (Xml.stored_keepsTexts htexts w.1 hw.text)
    ((Xml.stored_hasSimpleNames w.1 w.2 root).mpr hnames)
    ((Xml.stored_height w.1 w.2 root).mpr hheight)
  refine ⟨fs', _, hset, (readDocument_iff hthere _).mpr hagain, ?_⟩
  rw [← Xml.rows_stored]
  exact Xml.rowsFrom_relabelled _ 0 "" _

theorem setText_spoils (hread : readDocument fs (Path.tidy path) = .ok root)
    (htexts : root.KeepsTexts) (hnames : ¬root.HasSimpleNames)
    (hheight : root.height ≤ Xml.maxHeight) (hw : IsEntry w) :
    ∃ fs', setText fs (.text w.1) (.text w.2) path = (.ok (), fs') ∧
      ∀ root', readDocument fs' (Path.tidy path) ≠ .ok root' := by
  obtain ⟨fs', l, -, hthere, hset⟩ := setText_written hread hw
  rw [if_pos hheight] at hset
  have hsound := Xml.stored_sound (readDocument_sound hread) hw.key.isLegalText hw.text.isLegalText
  have hfails := Xml.read_unreadable hsound (Xml.stored_keepsTexts htexts w.1 hw.text)
    (mt (Xml.stored_hasSimpleNames w.1 w.2 root).mp hnames)
    ((Xml.stored_height w.1 w.2 root).mpr hheight)
  refine ⟨fs', hset, fun root' hagain => ?_⟩
  exact hfails root' ((readDocument_iff hthere root').mp hagain)

end Storing

/-! Many texts. -/

def andThen (called : Changed Unit) (next : FileSystem → Changed Unit) : Changed Unit :=
  match called with
  | (.ok (), fs) => next fs
  | (.error e, fs) => (.error e, fs)

def setTexts (fs : FileSystem) (path : String) : List (String × String) → Changed Unit
  | [] => (.ok (), fs)
  | w :: rest =>
    andThen (setText fs (.text w.1) (.text w.2) path) fun fs => setTexts fs path rest

section Runs

variable {fs : FileSystem} {path : String} {root : Xml.Element} {writes : List (String × String)}

variable {fs' : FileSystem}

theorem setTexts_of_ok {w : String × String}
    (h : setText fs (.text w.1) (.text w.2) path = (.ok (), fs')) :
    setTexts fs path (w :: writes) = setTexts fs' path writes := by
  rw [setTexts, h, andThen]

theorem setTexts_of_error {w : String × String} {e : Failure}
    (h : setText fs (.text w.1) (.text w.2) path = (.error e, fs')) :
    setTexts fs path (w :: writes) = (.error e, fs') := by
  rw [setTexts, h, andThen]

theorem setTexts_stores (hread : readDocument fs (Path.tidy path) = .ok root)
    (htexts : root.KeepsTexts) (hnames : root.HasSimpleNames)
    (hheight : root.height ≤ Xml.maxHeight) (hwrites : ∀ w ∈ writes, IsEntry w) :
    ∃ fs' root', setTexts fs path writes = (.ok (), fs') ∧
      readDocument fs' (Path.tidy path) = .ok root' ∧
      Xml.rows root' = Xml.putAll writes (Xml.rows root) := by
  induction writes generalizing fs root with
  | nil => exact ⟨fs, root, rfl, hread, rfl⟩
  | cons w writes ih =>
    obtain ⟨hw, hrest⟩ := List.forall_mem_cons.mp hwrites
    obtain ⟨fs', root', hset, hread', hrows⟩ := setText_stores hread htexts hnames hheight hw
    have hstored := hrows.trans (Xml.rows_stored w.1 w.2 root).symm
    have htexts' := Xml.keepsTexts_of_rows hstored (Xml.stored_keepsTexts htexts w.1 hw.text)
    have hnames' := Xml.hasSimpleNames_of_rows hstored
      ((Xml.stored_hasSimpleNames w.1 w.2 root).mpr hnames)
    have hheight' := Xml.height_of_rows hstored ((Xml.stored_height w.1 w.2 root).mpr hheight)
    obtain ⟨fs'', root'', hrun, hread'', hrows''⟩ := ih hread' htexts' hnames' hheight' hrest
    refine ⟨fs'', root'', (setTexts_of_ok hset).trans hrun, hread'', ?_⟩
    rw [hrows'', hrows]
    rfl

theorem setTexts_unread (hread : ∀ root, readDocument fs (Path.tidy path) ≠ .ok root)
    (hwrites : ∀ w ∈ writes, IsEntry w)
    (h : setTexts fs path writes = (.ok (), fs')) : fs' = fs := by
  cases writes with
  | nil => exact (Prod.mk.inj h).2.symm
  | cons w writes =>
    cases hfound : readDocument fs (Path.tidy path) with
    | ok root => exact absurd hfound (hread root)
    | error e =>
      have hfails := (setText_error_iff (hwrites w (by simp)) e fs).mpr (.inl ⟨hfound, rfl⟩)
      rw [setTexts_of_error hfails] at h
      cases (Prod.mk.inj h).1

/-- Texts can be stored in a document, one after the other, if all of its names are of the first 128
characters and it is not nested too deep. Other names make it unreadable with the first text. A call
fails if the document cannot be read, and then nothing changes, or if it is nested too deep, and then
its file holds what could be written of it. -/
theorem setTexts_stores_iff (hread : readDocument fs (Path.tidy path) = .ok root)
    (htexts : root.KeepsTexts) (hwrites : ∀ w ∈ writes, IsEntry w) :
    ((∃ fs' root', setTexts fs path writes = (.ok (), fs') ∧
        readDocument fs' (Path.tidy path) = .ok root' ∧
        Xml.Stores writes (Xml.rows root) (Xml.rows root')) ↔
      writes = [] ∨ root.HasSimpleNames ∧ root.height ≤ Xml.maxHeight) ∧
    ∀ (fs : FileSystem) (path : String) (w : String × String), IsEntry w →
      ∀ (e : Failure) (fs' : FileSystem), setText fs (.text w.1) (.text w.2) path = (.error e, fs') ↔
        readDocument fs (Path.tidy path) = .error e ∧ fs' = fs ∨
        ∃ root, readDocument fs (Path.tidy path) = .ok root ∧ Xml.maxHeight < root.height ∧
          e = .tooDeep ∧
          fs.writeText (Path.tidy path) false (Xml.documentText (Xml.stored w.1 w.2 root)).1 =
            .ok fs' := by
  refine ⟨⟨?_, ?_⟩, fun fs path w hw e fs' => setText_error_iff hw e fs'⟩
  · rintro ⟨fs', root', hrun, hread', -⟩
    cases writes with
    | nil => exact .inl rfl
    | cons w writes =>
      obtain ⟨hw, hrest⟩ := List.forall_mem_cons.mp hwrites
      have hheight : root.height ≤ Xml.maxHeight := by
        by_contra hdeep
        obtain ⟨fs₁, l, -, -, hset⟩ := setText_written hread hw
        rw [if_neg hdeep] at hset
        rw [setTexts_of_error hset] at hrun
        cases (Prod.mk.inj hrun).1
      refine .inr ⟨?_, hheight⟩
      by_contra hnames
      obtain ⟨fs₁, hset, hunread⟩ := setText_spoils hread htexts hnames hheight hw
      rw [setTexts_of_ok hset] at hrun
      rw [setTexts_unread hunread hrest hrun] at hread'
      exact hunread root' hread'
  · rintro (rfl | ⟨hnames, hheight⟩)
    · exact ⟨fs, root, rfl, hread, Xml.stores_putAll [] _⟩
    · obtain ⟨fs', root', hrun, hread', hrows⟩ := setTexts_stores hread htexts hnames hheight hwrites
      refine ⟨fs', root', hrun, hread', ?_⟩
      rw [hrows]
      exact Xml.stores_putAll writes _

end Runs

/-! Two documents. -/

def readsRows (text : String) (rows : List Xml.Row) : Bool :=
  match Xml.read .tree text.toUTF8 with
  | .ok root => Xml.rows root == rows
  | .error _ => false

theorem exists_of_readsRows {text : String} {rows : List Xml.Row} (h : readsRows text rows = true) :
    ∃ root, readDocument (.oneManifest text) (Path.tidy "m.xml") = .ok root ∧ Xml.rows root = rows := by
  have hpath : Path.tidy "m.xml" = "m.xml" := rfl
  obtain ⟨l, hleads⟩ := FileSystem.leads_of_readBytes (FileSystem.readBytes_oneManifest text)
  unfold readsRows at h
  split at h
  · rename_i root hroot
    rw [hpath]
    exact ⟨root, (readDocument_iff hleads root).mpr hroot, by simpa using h⟩
  · cases h

theorem keepsTexts_of_isSimpleText {rows : List Xml.Row} (hrows : Xml.rows root = rows)
    (h : ∀ row ∈ rows, Xml.isSimpleText row.text = true ∧ Xml.isSimpleText row.tail = true) :
    root.KeepsTexts := by
  refine ((Xml.keepsTexts_iff 0 "" root).mp ?_).2
  rw [← Xml.rows, hrows]
  intro row hrow
  obtain ⟨htext, htail⟩ := h row hrow
  exact ⟨Xml.isText_of_isSimpleText htext, Xml.isText_of_isSimpleText htail⟩

theorem height_of_rowDepths {rows : List Xml.Row} (hrows : Xml.rows root = rows)
    (h : ∀ row ∈ rows, row.depth < Xml.maxHeight) : root.height ≤ Xml.maxHeight := by
  refine (Xml.height_le_iff 0 "" Xml.maxHeight root).mp ?_
  rw [← Xml.rows, hrows, Nat.zero_add]
  exact h

theorem isEntry_of_isSimpleText {w : String × String}
    (h : Xml.isSimpleText w.1 = true ∧ '\'' ∉ w.1.toList ∧ Xml.isSimpleText w.2 = true) : IsEntry w :=
  ⟨Xml.isText_of_isSimpleText h.1, h.2.1, Xml.isText_of_isSimpleText h.2.2⟩

/-- Two texts of the same name, one of them inside of another element. -/
def shelfText : String :=
  "<r xmlns:a='u' a:x='1'><g>t<string name='k'>1</string></g><string name='k'>2</string></r>"

def shelfRows : List Xml.Row :=
  [⟨0, ("", "r"), [(("u", "x"), "1")], "", ""⟩, ⟨1, ("", "g"), [], "t", ""⟩,
    ⟨2, ("", "string"), [(("", "name"), "k")], "1", ""⟩,
    ⟨1, ("", "string"), [(("", "name"), "k")], "2", ""⟩]

theorem readsRows_shelfText : readsRows shelfText shelfRows = true := by decide +kernel

def accentText : String := "<é/>"

theorem readsRows_accentText : readsRows accentText [⟨0, ("", "é"), [], "", ""⟩] = true := by
  decide +kernel

theorem setTexts_stores_iff_shelf :
    ∃ root, readDocument (.oneManifest shelfText) (Path.tidy "m.xml") = .ok root ∧
      root.KeepsTexts ∧ Xml.rows root = shelfRows ∧
      ∃ fs' root', setTexts (.oneManifest shelfText) "m.xml" [("k", "v"), ("n", "w"), ("k", "z")] =
          (.ok (), fs') ∧
        readDocument fs' (Path.tidy "m.xml") = .ok root' ∧
        Xml.lookup (Xml.rows root') "k" = some "z" ∧ Xml.lookup (Xml.rows root') "n" = some "w" ∧
        Xml.strings (Xml.rows root') = 3 ∧ (Xml.rows root').map (·.text) = ["", "t", "z", "2", "w"] := by
  obtain ⟨root, hread, hrows⟩ := exists_of_readsRows readsRows_shelfText
  have htexts : root.KeepsTexts := keepsTexts_of_isSimpleText hrows (by decide)
  have hnames : root.HasSimpleNames := by
    rw [← Xml.hasSimpleNames_iff 0 "" root, ← Xml.rows, hrows]
    decide
  have hsimple : ∀ w ∈ [("k", "v"), ("n", "w"), ("k", "z")], Xml.isSimpleText w.1 = true ∧
      '\'' ∉ w.1.toList ∧ Xml.isSimpleText w.2 = true := by decide
  have hwrites : ∀ w ∈ [("k", "v"), ("n", "w"), ("k", "z")], IsEntry w := fun w hw =>
    isEntry_of_isSimpleText (hsimple w hw)
  obtain ⟨fs', root', hrun, hread', hstores⟩ :=
    (setTexts_stores_iff hread htexts hwrites).1.mpr
      (.inr ⟨hnames, height_of_rowDepths hrows (by decide)⟩)
  refine ⟨root, hread, htexts, hrows, fs', root', hrun, hread', ?_, ?_, ?_, ?_⟩
  · rw [hstores.lookup_eq]
    rfl
  · rw [hstores.lookup_eq]
    rfl
  · rw [hstores.strings_eq, hrows]
    decide
  · rw [hstores.rows_eq, hrows]
    decide

/-- A text is stored in a document, and then nothing can be read from it. -/
theorem text_stored_unreadably :
    ∃ root, readDocument (.oneManifest accentText) (Path.tidy "m.xml") = .ok root ∧
      root.KeepsTexts ∧ IsEntry ("k", "v") ∧
      ∃ fs', setText (.oneManifest accentText) (.text "k") (.text "v") "m.xml" = (.ok (), fs') ∧
        ∀ root', readDocument fs' (Path.tidy "m.xml") ≠ .ok root' := by
  obtain ⟨root, hread, hrows⟩ := exists_of_readsRows readsRows_accentText
  have htexts : root.KeepsTexts := keepsTexts_of_isSimpleText hrows (by decide)
  have hnames : ¬root.HasSimpleNames := by
    rw [← Xml.hasSimpleNames_iff 0 "" root, ← Xml.rows, hrows]
    decide
  have hentry : IsEntry ("k", "v") := isEntry_of_isSimpleText (by decide)
  obtain ⟨fs', hset, hunread⟩ := setText_spoils hread htexts hnames
    (height_of_rowDepths hrows (by decide)) hentry
  exact ⟨root, hread, htexts, hentry, fs', hset, hunread⟩

end DroidAudit.Resources
