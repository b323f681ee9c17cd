import DroidAudit.Proofs.FileGrowth
import DroidAudit.Proofs.PlainPath
import DroidAudit.Report.Basic

/-! What a history of reports leaves in the files. All who ask for a report get the same one, so each
page is that of the report set last, whoever asks for it; and a file holds the pages since the last
one that emptied it. -/
namespace DroidAudit

open FileSystem

/-! Pages in files. -/

structure PageWrite where
  file : String
  keep : Bool
  text : String
  deriving DecidableEq

namespace PageWrite

def onto (w : PageWrite) (old : Option ByteArray) : ByteArray :=
  (if w.keep then old.getD .empty else .empty) ++ Text.encoded w.text

structure Puts (w : PageWrite) (fs fs' : FileSystem) (l : Location) : Prop where
  grows : Grows fs fs'
  leads : fs'.locate true w.file = .ok l
  content : fs'.contentAt l = some (w.onto (fs.contentAt l))
  others : ∀ l', l' ≠ l → fs'.contentAt l' = fs.contentAt l'

inductive AllPut : FileSystem → List PageWrite → FileSystem → Prop
  | nil {fs : FileSystem} : AllPut fs [] fs
  | cons {fs fs' fs'' : FileSystem} {w : PageWrite} {ws : List PageWrite} {l : Location} :
      w.Puts fs fs' l → AllPut fs' ws fs'' → AllPut fs (w :: ws) fs''

def goesTo (fs : FileSystem) (l : Location) (w : PageWrite) : Bool :=
  (fs.locate true w.file).toOption == some l

def joined : List PageWrite → ByteArray
  | [] => .empty
  | w :: ws => Text.encoded w.text ++ joined ws

/-- The content of a file after pages: those from the last one that emptied it, or all of them behind
the first content if none did. -/
structure IsContent (first : ByteArray) (ws : List PageWrite) (bytes : ByteArray) : Prop where
  kept : (∀ w ∈ ws, w.keep = true) → bytes = first ++ joined ws
  emptied : ∀ before w after, ws = before ++ w :: after → w.keep = false →
    (∀ v ∈ after, v.keep = true) → bytes = joined (w :: after)

variable {fs fs' : FileSystem} {l : Location} {w : PageWrite} {ws : List PageWrite}

theorem goesTo_iff : w.goesTo fs l = true ↔ fs.locate true w.file = .ok l := by
  unfold goesTo
  cases fs.locate true w.file with
  | error c => simp [Except.toOption]
  | ok l' => simp [Except.toOption]

def contentAfter (old : Option ByteArray) (ws : List PageWrite) : Option ByteArray :=
  ws.foldl (fun content w => some (w.onto content)) old

theorem contentAfter_of_keep (h : ∀ w ∈ ws, w.keep = true) (old : Option ByteArray) :
    (contentAfter old ws).getD .empty = old.getD .empty ++ joined ws := by
  induction ws generalizing old with
  | nil => simp [contentAfter, joined]
  | cons w ws ih =>
    have hw : w.onto old = old.getD .empty ++ Text.encoded w.text := by
      rw [onto, h w (List.mem_cons_self ..), if_pos rfl]
    have hrest := ih (fun v hv => h v (List.mem_cons_of_mem w hv)) (some (w.onto old))
    rw [contentAfter, List.foldl_cons, ← contentAfter, hrest, Option.getD_some, hw, joined,
      ByteArray.append_assoc]

theorem contentAfter_some (h : ws ≠ []) (old : Option ByteArray) :
    ∃ bytes, contentAfter old ws = some bytes := by
  rcases List.eq_nil_or_concat ws with rfl | ⟨front, last, rfl⟩
  · exact absurd rfl h
  · rw [contentAfter, List.concat_eq_append, List.foldl_append]
    exact ⟨_, rfl⟩

theorem isContent_contentAfter (old : Option ByteArray) (ws : List PageWrite) :
    IsContent (old.getD .empty) ws ((contentAfter old ws).getD .empty) where
  kept := fun h => contentAfter_of_keep h old
  emptied := by
    rintro before w after rfl hw hafter
    have honto : w.onto (contentAfter old before) = Text.encoded w.text := by
      rw [onto, hw, if_neg Bool.false_ne_true, ByteArray.empty_append]
    have hrest := contentAfter_of_keep hafter (some (w.onto (contentAfter old before)))
    rw [contentAfter, List.foldl_append, List.foldl_cons, ← contentAfter, ← contentAfter, hrest,
      Option.getD_some, honto, joined]

theorem AllPut.append {fs'' : FileSystem} {ws' : List PageWrite} (h : AllPut fs ws fs')
    (h' : AllPut fs' ws' fs'') : AllPut fs (ws ++ ws') fs'' := by
  induction h with
  | nil => exact h'
  | cons hput _ ih => exact .cons hput (ih h')

theorem AllPut.grows (h : AllPut fs ws fs') : Grows fs fs' := by
  induction h with
  | nil => exact .refl _
  | cons hput _ ih => exact hput.grows.trans ih

theorem Puts.leads_later {fs'' : FileSystem}
    (h : w.Puts fs fs' l) (hlater : Grows fs' fs'') : fs''.locate true w.file = .ok l :=
  hlater.locate_file h.leads h.content

theorem AllPut.leads (h : AllPut fs ws fs')
    (hw : w ∈ ws) : ∃ l, fs'.locate true w.file = .ok l := by
  induction h with
  | nil => cases hw
  | cons hput hrest ih =>
    rcases List.mem_cons.mp hw with rfl | hw
    · exact ⟨_, hput.leads_later hrest.grows⟩
    · exact ih hw

theorem AllPut.content (h : AllPut fs ws fs') (l : Location) :
    fs'.contentAt l = contentAfter (fs.contentAt l) (ws.filter (goesTo fs' l)) := by
  induction h with
  | nil => rfl
  | @cons fs fs₁ fs' w ws l₁ hput hrest ih =>
    have hleads : fs'.locate true w.file = .ok l₁ := hput.leads_later hrest.grows
    by_cases hl : l = l₁
    · subst hl
      have hgoes : w.goesTo fs' l = true := goesTo_iff.mpr hleads
      rw [List.filter_cons_of_pos hgoes, ih, hput.content]
      rfl
    · have hgoes : ¬w.goesTo fs' l = true := by
        rw [goesTo_iff, hleads]
        exact fun heq => hl (Except.ok.inj heq).symm
      rw [List.filter_cons_of_neg hgoes, ih, hput.others l hl]

theorem AllPut.isContent (h : AllPut fs ws fs') (hw : w ∈ ws) :
    ∃ l bytes, fs'.locate true w.file = .ok l ∧ fs'.readBytes w.file = .ok bytes ∧
      IsContent ((fs.contentAt l).getD .empty) (ws.filter (goesTo fs' l)) bytes := by
  obtain ⟨l, hl⟩ := h.leads hw
  have hmem : w ∈ ws.filter (goesTo fs' l) := List.mem_filter.mpr ⟨hw, goesTo_iff.mpr hl⟩
  obtain ⟨bytes, hbytes⟩ := contentAfter_some (List.ne_nil_of_mem hmem) (fs.contentAt l)
  have hcontent := isContent_contentAfter (fs.contentAt l) (ws.filter (goesTo fs' l))
  rw [hbytes, Option.getD_some] at hcontent
  exact ⟨l, bytes, hl, readBytes_of_content hl ((h.content l).trans hbytes), hcontent⟩

theorem AllPut.content_of_apart (h : AllPut fs ws fs')
    (hl : ∀ w ∈ ws, fs'.locate true w.file ≠ .ok l) :
    fs'.contentAt l = fs.contentAt l := by
  have hnone : ws.filter (goesTo fs' l) = [] :=
    List.filter_eq_nil_iff.mpr fun w hw hgoes => hl w hw (goesTo_iff.mp hgoes)
  rw [h.content l, hnone]
  rfl

end PageWrite

namespace Report

def pageWrite? (r : Report) (kind : String) (layout : Option Layout) : Option PageWrite :=
  (r.render? kind layout).map fun text => ⟨r.file kind, r.keep, text⟩

theorem page_newline {k : PageKind} {findings : List Finding} {text : String}
    (h : k.render? findings = some text) : ∃ page, text = page ++ "\n" := by
  cases k with
  | html =>
    rw [← Option.some.inj h]
    have htail : "\n</body>\n</html>\n" = "\n</body>\n</html>" ++ "\n" := rfl
    unfold Page.page
    dsimp only
    rw [htail, ← String.append_assoc]
    exact ⟨_, rfl⟩
  | xml =>
    rw [← Option.some.inj h]
    have htail : "\n</issues>\n" = "\n</issues>" ++ "\n" := rfl
    unfold Page.tree
    dsimp only
    rw [htail, ← String.append_assoc]
    exact ⟨_, rfl⟩
  | json =>
    obtain ⟨page, -, rfl⟩ := Option.map_eq_some_iff.mp h
    exact ⟨page, rfl⟩
  | csv =>
    rw [← Option.some.inj h]
    exact ⟨_, rfl⟩

variable {kind : String} {layout : Option Layout} {r : Report} {text : String}

theorem render?_eq_some_iff : r.render? kind layout = some text ↔ r.render kind layout = .ok text :=
  toOption_eq_some_iff

theorem renderKind_newline (h : r.renderKind kind = .ok text) : ∃ page, text = page ++ "\n" := by
  unfold renderKind at h
  split at h
  · cases h
  · split at h
    · cases h
    · rename_i hpage
      cases h
      exact page_newline hpage

theorem render?_newline (h : r.render? kind layout = some text) : ∃ page, text = page ++ "\n" := by
  rw [render?_eq_some_iff] at h
  unfold render at h
  split at h
  · exact renderKind_newline h
  · split at h
    · exact renderKind_newline h
    · split at h
      · cases h
      · cases h
        exact ⟨_, rfl⟩

theorem encoded_nothing : Text.encoded "" = .empty := Text.encoded_of_isPlain (by decide)

theorem generate_ok {fs fs' : FileSystem} {file : String}
    (h : r.generate fs kind layout = (.ok file, fs')) :
    file = r.file kind ∧ ∃ w l, r.pageWrite? kind layout = some w ∧ w.Puts fs fs' l := by
  unfold generate at h
  have hway := makeWay_keeps fs r.path
  generalize fs.makeWay r.path = way at h hway
  obtain ⟨made, fs₁⟩ := way
  cases made with
  | error e => cases h
  | ok _ =>
    dsimp only at h hway
    cases hopen : fs₁.writeText (r.file kind) r.keep "" with
    | error f => simp [hopen] at h
    | ok fs₂ =>
      cases htext : r.render kind layout with
      | error f => simp [hopen, htext] at h
      | ok text =>
        simp only [hopen, htext] at h
        split at h
        · cases h
        cases hwrite : fs₂.writeText (r.file kind) true text with
        | error f => simp [hwrite] at h
        | ok fs₃ =>
          simp only [hwrite, Prod.mk.injEq, Except.ok.injEq] at h
          obtain ⟨rfl, rfl⟩ := h
          obtain ⟨l, hl, hgrows, hempty, hothers⟩ := writeBytes_ok hopen
          obtain ⟨l', hl', hgrows', hfull, hothers'⟩ := writeBytes_ok hwrite
          -- the file that was opened is the one that is written
          have hsame : l' = l := by
            have hkind := kind_of_contentAt hempty
            rcases hgrows.locate hl hkind with hstill | ⟨-, c, hlost⟩
            · exact Except.ok.inj (hl'.symm.trans hstill)
            · rw [hlost] at hl'
              cases hl'
          subst hsame
          have hpage := render?_eq_some_iff.mpr htext
          refine ⟨rfl, ⟨r.file kind, r.keep, text⟩, l', by rw [pageWrite?, hpage]; rfl, ?_⟩
          refine ⟨hway.grows.trans (hgrows.trans hgrows'), hgrows'.locate_file hl' hempty, ?_, ?_⟩
          · rw [hfull, if_pos rfl, hempty, Option.getD_some, encoded_nothing, ByteArray.append_empty,
              hway.contents, PageWrite.onto]
          · intro l hne
            rw [hothers' l hne, hothers l hne, hway.contents]

theorem puts_of_generate {fs fs' : FileSystem} {file : String}
    (h : r.generate fs kind layout = (.ok file, fs')) (htext : r.render? kind layout = some text) :
    ∃ l, PageWrite.Puts ⟨file, r.keep, text⟩ fs fs' l := by
  obtain ⟨rfl, w, l, hw, hput⟩ := generate_ok h
  rw [pageWrite?, htext] at hw
  cases hw
  exact ⟨l, hput⟩

theorem generate_of_way {fs fs₁ : FileSystem}
    (hway : fs.makeWay r.path = (.ok (), fs₁)) (hfile : fs₁.Writable (r.file kind))
    (htext : r.render? kind layout = some text) (hfault : Text.encodeFault? text = none) :
    ∃ fs', r.generate fs kind layout = (.ok (r.file kind), fs') ∧ Grows fs₁ fs' := by
  obtain ⟨fs₂, l, old, hopen, hl, hold⟩ := hfile.writeBytes r.keep (Text.encoded "")
  obtain ⟨fs', hwrite⟩ := writeBytes_of_content hl hold true (Text.encoded text)
  obtain ⟨-, -, hopened, -⟩ := writeBytes_ok hopen
  obtain ⟨-, -, hwritten, -⟩ := writeBytes_ok hwrite
  rw [render?_eq_some_iff] at htext
  exact ⟨fs', by simp only [generate, hway, writeText, hopen, htext, hfault, hwrite],
    hopened.trans hwritten⟩

end Report

namespace ReportDesk

/-! Histories. -/

inductive Event
  | start (r : Report)
  | generate (handle : Nat) (kind : String) (layout : Option Layout)

/-- What one event does; a report has to be made without failure. -/
def step? (d : ReportDesk) : Event → Option ReportDesk
  | .start r => some (d.start r).2
  | .generate handle kind layout =>
    match d.generate handle kind layout with
    | (.ok _, d) => some d
    | (.error _, _) => none

def run? : ReportDesk → List Event → Option ReportDesk
  | d, [] => some d
  | d, e :: rest => (d.step? e).bind fun d => run? d rest

def handles : ReportDesk → List Event → List Nat
  | _, [] => []
  | d, .start r :: rest => (d.start r).1 :: handles (d.start r).2 rest
  | d, .generate handle kind layout :: rest => handles (d.generate handle kind layout).2 rest

def Event.latest (current : Option Report) : Event → Option Report
  | .start r => some r
  | .generate .. => current

/-- The page of an event, which is that of the report set last. No handle counts. -/
def Event.pageWrite? (current : Option Report) : Event → Option PageWrite
  | .start _ => none
  | .generate _ kind layout => current.bind (·.pageWrite? kind layout)

def lastSet (current : Option Report) (events : List Event) : Option Report :=
  events.foldl Event.latest current

def pageWrites : Option Report → List Event → List PageWrite
  | _, [] => []
  | current, e :: rest => (e.pageWrite? current).toList ++ pageWrites (e.latest current) rest

structure Holds (current : Option Report) (d : ReportDesk) : Prop where
  made : d.made = current.toList
  sole : d.sole = current.map fun _ => 0

theorem Holds.fresh (fs : FileSystem) : Holds none { fs := fs } := ⟨rfl, rfl⟩

variable {current : Option Report} {d d' : ReportDesk} {r : Report} {handle : Nat} {kind : String}
  {layout : Option Layout} {events : List Event}

theorem Holds.start (h : Holds current d) (r : Report) :
    (d.start r).1 = 0 ∧ Holds (some r) (d.start r).2 ∧ (d.start r).2.fs = d.fs := by
  obtain ⟨fs, made, sole⟩ := d
  obtain ⟨rfl, rfl⟩ := h
  cases current with
  | none => exact ⟨rfl, ⟨rfl, rfl⟩, rfl⟩
  | some old => exact ⟨rfl, ⟨rfl, rfl⟩, rfl⟩

theorem Holds.generate_eq (h : Holds (some r) d) (kind : String) (layout : Option Layout) :
    d.generate 0 kind layout =
      ((r.generate d.fs kind layout).1, { d with fs := (r.generate d.fs kind layout).2 }) := by
  rw [ReportDesk.generate, h.made, Option.toList_some, List.getElem?_cons_zero]

theorem Holds.generate (h : Holds current d)
    (handle : Nat) (kind : String) (layout : Option Layout) :
    Holds current (d.generate handle kind layout).2 := by
  unfold ReportDesk.generate
  split
  · exact h
  · exact ⟨h.made, h.sole⟩

theorem Holds.of_generate (h : Holds current d) {file : String}
    (hok : d.generate handle kind layout = (.ok file, d')) :
    handle = 0 ∧ ∃ r, current = some r ∧ r.generate d.fs kind layout = (.ok file, d'.fs) := by
  rw [ReportDesk.generate, h.made] at hok
  cases current with
  | none => simp at hok
  | some r =>
    cases handle with
    | succ n => simp at hok
    | zero =>
      simp only [Option.toList_some, List.getElem?_cons_zero, Prod.mk.injEq] at hok
      refine ⟨rfl, r, rfl, ?_⟩
      obtain ⟨hresult, rfl⟩ := hok
      rw [← hresult]

theorem of_step?_generate (h : d.step? (.generate handle kind layout) = some d') :
    ∃ file, d.generate handle kind layout = (.ok file, d') := by
  unfold step? at h
  dsimp only at h
  split at h
  · rename_i file d₁ hok
    cases h
    exact ⟨file, hok⟩
  · cases h

theorem Holds.step (h : Holds current d) {e : Event} (hstep : d.step? e = some d') :
    Holds (e.latest current) d' ∧ PageWrite.AllPut d.fs (e.pageWrite? current).toList d'.fs := by
  cases e with
  | start r =>
    cases hstep
    obtain ⟨-, hholds, hfs⟩ := h.start r
    rw [hfs]
    exact ⟨hholds, .nil⟩
  | generate handle kind layout =>
    obtain ⟨file, hok⟩ := of_step?_generate hstep
    obtain ⟨-, r, rfl, hmade⟩ := h.of_generate hok
    obtain ⟨-, w, l, hw, hput⟩ := Report.generate_ok hmade
    have hholds := h.generate handle kind layout
    rw [hok] at hholds
    refine ⟨hholds, ?_⟩
    rw [Event.pageWrite?, Option.bind_some, hw]
    exact .cons hput .nil

theorem Holds.run (h : Holds current d) (hrun : run? d events = some d') :
    Holds (lastSet current events) d' ∧ PageWrite.AllPut d.fs (pageWrites current events) d'.fs := by
  induction events generalizing current d with
  | nil =>
    cases hrun
    exact ⟨h, .nil⟩
  | cons e rest ih =>
    obtain ⟨d₁, hstep, hrest⟩ := Option.bind_eq_some_iff.mp hrun
    obtain ⟨hholds, hput⟩ := h.step hstep
    obtain ⟨hlast, hputs⟩ := ih hholds hrest
    exact ⟨hlast, hput.append hputs⟩

theorem run?_append (d : ReportDesk) (before after : List Event) :
    run? d (before ++ after) = (run? d before).bind fun d => run? d after := by
  induction before generalizing d with
  | nil => rfl
  | cons e rest ih =>
    rw [List.cons_append, run?, run?, Option.bind_assoc]
    congr
    funext d
    exact ih d

theorem Holds.handle_eq_zero (h : Holds current d)
    (hmem : handle ∈ handles d events) : handle = 0 := by
  induction events generalizing current d with
  | nil => cases hmem
  | cons e rest ih =>
    cases e with
    | start r =>
      obtain ⟨hzero, hholds, -⟩ := h.start r
      rcases List.mem_cons.mp hmem with rfl | hmem
      · exact hzero
      · exact ih hholds hmem
    | generate _ kind layout => exact ih (h.generate _ kind layout) hmem

theorem Holds.zero_mem_handles (h : Holds current d) (hlast : lastSet current events = some r) :
    current = some r ∨ 0 ∈ handles d events := by
  induction events generalizing current d with
  | nil => exact .inl hlast
  | cons e rest ih =>
    cases e with
    | start r =>
      right
      rw [handles, (h.start r).1]
      exact List.mem_cons_self ..
    | generate handle kind layout => exact ih (h.generate handle kind layout) hlast

/-- Each report that is made is that of the report set last, whichever handle is used, and in the end
a file holds the pages that went to it from the last one on that was not to be kept. -/
theorem contents_of_run {fs : FileSystem} {events : List Event} {d : ReportDesk}
    (h : run? { fs := fs } events = some d) :
    (∀ before handle kind layout after,
      events = before ++ .generate handle kind layout :: after →
        handle ∈ handles { fs := fs } before ∧
        ∃ d₁ r page, run? { fs := fs } before = some d₁ ∧ lastSet none before = some r ∧
          r.render? kind layout = some (page ++ "\n") ∧
          ∀ given ∈ handles { fs := fs } before, ∃ fs₂ l,
            d₁.generate given kind layout = (.ok (r.file kind), { d₁ with fs := fs₂ }) ∧
            PageWrite.Puts ⟨r.file kind, r.keep, page ++ "\n"⟩ d₁.fs fs₂ l) ∧
    (∀ w ∈ pageWrites none events, ∃ l bytes,
      d.fs.locate true w.file = .ok l ∧ d.fs.readBytes w.file = .ok bytes ∧
      PageWrite.IsContent ((fs.contentAt l).getD .empty)
        ((pageWrites none events).filter (PageWrite.goesTo d.fs l)) bytes) ∧
    ∀ l, (∀ w ∈ pageWrites none events, d.fs.locate true w.file ≠ .ok l) →
      d.fs.contentAt l = fs.contentAt l := by
  have hputs := ((Holds.fresh fs).run h).2
  refine ⟨?_, fun w hw => hputs.isContent hw, fun l hl => hputs.content_of_apart hl⟩
  rintro before handle kind layout after rfl
  rw [run?_append] at h
  obtain ⟨d₁, hbefore, hafter⟩ := Option.bind_eq_some_iff.mp h
  obtain ⟨d₂, hstep, -⟩ := Option.bind_eq_some_iff.mp hafter
  obtain ⟨file, hok⟩ := of_step?_generate hstep
  have hholds := ((Holds.fresh fs).run hbefore).1
  obtain ⟨rfl, r, hr, hmade⟩ := hholds.of_generate hok
  rw [hr] at hholds
  obtain ⟨rfl, w, l, hw, hput⟩ := Report.generate_ok hmade
  obtain ⟨text, htext, rfl⟩ := Option.map_eq_some_iff.mp hw
  obtain ⟨page, rfl⟩ := Report.render?_newline htext
  have hmem : 0 ∈ handles { fs := fs } before := by
    rcases (Holds.fresh fs).zero_mem_handles hr with hnone | hmem
    · cases hnone
    · exact hmem
  refine ⟨hmem, d₁, r, page, hbefore, hr, htext, ?_⟩
  intro given hgiven
  rw [(Holds.fresh fs).handle_eq_zero hgiven, hholds.generate_eq, hmade]
  exact ⟨d₂.fs, l, rfl, hput⟩

theorem Holds.generates (h : Holds (some r) d) {text : String}
    {old : ByteArray} (hway : (Path.directory r.path).isEmpty = true)
    (hfile : d.fs.readBytes (r.file kind) = .ok old) (htext : r.render? kind layout = some text)
    (hfault : Text.encodeFault? text = none) :
    ∃ d' new, d.step? (.generate 0 kind layout) = some d' ∧ Holds (some r) d' ∧
      d'.fs.readBytes (r.file kind) = .ok new := by
  obtain ⟨fs', hmade, -⟩ := Report.generate_of_way
    (makeWay_of_above (.inl (String.isEmpty_iff.mp hway))) (.inr ⟨old, hfile⟩) htext hfault
  have hstep : d.step? (.generate 0 kind layout) = some { d with fs := fs' } := by
    simp only [step?, h.generate_eq, hmade]
  obtain ⟨-, w, l, hw, hput⟩ := Report.generate_ok hmade
  obtain ⟨page, -, rfl⟩ := Option.map_eq_some_iff.mp hw
  exact ⟨_, _, hstep, (h.step hstep).1, readBytes_of_content hput.leads hput.content⟩

def countFiles : FileSystem where
  root := .directory [("out", .directory [("report.csv", .file "old\n".toUTF8 false)])]
  working := []

def countReport (n : Nat) (keep : Bool) : Report := ⟨List.replicate n default, "out", keep⟩

def countLayout : Layout := .counting "\x7b\x7bissues|length\x7d\x7d"

def countRound (n : Nat) (keep : Bool) : List Event :=
  [.start (countReport n keep), .generate 0 "csv" (some countLayout)]

theorem countReport_file (n : Nat) (keep : Bool) :
    (countReport n keep).file "csv" = "out/report.csv" := by
  have hjoin : Path.join "out" ("report." ++ "csv") = "out/report.csv" := rfl
  exact hjoin

theorem Holds.countRound (h : Holds current d)
    {old : ByteArray} (hold : d.fs.readBytes "out/report.csv" = .ok old) {n : Nat} {keep : Bool}
    {text : String} (htext : (countReport n keep).render? "csv" (some countLayout) = some text)
    (hfault : Text.encodeFault? text = none) :
    ∃ d' new, run? d (countRound n keep) = some d' ∧ Holds (some (countReport n keep)) d' ∧
      d'.fs.readBytes "out/report.csv" = .ok new := by
  have hway : (Path.directory "out").isEmpty = true := rfl
  obtain ⟨-, hset, hfs⟩ := h.start (countReport n keep)
  rw [← hfs, ← countReport_file n keep] at hold
  obtain ⟨d', new, hstep, hholds, hnew⟩ := hset.generates hway hold htext hfault
  rw [countReport_file] at hnew
  have hstart : d.step? (.start (countReport n keep)) = some (d.start (countReport n keep)).2 := rfl
  refine ⟨d', new, ?_, hholds, hnew⟩
  rw [ReportDesk.countRound, run?, hstart, Option.bind_some, run?, hstep, Option.bind_some, run?]

theorem contents_of_run_counts :
    ∃ d, run? { fs := countFiles } (countRound 1 true ++ (countRound 2 false ++ countRound 3 true)) =
        some d ∧
      d.fs.readBytes "out/report.csv" = .ok (Text.encoded "2\n" ++ Text.encoded "3\n") := by
  have hold : countFiles.readBytes "out/report.csv" = .ok "old\n".toUTF8 :=
    readBytes_of_plainBytes (by decide +kernel)
  obtain ⟨d₁, new₁, hrun₁, hholds₁, hnew₁⟩ := (Holds.fresh countFiles).countRound hold
    (show (countReport 1 true).render? "csv" (some countLayout) = some "1\n" by decide +kernel)
    (by decide +kernel)
  obtain ⟨d₂, new₂, hrun₂, hholds₂, hnew₂⟩ := hholds₁.countRound hnew₁
    (show (countReport 2 false).render? "csv" (some countLayout) = some "2\n" by decide +kernel)
    (by decide +kernel)
  obtain ⟨d₃, new₃, hrun₃, -, -⟩ := hholds₂.countRound hnew₂
    (show (countReport 3 true).render? "csv" (some countLayout) = some "3\n" by decide +kernel)
    (by decide +kernel)
  have hrun : run? { fs := countFiles }
      (countRound 1 true ++ (countRound 2 false ++ countRound 3 true)) = some d₃ := by
    rw [run?_append, hrun₁, Option.bind_some, run?_append, hrun₂, Option.bind_some, hrun₃]
  have hwrites : pageWrites none
      (countRound 1 true ++ (countRound 2 false ++ countRound 3 true)) =
        [⟨"out/report.csv", true, "1\n"⟩, ⟨"out/report.csv", false, "2\n"⟩,
         ⟨"out/report.csv", true, "3\n"⟩] := by decide +kernel
  obtain ⟨-, hcontents, -⟩ := contents_of_run hrun
  rw [hwrites] at hcontents
  obtain ⟨l, bytes, hl, hbytes, hcontent⟩ := hcontents _ (List.mem_cons_self ..)
  dsimp only at hl hbytes
  have hall : ∀ keep text, PageWrite.goesTo d₃.fs l ⟨"out/report.csv", keep, text⟩ = true :=
    fun keep text => PageWrite.goesTo_iff.mpr hl
  simp only [List.filter_cons_of_pos (hall _ _), List.filter_nil] at hcontent
  have hend := hcontent.emptied [_] _ [_] rfl rfl (by simp)
  refine ⟨d₃, hrun, ?_⟩
  rw [hbytes, hend]
  simp only [PageWrite.joined, ByteArray.append_empty]

end ReportDesk
end DroidAudit
