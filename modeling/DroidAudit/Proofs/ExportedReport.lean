import DroidAudit.Detector.Exported
import DroidAudit.Json.Reader
import DroidAudit.Proofs.Results
import DroidAudit.Report.Basic

/-! The report on exported components as structured data. Each finding on a component keeps the kind
of the component, whatever is added to it from the source files. A kind of component has no form as
structured data, and one part without a form takes the form of the whole document. -/
namespace DroidAudit

namespace Value

theorem entriesToJson?_of_none {entries : List (String × Value)} {key : String} {v : Value}
    (hv : (key, v) ∈ entries) (h : v.toJson? = none) : entriesToJson? entries = none := by
  induction entries with
  | nil => cases hv
  | cons e rest ih =>
    rw [entriesToJson?]
    rcases List.mem_cons.mp hv with rfl | hv
    · rw [h]
      rfl
    · rw [ih hv]
      cases toJson? e.2 <;> rfl

theorem toJson?_of_component {v : Value} {key : String} {c : Component}
    (h : v.get? key = some (.component c)) : v.toJson? = none := by
  cases v with
  | table entries =>
    obtain ⟨⟨k, v⟩, hfind, rfl⟩ := Option.map_eq_some_iff.mp h
    have hentry := entriesToJson?_of_none (List.mem_of_find?_eq_some hfind) (by rw [toJson?])
    rw [toJson?, hentry, Option.map_none]
  | _ => cases h

theorem itemsCopyDepth_le_iff {items : List Value} {n : Nat} :
    itemsCopyDepth items ≤ n ↔ ∀ v ∈ items, v.copyDepth ≤ n := by
  induction items with
  | nil => simp [itemsCopyDepth]
  | cons v items ih => rw [itemsCopyDepth, Nat.max_le, ih, List.forall_mem_cons]

theorem entriesCopyDepth_le_iff {entries : List (String × Value)} {n : Nat} :
    entriesCopyDepth entries ≤ n ↔ ∀ e ∈ entries, e.2.copyDepth ≤ n := by
  induction entries with
  | nil => simp [entriesCopyDepth]
  | cons e entries ih => rw [entriesCopyDepth, Nat.max_le, ih, List.forall_mem_cons]

end Value

namespace Finding

theorem toJson?_of_exploit {f : Finding} (h : f.exploit.toJson? = none) : f.toJson? = none := by
  simp [toJson?, h]

theorem toJson_formless {f : Finding} {n : Nat} (hroom : f.copyDepth ≤ n) (h : f.toJson? = none) :
    f.toJson n = .error .formless := by
  rw [toJson, if_neg (Nat.not_lt.mpr hroom), h]

end Finding

namespace Document

/-- Findings stand in a list, so they have one call less. -/
def room : Nat := maxCalls - 1

theorem itemsToJson_of_error {before after : List Finding} {f : Finding} {e : DataFault} {n : Nat}
    (hbefore : ∀ g ∈ before, ∃ j, g.toJson n = .ok j) (h : f.toJson n = .error e) :
    itemsToJson n ((before ++ f :: after).map .finding) = .error e := by
  induction before with
  | nil =>
    rw [List.nil_append, List.map_cons, itemsToJson, toJson, h]
    rfl
  | cons g before ih =>
    rw [List.forall_mem_cons] at hbefore
    obtain ⟨j, hj⟩ := hbefore.1
    rw [List.cons_append, List.map_cons, itemsToJson, toJson, hj, ih hbefore.2]
    rfl

/-- The first finding that has no form decides. -/
theorem findingsText?_of_error {before after : List Finding} {f : Finding} {e : DataFault}
    (hbefore : ∀ g ∈ before, ∃ j, g.toJson room = .ok j) (h : f.toJson room = .error e) :
    findingsText? (before ++ f :: after) = instead? e := by
  have hlist : toJson maxCalls (.list ((before ++ f :: after).map .finding)) = .error e := by
    rw [show maxCalls = room + 1 from rfl, toJson, itemsToJson_of_error hbefore h]
    rfl
  rw [findingsText?, text?, hlist]

end Document

namespace ExportedDetector

def Concerns (f : Finding) (c : Component) : Prop :=
  f.exploit.get? "exported_enum" = some (.component c)

theorem get?_setEntry {entries : List (String × Value)} {key other : String} (v : Value)
    (h : key ≠ other) :
    (Value.table (setEntry entries key v)).get? other = (Value.table entries).get? other := by
  have hother : (key == other) = false := by simpa using h
  simp only [Value.get?, setEntry]
  split
  · have hsame : ((fun e : String × Value => e.1 == other) ∘
        fun e => if e.1 == key then (key, v) else e) = fun e => e.1 == other := by
      funext e
      by_cases he : e.1 = key
      · simp [he, hother]
      · simp [he]
    rw [List.find?_map, hsame, Option.map_map]
    cases hfind : entries.find? fun e => e.1 == other with
    | none => rfl
    | some e =>
      have he : e.1 = other := by simpa using List.find?_some hfind
      simp [he, h.symm]
  · rw [List.find?_append]
    simp [hother]

theorem get?_addExtras (exploit : List (String × Value)) (tree : Java.Node) {key : String}
    (h : "arguments" ≠ key) :
    (Value.table (addExtras exploit tree).1).get? key = (Value.table exploit).get? key := by
  simp only [addExtras]
  split
  · rw [get?_setEntry _ h, get?_setEntry _ h]
  · rw [get?_setEntry _ h]

theorem searchFiles_keeps {P : List (String × Value) → Prop}
    (hP : ∀ exploit tree, P exploit → P (addExtras exploit tree).1) (fs : FileSystem)
    (needle : String) (files : List String) {exploit : List (String × Value)} (h : P exploit) :
    P (searchFiles fs needle files exploit).1 := by
  induction files generalizing exploit with
  | nil => exact h
  | cons file rest ih =>
    unfold searchFiles
    split
    · exact ih h
    split
    · exact ih h
    · exact h
    · split
      · split
        · exact ih h
        · exact h
      · rename_i tree _
        have hadded := hP exploit tree h
        cases hfound : addExtras exploit tree with
        | mk found e =>
          rw [hfound] at hadded
          cases e with
          | some e => exact hadded
          | none =>
            dsimp only
            split
            · exact hadded
            · exact ih hadded

theorem get?_searchFiles (fs : FileSystem) (needle : String) (files : List String)
    (exploit : List (String × Value)) {key : String} (h : "arguments" ≠ key) :
    (Value.table (searchFiles fs needle files exploit).1).get? key =
      (Value.table exploit).get? key :=
  searchFiles_keeps
    (P := fun entries => (Value.table entries).get? key = (Value.table exploit).get? key)
    (fun entries tree hkeeps => (get?_addExtras entries tree h).trans hkeeps) fs needle files rfl

theorem complete_concerns {fs : FileSystem} {javaFiles : List String} {f : Finding}
    {c : Component} (h : Concerns f c) : Concerns (complete fs javaFiles f).1 c := by
  unfold complete
  split
  · rename_i entries hentries
    split
    · rw [Concerns, get?_searchFiles _ _ _ _ (by decide), ← hentries]
      exact h
    · exact h
  · exact h
  · exact h

theorem completeAll_keeps {P : Finding → Prop} {fs : FileSystem} {javaFiles : List String}
    (hP : ∀ f, P f → P (complete fs javaFiles f).1) {findings : List Finding}
    (h : ∀ f ∈ findings, P f) : ∀ f ∈ (completeAll fs javaFiles findings).1, P f := by
  induction findings with
  | nil => simp [completeAll]
  | cons g rest ih =>
    rw [List.forall_mem_cons] at h
    have hg : P (complete fs javaFiles g).1 := hP g h.1
    rw [completeAll]
    cases hcomplete : complete fs javaFiles g with
    | mk g' e =>
      rw [hcomplete] at hg
      cases e with
      | some e => exact List.forall_mem_cons.mpr ⟨hg, h.2⟩
      | none => exact List.forall_mem_cons.mpr ⟨hg, ih h.2⟩

/-! What is added to a finding is a list of texts, so its copy stays shallow. -/

def IsShallow (f : Finding) : Prop := ∀ v ∈ f.fields, v.copyDepth ≤ 6

theorem IsShallow.copyDepth_le {f : Finding} (h : IsShallow f) : f.copyDepth ≤ 10 := by
  have hfields := Value.itemsCopyDepth_le_iff.mpr h
  rw [Finding.copyDepth]
  omega

def AllFlat (entries : List (String × Value)) : Prop := ∀ e ∈ entries, e.2.copyDepth ≤ 4

theorem table_copyDepth_iff {entries : List (String × Value)} :
    (Value.table entries).copyDepth ≤ 6 ↔ AllFlat entries := by
  rw [Value.copyDepth, AllFlat, ← Value.entriesCopyDepth_le_iff]
  omega

theorem setEntry_flat {entries : List (String × Value)} (h : AllFlat entries) (key : String)
    {v : Value} (hv : v.copyDepth ≤ 4) : AllFlat (setEntry entries key v) := by
  intro e he
  unfold setEntry at he
  split at he
  · obtain ⟨e₀, he₀, rfl⟩ := List.mem_map.mp he
    split
    · exact hv
    · exact h e₀ he₀
  · rcases List.mem_append.mp he with he | he
    · exact h e he
    · cases List.mem_singleton.mp he
      exact hv

theorem addArguments_copyDepth {known v : Value} {texts : List String}
    (hknown : known.copyDepth ≤ 4) (h : addArguments known texts = .ok v) : v.copyDepth ≤ 4 := by
  induction known, texts using addArguments.induct with
  | case1 known =>
    rw [addArguments] at h
    cases h
    exact hknown
  | case2 items t rest hany ih =>
    rw [addArguments, if_pos hany] at h
    exact ih hknown h
  | case3 items t rest hany ih =>
    rw [addArguments, if_neg hany] at h
    refine ih ?_ h
    have hitems : Value.itemsCopyDepth items ≤ 2 := by
      rw [Value.copyDepth] at hknown
      omega
    rw [Value.itemsCopyDepth_le_iff] at hitems
    have hmore : Value.itemsCopyDepth (items ++ [.text t]) ≤ 2 := by
      rw [Value.itemsCopyDepth_le_iff, List.forall_mem_append]
      exact ⟨hitems, by simp [Value.copyDepth]⟩
    rw [Value.copyDepth]
    omega
  | case4 s t rest hin ih =>
    rw [addArguments, if_pos hin] at h
    exact ih hknown h
  | case5 s t rest hin =>
    rw [addArguments, if_neg hin] at h
    cases h
  | case6 entries t rest hin ih =>
    rw [addArguments, if_pos hin] at h
    exact ih hknown h
  | case7 entries t rest hin =>
    rw [addArguments, if_neg hin] at h
    cases h
  | case8 known t rest hlist htext htable =>
    rw [addArguments] at h
    · cases h
    all_goals assumption

theorem addExtras_flat {entries : List (String × Value)} (tree : Java.Node) (h : AllFlat entries) :
    AllFlat (addExtras entries tree).1 := by
  have hknown : (((Value.table entries).get? "arguments").getD (.list [])).copyDepth ≤ 4 := by
    cases hget : (Value.table entries).get? "arguments" with
    | none => decide
    | some v =>
      obtain ⟨e, hfind, rfl⟩ := Option.map_eq_some_iff.mp hget
      exact h e (List.mem_of_find?_eq_some hfind)
  have hset := setEntry_flat h "arguments" hknown
  simp only [addExtras]
  split
  · rename_i v hresult
    refine setEntry_flat hset "arguments" ?_
    split at hresult
    · cases hresult
      exact hknown
    · obtain ⟨names, -, hresult⟩ := bind_eq_ok_iff.mp hresult
      split at hresult
      · exact addArguments_copyDepth hknown hresult
      · cases hresult
        exact hknown
  · exact hset

theorem complete_shallow {fs : FileSystem} {javaFiles : List String} {f : Finding}
    (h : IsShallow f) : IsShallow (complete fs javaFiles f).1 := by
  unfold complete
  split
  · rename_i entries hentries
    split
    · have hflat : AllFlat entries := by
        rw [← table_copyDepth_iff, ← hentries]
        exact h _ (by simp [Finding.fields])
      have hadded (needle : String) : AllFlat (searchFiles fs needle javaFiles entries).1 :=
        searchFiles_keeps (fun _ tree hkept => addExtras_flat tree hkept) fs needle javaFiles hflat
      simp only [IsShallow, Finding.fields, List.forall_mem_cons] at h ⊢
      obtain ⟨hcategory, hdescription, hname, hline, hfile, -, hnil⟩ := h
      exact ⟨hcategory, hdescription, hname, hline, hfile, table_copyDepth_iff.mpr (hadded _), hnil⟩
    · exact h
  · exact h
  · exact h

def IsReport (m : Manifest) (component : Component) (name : String) (f : Finding) : Prop :=
  ∃ title severity description, f = report m component name title severity description

theorem IsReport.concerns {m : Manifest} {component : Component} {name : String} {f : Finding}
    (h : IsReport m component name f) : Concerns f component := by
  obtain ⟨title, severity, description, rfl⟩ := h
  rfl

theorem elementFindings_reports {m : Manifest} {tag name : String} {component : Component}
    {exported : Option String} {permission filters : Bool} {found : List Finding}
    (h : elementFindings m tag component name exported permission filters = some found) :
    ∀ f ∈ found, IsReport m component name f := by
  unfold elementFindings at h
  simp only at h
  split at h
  · cases h
  split at h
  · split at h
    · cases h
    split at h
    · cases h
      exact List.forall_mem_singleton.mpr ⟨_, _, _, rfl⟩
    split at h
    · cases h
      exact List.forall_mem_singleton.mpr ⟨_, _, _, rfl⟩
    · cases h
      simp
  · cases h
    simp

theorem actionFinding_reports (m : Manifest) (tag : String) (component : Component)
    (name : String) (permission : Bool) (action : String) :
    IsReport m component name (actionFinding m tag component name permission action) := by
  unfold actionFinding
  split
  · exact ⟨_, _, _, rfl⟩
  split
  · exact ⟨_, _, _, rfl⟩
  · exact ⟨_, _, _, rfl⟩

theorem tagFindings_reports (m : Manifest) (tag : String) (component : Component)
    (e : Xml.Element) :
    ∀ f ∈ tagFindings m tag component e,
      IsReport m component ((e.attribute? "android:name").getD "unknown_tag") f := by
  unfold tagFindings
  simp only
  split
  · simp
  · rename_i found hfound
    intro f hf
    rcases List.mem_append.mp hf with hf | hf
    · exact elementFindings_reports hfound f hf
    · obtain ⟨action, -, rfl⟩ := List.mem_map.mp hf
      exact actionFinding_reports ..

theorem IsReport.shallow {m : Manifest} {component : Component} {name : String} {f : Finding}
    (h : IsReport m component name f) : IsShallow f := by
  obtain ⟨title, severity, description, rfl⟩ := h
  have hfile : (optionalText m.path).copyDepth = 2 := by cases m.path <;> rfl
  simp [IsShallow, Finding.fields, report, Value.copyDepth, Value.entriesCopyDepth, hfile]

theorem fromManifest_reports (m : Manifest) (root : Xml.Element) :
    ∀ f ∈ fromManifest m root, ∃ component name, IsReport m component name f := by
  intro f hf
  obtain ⟨⟨tag, component⟩, -, hf⟩ := List.mem_flatMap.mp hf
  obtain ⟨e, -, hf⟩ := List.mem_flatMap.mp hf
  exact ⟨component, _, tagFindings_reports m tag component e f hf⟩

theorem fromManifest_concerns (m : Manifest) (root : Xml.Element) :
    ∀ f ∈ fromManifest m root, ∃ c, Concerns f c := by
  intro f hf
  obtain ⟨component, _, hreport⟩ := fromManifest_reports m root f hf
  exact ⟨component, hreport.concerns⟩

theorem fromManifest_shallow (m : Manifest) (root : Xml.Element) :
    ∀ f ∈ fromManifest m root, IsShallow f := by
  intro f hf
  obtain ⟨_, _, hreport⟩ := fromManifest_reports m root f hf
  exact hreport.shallow

theorem run_keeps {P : Finding → Prop} {fs : FileSystem} {m : Manifest}
    (hmanifest : ∀ root, m.root = some root → ∀ f ∈ fromManifest m root, P f)
    (hcomplete : ∀ javaFiles f, P f → P (complete fs javaFiles f).1) (files : Option (List String)) :
    ∀ f ∈ (run fs m files []).1, P f := by
  unfold run
  split
  · simp
  rename_i root hroot
  split
  · simp
  rw [List.nil_append]
  split
  · exact hmanifest root hroot
  · exact completeAll_keeps (hcomplete _) (hmanifest root hroot)

theorem run_concerns (fs : FileSystem) (m : Manifest) (files : Option (List String)) :
    ∀ f ∈ (run fs m files []).1, ∃ c, Concerns f c := by
  refine run_keeps (fun root _ => fromManifest_concerns m root) (fun javaFiles f hf => ?_) files
  obtain ⟨c, hc⟩ := hf
  exact ⟨c, complete_concerns hc⟩

theorem run_shallow (fs : FileSystem) (m : Manifest) (files : Option (List String)) :
    ∀ f ∈ (run fs m files []).1, IsShallow f :=
  run_keeps (fun root _ => fromManifest_shallow m root) (fun _ _ hf => complete_shallow hf) files

end ExportedDetector

namespace Report

/-- The page of structured data that is made without a layout of one's own. -/
theorem render?_json {found : List Finding} {text : String} (h : findingsText? found = some text)
    (path : String) (keep : Bool) :
    render? ⟨found, path, keep⟩ "json" none = some (text ++ "\n") := by
  have hpage := render?_name ⟨found, path, keep⟩ .json
  rwa [PageKind.render?, Page.data?, h] at hpage

/-- Whether a document is an empty list. Documents have no equality to be decided. -/
def isEmptyArray : Json → Bool
  | .array [] => true
  | _ => false

theorem eq_of_isEmptyArray {j : Json} (h : isEmptyArray j = true) : j = .array [] := by
  unfold isEmptyArray at h
  split at h
  · rfl
  · cases h

def isEntry (key text : String) : Json → Bool
  | .object [(k, .text t)] => k == key && t == text
  | _ => false

theorem eq_of_isEntry {key text : String} {j : Json} (h : isEntry key text j = true) :
    j = .object [(key, .text text)] := by
  unfold isEntry at h
  split at h
  · obtain ⟨hkey, htext⟩ := Bool.and_eq_true_iff.mp h
    rw [beq_iff_eq.mp hkey, beq_iff_eq.mp htext]
  · cases h

theorem findingsText?_nil : findingsText? [] = some "[]" := by decide +kernel

theorem read_page_nil : Json.read ("[]" ++ "\n") = some (.array []) := by
  have hread : (Json.read ("[]" ++ "\n")).any isEmptyArray = true := by decide +kernel
  cases hpage : Json.read ("[]" ++ "\n") with
  | none =>
    rw [hpage] at hread
    cases hread
  | some j =>
    rw [hpage, Option.any_some] at hread
    rw [eq_of_isEmptyArray hread]

theorem read_page_notice : Json.read (Document.notice.line ++ "\n") = some Document.notice := by
  have hread : (Json.read (Document.notice.line ++ "\n")).any
      (isEntry "error" "Error encoding to JSON") = true := by decide +kernel
  cases hpage : Json.read (Document.notice.line ++ "\n") with
  | none => simp [hpage] at hread
  | some j =>
    rw [hpage, Option.any_some] at hread
    rw [eq_of_isEntry hread]
    rfl

end Report

theorem ExportedDetector.findingsText?_run {fs : FileSystem} {m : Manifest}
    {files : Option (List String)} (h : (run fs m files []).1 ≠ []) :
    findingsText? (run fs m files []).1 = some Document.notice.line := by
  cases hfound : (run fs m files []).1 with
  | nil => exact absurd hfound h
  | cons f rest =>
    have hf : f ∈ (run fs m files []).1 := hfound ▸ List.mem_cons_self
    obtain ⟨c, hc⟩ := run_concerns fs m files f hf
    have hroom : f.copyDepth ≤ Document.room :=
      Nat.le_trans (run_shallow fs m files f hf).copyDepth_le (by decide)
    have hform : f.toJson Document.room = .error .formless :=
      Finding.toJson_formless hroom (Finding.toJson?_of_exploit (Value.toJson?_of_component hc))
    exact Document.findingsText?_of_error (List.forall_mem_nil _) hform

/-- The page on what a run over a manifest and its source files reports, read back, is a list with
an entry for each finding only if there is no finding: else the notice is all that can be read. -/
theorem exported_page_lists_iff (fs : FileSystem) (m : Manifest) (files : Option (List String))
    (found : List Finding) (h : ExportedDetector.run fs m files [] = (found, none))
    (path : String) (keep : Bool) :
    ∃ page, Report.render? ⟨found, path, keep⟩ "json" none = some page ∧
      ((∃ items, Json.read page = some (.array items) ∧ items.length = found.length) ↔
        found = []) ∧
      (found ≠ [] → Json.read page = some Document.notice) := by
  obtain rfl : (ExportedDetector.run fs m files []).1 = found := by rw [h]
  by_cases hnil : (ExportedDetector.run fs m files []).1 = []
  · rw [hnil]
    refine ⟨_, Report.render?_json Report.findingsText?_nil path keep, ?_⟩
    rw [Report.read_page_nil]
    exact ⟨⟨fun _ => rfl, fun _ => ⟨[], rfl, rfl⟩⟩, fun hne => absurd rfl hne⟩
  · have htext := ExportedDetector.findingsText?_run hnil
    refine ⟨_, Report.render?_json htext path keep, ?_⟩
    rw [Report.read_page_notice]
    refine ⟨⟨?_, fun h => absurd h hnil⟩, fun _ => rfl⟩
    rintro ⟨items, hitems, -⟩
    cases hitems

def galleryManifest : Manifest where
  path := some "AndroidManifest.xml"
  root := some (.mk (.plain "manifest") [] none
    [(.mk (.plain "application") [] none
      [(.mk (.plain "activity")
        [⟨⟨"android", "name", "http://schemas.android.com/apk/res/android"⟩, "Gallery", .escaped⟩,
          ⟨⟨"android", "exported", "http://schemas.android.com/apk/res/android"⟩, "true", .escaped⟩]
        none [], "")], "")])
  minSdk := 14
  targetSdk := 16
  package := some "com.example"

def galleryFindings : List Finding :=
  (ExportedDetector.run (.empty []) galleryManifest (some ["Main.java"]) []).1

theorem gallery_outcome :
    galleryFindings.length = 1 ∧
      (ExportedDetector.run (.empty []) galleryManifest (some ["Main.java"]) []).2 = none := by
  decide +kernel

theorem galleryFindings_ne_nil : galleryFindings ≠ [] := by
  have hcount := gallery_outcome.1
  intro h
  rw [h] at hcount
  cases hcount

theorem run_galleryManifest :
    ExportedDetector.run (.empty []) galleryManifest (some ["Main.java"]) [] =
      (galleryFindings, none) :=
  Prod.ext rfl gallery_outcome.2

theorem exported_page_lists_iff_gallery :
    ExportedDetector.run (.empty []) galleryManifest (some ["Main.java"]) [] =
      (galleryFindings, none) ∧
    ∃ page, Report.render? ⟨galleryFindings, "build/", false⟩ "json" none = some page ∧
      ((∃ items, Json.read page = some (.array items) ∧ items.length = galleryFindings.length) ↔
        galleryFindings = []) ∧
      (galleryFindings ≠ [] → Json.read page = some Document.notice) :=
  ⟨run_galleryManifest, exported_page_lists_iff (.empty []) galleryManifest (some ["Main.java"])
    galleryFindings run_galleryManifest "build/" false⟩

/-- The exported activity is found and is lost from the page. -/
theorem gallery_lost_from_page :
    ExportedDetector.run (.empty []) galleryManifest (some ["Main.java"]) [] =
      (galleryFindings, none) ∧
      galleryFindings.length = 1 ∧
      ∃ page, Report.render? ⟨galleryFindings, "build/", false⟩ "json" none = some page ∧
        Json.read page = some (.object [("error", .text "Error encoding to JSON")]) := by
  have htext := ExportedDetector.findingsText?_run galleryFindings_ne_nil
  exact ⟨run_galleryManifest, gallery_outcome.1, _, Report.render?_json htext "build/" false,
    Report.read_page_notice⟩

end DroidAudit
