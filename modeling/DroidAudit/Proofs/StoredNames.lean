import DroidAudit.Proofs.ExploitResources
import DroidAudit.Proofs.ManifestHistory
import DroidAudit.Proofs.SkippedSources

/-! The names under which exported components are stored for an exploit. The package of the manifest
is known when the components are reported, but no finding records it; so a name is stored as the
manifest gives it. -/
namespace DroidAudit.ExportedDetector

def nameOf (e : Xml.Element) : String := (e.attribute? "android:name").getD "unknown_tag"

def IsReported (m : Manifest) (component : Component) (e : Xml.Element) : Prop :=
  ∃ root tag, m.root = some root ∧ (tag, component) ∈ tags ∧ e ∈ root.allWritten tag ∧
    tagFindings m tag component e ≠ []

def AreTexts (v : Option Value) : Prop :=
  ∃ texts : List String, v.getD (.list []) = .list (texts.map .text)

theorem AreTexts.isArguments {v : Option Value} (h : AreTexts v) :
    ∃ texts, Exploit.IsArguments v texts := by
  obtain ⟨texts, htexts⟩ := h
  cases v with
  | none => exact ⟨[], .absent⟩
  | some v =>
    rw [Option.getD_some] at htexts
    exact ⟨texts, htexts ▸ .list texts⟩

structure Records (f : Finding) (component : Component) (name : String) : Prop where
  kind : f.exploit.get? "exported_enum" = some (.component component)
  name : f.exploit.get? "tag_name" = some (.text name)
  package : f.exploit.get? "package_name" = some (.text "")
  arguments : AreTexts (f.exploit.get? "arguments")

variable {component : Component} {f : Finding} {name : String}

theorem IsReport.records {m : Manifest}
    (h : IsReport m component name f) : Records f component name := by
  obtain ⟨title, severity, description, rfl⟩ := h
  exact ⟨rfl, rfl, rfl, [], rfl⟩

theorem Records.unique {c c' : Component} {name' : String}
    (h : Records f c name) (h' : Records f c' name') : c = c' ∧ name = name' := by
  have hkind := h.kind.symm.trans h'.kind
  have hname := h.name.symm.trans h'.name
  exact ⟨by simpa using hkind, by simpa using hname⟩

/-! The search of the source files. -/

theorem addExtras_texts {entries : List (String × Value)} (tree : Java.Node)
    (h : AreTexts ((Value.table entries).get? "arguments")) :
    AreTexts ((Value.table (addExtras entries tree).1).get? "arguments") := by
  obtain ⟨texts, htexts⟩ := h
  have hset : ∀ (entries : List (String × Value)) (texts : List String),
      AreTexts ((Value.table (setEntry entries "arguments" (.list (texts.map .text)))).get?
        "arguments") :=
    fun entries texts => ⟨texts, by rw [get?_setEntry_same, Option.getD_some]⟩
  simp only [addExtras, htexts, entriesOf_setEntry]
  split
  · rename_i v hv
    suffices hlist : ∃ more : List String, v = .list (more.map .text) by
      obtain ⟨more, rfl⟩ := hlist
      exact hset _ more
    split at hv
    · exact ⟨texts, (Except.ok.inj hv).symm⟩
    cases hmethods : entriesOf (.table entries) with
    | error e =>
      rw [hmethods] at hv
      cases hv
    | ok methods =>
      obtain ⟨added, hadded⟩ :=
        addArguments_list (texts.map .text) (extraLiterals tree.reached.1)
      simp only [hmethods, hadded, bind, Except.bind] at hv
      split at hv
      · exact ⟨texts ++ added, by rw [List.map_append]; exact (Except.ok.inj hv).symm⟩
      · exact ⟨texts, (Except.ok.inj hv).symm⟩
  · exact hset _ texts

theorem Records.complete {fs : FileSystem} {javaFiles : List String}
    (h : Records f component name) :
    Records (complete fs javaFiles f).1 component name := by
  cases hexploit : f.exploit with
  | table entries =>
    have hkind := hexploit ▸ h.kind
    have hname := hexploit ▸ h.name
    have hpackage := hexploit ▸ h.package
    have harguments := hexploit ▸ h.arguments
    simp only [ExportedDetector.complete, hexploit, hname]
    refine ⟨?_, ?_, ?_, ?_⟩
    · rw [← hkind]
      exact get?_searchFiles _ _ _ _ (by decide)
    · rw [← hname]
      exact get?_searchFiles _ _ _ _ (by decide)
    · rw [← hpackage]
      exact get?_searchFiles _ _ _ _ (by decide)
    · exact searchFiles_keeps
        (P := fun entries => AreTexts ((Value.table entries).get? "arguments"))
        (fun entries tree => addExtras_texts tree) _ _ _ harguments
  | _ =>
    have hname := h.name
    rw [hexploit] at hname
    cases hname

theorem run_records (fs : FileSystem) (m : Manifest) (files : Option (List String)) :
    ∀ f ∈ (run fs m files []).1,
      ∃ component e, IsReported m component e ∧ Records f component (nameOf e) := by
  have hmanifest : ∀ root, m.root = some root → ∀ f ∈ fromManifest m root,
      ∃ component e, IsReported m component e ∧ Records f component (nameOf e) := by
    intro root hroot f hf
    obtain ⟨⟨tag, component⟩, htag, hf⟩ := List.mem_flatMap.mp hf
    obtain ⟨e, he, hf⟩ := List.mem_flatMap.mp hf
    exact ⟨component, e, ⟨root, tag, hroot, htag, he, List.ne_nil_of_mem hf⟩,
      (tagFindings_reports m tag component e f hf).records⟩
  refine run_keeps hmanifest (fun javaFiles f hf => ?_) files
  obtain ⟨component, e, hreported, hrecords⟩ := hf
  exact ⟨component, e, hreported, hrecords.complete⟩

/-! Writing. -/

theorem Records.write (h : Records f component name) {arguments : List String}
    (harguments : Exploit.IsArguments (f.exploit.get? "arguments") arguments)
    (hname : Xml.IsText name) (htexts : ∀ a ∈ arguments, Xml.IsText a) {b : ExploitBench}
    {values : String} {p : Places} {l : Ledger} (hvalues : b.exploit.values = some values)
    (hshows : Shows b.desk.fs values p l) (hsound : l.Sound) :
    ∃ fs' strings,
      (Exploit.writeFinding f).outcome b =
        (.ok (), { b with desk := { b.desk with fs := fs' } }) ∧
      Resources.readDocument fs' (Path.tidy (Path.join values "strings.xml")) = .ok strings ∧
      Resources.texts strings =
        l.strings ++ [(some (keyOf component (l.numbers component + 1)), some name)] := by
  let o : Offer :=
    { component := component
      package := ""
      name := name
      arguments := arguments
      packageText := Xml.isText_of_isSimpleText rfl
      nameText := hname
      argumentTexts := htexts }
  have hoffers : Exploit.Offers f.exploit (some o) := by
    cases hexploit : f.exploit with
    | table entries =>
      exact .whole o (hexploit ▸ h.kind) (hexploit ▸ h.name) (hexploit ▸ h.package)
        (hexploit ▸ harguments)
    | _ =>
      have hname := h.name
      rw [hexploit] at hname
      cases hname
  obtain ⟨fs', hwrite, hshows'⟩ := Exploit.writeFinding_of_some hoffers hvalues hshows hsound
  obtain ⟨strings, hholds, htexts'⟩ := hshows'.strings
  refine ⟨fs', strings, hwrite, hholds.readDocument, htexts'.trans ?_⟩
  rw [Ledger.write, String.empty_append]
  rfl

theorem package_of_mem_run {fs : FileSystem} {m : Manifest} {path : Option String}
    {package : Option String} (hupdate : (m.update fs path).2 = none)
    (hpackage : Manifest.packageAt fs path = .ok package) {files : Option (List String)}
    (hf : f ∈ (run fs (m.update fs path).1 files []).1) :
    (m.update fs path).1.package = package := by
  have hlesson := Manifest.update_lesson m ⟨fs, path⟩
  rcases (Manifest.update_eq_none_iff m ⟨fs, path⟩).mp hupdate with hroot | hgiven
  · rw [hlesson, run, hroot] at hf
    cases hf
  · obtain ⟨given, hgiven⟩ := Option.isSome_iff_exists.mp hgiven
    obtain ⟨-, -, hsame⟩ := Option.bind_eq_some_iff.mp hgiven
    rw [hpackage] at hsame
    rw [hlesson, hgiven]
    exact (Option.some.inj hsame).symm

/-- Whatever package the manifest names, a finding on a component records an empty one. Written into
resources that hold a sound ledger, the finding stores the name of its element as it is. So the stored
name begins with the package exactly if the name in the manifest does. -/
theorem stored_name_begins_iff {fs : FileSystem} {m : Manifest} {path : Option String}
    {package : String} (hupdate : (m.update fs path).2 = none)
    (hpackage : Manifest.packageAt fs path = .ok (some package)) {files : Option (List String)}
    {f : Finding} (hf : f ∈ (run fs (m.update fs path).1 files []).1) :
    (m.update fs path).1.package = some package ∧
    ∃ component e, IsReported (m.update fs path).1 component e ∧ Records f component (nameOf e) ∧
      (f.exploit.get? "package_name" = some (.text package) ↔ package = "") ∧
      ∃ arguments, Exploit.IsArguments (f.exploit.get? "arguments") arguments ∧
        ∀ (b : ExploitBench) (values : String) (p : Places) (l : Ledger),
          b.exploit.values = some values → Shows b.desk.fs values p l → l.Sound →
          Xml.IsText (nameOf e) → (∀ a ∈ arguments, Xml.IsText a) →
          ∃ fs' strings,
            (Exploit.writeFinding f).outcome b =
              (.ok (), { b with desk := { b.desk with fs := fs' } }) ∧
            Resources.readDocument fs' (Path.tidy (Path.join values "strings.xml")) =
              .ok strings ∧
            Resources.texts strings =
              l.strings ++ [(some (keyOf component (l.numbers component + 1)),
                some (nameOf e))] ∧
            ((∃ stored, (some (keyOf component (l.numbers component + 1)), some stored) ∈
                Resources.texts strings ∧ package.toList <+: stored.toList) ↔
              package.toList <+: (nameOf e).toList) := by
  obtain ⟨component, e, hreported, hrecords⟩ := run_records _ _ _ f hf
  obtain ⟨arguments, harguments⟩ := hrecords.arguments.isArguments
  have hempty : f.exploit.get? "package_name" = some (.text package) ↔ package = "" := by
    rw [hrecords.package, Option.some.injEq, Value.text.injEq, eq_comm]
  refine ⟨package_of_mem_run hupdate hpackage hf, component, e, hreported, hrecords, hempty,
    arguments, harguments, ?_⟩
  intro b values p l hvalues hshows hsound hname htexts
  obtain ⟨fs', strings, hwrite, hread, hstrings⟩ :=
    hrecords.write harguments hname htexts hvalues hshows hsound
  have hnew := hsound.newTexts component _ (Nat.lt_succ_self _)
  refine ⟨fs', strings, hwrite, hread, hstrings, ?_⟩
  rw [hstrings]
  constructor
  · rintro ⟨stored, hmem, hprefix⟩
    rcases List.mem_append.mp hmem with hmem | hmem
    · exact absurd (List.mem_map_of_mem (f := Prod.fst) hmem) hnew
    · cases List.mem_singleton.mp hmem
      exact hprefix
  · intro hprefix
    exact ⟨nameOf e, by simp, hprefix⟩

/-! An activity in a package. -/

def activityText : String :=
  "<m package=\"p\" xmlns:android=\"a\"><activity android:name=\"A\" android:exported=\"true\"/></m>"

def activityFiles : FileSystem := .oneManifest activityText

def isOnActivity (f : Finding) : Bool :=
  match f.exploit.get? "exported_enum", f.exploit.get? "tag_name", f.exploit.get? "arguments" with
  | some (.component .activity), some (.text "A"), none => true
  | _, _, _ => false

theorem of_isOnActivity (h : isOnActivity f = true) :
    f.exploit.get? "exported_enum" = some (.component .activity) ∧
      f.exploit.get? "tag_name" = some (.text "A") ∧ f.exploit.get? "arguments" = none := by
  unfold isOnActivity at h
  split at h
  · rename_i hkind hname harguments
    exact ⟨hkind, hname, harguments⟩
  · cases h

def declaresActivity (bytes : ByteArray) : Bool :=
  match Xml.read .document bytes, Xml.read .tree bytes with
  | .ok root, .ok tree =>
    (Manifest.minSdkOf root).toOption == some 1 && (Manifest.targetSdkOf root).toOption == some 1 &&
      Manifest.packageOf tree == some "p" &&
      (run activityFiles ⟨some "m.xml", some root, 1, 1, some "p"⟩ (some []) []).1.any isOnActivity
  | _, _ => false

theorem declaresActivity_activityText : declaresActivity activityText.toUTF8 = true := by
  decide +kernel

def activityManifest : Manifest := (Manifest.update activityFiles {} (some "m.xml")).1

theorem activity_reported :
    (Manifest.update activityFiles {} (some "m.xml")).2 = none ∧
      Manifest.packageAt activityFiles (some "m.xml") = .ok (some "p") ∧
      ∃ f ∈ (run activityFiles activityManifest (some []) []).1,
        Records f .activity "A" ∧ f.exploit.get? "arguments" = none := by
  have hbytes : activityFiles.bytesAt (some "m.xml") = .ok activityText.toUTF8 :=
    FileSystem.bytesAt_of_readBytes (FileSystem.readBytes_oneManifest _)
  have hdeclares := declaresActivity_activityText
  unfold declaresActivity at hdeclares
  split at hdeclares
  · rename_i root tree hroot htree
    simp only [Bool.and_eq_true, beq_iff_eq, List.any_eq_true] at hdeclares
    obtain ⟨⟨⟨hmin, htarget⟩, hpackage⟩, hfound⟩ := hdeclares
    have hdocument : Manifest.readRoot activityFiles .document (some "m.xml") = .ok root := by
      rw [Manifest.readRoot_of_bytes hbytes, hroot]
      rfl
    have hat : Manifest.packageAt activityFiles (some "m.xml") = .ok (some "p") := by
      rw [Manifest.packageAt, Manifest.readRoot_of_bytes hbytes, htree, ← hpackage]
      rfl
    have hknown : Manifest.update activityFiles {} (some "m.xml") =
        (⟨some "m.xml", some root, 1, 1, some "p"⟩, none) := by
      rw [toOption_eq_some_iff] at hmin htarget
      simp only [Manifest.update, hdocument, hat, hmin, htarget]
    obtain ⟨f, hf, hactivity⟩ := hfound
    obtain ⟨hkind, hname, hnone⟩ := of_isOnActivity hactivity
    obtain ⟨component, e, -, hrecords⟩ := run_records _ _ _ f hf
    rw [activityManifest, hknown]
    exact ⟨rfl, hat, f, hf, ⟨hkind, hname, hrecords.package, hrecords.arguments⟩, hnone⟩
  · cases hdeclares

theorem shows_shopBench : ∃ p, Shows shopBench.desk.fs "values" p Shipped.ledger := by
  obtain ⟨hi, he, hs⟩ := readBytes_valuesFiles Shipped.intents.text.toUTF8
    Shipped.extras.text.toUTF8 Shipped.strings.text.toUTF8
  exact Shipped.shows_ledger hi he hs

theorem stored_name_begins_iff_activity :
    ∃ f ∈ (run activityFiles activityManifest (some []) []).1,
      (f.exploit.get? "package_name" = some (.text "p") ↔ "p" = "") ∧
      ∃ fs' strings,
        (Exploit.writeFinding f).outcome shopBench =
          (.ok (), { shopBench with desk := { shopBench.desk with fs := fs' } }) ∧
        Resources.readDocument fs' (Path.tidy (Path.join "values" "strings.xml")) = .ok strings ∧
        Resources.texts strings = Shipped.ledger.strings ++ [(some "activity2", some "A")] := by
  obtain ⟨hupdate, hpackage, f, hf, hactivity, hnone⟩ := activity_reported
  obtain ⟨-, component, e, -, hrecords, hempty, arguments, harguments, hwrite⟩ :=
    stored_name_begins_iff hupdate hpackage hf
  obtain ⟨rfl, hname⟩ := hrecords.unique hactivity
  obtain ⟨p, hshows⟩ := shows_shopBench
  obtain rfl : arguments = [] := by
    rw [hnone] at harguments
    cases harguments
    rfl
  obtain ⟨fs', strings, houtcome, hread, hstrings, -⟩ := hwrite shopBench "values" p Shipped.ledger
    rfl hshows Shipped.ledger_sound (hname ▸ Xml.isText_of_isSimpleText (by decide)) (by simp)
  refine ⟨f, hf, hempty, fs', strings, houtcome, hread, ?_⟩
  rw [hstrings, hname, Shipped.ledger_numbers]
  rfl

/-- The package "p" is known, and the activity "A" is stored without it. -/
theorem activity_stored_without_package :
    activityManifest.package = some "p" ∧
    ∃ f ∈ (run activityFiles activityManifest (some []) []).1,
      f.exploit.get? "package_name" = some (.text "") ∧
      ∃ fs' strings,
        (Exploit.writeFinding f).outcome shopBench =
          (.ok (), { shopBench with desk := { shopBench.desk with fs := fs' } }) ∧
        Resources.readDocument fs' (Path.tidy (Path.join "values" "strings.xml")) = .ok strings ∧
        (some "activity2", some "A") ∈ Resources.texts strings ∧
        ¬"p".toList <+: "A".toList := by
  obtain ⟨hupdate, hpackage, f, hf, hactivity, hnone⟩ := activity_reported
  obtain ⟨p, hshows⟩ := shows_shopBench
  have harguments : Exploit.IsArguments (f.exploit.get? "arguments") [] := hnone ▸ .absent
  obtain ⟨fs', strings, houtcome, hread, hstrings⟩ :=
    hactivity.write harguments (Xml.isText_of_isSimpleText (by decide)) (by simp)
      (b := shopBench) rfl hshows Shipped.ledger_sound
  refine ⟨package_of_mem_run hupdate hpackage hf, f, hf, hactivity.package, fs', strings, houtcome,
    hread, ?_, by decide⟩
  rw [hstrings, Shipped.ledger_numbers]
  exact List.mem_append_right _ (List.mem_singleton.mpr rfl)

end DroidAudit.ExportedDetector
