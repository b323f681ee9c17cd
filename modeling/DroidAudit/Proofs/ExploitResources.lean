import DroidAudit.Proofs.ExploitLedger
import DroidAudit.Proofs.ShippedResources
import DroidAudit.Proofs.Steps

/-! Writing the components of an exploit into its resources. The three files hold a ledger, and each
step of the work makes one entry in it; in the end they hold the ledger with all components. -/
namespace DroidAudit

/-! Keys as names. -/

theorem isText_toString (n : Nat) : Xml.IsText (toString n) := by
  refine Xml.isText_of_isSimpleText ?_
  rw [Xml.isSimpleText, Nat.toString_eq_ofList_toDigits, String.toList_ofList, List.all_eq_true]
  intro c hc
  have hdigit := isDigit_of_mem_number hc
  have hplain : Xml.isPlainChar c = true :=
    Xml.isPlainChar_of_isQuiet (by simp [Xml.isQuiet, Char.isAlphanum, hdigit])
  simp only [Xml.isPlainChar, Bool.and_eq_true, decide_eq_true_eq] at hplain
  simp [hplain, Text.isReserved_of_low hplain.1.1]

theorem isText_word (c : Component) : Xml.IsText c.word :=
  Xml.isText_of_isSimpleText (by cases c <;> decide)

theorem isText_keyOf (c : Component) (n : Nat) : Xml.IsText (keyOf c n) :=
  (isText_word c).append (isText_toString n)

theorem quote_not_mem_keyOf (c : Component) (n : Nat) : '\'' ∉ (keyOf c n).toList := by
  rw [toList_keyOf, List.mem_append, not_or]
  refine ⟨by cases c <;> decide, ?_⟩
  intro hmem
  exact absurd (isDigit_of_mem_number hmem) (by decide)

/-! The files of a ledger. -/

structure Places where
  intents : FileSystem.Location
  extras : FileSystem.Location
  strings : FileSystem.Location
  intentsExtras : intents ≠ extras
  intentsStrings : intents ≠ strings
  extrasStrings : extras ≠ strings

structure Shows (fs : FileSystem) (values : String) (p : Places) (l : Ledger) : Prop where
  intents : Resources.HoldsSome fs (Path.join values "intentID.xml") p.intents fun root =>
    Resources.IsShallow root ∧ Resources.lists root = l.intents
  extras : Resources.HoldsSome fs (Path.join values "extraKeys.xml") p.extras fun root =>
    Resources.IsShallow root ∧ Resources.lists root = l.extras
  strings : Resources.HoldsSome fs (Path.join values "strings.xml") p.strings fun root =>
    Resources.texts root = l.strings

section

variable {d : Desk} {values : String} {p : Places} {l : Ledger}

theorem Shows.addKey (h : Shows d.fs values p l) (o : Offer) :
    ∃ fs', (Desk.perform fun fs => Resources.addItem fs (.text o.component.listName)
        (.text o.component.word) (Path.join values "intentID.xml") true).outcome d =
          (.ok (.text (l.key o)), { d with fs := fs' }) ∧
      Shows fs' values p
        { l with intents := Resources.addTo o.component.listName (l.key o) l.intents } := by
  obtain ⟨root, hholds, hshallow, hlists⟩ := h.intents
  have hname : Xml.IsText o.component.listName :=
    Xml.isText_of_isSimpleText (by cases o.component <;> decide)
  have hkey : Xml.IsText (l.key o) := isText_keyOf o.component _
  obtain ⟨fs', hadd, hholds', hothers⟩ :=
    hholds.addItem true hname hkey (by rw [hlists]; rfl)
  refine ⟨fs', Desk.outcome_perform _ d hadd, ⟨_, hholds', hshallow.withItem _ _, ?_⟩,
    hothers.holdsSome p.intentsExtras.symm h.extras,
    hothers.holdsSome p.intentsStrings.symm h.strings⟩
  rw [Resources.lists_withItem, hlists]

theorem Shows.addArgument (h : Shows d.fs values p l) {key a : String} (hkey : Xml.IsText key)
    (ha : Xml.IsText a) :
    ∃ fs', (Desk.perform fun fs => Resources.addItem fs (.text key) (.text a)
        (Path.join values "extraKeys.xml") false).outcome d =
          (.ok (.text a), { d with fs := fs' }) ∧
      Shows fs' values p { l with extras := Resources.addTo key a l.extras } := by
  obtain ⟨root, hholds, hshallow, hlists⟩ := h.extras
  obtain ⟨fs', hadd, hholds', hothers⟩ := hholds.addItem false hkey ha rfl
  refine ⟨fs', Desk.outcome_perform _ d hadd, hothers.holdsSome p.intentsExtras h.intents,
    ⟨_, hholds', hshallow.withItem _ _, ?_⟩, hothers.holdsSome p.extrasStrings.symm h.strings⟩
  rw [Resources.lists_withItem, hlists]

theorem Shows.addText (h : Shows d.fs values p l) {key text : String} (hkey : Xml.IsText key)
    (hquote : '\'' ∉ key.toList) (htext : Xml.IsText text)
    (hnew : some key ∉ l.strings.map (·.1)) :
    ∃ fs', (Desk.perform fun fs => Resources.setText fs (.text key) (.text text)
        (Path.join values "strings.xml")).outcome d = (.ok (), { d with fs := fs' }) ∧
      Shows fs' values p { l with strings := l.strings ++ [(some key, some text)] } := by
  obtain ⟨root, hholds, htexts⟩ := h.strings
  have hfresh : ∀ t ∈ Resources.texts root, t.1 ≠ some key := by
    intro t ht heq
    rw [htexts] at ht
    exact hnew (heq ▸ List.mem_map_of_mem ht)
  obtain ⟨fs', root', hset, hholds', htexts', hothers⟩ :=
    hholds.setText hkey htext hquote hfresh
  exact ⟨fs', Desk.outcome_perform _ d hset, hothers.holdsSome p.intentsStrings h.intents,
    hothers.holdsSome p.extrasStrings h.extras, ⟨root', hholds', htexts ▸ htexts'⟩⟩

end

/-! Components. -/

namespace Exploit

section

variable {d : Desk} {values : String} {p : Places} {l : Ledger}

theorem writeExtras_outcome (h : Shows d.fs values p l) {key : String} (hkey : Xml.IsText key)
    (arguments : List String) (harguments : ∀ a ∈ arguments, Xml.IsText a) :
    ∃ fs', (writeExtras (Path.join values "extraKeys.xml") (.text key)
        (arguments.map .text)).outcome d = (.ok (), { d with fs := fs' }) ∧
      Shows fs' values p
        { l with extras := arguments.foldl (fun ls a => Resources.addTo key a ls) l.extras } := by
  induction arguments generalizing d l with
  | nil => exact ⟨d.fs, rfl, h⟩
  | cons a rest ih =>
    rw [List.forall_mem_cons] at harguments
    obtain ⟨fs₁, hadd, hshows⟩ := h.addArgument hkey harguments.1
    obtain ⟨fs₂, hrest, hshows'⟩ := ih (d := { d with fs := fs₁ }) hshows harguments.2
    refine ⟨fs₂, ?_, hshows'⟩
    rw [List.map_cons, writeExtras, Step.outcome_bind (Step.outcome_discard hadd)]
    exact hrest

inductive IsArguments : Option Value → List String → Prop
  | absent : IsArguments none []
  | null : IsArguments (some .null) []
  | list (arguments : List String) : IsArguments (some (.list (arguments.map .text))) arguments
  | tuple (arguments : List String) : IsArguments (some (.tuple (arguments.map .text))) arguments

theorem IsArguments.isPresent {v : Option Value} {arguments : List String}
    (h : IsArguments v arguments) : (v.getD .null).isPresent = !arguments.isEmpty := by
  cases h <;> simp [Value.isPresent]

theorem IsArguments.elements {v : Option Value} {arguments : List String}
    (h : IsArguments v arguments) (hne : arguments ≠ []) :
    elements (v.getD .null) = .ok (arguments.map .text) := by
  cases h with
  | absent => exact absurd rfl hne
  | null => exact absurd rfl hne
  | list => rfl
  | tuple => rfl

/-- A component is written as the ledger writes it: its key into the list of its kind, its arguments
under the key, and its name. -/
theorem writeComponent_outcome (h : Shows d.fs values p l) (hsound : l.Sound) (o : Offer)
    {v : Option Value} (hv : IsArguments v o.arguments) :
    ∃ fs', (writeComponent values o.component (.text o.name) (.text o.package)
        (v.getD .null)).outcome d = (.ok (), { d with fs := fs' }) ∧
      Shows fs' values p (l.write o) := by
  have hkey : Xml.IsText (l.key o) := isText_keyOf o.component _
  have hquote : '\'' ∉ (l.key o).toList := quote_not_mem_keyOf o.component _
  have hname := o.packageText.append o.nameText
  have hnew : some (l.key o) ∉ l.strings.map (·.1) :=
    hsound.newTexts o.component _ (Nat.lt_succ_self _)
  obtain ⟨fs₁, hadd, h₁⟩ := h.addKey o
  rw [writeComponent, Step.outcome_bind hadd, hv.isPresent]
  extract_lets name
  -- Without arguments, or for a service, the second file is not touched.
  by_cases hextras : (!o.arguments.isEmpty && takesExtras o.component) = true
  · obtain ⟨harguments, htakes⟩ := Bool.and_eq_true_iff.mp hextras
    have hne : o.arguments ≠ [] := by
      rintro hnil
      simp [hnil] at harguments
    obtain ⟨fs₂, hwrite, h₂⟩ :=
      writeExtras_outcome (d := { d with fs := fs₁ }) h₁ hkey o.arguments o.argumentTexts
    obtain ⟨fs₃, hset, h₃⟩ := Shows.addText (d := { d with fs := fs₂ }) h₂ hkey hquote hname hnew
    refine ⟨fs₃, ?_, ?_⟩
    · rw [if_pos hextras, hv.elements hne]
      dsimp only
      rw [Step.outcome_bind hwrite]
      exact hset
    · rw [Ledger.write, if_pos htakes]
      exact h₃
  · obtain ⟨fs₂, hset, h₂⟩ := Shows.addText (d := { d with fs := fs₁ }) h₁ hkey hquote hname hnew
    refine ⟨fs₂, ?_, ?_⟩
    · rw [if_neg hextras]
      exact hset
    · rw [Ledger.write]
      split
      · rename_i htakes
        have hnil : o.arguments = [] := by simpa [htakes] using hextras
        rw [hnil]
        exact h₂
      · exact h₂

/-! Findings. -/

/-- What a finding has to say about an exploit: nothing, not enough, or a whole component. -/
inductive Offers : Value → Option Offer → Prop
  | nothing : Offers .null none
  | lacking {entries : List (String × Value)} {part : String}
      (hpart : part ∈ ["exported_enum", "tag_name", "package_name"])
      (hmissing : (Value.table entries).get? part = none) : Offers (.table entries) none
  | whole {entries : List (String × Value)} (o : Offer)
      (hcomponent : (Value.table entries).get? "exported_enum" = some (.component o.component))
      (hname : (Value.table entries).get? "tag_name" = some (.text o.name))
      (hpackage : (Value.table entries).get? "package_name" = some (.text o.package))
      (harguments : IsArguments ((Value.table entries).get? "arguments") o.arguments) :
      Offers (.table entries) (some o)

theorem writeFinding_of_none {f : Finding} (h : Offers f.exploit none) (b : ExploitBench) :
    (writeFinding f).outcome b = (.ok (), b) := by
  rw [writeFinding]
  generalize f.exploit = e at h
  cases h with
  | nothing => rfl
  | @lacking entries part hpart hmissing =>
    simp only [List.mem_cons, List.not_mem_nil, or_false] at hpart
    split
    · rfl
    dsimp only
    split
    · rename_i c name package hcomponent hname hpackage
      rcases hpart with rfl | rfl | rfl <;> simp_all
    · rename_i kind name package hkind hname hpackage hother
      rcases hpart with rfl | rfl | rfl <;> simp_all
    · rfl

theorem writeFinding_of_some {f : Finding} {o : Offer} (h : Offers f.exploit (some o))
    {b : ExploitBench} (hvalues : b.exploit.values = some values)
    (hshows : Shows b.desk.fs values p l) (hsound : l.Sound) :
    ∃ fs', (writeFinding f).outcome b = (.ok (), { b with desk := { b.desk with fs := fs' } }) ∧
      Shows fs' values p (l.write o) := by
  rw [writeFinding]
  generalize f.exploit = e at h
  cases h with
  | @whole entries o hcomponent hname hpackage harguments =>
    have hpresent : (Value.table entries).isPresent = true := by
      cases entries with
      | nil => cases hname
      | cons => rfl
    obtain ⟨fs', hwrite, hshows'⟩ := writeComponent_outcome hshows hsound o harguments
    refine ⟨fs', ?_, hshows'⟩
    simp only [hpresent, hcomponent, hname, hpackage]
    rw [if_neg (by decide), Step.outcome_bind (outcome_demand "values" hvalues)]
    exact outcome_atDesk hwrite

theorem writeFindingsFrom_outcome {findings : List Finding} {offered : List (Option Offer)}
    (h : List.Forall₂ (fun f o => Offers f.exploit o) findings offered)
    {b : ExploitBench} (hvalues : b.exploit.values = some values)
    (hshows : Shows b.desk.fs values p l) (hsound : l.Sound) :
    ∃ fs', (writeFindingsFrom findings).outcome b =
        (.ok (), { b with desk := { b.desk with fs := fs' } }) ∧
      Shows fs' values p ((offered.filterMap id).foldl Ledger.write l) := by
  induction h generalizing b l with
  | nil => exact ⟨b.desk.fs, rfl, hshows⟩
  | @cons f o findings offered hf hrest ih =>
    cases o with
    | none =>
      obtain ⟨fs', hwrite, hshows'⟩ := ih hvalues hshows hsound
      refine ⟨fs', ?_, hshows'⟩
      rw [writeFindingsFrom, Step.outcome_bind (writeFinding_of_none hf b)]
      exact hwrite
    | some o =>
      obtain ⟨fs₁, hfirst, h₁⟩ := writeFinding_of_some hf hvalues hshows hsound
      obtain ⟨fs₂, hwrite, h₂⟩ :=
        ih (b := { b with desk := { b.desk with fs := fs₁ } }) hvalues h₁ (hsound.write o)
      refine ⟨fs₂, ?_, h₂⟩
      rw [writeFindingsFrom, Step.outcome_bind hfirst]
      exact hwrite

end

end Exploit

/-! The template. -/

namespace Shipped

open Resources (lists texts count allLists)

/-- What the files hold at first: one example of each kind of component, and no arguments. -/
def ledger : Ledger := ⟨lists intents.document, lists extras.document, texts strings.document⟩

theorem ledger_numbers : ledger.numbers = fun _ => 1 := by
  funext c
  cases c <;> decide +kernel

theorem names_without_digits :
    (ledger.strings.all fun t => t.1.all fun s => s.toList.all fun d => !d.isDigit) = true := by
  decide +kernel

theorem ledger_extras : ledger.extras = [] := rfl

theorem ledger_sound : ledger.Sound where
  distinct := by decide
  listed c := by cases c <;> decide
  newLists c n _ := by simp [ledger_extras]
  newTexts c n _ hmem := by
    obtain ⟨d, hd, hdigit⟩ := digit_mem_keyOf c n
    obtain ⟨t, ht, heq⟩ := List.mem_map.mp hmem
    have hname := List.all_eq_true.mp names_without_digits t ht
    rw [heq] at hname
    simpa [hdigit] using List.all_eq_true.mp hname d hd

theorem intents_isShallow : Resources.IsShallow intents.document := by
  rw [Resources.IsShallow]
  decide

theorem extras_isShallow : Resources.IsShallow extras.document := by
  rw [Resources.IsShallow]
  decide

/-- Files that hold the texts of the template hold its ledger. -/
theorem shows_ledger {fs : FileSystem} {values : String}
    (hintents : fs.readBytes (Path.tidy (Path.join values "intentID.xml")) =
      .ok intents.text.toUTF8)
    (hextras : fs.readBytes (Path.tidy (Path.join values "extraKeys.xml")) =
      .ok extras.text.toUTF8)
    (hstrings : fs.readBytes (Path.tidy (Path.join values "strings.xml")) =
      .ok strings.text.toUTF8) :
    ∃ p, Shows fs values p ledger := by
  obtain ⟨li, hli⟩ := FileSystem.leads_of_readBytes hintents
  obtain ⟨le, hle⟩ := FileSystem.leads_of_readBytes hextras
  obtain ⟨ls, hls⟩ := FileSystem.leads_of_readBytes hstrings
  have hi : Resources.Holds fs (Path.join values "intentID.xml") li intents.document :=
    ⟨_, hli, intents.read_text, intents.isRead_document.2, by decide⟩
  have he : Resources.Holds fs (Path.join values "extraKeys.xml") le extras.document :=
    ⟨_, hle, extras.read_text, extras.isRead_document.2, by decide⟩
  have hs : Resources.Holds fs (Path.join values "strings.xml") ls strings.document :=
    ⟨_, hls, strings.read_text, strings.isRead_document.2, by decide +kernel⟩
  refine ⟨⟨li, le, ls, ?_, ?_, ?_⟩, ⟨_, hi, ?_, rfl⟩, ⟨_, he, ?_, rfl⟩, ⟨_, hs, rfl⟩⟩
  -- The three documents differ, and so do the places of their files.
  · rintro rfl
    have hsame := congrArg (fun root => (lists root).length) (hi.unique he)
    revert hsame
    decide
  · rintro rfl
    have hsame := congrArg (fun root => (lists root).length) (hi.unique hs)
    revert hsame
    decide
  · rintro rfl
    have hsame := congrArg (fun root => (texts root).length) (he.unique hs)
    revert hsame
    decide
  · exact intents_isShallow
  · exact extras_isShallow

end Shipped

/-! A small app with two receivers and a service. -/

def valuesFiles (intents extras strings : ByteArray) : FileSystem where
  root := .directory [("values", .directory
    [("intentID.xml", .file intents false), ("extraKeys.xml", .file extras false),
      ("strings.xml", .file strings false)])]
  working := []

def offerValue (c : Component) (name : String) (arguments : List String) : Value :=
  .table [("exported_enum", .component c), ("tag_name", .text name),
    ("package_name", .text "com.shop"), ("arguments", .list (arguments.map .text))]

/-- Components among findings that say nothing or too little. -/
def shopFindings : List Finding :=
  [.null, offerValue .receiver ".In" ["user", "<&>", ""], .table [("tag_name", .text ".Lost")],
    offerValue .service ".Sync" ["user"], offerValue .receiver ".Out" []].map fun v =>
      { category := .null, name := .null, severity := .info, description := .null, exploit := v }

def shopOffer (c : Component) (name : String) (arguments : List String)
    (h : Xml.isSimpleText name = true) (harguments : arguments.all Xml.isSimpleText = true) :
    Offer where
  component := c
  package := "com.shop"
  name := name
  arguments := arguments
  packageText := Xml.isText_of_isSimpleText (by decide)
  nameText := Xml.isText_of_isSimpleText h
  argumentTexts a ha := Xml.isText_of_isSimpleText (List.all_eq_true.mp harguments a ha)

def shopBench : ExploitBench where
  desk :=
    { fs := valuesFiles Shipped.intents.text.toUTF8 Shipped.extras.text.toUTF8
        Shipped.strings.text.toUTF8 }
  exploit := { values := some "values", findings := shopFindings }

theorem offers_shopOffer (c : Component) (name : String) (arguments : List String)
    (h : Xml.isSimpleText name = true) (harguments : arguments.all Xml.isSimpleText = true) :
    Exploit.Offers (offerValue c name arguments) (some (shopOffer c name arguments h harguments)) :=
  .whole _ rfl rfl rfl (.list _)

theorem readBytes_valuesFiles (i e s : ByteArray) :
    (valuesFiles i e s).readBytes (Path.tidy (Path.join "values" "intentID.xml")) = .ok i ∧
    (valuesFiles i e s).readBytes (Path.tidy (Path.join "values" "extraKeys.xml")) = .ok e ∧
    (valuesFiles i e s).readBytes (Path.tidy (Path.join "values" "strings.xml")) = .ok s := by
  have hi : Path.tidy (Path.join "values" "intentID.xml") = "values/intentID.xml" := rfl
  have he : Path.tidy (Path.join "values" "extraKeys.xml") = "values/extraKeys.xml" := rfl
  have hs : Path.tidy (Path.join "values" "strings.xml") = "values/strings.xml" := rfl
  rw [hi, he, hs]
  exact ⟨FileSystem.readBytes_of_plainBytes rfl, FileSystem.readBytes_of_plainBytes rfl,
    FileSystem.readBytes_of_plainBytes rfl⟩

def shopOffered : List (Option Offer) :=
  [none, some (shopOffer .receiver ".In" ["user", "<&>", ""] (by decide) (by decide)), none,
    some (shopOffer .service ".Sync" ["user"] (by decide) (by decide)),
    some (shopOffer .receiver ".Out" [] (by decide) (by decide))]

theorem shopFindings_offered :
    List.Forall₂ (fun f o => Exploit.Offers f.exploit o) shopFindings shopOffered :=
  .cons .nothing (.cons (offers_shopOffer ..) (.cons (.lacking (List.mem_cons_self ..) rfl)
    (.cons (offers_shopOffer ..) (.cons (offers_shopOffer ..) .nil))))

/-! The whole work. -/

open Resources (readDocument allLists texts)

/-- The resources of the template with the components of all findings. Each component gets a key
of its own. The lists of keys, the arguments and the names are as the keys say, behind all lists and
texts of the template; findings that lack a part leave everything as it is. -/
theorem writeFindings_template {b : ExploitBench} {values : String}
    (hvalues : b.exploit.values = some values)
    (hintents : b.desk.fs.readBytes (Path.tidy (Path.join values "intentID.xml")) =
      .ok Shipped.intents.text.toUTF8)
    (hextras : b.desk.fs.readBytes (Path.tidy (Path.join values "extraKeys.xml")) =
      .ok Shipped.extras.text.toUTF8)
    (hstrings : b.desk.fs.readBytes (Path.tidy (Path.join values "strings.xml")) =
      .ok Shipped.strings.text.toUTF8)
    {offered : List (Option Offer)}
    (hoffered : List.Forall₂ (fun f o => Exploit.Offers f.exploit o) b.exploit.findings offered) :
    let keys := keyed (fun _ => 1) (offered.filterMap id)
    (∀ f, Exploit.Offers f.exploit none →
      ∀ b', (Exploit.writeFinding f).outcome b' = (.ok (), b')) ∧
    (keys.map (·.1)).Nodup ∧ keys.map (·.2) = offered.filterMap id ∧
    ∃ fs' intents extras strings,
      Exploit.writeFindings.outcome b = (.ok (), { b with desk := { b.desk with fs := fs' } }) ∧
      readDocument fs' (Path.tidy (Path.join values "intentID.xml")) = .ok intents ∧
      readDocument fs' (Path.tidy (Path.join values "extraKeys.xml")) = .ok extras ∧
      readDocument fs' (Path.tidy (Path.join values "strings.xml")) = .ok strings ∧
      (∀ c : Component, some c.listName ∈ (allLists intents).map (·.1)) ∧
      allLists intents = Ledger.listed (allLists Shipped.intents.document) keys ∧
      allLists extras = Ledger.extrasOf keys ∧
      texts strings = texts Shipped.strings.document ++ Ledger.textsOf keys := by
  intro keys
  obtain ⟨p, hshows⟩ := Shipped.shows_ledger hintents hextras hstrings
  obtain ⟨fs', hwrite, hafter⟩ :=
    Exploit.writeFindingsFrom_outcome hoffered hvalues hshows Shipped.ledger_sound
  rw [Ledger.foldl_write Shipped.ledger_sound, Shipped.ledger_numbers] at hafter
  obtain ⟨intents, hi, hishallow, hilists⟩ := hafter.intents
  obtain ⟨extras, he, heshallow, helists⟩ := hafter.extras
  obtain ⟨strings, hs, hstexts⟩ := hafter.strings
  have hall : allLists intents = Ledger.listed (allLists Shipped.intents.document) keys := by
    rw [Resources.allLists_of_isShallow hishallow, hilists,
      Resources.allLists_of_isShallow Shipped.intents_isShallow]
    rfl
  refine ⟨fun f hf b' => Exploit.writeFinding_of_none hf b', keyed_nodup _ _, keyed_offers _ _,
    fs', intents, extras, strings, hwrite, hi.readDocument, he.readDocument, hs.readDocument,
    ?_, hall, ?_, hstexts⟩
  · intro c
    rw [hall, Ledger.names_listed, Resources.allLists_of_isShallow Shipped.intents_isShallow]
    exact Shipped.ledger_sound.listed c
  · rw [Resources.allLists_of_isShallow heshallow, helists, Ledger.after, Shipped.ledger_extras,
      List.nil_append]

theorem writeFindings_template_shop :
    ∃ fs' intents extras strings,
      Exploit.writeFindings.outcome shopBench =
        (.ok (), { shopBench with desk := { shopBench.desk with fs := fs' } }) ∧
      readDocument fs' (Path.tidy (Path.join "values" "intentID.xml")) = .ok intents ∧
      readDocument fs' (Path.tidy (Path.join "values" "extraKeys.xml")) = .ok extras ∧
      readDocument fs' (Path.tidy (Path.join "values" "strings.xml")) = .ok strings ∧
      (some "exportedReceivers", [some "com.example.receiver.EXPORTED_RECEIVER", some "receiver2",
        some "receiver3"]) ∈ allLists intents ∧
      allLists extras = [(some "receiver2", [some "user", some "<&>", some ""])] ∧
      texts strings = texts Shipped.strings.document ++
        [(some "receiver2", some "com.shop.In"), (some "service2", some "com.shop.Sync"),
          (some "receiver3", some "com.shop.Out")] := by
  obtain ⟨hi, he, hs⟩ := readBytes_valuesFiles Shipped.intents.text.toUTF8
    Shipped.extras.text.toUTF8 Shipped.strings.text.toUTF8
  obtain ⟨-, -, -, fs', intents, extras, strings, hwrite, hi', he', hs', -, hlists, hextras,
    htexts⟩ := writeFindings_template (b := shopBench) rfl hi he hs shopFindings_offered
  refine ⟨fs', intents, extras, strings, hwrite, hi', he', hs', ?_, ?_, ?_⟩
  · rw [hlists]
    decide +kernel
  · rw [hextras]
    decide +kernel
  · rw [htexts]
    have hnew : Ledger.textsOf (keyed (fun _ => 1) (shopOffered.filterMap id)) =
        [(some "receiver2", some "com.shop.In"), (some "service2", some "com.shop.Sync"),
          (some "receiver3", some "com.shop.Out")] := by decide +kernel
    rw [hnew]

end DroidAudit
