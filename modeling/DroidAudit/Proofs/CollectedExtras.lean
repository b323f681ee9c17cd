import DroidAudit.Proofs.StoredNames
import DroidAudit.Proofs.Streams

/-! The extras that a search collects for a component. Of the source files whose path holds the name
of the component, the first one that ends the search decides: a file that declares a method through
which the component is entered and reads an extra by a literal, or one whose tree lies too deep. -/
namespace DroidAudit

namespace FileSystem

def treeAt? (fs : FileSystem) (file : String) : Option Java.Node :=
  match fs.textAt (some file) with
  | .ok text => (Java.read text).toOption
  | .error _ => none

/-- A file that can be opened and has a tree, or has a problem for which a search passes over it. -/
def Passable (fs : FileSystem) (file : String) : Prop :=
  (∃ f, fs.textAt (some file) = .error (.file f)) ∨
    ∃ text, fs.textAt (some file) = .ok text ∧ Java.IsTolerated text

end FileSystem

namespace ExportedDetector

def treesFor (fs : FileSystem) (needle : String) (files : List String) : List Java.Node :=
  (files.filter fun file => Text.contains file needle).filterMap fs.treeAt?

/-- The extras that a tree adds where none are known: those read in the nodes that are reached, if
one of these declares a method through which the component is entered. -/
def gained (methods : List String) (tree : Java.Node) : List String :=
  if (tree.reached.1.filterMap Java.Node.declaredMethod?).any methods.contains then
    (extraLiterals tree.reached.1).eraseDups
  else []

def ends (methods : List String) (tree : Java.Node) : Bool :=
  !(gained methods tree).isEmpty || !tree.reached.2

/-! One tree. -/

theorem addArguments_texts (known texts : List String) :
    addArguments (.list (known.map .text)) texts =
      .ok (.list ((known ++ (texts.removeAll known).eraseDups).map .text)) := by
  induction texts generalizing known with
  | nil => simp [addArguments]
  | cons t rest ih =>
    have hany : ((known.map Value.text).any fun item => item.same (.text t)) = known.contains t := by
      rw [List.any_map, Bool.eq_iff_iff]
      simp [Value.same]
    rw [addArguments, hany]
    by_cases ht : t ∈ known
    · have hcontains : known.contains t = true := by simpa using ht
      have hremove : (t :: rest).removeAll known = rest.removeAll known := by
        simp [List.removeAll, ht]
      rw [if_pos hcontains, ih known, hremove]
    · have hcontains : ¬known.contains t = true := by simpa using ht
      have hmore : known.map Value.text ++ [.text t] = (known ++ [t]).map Value.text := by simp
      have hremove : (t :: rest).removeAll known = t :: rest.removeAll known := by
        simp [List.removeAll, ht]
      have hfilter : (rest.removeAll known).filter (fun b => !b == t) =
          rest.removeAll (known ++ [t]) := by
        rw [List.removeAll, List.removeAll, List.filter_filter]
        exact List.filter_congr fun s _ => by by_cases hs : s = t <;> simp [hs]
      rw [if_neg hcontains, hmore, ih (known ++ [t]), hremove, List.eraseDups_cons, hfilter]
      simp

theorem setEntry_setEntry (entries : List (String × Value)) (key : String) (v w : Value) :
    setEntry (setEntry entries key v) key w = setEntry entries key w := by
  by_cases hany : (entries.any fun e => e.1 == key) = true
  · have hstill : ((entries.map fun e => if e.1 == key then (key, v) else e).any
        fun e => e.1 == key) = true := by
      obtain ⟨e, he, hkey⟩ := List.any_eq_true.mp hany
      exact List.any_eq_true.mpr ⟨(key, v), List.mem_map.mpr ⟨e, he, if_pos hkey⟩, BEq.rfl⟩
    rw [setEntry, setEntry, if_pos hany, if_pos hstill, setEntry, if_pos hany, List.map_map]
    refine List.map_congr_left fun e _ => ?_
    by_cases he : e.1 = key
    · simp [he]
    · simp [he]
  · have hthere : ((entries ++ [(key, v)]).any fun e => e.1 == key) = true := by simp
    have hold : (entries.map fun e => if e.1 == key then (key, w) else e) = entries := by
      have hsame : ∀ e ∈ entries, (if e.1 == key then (key, w) else e) = e := fun e he =>
        if_neg fun hkey => hany (List.any_eq_true.mpr ⟨e, he, hkey⟩)
      exact (List.map_congr_left hsame).trans entries.map_id
    rw [setEntry, setEntry, if_neg hany, if_pos hthere, setEntry, if_neg hany, List.map_append, hold]
    simp

def IsFresh (entries : List (String × Value)) : Prop :=
  ((Value.table entries).get? "arguments").getD (.list []) = .list []

def withExtras (entries : List (String × Value)) (extras : List String) : List (String × Value) :=
  setEntry entries "arguments" (.list (extras.map .text))

section
variable {entries : List (String × Value)} {methods : List String}

theorem get?_withExtras (entries : List (String × Value)) (extras : List String) :
    (Value.table (withExtras entries extras)).get? "arguments" = some (.list (extras.map .text)) :=
  get?_setEntry_same _ _ _

theorem withExtras_withExtras (entries : List (String × Value)) (before extras : List String) :
    withExtras (withExtras entries before) extras = withExtras entries extras :=
  setEntry_setEntry _ _ _ _

theorem isFresh_withExtras (entries : List (String × Value)) : IsFresh (withExtras entries []) := by
  rw [IsFresh, get?_withExtras]
  rfl

/-- A tree gives what it gains; it fails exactly if it lies too deep. -/
theorem addExtras_of_fresh (hfresh : IsFresh entries)
    (hmethods : entriesOf (.table entries) = .ok methods) (tree : Java.Node) :
    addExtras entries tree =
      (withExtras entries (gained methods tree), if tree.reached.2 then none else some .tooDeep) := by
  have hadded := addArguments_texts [] (extraLiterals tree.reached.1)
  have hresult : (if (tree.reached.1.filterMap Java.Node.declaredMethod?).isEmpty = true then
      (.ok (.list []) : Except Failure Value)
    else
      if (tree.reached.1.filterMap Java.Node.declaredMethod?).any methods.contains then
        addArguments (.list []) (extraLiterals tree.reached.1)
      else .ok (.list [])) = .ok (.list ((gained methods tree).map .text)) := by
    rw [List.map_nil, List.nil_append, List.removeAll_nil] at hadded
    rw [hadded, gained]
    split
    · rename_i hempty
      rw [List.isEmpty_iff.mp hempty]
      rfl
    split
    · rfl
    · rfl
  rw [IsFresh] at hfresh
  simp only [addExtras, hfresh, entriesOf_setEntry, hmethods, bind, Except.bind, hresult,
    setEntry_setEntry]
  rfl

theorem hasMore_withExtras (hfresh : IsFresh entries) (extras : List String) :
    hasMore entries (withExtras entries extras) = !extras.isEmpty := by
  rw [IsFresh] at hfresh
  simp only [hasMore, get?_withExtras]
  cases harguments : (Value.table entries).get? "arguments" with
  | none => cases extras <;> rfl
  | some v =>
    rw [harguments, Option.getD_some] at hfresh
    rw [hfresh]
    cases extras <;> rfl

/-! A list of files. -/

/-- The tree that ends a search through some trees. -/
def ending? (methods : List String) (trees : List Java.Node) : Option Java.Node :=
  trees.find? (ends methods)

/-- The extras that a search through some trees gives. -/
def collected (methods : List String) (trees : List Java.Node) : List String :=
  (ending? methods trees).elim [] (gained methods)

def stopped (methods : List String) (trees : List Java.Node) : Option Failure :=
  (ending? methods trees).bind fun tree => if tree.reached.2 then none else some .tooDeep

theorem gained_of_not_ends {tree : Java.Node} (h : ends methods tree = false) :
    gained methods tree = [] ∧ tree.reached.2 = true := by
  simpa [ends] using h

theorem collected_cons {tree : Java.Node} (h : ¬ends methods tree = true) (trees : List Java.Node) :
    collected methods (tree :: trees) = collected methods trees ∧
      stopped methods (tree :: trees) = stopped methods trees := by
  have hlater : ending? methods (tree :: trees) = ending? methods trees := List.find?_cons_of_neg h
  exact ⟨by rw [collected, hlater, collected], by rw [stopped, hlater, stopped]⟩

theorem treesFor_cons (fs : FileSystem) (needle file : String) (rest : List String) :
    treesFor fs needle (file :: rest) =
      (if Text.contains file needle then (fs.treeAt? file).toList else []) ++
        treesFor fs needle rest := by
  rw [treesFor, List.filter_cons]
  split
  · rw [List.filterMap_cons]
    cases fs.treeAt? file <;> rfl
  · rfl

/-- Behind files that are passed over a search goes on; a tree is searched. -/
theorem searchFiles_cons {fs : FileSystem} {needle file : String} {rest : List String}
    (hpass : fs.Passable file) (hfresh : IsFresh entries)
    (hmethods : entriesOf (.table entries) = .ok methods) :
    (treesFor fs needle (file :: rest) = treesFor fs needle rest ∧
        searchFiles fs needle (file :: rest) entries = searchFiles fs needle rest entries) ∨
      ∃ tree, treesFor fs needle (file :: rest) = tree :: treesFor fs needle rest ∧
        searchFiles fs needle (file :: rest) entries =
          if ends methods tree then
            (withExtras entries (gained methods tree),
              if tree.reached.2 then none else some .tooDeep)
          else searchFiles fs needle rest (withExtras entries []) := by
  rw [searchFiles, treesFor_cons]
  by_cases hneedle : Text.contains file needle = true
  · have hskip : ¬(!Text.contains file needle) = true := by simp [hneedle]
    rw [if_pos hneedle, if_neg hskip]
    rcases hpass with ⟨f, hat⟩ | ⟨text, hat, htolerated⟩
    · left
      rw [FileSystem.treeAt?, hat]
      exact ⟨rfl, rfl⟩
    · cases hread : Java.read text with
      | error e =>
        left
        have hpassed := htolerated e hread
        simp only [FileSystem.treeAt?, hat, hread, hpassed, if_true]
        exact ⟨rfl, trivial⟩
      | ok tree =>
        right
        refine ⟨tree, ?_, ?_⟩
        · simp only [FileSystem.treeAt?, hat, hread]
          rfl
        · simp only [hat, hread, addExtras_of_fresh hfresh hmethods]
          by_cases hends : ends methods tree = true
          · rw [if_pos hends]
            cases hwhole : tree.reached.2 with
            | false => rfl
            | true =>
              have hmore : hasMore entries (withExtras entries (gained methods tree)) = true := by
                rw [hasMore_withExtras hfresh]
                simpa [ends, hwhole] using hends
              simp only [if_true, hmore]
          · obtain ⟨hgained, hwhole⟩ := gained_of_not_ends (Bool.eq_false_iff.mpr hends)
            have hmore : hasMore entries (withExtras entries []) = false := by
              rw [hasMore_withExtras hfresh]
              rfl
            rw [if_neg hends, hgained, hwhole]
            simp only [if_true, hmore, Bool.false_eq_true, if_false]
  · left
    have hskip : (!Text.contains file needle) = true := by simpa using hneedle
    rw [if_neg hneedle, if_pos hskip]
    exact ⟨rfl, rfl⟩

/-- A search leaves what it finds in the tree that ends it, and an empty list if no tree does. If
there is no tree at all it leaves everything as it was. -/
theorem searchFiles_eq {fs : FileSystem} (needle : String) {files : List String}
    (hpass : ∀ file ∈ files, fs.Passable file) (hfresh : IsFresh entries)
    (hmethods : entriesOf (.table entries) = .ok methods) :
    searchFiles fs needle files entries =
      (if treesFor fs needle files = [] then entries
        else withExtras entries (collected methods (treesFor fs needle files)),
        stopped methods (treesFor fs needle files)) := by
  induction files generalizing entries with
  | nil => rfl
  | cons file rest ih =>
    rw [List.forall_mem_cons] at hpass
    rcases searchFiles_cons hpass.1 hfresh hmethods with ⟨htrees, hsearch⟩ | ⟨tree, htrees, hsearch⟩
    · rw [htrees, hsearch]
      exact ih hpass.2 hfresh hmethods
    · rw [htrees, hsearch, if_neg (List.cons_ne_nil tree _)]
      by_cases hends : ends methods tree = true
      · have hfirst : ending? methods (tree :: treesFor fs needle rest) = some tree :=
          List.find?_cons_of_pos hends
        rw [if_pos hends, collected, stopped, hfirst]
        rfl
      · obtain ⟨hcollected, hstopped⟩ := collected_cons hends (treesFor fs needle rest)
        have hmethods' : entriesOf (.table (withExtras entries [])) = .ok methods := by
          rw [withExtras, entriesOf_setEntry, hmethods]
        rw [if_neg hends, ih hpass.2 (isFresh_withExtras entries) hmethods', hcollected, hstopped,
          withExtras_withExtras]
        split
        · rename_i hnil
          rw [hnil]
          rfl
        · rfl

end

/-! Findings. -/

variable {f : Finding} {m : Manifest} {component : Component}

theorem exists_report {root : Xml.Element} (h : f ∈ fromManifest m root) :
    ∃ component name methods, IsReport m component name f ∧
      entryMethods component.word = some methods := by
  obtain ⟨⟨tag, component⟩, htag, hf⟩ := List.mem_flatMap.mp h
  obtain ⟨e, -, hf⟩ := List.mem_flatMap.mp hf
  have hmethods : ∀ t ∈ tags, (entryMethods t.2.word).isSome = true := by decide
  obtain ⟨methods, hmethods⟩ := Option.isSome_iff_exists.mp (hmethods _ htag)
  exact ⟨component, _, methods, tagFindings_reports m tag component e f hf, hmethods⟩

theorem entriesOf_of_kind {entries : List (String × Value)} {methods : List String}
    (hkind : (Value.table entries).get? "exported_enum" = some (.component component))
    (hmethods : entryMethods component.word = some methods) :
    entriesOf (.table entries) = .ok methods := by
  simp only [entriesOf, hkind, hmethods]

def firstEntries (component : Component) (name : String) : List (String × Value) :=
  [("exported_enum", .component component), ("tag_name", .text name), ("package_name", .text "")]

theorem IsReport.complete {name : String}
    (h : IsReport m component name f) (fs : FileSystem) (files : List String) :
    (complete fs files f).1.exploit = .table (searchFiles fs (Text.replace name "." "/") files
        (firstEntries component name)).1 ∧
      (complete fs files f).2 = (searchFiles fs (Text.replace name "." "/") files
        (firstEntries component name)).2 := by
  obtain ⟨title, severity, description, rfl⟩ := h
  exact ⟨rfl, rfl⟩

theorem IsReport.complete_eq {name : String}
    {methods : List String} (h : IsReport m component name f)
    (hmethods : entryMethods component.word = some methods) {fs : FileSystem} {files : List String}
    (hpass : ∀ file ∈ files, fs.Passable file) :
    (ExportedDetector.complete fs files f).1.exploit.get? "arguments" =
        (if treesFor fs (Text.replace name "." "/") files = [] then none
          else some (.list
            ((collected methods (treesFor fs (Text.replace name "." "/") files)).map .text))) ∧
      (ExportedDetector.complete fs files f).2 =
        stopped methods (treesFor fs (Text.replace name "." "/") files) := by
  obtain ⟨hexploit, hfailure⟩ := h.complete fs files
  have hfresh : IsFresh (firstEntries component name) := rfl
  rw [hexploit, hfailure, searchFiles_eq _ hpass hfresh (entriesOf_of_kind rfl hmethods)]
  refine ⟨?_, rfl⟩
  dsimp only
  split
  · rfl
  · exact get?_withExtras _ _

/-! The first file that contributes. -/

/-- A tree that declares a method through which the component is entered, and reads an extra by a
literal. -/
def contributes (methods : List String) (tree : Java.Node) : Bool :=
  (tree.walk.filterMap Java.Node.declaredMethod?).any methods.contains &&
    !(extraLiterals tree.walk).isEmpty

/-- The arguments that the first contributing tree gives: its literals, each where it first occurs.
If no tree contributes they are empty, and if there is no tree there are none. -/
def firstArguments (methods : List String) (trees : List Java.Node) : Option Value :=
  if trees = [] then none
  else some (.list (((trees.find? (contributes methods)).elim []
    fun tree => (extraLiterals tree.walk).eraseDups).map .text))

/-- No tree lies too deep, up to the first one that contributes. -/
def wholeUpToFirst (methods : List String) : List Java.Node → Bool
  | [] => true
  | tree :: rest => tree.reached.2 && (contributes methods tree || wholeUpToFirst methods rest)

section
variable {methods : List String}

theorem eraseDups_eq_nil_iff (texts : List String) : texts.eraseDups = [] ↔ texts = [] := by
  cases texts with
  | nil => simp
  | cons t rest => simp [List.eraseDups_cons]

theorem ends_of_whole {tree : Java.Node} (h : tree.reached.2 = true) :
    ends methods tree = contributes methods tree := by
  rw [ends, gained, contributes, Java.Node.reached_of_whole h, h, Bool.eq_iff_iff]
  split
  · rename_i hentered
    simp [hentered, eraseDups_eq_nil_iff]
  · rename_i hentered
    simp [hentered]

theorem gained_of_contributes {tree : Java.Node} (h : tree.reached.2 = true)
    (hcontributes : contributes methods tree = true) :
    gained methods tree = (extraLiterals tree.walk).eraseDups := by
  rw [contributes, Bool.and_eq_true] at hcontributes
  rw [gained, Java.Node.reached_of_whole h, if_pos hcontributes.1]

theorem stopped_eq_none_iff (methods : List String) (trees : List Java.Node) :
    stopped methods trees = none ↔ wholeUpToFirst methods trees = true := by
  induction trees with
  | nil => exact ⟨fun _ => rfl, fun _ => rfl⟩
  | cons tree rest ih =>
    rw [wholeUpToFirst]
    by_cases hends : ends methods tree = true
    · have hfirst : ending? methods (tree :: rest) = some tree := List.find?_cons_of_pos hends
      rw [stopped, hfirst, Option.bind_some]
      cases hwhole : tree.reached.2 with
      | false => simp
      | true =>
        rw [ends_of_whole hwhole] at hends
        simp [hends]
    · obtain ⟨-, hwhole⟩ := gained_of_not_ends (Bool.eq_false_iff.mpr hends)
      rw [(collected_cons hends rest).2, ih, hwhole]
      rw [ends_of_whole hwhole] at hends
      simp [hends]

theorem collected_of_whole {trees : List Java.Node} (h : wholeUpToFirst methods trees = true) :
    collected methods trees = (trees.find? (contributes methods)).elim []
      fun tree => (extraLiterals tree.walk).eraseDups := by
  induction trees with
  | nil => rfl
  | cons tree rest ih =>
    rw [wholeUpToFirst, Bool.and_eq_true, Bool.or_eq_true] at h
    obtain ⟨hwhole, hrest⟩ := h
    by_cases hcontributes : contributes methods tree = true
    · have hends : ends methods tree = true := (ends_of_whole hwhole).trans hcontributes
      have hfirst : ending? methods (tree :: rest) = some tree := List.find?_cons_of_pos hends
      rw [collected, hfirst, List.find?_cons_of_pos hcontributes]
      exact gained_of_contributes hwhole hcontributes
    · have hends : ¬ends methods tree = true := by rwa [ends_of_whole hwhole]
      rw [(collected_cons hends rest).1, List.find?_cons_of_neg hcontributes]
      exact ih (hrest.resolve_left hcontributes)

end

/-- Every finding on a component names a kind with known entry methods. If each file has a tree or a
problem that is passed over, completing the finding fails only on a tree that lies too deep. It ends
well with the arguments that the first contributing tree gives, exactly if no tree up to there lies
too deep. -/
theorem arguments_of_first_iff {m : Manifest} {root : Xml.Element} {f : Finding}
    (hf : f ∈ fromManifest m root) :
    ∃ component name methods, Records f component name ∧
      entryMethods component.word = some methods ∧
      ∀ (fs : FileSystem) (files : List String), (∀ file ∈ files, fs.Passable file) →
        ((complete fs files f).2 = none ∨ (complete fs files f).2 = some .tooDeep) ∧
        ((complete fs files f).2 = none ∧
            (complete fs files f).1.exploit.get? "arguments" =
              firstArguments methods (treesFor fs (Text.replace name "." "/") files) ↔
          wholeUpToFirst methods (treesFor fs (Text.replace name "." "/") files) = true) := by
  obtain ⟨component, name, methods, hreport, hmethods⟩ := exists_report hf
  refine ⟨component, name, methods, hreport.records, hmethods, fun fs files hpass => ?_⟩
  obtain ⟨harguments, hfailure⟩ := hreport.complete_eq hmethods hpass
  rw [hfailure, harguments, stopped_eq_none_iff]
  constructor
  · rw [← stopped_eq_none_iff, stopped]
    cases ending? methods (treesFor fs (Text.replace name "." "/") files) with
    | none => exact .inl rfl
    | some tree => cases hwhole : tree.reached.2 <;> simp [hwhole]
  · refine ⟨And.left, fun hwhole => ⟨hwhole, ?_⟩⟩
    rw [firstArguments, collected_of_whole hwhole]

/-! Two classes of one name. -/

def openActivity : Xml.Element :=
  .mk (.plain "manifest") [] none
    [(.mk (.plain "activity")
      [⟨⟨"android", "name", "http://schemas.android.com/apk/res/android"⟩, "A", .escaped⟩,
        ⟨⟨"android", "exported", "http://schemas.android.com/apk/res/android"⟩, "true", .escaped⟩]
      none [], "")]

def openFinding : Finding :=
  report {} .activity "A" "Exported tags" .warning (exportedText "activity" "A")

theorem openFinding_records : Records openFinding .activity "A" := ⟨rfl, rfl, rfl, [], rfl⟩

theorem openFinding_mem : openFinding ∈ fromManifest {} openActivity := by
  have hfound : fromManifest {} openActivity = [openFinding] := rfl
  rw [hfound]
  exact List.mem_singleton.mpr rfl

def firstSource : String := "class A\x7bvoid onCreate()\x7bgetStringExtra(\"x\");\x7d\x7d"

def secondSource : String := "class A\x7bvoid onCreate()\x7bgetStringExtra(\"y\");\x7d\x7d"

def readsExtra (text literal : String) : Bool :=
  match Java.read text with
  | .ok tree =>
    tree.reached.2 && contributes ["onCreate", "onStart"] tree &&
      extraLiterals tree.walk == [literal]
  | .error _ => false

def twoReaders : FileSystem where
  root := .directory
    [("a", .directory [("A.java", .file firstSource.toUTF8 false)]),
      ("b", .directory [("A.java", .file secondSource.toUTF8 false)])]
  working := []

theorem treeAt?_of_readsExtra {fs : FileSystem} {file text literal : String}
    (hat : fs.textAt (some file) = .ok text) (hreads : readsExtra text literal = true) :
    fs.Passable file ∧ ∃ tree, fs.treeAt? file = some tree ∧ tree.reached.2 = true ∧
      contributes ["onCreate", "onStart"] tree = true ∧ extraLiterals tree.walk = [literal] := by
  unfold readsExtra at hreads
  split at hreads
  · rename_i tree hread
    simp only [Bool.and_eq_true, beq_iff_eq] at hreads
    refine ⟨.inr ⟨text, hat, ?_⟩, tree, ?_, hreads.1.1, hreads.1.2, hreads.2⟩
    · intro e he
      rw [hread] at he
      cases he
    · simp only [FileSystem.treeAt?, hat, hread]
      rfl
  · cases hreads

theorem readsExtra_sources :
    readsExtra firstSource "\"x\"" = true ∧ readsExtra secondSource "\"y\"" = true := by
  have hfirst : firstSource.toList = _ := String.toList_ofList
  have hsecond : secondSource.toList = _ := String.toList_ofList
  rw [readsExtra, readsExtra, Java.read_of_toList hfirst, Java.read_of_toList hsecond]
  decide +kernel

theorem textAt_twoReaders :
    twoReaders.textAt (some "a/A.java") = .ok firstSource ∧
      twoReaders.textAt (some "b/A.java") = .ok secondSource :=
  ⟨FileSystem.textAt_of_plain firstSource.toUTF8 rfl (Text.plainText?_toUTF8 rfl (by decide)),
    FileSystem.textAt_of_plain secondSource.toUTF8 rfl (Text.plainText?_toUTF8 rfl (by decide))⟩

/-- Both files are searched for the activity, in the order in which they are given. -/
theorem treesFor_twoReaders :
    ∃ first second, twoReaders.treeAt? "a/A.java" = some first ∧
      twoReaders.treeAt? "b/A.java" = some second ∧
      treesFor twoReaders (Text.replace "A" "." "/") ["a/A.java", "b/A.java"] = [first, second] ∧
      treesFor twoReaders (Text.replace "A" "." "/") ["b/A.java", "a/A.java"] = [second, first] ∧
      (first.reached.2 = true ∧ contributes ["onCreate", "onStart"] first = true ∧
        extraLiterals first.walk = ["\"x\""]) ∧
      second.reached.2 = true ∧ contributes ["onCreate", "onStart"] second = true ∧
        extraLiterals second.walk = ["\"y\""] := by
  obtain ⟨-, first, hfirst, hx⟩ := treeAt?_of_readsExtra textAt_twoReaders.1 readsExtra_sources.1
  obtain ⟨-, second, hsecond, hy⟩ := treeAt?_of_readsExtra textAt_twoReaders.2 readsExtra_sources.2
  have hneedle : Text.contains "a/A.java" (Text.replace "A" "." "/") = true ∧
      Text.contains "b/A.java" (Text.replace "A" "." "/") = true := ⟨rfl, rfl⟩
  refine ⟨first, second, hfirst, hsecond, ?_, ?_, hx, hy⟩
  · simp only [treesFor_cons, hneedle, hfirst, hsecond, if_true]
    rfl
  · simp only [treesFor_cons, hneedle, hfirst, hsecond, if_true]
    rfl

theorem passable_twoReaders (file : String) (h : file = "a/A.java" ∨ file = "b/A.java") :
    twoReaders.Passable file := by
  rcases h with rfl | rfl
  · exact (treeAt?_of_readsExtra textAt_twoReaders.1 readsExtra_sources.1).1
  · exact (treeAt?_of_readsExtra textAt_twoReaders.2 readsExtra_sources.2).1

theorem arguments_of_first_iff_two :
    openFinding ∈ fromManifest {} openActivity ∧
      (complete twoReaders ["b/A.java", "a/A.java"] openFinding).2 = none ∧
      (complete twoReaders ["b/A.java", "a/A.java"] openFinding).1.exploit.get? "arguments" =
        some (.list [.text "\"y\""]) := by
  obtain ⟨component, name, methods, hrecords, hmethods, hsearch⟩ :=
    arguments_of_first_iff openFinding_mem
  obtain ⟨rfl, rfl⟩ := hrecords.unique openFinding_records
  obtain rfl : ["onCreate", "onStart"] = methods := Option.some.inj hmethods
  obtain ⟨first, second, -, -, -, htrees, -, hwhole, hcontributes, hliterals⟩ := treesFor_twoReaders
  obtain ⟨-, hfirst⟩ := hsearch twoReaders ["b/A.java", "a/A.java"]
    (by simpa using ⟨passable_twoReaders _ (.inr rfl), passable_twoReaders _ (.inl rfl)⟩)
  rw [htrees] at hfirst
  obtain ⟨hnone, harguments⟩ := hfirst.mpr (by rw [wholeUpToFirst, hwhole, hcontributes]; rfl)
  refine ⟨openFinding_mem, hnone, harguments.trans ?_⟩
  rw [firstArguments, List.find?_cons_of_pos hcontributes, Option.elim_some, hliterals]
  rfl

end ExportedDetector
end DroidAudit
