import DroidAudit.Proofs.ExportedReport
import DroidAudit.Proofs.FirstLook
import DroidAudit.Proofs.PlainPath

/-! Source files that cannot be read. An observer of trees and the search for extras each pass over
some of the problems that a source file can have. Main statement: which content of a file an update
gets through, and with which content a search gets through every list of files. The two differ:
bytes that are no text stop the search only. -/
namespace DroidAudit

/-- The text of bytes as the content of a file, with unified line ends. -/
def Text.ofContent? (bytes : ByteArray) : Option String :=
  if (utf8Fault bytes).isSome then none
  else some (String.ofList (unifyNewlines (utf8Text bytes).toList))

namespace Java

def IsTolerated (text : String) : Prop := ∀ e, read text = .error e → e.isPassedOver = true

def PassesUpdate (bytes : ByteArray) : Prop :=
  ∀ text, Text.ofContent? bytes = some text → text ≠ "" → IsTolerated text

/-- Content of a file that a search gets through: text with a tree that does not lie too deep, or
with a problem that is passed over. -/
def PassesSearch (bytes : ByteArray) : Prop :=
  ∃ text, Text.ofContent? bytes = some text ∧ IsTolerated text ∧
    ∀ tree, read text = .ok tree → tree.reached.2 = true

end Java

namespace FileSystem

/-- Content that is text is what is read; other content is a failure of its own. -/
theorem textAt_of_readBytes {fs : FileSystem} {path : String} {bytes : ByteArray}
    (h : fs.readBytes path = .ok bytes) :
    (∃ text, Text.ofContent? bytes = some text ∧ fs.textAt (some path) = .ok text) ∨
      Text.ofContent? bytes = none ∧ ∃ f, fs.textAt (some path) = .error (.undecodable f) := by
  have hbytes : fs.bytesAt (some path) = .ok bytes := by
    rw [bytesAt, h]
    rfl
  unfold Text.ofContent?
  cases hfault : Text.utf8Fault bytes with
  | none =>
    left
    exact ⟨_, rfl, by simp only [textAt, hbytes, bind, Except.bind, hfault]⟩
  | some f =>
    right
    exact ⟨rfl, f, by simp only [textAt, hbytes, bind, Except.bind, hfault]⟩

def Searchable (fs : FileSystem) (file : String) : Prop :=
  (∃ f, fs.textAt (some file) = .error (.file f)) ∨
    ∃ bytes, fs.readBytes file = .ok bytes ∧ Java.PassesSearch bytes

end FileSystem

namespace Observer

/-- The first update of an observer of trees fails only where the text has a problem that is not
passed over. -/
theorem update_first_none_iff (w : Surroundings) {d : Detector} (hd : d.SeesTree) {path : String}
    (hj : Path.isJavaFile path = true) {bytes : ByteArray} (hb : w.fs.readBytes path = .ok bytes)
    (callRun : Bool) :
    (update { detector := d } w {} (some path) callRun).failure = none ↔ Java.PassesUpdate bytes := by
  have hp : path ≠ "" := by
    rintro rfl
    exact absurd hj (by decide)
  have hruns : ∀ (o : Observer) (s : Shared), (o.runOnTree w s callRun).failure = none := by
    intro o s
    unfold runOnTree
    split <;> rfl
  rw [update_of_tree hd, updateTree_first w d (.inl rfl) hp hj]
  rcases FileSystem.textAt_of_readBytes hb with ⟨text, htext, hat⟩ | ⟨hnone, f, hat⟩
  · have hiff : Java.PassesUpdate bytes ↔ (text ≠ "" → Java.IsTolerated text) := by
      simp [Java.PassesUpdate, htext]
    rw [hiff]
    simp only [hat]
    by_cases hempty : text = ""
    · simp [hempty]
    · have hfilled : ¬text.isEmpty = true := by simpa using hempty
      rw [if_neg hfilled]
      cases hread : Java.read text with
      | ok tree => simp [hruns, Java.IsTolerated, hread]
      | error e =>
        cases hpassed : e.isPassedOver <;> simp [hpassed, hempty, Java.IsTolerated, hread]
  · simp [hat, Failure.isOfFile, Java.PassesUpdate, hnone]

end Observer

namespace ExportedDetector

/-- What is known for the exploit of a component: its kind is one that is entered through methods,
and its arguments are a list, if there are any yet. -/
structure IsOffer (entries : List (String × Value)) : Prop where
  methods : ∃ methods, entriesOf (.table entries) = .ok methods
  arguments : ∃ items, ((Value.table entries).get? "arguments").getD (.list []) = .list items

theorem isOffer_activity : IsOffer [("exported_enum", .component .activity)] :=
  ⟨⟨_, rfl⟩, [], rfl⟩

theorem addArguments_list (items : List Value) (texts : List String) :
    ∃ added : List String,
      addArguments (.list items) texts = .ok (.list (items ++ added.map .text)) := by
  induction texts generalizing items with
  | nil => exact ⟨[], by simp [addArguments]⟩
  | cons t rest ih =>
    rw [addArguments]
    split
    · exact ih items
    · obtain ⟨added, hadded⟩ := ih (items ++ [.text t])
      exact ⟨t :: added, by simp [hadded]⟩

theorem get?_setEntry_same (entries : List (String × Value)) (key : String) (v : Value) :
    (Value.table (setEntry entries key v)).get? key = some v := by
  simp only [Value.get?, setEntry]
  split
  · rename_i hany
    have hsame : ((fun e : String × Value => e.1 == key) ∘
        fun e => if e.1 == key then (key, v) else e) = fun e => e.1 == key := by
      funext e
      by_cases he : e.1 = key
      · simp [he]
      · simp [he]
    obtain ⟨e, hfind⟩ := Option.isSome_iff_exists.mp (List.find?_isSome.mpr (List.any_eq_true.mp hany))
    have he : e.1 = key := by simpa using List.find?_some hfind
    rw [List.find?_map, hsame, hfind]
    simp [he]
  · rename_i hany
    have hnone : entries.find? (fun e => e.1 == key) = none := by
      rw [List.find?_eq_none]
      exact fun e he hkey => hany (List.any_eq_true.mpr ⟨e, he, hkey⟩)
    rw [List.find?_append, hnone]
    simp

theorem entriesOf_setEntry (entries : List (String × Value)) (v : Value) :
    entriesOf (.table (setEntry entries "arguments" v)) = entriesOf (.table entries) := by
  rw [entriesOf, entriesOf, get?_setEntry v (by decide)]

theorem IsOffer.setEntry {entries : List (String × Value)} (h : IsOffer entries)
    (items : List Value) : IsOffer (setEntry entries "arguments" (.list items)) where
  methods := by
    obtain ⟨methods, hmethods⟩ := h.methods
    exact ⟨methods, by rw [entriesOf_setEntry, hmethods]⟩
  arguments := ⟨items, by rw [get?_setEntry_same, Option.getD_some]⟩

theorem addExtras_of_offer {entries : List (String × Value)} (h : IsOffer entries)
    (tree : Java.Node) :
    IsOffer (addExtras entries tree).1 ∧
      ((addExtras entries tree).2 = none ↔ tree.reached.2 = true) := by
  obtain ⟨methods, hmethods⟩ := h.methods
  obtain ⟨items, hitems⟩ := h.arguments
  have hknown := h.setEntry items
  simp only [addExtras, hitems, entriesOf_setEntry, hmethods, bind, Except.bind]
  generalize tree.reached = reached
  obtain ⟨nodes, whole⟩ := reached
  obtain ⟨more, hmore⟩ := addArguments_list items (extraLiterals nodes)
  generalize hresult : (if (nodes.filterMap Java.Node.declaredMethod?).isEmpty = true then _ else _ :
    Except Failure Value) = result
  have hlist : ∃ all, result = .ok (.list all) := by
    rw [← hresult, hmore]
    split
    · exact ⟨items, rfl⟩
    split
    · exact ⟨_, rfl⟩
    · exact ⟨items, rfl⟩
  obtain ⟨all, rfl⟩ := hlist
  exact ⟨hknown.setEntry all, by cases whole <;> simp⟩

theorem searchFiles_none {fs : FileSystem} (needle : String) {files : List String}
    (h : ∀ f ∈ files, fs.Searchable f) {entries : List (String × Value)} (hoffer : IsOffer entries) :
    (searchFiles fs needle files entries).2 = none := by
  induction files generalizing entries with
  | nil => rfl
  | cons file rest ih =>
    have hrest : ∀ {entries}, IsOffer entries → (searchFiles fs needle rest entries).2 = none :=
      fun hoffer => ih (fun f hf => h f (by simp [hf])) hoffer
    rw [searchFiles]
    split
    · exact hrest hoffer
    rcases h file (by simp) with ⟨f, hat⟩ | ⟨bytes, hbytes, text, htext, htolerated, hdeep⟩
    · rw [hat]
      exact hrest hoffer
    have hat : fs.textAt (some file) = .ok text := by
      rcases FileSystem.textAt_of_readBytes hbytes with ⟨text', htext', hat⟩ | ⟨hnone, -⟩
      · rw [htext, Option.some.injEq] at htext'
        rw [hat, htext']
      · rw [htext] at hnone
        cases hnone
    simp only [hat]
    cases hread : Java.read text with
    | error e =>
      simp only [htolerated e hread, if_true]
      exact hrest hoffer
    | ok tree =>
      have hadded := addExtras_of_offer hoffer tree
      have hfine := hadded.2.mpr (hdeep tree hread)
      cases hfound : addExtras entries tree with
      | mk found e =>
        rw [hfound] at hadded hfine
        cases hfine
        simp only [hfound]
        split
        · rfl
        · exact hrest hadded.1

theorem contains_empty (s : String) : Text.contains s "" = true := by
  have hword : "".toList = [] := rfl
  rw [Text.contains, hword]
  cases s.toList with
  | nil => rfl
  | cons c cs => rfl

/-- With content that it does not get through, a search fails on the file alone. -/
theorem passesSearch_of_none {fs : FileSystem} {path : String} {bytes : ByteArray}
    (hb : fs.readBytes path = .ok bytes) {entries : List (String × Value)} (hoffer : IsOffer entries)
    (h : (searchFiles fs "" [path] entries).2 = none) : Java.PassesSearch bytes := by
  rw [searchFiles, contains_empty] at h
  simp only [Bool.not_true, Bool.false_eq_true, if_false] at h
  rcases FileSystem.textAt_of_readBytes hb with ⟨text, htext, hat⟩ | ⟨hnone, f, hat⟩
  · simp only [hat] at h
    refine ⟨text, htext, ?_, ?_⟩
    · intro e he
      cases hpassed : e.isPassedOver with
      | true => rfl
      | false => simp [he, hpassed] at h
    · intro tree htree
      simp only [htree] at h
      have hadded := (addExtras_of_offer hoffer tree).2
      cases hfound : addExtras entries tree with
      | mk found e =>
        rw [hfound] at hadded h
        cases e with
        | none => exact hadded.mp rfl
        | some e => cases h
  · simp [hat] at h

end ExportedDetector

/-- Whatever a Java file holds, an update gets through exactly if the content is no text, or no text
with a problem that is not passed over. A search gets through all lists of files with the file in
them, if it gets through the others, exactly if the content is a text without such a problem and its
tree does not lie too deep. -/
theorem Java.content_passes_iff (w : Surroundings) (d : Detector) (hd : d.SeesTree) (path : String)
    (hj : Path.isJavaFile path = true) (bytes : ByteArray) (hb : w.fs.readBytes path = .ok bytes)
    (callRun : Bool) :
    ((Observer.update { detector := d } w {} (some path) callRun).failure = none ↔
        Java.PassesUpdate bytes) ∧
      ((∀ files needle entries, path ∈ files → (∀ f ∈ files, f ≠ path → w.fs.Searchable f) →
          ExportedDetector.IsOffer entries →
          (ExportedDetector.searchFiles w.fs needle files entries).2 = none) ↔
        Java.PassesSearch bytes) := by
  refine ⟨Observer.update_first_none_iff w hd hj hb callRun, ?_, ?_⟩
  · intro h
    exact ExportedDetector.passesSearch_of_none hb ExportedDetector.isOffer_activity
      (h [path] "" _ (by simp) (by simp) ExportedDetector.isOffer_activity)
  · intro h files needle entries _ hothers hoffer
    refine ExportedDetector.searchFiles_none needle (fun f hf => ?_) hoffer
    by_cases hpath : f = path
    · exact .inr ⟨bytes, hpath ▸ hb, h⟩
    · exact hothers f hf hpath

def FileSystem.oneSource (bytes : ByteArray) : FileSystem where
  root := .directory [("A.java", .file bytes false)]
  working := []

/-- Bytes that are no text are passed over by an update and stop a search. -/
theorem Java.content_passes_iff_undecodable :
    (FileSystem.oneSource ⟨#[0xff]⟩).readBytes "A.java" = .ok ⟨#[0xff]⟩ ∧
      (Observer.update { detector := .logging } ⟨.oneSource ⟨#[0xff]⟩, {}⟩ {} (some "A.java")
        true).failure = none ∧
      ¬∀ files needle entries, "A.java" ∈ files →
        (∀ f ∈ files, f ≠ "A.java" → (FileSystem.oneSource ⟨#[0xff]⟩).Searchable f) →
        ExportedDetector.IsOffer entries →
        (ExportedDetector.searchFiles (.oneSource ⟨#[0xff]⟩) needle files entries).2 = none := by
  have hb : (FileSystem.oneSource ⟨#[0xff]⟩).readBytes "A.java" = .ok ⟨#[0xff]⟩ :=
    FileSystem.readBytes_of_plainBytes (by decide +kernel)
  have hnone : Text.ofContent? ⟨#[0xff]⟩ = none := by decide +kernel
  obtain ⟨hupdate, hsearch⟩ := Java.content_passes_iff ⟨.oneSource ⟨#[0xff]⟩, {}⟩ .logging
    (.inr ⟨true, rfl⟩) "A.java" (by decide) ⟨#[0xff]⟩ hb true
  refine ⟨hb, hupdate.mpr ?_, fun h => ?_⟩
  · intro text htext
    rw [hnone] at htext
    cases htext
  · obtain ⟨text, htext, -⟩ := hsearch.mp h
    rw [hnone] at htext
    cases htext

def Java.straySource : String := "class A \x7b#\x7d"

theorem Java.read_straySource : Java.read Java.straySource =
    .error (.lexical (.problem .strayCharacter "#" 1 "class A \x7b#")) := rfl

/-- A stray sign stops both an update and a search for what an activity reads. -/
theorem Java.stray_sign_stops :
    (Observer.update { detector := .logging } ⟨.oneSource straySource.toUTF8, {}⟩ {}
        (some "A.java") false).failure ≠ none ∧
      ∀ entries, (ExportedDetector.searchFiles (.oneSource straySource.toUTF8) "A" ["A.java"]
        entries).2 ≠ none := by
  have hb : (FileSystem.oneSource straySource.toUTF8).readBytes "A.java" =
      .ok straySource.toUTF8 := FileSystem.readBytes_of_plainBytes (by decide +kernel)
  have hat : (FileSystem.oneSource straySource.toUTF8).textAt (some "A.java") = .ok straySource :=
    FileSystem.textAt_of_plain straySource.toUTF8 (by decide +kernel) (by decide +kernel)
  have hstops : SourceError.isPassedOver (.lexical (.problem .strayCharacter "#" 1 "class A \x7b#")) =
      false := rfl
  constructor
  · intro h
    have hpasses := (Observer.update_first_none_iff ⟨.oneSource straySource.toUTF8, {}⟩
      (.inr ⟨true, rfl⟩) (by decide) hb false).mp h
    rcases FileSystem.textAt_of_readBytes hb with ⟨text, htext, hread⟩ | ⟨-, f, hread⟩
    · rw [hat, Except.ok.injEq] at hread
      rw [← hread] at htext
      have hpassed := hpasses straySource htext (by decide) _ read_straySource
      rw [hstops] at hpassed
      cases hpassed
    · rw [hat] at hread
      cases hread
  · intro entries h
    have hcontains : Text.contains "A.java" "A" = true := by decide +kernel
    rw [ExportedDetector.searchFiles] at h
    simp only [hcontains, Bool.not_true, Bool.false_eq_true, if_false, hat, read_straySource,
      hstops] at h
    cases h

end DroidAudit
