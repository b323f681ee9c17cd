import DroidAudit.Proofs.ResourceFiles

/-! Resource files as they stand, with their layout and comments, and the documents that are read
from them. The files that the template app comes with are of that kind. -/
namespace DroidAudit
namespace Xml

inductive Piece
  | text (s : String)
  | comment (s : String)
  | element (tag : String) (name : Option String) (inner : List Piece)

abbrev Gathered := List Char × List (Element × String)

namespace Piece

def attributesOf : Option String → List Attribute
  | none => []
  | some name => [⟨.plain "name", name, .escaped⟩]

mutual
def chars : Piece → List Char
  | .text s => s.toList
  | .comment s => '<' :: '!' :: '-' :: '-' :: s.toList ++ ['-', '-', '>']
  | .element tag name inner =>
    '<' :: (tag.toList ++ ((attributesOf name).flatMap attributeChars ++
      '>' :: (charsOf inner ++ '<' :: '/' :: (tag.toList ++ ['>']))))

def charsOf : List Piece → List Char
  | [] => []
  | piece :: rest => piece.chars ++ charsOf rest
end

def elementOf (tag : String) (name : Option String) (inner : Gathered) : Element :=
  .mk (.plain tag) (attributesOf name) (some (String.ofList (Text.ofChars inner.1))) inner.2

mutual
def inFrontOf (behind : Gathered) : Piece → Gathered
  | .text s => (s.toList ++ behind.1, behind.2)
  | .comment _ => behind
  | .element tag name inner =>
    ([], (elementOf tag name (gathered inner), String.ofList (Text.ofChars behind.1)) :: behind.2)

def gathered : List Piece → Gathered
  | [] => ([], [])
  | piece :: rest => inFrontOf (gathered rest) piece
end

mutual
/-- Whether a piece is of plain characters without signs that would have to be escaped. -/
def isSimple : Piece → Bool
  | .text s => s.toList.all fun c => isPlainChar c && !textSigns.contains c
  | .comment s => s.toList.all fun c => isPlainChar c && c != '-'
  | .element tag name inner => isSimpleName tag && name.all isSimpleText && areSimple inner

def areSimple : List Piece → Bool
  | [] => true
  | piece :: rest => piece.isSimple && areSimple rest
end

theorem attributesOf_kept {name : Option String} (h : name.all isSimpleText = true) :
    (∀ a ∈ attributesOf name, a.Kept) ∧ ((attributesOf name).map (·.name.part)).Nodup := by
  have hpart : isSimpleName "name" = true := by decide
  have hdeclaring : "name" ≠ "xmlns" := by decide
  cases name with
  | none => simp [attributesOf]
  | some name =>
    refine ⟨?_, by simp [attributesOf]⟩
    intro a ha
    rw [List.mem_singleton.mp ha]
    exact ⟨⟨rfl, hpart⟩, hdeclaring, rfl, isText_of_isSimpleText h⟩

theorem isRead_elementOf {tag : String} {name : Option String} {inner : List Piece}
    (htag : isSimpleName tag = true) (hname : name.all isSimpleText = true)
    (h : Content (charsOf inner) (gathered inner).1 (gathered inner).2) :
    IsRead (Piece.element tag name inner).chars (elementOf tag name (gathered inner)) ∧
      (elementOf tag name (gathered inner)).Kept := by
  obtain ⟨hattributes, hnodup⟩ := attributesOf_kept hname
  obtain ⟨htext, hchildren, htails⟩ := h.kept
  have hplain : (Name.plain tag).Kept := ⟨rfl, htag⟩
  exact ⟨isRead_of_content hplain hattributes hnodup h,
    .mk hplain hattributes hnodup htext hchildren htails⟩

mutual
theorem content_inFrontOf (piece : Piece) (h : piece.isSimple = true) {cs : List Char}
    {behind : Gathered} (hbehind : Content cs behind.1 behind.2) :
    Content (piece.chars ++ cs) (inFrontOf behind piece).1 (inFrontOf behind piece).2 := by
  cases piece with
  | text s =>
    rw [isSimple] at h
    rw [chars, inFrontOf]
    exact hbehind.run h
  | comment s =>
    rw [isSimple] at h
    rw [chars, inFrontOf]
    have hbody : '-' ∉ s.toList := by
      intro hmem
      simpa using List.all_eq_true.mp h '-' hmem
    simpa using Content.comment hbody hbehind
  | element tag name inner =>
    rw [isSimple, Bool.and_eq_true, Bool.and_eq_true] at h
    obtain ⟨⟨htag, hname⟩, hinner⟩ := h
    obtain ⟨hread, hkept⟩ := isRead_elementOf htag hname (content_gathered inner hinner)
    rw [inFrontOf]
    exact .element hread hkept hbehind

theorem content_gathered (pieces : List Piece) (h : areSimple pieces = true) :
    Content (charsOf pieces) (gathered pieces).1 (gathered pieces).2 := by
  cases pieces with
  | nil => exact .nil
  | cons piece rest =>
    rw [areSimple, Bool.and_eq_true] at h
    rw [charsOf, gathered]
    exact content_inFrontOf piece h.1 (content_gathered rest h.2)
end

mutual
theorem chars_plain (piece : Piece) (h : piece.isSimple = true) :
    ∀ d ∈ piece.chars, isPlainChar d = true := by
  cases piece with
  | text s =>
    rw [isSimple, List.all_eq_true] at h
    rw [chars]
    exact fun d hd => (Bool.and_eq_true_iff.mp (h d hd)).1
  | comment s =>
    rw [isSimple, List.all_eq_true] at h
    have hwords : ∀ d ∈ s.toList, isPlainChar d = true := fun d hd =>
      (Bool.and_eq_true_iff.mp (h d hd)).1
    simp only [chars, List.forall_mem_append, List.forall_mem_cons]
    exact ⟨⟨rfl, rfl, rfl, rfl, hwords⟩, rfl, rfl, rfl, by simp⟩
  | element tag name inner =>
    rw [isSimple, Bool.and_eq_true, Bool.and_eq_true] at h
    obtain ⟨⟨htag, hname⟩, hinner⟩ := h
    have hstart := attributesChars_plain (attributesOf_kept hname).1
    have hword := simpleName_plain htag
    simp only [chars, List.forall_mem_append, List.forall_mem_cons]
    exact ⟨rfl, hword, hstart, rfl, charsOf_plain inner hinner, rfl, rfl, hword, rfl, by simp⟩

theorem charsOf_plain (pieces : List Piece) (h : areSimple pieces = true) :
    ∀ d ∈ charsOf pieces, isPlainChar d = true := by
  cases pieces with
  | nil => simp [charsOf]
  | cons piece rest =>
    rw [areSimple, Bool.and_eq_true] at h
    rw [charsOf, List.forall_mem_append]
    exact ⟨chars_plain piece h.1, charsOf_plain rest h.2⟩
end

theorem areSimple_append (xs ys : List Piece) :
    areSimple (xs ++ ys) = (areSimple xs && areSimple ys) := by
  induction xs with
  | nil => rfl
  | cons x xs ih => rw [List.cons_append, areSimple, areSimple, ih, Bool.and_assoc]

end Piece

/-! Declarations. -/

def usualSettings : List Char := " version=\"1.0\" encoding=\"utf-8\"".toList

def usualFront : List Char := "<?xml".toList ++ usualSettings ++ "?>".toList

theorem declaration_usualFront (tail : List Char) :
    declaration (usualFront ++ tail) =
      .ok (⟨some ("utf-8", "utf-8\"".toList ++ ("?>".toList ++ tail)), false⟩, tail) := by
  have hfront : usualFront ++ tail =
      "<?xml".toList ++ ' ' :: (usualSettings.drop 1 ++ ("?>".toList ++ tail)) := rfl
  have hsettings : settings (' ' :: usualSettings.drop 1) =
      .ok ⟨some ("utf-8", "utf-8\"".toList), false⟩ := rfl
  rw [hfront]
  exact declaration_of_settings hsettings rfl

theorem read_usualFront {es : List Char} {root : Element} (h : IsRead es root)
    (hes : ∀ d ∈ es, isPlainChar d = true) :
    read .tree (String.ofList (usualFront ++ (['\n'] ++ (es ++ ['\n'])))).toUTF8 = .ok root := by
  have hencoding : KnownEncoding.ofName? "utf-8" = some .utf8 := by decide +kernel
  have hlist : (String.ofList (usualFront ++ (['\n'] ++ (es ++ ['\n'])))).toList =
      usualFront ++ (['\n'] ++ (es ++ ['\n'])) := String.toList_ofList
  have hopen : usualFront ++ (['\n'] ++ (es ++ ['\n'])) =
      '<' :: '?' :: (usualFront.drop 2 ++ (['\n'] ++ (es ++ ['\n']))) := rfl
  have hfront := declaration_usualFront (['\n'] ++ (es ++ ['\n']))
  rw [← hlist] at hfront
  have hdocument := documentOf_of_isRead h ['\n'] ['\n'] (List.all_eq_true.mp rfl)
    (List.all_eq_true.mp rfl)
  refine read_of_plain (hlist.trans hopen) ?_ hfront ?_ hdocument
  · simp only [hlist, List.forall_mem_append]
    exact ⟨List.all_eq_true.mp rfl, List.all_eq_true.mp rfl, hes, List.all_eq_true.mp rfl⟩
  · rintro e heq
    cases heq
    exact hencoding

end Xml

/-! Files. -/

structure ResourceFile where
  declared : Bool
  pieces : List Xml.Piece
  simple : Xml.Piece.areSimple pieces = true

namespace ResourceFile

def front (f : ResourceFile) : List Char := if f.declared then Xml.usualFront ++ ['\n'] else []

def root (f : ResourceFile) : Xml.Piece := .element "resources" none f.pieces

def text (f : ResourceFile) : String := String.ofList (f.front ++ (f.root.chars ++ ['\n']))

def document (f : ResourceFile) : Xml.Element :=
  Xml.Piece.elementOf "resources" none (Xml.Piece.gathered f.pieces)

theorem isRead_document (f : ResourceFile) :
    Xml.IsRead f.root.chars f.document ∧ f.document.Kept :=
  Xml.Piece.isRead_elementOf (by decide) rfl (Xml.Piece.content_gathered f.pieces f.simple)

theorem chars_root_plain (f : ResourceFile) : ∀ d ∈ f.root.chars, Xml.isPlainChar d = true := by
  refine Xml.Piece.chars_plain f.root ?_
  rw [root, Xml.Piece.isSimple, f.simple]
  decide

theorem read_text (f : ResourceFile) : Xml.read .tree f.text.toUTF8 = .ok f.document := by
  cases hdeclared : f.declared with
  | false =>
    have hfront : f.front = [] := by simp [front, hdeclared]
    rw [text, hfront, List.nil_append]
    exact Xml.read_of_isRead f.isRead_document.1 f.chars_root_plain ['\n']
      (List.all_eq_true.mp rfl) (List.all_eq_true.mp rfl)
  | true =>
    have hfront : f.front = Xml.usualFront ++ ['\n'] := by simp [front, hdeclared]
    rw [text, hfront, List.append_assoc]
    exact Xml.read_usualFront f.isRead_document.1 f.chars_root_plain

end ResourceFile

/-! The files of the template. -/

namespace Shipped

open Xml (Piece)

def line (indent : String) (piece : Piece) : List Piece := [.text indent, piece, .text "\n"]

def blank : List Piece := [.text "\n"]

def note (words : String) : List Piece := line "    " (.comment words)

def entries (texts : List (String × String)) : List Piece :=
  texts.flatMap fun t => line "    " (.element "string" (some t.1) [.text t.2])

def array (name : String) (words : Option String) (items : List String) : List Piece :=
  let notes := words.toList.map Piece.comment
  let inner := notes ++ items.map fun item => .element "item" none [.text item]
  line "    " (.element "string-array" (some name)
    (blank ++ inner.flatMap (line "        ") ++ [.text "    "]))

/-! A literal is checked by the characters it is made of; decoding it takes much longer. -/

theorem simple_literal {p : Char → Bool} {cs : List Char} (h : cs.all p = true) :
    (String.ofList cs).toList.all p = true := by
  rwa [String.toList_ofList]

theorem simple_line {piece : Piece} (h : piece.isSimple = true) :
    Piece.areSimple (line "    " piece) = true := by
  simp only [line, Piece.areSimple, h]
  decide

theorem simple_entry {name text : String} {rest : List (String × String)}
    (hname : Xml.isSimpleText name = true) (htext : (Piece.text text).isSimple = true)
    (hrest : Piece.areSimple (entries rest) = true) :
    Piece.areSimple (entries ((name, text) :: rest)) = true := by
  rw [entries, List.flatMap_cons, Piece.areSimple_append, simple_line]
  · exact hrest
  · rw [Piece.isSimple, Piece.areSimple, Option.all_some, hname, htext]
    decide

def intents : ResourceFile where
  declared := false
  pieces :=
    blank ++
    note " Arrays for exported components " ++
    array "exportedReceivers" (some " Example receiver names, replace with actual receivers ")
      ["com.example.receiver.EXPORTED_RECEIVER"] ++
    [.text "    \n"] ++
    array "exportedServices" (some " Example service names, replace with actual services ")
      ["com.example.service.EXPORTED_SERVICE"] ++
    blank ++
    array "exportedContentProviders"
      (some " Example content provider names, replace with actual providers ")
      ["com.example.provider.EXPORTED_PROVIDER"] ++
    blank ++
    array "exportedActivities" (some " Example activity names, replace with actual activities ")
      ["com.example.activity.EXPORTED_ACTIVITY"] ++
    blank ++
    array "exportedBroadcasts" (some " Example broadcast names, replace with actual broadcasts ")
      ["com.example.broadcast.EXPORTED_BROADCAST"] ++
    blank ++
    note " WebView Tests (Examples, replace with actual tests) " ++
    array "webViewTests" none
      ["JS_AOSP", "JS_CHROME", "FS_AOSP", "FS_CHROME", "BU_AOSP", "BU_CHROME",
        "SOP_AOSP", "SOP_CHROME", "IFRAME_AOSP", "IFRAME_CHROME"] ++
    blank ++
    note " Placeholder for Pending Intents " ++
    array "pendingIntents" none ["Coming Soon..."]
  simple := by decide +kernel

def extras : ResourceFile where
  declared := false
  pieces := blank ++ note " Placeholder for future keys if needed "
  simple := by decide +kernel

def strings : ResourceFile where
  declared := true
  pieces :=
    blank ++
    blank ++
    note " General App Strings " ++
    entries [
        ("app_name", "QARK"),
        ("nav_title_file_browser", "File Browser"),
        ("nav_title_intent_sniffer", "Intent Sniffer"),
        ("nav_title_exported_components", "Exported Components"),
        ("nav_title_tap_jacking", "Tap Jacking"),
        ("nav_title_custom_intent", "Send Custom Intent"),
        ("nav_title_web_view_tests", "WebView Tests"),
        ("drawer_open", "Open Navigation Drawer"),
        ("drawer_close", "Close Navigation Drawer"),
        ("action_settings", "Settings"),
        ("button_submit", "Submit"),
        ("action_new_intent", "Add a New Intent"),
        ("title_activity_exploit_exported_result", "Exploit Result"),
        ("title_activity_broadcast_intent_sniffer", "Intent Sniffer"),
        ("title_activity_intent_sender", "Intent Sender"),
        ("noIntent", "No intents available to exploit"),
        ("noExportedActivity", "No exported activities available to exploit"),
        ("noExportedComponents", "No exported components found."),
        ("tap_jacking_text", "This application demonstrates TapJacking."),
        ("title_activity_choose_intent_use_case", "Choose Intent Use Case")] ++
    blank ++
    note " Create New Intent " ++
    entries [
        ("action_new_custom_intent", "Create a New Custom Intent"),
        ("activity_create_custom_intent_title", "Create a Custom Intent"),
        ("send_intent_button", "Send Intent"),
        ("activity_create_new_intent_use_case", "Create Intent to Perform:"),
        ("activity_create_new_intent_action", "Intent Action:"),
        ("activity_create_new_intent_data", "Intent Data (Optional):"),
        ("activity_create_new_intent_data_ex",
          "Example: http://www.example.com/image.png or content://contacts/people/1"),
        ("activity_create_new_intent_type", "Intent Type:"),
        ("activity_create_new_intent_category", "Intent Category:"),
        ("activity_create_new_intent_component", "Component Name:"),
        ("activity_create_new_intent_component_ex", "Example: com.example.ExampleActivity"),
        ("activity_create_new_intent_component_package_name", "Target App Package Name"),
        ("activity_create_new_intent_extras", "Intent Extras:"),
        ("activity_create_new_intent_flags", "Intent Flags:"),
        ("activity_create_custom_intent_next_button", "Next"),
        ("intent_extras_key", "Key:"),
        ("intent_extras_value", "Value:"),
        ("title_activity_create_custom_intent", "Create Custom Intent")] ++
    blank ++
    note " Accessibility Improvements " ++
    entries [
        ("nav_header_image_description", "QARK Logo Image in Navigation Header"),
        ("webview_content_description", "This is a web content view"),
        ("content_description_submit_button", "Submit your input"),
        ("no_tests_available_description", "No tests available to display")] ++
    blank ++
    note " Error Messages " ++
    entries [
        ("error_no_intent", "Error: No intent provided."),
        ("error_invalid_data", "Error: Invalid data format.")] ++
    blank
  simple := by
    simp only [Piece.areSimple_append, Bool.and_eq_true, and_assoc]
    refine ⟨rfl, rfl, simple_line (simple_literal rfl), ?_, rfl, simple_line (simple_literal rfl), ?_,
      rfl, simple_line (simple_literal rfl), ?_, rfl, simple_line (simple_literal rfl), ?_, rfl⟩
    all_goals
      repeat refine simple_entry (simple_literal rfl) (simple_literal rfl) ?_
      rfl

end Shipped

end DroidAudit
