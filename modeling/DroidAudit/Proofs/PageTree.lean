import DroidAudit.Proofs.PageText
import DroidAudit.Proofs.ReadBack

/-! The page of elements, read as a document. Texts between its tags are escaped, so whatever stands
in the fields of the findings, the page is a document with one element for each finding, and the
fields are read from it as they were. -/
namespace DroidAudit

namespace Xml

/-- A text consists of characters that a document keeps. -/
structure HasChars (s : String) (cs : List Char) : Prop where
  text : s = String.ofList (Text.ofChars cs)
  kept : ∀ c ∈ cs, isLegal c = true ∧ c ≠ '\r'

theorem HasChars.append {s t : String} {cs ds : List Char} (hs : HasChars s cs)
    (ht : HasChars t ds) : HasChars (s ++ t) (cs ++ ds) where
  text := by rw [hs.text, ht.text, Text.ofChars_append, String.ofList_append]
  kept := List.forall_mem_append.mpr ⟨hs.kept, ht.kept⟩

theorem hasChars_of_plain {s : String} (h : ∀ d ∈ s.toList, isPlainChar d = true) :
    HasChars s s.toList where
  text := by
    rw [Text.ofChars_of_plain fun d hd => Text.isReserved_of_low (low_of_plain h d hd),
      String.ofList_toList]
  kept := kept_of_plain h

/-! Escaped text. -/

theorem escapedChar_cases (c : Char) :
    (Page.escapedChar c = [c] ∧ c ∉ textSigns) ∨
      ∃ body, Page.escapedChar c = '&' :: body ∧ Refers body c ∧ ∀ d ∈ body, isQuiet d = true := by
  unfold Page.escapedChar
  split
  · exact .inr ⟨_, rfl, ⟨.entity "amp", rfl, fun _ _ => rfl⟩, List.all_eq_true.mp rfl⟩
  · exact .inr ⟨_, rfl, ⟨.entity "lt", rfl, fun _ _ => rfl⟩, List.all_eq_true.mp rfl⟩
  · exact .inr ⟨_, rfl, ⟨.entity "gt", rfl, fun _ _ => rfl⟩, List.all_eq_true.mp rfl⟩
  · exact .inr ⟨_, rfl, refers_number (by decide) ['3', '9'] (by decide) (List.all_eq_true.mp rfl)
      (by decide), List.all_eq_true.mp rfl⟩
  · exact .inr ⟨_, rfl, refers_number (by decide) ['3', '4'] (by decide) (List.all_eq_true.mp rfl)
      (by decide), List.all_eq_true.mp rfl⟩
  · exact .inl ⟨rfl, by simp_all [textSigns]⟩

theorem escapedChar_of_high {c : Char} (h : 128 ≤ c.toNat) : Page.escapedChar c = [c] := by
  unfold Page.escapedChar
  split
  case h_6 => rfl
  all_goals exact absurd h (by decide)

theorem HasChars.escaped {s : String} {cs : List Char} (h : HasChars s cs) :
    HasChars (Page.escaped s) (cs.flatMap Page.escapedChar) where
  text := by
    have hchar : ∀ c : Char, (Text.ofChar c).flatMap Page.escapedChar =
        (Page.escapedChar c).flatMap Text.ofChar := by
      intro c
      cases hc : Text.isReserved c with
      | true =>
        have hhigh : Page.escapedChar c = [c] := by
          simp only [Text.isReserved, Bool.and_eq_true, decide_eq_true_eq] at hc
          exact escapedChar_of_high (by omega)
        have hmark : Page.escapedChar Text.selfMark = [Text.selfMark] := rfl
        simp [Text.ofChar, hc, hhigh, hmark]
      | false =>
        have hself : (Page.escapedChar c).flatMap Text.ofChar = Page.escapedChar c := by
          rw [← Text.ofChars_eq_flatMap]
          refine Text.ofChars_of_plain fun d hd => ?_
          rcases escapedChar_cases c with ⟨heq, -⟩ | ⟨body, heq, -, hquiet⟩
          · rw [heq, List.mem_singleton] at hd
            rw [hd, hc]
          · rw [heq] at hd
            rcases List.mem_cons.mp hd with rfl | hd
            · rfl
            · have hplain := isPlainChar_of_isQuiet (hquiet d hd)
              simp only [isPlainChar, Bool.and_eq_true, decide_eq_true_eq] at hplain
              exact Text.isReserved_of_low hplain.1.1
        simp [Text.ofChar, hc, hself]
    rw [Page.escaped, h.text, String.toList_ofList, Text.ofChars_eq_flatMap, Text.ofChars_eq_flatMap,
      List.flatMap_assoc, List.flatMap_assoc]
    simp only [hchar]
  kept := by
    intro d hd
    obtain ⟨c, hc, hd⟩ := List.mem_flatMap.mp hd
    rcases escapedChar_cases c with ⟨heq, -⟩ | ⟨body, heq, -, hquiet⟩
    · rw [heq, List.mem_singleton] at hd
      exact hd ▸ h.kept c hc
    · rw [heq] at hd
      have hplain : ∀ d ∈ '&' :: body, isPlainChar d = true :=
        List.forall_mem_cons.mpr ⟨rfl, fun d hd => isPlainChar_of_isQuiet (hquiet d hd)⟩
      exact kept_of_plain hplain d hd

theorem Content.escaped {ds cs text : List Char} {children : List (Element × String)}
    (hds : ∀ c ∈ ds, isLegal c = true ∧ c ≠ '\r') (h : Content cs text children) :
    Content (ds.flatMap Page.escapedChar ++ cs) (ds ++ text) children := by
  induction ds with
  | nil => exact h
  | cons c ds ih =>
    obtain ⟨hlegal, hreturn⟩ := hds c (by simp)
    have hrest := ih fun d hd => hds d (by simp [hd])
    rw [List.flatMap_cons, List.append_assoc]
    rcases escapedChar_cases c with ⟨heq, hsigns⟩ | ⟨body, heq, hrefers, hquiet⟩
    · rw [heq]
      exact .itself hsigns hlegal hreturn hrest
    · rw [heq]
      exact .char (.reference hrefers hquiet) hlegal hreturn hrest

/-! Elements. -/

def tagged (name : String) (attributes : List Attribute) (inner : String) : String :=
  "<" ++ name ++ String.ofList (attributes.flatMap attributeChars) ++ ">" ++ inner ++
    ("</" ++ name ++ ">")

def leaf (name text : String) : Element := .mk (.plain name) [] (some text) []

def IsElement (s : String) (e : Element) : Prop := ∃ es, HasChars s es ∧ IsRead es e ∧ e.Kept

/-- What stands between tags holds elements, with any texts around them. -/
def Lists (s : String) (es : List Element) : Prop :=
  ∃ cs, HasChars s cs ∧ ∀ {ds text children}, Content ds text children →
    ∃ text' children', Content (cs ++ ds) text' children' ∧
      children'.map (·.1) = es ++ children.map (·.1)

theorem isElement_tagged {name : String} (hname : isSimpleName name = true)
    {attributes : List Attribute} (h : ∀ a ∈ attributes, a.Kept)
    (hnodup : (attributes.map (·.name.part)).Nodup) {inner : String} {cs text : List Char}
    {children : List (Element × String)} (hinner : HasChars inner cs)
    (hcontent : Content cs text children) :
    IsElement (tagged name attributes inner)
      (.mk (.plain name) attributes (some (String.ofList (Text.ofChars text))) children) := by
  have hkept : (Name.plain name).Kept := ⟨rfl, hname⟩
  obtain ⟨htext, hchildren, htails⟩ := hcontent.kept
  refine ⟨_, ?_, isRead_of_content hkept h hnodup hcontent,
    .mk hkept h hnodup htext hchildren htails⟩
  have hplain := simpleName_plain hname
  have hattributes := attributesChars_plain h
  have hopen : HasChars ("<" ++ name ++ String.ofList (attributes.flatMap attributeChars) ++ ">")
      _ := hasChars_of_plain <| by
    simp only [String.toList_append, String.toList_ofList, List.forall_mem_append]
    exact ⟨⟨⟨List.all_eq_true.mp rfl, hplain⟩, hattributes⟩, List.all_eq_true.mp rfl⟩
  have hclose : HasChars ("</" ++ name ++ ">") _ := hasChars_of_plain <| by
    simp only [String.toList_append, List.forall_mem_append]
    exact ⟨⟨List.all_eq_true.mp rfl, hplain⟩, List.all_eq_true.mp rfl⟩
  have hall := (hopen.append hinner).append hclose
  simpa [tagged, Name.plain] using hall

theorem isElement_leaf (name : String) (hname : isSimpleName name = true) {text : String}
    (h : IsText text) :
    IsElement (tagged name [] (Page.escaped text)) (leaf name text) := by
  obtain ⟨cs, rfl, hcs⟩ := h
  have hchars : HasChars (String.ofList (Text.ofChars cs)) cs := ⟨rfl, hcs⟩
  have hcontent := Content.escaped hcs .nil
  rw [List.append_nil, List.append_nil] at hcontent
  exact isElement_tagged hname (by simp) (by simp) hchars.escaped hcontent

theorem Lists.append {s t : String} {es fs : List Element} (hs : Lists s es) (ht : Lists t fs) :
    Lists (s ++ t) (es ++ fs) := by
  obtain ⟨cs, hcs, hfront⟩ := hs
  obtain ⟨ds, hds, hback⟩ := ht
  refine ⟨cs ++ ds, hcs.append hds, fun h => ?_⟩
  obtain ⟨text, children, hcontent, hchildren⟩ := hback h
  obtain ⟨text', children', hcontent', hchildren'⟩ := hfront hcontent
  refine ⟨text', children', ?_, ?_⟩
  · rwa [List.append_assoc]
  · rw [hchildren', hchildren, List.append_assoc]

theorem lists_run {s : String}
    (h : (s.toList.all fun c => isPlainChar c && !textSigns.contains c) = true) : Lists s [] := by
  have hplain : ∀ c ∈ s.toList, isPlainChar c = true := by
    intro c hc
    have hboth := List.all_eq_true.mp h c hc
    rw [Bool.and_eq_true] at hboth
    exact hboth.1
  exact ⟨_, hasChars_of_plain hplain, fun hcontent => ⟨_, _, hcontent.run h, rfl⟩⟩

theorem IsElement.lists {s : String} {e : Element} (h : IsElement s e) : Lists s [e] := by
  obtain ⟨es, hes, hread, hkept⟩ := h
  exact ⟨es, hes, fun hcontent => ⟨_, _, .element hread hkept hcontent, rfl⟩⟩

theorem Lists.tagged {inner : String} {es : List Element} (hinner : Lists inner es) (name : String)
    (hname : isSimpleName name = true) (attributes : List Attribute) (h : ∀ a ∈ attributes, a.Kept)
    (hnodup : (attributes.map (·.name.part)).Nodup) :
    ∃ e, e.name = .plain name ∧ e.children.map (·.1) = es ∧
      IsElement (tagged name attributes inner) e := by
  obtain ⟨cs, hcs, hcontent⟩ := hinner
  obtain ⟨text, children, hcontent, hchildren⟩ := hcontent .nil
  rw [List.append_nil] at hcontent
  rw [List.map_nil, List.append_nil] at hchildren
  exact ⟨.mk (.plain name) attributes _ children, rfl, hchildren,
    isElement_tagged hname h hnodup hcs hcontent⟩

end Xml

/-! The page. -/

open Xml (leaf tagged Lists IsElement isElement_leaf lists_run)

namespace Remark

structure IsKept (r : Remark) : Prop where
  name : Xml.IsText r.name
  description : Xml.IsText r.description
  file : ∀ p, r.file = some p → Xml.IsText p

theorem IsKept.path {r : Remark} (h : r.IsKept) : Xml.IsText r.path := by
  unfold Remark.path
  cases hfile : r.file with
  | none => exact ⟨[], rfl, by simp⟩
  | some p => exact h.file p hfile

def placeElements (r : Remark) : List Xml.Element :=
  match r.place with
  | none => []
  | some (line, column) => [leaf "line" (toString line), leaf "column" (toString column)]

structure IsFile (r : Remark) (e : Xml.Element) : Prop where
  name : e.name = .plain "file"
  children : e.children.map (·.1) = leaf "path" r.path :: r.placeElements

/-- The element of a remark. That of a file is there if the path is not empty. -/
structure IsIssue (r : Remark) (e : Xml.Element) : Prop where
  name : e.name = .plain "issue"
  children : ∃ files, e.children.map (·.1) = leaf "severity" r.severity.name :: leaf "name" r.name ::
      leaf "description" r.description :: files ∧
    List.Forall₂ IsFile (if r.path = "" then [] else [r]) files

end Remark

namespace Page

theorem escaped_int (n : Int) : escaped (toString n) = toString n := by
  have hself : ∀ c ∈ (toString n).toList, escapedChar c = [c] := by
    intro c hc
    unfold escapedChar
    split
    case h_6 => rfl
    all_goals
      rcases isDigit_or_minus hc with h | h
      · exact absurd h (by decide)
      · exact absurd h (by decide)
  have hall : (toString n).toList.flatMap escapedChar = (toString n).toList := by
    generalize (toString n).toList = cs at hself
    induction cs with
    | nil => rfl
    | cons c cs ih =>
      rw [List.flatMap_cons, hself c (by simp), ih fun d hd => hself d (by simp [hd])]
      rfl
  rw [escaped, hall, String.ofList_toList]

theorem isText_int (n : Int) : Xml.IsText (toString n) := by
  have hplain : ∀ c ∈ (toString n).toList, Xml.isPlainChar c = true := by
    intro c hc
    rcases isDigit_or_minus hc with h | rfl
    · exact Xml.isPlainChar_of_isQuiet (by simp [Xml.isQuiet, Char.isAlphanum, h])
    · rfl
  have hchars := Xml.hasChars_of_plain hplain
  exact ⟨_, hchars.text, hchars.kept⟩

theorem isText_severity (s : Severity) : Xml.IsText s.name := by
  cases s <;> exact Xml.isText_of_isSimpleText (by decide)

theorem lists_treePlace (r : Remark) : Lists (treePlace r.line) r.placeElements := by
  unfold Remark.line Remark.placeElements
  cases r.place with
  | none => exact lists_run rfl
  | some place =>
    have hopen : "\n        <line>" = "\n        " ++ ("<" ++ ("line" ++ (String.ofList [] ++ ">"))) := rfl
    have hcolumn : "</line>\n        <column>" = "</" ++ ("line" ++ (">" ++ ("\n        " ++ ("<" ++
        ("column" ++ (String.ofList [] ++ ">")))))) := rfl
    have hclose : "</column>\n        " = "</" ++ ("column" ++ (">" ++ "\n        ")) := rfl
    have hpresent : (Value.tuple [.int place.1, .int place.2]).isPresent = true := rfl
    have htext : treePlace (.tuple [.int place.1, .int place.2]) =
        "\n        " ++ tagged "line" [] (escaped (toString place.1)) ++ "\n        " ++
          tagged "column" [] (escaped (toString place.2)) ++ "\n        " := by
      rw [treePlace, if_pos hpresent, escaped_int, escaped_int, hopen, hcolumn, hclose]
      simp only [tagged, List.flatMap_nil, String.append_assoc]
      rfl
    have hblank : Lists "\n        " [] := lists_run rfl
    have hline := (isElement_leaf "line" (by decide) (isText_int place.1)).lists
    have hcolumn := (isElement_leaf "column" (by decide) (isText_int place.2)).lists
    dsimp only
    rw [htext]
    exact (((hblank.append hline).append hblank).append hcolumn).append hblank

def idAttribute : Xml.Attribute := ⟨.plain "id", "unknown", .escaped⟩

theorem treeFinding_eq (f : Finding) :
    treeFinding f = "\n    " ++ tagged "issue" [idAttribute]
      ("\n      " ++ tagged "severity" [] (escaped f.severity.name) ++ "\n      " ++
        tagged "name" [] (escaped f.name.display) ++ "\n      " ++
        tagged "description" [] (escaped f.description.display) ++ "\n      " ++ treeFile f ++
        "\n    ") ++ "\n    " := by
  have hopen : "\n    <issue id=\"unknown\">\n      <severity>" = "\n    " ++ ("<" ++ ("issue" ++
      (String.ofList ([idAttribute].flatMap Xml.attributeChars) ++ (">" ++ ("\n      " ++ ("<" ++
        ("severity" ++ (String.ofList [] ++ ">")))))))) := rfl
  have hname : "</severity>\n      <name>" = "</" ++ ("severity" ++ (">" ++ ("\n      " ++ ("<" ++
      ("name" ++ (String.ofList [] ++ ">")))))) := rfl
  have hdescription : "</name>\n      <description>" = "</" ++ ("name" ++ (">" ++ ("\n      " ++ ("<" ++
      ("description" ++ (String.ofList [] ++ ">")))))) := rfl
  have hfile : "</description>\n      " = "</" ++ ("description" ++ (">" ++ "\n      ")) := rfl
  have hclose : "\n    </issue>\n    " = "\n    " ++ ("</" ++ ("issue" ++ (">" ++ "\n    "))) := rfl
  unfold treeFinding
  rw [hopen, hname, hdescription, hfile, hclose]
  simp only [tagged, List.flatMap_nil, String.append_assoc]

theorem treeFile_of_path {f : Finding} {r : Remark} (h : f.Tells r) (hpath : r.path ≠ "") :
    treeFile f = "\n      " ++ tagged "file" [] ("\n        " ++ tagged "path" [] (escaped r.path) ++
      "\n        " ++ treePlace r.line ++ "\n      ") ++ "\n      " := by
  have hopen : "\n      <file>\n        <path>" = "\n      " ++ ("<" ++ ("file" ++ (String.ofList [] ++
      (">" ++ ("\n        " ++ ("<" ++ ("path" ++ (String.ofList [] ++ ">")))))))) := rfl
  have hclosePath : "</path>\n        " = "</" ++ ("path" ++ (">" ++ "\n        ")) := rfl
  have hclose : "\n      </file>\n      " = "\n      " ++ ("</" ++ ("file" ++ (">" ++ "\n      "))) := rfl
  have hpresent : f.file.isPresent = true := by
    rw [h.isPresent_file]
    simpa using hpath
  rw [treeFile, if_pos hpresent, h.display_file hpath, h.line, hopen, hclosePath, hclose]
  simp only [tagged, List.flatMap_nil, String.append_assoc]

theorem lists_treeFile {f : Finding} {r : Remark} (h : f.Tells r) (hr : r.IsKept) :
    ∃ files, Lists (treeFile f) files ∧
      List.Forall₂ Remark.IsFile (if r.path = "" then [] else [r]) files := by
  by_cases hpath : r.path = ""
  · have hpresent : ¬f.file.isPresent = true := by
      rw [h.isPresent_file, hpath]
      decide
    rw [treeFile, if_neg hpresent, if_pos hpath]
    exact ⟨[], lists_run rfl, .nil⟩
  · have hblank : Lists "\n        " [] := lists_run rfl
    have hbreak : Lists "\n      " [] := lists_run rfl
    have hleaf := (isElement_leaf "path" (by decide) hr.path).lists
    have hinner := (((hblank.append hleaf).append hblank).append (lists_treePlace r)).append hbreak
    obtain ⟨file, hname, hchildren, hfile⟩ := hinner.tagged "file" (by decide) []
      (by simp) (by simp)
    rw [treeFile_of_path h hpath, if_neg hpath]
    exact ⟨[file], (hbreak.append hfile.lists).append hbreak, .cons ⟨hname, by simpa using hchildren⟩ .nil⟩

theorem idAttribute_kept : idAttribute.Kept :=
  ⟨⟨rfl, by decide⟩, by decide, rfl, Xml.isText_of_isSimpleText (by decide)⟩

theorem lists_treeFinding {f : Finding} {r : Remark} (h : f.Tells r) (hr : r.IsKept) :
    ∃ e, r.IsIssue e ∧ Lists (treeFinding f) [e] := by
  obtain ⟨files, hfiles, hfile⟩ := lists_treeFile h hr
  have hbreak : Lists "\n      " [] := lists_run rfl
  have hshort : Lists "\n    " [] := lists_run rfl
  have hseverity := (isElement_leaf "severity" (by decide)
    (isText_severity r.severity)).lists
  have hname := (isElement_leaf "name" (by decide) hr.name).lists
  have hdescription := (isElement_leaf "description" (by decide) hr.description).lists
  have hinner := ((((((((hbreak.append hseverity).append hbreak).append hname).append hbreak).append
    hdescription).append hbreak).append hfiles).append hshort)
  obtain ⟨e, hissue, hchildren, he⟩ := hinner.tagged "issue" (by decide)
    [idAttribute] (by simp [idAttribute_kept]) (by simp)
  rw [treeFinding_eq, h.severity, h.display_name, h.display_description]
  exact ⟨e, ⟨hissue, files, by simpa using hchildren, hfile⟩,
    (hshort.append he.lists).append hshort⟩

theorem lists_join {found : List Finding} {told : List Remark}
    (h : List.Forall₂ Finding.Tells found told) (hkept : ∀ r ∈ told, r.IsKept) :
    ∃ es, List.Forall₂ Remark.IsIssue told es ∧ Lists (String.join (found.map treeFinding)) es := by
  induction h with
  | nil => exact ⟨[], .nil, lists_run rfl⟩
  | @cons f r found told hf _ ih =>
    obtain ⟨e, hissue, he⟩ := lists_treeFinding hf (hkept r (by simp))
    obtain ⟨es, hissues, hes⟩ := ih fun t ht => hkept t (by simp [ht])
    have hjoin : String.join ((f :: found).map treeFinding) =
        treeFinding f ++ String.join (found.map treeFinding) := by
      rw [← String.toList_inj]
      simp [String.toList_join]
    rw [hjoin]
    exact ⟨e :: es, .cons hissue hissues, he.append hes⟩

def treeBody (found : List Finding) : String :=
  if found.isEmpty then "\n    <message>No issues found</message>\n  "
  else "\n    " ++ String.join (found.map treeFinding) ++ "\n  "

def treeFront : String := "<?xml version=\"1.0\" encoding=\"UTF-8\"?>\n"

theorem tree_eq (found : List Finding) :
    tree found = treeFront ++ tagged "issues" [] ("\n  " ++ treeBody found ++ "\n") ++ "\n" := by
  have hopen : "<?xml version=\"1.0\" encoding=\"UTF-8\"?>\n<issues>\n  " = treeFront ++ ("<" ++ ("issues" ++
      (String.ofList [] ++ (">" ++ "\n  ")))) := rfl
  have hclose : "\n</issues>\n" = "\n" ++ ("</" ++ ("issues" ++ (">" ++ "\n"))) := rfl
  have htree : tree found = "<?xml version=\"1.0\" encoding=\"UTF-8\"?>\n<issues>\n  " ++ treeBody found ++
    "\n</issues>\n" := rfl
  rw [htree, hopen, hclose]
  simp only [tagged, List.flatMap_nil, String.append_assoc]

theorem lists_treeBody {found : List Finding} {told : List Remark}
    (h : List.Forall₂ Finding.Tells found told) (hkept : ∀ r ∈ told, r.IsKept) :
    ∃ es, Lists (treeBody found) es ∧ (told = [] → es = [leaf "message" "No issues found"]) ∧
      (told ≠ [] → List.Forall₂ Remark.IsIssue told es) := by
  have hshort : Lists "\n    " [] := lists_run rfl
  have hend : Lists "\n  " [] := lists_run rfl
  obtain ⟨es, hissues, hes⟩ := lists_join h hkept
  cases h with
  | nil =>
    have hmessage : treeBody [] = "\n    " ++ tagged "message" [] (escaped "No issues found") ++ "\n  " := by
      decide +kernel
    have hleaf := (isElement_leaf "message" (by decide)
      (Xml.isText_of_isSimpleText (s := "No issues found") (by decide))).lists
    rw [hmessage]
    exact ⟨_, (hshort.append hleaf).append hend, fun _ => rfl, by simp⟩
  | cons => exact ⟨_, (hshort.append hes).append hend, by simp, fun _ => by simpa using hissues⟩

end Page

namespace Xml

theorem declaration_treeFront (tail : List Char) :
    declaration (Page.treeFront.toList ++ tail) =
      .ok (⟨some ("UTF-8", "UTF-8\"".toList ++ ("?>".toList ++ '\n' :: tail)), false⟩, '\n' :: tail) := by
  have hfront : Page.treeFront.toList ++ tail = "<?xml".toList ++ ' ' ::
      ("version=\"1.0\" encoding=\"UTF-8\"".toList ++ ("?>".toList ++ '\n' :: tail)) := rfl
  have hsettings : settings (' ' :: "version=\"1.0\" encoding=\"UTF-8\"".toList) =
      .ok ⟨some ("UTF-8", "UTF-8\"".toList), false⟩ := rfl
  rw [hfront]
  exact declaration_of_settings hsettings rfl

theorem read_treeFront {s : String} {root : Element} (h : IsElement s root) :
    Text.encodeFault? (Page.treeFront ++ s ++ "\n") = none ∧
      read .tree (Text.encoded (Page.treeFront ++ s ++ "\n")) = .ok root := by
  obtain ⟨es, hes, hread, -⟩ := h
  have hfront : HasChars Page.treeFront Page.treeFront.toList :=
    hasChars_of_plain (List.all_eq_true.mp rfl)
  have hend : HasChars "\n" ['\n'] := hasChars_of_plain (s := "\n") (List.all_eq_true.mp rfl)
  have hall := (hfront.append hes).append hend
  rw [List.append_assoc] at hall
  have hencoding : KnownEncoding.ofName? "UTF-8" = some .utf8 := by decide +kernel
  have hdocument := documentOf_of_isRead hread ['\n'] ['\n'] (List.all_eq_true.mp rfl)
    (List.all_eq_true.mp rfl)
  rw [hall.text]
  refine ⟨Text.encodeFault?_ofChars _, ?_⟩
  rw [Text.encoded_ofChars]
  have hopen : Page.treeFront.toList ++ (es ++ ['\n']) =
      '<' :: '?' :: (Page.treeFront.toList.drop 2 ++ (es ++ ['\n'])) := rfl
  have hdeclared := declaration_treeFront (es ++ ['\n'])
  generalize Page.treeFront.toList ++ (es ++ ['\n']) = cs at hall hopen hdeclared ⊢
  rw [← String.toList_ofList (l := cs)] at hopen hdeclared
  refine read_of_kept hopen (by decide) ?_ hdeclared ?_ hdocument
  · rw [String.toList_ofList]
    exact hall.kept
  · rintro e heq
    cases heq
    exact hencoding

end Xml

namespace Report

/-- The page of elements is a document. Its root has one element for each finding, in their order,
and these give the fields of the findings back; without findings there is one message. -/
theorem tree_read_back (r : Report) (told : List Remark)
    (h : List.Forall₂ Finding.Tells r.findings told) (hkept : ∀ t ∈ told, t.IsKept) :
    ∃ page root, r.render? "xml" none = some page ∧ Text.encodeFault? page = none ∧
      Xml.read .tree (Text.encoded page) = .ok root ∧ root.name = .plain "issues" ∧
      (told = [] → root.children.map (·.1) = [leaf "message" "No issues found"]) ∧
      (told ≠ [] → List.Forall₂ Remark.IsIssue told (root.children.map (·.1))) := by
  obtain ⟨es, hes, hnone, hsome⟩ := Page.lists_treeBody h hkept
  have hblank : Lists "\n  " [] := lists_run rfl
  have hend : Lists "\n" [] := lists_run rfl
  have hinner := (hblank.append hes).append hend
  obtain ⟨root, hname, hchildren, hroot⟩ := hinner.tagged "issues" (by decide) [] (by simp) (by simp)
  rw [List.nil_append, List.append_nil] at hchildren
  obtain ⟨hfault, hread⟩ := Xml.read_treeFront hroot
  refine ⟨Page.tree r.findings, root, render?_name r .xml, ?_, ?_, hname, ?_, ?_⟩
  · rwa [Page.tree_eq]
  · rwa [Page.tree_eq]
  · rwa [hchildren]
  · rwa [hchildren]

/-- A remark with each sign that markup needs, and letters beyond the first 128. -/
def signsRemark : Remark where
  severity := .warning
  name := "<b> & \"c\" 'd' ]]>"
  description := "é 漢 &amp; \n"
  file := some "A&B.java"
  place := some (-1, 20)

/-- A remark without a file, for which the place does not count. -/
def bareRemark : Remark := ⟨.info, "", "<!--", none, some (0, 0)⟩

def findingOf (r : Remark) : Finding where
  category := .text "file"
  name := .text r.name
  severity := r.severity
  description := .text r.description
  line := r.line
  file := optionalText r.file

theorem tree_read_back_signs :
    (∀ t ∈ [signsRemark, bareRemark], t.IsKept) ∧
      ∃ page root, render? ⟨[signsRemark, bareRemark].map findingOf, "build/", false⟩ "xml" none =
          some page ∧
        Xml.read .tree (Text.encoded page) = .ok root ∧
        List.Forall₂ Remark.IsIssue [signsRemark, bareRemark] (root.children.map (·.1)) := by
  have hsimple : ∀ s ∈ [signsRemark.name, signsRemark.description, signsRemark.path,
      bareRemark.name, bareRemark.description], Xml.IsText s := by
    intro s hs
    refine Xml.isText_of_isSimpleText (List.all_eq_true.mp ?_ s hs)
    decide +kernel
  have hkept : ∀ t ∈ [signsRemark, bareRemark], t.IsKept := by
    refine List.forall_mem_cons.mpr ⟨⟨hsimple _ (by simp), hsimple _ (by simp), ?_⟩,
      List.forall_mem_singleton.mpr ⟨hsimple _ (by simp), hsimple _ (by simp), ?_⟩⟩
    · rintro p hp
      cases hp
      exact hsimple signsRemark.path (by simp)
    · rintro p hp
      cases hp
  have htells : List.Forall₂ Finding.Tells ([signsRemark, bareRemark].map findingOf)
      [signsRemark, bareRemark] := .cons ⟨rfl, rfl, rfl, rfl, rfl⟩ (.cons ⟨rfl, rfl, rfl, rfl, rfl⟩ .nil)
  obtain ⟨page, root, hpage, -, hread, -, -, hissues⟩ := tree_read_back
    ⟨[signsRemark, bareRemark].map findingOf, "build/", false⟩ _ htells hkept
  exact ⟨hkept, page, root, hpage, hread, hissues (by simp)⟩

end Report
end DroidAudit
