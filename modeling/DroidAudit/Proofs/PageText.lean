import DroidAudit.Detector.Content
import DroidAudit.Report.Basic
import Mathlib.Data.List.Forall2

/-! The page for reading. Names, descriptions and paths stand in it as they are, so each sign in them
that opens a tag is one more on the page: two reports on equally many findings have equally many such
signs only if the texts of their findings have. -/
namespace DroidAudit

/-- What a page tells of a finding whose fields are plain: texts, and a place given by numbers. -/
structure Remark where
  severity : Severity
  name : String
  description : String
  file : Option String
  place : Option (Int × Int)

namespace Remark

def line (r : Remark) : Value :=
  match r.place with
  | none => .null
  | some (line, column) => .tuple [.int line, .int column]

def path (r : Remark) : String := r.file.getD ""

/-- The texts that the page for reading shows: the path of the file stands in a link and in front of
the eye. -/
def shown (r : Remark) : List Char :=
  r.name.toList ++ r.description.toList ++ r.path.toList ++ r.path.toList

end Remark

/-- A finding with the fields of a remark. Its category and what it offers for an exploit stand on
no page for reading. -/
structure Finding.Tells (f : Finding) (r : Remark) : Prop where
  severity : f.severity = r.severity
  name : f.name = .text r.name
  description : f.description = .text r.description
  file : f.file = optionalText r.file
  line : f.line = r.line

theorem Finding.Tells.isPresent_file {f : Finding} {r : Remark} (h : f.Tells r) :
    f.file.isPresent = !r.path.isEmpty := by
  rw [h.file, Remark.path]
  cases r.file with
  | none => rfl
  | some p => rfl

theorem Finding.Tells.display_name {f : Finding} {r : Remark} (h : f.Tells r) :
    f.name.display = r.name := by
  rw [h.name]
  rfl

theorem Finding.Tells.display_description {f : Finding} {r : Remark} (h : f.Tells r) :
    f.description.display = r.description := by
  rw [h.description]
  rfl

theorem Finding.Tells.display_file {f : Finding} {r : Remark} (h : f.Tells r) (hpath : r.path ≠ "") :
    f.file.display = r.path := by
  rw [h.file]
  cases hr : r.file with
  | none => simp [Remark.path, hr] at hpath
  | some p =>
    rw [Remark.path, hr]
    rfl

theorem isDigit_or_minus {n : Int} {c : Char} (h : c ∈ (toString n).toList) :
    c.isDigit = true ∨ c = '-' := by
  have hdigits : ∀ m : Nat, ∀ c ∈ (toString m).toList, c.isDigit = true := by
    intro m c hc
    rw [Nat.toString_eq_repr, Nat.toList_repr] at hc
    exact Nat.isDigit_of_mem_toDigits (by decide) (by decide) hc
  cases n with
  | ofNat m => exact .inl (hdigits m c h)
  | negSucc m =>
    have htext : toString (Int.negSucc m) = "-" ++ toString (m + 1) := rfl
    rw [htext, String.toList_append] at h
    rcases List.mem_append.mp h with h | h
    · exact .inr (List.mem_singleton.mp h)
    · exact .inl (hdigits _ c h)

namespace Page

def openings (s : String) : Nat := s.toList.count '<'

theorem openings_ofList (cs : List Char) : openings (String.ofList cs) = cs.count '<' := by
  rw [openings, String.toList_ofList]

theorem openings_append (s t : String) : openings (s ++ t) = openings s + openings t := by
  rw [openings, String.toList_append, List.count_append]
  rfl

theorem openings_int (n : Int) : openings (toString n) = 0 := by
  rw [openings, List.count_eq_zero]
  intro h
  rcases isDigit_or_minus h with h | h
  · exact absurd h (by decide)
  · exact absurd h (by decide)

theorem openings_severity (s : Severity) : openings s.name = 0 := by cases s <;> rfl

theorem openings_pagePlace (r : Remark) : openings (pagePlace r.line) = 0 := by
  have hfront : openings "\n              : Line " = 0 := openings_ofList _
  have hmiddle : openings " - Column " = 0 := openings_ofList _
  have hback : openings "\n            " = 0 := openings_ofList _
  unfold Remark.line
  cases r.place with
  | none => rfl
  | some place =>
    have hline : openings (part (.tuple [.int place.1, .int place.2]) 0) = 0 := openings_int place.1
    have hcolumn : openings (part (.tuple [.int place.1, .int place.2]) 1) = 0 :=
      openings_int place.2
    have hpresent : (Value.tuple [.int place.1, .int place.2]).isPresent = true := rfl
    dsimp only
    rw [pagePlace, if_pos hpresent]
    simp only [openings_append, hline, hcolumn, hfront, hmiddle, hback]

theorem openings_pageFile {f : Finding} {r : Remark} (h : f.Tells r) :
    openings (pageFile f) = 2 + openings r.path + openings r.path := by
  have hlink : openings "\n          <a href=\"file://" = 1 := openings_ofList _
  have hquote : openings "\">\n            " = 0 := openings_ofList _
  have hbreak : openings "\n            " = 0 := openings_ofList _
  have hclose : openings "\n          </a>\n        " = 1 := openings_ofList _
  have hunknown : openings "\n          <span>Unknown File</span>\n        " = 2 := openings_ofList _
  rw [pageFile, h.isPresent_file]
  by_cases hpath : r.path = ""
  · have hempty : openings "" = 0 := openings_ofList _
    simp [hpath, hempty, hunknown]
  · rw [if_pos (by simpa using hpath)]
    simp only [h.display_file hpath, h.line, openings_append, openings_pagePlace, hlink, hquote,
      hbreak, hclose]
    omega

theorem openings_pageFinding {f : Finding} {r : Remark} (h : f.Tells r) :
    openings (pageFinding f) = 12 + r.shown.count '<' := by
  have hhead : openings "\n    <div class=\"issue\">\n      <h2>" = 2 := openings_ofList _
  have hcolon : openings ": " = 0 := openings_ofList _
  have hseverity : openings "</h2>\n      <p class=\"severity\">Severity: " = 2 := openings_ofList _
  have hdescription : openings "</p>\n      <p>Description: " = 2 := openings_ofList _
  have hfile : openings "</p>\n      <p>\n        File: \n        " = 2 := openings_ofList _
  have hend : openings "\n      </p>\n    </div>\n    " = 2 := openings_ofList _
  have hshown : r.shown.count '<' =
      openings r.name + openings r.description + openings r.path + openings r.path := by
    simp only [Remark.shown, List.count_append, openings]
  unfold pageFinding
  simp only [openings_append, openings_severity, openings_pageFile h, h.display_name,
    h.display_description, hhead, hcolon, hseverity, hdescription, hfile, hend, hshown]
  omega

theorem openings_join {found : List Finding} {told : List Remark}
    (h : List.Forall₂ Finding.Tells found told) :
    openings (String.join (found.map pageFinding)) =
      12 * told.length + (told.flatMap Remark.shown).count '<' := by
  induction h with
  | nil => rfl
  | @cons f r found told hf _ ih =>
    have hsplit : openings (String.join ((f :: found).map pageFinding)) =
        openings (pageFinding f) + openings (String.join (found.map pageFinding)) := by
      simp [openings, String.toList_join]
    rw [hsplit, ih, openings_pageFinding hf, List.length_cons, List.flatMap_cons,
      List.count_append]
    omega

/-- The signs of a page: those of its frame, twelve for each finding, and those in the texts of the
findings. -/
theorem openings_page {found : List Finding} {told : List Remark}
    (h : List.Forall₂ Finding.Tells found told) :
    openings (page found) = openings pageHead + openings "\n</body>\n</html>\n" +
      (if told = [] then 2 else 12 * told.length) + (told.flatMap Remark.shown).count '<' := by
  have hnone : openings "\n    <p>No issues found.</p>\n  " = 2 := openings_ofList _
  have hfront : openings "\n    " = 0 := openings_ofList _
  have hback : openings "\n  " = 0 := openings_ofList _
  cases h with
  | nil =>
    simp only [page, List.isEmpty_nil, if_true, openings_append, hnone, List.flatMap_nil,
      List.count_nil]
    omega
  | @cons f r found told hf hrest =>
    have hjoin := openings_join (.cons hf hrest)
    simp only [page, List.isEmpty_cons, Bool.false_eq_true, if_false, openings_append, hjoin, hfront,
      hback, reduceCtorEq]
    omega

end Page

namespace Report

/-- Two pages on equally many findings open equally many tags exactly if the texts that they show
hold equally many of the signs for it. Neither severities nor places matter, nor whether there are
files. -/
theorem page_openings_eq_iff (r r' : Report) (told told' : List Remark)
    (h : List.Forall₂ Finding.Tells r.findings told)
    (h' : List.Forall₂ Finding.Tells r'.findings told')
    (hlength : r.findings.length = r'.findings.length) :
    ∃ page page', r.render? "html" none = some page ∧ r'.render? "html" none = some page' ∧
      (page.toList.count '<' = page'.toList.count '<' ↔
        (told.flatMap Remark.shown).count '<' = (told'.flatMap Remark.shown).count '<') := by
  refine ⟨Page.page r.findings, Page.page r'.findings, render?_name r .html, render?_name r' .html, ?_⟩
  have hsame : told.length = told'.length := by rw [← h.length_eq, ← h'.length_eq, hlength]
  have hempty : told = [] ↔ told' = [] := by
    rw [← List.length_eq_zero_iff, ← List.length_eq_zero_iff, hsame]
  have hpage := Page.openings_page h
  have hpage' := Page.openings_page h'
  rw [← hsame] at hpage'
  simp only [← hempty] at hpage'
  rw [Page.openings] at hpage hpage'
  omega

def addressFinding (address : String) : Finding :=
  ContentDetector.onLine (ContentDetector.urlNotice address) (some "A.java") 0

def addressRemark (address : String) : Remark where
  severity := .info
  name := "Hardcoded HTTP url found"
  description := (ContentDetector.urlNotice address).description
  file := some "A.java"
  place := some (0, 0)

theorem addressFinding_tells (address : String) :
    List.Forall₂ Finding.Tells [addressFinding address] [addressRemark address] :=
  .cons ⟨rfl, rfl, rfl, rfl, rfl⟩ .nil

theorem count_shown_address (address : String) :
    ([addressRemark address].flatMap Remark.shown).count '<' = address.toList.count '<' := by
  have hname : "Hardcoded HTTP url found".toList.count '<' = 0 := Page.openings_ofList _
  have hfile : "A.java".toList.count '<' = 0 := Page.openings_ofList _
  have hfront : "Application contains hardcoded HTTP url: ".toList.count '<' = 0 := Page.openings_ofList _
  have hmiddle : (", unless HSTS is implemented, this request can be intercepted and modified by a "
    ).toList.count '<' = 0 := Page.openings_ofList _
  have hback : "man-in-the-middle attack.".toList.count '<' = 0 := Page.openings_ofList _
  simp only [List.flatMap_cons, List.flatMap_nil, List.append_nil, Remark.shown, Remark.path,
    addressRemark, ContentDetector.urlNotice, Option.getD_some, String.toList_append,
    List.count_append, hname, hfile, hfront, hmiddle, hback, Nat.zero_add, Nat.add_zero]

theorem page_openings_eq_iff_addresses :
    List.Forall₂ Finding.Tells [addressFinding "http://a.b/<c>"] [addressRemark "http://a.b/<c>"] ∧
      List.Forall₂ Finding.Tells [addressFinding "http://<d>/"] [addressRemark "http://<d>/"] ∧
      ∃ page page',
        render? ⟨[addressFinding "http://a.b/<c>"], "build/", false⟩ "html" none = some page ∧
        render? ⟨[addressFinding "http://<d>/"], "build/", true⟩ "html" none = some page' ∧
        page.toList.count '<' = page'.toList.count '<' := by
  have h := addressFinding_tells "http://a.b/<c>"
  have h' := addressFinding_tells "http://<d>/"
  obtain ⟨page, page', hpage, hpage', hiff⟩ := page_openings_eq_iff
    ⟨[addressFinding "http://a.b/<c>"], "build/", false⟩ ⟨[addressFinding "http://<d>/"], "build/", true⟩
    _ _ h h' (by rw [List.length_singleton, List.length_singleton])
  refine ⟨h, h', page, page', hpage, hpage', hiff.mpr ?_⟩
  have hsign : "http://a.b/<c>".toList.count '<' = 1 := Page.openings_ofList _
  have hsign' : "http://<d>/".toList.count '<' = 1 := Page.openings_ofList _
  rw [count_shown_address, count_shown_address, hsign, hsign']

def addressSource (address : String) : String :=
  "class A \x7bString s = \"" ++ address ++ "\";\x7d"

/-- Two sources differ in an address only, and each is reported once, with the same severity, file and
place. The sign in one of the addresses opens a tag on the page. -/
theorem address_opens_tag :
    ContentDetector.plainUrls ⟨some "A.java", some (addressSource "http://a.b/<c>"), none⟩ =
        .ok [addressFinding "http://a.b/<c>"] ∧
      ContentDetector.plainUrls ⟨some "A.java", some (addressSource "http://a.b/c"), none⟩ =
        .ok [addressFinding "http://a.b/c"] ∧
      List.Forall₂ Finding.Tells [addressFinding "http://a.b/<c>"]
        [{ addressRemark "http://a.b/c" with
            description := (ContentDetector.urlNotice "http://a.b/<c>").description }] ∧
      List.Forall₂ Finding.Tells [addressFinding "http://a.b/c"] [addressRemark "http://a.b/c"] ∧
      ∃ page page',
        render? ⟨[addressFinding "http://a.b/<c>"], "build/", false⟩ "html" none = some page ∧
        render? ⟨[addressFinding "http://a.b/c"], "build/", false⟩ "html" none = some page' ∧
        page.toList.count '<' = page'.toList.count '<' + 1 := by
  refine ⟨rfl, rfl, addressFinding_tells _, addressFinding_tells _,
    Page.page [addressFinding "http://a.b/<c>"], Page.page [addressFinding "http://a.b/c"],
    render?_name _ .html, render?_name _ .html, ?_⟩
  have hpage := Page.openings_page (addressFinding_tells "http://a.b/<c>")
  have hpage' := Page.openings_page (addressFinding_tells "http://a.b/c")
  have hsign : "http://a.b/<c>".toList.count '<' = 1 := Page.openings_ofList _
  have hnone : "http://a.b/c".toList.count '<' = 0 := Page.openings_ofList _
  rw [count_shown_address, hsign, Page.openings] at hpage
  rw [count_shown_address, hnone, Page.openings] at hpage'
  simp only [reduceCtorEq, if_false, List.length_singleton] at hpage hpage'
  omega

end Report
end DroidAudit
