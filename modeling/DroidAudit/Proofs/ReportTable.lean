import DroidAudit.Proofs.Numeral
import DroidAudit.Proofs.ReportHistory

/-! The report as a table. The layout leaves empty lines between the rows; the other lines are the
head and one row for each finding, and a row has its two fields whatever the name is, for commas are
taken out of it. -/
namespace DroidAudit

namespace Text

def isPrinted (c : Char) : Bool := 0x20 ≤ c.toNat && c.toNat < 0x7f

/-- Which characters end a line. The line feed does, and nothing that is printed in ASCII. -/
structure IsLineBreak (isBreak : Char → Bool) : Prop where
  lineFeed : isBreak '\n' = true
  printed : ∀ c, isPrinted c = true → isBreak c = false

/-- The lines of a text but for the empty ones. -/
def filledLines (isBreak : Char → Bool) (cs : List Char) : List (List Char) :=
  (cs.splitOnP isBreak).filter fun line => !line.isEmpty

variable {isBreak : Char → Bool} {cs : List Char}

theorem filledLines_append_break {c : Char} (hc : isBreak c = true) (before after : List Char) :
    filledLines isBreak (before ++ c :: after) =
      filledLines isBreak before ++ filledLines isBreak after := by
  simp only [filledLines, List.splitOnP_append_cons before after hc, List.filter_append]

theorem filledLines_nil : filledLines isBreak [] = [] := by
  simp [filledLines, List.splitOnP_nil]

theorem filledLines_of_unbroken (hne : cs ≠ []) (h : ∀ c ∈ cs, isBreak c = false) :
    filledLines isBreak cs = [cs] := by
  simp [filledLines, List.splitOnP_eq_singleton h, hne]

end Text

namespace Page
open Text

def tableHead : List Char := "Severity,Issue Name".toList

def rowChars (f : Finding) : List Char :=
  f.severity.name.toList ++ ',' :: f.name.display.toList.filter (· != ',')

theorem replaceChar_nil (mark : Char) (cs : List Char) :
    replaceChar mark [] cs = cs.filter (· != mark) := by
  induction cs with
  | nil => rfl
  | cons c cs ih =>
    rw [replaceChar, List.flatMap_cons, ← replaceChar, ih]
    by_cases hc : c = mark <;> simp [hc]

theorem toList_tableRow (f : Finding) : (tableRow f).toList = '\n' :: rowChars f ++ ['\n'] := by
  simp [tableRow, rowChars, withoutCommas, replaceChar_nil]

theorem toList_table (findings : List Finding) :
    (table findings).toList =
      tableHead ++ '\n' :: (findings.flatMap (fun f => '\n' :: rowChars f ++ ['\n']) ++ ['\n']) := by
  have hlines (head : String) :
      (head ++ "\n" ++ String.join (findings.map tableRow) ++ "\n").toList = head.toList ++
        '\n' :: (findings.flatMap (fun f => '\n' :: rowChars f ++ ['\n']) ++ ['\n']) := by
    simp [String.toList_join, List.flatMap_map, toList_tableRow]
  have hhead : "Severity,Issue Name\n" = "Severity,Issue Name" ++ "\n" := rfl
  exact (congrArg (fun head => (head ++ String.join (findings.map tableRow) ++ "\n").toList)
    hhead).trans (hlines _)

variable {isBreak : Char → Bool}

theorem severity_printed (s : Severity) :
    s.name.toList.all (fun c => isPrinted c && c != ',') = true := by
  cases s <;> rfl

theorem tableHead_printed : tableHead.all isPrinted = true := rfl

theorem splitAt_rowChars (f : Finding) :
    splitAt ',' (rowChars f) =
      [f.severity.name.toList, f.name.display.toList.filter (· != ',')] := by
  have hseverity : ',' ∉ f.severity.name.toList := fun h =>
    absurd (List.all_eq_true.mp (severity_printed f.severity) _ h) (by decide)
  rw [rowChars, splitAt_append_mark, splitAt_of_not_mem hseverity, splitAt_of_not_mem (by simp),
    List.singleton_append]

theorem rowChars_unbroken (hbreak : IsLineBreak isBreak) {f : Finding}
    (hname : ∀ c ∈ f.name.display.toList, isBreak c = false) :
    ∀ c ∈ rowChars f, isBreak c = false := by
  intro c hc
  rw [rowChars, List.mem_append, List.mem_cons] at hc
  rcases hc with hc | rfl | hc
  · have hprinted := List.all_eq_true.mp (severity_printed f.severity) c hc
    exact hbreak.printed c (Bool.and_eq_true_iff.mp hprinted).1
  · exact hbreak.printed ',' rfl
  · exact hname c (List.mem_filter.mp hc).1

theorem filledLines_rows (hbreak : IsLineBreak isBreak) {findings : List Finding}
    (hnames : ∀ f ∈ findings, ∀ c ∈ f.name.display.toList, isBreak c = false) :
    filledLines isBreak (findings.flatMap fun f => '\n' :: rowChars f ++ ['\n']) =
      findings.map rowChars := by
  induction findings with
  | nil => exact filledLines_nil
  | cons f rest ih =>
    rw [List.forall_mem_cons] at hnames
    -- The line feeds around a row leave empty lines only; the row itself is one line.
    have hrow : filledLines isBreak (rowChars f) = [rowChars f] :=
      filledLines_of_unbroken (by simp [rowChars]) (rowChars_unbroken hbreak hnames.1)
    have hfront (cs : List Char) : filledLines isBreak ('\n' :: cs) = filledLines isBreak cs := by
      simpa [filledLines_nil] using filledLines_append_break hbreak.lineFeed [] cs
    rw [List.flatMap_cons, List.append_assoc, List.cons_append, hfront, List.singleton_append,
      filledLines_append_break hbreak.lineFeed, hrow, ih hnames.2, List.map_cons,
      List.singleton_append]

theorem filledLines_table (hbreak : IsLineBreak isBreak) {findings : List Finding}
    (hnames : ∀ f ∈ findings, ∀ c ∈ f.name.display.toList, isBreak c = false) :
    filledLines isBreak (table findings).toList = tableHead :: findings.map rowChars := by
  have hline : filledLines isBreak tableHead = [tableHead] :=
    filledLines_of_unbroken (List.cons_ne_nil _ _) fun c hc =>
      hbreak.printed c (List.all_eq_true.mp tableHead_printed c hc)
  rw [toList_table, filledLines_append_break hbreak.lineFeed, hline,
    filledLines_append_break hbreak.lineFeed, filledLines_rows hbreak hnames, filledLines_nil,
    List.append_nil, List.singleton_append]

end Page

namespace Report
open Page Text FileSystem

/-- The page that a report gets as a table, and that is written to its file. Whatever else than a
line feed ends a line: if no name holds such a character, the lines that are not empty are the head
and one line for each finding, in order, with the severity and the name without commas between the
commas. -/
theorem table_lines {isBreak : Char → Bool} (hbreak : IsLineBreak isBreak) (r : Report)
    (hnames : ∀ f ∈ r.findings, ∃ name, f.name = .text name ∧
      ∀ c ∈ name.toList, isBreak c = false) :
    ∃ text, r.render? "csv" none = some text ∧
      (∀ fs fs' file, r.generate fs "csv" none = (.ok file, fs') →
        ∃ l, PageWrite.Puts ⟨file, r.keep, text⟩ fs fs' l) ∧
      (filledLines isBreak text.toList).length = r.findings.length + 1 ∧
      (filledLines isBreak text.toList)[0]? = some "Severity,Issue Name".toList ∧
      ∀ i f name, r.findings[i]? = some f → f.name = .text name →
        ∃ line, (filledLines isBreak text.toList)[i + 1]? = some line ∧
          splitAt ',' line = [f.severity.name.toList, name.toList.filter (· != ',')] := by
  have hlines : filledLines isBreak (table r.findings).toList =
      tableHead :: r.findings.map rowChars := by
    refine filledLines_table hbreak fun f hf => ?_
    obtain ⟨name, hname, hunbroken⟩ := hnames f hf
    rwa [hname]
  have hpage : r.render? "csv" none = some (table r.findings) := r.render?_name .csv
  refine ⟨_, hpage, fun fs fs' file hmade => puts_of_generate hmade hpage, ?_, ?_, ?_⟩
  · rw [hlines, List.length_cons, List.length_map]
  · rw [hlines]
    rfl
  · intro i f name hf hname
    refine ⟨rowChars f, ?_, ?_⟩
    · rw [hlines, List.getElem?_cons_succ, List.getElem?_map, hf, Option.map_some]
    · rw [splitAt_rowChars, hname]
      rfl

def awkwardNames : Report where
  findings := [⟨.null, .text "", .info, .null, .null, .null, .null⟩,
    ⟨.null, .text ",a, \"b\",,", .error, .null, .null, .null, .null⟩]
  path := "out"

theorem table_lines_awkwardNames :
    ∃ text, awkwardNames.render? "csv" none = some text ∧
      (filledLines (· == '\n') text.toList).length = 3 ∧
      ∃ line, (filledLines (· == '\n') text.toList)[2]? = some line ∧
        splitAt ',' line = ["ERROR".toList, "a \"b\"".toList] := by
  have hbreak : IsLineBreak (· == '\n') := by
    refine ⟨rfl, fun c hprinted => beq_false_of_ne fun heq => ?_⟩
    rw [heq] at hprinted
    cases hprinted
  obtain ⟨text, hpage, -, hlength, -, hrows⟩ := table_lines hbreak awkwardNames (by
    intro f hf
    rw [awkwardNames, List.mem_cons, List.mem_singleton] at hf
    have hunbroken {name : String} (h : name.toList.all (fun c => !(c == '\n')) = true) :
        ∀ c ∈ name.toList, (c == '\n') = false := fun c hc => by
      simpa using List.all_eq_true.mp h c hc
    rcases hf with rfl | rfl
    · exact ⟨"", rfl, hunbroken rfl⟩
    · exact ⟨",a, \"b\",,", rfl, hunbroken rfl⟩)
  obtain ⟨line, hline, hfields⟩ := hrows 1 _ _ rfl rfl
  have hname : ",a, \"b\",,".toList.filter (· != ',') = "a \"b\"".toList := by decide
  exact ⟨text, hpage, hlength, line, hline, hfields.trans (by rw [hname]; rfl)⟩

end Report
end DroidAudit
