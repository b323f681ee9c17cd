import DroidAudit.Command.Tools
import DroidAudit.Proofs.CommandWords
import DroidAudit.Proofs.Numeral
import DroidAudit.Proofs.WrittenText

/-! Command lines on Windows. The backslashes of a line are doubled before it is split, and outside
quotes two of them are read as one. So words of printable ASCII come back as they were, wherever
backslashes stand in them; blanks and quotes are not escaped and must not occur. -/
namespace DroidAudit

namespace Text

def isPrintableAscii (c : Char) : Bool := 32 ≤ c.toNat && c.toNat < 127

variable {c : Char}

theorem isPrintableAscii_iff : isPrintableAscii c = true ↔ 32 ≤ c.toNat ∧ c.toNat < 127 := by
  rw [isPrintableAscii, Bool.and_eq_true, decide_eq_true_eq, decide_eq_true_eq]

theorem asciiPoint_of_printable (h : isPrintableAscii c = true) (hback : c ≠ '\\') :
    asciiPoint c.toNat = [c] := by
  have hcode : c.toNat ≠ 92 := fun hcode => hback (Char.toNat_inj.mp hcode)
  obtain ⟨hlow, hhigh⟩ := isPrintableAscii_iff.mp h
  rw [asciiPoint, if_neg hcode, if_neg (by omega), if_neg (by omega), if_neg (by omega),
    if_pos (by simp [hlow, hhigh]), Char.ofNat_toNat]

theorem asciiEscaped_of_printable {cs : List Char} (h : ∀ c ∈ cs, isPrintableAscii c = true) :
    asciiEscaped cs = cs.flatMap (asciiPoint ·.toNat) := by
  have hplain : ∀ c ∈ cs, isReserved c = false := fun c hc =>
    isReserved_of_low (Nat.lt_succ_of_lt (isPrintableAscii_iff.mp (h c hc)).2)
  have hpoints := points_ofChars cs
  rw [ofChars_of_plain hplain] at hpoints
  rw [asciiEscaped, hpoints, List.flatMap_map]

end Text

namespace Command

/-- What a word may hold that is passed on: printable ASCII without blanks and quotes. -/
def isWordSign (c : Char) : Bool := Text.isPrintableAscii c && c != ' ' && !isQuote c

theorem isWordSign_iff {c : Char} :
    isWordSign c = true ↔ Text.isPrintableAscii c = true ∧ c ≠ ' ' ∧ isQuote c = false := by
  simp only [isWordSign, Bool.and_eq_true, bne_iff_ne, Bool.not_eq_true', and_assoc]

theorem separatesWords_of_isWordSign {c : Char} (h : isWordSign c = true) :
    separatesWords c = false := by
  simp only [separatesWords, Bool.or_eq_false_iff, beq_eq_false_iff_ne]
  refine ⟨⟨⟨?_, ?_⟩, ?_⟩, ?_⟩ <;> (rintro rfl; exact absurd h (by decide))

/-- A pair of backslashes is read as one, and the other signs are written as they are. -/
theorem faithful_asciiPoint {c : Char} (h : isWordSign c = true) :
    Faithful (Text.asciiPoint ·.toNat) c := by
  by_cases hback : c = '\\'
  · subst hback
    rintro place (rfl | rfl) word cs <;> rfl
  · obtain ⟨hprint, -, hquote⟩ := isWordSign_iff.mp h
    have hplain : isSpecial c = false := by
      rw [isSpecial_eq, separatesWords_of_isWordSign h, hquote, beq_false_of_ne hback]
      rfl
    exact faithful_of_plain hplain (Text.asciiPoint_of_printable hprint hback)

section
variable {t : Tools} (hchosen : t.chosenFor = "Windows") {line : String}
include hchosen

theorem toList_escaped (h : ∀ c ∈ line.toList, Text.isPrintableAscii c = true) :
    (t.escaped line).toList = line.toList.flatMap (Text.asciiPoint ·.toNat) := by
  rw [Tools.escaped]
  split
  · rw [String.toList_ofList, Text.asciiEscaped_of_printable h]
  · rename_i hback
    -- a line without backslashes is passed on, and each of its signs is its own escape
    have hself : ∀ c ∈ line.toList, Text.asciiPoint c.toNat = [c] := fun c hc =>
      Text.asciiPoint_of_printable (h c hc) fun heq => hback (by simpa [hchosen] using heq ▸ hc)
    rw [List.flatMap_def, List.map_congr_left hself, ← List.flatMap_def, List.flatMap_singleton']

theorem words_escaped_joined {ws : List String}
    (hline : line.toList = joined (ws.map String.toList)) (hfull : ∀ w ∈ ws, w ≠ "")
    (h : ∀ w ∈ ws, ∀ c ∈ w.toList, isWordSign c = true) : words (t.escaped line) = .ok ws := by
  have hsigns : ∀ w ∈ ws.map String.toList, ∀ c ∈ w, isWordSign c = true := by simpa using h
  have hprint : ∀ c ∈ line.toList, Text.isPrintableAscii c = true := by
    rw [hline]
    exact Text.forall_mem_intercalate (List.forall_mem_singleton.mpr (by decide))
      fun w hw c hc => (isWordSign_iff.mp (hsigns w hw c hc)).1
  rw [words_eq_ok_iff, toList_escaped hchosen hprint, hline]
  exact wordsFrom_joined rfl (by simpa using hfull)
    fun w hw c hc => faithful_asciiPoint (hsigns w hw c hc)

end

/-- On Windows a word of printable ASCII without blanks and quotes is split off as it was before it
was escaped, with any number of backslashes at any place. -/
theorem words_escaped (t : Tools) (hchosen : t.chosenFor = "Windows") (s : String) (hne : s ≠ "")
    (h : ∀ c ∈ s.toList, isWordSign c = true) : words (t.escaped s) = .ok [s] :=
  words_escaped_joined hchosen (by simp [joined]) (by simpa using hne) (by simpa using h)

def windowsTools : Tools where
  chosenFor := "Windows"
  system := "Windows"
  converter := "lib"
  unpacker := "lib"
  decompilers := "lib"
  javaVersion := .ok "1.8.0"
  run := fun _ fs => (.ok 0, fs)

/-- Backslashes at the front, before a letter that makes an escape, and at the end. -/
theorem words_escaped_share :
    (∀ c ∈ "\\\\h\\n\\".toList, isWordSign c = true) ∧
      words (windowsTools.escaped "\\\\h\\n\\") = .ok ["\\\\h\\n\\"] := by
  have hsigns : ∀ c ∈ "\\\\h\\n\\".toList, isWordSign c = true := List.all_eq_true.mp rfl
  exact ⟨hsigns, words_escaped windowsTools rfl _ (by decide) hsigns⟩

end Command
end DroidAudit
