import DroidAudit.JavaVersion
import DroidAudit.Proofs.Steps
import Mathlib.Data.List.TakeWhile

/-! The gate in front of the unpacker: Java has to be of version 1.7 or later. What counts is the first
version number in the text that is printed, and of that number the first three characters. Main
statement: for which texts this is the comparison of the two parts. -/
namespace DroidAudit

namespace JavaVersion
open Text (isDecimal)

/-! The first version number. -/

/-- Digits, a point and digits in front of a text, of which the last go on as far as they can. -/
structure IsFront (text major minor : List Char) : Prop where
  major_ne : major ≠ []
  minor_ne : minor ≠ []
  major_decimal : ∀ c ∈ major, isDecimal c = true
  minor_decimal : ∀ c ∈ minor, isDecimal c = true
  text_eq : ∃ after, text = major ++ '.' :: (minor ++ after) ∧ ∀ c ∈ after.head?, isDecimal c = false

/-- The version number that begins first. -/
inductive FirstVersion : List Char → List Char → List Char → Prop
  | front {cs major minor : List Char} : IsFront cs major minor → FirstVersion cs major minor
  | later {c : Char} {cs major minor : List Char} :
      (∀ major' minor', ¬IsFront (c :: cs) major' minor') → FirstVersion cs major minor →
      FirstVersion (c :: cs) major minor

variable {c : Char} {cs major minor : List Char}

theorem takeWhile_append_stop {p : Char → Bool} {run rest : List Char} (hrun : ∀ c ∈ run, p c = true)
    (hrest : ∀ c ∈ rest.head?, p c = false) :
    (run ++ rest).takeWhile p = run ∧ (run ++ rest).dropWhile p = rest := by
  rw [List.takeWhile_append_of_pos hrun, List.dropWhile_append_of_pos hrun]
  cases rest with
  | nil => simp
  | cons c rest =>
    have hc : p c = false := hrest c rfl
    simp [hc]

theorem IsFront.takeWhile_eq (h : IsFront cs major minor) :
    cs.takeWhile isDecimal = major ∧
      ∃ rest, cs.dropWhile isDecimal = '.' :: rest ∧ rest.takeWhile isDecimal = minor := by
  obtain ⟨-, -, hmajors, hminors, after, rfl, hafter⟩ := h
  have hstop : ∀ c ∈ ('.' :: (minor ++ after)).head?, isDecimal c = false := by
    rintro c ⟨⟩
    rfl
  obtain ⟨hmajor, hrest⟩ := takeWhile_append_stop hmajors hstop
  exact ⟨hmajor, _, hrest, (takeWhile_append_stop hminors hafter).1⟩

theorem find?_of_front (h : IsFront cs major minor) : find? cs = some (major ++ '.' :: minor) := by
  obtain ⟨hmajor, rest, hrest, hminor⟩ := h.takeWhile_eq
  cases cs with
  | nil => cases hrest
  | cons c cs =>
    have hc : isDecimal c = true := by
      by_contra hc
      rw [List.takeWhile_cons_of_neg hc] at hmajor
      exact h.major_ne hmajor.symm
    rw [find?, if_pos hc, hrest]
    simp only [hminor, hmajor, List.isEmpty_iff, h.minor_ne, if_false]

theorem find?_of_not_front (h : ∀ major minor, ¬IsFront (c :: cs) major minor) :
    find? (c :: cs) = find? cs := by
  rw [find?]
  split
  · rename_i hc
    split
    · rename_i rest hrest
      dsimp only
      split
      · rfl
      · rename_i hminor
        refine absurd ⟨?_, ?_, ?_, ?_, rest.dropWhile isDecimal, ?_, ?_⟩
          (h ((c :: cs).takeWhile isDecimal) (rest.takeWhile isDecimal))
        · rw [List.takeWhile_cons_of_pos hc]
          exact List.cons_ne_nil _ _
        · simpa using hminor
        · exact fun d hd => List.mem_takeWhile_imp hd
        · exact fun d hd => List.mem_takeWhile_imp hd
        · rw [List.takeWhile_append_dropWhile, ← hrest, List.takeWhile_append_dropWhile]
        · intro d hd
          have hstop := List.head?_dropWhile_not isDecimal rest
          rwa [hd] at hstop
    · rfl
  · rfl

/-- The search finds the first version number, or there is none. -/
theorem find?_first (cs : List Char) :
    (∃ major minor, find? cs = some (major ++ '.' :: minor) ∧ FirstVersion cs major minor) ∨
      find? cs = none ∧ ∀ major minor, ¬FirstVersion cs major minor := by
  induction cs with
  | nil =>
    refine .inr ⟨rfl, fun major minor hfirst => ?_⟩
    cases hfirst with
    | front hat =>
      obtain ⟨after, htext, -⟩ := hat.text_eq
      simp at htext
  | cons c cs ih =>
    -- A number in front is the first one; without it, the first in the rest is the first here.
    by_cases hfront : ∃ major minor, IsFront (c :: cs) major minor
    · obtain ⟨major, minor, hat⟩ := hfront
      exact .inl ⟨major, minor, find?_of_front hat, .front hat⟩
    · have hnot : ∀ major minor, ¬IsFront (c :: cs) major minor := fun major minor hat =>
        hfront ⟨major, minor, hat⟩
      rw [find?_of_not_front hnot]
      rcases ih with ⟨major, minor, hfind, hfirst⟩ | ⟨hfind, hnone⟩
      · exact .inl ⟨major, minor, hfind, .later hnot hfirst⟩
      · refine .inr ⟨hfind, fun major minor hfirst => ?_⟩
        cases hfirst with
        | front hat => exact hnot major minor hat
        | later _ hfirst => exact hnone major minor hfirst

theorem FirstVersion.unique {major' minor' : List Char} (h : FirstVersion cs major minor)
    (h' : FirstVersion cs major' minor') : major' = major ∧ minor' = minor := by
  induction h with
  | front hat =>
    cases h' with
    | front hat' =>
      obtain ⟨hmajor, rest, hrest, hminor⟩ := hat.takeWhile_eq
      obtain ⟨hmajor', rest', hrest', hminor'⟩ := hat'.takeWhile_eq
      cases hrest.symm.trans hrest'
      exact ⟨hmajor'.symm.trans hmajor, hminor'.symm.trans hminor⟩
    | later hnot _ => exact absurd hat (hnot _ _)
  | later hnot _ ih =>
    cases h' with
    | front hat => exact absurd hat (hnot _ _)
    | later _ h' => exact ih h'

theorem FirstVersion.parts (h : FirstVersion cs major minor) :
    major ≠ [] ∧ minor ≠ [] ∧ ∀ c ∈ major, isDecimal c = true := by
  induction h with
  | front hat => exact ⟨hat.major_ne, hat.minor_ne, hat.major_decimal⟩
  | later _ _ ih => exact ih

/-! Versions as numbers. -/

/-- Version 1.7 or later, the parts compared one after the other. -/
def IsLate (major minor : List Char) : Prop :=
  1 < digits major ∨ digits major = 1 ∧ 7 ≤ digits minor

/-- The same of the first three characters, of which the point may be one. -/
def LooksLate (major minor : List Char) : Prop :=
  1 < digits (major.take 3) ∨
    major.length = 1 ∧ digits major = 1 ∧ 7 ≤ digits (minor.take 1)

theorem digits_take_le (n : Nat) (cs : List Char) : digits (cs.take n) ≤ digits cs := by
  have hgrows (ds : List Char) (k : Nat) :
      k ≤ ds.foldl (fun n c => 10 * n + (Text.decimalValue? c).getD 0) k := by
    induction ds generalizing k with
    | nil => exact Nat.le_refl k
    | cons d ds ih =>
      rw [List.foldl_cons]
      exact Nat.le_trans (by omega) (ih _)
  have hsplit : digits cs = (cs.drop n).foldl
      (fun n c => 10 * n + (Text.decimalValue? c).getD 0) (digits (cs.take n)) := by
    rw [digits, digits, ← List.foldl_append, List.take_append_drop]
  rw [hsplit]
  exact hgrows _ _

theorem LooksLate.isLate (h : LooksLate major minor) : IsLate major minor := by
  rcases h with hmajor | ⟨-, hmajor, hminor⟩
  · exact .inl (Nat.lt_of_lt_of_le hmajor (digits_take_le 3 major))
  · exact .inr ⟨hmajor, Nat.le_trans hminor (digits_take_le 1 minor)⟩

theorem digits_single_le (c : Char) : digits [c] ≤ 9 := by
  have hvalue : (Text.decimalValue? c).getD 0 ≤ 9 := by
    unfold Text.decimalValue?
    split
    · rename_i hc
      simp [Char.isDigit, UInt32.le_iff_toNat_le] at hc
      simp only [Option.getD_some]
      omega
    · split
      · exact Nat.zero_le _
      · cases hfind : Text.decimalZeros.find? fun z => z ≤ c.toNat && c.toNat < z + 10 with
        | none => simp
        | some z =>
          have hz := List.find?_some hfind
          simp only [Bool.and_eq_true, decide_eq_true_eq] at hz
          simp only [Option.map_some, Option.getD_some]
          omega
  simpa [digits] using hvalue

theorem FirstVersion.isRecent_iff (h : FirstVersion cs major minor) :
    isRecent (major ++ '.' :: minor) = true ↔ LooksLate major minor := by
  obtain ⟨hmajor, hminor, hmajors⟩ := h.parts
  have hpoint : isDecimal '.' = false := rfl
  obtain ⟨d, minor, rfl⟩ := List.exists_cons_of_ne_nil hminor
  have hd := digits_single_le d
  have hshort : digits (List.take 1 (d :: minor)) = digits [d] := rfl
  simp only [isRecent, tenths, LooksLate, hshort]
  -- Of the three characters the point is the second, the third or none.
  rcases major with _ | ⟨a, _ | ⟨b, _ | ⟨c, rest⟩⟩⟩
  · exact absurd rfl hmajor
  · have ha : isDecimal a = true := hmajors a (by simp)
    simp [ha, hpoint]
    omega
  · have ha : isDecimal a = true := hmajors a (by simp)
    have hb : isDecimal b = true := hmajors b (by simp)
    have hnothing : digits [] = 0 := rfl
    simp [ha, hb, hpoint, hnothing]
    omega
  · have ha : isDecimal a = true := hmajors a (by simp)
    have hb : isDecimal b = true := hmajors b (by simp)
    have hc : isDecimal c = true := hmajors c (by simp)
    have hnothing : digits [] = 0 := rfl
    simp [ha, hb, hc, hnothing]
    omega

/-! The gate. -/

/-- A version in the text that is late lets the run go on, and otherwise the program is stopped. -/
structure Decides (text : List Char) (result : Except Failure Unit) : Prop where
  passes : ∀ major minor, FirstVersion text major minor → IsLate major minor → result = .ok ()
  stops : (∀ major minor, FirstVersion text major minor → ¬IsLate major minor) →
    ∃ cause, result = .error (.stop cause)

variable {t : Tools} {printed : String}

theorem result_gate (h : t.javaVersion = .ok printed) (d : Desk) :
    ((gate t).outcome d).1 = (find? printed.toList).elim (.error (.absent .version)) fun version =>
      if isRecent version then .ok () else .error (.stop .oldJava) := by
  have hnote : (Desk.note { line := ["java", "-version"] }).outcome d =
    (.ok (), { d with calls := d.calls ++ [{ line := ["java", "-version"] }] }) := rfl
  have hask : (ask t).outcome d = ((find? printed.toList).elim (.error (.absent .version)) .ok,
      { d with calls := d.calls ++ [{ line := ["java", "-version"] }] }) := by
    rw [ask, Step.outcome_bind hnote, h]
    cases hfind : find? printed.toList <;> simp only [hfind] <;> rfl
  cases hfind : find? printed.toList with
  | none =>
    rw [hfind] at hask
    rw [gate, Step.outcome_bind_error hask]
    rfl
  | some version =>
    rw [hfind] at hask
    rw [gate, Step.outcome_bind hask, Option.elim_some]
    cases isRecent version <;> rfl

/-- What the gate does goes by the first version, or by there being none. -/
theorem gate_result (h : t.javaVersion = .ok printed) (d : Desk) :
    (∃ major minor, FirstVersion printed.toList major minor ∧
      (LooksLate major minor ∧ ((gate t).outcome d).1 = .ok () ∨
        ¬LooksLate major minor ∧ ((gate t).outcome d).1 = .error (.stop .oldJava))) ∨
    (∀ major minor, ¬FirstVersion printed.toList major minor) ∧
      ((gate t).outcome d).1 = .error (.absent .version) := by
  rw [result_gate h]
  rcases find?_first printed.toList with ⟨major, minor, hfind, hfirst⟩ | ⟨hfind, hnone⟩
  · refine .inl ⟨major, minor, hfirst, ?_⟩
    rw [hfind, Option.elim_some, ← hfirst.isRecent_iff]
    cases isRecent (major ++ '.' :: minor) <;> simp
  · rw [hfind]
    exact .inr ⟨hnone, rfl⟩

/-- The gate decides rightly on a text exactly if there is a version number in it and the first one,
if it is late, also looks late by its first three characters. It lets no earlier version pass; and
without a number it fails without stopping the program. -/
theorem gate_decides_iff (t : Tools) {printed : String} (h : t.javaVersion = .ok printed) (d : Desk) :
    (Decides printed.toList ((gate t).outcome d).1 ↔
      ∃ major minor, FirstVersion printed.toList major minor ∧
        (IsLate major minor → LooksLate major minor)) ∧
    (((gate t).outcome d).1 = .ok () →
      ∃ major minor, FirstVersion printed.toList major minor ∧ IsLate major minor) ∧
    ((∀ major minor, ¬FirstVersion printed.toList major minor) →
      ((gate t).outcome d).1 = .error (.absent .version)) := by
  rcases gate_result h d with ⟨major, minor, hfirst, hresult⟩ | ⟨hnone, hfails⟩
  · refine ⟨⟨fun hdecides => ⟨major, minor, hfirst, fun hlate => ?_⟩, ?_⟩,
      fun hpass => ⟨major, minor, hfirst, ?_⟩, fun hnone => absurd hfirst (hnone major minor)⟩
    · rcases hresult with ⟨hlooks, -⟩ | ⟨-, hstop⟩
      · exact hlooks
      · cases (hdecides.passes major minor hfirst hlate).symm.trans hstop
    · rintro ⟨major', minor', hfirst', hlooks⟩
      obtain ⟨rfl, rfl⟩ := hfirst.unique hfirst'
      refine ⟨fun major minor hother hlate => ?_, fun hearly => ?_⟩
      · obtain ⟨rfl, rfl⟩ := hfirst.unique hother
        rcases hresult with ⟨-, hpass⟩ | ⟨hnot, -⟩
        · exact hpass
        · exact absurd (hlooks hlate) hnot
      · rcases hresult with ⟨hlate, -⟩ | ⟨-, hstop⟩
        · exact absurd hlate.isLate (hearly _ _ hfirst)
        · exact ⟨_, hstop⟩
    · rcases hresult with ⟨hlate, -⟩ | ⟨-, hstop⟩
      · exact hlate.isLate
      · cases hpass.symm.trans hstop
  · refine ⟨⟨fun hdecides => ?_, ?_⟩, fun hpass => ?_, fun _ => hfails⟩
    · obtain ⟨cause, hstop⟩ := hdecides.stops fun major minor hfirst =>
        absurd hfirst (hnone major minor)
      cases hfails.symm.trans hstop
    · rintro ⟨major, minor, hfirst, -⟩
      exact absurd hfirst (hnone major minor)
    · cases hpass.symm.trans hfails

def toolsUnder (printed : String) : Tools where
  converter := "lib"
  unpacker := "lib"
  decompilers := "lib"
  javaVersion := .ok printed
  run := fun _ fs => (.ok 0, fs)

theorem firstVersion_of_find? {version : List Char} (h : find? cs = some version) :
    ∃ major minor, FirstVersion cs major minor ∧
      (isRecent version = true ↔ LooksLate major minor) := by
  rcases find?_first cs with ⟨major, minor, hfind, hfirst⟩ | ⟨hfind, -⟩
  · cases h.symm.trans hfind
    exact ⟨major, minor, hfirst, hfirst.isRecent_iff⟩
  · rw [hfind] at h
    cases h

theorem gate_decides_iff_eleven :
    (toolsUnder "openjdk 11.0.2").javaVersion = .ok "openjdk 11.0.2" ∧
      Decides "openjdk 11.0.2".toList
        ((gate (toolsUnder "openjdk 11.0.2")).outcome { fs := .empty [] }).1 ∧
      ((gate (toolsUnder "openjdk 11.0.2")).outcome { fs := .empty [] }).1 = .ok () := by
  have hfind : find? "openjdk 11.0.2".toList = some ['1', '1', '.', '0'] := by decide
  obtain ⟨major, minor, hfirst, hlooks⟩ := firstVersion_of_find? hfind
  have hlate : LooksLate major minor := hlooks.mp (by decide)
  have hdecides := (gate_decides_iff (toolsUnder "openjdk 11.0.2") rfl { fs := .empty [] }).1.mpr
    ⟨major, minor, hfirst, fun _ => hlate⟩
  exact ⟨rfl, hdecides, hdecides.passes major minor hfirst hlate.isLate⟩

/-- A late version is stopped for its minor part has two digits; and a text without a number is a
failure that does not stop the program. -/
theorem gate_decides_wrongly :
    (FirstVersion "1.10.0".toList ['1'] ['1', '0'] ∧ IsLate ['1'] ['1', '0'] ∧
      ((gate (toolsUnder "1.10.0")).outcome { fs := .empty [] }).1 = .error (.stop .oldJava)) ∧
    (∀ major minor, ¬FirstVersion "no version".toList major minor) ∧
      ((gate (toolsUnder "no version")).outcome { fs := .empty [] }).1 =
        .error (.absent .version) := by
  have hat : IsFront "1.10.0".toList ['1'] ['1', '0'] :=
    ⟨List.cons_ne_nil _ _, List.cons_ne_nil _ _, List.all_eq_true.mp rfl, List.all_eq_true.mp rfl,
      ['.', '0'], rfl, by rintro c ⟨⟩; rfl⟩
  have hnone : find? "no version".toList = none := by decide
  refine ⟨⟨.front hat, .inr ⟨by decide, by decide⟩, ?_⟩, ?_, ?_⟩
  · rw [result_gate rfl, find?_of_front hat]
    rfl
  · rcases find?_first "no version".toList with ⟨_, _, hfind, -⟩ | ⟨-, hnot⟩
    · cases hnone.symm.trans hfind
    · exact hnot
  · rw [result_gate rfl, hnone]
    rfl

end JavaVersion
end DroidAudit
