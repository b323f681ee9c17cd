import DroidAudit.Xml.Reader
import DroidAudit.Xml.Writer

/-! Characters in documents. A character is written as itself or as a reference, and a reference is
read as the character that it was written for. -/
namespace DroidAudit

namespace Text

theorem isReserved_of_low {c : Char} (h : c.toNat < 128) : isReserved c = false := by
  simp only [isReserved, Bool.and_eq_false_iff, decide_eq_false_iff_not]
  omega

theorem ofChars_eq_flatMap (cs : List Char) : ofChars cs = cs.flatMap ofChar := by
  unfold ofChars
  split
  · rfl
  · rename_i h
    simp only [List.any_eq_true, not_exists, not_and, Bool.not_eq_true] at h
    induction cs with
    | nil => rfl
    | cons c cs ih =>
      have hc : ofChar c = [c] := by simp [ofChar, h c (by simp)]
      rw [List.flatMap_cons, hc, ← ih fun d hd => h d (by simp [hd])]
      rfl

theorem ofChars_append (cs ds : List Char) : ofChars (cs ++ ds) = ofChars cs ++ ofChars ds := by
  simp only [ofChars_eq_flatMap, List.flatMap_append]

theorem ofChars_of_plain {cs : List Char} (h : ∀ c ∈ cs, isReserved c = false) :
    ofChars cs = cs := by
  have hnone : cs.any isReserved = false := by
    rw [List.any_eq_false]
    intro c hc
    simp [h c hc]
  simp [ofChars, hnone]

theorem points_cons {c : Char} (h : isReserved c = false) (cs : List Char) :
    points (c :: cs) = c.toNat :: points cs := by
  have hself : c ≠ selfMark := by
    rintro rfl
    exact absurd h (by decide)
  have hpoint : pointOf c = c.toNat := by simp [pointOf, h]
  cases cs with
  | nil => simp [points, hpoint]
  | cons d cs => simp [points, hpoint, hself]

theorem points_ofChars (cs : List Char) : points (ofChars cs) = cs.map Char.toNat := by
  rw [ofChars_eq_flatMap]
  induction cs with
  | nil => rfl
  | cons c cs ih =>
    rw [List.flatMap_cons, List.map_cons, ← ih]
    cases h : isReserved c with
    | false => simp [ofChar, h, points_cons h]
    | true => simp [ofChar, h, points]

end Text

namespace Xml

/-- Text that a document keeps: the characters that it may hold but for the carriage return, which
would be read as the end of a line. -/
def IsText (s : String) : Prop :=
  ∃ cs, s = String.ofList (Text.ofChars cs) ∧ ∀ c ∈ cs, isLegal c = true ∧ c ≠ '\r'

theorem IsText.append {s t : String} (hs : IsText s) (ht : IsText t) : IsText (s ++ t) := by
  obtain ⟨cs, rfl, hcs⟩ := hs
  obtain ⟨ds, rfl, hds⟩ := ht
  refine ⟨cs ++ ds, by rw [Text.ofChars_append, String.ofList_append], fun c hc => ?_⟩
  rcases List.mem_append.mp hc with hc | hc
  · exact hcs c hc
  · exact hds c hc

/-- Plain text whose characters can be looked at one by one. -/
def isSimpleText (s : String) : Bool :=
  s.toList.all fun c => isLegal c && c != '\r' && !Text.isReserved c

theorem isText_of_isSimpleText {s : String} (h : isSimpleText s = true) : IsText s := by
  simp only [isSimpleText, List.all_eq_true, Bool.and_eq_true, bne_iff_ne, ne_eq,
    Bool.not_eq_true'] at h
  refine ⟨s.toList, ?_, fun c hc => (h c hc).1⟩
  rw [Text.ofChars_of_plain fun c hc => (h c hc).2, String.ofList_toList]

theorem written_ofChars (escape : Char → List Char) (cs : List Char) :
    (written escape (String.ofList (Text.ofChars cs))).toList =
      cs.flatMap fun c => writtenPoint escape c.toNat := by
  simp [written, Text.points_ofChars, List.flatMap_map]

/-! References. -/

def Reference.StandsFor (c : Char) : Reference → Prop
  | .char found => found = some c
  | .entity name => predefined name = some c

/-- A text, behind an ampersand, that refers to a character whatever follows. -/
def Refers (body : List Char) (c : Char) : Prop :=
  ∃ r : Reference, r.StandsFor c ∧ ∀ start rest, reference start (body ++ rest) = .ok (r, rest)

theorem numbered_digits {digits : List Char} (hne : digits ≠ [])
    (hdigits : ∀ c ∈ digits, c.isDigit = true) (start rest : List Char) :
    numbered start 10 (digits ++ ';' :: rest) =
      .ok (.char (charNumbered (Nat.ofDigitChars 10 digits 0)), rest) := by
  have hvalue : ∀ c ∈ digits, digitIn 10 c = some (c.toNat - 48) := fun c hc => by
    simp [digitIn, hdigits c hc]
  have htake : (digits ++ ';' :: rest).takeWhile (fun c => (digitIn 10 c).isSome) = digits := by
    rw [List.takeWhile_append_of_pos fun c hc => by simp [hvalue c hc]]
    simp [digitIn]
  have hnumber : ∀ n, numberIn 10 n digits = Nat.ofDigitChars 10 digits n := by
    clear htake hne hdigits
    induction digits with
    | nil => intro n; rfl
    | cons c cs ih =>
      intro n
      rw [numberIn, hvalue c (by simp), ih fun d hd => hvalue d (by simp [hd]),
        Nat.ofDigitChars_cons]
      rfl
  simp only [numbered, htake, List.isEmpty_iff, hne, if_false, List.drop_left, hnumber]

variable {c : Char} {v cs : List Char}

theorem charNumbered_toNat (h : isLegal c = true) : charNumbered c.toNat = some c := by
  have hpos : c.toNat ≠ 0 := by
    intro hzero
    have hc : c = Char.ofNat 0 := by rw [← hzero, Char.ofNat_toNat]
    rw [hc] at h
    exact absurd h (by decide)
  simp [charNumbered, hpos, h]

theorem refers_number (h : isLegal c = true) (digits : List Char) (hne : digits ≠ [])
    (hdigits : ∀ d ∈ digits, d.isDigit = true) (hn : Nat.ofDigitChars 10 digits 0 = c.toNat) :
    Refers ('#' :: digits ++ [';']) c := by
  refine ⟨.char (some c), rfl, fun start rest => ?_⟩
  obtain ⟨d, ds, rfl⟩ := List.exists_cons_of_ne_nil hne
  have hx : d ≠ 'x' := by
    rintro rfl
    exact absurd (hdigits 'x' (by simp)) (by decide)
  have hread : reference start ('#' :: ((d :: ds) ++ ';' :: rest)) =
      numbered start 10 ((d :: ds) ++ ';' :: rest) := by
    simp only [List.cons_append]
    rw [reference]
    simpa using hx
  rw [show '#' :: (d :: ds) ++ [';'] ++ rest = '#' :: ((d :: ds) ++ ';' :: rest) by simp, hread,
    numbered_digits (by simp) hdigits, hn, charNumbered_toNat h]

/-- Characters that references consist of, behind their ampersand. -/
def isQuiet (c : Char) : Bool := c.isAlphanum || c == '#' || c == ';'

inductive WrittenAs (signs : List Char) (c : Char) : List Char → Prop
  | itself : c.toNat < 128 → c ∉ signs → WrittenAs signs c [c]
  | reference {body : List Char} : Refers body c → (∀ d ∈ body, isQuiet d = true) →
      WrittenAs signs c ('&' :: body)

def textSigns : List Char := ['&', '<', '>']

def valueSigns : List Char := ['"', '\r', '\n', '\t', '&', '<', '>']

theorem writtenPoint_writtenAs {signs : List Char} {escape : Char → List Char}
    (h : isLegal c = true) (hescape : c.toNat < 128 → WrittenAs signs c (escape c)) :
    WrittenAs signs c (writtenPoint escape c.toNat) := by
  unfold writtenPoint
  split
  · rename_i hlow
    rw [Char.ofNat_toNat]
    exact hescape hlow
  · have hdigits : ∀ d ∈ Nat.toDigits 10 c.toNat, d.isDigit = true := fun d hd =>
      Nat.isDigit_of_mem_toDigits (by decide) (by decide) hd
    have hchars : ("&#" ++ toString c.toNat ++ ";").toList =
        '&' :: ('#' :: Nat.toDigits 10 c.toNat ++ [';']) := by
      simp
    rw [hchars]
    refine .reference (refers_number h _ Nat.toDigits_ne_nil hdigits Nat.ofDigitChars_ten_toDigits) ?_
    intro d hd
    simp only [List.cons_append, List.mem_cons, List.mem_append, List.not_mem_nil, or_false] at hd
    rcases hd with rfl | hd | rfl
    · rfl
    · simp [isQuiet, Char.isAlphanum, hdigits d hd]
    · rfl

theorem escapedTextChar_writtenAs (hlow : c.toNat < 128) :
    WrittenAs textSigns c (escapedTextChar c) := by
  unfold escapedTextChar
  split
  · exact .reference ⟨.entity "amp", rfl, fun _ _ => rfl⟩ (List.all_eq_true.mp rfl)
  · exact .reference ⟨.entity "lt", rfl, fun _ _ => rfl⟩ (List.all_eq_true.mp rfl)
  · exact .reference ⟨.entity "gt", rfl, fun _ _ => rfl⟩ (List.all_eq_true.mp rfl)
  · exact .itself hlow (by simp_all [textSigns])

theorem escapedValueChar_writtenAs (hlow : c.toNat < 128) :
    WrittenAs valueSigns c (escapedValueChar c) := by
  unfold escapedValueChar
  split
  · exact .reference ⟨.entity "quot", rfl, fun _ _ => rfl⟩ (List.all_eq_true.mp rfl)
  · exact .reference (refers_number (by decide) ['1', '3'] (by decide) (List.all_eq_true.mp rfl)
      (by decide)) (List.all_eq_true.mp rfl)
  · exact .reference (refers_number (by decide) ['1', '0'] (by decide) (List.all_eq_true.mp rfl)
      (by decide)) (List.all_eq_true.mp rfl)
  · exact .reference (refers_number (by decide) ['0', '9'] (by decide) (List.all_eq_true.mp rfl)
      (by decide)) (List.all_eq_true.mp rfl)
  · have htext := escapedTextChar_writtenAs hlow
    generalize escapedTextChar c = cs at htext ⊢
    cases htext with
    | itself _ hsigns => exact .itself hlow (by simp_all [textSigns, valueSigns])
    | reference hrefers hquiet => exact .reference hrefers hquiet

/-! Values of attributes. -/

def valueWritten (cs : List Char) : List Char :=
  cs.flatMap fun c => writtenPoint escapedValueChar c.toNat

theorem rawValue_append (h : WrittenAs valueSigns c v)
    {start tail value rest : List Char} (htail : rawValue start '"' tail = .ok (value, rest)) :
    rawValue start '"' (v ++ tail) = .ok (v ++ value, rest) := by
  have hplain : ∀ d : Char, d ≠ '"' → d ≠ '<' → d ≠ '&' → ∀ {tail value : List Char},
      rawValue start '"' tail = .ok (value, rest) →
      rawValue start '"' (d :: tail) = .ok (d :: value, rest) := by
    intro d hquote htag hamp tail value htail
    rw [rawValue]
    simp [hquote, htag, hamp, htail, bind, Except.bind]
  cases h with
  | itself _ hsigns =>
    simp only [valueSigns, List.mem_cons, not_or] at hsigns
    obtain ⟨hquote, -, -, -, hamp, htag, -⟩ := hsigns
    exact hplain c hquote htag hamp htail
  | @reference body hrefers hquiet =>
    obtain ⟨r, -, href⟩ := hrefers
    have hbody : rawValue start '"' (body ++ tail) = .ok (body ++ value, rest) := by
      clear href
      induction body with
      | nil => exact htail
      | cons d body ih =>
        have hd : isQuiet d = true := hquiet d (by simp)
        refine hplain d ?_ ?_ ?_ (ih fun e he => hquiet e (by simp [he]))
        all_goals
          rintro rfl
          exact absurd hd (by decide)
    rw [List.cons_append, rawValue]
    simp [href, hbody, bind, Except.bind, discard, Functor.discard, Functor.mapConst, Except.map]

theorem rawValue_valueWritten (h : ∀ c ∈ cs, isLegal c = true) (start rest : List Char) :
    rawValue start '"' (valueWritten cs ++ '"' :: rest) = .ok (valueWritten cs, '"' :: rest) := by
  induction cs with
  | nil => simp [valueWritten, rawValue]
  | cons c cs ih =>
    have hc : WrittenAs valueSigns c (writtenPoint escapedValueChar c.toNat) :=
      writtenPoint_writtenAs (h c (by simp)) escapedValueChar_writtenAs
    have hrest := rawValue_append hc (ih fun d hd => h d (by simp [hd]))
    simpa [valueWritten] using hrest

theorem valueChars_append (h : WrittenAs valueSigns c v)
    {site : Site} {tail : List Char} {fuel : Nat}
    (htail : valueChars {} fuel site [] tail = .ok cs) :
    valueChars {} (fuel + 1) site [] (v ++ tail) = .ok (c :: cs) := by
  cases h with
  | itself _ hsigns =>
    simp only [valueSigns, List.mem_cons, not_or] at hsigns
    have hspace : (if isSpace c = true then ' ' else c) = c := by
      split
      · simp_all [isSpace]
      · rfl
    rw [List.singleton_append, valueChars]
    simp [hsigns, hspace, htail, bind, Except.bind]
  | @reference body hrefers _ =>
    obtain ⟨r, hr, href⟩ := hrefers
    rw [List.cons_append, valueChars]
    cases r with
    | char found =>
      cases hr
      simp [Site.reference, href, htail, bind, Except.bind]
    | entity name =>
      have hname : predefined name = some c := hr
      simp [Site.reference, href, hname, htail, Site.isBreach, bind, Except.bind]

theorem WrittenAs.length_pos {signs : List Char} (h : WrittenAs signs c v) : 0 < v.length := by
  cases h <;> simp

theorem valueChars_valueWritten (h : ∀ c ∈ cs, isLegal c = true) (site : Site)
    (fuel : Nat) (hfuel : (valueWritten cs).length < fuel) :
    valueChars {} fuel site [] (valueWritten cs) = .ok cs := by
  induction cs generalizing fuel with
  | nil =>
    cases fuel with
    | zero => cases hfuel
    | succ fuel => rfl
  | cons c cs ih =>
    have hc : WrittenAs valueSigns c (writtenPoint escapedValueChar c.toNat) :=
      writtenPoint_writtenAs (h c (by simp)) escapedValueChar_writtenAs
    have hsplit : valueWritten (c :: cs) =
        writtenPoint escapedValueChar c.toNat ++ valueWritten cs := rfl
    have hpos := hc.length_pos
    rw [hsplit, List.length_append] at hfuel
    obtain ⟨fuel, rfl⟩ : ∃ n, fuel = n + 1 := ⟨fuel - 1, by omega⟩
    rw [hsplit]
    exact valueChars_append hc (ih (fun d hd => h d (by simp [hd])) fuel (by omega))

theorem attributeValue_valueWritten (h : ∀ c ∈ cs, isLegal c = true) (site : Site) :
    attributeValue {} true site [] (valueWritten cs) = .ok (String.ofList (Text.ofChars cs)) := by
  have hfuel : (valueWritten cs).length < Entities.depth {} (valueWritten cs).length := by
    simp only [Entities.depth, Entities.size, List.foldr_nil, List.length_nil]
    omega
  simp only [attributeValue, valueChars_valueWritten h site _ hfuel, bind, Except.bind, if_true]

end Xml
end DroidAudit
