import DroidAudit.Proofs.KeyWords
import DroidAudit.Proofs.SearchExpressions

/-! Addresses that are not encrypted. What may stand in an address is said by five alternatives that
overlap: one of them is a range with the capitals, the digits and most marks, and the last one, for an
escaped character, begins with a mark of that range. Main statement: every line with an address is
reported once, with the leftmost address as far as it goes, and no other line is. -/
namespace DroidAudit

theorem Text.after?_eq_some_iff {word cs rest : List Char} :
    after? word cs = some rest ↔ cs = word ++ rest := by
  fun_induction after? word cs <;> grind

namespace Pattern

/-- What stands in front of an address that is not encrypted. -/
def scheme : List Char := "http://".toList

/-- The characters of an address: the exclamation mark, what lies between the dollar sign and the low
line, and small letters. -/
def IsAddressChar (c : Char) : Prop :=
  c = '!' ∨ (0x24 ≤ c.toNat ∧ c.toNat ≤ 0x5F) ∨ ('a' ≤ c ∧ c ≤ 'z')

theorem isUrlCharacter_iff {c : Char} : isUrlCharacter c = true ↔ IsAddressChar c := by
  have hrange : '$' ≤ c ∧ c ≤ '_' ↔ 0x24 ≤ c.toNat ∧ c.toNat ≤ 0x5F := Iff.rfl
  simp only [isUrlCharacter, isSmall, IsAddressChar, Bool.or_eq_true, Bool.and_eq_true,
    decide_eq_true_eq, beq_iff_eq, hrange]
  exact or_comm.trans (or_congr_right or_comm)

/-- An address begins behind `before`. -/
def AddressAt (line before : List Char) : Prop :=
  ∃ c after, line = before ++ scheme ++ c :: after ∧ IsAddressChar c

/-- The first address of a line. -/
structure FirstAddress (line before run after : List Char) : Prop where
  text : line = before ++ scheme ++ run ++ after
  nonempty : run ≠ []
  inside : ∀ c ∈ run, IsAddressChar c
  maximal : ∀ c, after.head? = some c → ¬IsAddressChar c
  leftmost : ∀ earlier, AddressAt line earlier → before.length ≤ earlier.length

/-! The expression for an address. -/

open Pattern.Expr

def isHexadecimal (c : Char) : Bool :=
  '0' ≤ c && c ≤ '9' || 'a' ≤ c && c ≤ 'f' || 'A' ≤ c && c ≤ 'F'

/-- The alternatives for a part of an address, in their order. -/
def addressPart : Expr :=
  either (either (either (either
    (one fun c => isSmall c || isCapital c)
    (one fun c => '0' ≤ c && c ≤ '9'))
    (one fun c => '$' ≤ c && c ≤ '_' || "@.&+".toList.contains c))
    (one fun c => "!*(),".toList.contains c))
    (both (one (· == '%')) (both (one isHexadecimal) (one isHexadecimal)))

def address : Expr := both (word scheme) (both addressPart (many addressPart))

/-- The alternatives for one character are those of an address, whichever of them comes first. -/
theorem alternatives_eq_isUrlCharacter (c : Char) :
    ((((isSmall c || isCapital c) || ('0' ≤ c && c ≤ '9')) ||
      ('$' ≤ c && c ≤ '_' || "@.&+".toList.contains c)) || "!*(),".toList.contains c) =
        isUrlCharacter c := by
  rw [Bool.eq_iff_iff]
  simp [isUrlCharacter, isSmall, isCapital, Char.le_def, UInt32.le_iff_toNat_le, Char.ext_iff,
    ← UInt32.toNat_inj]
  omega

/-- Of an escaped character the mark in front is taken alone, as a character of the range. -/
theorem takes_addressPart : addressPart.Takes isUrlCharacter := by
  have htest : (fun c => (((isSmall c || isCapital c) || ('0' ≤ c && c ≤ '9')) ||
      ('$' ≤ c && c ≤ '_' || "@.&+".toList.contains c)) || "!*(),".toList.contains c) =
        isUrlCharacter := funext alternatives_eq_isUrlCharacter
  have hsingle := (((takes_one fun c => isSmall c || isCapital c).either
    (takes_one fun c => '0' ≤ c && c ≤ '9')).either
    (takes_one fun c => '$' ≤ c && c ≤ '_' || "@.&+".toList.contains c)).either
    (takes_one fun c => "!*(),".toList.contains c)
  rw [htest] at hsingle
  refine hsingle.either_covered (fun _ => rfl) fun whole c cs hc => ?_
  have hmark : (c == '%') = false := by
    rw [beq_eq_false_iff_ne]
    rintro rfl
    cases hc
  rw [ends_both, ends_one_cons, hmark, if_neg Bool.false_ne_true, List.flatMap_nil]

section Front
variable {whole line rest : List Char}

theorem addressAt_front {c : Char} (hc : IsAddressChar c) (rest : List Char) :
    AddressAt (scheme ++ c :: rest) [] := ⟨c, rest, rfl, hc⟩

theorem ends_address_eq_nil (h : ¬AddressAt line []) : address.ends whole line = [] := by
  refine List.eq_nil_iff_forall_not_mem.mpr fun rest hrest => h ?_
  obtain ⟨middle, hscheme, hpart⟩ := mem_ends_both.mp hrest
  obtain ⟨behind, hfirst, -⟩ := mem_ends_both.mp hpart
  rw [mem_ends_word.mp hscheme]
  cases middle with
  | nil =>
    rw [takes_addressPart.none] at hfirst
    cases hfirst
  | cons c middle =>
    cases hc : isUrlCharacter c with
    | true => exact addressAt_front (isUrlCharacter_iff.mp hc) middle
    | false =>
      rw [takes_addressPart.fails whole c middle hc] at hfirst
      cases hfirst

theorem head?_ends_address {c : Char} (hc : isUrlCharacter c = true) :
    (address.ends whole (scheme ++ c :: rest)).head? = some (rest.dropWhile isUrlCharacter) := by
  obtain ⟨others, hpart⟩ := List.head?_eq_some_iff.mp (takes_addressPart.passes whole c rest hc)
  rw [address, ends_both, ends_word, List.flatMap_singleton, ends_both, hpart, List.flatMap_cons,
    List.head?_append, takes_addressPart.head?_ends_many, Option.some_or]

theorem plainUrl?_cons_of_front {c d : Char} (hline : d :: line = scheme ++ c :: rest)
    (hc : isUrlCharacter c = true) :
    plainUrl? (d :: line) =
      some ("http://" ++ String.ofList (c :: rest.takeWhile isUrlCharacter)) := by
  have hafter : Text.after? "http://".toList (d :: line) = some (c :: rest) :=
    Text.after?_eq_some_iff.mpr hline
  rw [plainUrl?, hafter]
  simp only [List.head?_cons, Option.any_some, hc, if_true, List.takeWhile_cons_of_pos]

theorem plainUrl?_cons_of_not_front {c : Char} (h : ¬AddressAt (c :: rest) []) :
    plainUrl? (c :: rest) = plainUrl? rest := by
  rw [plainUrl?]
  split
  · rename_i behind hafter
    rw [if_neg]
    intro hhead
    obtain ⟨d, hd, hurl⟩ := (Option.any_eq_true ..).mp hhead
    obtain ⟨tail, rfl⟩ := List.head?_eq_some_iff.mp hd
    rw [Text.after?_eq_some_iff.mp hafter] at h
    exact h (addressAt_front (isUrlCharacter_iff.mp hurl) tail)
  · rfl

end Front

section Line
variable {line before before' run run' after after' : List Char}

theorem FirstAddress.addressAt (h : FirstAddress line before run after) :
    AddressAt line before := by
  obtain ⟨c, run, rfl⟩ := List.ne_nil_iff_exists_cons.mp h.nonempty
  exact ⟨c, run ++ after, by rw [h.text]; simp, h.inside c List.mem_cons_self⟩

theorem FirstAddress.run_unique (h : FirstAddress line before run after)
    (h' : FirstAddress line before' run' after') : run = run' := by
  have hlength : before.length = before'.length :=
    Nat.le_antisymm (h.leftmost _ h'.addressAt) (h'.leftmost _ h.addressAt)
  have htext : before ++ (scheme ++ (run ++ after)) = before' ++ (scheme ++ (run' ++ after')) := by
    simpa using h.text.symm.trans h'.text
  have hbehind : run ++ after = run' ++ after' :=
    List.append_cancel_left (List.append_inj htext hlength).2
  have htake : ∀ {run after : List Char}, (∀ c ∈ run, IsAddressChar c) →
      (∀ c, after.head? = some c → ¬IsAddressChar c) →
      (run ++ after).takeWhile isUrlCharacter = run := by
    intro run after hinside hmaximal
    rw [List.takeWhile_append_of_pos fun c hc => isUrlCharacter_iff.mpr (hinside c hc)]
    cases after with
    | nil => exact List.append_nil run
    | cons c after =>
      have hc : ¬isUrlCharacter c = true := fun hc => hmaximal c rfl (isUrlCharacter_iff.mp hc)
      rw [List.takeWhile_cons_of_neg hc, List.append_nil]
  rw [← htake h.inside h.maximal, hbehind, htake h'.inside h'.maximal]

/-- A character in front of a line with a first address, where no address begins. -/
theorem FirstAddress.cons {c : Char} (h : FirstAddress line before run after)
    (hfront : ¬AddressAt (c :: line) []) : FirstAddress (c :: line) (c :: before) run after where
  text := by rw [h.text]; rfl
  nonempty := h.nonempty
  inside := h.inside
  maximal := h.maximal
  leftmost := by
    rintro (_ | ⟨d, earlier⟩) hearlier
    · exact absurd hearlier hfront
    · obtain ⟨e, behind, hline, he⟩ := hearlier
      exact Nat.succ_le_succ (h.leftmost earlier ⟨e, behind, (List.cons.inj hline).2, he⟩)

theorem firstAddress_front {c : Char} (hc : isUrlCharacter c = true) (rest : List Char) :
    FirstAddress (scheme ++ c :: rest) [] (c :: rest.takeWhile isUrlCharacter)
      (rest.dropWhile isUrlCharacter) where
  text := by simp
  nonempty := List.cons_ne_nil _ _
  inside := by
    refine List.forall_mem_cons.mpr ⟨isUrlCharacter_iff.mp hc, fun d hd => ?_⟩
    exact isUrlCharacter_iff.mp (List.all_eq_true.mp List.all_takeWhile d hd)
  maximal := by
    intro d hd hurl
    have hnot := List.head?_dropWhile_not isUrlCharacter rest
    rw [hd] at hnot
    exact Bool.false_ne_true (hnot.symm.trans (isUrlCharacter_iff.mpr hurl))
  leftmost _ _ := Nat.zero_le _

/-- What is found in a line, by the pattern and by its expression. -/
theorem plainUrl?_cases (whole line : List Char) :
    ((∃ before run after, FirstAddress line before run after ∧
        plainUrl? line = some ("http://" ++ String.ofList run) ∧
        address.searchFrom whole line = some (scheme ++ run)) ∨
      (∀ before, ¬AddressAt line before) ∧ plainUrl? line = none ∧
        address.searchFrom whole line = none) := by
  induction line with
  | nil =>
    have hnone : ∀ before, ¬AddressAt [] before := by
      rintro before ⟨c, after, hline, -⟩
      simp at hline
    refine .inr ⟨hnone, rfl, ?_⟩
    rw [searchFrom, ends_address_eq_nil (hnone [])]
    rfl
  | cons d line ih =>
    by_cases hfront : AddressAt (d :: line) []
    · obtain ⟨c, rest, hline, hc⟩ := hfront
      have hurl := isUrlCharacter_iff.mpr hc
      refine .inl ⟨[], _, _, hline ▸ firstAddress_front hurl rest,
        plainUrl?_cons_of_front hline hurl, ?_⟩
      rw [searchFrom_cons, hline, List.nil_append, head?_ends_address hurl]
      have hsplit : scheme ++ c :: rest =
          (scheme ++ c :: rest.takeWhile isUrlCharacter) ++ rest.dropWhile isUrlCharacter := by
        simp
      have htake : ∀ {cs front after : List Char}, cs = front ++ after →
          cs.take (cs.length - after.length) = front := by
        rintro _ front after rfl
        simp
      exact congrArg some (htake hsplit)
    · rw [plainUrl?_cons_of_not_front hfront, searchFrom_cons, ends_address_eq_nil hfront,
        List.head?_nil]
      rcases ih with ⟨before, run, after, hfirst, hfound⟩ | ⟨hnone, hfound⟩
      · exact .inl ⟨d :: before, run, after, hfirst.cons hfront, hfound⟩
      · refine .inr ⟨?_, hfound⟩
        rintro (_ | ⟨e, before⟩) hat
        · exact hfront hat
        · obtain ⟨c, after, hline, hc⟩ := hat
          exact hnone before ⟨c, after, (List.cons.inj hline).2, hc⟩

end Line

end Pattern

namespace ContentDetector
open Pattern

/-- The findings on lines from a number on: one for the first address of every line that has one. -/
inductive Reported (path : String) : Nat → List (List Char) → List Finding → Prop
  | none (number : Nat) : Reported path number [] []
  | hit {number : Nat} {line before run after : List Char} {lines : List (List Char)}
      {found : List Finding} (first : FirstAddress line before run after)
      (others : Reported path (number + 1) lines found) :
      Reported path number (line :: lines)
        (onLine (urlNotice (String.ofList (scheme ++ run))) (some path) number :: found)
  | miss {number : Nat} {line : List Char} {lines : List (List Char)} {found : List Finding}
      (without : ∀ before, ¬AddressAt line before)
      (others : Reported path (number + 1) lines found) :
      Reported path number (line :: lines) found

def addressFinding? (path : String) (number : Nat) (line : List Char) : Option Finding :=
  (plainUrl? line).map fun url => onLine (urlNotice url) (some path) number

theorem reported_iff {path : String} {number : Nat} {lines : List (List Char)}
    {found : List Finding} :
    Reported path number lines found ↔
      found = (lines.zipIdx number).filterMap fun p => addressFinding? path p.2 p.1 := by
  induction lines generalizing number found with
  | nil =>
    constructor
    · rintro ⟨⟩
      rfl
    · rintro rfl
      exact .none number
  | cons line lines ih =>
    rw [List.zipIdx_cons, List.filterMap_cons]
    rcases plainUrl?_cases line line with ⟨before, run, after, hfirst, hurl, -⟩ | ⟨hnone, hurl, -⟩
    · have hfinding : addressFinding? path number line =
          some (onLine (urlNotice (String.ofList (scheme ++ run))) (some path) number) := by
        rw [addressFinding?, hurl, String.ofList_append]
        rfl
      rw [hfinding]
      constructor
      · rintro (_ | ⟨hfirst', hothers⟩ | ⟨hnone, -⟩)
        · rw [hfirst.run_unique hfirst', ih.mp hothers]
        · exact absurd hfirst.addressAt (hnone before)
      · rintro rfl
        exact .hit hfirst (ih.mpr rfl)
    · have hfinding : addressFinding? path number line = none := by
        rw [addressFinding?, hurl, Option.map_none]
      rw [hfinding]
      constructor
      · rintro (_ | ⟨hfirst, -⟩ | ⟨-, hothers⟩)
        · exact absurd hfirst.addressAt (hnone _)
        · exact ih.mp hothers
      · rintro rfl
        exact .miss hnone (ih.mpr rfl)

theorem plainUrls_eq {s : Sight} {path contents : String} (hpath : s.path = some path)
    (hjava : Path.isJavaFile path = true) (hcontents : s.contents = some contents) :
    plainUrls s = .ok (((contents.toList.splitOn '\n').zipIdx).filterMap fun p =>
      addressFinding? path p.2 p.1) := by
  rw [plainUrls, hpath, hcontents]
  simp only [hjava, Bool.not_true, Bool.false_eq_true, if_false]
  rw [Text.numbered_eq, List.filterMap_map, Text.lines, Text.splitAt_eq_splitOn]
  rfl

/-- A run on a Java file adds what is to be reported and nothing else, in the order of the lines. The
expression for an address finds the first address of a line as far as it goes. -/
theorem addresses_run_adds (o : Observer) (w : Surroundings) (s : Shared) {path contents : String}
    (hdetector : o.detector = .plainUrl) (hpath : o.path s = some path)
    (hjava : Path.isJavaFile path = true) (hcontents : o.contents s = some contents) :
    (∃ found, o.run w s = ({ o with findings := o.findings ++ found }, none) ∧
        ∀ found', Reported path 0 (contents.toList.splitOn '\n') found' ↔ found' = found) ∧
      ∀ line url, address.search line = some url ↔
        ∃ before run after, FirstAddress line before run after ∧ url = scheme ++ run := by
  constructor
  · refine ⟨_, ?_, fun found' => reported_iff⟩
    have hurls := plainUrls_eq (s := o.sight s) hpath hjava hcontents
    rw [Observer.run, hdetector, Detector.run]
    simp only [hurls, Detector.plainly]
  · intro line url
    rw [Expr.search]
    rcases plainUrl?_cases line line with ⟨before, run, after, hfirst, -, hfound⟩ | ⟨hnone, -, hfound⟩
    · rw [hfound, Option.some.injEq]
      constructor
      · rintro rfl
        exact ⟨before, run, after, hfirst, rfl⟩
      · rintro ⟨before', run', after', hfirst', rfl⟩
        rw [hfirst.run_unique hfirst']
    · rw [hfound]
      refine iff_of_false (Option.some_ne_none url).symm ?_
      rintro ⟨before, run, after, hfirst, -⟩
      exact hnone before hfirst.addressAt

/-- An observer of a file with addresses on three lines. The first line has a scheme with nothing
behind it, and the last one two addresses and an escaped character. -/
def addressObserver : Observer where
  detector := .plainUrl
  facts :=
    { path := some (some "A.JAVA")
      contents := some (some
        "http:// http://~\n\"http://a.b/c~d\"\nHTTP://a http://http://\nhttp://%4g!~http://b") }

theorem addresses_run_adds_three :
    addressObserver.run ⟨⟨.directory [], []⟩, {}⟩ {} =
      ({ addressObserver with
          findings := [
            onLine (urlNotice "http://a.b/c") (some "A.JAVA") 1,
            onLine (urlNotice "http://http://") (some "A.JAVA") 2,
            onLine (urlNotice "http://%4g!") (some "A.JAVA") 3] },
        none) := by
  obtain ⟨⟨found, hrun, hreported⟩, -⟩ :=
    addresses_run_adds addressObserver ⟨⟨.directory [], []⟩, {}⟩ {} rfl rfl (by decide) rfl
  rw [hrun, ← (hreported _).mp (reported_iff.mpr rfl)]
  rfl

end ContentDetector
end DroidAudit
