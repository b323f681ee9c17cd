import DroidAudit.Properties
import Mathlib.Data.List.Nodup
import Mathlib.Data.List.TakeWhile

/-! Reading properties back. The line of an entry is read as the entry, whatever signs its value is
made of, and a key that was read before is refused. So the text of entries is read as these entries
with their keys in small letters. -/
namespace DroidAudit

namespace Text

structure IsTrimmed (cs : List Char) : Prop where
  head : ∀ c ∈ cs.head?, isBlank c = false
  last : ∀ c ∈ cs.getLast?, isBlank c = false

variable {cs : List Char}

theorem dropWhile_eq_self_iff {p : Char → Bool} :
    cs.dropWhile p = cs ↔ ∀ c ∈ cs.head?, p c = false := by
  rw [List.dropWhile_eq_self_iff]
  cases cs <;> simp

theorem trimRight_eq_self_iff : trimRight cs = cs ↔ ∀ c ∈ cs.getLast?, isBlank c = false := by
  rw [trimRight, List.reverse_eq_iff, dropWhile_eq_self_iff, List.head?_reverse]

theorem trim_eq_self_iff : trim cs = cs ↔ IsTrimmed cs := by
  rw [trim]
  constructor
  · intro h
    have hlength : cs.length ≤ (cs.dropWhile isBlank).length := by
      have hshort : (trimRight (cs.dropWhile isBlank)).length ≤ (cs.dropWhile isBlank).length := by
        rw [trimRight, List.length_reverse, ← @List.length_reverse _ (cs.dropWhile isBlank)]
        exact (List.dropWhile_sublist _).length_le
      rwa [h] at hshort
    have hdrop := (List.dropWhile_suffix isBlank).eq_of_length_le hlength
    rw [hdrop] at h
    exact ⟨dropWhile_eq_self_iff.mp hdrop, trimRight_eq_self_iff.mp h⟩
  · rintro ⟨head, last⟩
    rw [dropWhile_eq_self_iff.mpr head, trimRight_eq_self_iff.mpr last]

theorem splitAt_append {mark : Char} {piece : List Char} (h : mark ∉ piece) (rest : List Char) :
    splitAt mark (piece ++ mark :: rest) = piece :: splitAt mark rest := by
  induction piece with
  | nil => simp [splitAt]
  | cons c piece ih =>
    rw [List.mem_cons, not_or] at h
    simp [splitAt, Ne.symm h.1, ih h.2]

end Text

namespace Properties

/-! Percent signs. -/

theorem doublePercents_cons (c : Char) (cs : List Char) :
    doublePercents (c :: cs) =
      (if c == '%' then ['%', '%'] else [c]) ++ doublePercents cs := rfl

theorem doublePercents_append (cs ds : List Char) :
    doublePercents (cs ++ ds) = doublePercents cs ++ doublePercents ds := List.flatMap_append

variable {cs : List Char} {entries : List (String × String)}

theorem doublePercents_of_not_mem (h : '%' ∉ cs) : doublePercents cs = cs := by
  induction cs with
  | nil => rfl
  | cons c cs ih =>
    rw [List.mem_cons, not_or] at h
    simp [doublePercents_cons, Ne.symm h.1, ih h.2]

theorem singlePercents_doublePercents (cs : List Char) :
    singlePercents (doublePercents cs) = cs := by
  induction cs with
  | nil => rfl
  | cons c cs ih =>
    rw [doublePercents_cons]
    by_cases hc : c = '%'
    · simp [hc, singlePercents, ih]
    · rw [if_neg (by simpa using hc), List.singleton_append, singlePercents, ih]
      simp [hc]

theorem mem_doublePercents {d : Char} : d ∈ doublePercents cs ↔ d ∈ cs := by
  induction cs with
  | nil => exact Iff.rfl
  | cons c cs ih =>
    rw [doublePercents_cons, List.mem_append, List.mem_cons, ih]
    split <;> simp_all

theorem head?_doublePercents (cs : List Char) : (doublePercents cs).head? = cs.head? := by
  cases cs with
  | nil => rfl
  | cons c cs =>
    rw [doublePercents_cons]
    split <;> simp_all

theorem getLast?_doublePercents (cs : List Char) : (doublePercents cs).getLast? = cs.getLast? := by
  rcases List.eq_nil_or_concat cs with rfl | ⟨front, c, rfl⟩
  · rfl
  · rw [List.concat_eq_append, doublePercents_append, doublePercents_cons]
    split <;> simp_all [doublePercents, Text.replaceChar]

theorem isTrimmed_doublePercents (h : Text.IsTrimmed cs) : Text.IsTrimmed (doublePercents cs) :=
  ⟨by rw [head?_doublePercents]; exact h.head, by rw [getLast?_doublePercents]; exact h.last⟩

/-! Lines of entries. -/

/-- The characters of keys: letters, digits, and three signs. -/
def keyChars : List Char :=
  "ABCDEFGHIJKLMNOPQRSTUVWXYZabcdefghijklmnopqrstuvwxyz0123456789._-".toList

/-- A key of such characters, and a value on one line without blanks around it. -/
structure IsEntry (p : String × String) : Prop where
  key_ne_empty : p.1 ≠ ""
  key : ∀ c ∈ p.1.toList, c ∈ keyChars
  lineFeed : '\n' ∉ p.2.toList
  carriageReturn : '\r' ∉ p.2.toList
  trimmed : Text.trim p.2.toList = p.2.toList

theorem of_mem_keyChars {c : Char} (h : c ∈ keyChars) :
    (Text.isBlank c = false ∧ isDelimiter c = false) ∧ c ∉ ['#', ';', '[', '%', '\n', '\r'] := by
  have hall : keyChars.all (fun c => !Text.isBlank c && !isDelimiter c &&
      !List.contains ['#', ';', '[', '%', '\n', '\r'] c) = true := rfl
  simpa using List.all_eq_true.mp hall c h

/-- The entries that are written, as characters, each with its line end. -/
def entriesText (entries : List (String × String)) : String :=
  text (entries.map fun p => (.text p.1, .text p.2))

def lineOf (p : String × String) : List Char :=
  p.1.toList ++ '=' :: doublePercents p.2.toList

section

variable {p : String × String}

theorem IsEntry.isTrimmed (h : IsEntry p) : Text.IsTrimmed (doublePercents p.2.toList) :=
  isTrimmed_doublePercents (Text.trim_eq_self_iff.mp h.trimmed)

theorem IsEntry.lineFeed_not_mem (h : IsEntry p) : '\n' ∉ lineOf p := by
  rw [lineOf, List.mem_append, List.mem_cons, mem_doublePercents, not_or, not_or]
  refine ⟨fun hkey => ?_, by decide, h.lineFeed⟩
  exact absurd (of_mem_keyChars (h.key _ hkey)).2 (by decide)

theorem IsEntry.exists_key (h : IsEntry p) : ∃ c cs, p.1.toList = c :: cs ∧ c ∈ keyChars := by
  cases hp : p.1.toList with
  | nil => exact absurd (String.toList_eq_nil_iff.mp hp) h.key_ne_empty
  | cons c cs => exact ⟨c, cs, rfl, h.key c (by simp [hp])⟩

theorem IsEntry.isTrimmed_line (h : IsEntry p) : Text.IsTrimmed (lineOf p) := by
  obtain ⟨c, cs, hkey, hc⟩ := h.exists_key
  refine ⟨?_, ?_⟩
  · simpa [lineOf, hkey] using (of_mem_keyChars hc).1.1
  · intro d hd
    rw [lineOf, List.getLast?_append_cons] at hd
    cases hv : doublePercents p.2.toList with
    | nil =>
      rw [hv, List.getLast?_singleton, Option.mem_some_iff] at hd
      rw [← hd]
      decide
    | cons e es =>
      rw [hv, List.getLast?_cons_cons, ← hv] at hd
      exact h.isTrimmed.last d hd

theorem IsEntry.splitEntry? (h : IsEntry p) :
    splitEntry? (lineOf p) = some (p.1.toList, doublePercents p.2.toList) := by
  have hkey : ∀ c ∈ p.1.toList, (!isDelimiter c) = true := fun c hc => by
    rw [(of_mem_keyChars (h.key c hc)).1.2]
    rfl
  have hdrop : (lineOf p).dropWhile (!isDelimiter ·) = '=' :: doublePercents p.2.toList := by
    rw [lineOf, List.dropWhile_append_of_pos hkey]
    rfl
  have htake : (lineOf p).takeWhile (!isDelimiter ·) = p.1.toList := by
    rw [lineOf, List.takeWhile_append_of_pos hkey]
    exact List.append_nil _
  have hright : Text.trimRight p.1.toList = p.1.toList := Text.trimRight_eq_self_iff.mpr fun c hc =>
    (of_mem_keyChars (h.key c (List.mem_of_getLast? hc))).1.1
  simp only [Properties.splitEntry?, hdrop, htake, hright, Text.trim_eq_self_iff.mpr h.isTrimmed]

theorem IsEntry.readLine (h : IsEntry p) (r : Reading) :
    readLine r (lineOf p) =
      addEntry { r with indent := 0 } p.1.toList (doublePercents p.2.toList) := by
  obtain ⟨c, cs, hkey, hc⟩ := h.exists_key
  obtain ⟨⟨hblank, -⟩, hsigns⟩ := of_mem_keyChars hc
  have hline : lineOf p = c :: (cs ++ '=' :: doublePercents p.2.toList) := by
    rw [lineOf, hkey, List.cons_append]
  have htrim : Text.trim (lineOf p) = lineOf p := Text.trim_eq_self_iff.mpr h.isTrimmed_line
  have hcomment : isComment (lineOf p) = false := by
    rw [isComment, htrim, hline]
    split <;> simp_all
  have hsection : sectionName? (lineOf p) = none := by
    rw [hline, sectionName?]
    simp_all
  have hindent : ((lineOf p).takeWhile Text.isBlank).length = 0 := by
    rw [hline, List.takeWhile_cons, hblank]
    rfl
  have hempty : (lineOf p).isEmpty = false := by rw [hline, List.isEmpty_cons]
  simp only [Properties.readLine, hcomment, htrim, hempty, hindent, hsection, h.splitEntry?,
    Nat.not_lt_zero, decide_false, Bool.and_false, Bool.false_eq_true, if_false]

end

/-! Reading entries. -/

def readKey (p : String × String) : String := Text.lower p.1

/-- What has been read of a file with some entries so far. -/
def readingOf (entries : List (String × String)) : Reading where
  entries := entries.map fun p =>
    ⟨mainSection, readKey p, [String.ofList (doublePercents p.2.toList)]⟩
  key := entries.getLast?.map readKey

theorem readLine_entry {p : String × String} (h : IsEntry p) (done : List (String × String)) :
    readLine (readingOf done) (lineOf p) =
      if readKey p ∈ done.map readKey then .error .repeatedKey
      else .ok (readingOf (done ++ [p])) := by
  have hknown : ((readingOf done).entries.any fun e =>
      e.owner == mainSection && e.key == readKey p) = decide (readKey p ∈ done.map readKey) := by
    rw [Bool.eq_iff_iff, decide_eq_true_eq, readingOf, List.any_map, List.any_eq_true, List.mem_map]
    simp only [Function.comp_apply, beq_self_eq_true, Bool.true_and, beq_iff_eq]
  have hkey : keyOf p.1.toList = readKey p := by rw [keyOf, String.ofList_toList, readKey]
  have hne : p.1.toList.isEmpty = false := by
    obtain ⟨c, cs, hp, -⟩ := h.exists_key
    rw [hp, List.isEmpty_cons]
  rw [h.readLine, addEntry, hkey]
  simp only [readingOf] at hknown
  simp only [readingOf, hknown, hne, decide_eq_true_eq, Bool.or_false]
  split
  · rfl
  · simp

theorem foldlM_entries (h : ∀ p ∈ entries, IsEntry p)
    {done : List (String × String)} (hdone : (done.map readKey).Nodup) :
    (entries.map lineOf).foldlM readLine (readingOf done) =
      if ((done ++ entries).map readKey).Nodup then .ok (readingOf (done ++ entries))
      else .error .repeatedKey := by
  induction entries generalizing done with
  | nil => simp [hdone, pure, Except.pure]
  | cons p entries ih =>
    rw [List.forall_mem_cons] at h
    rw [List.map_cons, List.foldlM_cons, readLine_entry h.1]
    split
    · rename_i hmem
      have hnot : ¬((done ++ p :: entries).map readKey).Nodup := by
        rw [List.map_append, List.map_cons, List.nodup_append]
        exact fun hnodup => hnodup.2.2 _ hmem _ List.mem_cons_self rfl
      rw [if_neg hnot]
      rfl
    · rename_i hmem
      have hmore : ((done ++ [p]).map readKey).Nodup := by
        rw [List.map_append, List.nodup_append]
        refine ⟨hdone, List.nodup_singleton _, fun a ha b hb => ?_⟩
        rw [List.map_singleton, List.mem_singleton] at hb
        rintro rfl
        exact hmem (hb ▸ ha)
      have hrest := ih h.2 hmore
      rw [List.append_assoc, List.singleton_append] at hrest
      exact hrest

theorem toList_entriesText_cons (p : String × String) (entries : List (String × String)) :
    (entriesText (p :: entries)).toList =
      p.1.toList ++ '=' :: p.2.toList ++ '\n' :: (entriesText entries).toList := by
  simp [entriesText, text, entryText, Value.display, String.join_cons]

theorem lines_entriesText (h : ∀ p ∈ entries, IsEntry p) :
    Text.lines (doublePercents (entriesText entries).toList) = entries.map lineOf ++ [[]] := by
  induction entries with
  | nil => rfl
  | cons p entries ih =>
    rw [List.forall_mem_cons] at h
    have hkey : doublePercents p.1.toList = p.1.toList := doublePercents_of_not_mem fun hmem =>
      absurd (of_mem_keyChars (h.1.key _ hmem)).2 (by decide)
    have hline : doublePercents (entriesText (p :: entries)).toList =
        lineOf p ++ '\n' :: doublePercents (entriesText entries).toList := by
      rw [toList_entriesText_cons, doublePercents_append, doublePercents_append, hkey, lineOf]
      rfl
    rw [hline, Text.lines, Text.splitAt_append h.1.lineFeed_not_mem, ← Text.lines, ih h.2]
    rfl

theorem toList_join_emptyLine (first : String) (others : List String) :
    (Text.join "\n" (first :: others ++ [""])).toList =
      (Text.join "\n" (first :: others)).toList ++ ['\n'] := by
  induction others generalizing first with
  | nil => simp [Text.join]
  | cons second others ih =>
    have hrest := ih second
    simp only [Text.join, List.cons_append] at hrest ⊢
    rw [String.intercalate_cons_cons, String.intercalate_cons_cons]
    simp only [String.toList_append, hrest, List.append_assoc]

theorem value_emptyLine (e : Entry) :
    Entry.value { e with lines := e.lines ++ [""] } = e.value := by
  have htrim : Text.trimRight (Text.join "\n" (e.lines ++ [""])).toList =
      Text.trimRight (Text.join "\n" e.lines).toList := by
    cases e.lines with
    | nil => rfl
    | cons first others =>
      rw [toList_join_emptyLine, Text.trimRight, Text.trimRight, List.reverse_append]
      rfl
  rw [Entry.value, htrim, Entry.value]

theorem emptyLine_keeps (r : Reading) :
    ∃ r', readLine r [] = .ok r' ∧ r'.faulty = r.faulty ∧
      r'.entries.map (fun e => (e.owner, e.key, e.value)) =
        r.entries.map (fun e => (e.owner, e.key, e.value)) := by
  refine ⟨if r.continues then addLine r "" else r, rfl, ?_⟩
  split
  · refine ⟨rfl, ?_⟩
    rw [addLine, List.map_map]
    refine List.map_congr_left fun e _ => ?_
    rw [Function.comp_apply]
    split
    · rw [value_emptyLine]
    · rfl
  · exact ⟨rfl, rfl⟩

theorem IsEntry.value {p : String × String} (h : IsEntry p) (owner key : String) :
    Entry.value ⟨owner, key, [String.ofList (doublePercents p.2.toList)]⟩ = p.2 := by
  have hjoin : Text.join "\n" [String.ofList (doublePercents p.2.toList)] =
      String.ofList (doublePercents p.2.toList) := rfl
  rw [Entry.value, hjoin, String.toList_ofList, Text.trimRight_eq_self_iff.mpr h.isTrimmed.last,
    singlePercents_doublePercents, String.ofList_toList]

theorem read_entriesText (h : ∀ p ∈ entries, IsEntry p) :
    read (entriesText entries) =
      if (entries.map readKey).Nodup then .ok (entries.map fun p => (readKey p, p.2))
      else .error .repeatedKey := by
  have hentries := @foldlM_entries entries h [] List.nodup_nil
  rw [List.nil_append] at hentries
  have hstart : readingOf [] = {} := rfl
  rw [read, lines_entriesText h, List.foldlM_append, ← hstart, hentries]
  split
  · obtain ⟨r, hr, hfaulty, hvalues⟩ := emptyLine_keeps (readingOf entries)
    have hread : r.entries.map (fun e => (e.owner, e.key, e.value)) =
        entries.map fun p => (mainSection, readKey p, p.2) := by
      rw [hvalues, readingOf, List.map_map]
      refine List.map_congr_left fun p hp => ?_
      rw [Function.comp_apply, (h p hp).value]
    have howner : ∀ e ∈ r.entries, e.owner = mainSection := fun e he => by
      have hmem := List.mem_map_of_mem (f := fun e : Entry => (e.owner, e.key, e.value)) he
      rw [hread, List.mem_map] at hmem
      obtain ⟨p, -, hp⟩ := hmem
      exact (congrArg Prod.fst hp).symm
    have hown : r.entries.filter (·.owner == mainSection) = r.entries :=
      List.filter_eq_self.mpr fun e he => beq_iff_eq.mpr (howner e he)
    have hshared : (r.entries.filter fun e =>
        e.owner == commonSection && !r.entries.any (·.key == e.key)) = [] := by
      refine List.filter_eq_nil_iff.mpr fun e he => ?_
      rw [howner e he]
      simp [mainSection, commonSection]
    have hfine : r.faulty = false := hfaulty
    simp only [bind, Except.bind, List.foldlM_cons, hr, List.foldlM_nil, pure, Except.pure, hfine,
      hown, hshared, List.nil_append, Bool.false_eq_true, if_false]
    have hresult := congrArg (List.map Prod.snd) hread
    simpa [List.map_map, Function.comp_def] using hresult
  · rfl

end Properties
end DroidAudit
