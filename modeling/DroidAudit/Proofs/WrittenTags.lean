import DroidAudit.Proofs.LegalText
import Mathlib.Data.List.Nodup

/-! Tags that are written and read again. A tag holds a name and attributes, all of which may have
labels; some attributes declare labels. -/
namespace DroidAudit.Xml

/-! Names. -/

def endsName (cs : List Char) : Bool := cs.head?.all fun c => !continuesName c && c != ':'

variable {s label part : String} {c : Char} {tail : List Char} {scope : Scope}
  {attributes : List Attribute}

theorem isSimpleName_cons (h : isSimpleName s = true) :
    ∃ c cs, s.toList = c :: cs ∧ opensName c = true := by
  rw [isSimpleName, Bool.and_eq_true] at h
  cases hs : s.toList with
  | nil => simp [hs] at h
  | cons c cs => exact ⟨c, cs, rfl, by simpa [hs] using h.1⟩

theorem ne_of_opensName {d : Char} (h : opensName c = true) (hd : opensName d = false) : c ≠ d := by
  rintro rfl
  rw [h] at hd
  cases hd

theorem simpleName_of_stop (h : isSimpleName s = true) (start : List Char)
    (htail : ∀ c ∈ tail.head?, continuesName c = false) :
    simpleName start (s.toList ++ tail) = .ok (s, tail) := by
  obtain ⟨c, cs, hs, hopens⟩ := isSimpleName_cons h
  have hcs : ∀ d ∈ cs, continuesName d = true := fun d hd =>
    (isSimpleName_chars h d (by simp [hs, hd])).1
  have hstop : tail.takeWhile continuesName = [] ∧ tail.dropWhile continuesName = tail := by
    cases tail with
    | nil => simp
    | cons d tail => simp [htail d (by simp)]
  rw [hs, List.cons_append, simpleName, if_pos hopens, List.takeWhile_append_of_pos hcs,
    List.dropWhile_append_of_pos hcs, hstop.1, hstop.2, List.append_nil, ← hs, String.ofList_toList]

theorem endsName_stop (h : endsName tail = true) :
    ∀ c ∈ tail.head?, continuesName c = false ∧ c ≠ ':' := by
  cases tail with
  | nil => simp
  | cons d tail => simpa [endsName] using h

theorem simpleName_append (h : isSimpleName s = true) (start : List Char)
    (htail : endsName tail = true) :
    simpleName start (s.toList ++ tail) = .ok (s, tail) :=
  simpleName_of_stop h start fun c hc => (endsName_stop htail c hc).1

/-- A label in front of a colon; there may be none. -/
def IsLabel (label : String) : Prop := label = "" ∨ isSimpleName label = true

theorem toList_writtenAs_of_ne (h : label ≠ "") :
    (writtenAs label part).toList = label.toList ++ ':' :: part.toList := by
  simp [writtenAs, h]

theorem forall_mem_writtenAs {P : Char → Prop} (hcolon : P ':')
    (hlabel : ∀ c ∈ label.toList, P c) (hpart : ∀ c ∈ part.toList, P c) :
    ∀ c ∈ (writtenAs label part).toList, P c := by
  by_cases h : label = ""
  · subst h
    exact hpart
  · rw [toList_writtenAs_of_ne h]
    exact List.forall_mem_append.mpr ⟨hlabel, List.forall_mem_cons.mpr ⟨hcolon, hpart⟩⟩

theorem IsLabel.chars (h : IsLabel label) :
    ∀ c ∈ label.toList, continuesName c = true ∧ c.toNat < 128 := by
  rcases h with rfl | h
  · simp
  · exact isSimpleName_chars h

theorem ne_empty_of_isSimpleName (h : isSimpleName s = true) : s ≠ "" := by
  rintro rfl
  exact absurd h (by decide)

theorem labelledName_written (hlabel : IsLabel label)
    (hpart : isSimpleName part = true) (start : List Char)
    (htail : endsName tail = true) :
    labelledName start ((writtenAs label part).toList ++ tail) = .ok ((label, part), tail) := by
  have hread := simpleName_append hpart start htail
  rcases hlabel with rfl | hlabel
  · have hwritten : writtenAs "" part = part := rfl
    rw [hwritten, labelledName, hread]
    cases tail with
    | nil => rfl
    | cons d tail =>
      have hcolon : d ≠ ':' := (endsName_stop htail d (by simp)).2
      simp [bind, Except.bind, hcolon]
  · have hstop : ∀ c ∈ (':' :: (part.toList ++ tail)).head?, continuesName c = false := by
      simp
      decide
    have hfirst := simpleName_of_stop hlabel start hstop
    rw [toList_writtenAs_of_ne (ne_empty_of_isSimpleName hlabel), List.append_assoc,
      List.cons_append, labelledName, hfirst]
    simp [bind, Except.bind, hread]

theorem writtenAs_continues (hlabel : IsLabel label) (hpart : isSimpleName part = true) :
    ∀ c ∈ (writtenAs label part).toList, (continuesName c || c == ':') = true := by
  refine forall_mem_writtenAs (by simp) (fun c hc => ?_) fun c hc => ?_
  · rw [(hlabel.chars c hc).1, Bool.true_or]
  · rw [(isSimpleName_chars hpart c hc).1, Bool.true_or]

theorem writtenAs_opens (hlabel : IsLabel label) (hpart : isSimpleName part = true) :
    ∃ c cs, (writtenAs label part).toList = c :: cs ∧ opensName c = true := by
  rcases hlabel with rfl | hlabel
  · exact isSimpleName_cons hpart
  · obtain ⟨c, cs, hs, hopens⟩ := isSimpleName_cons hlabel
    rw [toList_writtenAs_of_ne (ne_empty_of_isSimpleName hlabel), hs]
    exact ⟨c, _, rfl, hopens⟩

theorem endTag_written (hlabel : IsLabel label)
    (hpart : isSimpleName part = true) (start rest : List Char) :
    endTag start ((writtenAs label part).toList ++ '>' :: rest) = .ok (writtenAs label part, rest) := by
  have hname : ((writtenAs label part).toList ++ '>' :: rest).takeWhile
      (fun c => continuesName c || c == ':') = (writtenAs label part).toList := by
    rw [List.takeWhile_append_of_pos (writtenAs_continues hlabel hpart)]
    simp [show continuesName '>' = false by decide]
  have hfirst : ∃ taken, simpleName start ((writtenAs label part).toList ++ '>' :: rest) =
      .ok taken := by
    obtain ⟨c, cs, hs, hopens⟩ := writtenAs_opens hlabel hpart
    rw [hs, List.cons_append, simpleName, if_pos hopens]
    exact ⟨_, rfl⟩
  obtain ⟨taken, hfirst⟩ := hfirst
  have hend : spaces ('>' :: rest) = '>' :: rest := rfl
  rw [endTag, hfirst]
  simp [bind, Except.bind, discard, Functor.discard, Functor.mapConst, Except.map, hname, hend]

theorem isSpace_of_opensName (h : opensName c = true) : isSpace c = false := by
  rw [Bool.eq_false_iff]
  intro hc
  simp only [isSpace, Bool.or_eq_true, beq_iff_eq] at hc
  rcases hc with ((hc | hc) | hc) | hc <;> exact ne_of_opensName h (by decide) hc

/-! Attributes. -/

def givenChars (g : Given) : List Char :=
  ' ' :: (writtenAs g.1 g.2.1).toList ++ '=' :: '"' :: (writtenValue g.2.2).toList ++ ['"']

structure Given.Kept (g : Given) : Prop where
  label : IsLabel g.1
  part : isSimpleName g.2.1 = true
  value : IsLegalText g.2.2

theorem attributeValue_of_isLegalText (h : IsLegalText s) (site : Site) :
    attributeValue {} true site [] (writtenValue s).toList = .ok s := by
  obtain ⟨cs, rfl, hcs⟩ := h
  rw [writtenValue, written_ofChars]
  exact attributeValue_valueWritten hcs site

theorem quotedValue_append (h : IsLegalText s) (start rest : List Char) :
    quotedValue start ('=' :: '"' :: (writtenValue s).toList ++ '"' :: rest) =
      .ok ((writtenValue s).toList, '"' :: rest) := by
  obtain ⟨cs, rfl, hcs⟩ := h
  rw [writtenValue, written_ofChars]
  exact rawValue_valueWritten hcs start rest

/-- What attributes are written as, without the places where they stand. -/
def RawAttribute.given (a : RawAttribute) : String × String × List Char := (a.label, a.part, a.value)

variable {given : List Given}

/-- An attribute with its value not yet read. -/
def Given.raw (g : Given) : String × String × List Char := (g.1, g.2.1, (writtenValue g.2.2).toList)

theorem rawAttributes_named (hspace : isSpace c = false) (hsigns : c ≠ '>' ∧ c ≠ '/')
    (start : List Char) (fuel : Nat) (cs : List Char) :
    rawAttributes start (fuel + 1) (' ' :: c :: cs) =
      labelledName start (c :: cs) >>= fun taken => quotedValue start taken.2 >>= fun value =>
        rawAttributes start fuel (value.2.drop 1) >>= fun more =>
          .ok ((⟨taken.1.1, taken.1.2, value.1, c :: cs, value.2⟩ :: more.1.1, more.1.2), more.2) := by
  have hblank : isSpace ' ' = true := by decide
  have hspaces : spaces (' ' :: c :: cs) = c :: cs := by
    rw [spaces, List.dropWhile_cons_of_pos hblank, List.dropWhile_cons_of_neg (by simp [hspace])]
  rw [rawAttributes, hspaces]
  split
  · rename_i heq
    exact absurd (List.cons.inj heq).1 hsigns.1
  · rename_i heq
    exact absurd (List.cons.inj heq).1 hsigns.2
  · rename_i heq
    exact absurd (List.cons.inj heq).1 hsigns.2
  · rfl

theorem rawAttributes_cons {g : Given} (h : g.Kept) (start : List Char) (fuel : Nat)
    (tail : List Char) :
    ∃ a : RawAttribute, a.given = g.raw ∧
      rawAttributes start (fuel + 1) (givenChars g ++ tail) =
        rawAttributes start fuel tail >>= fun more =>
          .ok ((a :: more.1.1, more.1.2), more.2) := by
  obtain ⟨c, cs, hname, hopens⟩ := writtenAs_opens h.label h.part
  have hends : endsName ('=' :: '"' :: (writtenValue g.2.2).toList ++ '"' :: tail) = true := rfl
  have hlabelled := labelledName_written h.label h.part start hends
  have hvalue := quotedValue_append h.value start tail
  have hchars : givenChars g ++ tail =
      ' ' :: (c :: cs ++ ('=' :: '"' :: (writtenValue g.2.2).toList ++ '"' :: tail)) := by
    simp [givenChars, hname]
  rw [hname] at hlabelled
  rw [hchars]
  generalize '=' :: '"' :: (writtenValue g.2.2).toList ++ '"' :: tail = behind at hlabelled hvalue
  rw [List.cons_append] at hlabelled ⊢
  have hsigns : c ≠ '>' ∧ c ≠ '/' :=
    ⟨ne_of_opensName hopens (by decide), ne_of_opensName hopens (by decide)⟩
  refine ⟨⟨g.1, g.2.1, (writtenValue g.2.2).toList, c :: (cs ++ behind), '"' :: tail⟩, ?_, ?_⟩
  · simp only [RawAttribute.given, Given.raw]
  rw [rawAttributes_named (isSpace_of_opensName hopens) hsigns]
  simp [hlabelled, hvalue, bind, Except.bind]

theorem rawAttributes_append (h : ∀ g ∈ given, g.Kept) {start rest : List Char} {empty : Bool}
    (htail : ∀ fuel, rawAttributes start (fuel + 1) tail = .ok (([], empty), rest)) (fuel : Nat)
    (hfuel : (given.flatMap givenChars ++ tail).length < fuel) :
    ∃ raw, rawAttributes start fuel (given.flatMap givenChars ++ tail) = .ok ((raw, empty), rest) ∧
      raw.map RawAttribute.given = given.map Given.raw := by
  induction given generalizing fuel with
  | nil =>
    obtain ⟨fuel, rfl⟩ : ∃ n, fuel = n + 1 := ⟨fuel - 1, by omega⟩
    exact ⟨[], htail fuel, rfl⟩
  | cons g given ih =>
    obtain ⟨hg, hgiven⟩ := List.forall_mem_cons.mp h
    rw [List.flatMap_cons, List.append_assoc] at hfuel ⊢
    obtain ⟨fuel, rfl⟩ : ∃ n, fuel = n + 1 := ⟨fuel - 1, by omega⟩
    have hshorter : (given.flatMap givenChars ++ tail).length < fuel := by
      rw [List.length_append, givenChars] at hfuel
      simp only [List.cons_append, List.length_cons] at hfuel
      omega
    obtain ⟨raw, hraw, hsame⟩ := ih hgiven fuel hshorter
    obtain ⟨a, ha, hread⟩ := rawAttributes_cons hg start fuel (given.flatMap givenChars ++ tail)
    refine ⟨a :: raw, ?_, by simp [ha, hsame]⟩
    rw [hread, hraw]
    rfl

def declaredOf (given : List Given) : Scope :=
  given.filterMap fun g => (declaredLabel g.1 g.2.1).map fun label => (label, g.2.2)

theorem declaredOf_append (given more : List Given) :
    declaredOf (given ++ more) = declaredOf given ++ declaredOf more := by
  simp [declaredOf]

theorem givenAttributes_raw (h : ∀ g ∈ given, g.Kept)
    (hstands : ∀ entry ∈ declaredOf given, standProblem? .tree entry.1 entry.2 = none)
    (word : List Char) (element : String) (seen : List String)
    (hnodup : (seen ++ given.map fun g => writtenAs g.1 g.2.1).Nodup) {raw : List RawAttribute}
    (hraw : raw.map RawAttribute.given = given.map Given.raw) :
    givenAttributes .tree {} [] word element seen raw = .ok (given, declaredOf given) := by
  induction given generalizing raw seen with
  | nil =>
    obtain rfl : raw = [] := by simpa using hraw
    rfl
  | cons g given ih =>
    obtain ⟨hg, hgiven⟩ := List.forall_mem_cons.mp h
    obtain ⟨label, part, value⟩ := g
    obtain ⟨r, raw, rfl⟩ : ∃ r rs, raw = r :: rs := by
      cases raw with
      | nil => simp at hraw
      | cons r rs => exact ⟨r, rs, rfl⟩
    simp only [List.map_cons, List.cons.injEq, RawAttribute.given, Given.raw,
      Prod.mk.injEq] at hraw
    obtain ⟨⟨hlabel, hpart, hvalue⟩, hraw⟩ := hraw
    rw [List.map_cons] at hnodup
    have hseen : writtenAs label part ∉ seen := fun hmem =>
      (List.disjoint_of_nodup_append hnodup) hmem (by simp)
    have hfree : DocumentType.rule? {} element (writtenAs label part) = none := rfl
    have hfront : declaredOf ((label, part, value) :: given) =
        declaredOf [(label, part, value)] ++ declaredOf given := declaredOf_append [_] given
    have hrest : (writtenAs label part :: seen ++ given.map fun g => writtenAs g.1 g.2.1).Nodup :=
      List.nodup_middle.mp hnodup
    have hmore := ih hgiven (fun entry hentry => hstands entry (by simp [hfront, hentry])) _ hrest
      hraw
    have hdeclared : declaredBy .tree word (label, part, value) =
        .ok (declaredOf [(label, part, value)]) := by
      cases hlabelled : declaredLabel label part with
      | none => simp [declaredBy, declaredOf, hlabelled]
      | some declared =>
        have hstand := hstands (declared, value) (by simp [declaredOf, hlabelled])
        simp only [declaredBy, hlabelled, hstand]
        simp [declaredOf, hlabelled]
    rw [givenAttributes]
    simp [hlabel, hpart, hvalue, hmore, hseen, hfree, hdeclared, hfront,
      attributeValue_of_isLegalText hg.value, bind, Except.bind]

def resolved (scope : Scope) (given : List Given) : List (Option Name × String) :=
  (given.filter fun g => (declaredLabel g.1 g.2.1).isNone).map fun g =>
    (attributeName scope g.1 g.2.1, g.2.2)

theorem resolved_map {α : Type} {as : List α} {given : α → Given} {name : α → Name}
    (hdeclares : ∀ g ∈ as.map given, declaredLabel g.1 g.2.1 = none)
    (h : ∀ a ∈ as, attributeName scope (given a).1 (given a).2.1 = some (name a)) :
    resolved scope (as.map given) = as.map fun a => (some (name a), (given a).2.2) := by
  have hall : ((as.map given).filter fun g => (declaredLabel g.1 g.2.1).isNone) = as.map given := by
    rw [List.filter_eq_self]
    intro g hg
    simp [hdeclares g hg]
  rw [resolved, hall, List.map_map]
  refine List.map_congr_left fun a ha => ?_
  rw [Function.comp_apply, h a ha]

theorem resolved_append (scope : Scope) (given more : List Given) :
    resolved scope (given ++ more) = resolved scope given ++ resolved scope more := by
  simp [resolved]

theorem declaredOf_eq_nil
    (h : ∀ g ∈ given, declaredLabel g.1 g.2.1 = none) : declaredOf given = [] := by
  rw [declaredOf, List.filterMap_eq_nil_iff]
  intro g hg
  simp [h g hg]

theorem namedAttributes_resolved (word : List Char)

    (h : resolved scope given = attributes.map fun a => (some a.name, a.value))
    (hform : ∀ a ∈ attributes, a.form = .escaped) (seen : List (String × String))
    (hnodup : (seen ++ attributes.map fun a => (a.name.space, a.name.part)).Nodup) :
    namedAttributes scope word seen given = .ok attributes := by
  induction given generalizing seen attributes with
  | nil =>
    obtain rfl : attributes = [] := by simpa [resolved] using h
    rfl
  | cons g given ih =>
    obtain ⟨label, part, value⟩ := g
    rw [namedAttributes]
    cases hdeclares : declaredLabel label part with
    | some declared =>
      have hrest : resolved scope given = attributes.map fun a => (some a.name, a.value) := by
        rw [← h]
        simp [resolved, hdeclares]
      simpa using ih hrest hform seen hnodup
    | none =>
      have hcons : resolved scope ((label, part, value) :: given) =
          (attributeName scope label part, value) :: resolved scope given := by
        simp [resolved, hdeclares]
      rw [hcons] at h
      cases attributes with
      | nil => cases h
      | cons a attributes =>
        simp only [List.map_cons, List.cons.injEq, Prod.mk.injEq] at h
        obtain ⟨⟨hname, rfl⟩, h⟩ := h
        obtain ⟨hescaped, hform⟩ := List.forall_mem_cons.mp hform
        rw [List.map_cons] at hnodup
        have hseen : (a.name.space, a.name.part) ∉ seen := fun hmem =>
          (List.disjoint_of_nodup_append hnodup) hmem (by simp)
        have hrest : ((a.name.space, a.name.part) :: seen ++
            attributes.map fun a => (a.name.space, a.name.part)).Nodup := List.nodup_middle.mp hnodup
        have hmore := ih h hform _ hrest
        have hsame : (⟨a.name, a.value, .escaped⟩ : Attribute) = a := by rw [← hescaped]
        simp [hname, hseen, hmore, hsame, bind, Except.bind]

/-- What a tag is read as: a name, attributes, and the labels inside of the element. -/
structure TagMeans (scope : Scope) (label part : String) (given : List Given) (name : Name)
    (attributes : List Attribute) : Prop where
  labelKept : IsLabel label
  partKept : isSimpleName part = true
  givenKept : ∀ g ∈ given, g.Kept
  once : (given.map fun g => writtenAs g.1 g.2.1).Nodup
  stands : ∀ entry ∈ declaredOf given, standProblem? .tree entry.1 entry.2 = none
  nameMeant : elementName (declaredOf given ++ scope) label part = some name
  attributesMeant : resolved (declaredOf given ++ scope) given =
    attributes.map fun a => (some a.name, a.value)
  escaped : ∀ a ∈ attributes, a.form = .escaped
  distinct : (attributes.map fun a => (a.name.space, a.name.part)).Nodup

theorem TagMeans.startTag {name : Name} (h : TagMeans scope label part given name attributes)
    (word : List Char) {raw : List RawAttribute}
    (hraw : raw.map RawAttribute.given = given.map Given.raw) :
    startTag .tree {} scope [] word label part raw =
      .ok (name, attributes, declaredOf given ++ scope) := by
  have hgiven := givenAttributes_raw h.givenKept h.stands word (writtenAs label part) [] h.once hraw
  have hnamed := namedAttributes_resolved word h.attributesMeant h.escaped [] h.distinct
  have hdefaults : ∀ element names, defaultAttributes {} element names = [] := fun _ _ => rfl
  simp only [Xml.startTag, hgiven, hdefaults, List.append_nil, List.mapM_nil, bind, Except.bind,
    pure, Except.pure, List.flatten_nil, hnamed, h.nameMeant]
  rfl

theorem endsName_append (h : endsName tail = true) :
    endsName (given.flatMap givenChars ++ tail) = true := by
  cases given with
  | nil => exact h
  | cons g given => rfl

theorem TagMeans.opening {name : Name} (h : TagMeans scope label part given name attributes)
    (word tail : List Char) {rest : List Char} {empty : Bool} (hends : endsName tail = true)
    (htail : ∀ fuel, rawAttributes word (fuel + 1) tail = .ok (([], empty), rest)) :
    ∃ raw, labelledName word
          ((writtenAs label part).toList ++ (given.flatMap givenChars ++ tail)) =
        .ok ((label, part), given.flatMap givenChars ++ tail) ∧
      rawAttributes word ((given.flatMap givenChars ++ tail).length + 1)
        (given.flatMap givenChars ++ tail) = .ok ((raw, empty), rest) ∧
      Xml.startTag .tree {} scope [] word label part raw =
        .ok (name, attributes, declaredOf given ++ scope) := by
  obtain ⟨raw, hraw, hsame⟩ := rawAttributes_append h.givenKept htail _ (Nat.lt_succ_self _)
  exact ⟨raw, labelledName_written h.labelKept h.partKept word (endsName_append hends), hraw,
    h.startTag word hsame⟩

end DroidAudit.Xml
