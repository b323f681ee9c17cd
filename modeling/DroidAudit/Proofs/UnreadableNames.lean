import DroidAudit.Proofs.RewrittenDocument

/-! Documents that cannot be read once they are written. Characters beyond the first 128 are written
by their numbers, in names too, where no reference may stand. -/
namespace DroidAudit.Xml

def Fails {ε α : Type} (r : Except ε α) : Prop := Yields (fun _ => False) r

theorem Fails.bind {ε α β : Type} {r : Except ε α} (h : Fails r) (f : α → Except ε β) :
    Fails (r >>= f) := Yields.bind h fun _ hfalse => hfalse.elim

/-! Names. -/

/-- The written form of characters that may continue a name. -/
def plainPoints (cs : List Char) : List Char :=
  cs.flatMap fun c => writtenPoint (fun c => [c]) c.toNat

variable {c : Char} {labels : Labels} {n : Name} {label part : String} {cs tail : List Char}
  {scope : Scope}

theorem plainPoints_low (h : c.toNat < 128) (cs : List Char) :
    plainPoints (c :: cs) = c :: plainPoints cs := by
  simp [plainPoints, writtenPoint, h]

theorem plainPoints_high (h : ¬c.toNat < 128) (cs : List Char) :
    ∃ ds, plainPoints (c :: cs) = '&' :: ds := by
  simp [plainPoints, writtenPoint, h]

theorem nameChars_eq (h : labels.Distinct) (hn : IsPart n.part) :
    nameChars labels n = plainPoints (writtenAs (labels.labelFor n) n.part).toList := by
  rw [nameChars, h.writtenName]
  exact writtenPlain_eq fun c hc => (writtenAs_legal (h.isLabel_labelFor n) hn c hc).2.1

theorem plainPoints_label (h : isSimpleName label = true) (part : List Char) :
    plainPoints (label.toList ++ ':' :: part) = label.toList ++ ':' :: plainPoints part := by
  have hlow : ∀ c ∈ label.toList, c.toNat < 128 := fun c hc => (isSimpleName_chars h c hc).2
  generalize label.toList = cs at hlow
  induction cs with
  | nil => exact plainPoints_low (by decide) part
  | cons c cs ih =>
    obtain ⟨hc, hcs⟩ := List.forall_mem_cons.mp hlow
    rw [List.cons_append, plainPoints_low hc, ih hcs, List.cons_append]

theorem dropWhile_plainPoints (h : ∀ c ∈ cs, continuesName c = true)
    (hhigh : ∃ c ∈ cs, ¬c.toNat < 128) (tail : List Char) :
    ((plainPoints cs ++ tail).dropWhile continuesName).head? = some '&' := by
  have hsign : continuesName '&' = false := by decide
  induction cs with
  | nil => simp at hhigh
  | cons c cs ih =>
    obtain ⟨hc, hcs⟩ := List.forall_mem_cons.mp h
    by_cases hlow : c.toNat < 128
    · have hrest : ∃ c ∈ cs, ¬c.toNat < 128 := by
        obtain ⟨d, hd, hdhigh⟩ := hhigh
        rcases List.mem_cons.mp hd with rfl | hd
        · exact absurd hlow hdhigh
        · exact ⟨d, hd, hdhigh⟩
      rw [plainPoints_low hlow, List.cons_append, List.dropWhile_cons_of_pos hc]
      exact ih hcs hrest
    · obtain ⟨ds, hds⟩ := plainPoints_high hlow cs
      rw [hds, List.cons_append, List.dropWhile_cons_of_neg (by simp [hsign])]
      rfl

theorem simpleName_unsimple (h : IsPart part) (hpart : ¬isSimpleName part = true)
    (start tail : List Char) :
    Yields (fun taken => taken.2.head? = some '&')
      (simpleName start (plainPoints part.toList ++ tail)) := by
  have hcontinues := h.2
  cases hs : part.toList with
  | nil => exact absurd (String.toList_eq_nil_iff.mp hs) h.1
  | cons c cs =>
    rw [hs] at hcontinues
    obtain ⟨hc, hcs⟩ := List.forall_mem_cons.mp hcontinues
    by_cases hlow : c.toNat < 128
    · by_cases hopens : opensName c = true
      · have hhigh : ∃ d ∈ cs, ¬d.toNat < 128 := by
          by_contra hnone
          have hall : ∀ d ∈ c :: cs, (continuesName d && d.toNat < 128) = true := by
            simp only [not_exists, not_and, not_not] at hnone
            simp only [Bool.and_eq_true, decide_eq_true_eq]
            exact List.forall_mem_cons.mpr ⟨⟨hc, hlow⟩, fun d hd => ⟨hcs d hd, hnone d hd⟩⟩
          refine hpart ?_
          rw [isSimpleName, hs, List.all_eq_true.mpr hall]
          simp [hopens]
        rw [plainPoints_low hlow, List.cons_append, simpleName, if_pos hopens]
        exact .ok (dropWhile_plainPoints hcs hhigh tail)
      · rw [plainPoints_low hlow, List.cons_append, simpleName, if_neg hopens]
        exact .broken _ _
    · obtain ⟨ds, hds⟩ := plainPoints_high hlow cs
      have hsign : ¬opensName '&' = true := by decide
      rw [hds, List.cons_append, simpleName, if_neg hsign]
      exact .broken _ _

theorem labelledName_unsimple (h : labels.Distinct) (hn : IsPart n.part)
    (hpart : ¬isSimpleName n.part = true) (start tail : List Char) :
    Yields (fun taken => taken.2.head? = some '&')
      (labelledName start (nameChars labels n ++ tail)) := by
  have hread := simpleName_unsimple hn hpart start
  rw [nameChars_eq h hn]
  rcases h.isLabel_labelFor n with hlabel | hlabel
  · have hwritten : writtenAs "" n.part = n.part := rfl
    rw [hlabel, hwritten, labelledName]
    refine (hread tail).bind fun taken htaken => ?_
    split
    split
    · simp at htaken
    · exact .ok htaken
  · have hstop : ∀ c ∈ (':' :: (plainPoints n.part.toList ++ tail)).head?, continuesName c = false := by
      simp
      decide
    have hfirst := simpleName_of_stop hlabel start hstop
    rw [toList_writtenAs_of_ne (ne_empty_of_isSimpleName hlabel), plainPoints_label hlabel,
      List.append_assoc, List.cons_append, labelledName, hfirst]
    refine (hread tail).bind fun taken htaken => ?_
    exact .ok htaken

theorem nameChars_cons (h : labels.Distinct) (hn : IsPart n.part) :
    ∃ c cs, nameChars labels n = c :: cs ∧ (continuesName c = true ∨ c = '&') := by
  have hfirst : ∃ c cs, (writtenAs (labels.labelFor n) n.part).toList = c :: cs ∧
      continuesName c = true := by
    rcases h.isLabel_labelFor n with hlabel | hlabel
    · have hwritten : writtenAs "" n.part = n.part := rfl
      have hcontinues := hn.2
      rw [hlabel, hwritten]
      cases hs : n.part.toList with
      | nil => exact absurd (String.toList_eq_nil_iff.mp hs) hn.1
      | cons c cs => exact ⟨c, cs, rfl, hcontinues c (by simp [hs])⟩
    · obtain ⟨c, cs, hs, -⟩ := isSimpleName_cons hlabel
      have hcontinues := (isSimpleName_chars hlabel c (by simp [hs])).1
      rw [toList_writtenAs_of_ne (ne_empty_of_isSimpleName hlabel), hs]
      exact ⟨c, _, rfl, hcontinues⟩
  obtain ⟨c, cs, hs, hc⟩ := hfirst
  rw [nameChars_eq h hn, hs]
  by_cases hlow : c.toNat < 128
  · exact ⟨c, _, plainPoints_low hlow cs, .inl hc⟩
  · obtain ⟨ds, hds⟩ := plainPoints_high hlow cs
    exact ⟨'&', ds, hds, .inr rfl⟩

theorem ne_of_nameChar {d : Char} (h : continuesName c = true ∨ c = '&')
    (hd : ¬(continuesName d = true ∨ d = '&')) : c ≠ d := by
  rintro rfl
  exact hd h

theorem isSpace_of_nameChar (h : continuesName c = true ∨ c = '&') : isSpace c = false := by
  rw [Bool.eq_false_iff]
  intro hc
  simp only [isSpace, Bool.or_eq_true, beq_iff_eq] at hc
  rcases hc with ((hc | hc) | hc) | hc <;> exact ne_of_nameChar h (by decide) hc

/-! Tags. -/

theorem rawAttributes_ampersand (h : cs.head? = some '&') (start : List Char)
    (fuel : Nat) : Fails (rawAttributes start fuel cs) := by
  cases cs with
  | nil => cases h
  | cons c cs =>
    cases h
    cases fuel with
    | zero => exact .broken _ _
    | succ fuel =>
      have hbroken : rawAttributes start (fuel + 1) ('&' :: cs) = broken start ('&' :: cs) := rfl
      rw [hbroken]
      exact .broken _ _

theorem quotedValue_ampersand (h : cs.head? = some '&') (start : List Char) :
    Fails (quotedValue start cs) := by
  cases cs with
  | nil => cases h
  | cons c cs =>
    cases h
    exact .broken _ _

theorem element_of_name (h : labels.Distinct) (hn : IsPart n.part)
    (hpart : ¬isSimpleName n.part = true) (scope : Scope)
    (inner : Scope → List Char → Except Fault (Taken (List Item))) (tail : List Char) :
    Fails (element .tree {} scope [] inner ('<' :: (nameChars labels n ++ tail))) := by
  refine (labelledName_unsimple h hn hpart _ tail).bind fun taken htaken => ?_
  exact (rawAttributes_ampersand htaken _ _).bind _

theorem rawAttributes_of_name (h : labels.Distinct) {a : Attribute}
    (ha : IsPart a.name.part) (hpart : ¬isSimpleName a.name.part = true) (start : List Char)
    (fuel : Nat) (tail : List Char) :
    Fails (rawAttributes start fuel (labelledAttribute labels a ++ tail)) := by
  cases fuel with
  | zero => exact .broken _ _
  | succ fuel =>
    have hread := labelledName_unsimple h ha hpart start
      ('=' :: '"' :: (writtenValue a.value).toList ++ '"' :: tail)
    obtain ⟨c, cs, hname, hc⟩ := nameChars_cons h ha
    have hsigns : c ≠ '>' ∧ c ≠ '/' :=
      ⟨ne_of_nameChar hc (by decide), ne_of_nameChar hc (by decide)⟩
    have hchars : labelledAttribute labels a ++ tail =
        ' ' :: c :: (cs ++ ('=' :: '"' :: (writtenValue a.value).toList ++ '"' :: tail)) := by
      simp [labelledAttribute, hname]
    rw [hname, List.cons_append] at hread
    rw [hchars, rawAttributes_named (isSpace_of_nameChar hc) hsigns]
    exact hread.bind fun taken htaken => (quotedValue_ampersand htaken start).bind _

theorem rawAttributes_append_fails {given : List Given} (h : ∀ g ∈ given, g.Kept)
    {start : List Char} (htail : ∀ fuel, Fails (rawAttributes start fuel tail)) (fuel : Nat) :
    Fails (rawAttributes start fuel (given.flatMap givenChars ++ tail)) := by
  induction given generalizing fuel with
  | nil => exact htail fuel
  | cons g given ih =>
    obtain ⟨hg, hgiven⟩ := List.forall_mem_cons.mp h
    rw [List.flatMap_cons, List.append_assoc]
    cases fuel with
    | zero => exact .broken _ _
    | succ fuel =>
      obtain ⟨raw, -, hread⟩ := rawAttributes_cons hg start fuel (given.flatMap givenChars ++ tail)
      rw [hread]
      exact (ih hgiven fuel).bind _

theorem rawAttributes_of_names (h : labels.Distinct) {attributes : List Attribute}
    (hattributes : ∀ a ∈ attributes, a.Sound .tree)
    (hnames : ¬∀ a ∈ attributes, isSimpleName a.name.part = true) (start tail : List Char)
    (fuel : Nat) :
    Fails (rawAttributes start fuel (attributes.flatMap (labelledAttribute labels) ++ tail)) := by
  induction attributes generalizing fuel with
  | nil => simp at hnames
  | cons a attributes ih =>
    obtain ⟨ha, hrest⟩ := List.forall_mem_cons.mp hattributes
    rw [List.flatMap_cons, List.append_assoc]
    by_cases hpart : isSimpleName a.name.part = true
    · have hmore : ¬∀ a ∈ attributes, isSimpleName a.name.part = true := fun hall =>
        hnames (List.forall_mem_cons.mpr ⟨hpart, hall⟩)
      have hkept : (a.labelled labels).Kept := ⟨h.isLabel_labelFor a.name, hpart, ha.value⟩
      have hfails := rawAttributes_append_fails (List.forall_mem_singleton.mpr hkept)
        (ih hrest hmore) fuel
      rw [labelledAttribute_of_simple h hpart]
      simpa using hfails
    · exact rawAttributes_of_name h ha.name.part hpart start fuel _

/-! Content. -/

/-- An element that cannot be read from its characters, whatever stands behind them. -/
structure IsBrokenIn (scope : Scope) (es : List Char) : Prop where
  opens : ∃ c cs, es = '<' :: c :: cs ∧ (continuesName c = true ∨ c = '&')
  fails : ∀ rest fuel, (es ++ rest).length ≤ fuel →
    Fails (element .tree {} scope [] (fun inner cs => content .tree {} fuel inner [] cs) (es ++ rest))

/-- With enough fuel for its length, nothing is read of a text. -/
def ContentFails (scope : Scope) (cs : List Char) : Prop :=
  ∀ fuel, cs.length < fuel → Fails (content .tree {} fuel scope [] cs)

theorem Passes.contentFails {items : List Item}
    (h : Passes scope cs items tail) (htail : ContentFails scope tail) : ContentFails scope cs := by
  intro fuel hfuel
  obtain ⟨fuel', hfuel', hread⟩ := h fuel hfuel
  rw [hread]
  exact (htail fuel' hfuel').bind _

theorem IsBrokenIn.contentFails {es : List Char} (h : IsBrokenIn scope es)
    (tail : List Char) : ContentFails scope (es ++ tail) := by
  intro fuel hfuel
  obtain ⟨fuel, rfl⟩ : ∃ n, fuel = n + 1 := ⟨fuel - 1, by omega⟩
  have hfails := h.fails tail fuel (by omega)
  obtain ⟨c, cs, rfl, hc⟩ := h.opens
  have hsigns : c ≠ '/' ∧ c ≠ '!' ∧ c ≠ '?' := by
    refine ⟨?_, ?_, ?_⟩ <;>
      exact ne_of_nameChar hc (by decide)
  rw [List.cons_append, List.cons_append] at hfails ⊢
  rw [content_tag scope hsigns]
  exact hfails.bind _

theorem labelledChildren_contentFails {children : List (Element × String)}
    (hread : ∀ c ∈ children, c.1.HasSimpleNames →
      IsReadIn scope (labelledChars labels [] c.1) (c.1.relabelled labels))
    (hbroken : ∀ c ∈ children, ¬c.1.HasSimpleNames → IsBrokenIn scope (labelledChars labels [] c.1))
    (hnames : ¬∀ c ∈ children, c.1.HasSimpleNames) (htails : ∀ c ∈ children, IsText c.2)
    (htail : tail.head? = some '<') :
    ContentFails scope (labelledChildren labels children ++ tail) := by
  induction children with
  | nil => simp at hnames
  | cons c rest ih =>
    obtain ⟨e, behind⟩ := c
    rw [List.forall_mem_cons] at hread hbroken htails
    rw [labelledChildren, List.append_assoc, List.append_assoc]
    by_cases hsimple : e.HasSimpleNames
    · have hmore : ¬∀ c ∈ rest, c.1.HasSimpleNames := fun hall =>
        hnames (List.forall_mem_cons.mpr ⟨hsimple, hall⟩)
      obtain ⟨ds, -, htext⟩ := Passes.isText scope htails.1
      obtain ⟨runs, -, htext⟩ := htext _ (head?_labelledChildren labels rest htail)
      have hpasses := (Passes.element (hread.1 hsimple) _).trans htext
      exact hpasses.contentFails (ih hread.2 hbroken.2 hmore htails.2)
    · exact (hbroken.1 hsimple).contentFails _

/-! Elements. -/

theorem element_of_attributes (hlabel : IsLabel label)
    (hpart : isSimpleName part = true) (hends : endsName tail = true)
    (htail : ∀ start fuel, Fails (rawAttributes start fuel tail)) (scope : Scope)
    (inner : Scope → List Char → Except Fault (Taken (List Item))) :
    Fails (element .tree {} scope [] inner ('<' :: ((writtenAs label part).toList ++ tail))) := by
  have hname := labelledName_written hlabel hpart ('<' :: ((writtenAs label part).toList ++ tail)) hends
  have hfails := htail ('<' :: ((writtenAs label part).toList ++ tail)) (tail.length + 1)
  simp only [Xml.element, List.drop_succ_cons, List.drop_zero, hname, bind, Except.bind]
  exact hfails.bind _

theorem TagMeans.element_fails {given : List Given} {name : Name} {attributes : List Attribute}
    (h : TagMeans scope label part given name attributes) {inner : List Char}
    (hinner : ContentFails (declaredOf given ++ scope) inner) {fuel : Nat}
    (hfuel : inner.length < fuel) :
    Fails (element .tree {} scope [] (fun inside cs => content .tree {} fuel inside [] cs)
      ('<' :: ((writtenAs label part).toList ++ (given.flatMap givenChars ++ '>' :: inner)))) := by
  obtain ⟨raw, hlabel, hraw, hstart⟩ := h.opening
    ('<' :: ((writtenAs label part).toList ++ (given.flatMap givenChars ++ '>' :: inner)))
    ('>' :: inner) rfl fun _ => rfl
  have hfails := hinner fuel hfuel
  simp only [Xml.element, List.drop_succ_cons, List.drop_zero, hlabel, hraw, hstart, bind,
    Except.bind, Bool.false_eq_true, if_false]
  exact hfails.bind _

/-- An element with a name that is not simple cannot be read, whether the name is its own, that of an
attribute or one below it. -/
theorem isBrokenIn_labelled (h : labels.Distinct) {e : Element}
    (hsound : e.Sound .tree) (htexts : e.KeepsTexts) (hnames : ¬e.HasSimpleNames)
    (hcovers : ∀ n ∈ namesOf e, labels.Covers n.space) {sorted : Labels} (hsorted : sorted.Declarable)
    (hfits : Scope.Fits labels (declaredOf (sorted.map declaringGiven) ++ scope)) :
    IsBrokenIn scope (labelledChars labels (sorted.flatMap declarationChars) e) := by
  induction hsound generalizing sorted scope with
  | @mk name attributes text children hname hattributes hnodup hlegal hchildren htails ih =>
    refine ⟨?_, fun rest fuel hfuel => ?_⟩
    · obtain ⟨c, cs, hs, hc⟩ := nameChars_cons h hname.part
      rw [labelledChars, hs]
      exact ⟨c, _, rfl, hc⟩
    rw [labelledChars] at hfuel ⊢
    by_cases hpart : isSimpleName name.part = true
    · by_cases hsimple : ∀ a ∈ attributes, isSimpleName a.name.part = true
      · -- the name is one below
        have hbad : ¬∀ c ∈ children, c.1.HasSimpleNames := fun hall =>
          hnames (hasSimpleNames_mk.mpr ⟨⟨hpart, hsimple⟩, hall⟩)
        have hfilled : ¬(some text == some "" && children.isEmpty) = true := by
          cases children with
          | nil => simp at hbad
          | cons c rest => simp
        have hmeans := tagMeans_relabelled h hsorted hfits hpart (hcovers _ name_mem_namesOf)
          hattributes hsimple (fun a ha => hcovers _ (attribute_mem_namesOf ha)) hnodup
        have hinner : ∀ more, ContentFails (declaredOf (sorted.map declaringGiven) ++ scope)
            (textChars text ++ (labelledChildren labels children ++ '<' :: more)) := by
          intro more
          have hend : ('<' :: more).head? = some '<' := rfl
          have htext : IsText text := (htexts _ (Element.self_mem_all _)).1 text rfl
          have hcovered : ∀ c ∈ children, ∀ n ∈ namesOf c.1, labels.Covers n.space := fun c hc n hn =>
            hcovers n (child_mem_namesOf hc hn)
          obtain ⟨ds, -, hpasses⟩ :=
            Passes.isText (declaredOf (sorted.map declaringGiven) ++ scope) htext
          obtain ⟨runs, -, hpasses⟩ := hpasses _ (head?_labelledChildren labels children hend)
          refine hpasses.contentFails (labelledChildren_contentFails ?_ ?_ hbad
            (fun c hc => (htexts.child hc).2) hend)
          · exact fun c hc hc' => isReadIn_relabelled h (hchildren c hc) (htexts.child hc).1 hc'
              (hcovered c hc) .nil hfits
          · exact fun c hc hc' => ih c hc (htexts.child hc).1 hc' (hcovered c hc) .nil hfits
        rw [← declaredOf_labelled h hattributes] at hinner
        rw [if_neg hfilled, flatMap_labelled h hsimple, nameChars_of_simple h hpart] at hfuel ⊢
        simp only [List.cons_append, List.append_assoc] at hfuel ⊢
        refine hmeans.element_fails (hinner _) ?_
        simp only [List.length_cons, List.length_append, Option.getD_some] at hfuel ⊢
        omega
      · have hends {tail : List Char} :
            endsName (attributes.flatMap (labelledAttribute labels) ++ tail) = true := by
          cases attributes with
          | nil => simp at hsimple
          | cons a attributes => rfl
        have hdeclared : ∀ g ∈ sorted.map declaringGiven, g.Kept := hsorted.kept
        rw [nameChars_of_simple h hpart, flatMap_declarationChars]
        simp only [List.cons_append, List.append_assoc]
        exact element_of_attributes (h.isLabel_labelFor name) hpart (endsName_append hends)
          (fun start => rawAttributes_append_fails hdeclared
            (rawAttributes_of_names h hattributes hsimple start _)) scope _
    · simp only [List.cons_append, List.append_assoc]
      exact element_of_name h hname.part hpart scope _ _

/-! Documents. -/

theorem token_of_unopened (hc : continuesName c = true ∨ c = '&')
    (hopens : ¬opensName c = true) (hlow : c.toNat < 128) (cs : List Char) :
    Fails (token ('<' :: c :: cs)) := by
  have hsigns : c ≠ '!' ∧ c ≠ '?' :=
    ⟨ne_of_nameChar hc (by decide), ne_of_nameChar hc (by decide)⟩
  have hword : bracketWord ('<' :: c :: cs) (c :: cs) = broken ('<' :: c :: cs) (c :: cs) := by
    rw [bracketWord]
    · have htest : ¬(opensName c || 128 ≤ c.toNat) = true := by
        simpa [hopens] using hlow
      exact if_neg htest
    all_goals simp [hsigns]
  have hat : wordAt ('<' :: c :: cs) '<' (c :: cs) = broken ('<' :: c :: cs) (c :: cs) := hword
  have hspaces : spaces ('<' :: c :: cs) = '<' :: c :: cs := rfl
  rw [token, hspaces]
  simp only [hat]
  exact Fails.bind (.broken _ _) _

theorem documentOf_of_isBrokenIn {es : List Char} (h : IsBrokenIn outerScope es)
    (hlow : ∀ c ∈ es, c.toNat < 128) : Fails (documentOf .tree false es) := by
  have hfails := h.fails [] (es.length + 4) (by simp)
  obtain ⟨c, cs, hes, hc⟩ := h.opens
  by_cases hopens : opensName c = true
  · rw [documentOf_of_opensName [] (by simp) hopens cs hes, ← hes]
    rw [List.append_nil] at hfails
    exact hfails.bind _
  · have htoken : Fails (token es) := hes ▸ token_of_unopened hc hopens (hlow c (by simp [hes])) cs
    refine Fails.bind ?_ _
    exact htoken.bind _

theorem read_unreadable {root : Element} (hsound : root.Sound .tree) (htexts : root.KeepsTexts)
    (hnames : ¬root.HasSimpleNames) (hheight : root.height ≤ maxHeight) :
    Fails (read .tree (Text.encoded (documentText root).1)) := by
  obtain ⟨sorted, hperm, hdeclarable, htext, hplain⟩ := documentText_of_sound hsound htexts hheight
  have hdistinct := labelsOf_distinct root
  have hroot := isBrokenIn_labelled hdistinct hsound htexts hnames
    (fun n hn => labelsOf_covers hn) hdeclarable (fits_of_declared hdistinct hperm)
  generalize labelledChars (labelsOf root) (sorted.flatMap declarationChars) root = es
    at htext hplain hroot
  have hdocument := documentOf_of_isBrokenIn hroot (low_of_plain hplain)
  obtain ⟨c, cs, hes, hc⟩ := hroot.opens
  have hinstruction : c ≠ '?' := ne_of_nameChar hc (by decide)
  have hlist : (String.ofList es).toList = es := String.toList_ofList
  have hfront : declaration (String.ofList es).toList = .ok ({}, es) := by
    rw [hlist, hes, declaration_of_tag hinstruction]
  rw [← hlist] at hplain
  have hsource := sourceOf_of_kept (hlist.trans hes) (low_of_plain hplain c (by simp [hes]))
    (kept_of_plain hplain) hfront fun _ h => nomatch h
  rw [htext, encoded_of_plain hplain, read, hsource]
  simp only [bind, Except.bind, hfront, Source.run_ok]
  exact Fails.bind (hdocument.mapError _) _

end DroidAudit.Xml
