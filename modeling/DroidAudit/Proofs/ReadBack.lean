import DroidAudit.Proofs.PlainSource
import DroidAudit.Proofs.WrittenContent

/-! Documents that are written and read again. A kept element is read from its characters, whatever
stands behind it, and so is a document of kept elements. -/
namespace DroidAudit.Xml

/-! Tags without labels. -/

def Attribute.given (a : Attribute) : Given := ("", a.name.part, a.value)

theorem flatMap_attributeChars (attributes : List Attribute) :
    attributes.flatMap attributeChars = (attributes.map Attribute.given).flatMap givenChars := by
  rw [List.flatMap_map]
  rfl

theorem declaredLabel_of_ne {part : String} (h : part ≠ "xmlns") : declaredLabel "" part = none := by
  simp [declaredLabel, h]

variable {attributes : List Attribute} {name : Name} {c : Char} {children : List (Element × String)}
  {rest tail es cs : List Char} {e root : Element} {s : String}

theorem not_declaring_given (h : ∀ a ∈ attributes, a.Kept) :
    ∀ g ∈ attributes.map Attribute.given, declaredLabel g.1 g.2.1 = none := by
  intro g hg
  obtain ⟨a, ha, rfl⟩ := List.mem_map.mp hg
  exact declaredLabel_of_ne (h a ha).notDeclaring

theorem declaredOf_given (h : ∀ a ∈ attributes, a.Kept) :
    declaredOf (attributes.map Attribute.given) = [] := declaredOf_eq_nil (not_declaring_given h)

theorem resolved_given (h : ∀ a ∈ attributes, a.Kept) (scope : Scope) :
    resolved scope (attributes.map Attribute.given) =
      attributes.map fun a => (some a.name, a.value) := by
  refine resolved_map (not_declaring_given h) fun a ha => ?_
  exact congrArg some (h a ha).name.1.symm

theorem tagMeans_of_kept (hname : name.Kept)
    (h : ∀ a ∈ attributes, a.Kept) (hnodup : (attributes.map (·.name.part)).Nodup) :
    TagMeans outerScope "" name.part (attributes.map Attribute.given) name attributes where
  labelKept := .inl rfl
  partKept := hname.2
  givenKept := by
    intro g hg
    obtain ⟨a, ha, rfl⟩ := List.mem_map.mp hg
    exact ⟨.inl rfl, (h a ha).name.2, (h a ha).value.isLegalText⟩
  once := by
    rw [List.map_map]
    exact hnodup
  stands := by simp [declaredOf_given h]
  nameMeant := by
    rw [declaredOf_given h]
    exact congrArg some hname.1.symm
  attributesMeant := resolved_given h _
  escaped := fun a ha => (h a ha).form
  distinct := by
    refine .of_map Prod.snd ?_
    rw [List.map_map]
    exact hnodup

/-! Reading what stands between tags. -/

def Reads (cs text : List Char) (children : List (Element × String)) (rest : List Char) : Prop :=
  ∀ fuel, cs.length < fuel → ∃ items, content .tree {} fuel outerScope [] cs = .ok (items, rest) ∧
    gather items = (text, children)

theorem Reads.reference {body text : List Char} (hrefers : Refers body c)
    (h : Reads tail text children rest) :
    Reads ('&' :: body ++ tail) (c :: text) children rest := by
  intro fuel hfuel
  obtain ⟨items, hitems, hgather⟩ := (Passes.reference hrefers outerScope tail).readsIn h fuel hfuel
  exact ⟨_, hitems, by simp [gather, hgather]⟩

theorem Reads.run {run text : List Char}
    (hrun : ∀ c ∈ run, c ∉ textSigns) (htail : tail.head? = some '<' ∨ tail.head? = some '&')
    (h : Reads tail text children rest) : Reads (run ++ tail) (run ++ text) children rest := by
  by_cases hne : run = []
  · subst hne
    exact h
  intro fuel hfuel
  obtain ⟨items, hitems, hgather⟩ := (Passes.run hrun hne outerScope htail).readsIn h fuel hfuel
  exact ⟨_, hitems, by simp [gather, hgather]⟩

theorem Reads.comment {body text : List Char}
    (hbody : '-' ∉ body) (h : Reads tail text children rest) :
    Reads ('<' :: '!' :: '-' :: '-' :: body ++ '-' :: '-' :: '>' :: tail) text children rest :=
  (Passes.comment hbody outerScope tail).readsIn h

structure IsRead (es : List Char) (e : Element) : Prop where
  opens : ∃ c cs, es = '<' :: c :: cs ∧ opensName c = true
  reads : ∀ rest fuel, (es ++ rest).length ≤ fuel →
    element .tree {} outerScope [] (fun inner cs => content .tree {} fuel inner [] cs) (es ++ rest) =
      .ok (e, rest)

theorem isRead_iff : IsRead es e ↔ IsReadIn outerScope es e :=
  ⟨fun h => ⟨h.opens, h.reads⟩, fun h => ⟨h.opens, h.reads⟩⟩

theorem Reads.element (hread : IsRead es e) {text : List Char} (h : Reads tail text children rest) :
    Reads (es ++ tail) [] ((e, String.ofList (Text.ofChars text)) :: children) rest := by
  intro fuel hfuel
  obtain ⟨items, hitems, hgather⟩ := (Passes.element (isRead_iff.mp hread) tail).readsIn h fuel hfuel
  exact ⟨_, hitems, by simp [gather, hgather]⟩

/-! Elements. -/

inductive Content : List Char → List Char → List (Element × String) → Prop
  | nil : Content [] [] []
  | char {c : Char} {v cs text : List Char} {children : List (Element × String)} :
      WrittenAs textSigns c v → isLegal c = true → c ≠ '\r' → Content cs text children →
      Content (v ++ cs) (c :: text) children
  | itself {c : Char} {cs text : List Char} {children : List (Element × String)} :
      c ∉ textSigns → isLegal c = true → c ≠ '\r' → Content cs text children →
      Content (c :: cs) (c :: text) children
  | comment {body cs text : List Char} {children : List (Element × String)} :
      '-' ∉ body → Content cs text children →
      Content ('<' :: '!' :: '-' :: '-' :: body ++ '-' :: '-' :: '>' :: cs) text children
  | element {es cs text : List Char} {e : Element} {children : List (Element × String)} :
      IsRead es e → e.Kept → Content cs text children →
      Content (es ++ cs) [] ((e, String.ofList (Text.ofChars text)) :: children)

/-- Such characters are read up to an end tag. The induction keeps those in front that are still to
be read at once with the next ones. -/
theorem Content.reads {text : List Char}
    (h : Content cs text children) (more run : List Char) (hrun : ∀ c ∈ run, c ∉ textSigns) :
    Reads (run ++ (cs ++ '<' :: '/' :: more)) (run ++ text) children ('<' :: '/' :: more) := by
  have hlonger : ∀ {run : List Char} {c : Char}, (∀ d ∈ run, d ∉ textSigns) → c ∉ textSigns →
      ∀ d ∈ run ++ [c], d ∉ textSigns := fun hrun hc =>
    List.forall_mem_append.mpr ⟨hrun, List.forall_mem_singleton.mpr hc⟩
  induction h generalizing run with
  | nil => exact Reads.run hrun (.inl rfl) (readsIn_endTag outerScope more)
  | @char c v cs text children hwritten _ _ _ ih =>
    cases hwritten with
    | itself _ hsigns => simpa using ih _ (hlonger hrun hsigns)
    | reference hrefers _ =>
      have hmore := (ih [] (by simp)).reference hrefers
      simpa using hmore.run hrun (.inr rfl)
  | itself hsigns _ _ _ ih => simpa using ih _ (hlonger hrun hsigns)
  | comment hbody _ ih =>
    have hmore := (ih [] (by simp)).comment hbody
    simpa using hmore.run hrun (.inl rfl)
  | @element es cs text e children hread _ _ ih =>
    have hmore := (ih [] (by simp)).element hread
    obtain ⟨c, ds, rfl, -⟩ := hread.opens
    simpa using hmore.run hrun (.inl rfl)

theorem Content.kept {text : List Char} (h : Content cs text children) :
    IsText (String.ofList (Text.ofChars text)) ∧ (∀ c ∈ children, c.1.Kept) ∧
      ∀ c ∈ children, IsText c.2 := by
  have hall : (∀ c ∈ text, isLegal c = true ∧ c ≠ '\r') ∧ (∀ c ∈ children, c.1.Kept) ∧
      ∀ c ∈ children, IsText c.2 := by
    induction h with
    | nil => simp
    | char _ hlegal hreturn _ ih | itself _ hlegal hreturn _ ih =>
      exact ⟨List.forall_mem_cons.mpr ⟨⟨hlegal, hreturn⟩, ih.1⟩, ih.2⟩
    | comment _ _ ih => exact ih
    | element _ hkept _ ih =>
      exact ⟨by simp, List.forall_mem_cons.mpr ⟨hkept, ih.2.1⟩,
        List.forall_mem_cons.mpr ⟨⟨_, rfl, ih.1⟩, ih.2.2⟩⟩
  exact ⟨⟨text, rfl, hall.1⟩, hall.2⟩

theorem Content.text (hs : IsText s) :
    ∃ ds, s = String.ofList (Text.ofChars ds) ∧
      ∀ {text}, Content cs text children → Content (textChars s ++ cs) (ds ++ text) children := by
  obtain ⟨ds, rfl, hds⟩ := hs
  refine ⟨ds, rfl, fun h => ?_⟩
  rw [textChars, writtenText, written_ofChars]
  induction ds with
  | nil => exact h
  | cons c ds ih =>
    obtain ⟨hlegal, hreturn⟩ := hds c (by simp)
    have hrest := ih fun d hd => hds d (by simp [hd])
    rw [List.flatMap_cons, List.append_assoc]
    exact .char (writtenPoint_writtenAs hlegal escapedTextChar_writtenAs) hlegal hreturn hrest

theorem Content.run {ds text : List Char} (h : Content cs text children)
    (hds : (ds.all fun c => isPlainChar c && !textSigns.contains c) = true) :
    Content (ds ++ cs) (ds ++ text) children := by
  rw [List.all_eq_true] at hds
  induction ds with
  | nil => exact h
  | cons c ds ih =>
    rw [List.forall_mem_cons] at hds
    have hc := hds.1
    simp only [isPlainChar, Bool.and_eq_true, bne_iff_ne, Bool.not_eq_true', List.contains_eq_mem,
      decide_eq_false_iff_not] at hc
    obtain ⟨⟨⟨-, hlegal⟩, hreturn⟩, hsigns⟩ := hc
    exact .itself hsigns hlegal hreturn (ih hds.2)

theorem isRead_empty (hname : name.Kept)
    (h : ∀ a ∈ attributes, a.Kept) (hnodup : (attributes.map (·.name.part)).Nodup) :
    IsRead ('<' :: (name.part.toList ++ (attributes.flatMap attributeChars ++ [' ', '/', '>'])))
      (.mk name attributes (some "") []) := by
  rw [isRead_iff, flatMap_attributeChars]
  exact (tagMeans_of_kept hname h hnodup).isReadIn_empty

theorem isRead_of_content (hname : name.Kept)
    (h : ∀ a ∈ attributes, a.Kept) (hnodup : (attributes.map (·.name.part)).Nodup)
    {text : List Char} (hcontent : Content cs text children) :
    IsRead ('<' :: (name.part.toList ++ (attributes.flatMap attributeChars ++
        '>' :: (cs ++ '<' :: '/' :: (name.part.toList ++ ['>'])))))
      (.mk name attributes (some (String.ofList (Text.ofChars text))) children) := by
  rw [isRead_iff, flatMap_attributeChars]
  refine (tagMeans_of_kept hname h hnodup).isReadIn fun more => ?_
  rw [declaredOf_given h]
  exact hcontent.reads more [] (by simp)

theorem content_childrenChars
    (hkept : ∀ c ∈ children, c.1.Kept) (htails : ∀ c ∈ children, IsText c.2)
    (hread : ∀ c ∈ children, IsRead (elementChars c.1) c.1) :
    Content (childrenChars children) [] children := by
  induction children with
  | nil => exact .nil
  | cons c rest ih =>
    obtain ⟨e, tail⟩ := c
    have hrest := ih (fun d hd => hkept d (by simp [hd])) (fun d hd => htails d (by simp [hd]))
      fun d hd => hread d (by simp [hd])
    obtain ⟨ds, hds, htext⟩ := Content.text (htails (e, tail) (by simp))
    have hall := Content.element (hread (e, tail) (by simp)) (hkept (e, tail) (by simp)) (htext hrest)
    rw [List.append_nil, ← hds] at hall
    simpa [childrenChars] using hall

theorem Element.Kept.isRead (h : e.Kept) : IsRead (elementChars e) e := by
  induction h with
  | @mk name attributes text children hname hattributes hnodup htext hchildren htails ih =>
    by_cases hempty : text = "" ∧ children = []
    · obtain ⟨rfl, rfl⟩ := hempty
      simpa [elementChars] using isRead_empty hname hattributes hnodup
    · have hfilled : ¬(some text == some "" && children.isEmpty) = true := by simpa using hempty
      obtain ⟨ds, hds, hcontent⟩ := Content.text htext
      have hread := isRead_of_content hname hattributes hnodup
        (hcontent (content_childrenChars hchildren htails ih))
      rw [List.append_nil, ← hds] at hread
      rw [elementChars, if_neg hfilled]
      simpa using hread

/-! Documents. -/

theorem isPlainChar_of_low {test : Char → Bool} (h : test c = true) (hlow : c.toNat < 128)
    (hall : ∀ n < 128, test (Char.ofNat n) = true → isPlainChar (Char.ofNat n) = true) :
    isPlainChar c = true := by
  rw [← Char.ofNat_toNat c] at h ⊢
  exact hall _ hlow h

theorem isPlainChar_of_isQuiet (h : isQuiet c = true) : isPlainChar c = true := by
  have hlow : c.toNat < 128 := by
    delta isQuiet Char.isAlphanum Char.isAlpha Char.isUpper Char.isLower Char.isDigit at h
    simp only [Bool.or_eq_true, Bool.and_eq_true, decide_eq_true_eq, beq_iff_eq, ge_iff_le,
      UInt32.le_iff_toNat_le] at h
    change ((((65 ≤ c.toNat ∧ c.toNat ≤ 90) ∨ (97 ≤ c.toNat ∧ c.toNat ≤ 122)) ∨
      (48 ≤ c.toNat ∧ c.toNat ≤ 57)) ∨ c = '#') ∨ c = ';' at h
    rcases h with (h | rfl) | rfl
    · omega
    · decide
    · decide
  exact isPlainChar_of_low h hlow (by decide)

theorem WrittenAs.plain {signs : List Char} {v : List Char} (h : WrittenAs signs c v)
    (hlegal : isLegal c = true) (hreturn : c ∉ signs → c ≠ '\r') : ∀ d ∈ v, isPlainChar d = true := by
  cases h with
  | itself hlow hsigns => simp [isPlainChar, hlow, hlegal, hreturn hsigns]
  | reference _ hquiet =>
    intro d hd
    rcases List.mem_cons.mp hd with rfl | hd
    · rfl
    · exact isPlainChar_of_isQuiet (hquiet d hd)

theorem written_plain {signs : List Char} {escape : Char → List Char}
    (hescape : ∀ c : Char, c.toNat < 128 → WrittenAs signs c (escape c))
    (h : ∀ c ∈ cs, isLegal c = true ∧ (c ∉ signs → c ≠ '\r')) :
    ∀ d ∈ (written escape (String.ofList (Text.ofChars cs))).toList, isPlainChar d = true := by
  rw [written_ofChars]
  intro d hd
  obtain ⟨c, hc, hd⟩ := List.mem_flatMap.mp hd
  exact (writtenPoint_writtenAs (h c hc).1 (hescape c)).plain (h c hc).1 (h c hc).2 d hd

theorem textChars_plain (h : IsText s) : ∀ d ∈ textChars s, isPlainChar d = true := by
  obtain ⟨cs, rfl, hcs⟩ := h
  exact written_plain (fun _ => escapedTextChar_writtenAs) fun c hc =>
    ⟨(hcs c hc).1, fun _ => (hcs c hc).2⟩

theorem writtenValue_plain (h : IsLegalText s) :
    ∀ d ∈ (writtenValue s).toList, isPlainChar d = true := by
  obtain ⟨cs, rfl, hcs⟩ := h
  refine written_plain (fun _ => escapedValueChar_writtenAs) fun c hc => ⟨hcs c hc, fun hsigns => ?_⟩
  rintro rfl
  exact hsigns (by decide)

theorem simpleName_plain (h : isSimpleName s = true) : ∀ d ∈ s.toList, isPlainChar d = true := by
  intro d hd
  obtain ⟨hcontinues, hlow⟩ := isSimpleName_chars h d hd
  exact isPlainChar_of_low hcontinues hlow (by decide)

theorem attributeChars_plain {a : Attribute} (h : a.Kept) :
    ∀ d ∈ attributeChars a, isPlainChar d = true := by
  have hname := simpleName_plain h.name.2
  have hvalue := writtenValue_plain h.value.isLegalText
  simp only [attributeChars, List.forall_mem_append, List.forall_mem_cons]
  exact ⟨⟨⟨rfl, hname⟩, rfl, rfl, hvalue⟩, rfl, by simp⟩

theorem attributesChars_plain (h : ∀ a ∈ attributes, a.Kept) :
    ∀ d ∈ attributes.flatMap attributeChars, isPlainChar d = true :=
  List.forall_mem_flatMap.mpr fun a ha => attributeChars_plain (h a ha)

theorem Element.Kept.plain (h : e.Kept) : ∀ d ∈ elementChars e, isPlainChar d = true := by
  induction h with
  | @mk name attributes text children hname hattributes hnodup htext hchildren htails ih =>
    have hpart := simpleName_plain hname.2
    have hstart := attributesChars_plain hattributes
    have hinner : ∀ d ∈ childrenChars children, isPlainChar d = true := by
      clear hchildren
      induction children with
      | nil => simp [childrenChars]
      | cons c rest ihrest =>
        simp only [childrenChars, List.forall_mem_append]
        exact ⟨⟨ih c (by simp), textChars_plain (htails c (by simp))⟩,
          ihrest (fun d hd => htails d (by simp [hd])) fun d hd => ih d (by simp [hd])⟩
    rw [elementChars]
    split
    · simp only [List.forall_mem_append, List.forall_mem_cons]
      exact ⟨⟨⟨rfl, hpart⟩, hstart⟩, List.all_eq_true.mp rfl⟩
    · simp only [List.forall_mem_append, List.forall_mem_cons]
      exact ⟨⟨⟨rfl, hpart⟩, hstart⟩, ⟨⟨rfl, textChars_plain htext⟩, hinner⟩, ⟨rfl, rfl, hpart⟩, rfl, by simp⟩

theorem spaces_append {front : List Char} (h : ∀ c ∈ front, isSpace c = true) (cs : List Char) :
    spaces (front ++ cs) = spaces cs := List.dropWhile_append_of_pos h

theorem token_of_opensName (front : List Char) (hfront : ∀ c ∈ front, isSpace c = true)
    (h : opensName c = true) (cs : List Char) :
    token (front ++ '<' :: c :: cs) = .ok (some .tag, '<' :: c :: cs) := by
  have hsigns : c ≠ '!' ∧ c ≠ '?' :=
    ⟨ne_of_opensName h (by decide), ne_of_opensName h (by decide)⟩
  have hword : bracketWord ('<' :: c :: cs) (c :: cs) = .ok (.tag, '<' :: c :: cs) := by
    rw [bracketWord]
    · simp [h]
    all_goals simp [hsigns]
  have hspaces : spaces ('<' :: c :: cs) = '<' :: c :: cs := rfl
  have hat : wordAt ('<' :: c :: cs) '<' (c :: cs) = .ok (.tag, '<' :: c :: cs) := hword
  rw [token, spaces_append hfront, hspaces]
  simp only [hat, bind, Except.bind]

theorem endsDocument_of_blank {back : List Char} (h : ∀ c ∈ back, isSpace c = true) (fuel : Nat) :
    endsDocument (fuel + 1) back = .ok () := by
  have hspaces : spaces back = [] := by
    have happend := spaces_append h []
    rwa [List.append_nil] at happend
  have htoken : token back = .ok (none, []) := by rw [token, hspaces]
  rw [endsDocument, miscellany, htoken]
  simp only [bind, Except.bind, hspaces]
  rfl

theorem declaration_of_settings {inner : List Char} {front : Declaration}
    (hsettings : settings (' ' :: inner) = .ok front)
    (hupTo : upTo "?>".toList (' ' :: (inner ++ ("?>".toList ++ tail))) = some (' ' :: inner, tail)) :
    declaration ("<?xml".toList ++ ' ' :: (inner ++ ("?>".toList ++ tail))) =
      .ok ({ front with encoding := front.encoding.map fun (name, place) =>
        (name, place ++ ("?>".toList ++ tail)) }, tail) := by
  generalize hrest : ' ' :: (inner ++ ("?>".toList ++ tail)) = rest at hupTo
  have hafter : Text.after? "<?xml".toList ("<?xml".toList ++ rest) = some rest := rfl
  have hinstruction : ∀ start, instruction start (("<?xml".toList ++ rest).drop 2) =
      .ok (some (' ' :: inner), tail) := by
    intro start
    have hdrop : ("<?xml".toList ++ rest).drop 2 = "xml".toList ++ rest := rfl
    have hname : isSimpleName "xml" = true := by decide
    have hends : endsName rest = true := by
      rw [← hrest]
      rfl
    have hcase : (asciiUpper "xml" == "XML" && "xml" != "xml") = false := by simp
    rw [instruction, hdrop, simpleName_append hname start hends]
    simp only [bind, Except.bind, hcase, Bool.false_eq_true, if_false, hupTo]
    rw [← hrest]
    rfl
  rw [declaration, hafter]
  dsimp only
  rw [hinstruction]
  simp only [bind, Except.bind, hsettings]
  rfl

/-- A document whose root opens behind blanks is read from its root on, and nothing else may follow. -/
theorem documentOf_of_opensName (front : List Char) (hfront : ∀ c ∈ front, isSpace c = true)
    (hopens : opensName c = true) (cs : List Char) {all : List Char}
    (hall : all = front ++ '<' :: c :: cs) :
    documentOf .tree false all =
      element .tree {} outerScope []
          (fun inner cs => content .tree {} (all.length + 4) inner [] cs) ('<' :: c :: cs) >>=
        fun taken => endsDocument (all.length + 2) taken.2 >>= fun _ => .ok taken.1 := by
  have hlate := token_of_opensName front hfront hopens cs
  have hearly : token ('<' :: c :: cs) = .ok (some .tag, '<' :: c :: cs) :=
    token_of_opensName [] (by simp) hopens cs
  have hspaces : spaces (front ++ '<' :: c :: cs) = '<' :: c :: cs := spaces_append hfront _
  rw [← hall] at hlate hspaces
  generalize '<' :: c :: cs = rest at hearly hlate hspaces ⊢
  have hmiscellany : miscellany (all.length + 2) all = .ok rest := by
    rw [miscellany, hlate]
    simp only [bind, Except.bind, hspaces]
  have hword : word rest = .ok (.tag, rest) := by
    rw [word, hearly]
    rfl
  have hdepth : Entities.depth {} (all.length + 2) = all.length + 4 := by
    simp [Entities.depth, Entities.size]
  have hroot : documentOf .tree false all = rootOf .tree {} (all.length + 2) rest := by
    simp only [documentOf, hmiscellany, hword, bind, Except.bind]
  rw [hroot, rootOf, hword]
  simp only [hdepth]
  rfl

theorem documentOf_of_isRead (h : IsRead es root)
    (front back : List Char) (hfront : ∀ c ∈ front, isSpace c = true)
    (hback : ∀ c ∈ back, isSpace c = true) :
    documentOf .tree false (front ++ (es ++ back)) = .ok root := by
  have hread := h.reads back ((front ++ (es ++ back)).length + 4) (by simp; omega)
  obtain ⟨c, cs, rfl, hopens⟩ := h.opens
  simp only [List.cons_append] at hread ⊢
  rw [documentOf_of_opensName front hfront hopens (cs ++ back) rfl, hread]
  simp only [bind, Except.bind, endsDocument_of_blank hback]

theorem read_of_isRead (h : IsRead es root)
    (hes : ∀ d ∈ es, isPlainChar d = true) (back : List Char)
    (hback : ∀ c ∈ back, isSpace c = true) (hplain : ∀ c ∈ back, isPlainChar c = true) :
    read .tree (String.ofList (es ++ back)).toUTF8 = .ok root := by
  obtain ⟨c, cs, hchars, hopens⟩ := h.opens
  have hc : c ≠ '?' := ne_of_opensName hopens (by decide)
  have hlist : (String.ofList (es ++ back)).toList = es ++ back := String.toList_ofList
  have hopen : es ++ back = '<' :: c :: (cs ++ back) := by rw [hchars]; rfl
  have hfront : declaration (String.ofList (es ++ back)).toList = .ok ({}, es ++ back) := by
    rw [hlist, hopen, declaration_of_tag hc]
  have hdocument : documentOf .tree false (es ++ back) = .ok root :=
    documentOf_of_isRead h [] back (by simp) hback
  refine read_of_plain (hlist.trans hopen) ?_ hfront (fun _ h => nomatch h) hdocument
  rw [hlist, List.forall_mem_append]
  exact ⟨hes, hplain⟩

theorem read_documentText (h : root.Kept) (hheight : root.height ≤ maxHeight) :
    read .tree (Text.encoded (documentText root).1) = .ok root := by
  have hread := read_of_isRead h.isRead h.plain [] (by simp) (by simp)
  rw [List.append_nil] at hread
  rw [documentText_of_kept h hheight, encoded_of_plain, hread]
  rw [String.toList_ofList]
  exact h.plain

end DroidAudit.Xml
