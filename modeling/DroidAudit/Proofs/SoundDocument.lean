import DroidAudit.Proofs.SoundDeclarations

/-! Documents that were read are sound: they hold only characters that a document may hold, the
parts of their names consist of characters of names, their namespaces are ones that a label may
stand for, and no element has an attribute twice. Main statement: `read_sound`. -/
namespace DroidAudit.Xml

/-! Tags. -/

variable {cs : List Char} {w : Way} {label space : String} {scope : Scope} {e : Element}
  {name : Name} {items : List Item}

theorem rawValue_legal (start : List Char) (quote : Char) (h : Legal cs) :
    Yields (fun taken => Legal taken.1 ∧ Legal taken.2) (rawValue start quote cs) := by
  induction cs with
  | nil => exact .ending _ _
  | cons c cs ih =>
    rw [rawValue]
    split
    · exact .ok ⟨.nil, h⟩
    · split
      · exact .fault _ _
      · dsimp only
        split
        · exact .thenRead fun _ => (ih h.tail).bind fun taken htaken =>
            .ok ⟨.cons h.head htaken.1, htaken.2⟩
        · exact (ih h.tail).bind fun taken htaken => .ok ⟨.cons h.head htaken.1, htaken.2⟩

theorem quotedValue_legal (start : List Char) (h : Legal cs) :
    Yields (fun taken => Legal taken.1 ∧ Legal taken.2) (quotedValue start cs) := by
  unfold quotedValue
  have hspaces := h.spaces
  split
  · rename_i heq
    rw [heq] at hspaces
    have hbehind := hspaces.tail.spaces
    split
    · rename_i heq
      rw [heq] at hbehind
      split
      · exact rawValue_legal _ _ hbehind.tail
      · exact .broken _ _
    · exact .broken _ _
  · exact .broken _ _

theorem rawAttributes_sound (start : List Char) (fuel : Nat) (h : Legal cs) :
    Yields (fun taken => (∀ a ∈ taken.1.1, IsPart a.part ∧ Legal a.value) ∧ Legal taken.2)
      (rawAttributes start fuel cs) := by
  induction fuel generalizing cs with
  | zero => exact .broken _ _
  | succ fuel ih =>
    have hspaces := h.spaces
    rw [rawAttributes]
    split
    · rename_i heq
      rw [heq] at hspaces
      exact .ok ⟨by simp, hspaces.tail⟩
    · rename_i heq
      rw [heq] at hspaces
      exact .ok ⟨by simp, hspaces.tail.tail⟩
    · exact .broken _ _
    · split
      · exact .broken _ _
      · refine (labelledName_sound start hspaces).bind ?_
        rintro ⟨⟨label, part⟩, rest⟩ ⟨hpart, hrest⟩
        refine (quotedValue_legal start hrest).bind ?_
        rintro ⟨value, rest⟩ ⟨hvalue, hrest⟩
        refine (ih (hrest.drop 1)).bind ?_
        rintro ⟨⟨more, empty⟩, behind⟩ ⟨hmore, hbehind⟩
        exact .ok ⟨List.forall_mem_cons.mpr ⟨⟨hpart, hvalue⟩, hmore⟩, hbehind⟩

/-- A namespace that a name may be in: none, the reserved one, or one that any label may stand
for. -/
def Admissible (w : Way) (space : String) : Prop :=
  space = "" ∨ space = xmlSpace ∨
    (IsLegalText space ∧ space ≠ declarationSpace ∧ w.separator ∉ space.toList)

/-- Labels stand for namespaces that names may be in, and all but the default for one that has a
name. -/
def Scope.Sound (w : Way) (scope : Scope) : Prop :=
  ∀ entry ∈ scope, Admissible w entry.2 ∧ (entry.1 ≠ "" → entry.2 ≠ "")

theorem Scope.Sound.append {s t : Scope} (hs : s.Sound w) (ht : t.Sound w) :
    Scope.Sound w (s ++ t) := List.forall_mem_append.mpr ⟨hs, ht⟩

theorem outerScope_sound (w : Way) : outerScope.Sound w := by
  refine List.forall_mem_singleton.mpr ⟨.inr (.inl rfl), fun _ => ?_⟩
  simp [xmlSpace]

theorem spaceOf_sound (h : scope.Sound w) (hspace : spaceOf scope label = some space) :
    Admissible w space ∧ (label ≠ "" → space ≠ "") := by
  obtain ⟨entry, hfind, rfl⟩ := Option.map_eq_some_iff.mp hspace
  have hentry : entry.1 = label := by simpa using List.find?_some hfind
  exact hentry ▸ h entry (List.mem_of_find?_eq_some hfind)

theorem standProblem?_unbound
    (h : standProblem? w label space = none) (hlabel : label ≠ "") : space ≠ "" := by
  rintro rfl
  simp [standProblem?, hlabel] at h

theorem standProblem?_admissible (hlegal : IsLegalText space)
    (h : standProblem? w label space = none) : Admissible w space := by
  unfold standProblem? at h
  split at h
  · cases h
  split at h
  · cases h
  split at h
  · cases h
  split at h
  · cases h
  split at h
  · cases h
  rename_i hseparator hxml hreserved
  by_cases hlabel : label = "xml"
  · exact .inr (.inl (by simpa [hlabel] using hxml))
  · refine .inr (.inr ⟨hlegal, ?_, by simpa using hseparator⟩)
    have hother : ¬space = xmlSpace ∧ ¬space = declarationSpace := by simpa [hlabel] using hreserved
    exact hother.2

/-- An attribute whose name has a proper part and whose value is legal. -/
def Given.Sound (g : Given) : Prop := IsPart g.2.1 ∧ IsLegalText g.2.2

theorem declaredBy_sound (w : Way) (word : List Char) {given : Given} (h : given.Sound) :
    Yields (Scope.Sound w) (declaredBy w word given) := by
  unfold declaredBy
  split
  · exact .ok (by simp [Scope.Sound])
  · split
    · exact .fault _ _
    · rename_i hstands
      refine .ok (List.forall_mem_singleton.mpr ⟨standProblem?_admissible h.2 hstands, fun hlabel => ?_⟩)
      exact standProblem?_unbound hstands hlabel

theorem givenAttributes_sound (w : Way) {d : DocumentType} (hd : d.Sound) (inside : List String)
    (word : List Char) (element : String) (seen : List String) {raw : List RawAttribute}
    (h : ∀ a ∈ raw, IsPart a.part ∧ Legal a.value) :
    Yields (fun r => (∀ g ∈ r.1, Given.Sound g) ∧ r.2.Sound w)
      (givenAttributes w d inside word element seen raw) := by
  induction raw generalizing seen with
  | nil => exact .ok (by simp [Scope.Sound])
  | cons a rest ih =>
    obtain ⟨ha, hrest⟩ := List.forall_mem_cons.mp h
    rw [givenAttributes]
    split
    · exact .fault _ _
    · refine (attributeValue_legal hd.entities _ _ inside ha.2).bind fun value hvalue => ?_
      refine (declaredBy_sound w word ⟨ha.1, hvalue⟩).bind fun declared hdeclared => ?_
      refine (ih _ hrest).bind fun more hmore => .ok ⟨?_, hdeclared.append hmore.2⟩
      exact List.forall_mem_cons.mpr ⟨⟨ha.1, hvalue⟩, hmore.1⟩

theorem defaultAttributes_sound {d : DocumentType} (hd : d.Sound) (element : String)
    (written : List String) : ∀ g ∈ defaultAttributes d element written, Given.Sound g := by
  intro g hg
  obtain ⟨r, hr, hg⟩ := List.mem_filterMap.mp hg
  split at hg
  · cases hg
  · obtain ⟨value, hvalue, rfl⟩ := Option.map_eq_some_iff.mp hg
    exact ⟨(hd.rules r hr).1, (hd.rules r hr).2 value hvalue⟩

/-! Elements. -/

structure Name.Sound (w : Way) (n : Name) : Prop where
  part : IsPart n.part
  space : Admissible w n.space

/-- What makes two attributes the same. -/
def Attribute.key (a : Attribute) : String × String := (a.name.space, a.name.part)

structure Attribute.Sound (w : Way) (a : Attribute) : Prop where
  name : a.name.Sound w
  notDeclaring : a.name.space = "" → a.name.part ≠ "xmlns"
  form : a.form = .escaped
  value : IsLegalText a.value

inductive Element.Sound (w : Way) : Element → Prop
  | mk {name : Name} {attributes : List Attribute} {text : String}
      {children : List (Element × String)} :
      name.Sound w → (∀ a ∈ attributes, a.Sound w) → (attributes.map Attribute.key).Nodup →
      IsLegalText text → (∀ c ∈ children, Element.Sound w c.1) → (∀ c ∈ children, IsLegalText c.2) →
      Element.Sound w (.mk name attributes (some text) children)

theorem Element.Sound.attributes (h : e.Sound w) : ∀ a ∈ e.attributes, a.Sound w := by
  cases h with
  | mk _ hattributes => exact hattributes

theorem Element.Sound.of_mem_all {d : Element} (h : e.Sound w) (hd : d ∈ e.all) : d.Sound w := by
  induction h with
  | mk hname hattributes hnodup htext hchildren htails ih =>
    rw [Element.all, Element.allOfChildren_eq] at hd
    rcases List.mem_cons.mp hd with rfl | hd
    · exact .mk hname hattributes hnodup htext hchildren htails
    · obtain ⟨c, hc, hd⟩ := List.mem_flatMap.mp hd
      exact ih c hc hd

theorem attributeName_sound (hscope : scope.Sound w) {given : Given}
    (hgiven : given.Sound) (hdeclares : declaredLabel given.1 given.2.1 = none)
    (h : attributeName scope given.1 given.2.1 = some name) :
    Attribute.Sound w ⟨name, given.2.2, .escaped⟩ := by
  obtain ⟨label, part, value⟩ := given
  unfold attributeName at h
  split at h
  · rename_i hlabel
    cases h
    refine ⟨⟨hgiven.1, .inl rfl⟩, fun _ => ?_, rfl, hgiven.2⟩
    obtain rfl : label = "" := String.isEmpty_iff.mp hlabel
    simpa [declaredLabel, Name.plain] using hdeclares
  · rename_i hlabel
    obtain ⟨space, hspace, rfl⟩ := Option.map_eq_some_iff.mp h
    obtain ⟨hadmissible, hnamed⟩ := spaceOf_sound hscope hspace
    have hne : label ≠ "" := fun hempty => hlabel (String.isEmpty_iff.mpr hempty)
    exact ⟨⟨hgiven.1, hadmissible⟩, fun hempty => absurd hempty (hnamed hne), rfl, hgiven.2⟩

theorem elementName_sound (hscope : scope.Sound w) {part : String}
    (hpart : IsPart part) (h : elementName scope label part = some name) :
    name.Sound w := by
  unfold elementName at h
  split at h
  · cases h
    refine ⟨hpart, ?_⟩
    cases hspace : spaceOf scope "" with
    | none => exact .inl rfl
    | some space => exact (spaceOf_sound hscope hspace).1
  · obtain ⟨space, hspace, rfl⟩ := Option.map_eq_some_iff.mp h
    exact ⟨hpart, (spaceOf_sound hscope hspace).1⟩

/-- Attributes that are sound, and none of which is there twice or among those in front. -/
def AttributesSound (w : Way) (seen : List (String × String)) (attributes : List Attribute) :
    Prop :=
  (∀ a ∈ attributes, a.Sound w ∧ a.key ∉ seen) ∧ (attributes.map Attribute.key).Nodup

theorem namedAttributes_sound (hscope : scope.Sound w)
    (word : List Char) (seen : List (String × String)) {given : List Given}
    (h : ∀ g ∈ given, Given.Sound g) :
    Yields (AttributesSound w seen) (namedAttributes scope word seen given) := by
  induction given generalizing seen with
  | nil => exact .ok ⟨by simp, by simp⟩
  | cons g rest ih =>
    obtain ⟨label, part, value⟩ := g
    obtain ⟨hg, hrest⟩ := List.forall_mem_cons.mp h
    rw [namedAttributes]
    split
    · exact ih seen hrest
    · rename_i hdeclares
      split
      · exact .fault _ _
      · rename_i name hname
        have hdeclares : declaredLabel label part = none := by simpa using hdeclares
        have hsound := attributeName_sound hscope hg hdeclares hname
        split
        · exact .fault _ _
        · rename_i hseen
          have hseen : (name.space, name.part) ∉ seen := by simpa using hseen
          refine (ih _ hrest).bind fun more hmore => .ok ⟨?_, ?_⟩
          · refine List.forall_mem_cons.mpr ⟨⟨hsound, hseen⟩, fun a ha => ?_⟩
            exact ⟨(hmore.1 a ha).1, fun hmem => (hmore.1 a ha).2 (List.mem_cons_of_mem _ hmem)⟩
          · refine List.nodup_cons.mpr ⟨fun hmem => ?_, hmore.2⟩
            obtain ⟨a, ha, hkey⟩ := List.mem_map.mp hmem
            have hkey : a.key = (name.space, name.part) := hkey
            exact (hmore.1 a ha).2 (hkey ▸ List.mem_cons_self)

theorem startTag_sound {d : DocumentType} (hd : d.Sound)
    (hscope : scope.Sound w) (inside : List String) (word : List Char) (label : String)
    {part : String} (hpart : IsPart part) {raw : List RawAttribute}
    (h : ∀ a ∈ raw, IsPart a.part ∧ Legal a.value) :
    Yields (fun r => r.1.Sound w ∧ AttributesSound w [] r.2.1 ∧ r.2.2.Sound w)
      (startTag w d scope inside word label part raw) := by
  refine (givenAttributes_sound w hd inside word _ [] h).bind ?_
  rintro ⟨given, declared⟩ ⟨hgiven, hdeclared⟩
  have hdefaults := defaultAttributes_sound hd (writtenAs label part)
    (raw.map fun a => writtenAs a.label a.part)
  dsimp only
  generalize defaultAttributes d _ _ = defaults at hdefaults
  have hmapped : Yields (fun scopes => ∀ s ∈ scopes, Scope.Sound w s)
      (defaults.mapM (declaredBy w word)) := by
    induction defaults with
    | nil => exact .ok (by simp)
    | cons g rest ih =>
      obtain ⟨hg, hrest⟩ := List.forall_mem_cons.mp hdefaults
      rw [List.mapM_cons]
      refine (declaredBy_sound w word hg).bind fun s hs => (ih hrest).bind fun more hmore => ?_
      exact .ok (List.forall_mem_cons.mpr ⟨hs, hmore⟩)
  refine hmapped.bind fun declaredToo hdeclaredToo => ?_
  have hsound : Scope.Sound w (declared ++ declaredToo.flatten ++ scope) := by
    refine .append (.append hdeclared fun entry hentry => ?_) hscope
    obtain ⟨s, hs, hentry⟩ := List.mem_flatten.mp hentry
    exact hdeclaredToo s hs entry hentry
  refine (namedAttributes_sound hsound word [] ?_).bind fun attributes hattributes => ?_
  · exact List.forall_mem_append.mpr ⟨hgiven, hdefaults⟩
  split
  · exact .fault _ _
  · rename_i name hname
    refine .ok ⟨elementName_sound hsound hpart hname, ?_, hsound⟩
    dsimp only
    split
    · exact hattributes
    · refine ⟨fun a ha => hattributes.1 a (List.mem_of_mem_take ha), ?_⟩
      exact hattributes.2.sublist ((List.take_sublist _ _).map _)

def ItemsSound (w : Way) (items : List Item) : Prop :=
  (∀ cs, Item.text cs ∈ items → Legal cs) ∧ ∀ e, Item.element e ∈ items → e.Sound w

theorem ItemsSound.nil (w : Way) : ItemsSound w [] := by simp [ItemsSound]

theorem ItemsSound.text (w : Way) (h : Legal cs) : ItemsSound w [.text cs] := by
  refine ⟨fun ds hds => ?_, by simp⟩
  obtain ⟨rfl⟩ := List.mem_singleton.mp hds
  exact h

theorem ItemsSound.element (h : e.Sound w) : ItemsSound w [.element e] := by
  refine ⟨by simp, fun d hd => ?_⟩
  obtain ⟨rfl⟩ := List.mem_singleton.mp hd
  exact h

theorem ItemsSound.append {more : List Item} (h : ItemsSound w items)
    (hmore : ItemsSound w more) : ItemsSound w (items ++ more) :=
  ⟨fun cs hcs => (List.mem_append.mp hcs).elim (h.1 cs) (hmore.1 cs),
    fun e he => (List.mem_append.mp he).elim (h.2 e) (hmore.2 e)⟩

theorem gather_sound (h : ItemsSound w items) :
    Legal (gather items).1 ∧ (∀ c ∈ (gather items).2, c.1.Sound w) ∧
      ∀ c ∈ (gather items).2, IsLegalText c.2 := by
  induction items with
  | nil => exact ⟨.nil, by simp [gather], by simp [gather]⟩
  | cons item rest ih =>
    obtain ⟨htext, hchildren, htails⟩ := ih ⟨fun cs hcs => h.1 cs (by simp [hcs]),
      fun e he => h.2 e (by simp [he])⟩
    cases item with
    | text cs => exact ⟨(h.1 cs (by simp)).append htext, hchildren, htails⟩
    | element e =>
      exact ⟨.nil, List.forall_mem_cons.mpr ⟨h.2 e (by simp), hchildren⟩,
        List.forall_mem_cons.mpr ⟨⟨_, rfl, htext⟩, htails⟩⟩

theorem makeElement_sound (hname : name.Sound w)
    {attributes : List Attribute} (h : AttributesSound w [] attributes)
    (hitems : ItemsSound w items) : (makeElement name attributes items).Sound w := by
  obtain ⟨htext, hchildren, htails⟩ := gather_sound hitems
  exact .mk hname (fun a ha => (h.1 a ha).1) h.2 ⟨_, rfl, htext⟩ hchildren htails

theorem endTag_legal (start : List Char) (h : Legal cs) :
    Yields (fun taken => Legal taken.2) (endTag start cs) := by
  unfold endTag
  refine .thenRead fun _ => ?_
  dsimp only
  have hdrop := (h.drop (cs.takeWhile fun c => continuesName c || c == ':').length).spaces
  split
  · rename_i heq
    rw [heq] at hdrop
    exact .ok hdrop.tail
  · exact .broken _ _

theorem element_sound {d : DocumentType} (hd : d.Sound)
    (hscope : scope.Sound w) (inside : List String)
    {inner : Scope → List Char → Except Fault (Taken (List Item))}
    (hinner : ∀ s cs, s.Sound w → Legal cs →
      Yields (fun taken => ItemsSound w taken.1 ∧ Legal taken.2) (inner s cs))
    {word : List Char} (h : Legal word) :
    Yields (fun taken => taken.1.Sound w ∧ Legal taken.2) (element w d scope inside inner word) := by
  refine (labelledName_sound word (h.drop 1)).bind ?_
  rintro ⟨⟨label, part⟩, rest⟩ ⟨hpart, hrest⟩
  refine (rawAttributes_sound word _ hrest).bind ?_
  rintro ⟨⟨raw, empty⟩, rest⟩ ⟨hraw, hrest⟩
  refine (startTag_sound hd hscope inside word label hpart hraw).bind ?_
  rintro ⟨name, attributes, scope⟩ ⟨hname, hattributes, hsound⟩
  dsimp only
  split
  · exact .ok ⟨makeElement_sound hname hattributes (.nil w), hrest⟩
  · refine (hinner scope rest hsound hrest).bind fun taken htaken => ?_
    split
    · refine (endTag_legal _ htaken.2.tail.tail).bind fun written hwritten => ?_
      split
      · exact .fault _ _
      · exact .ok ⟨makeElement_sound hname hattributes htaken.1, hwritten⟩
    · exact .ending _ _

/-! Documents. -/

theorem plainSection_legal (start : List Char) (h : Legal cs) :
    Yields (fun taken => Legal taken.1 ∧ Legal taken.2) (plainSection start cs) := by
  unfold plainSection
  dsimp only
  split
  · rename_i hafter
    split
    · rename_i hup
      exact .ok ((h.after? hafter).upTo hup)
    · exact .ending _ _
  · split
    · exact .ending _ _
    · exact .fault _ _

theorem plainText_legal (h : Legal cs) :
    Yields (fun taken => Legal taken.1 ∧ Legal taken.2) (plainText cs) := by
  unfold plainText
  dsimp only
  split
  · exact .error _
  · exact .ok ⟨h.takeWhile _, h.drop _⟩

/-- Content is read piece by piece. Its characters are those that stand here, those that are
referred to, and those of the texts that entities stand for. -/
theorem content_sound {d : DocumentType} (hd : d.Sound) (fuel : Nat)
    (hscope : scope.Sound w) (inside : List String) (h : Legal cs) :
    Yields (fun taken => ItemsSound w taken.1 ∧ Legal taken.2) (content w d fuel scope inside cs) := by
  induction fuel generalizing scope inside cs with
  | zero => exact .ending _ _
  | succ fuel ih =>
    -- after each piece, the rest is content of the same scope
    have hfollowing {items : List Item} (hitems : ItemsSound w items) {rest : List Char}
        (hrest : Legal rest) :
        Yields (fun taken => ItemsSound w taken.1 ∧ Legal taken.2)
          (content w d fuel scope inside rest >>= fun more => Except.ok (items ++ more.1, more.2)) :=
      (ih hscope inside hrest).bind fun more hmore => .ok ⟨hitems.append hmore.1, hmore.2⟩
    have hchar {c : Char} (hc : isLegal c = true) : ItemsSound w [.text [c]] :=
      .text w (.cons hc .nil)
    unfold content
    dsimp only
    split
    · exact .ok ⟨.nil w, .nil⟩
    · exact .ok ⟨.nil w, h⟩
    · exact (comment_sound _ h.tail.tail.tail.tail).bind fun rest hrest => hfollowing (.nil w) hrest
    · exact .broken _ _
    · refine (plainSection_legal _ h.tail.tail.tail).bind ?_
      rintro ⟨text, rest⟩ ⟨htext, hrest⟩
      exact hfollowing (.text w htext) hrest
    · exact .broken _ _
    · refine (instruction_sound _ h.tail.tail).bind fun taken htaken => ?_
      split
      · exact hfollowing (.nil w) htaken
      · exact .fault _ _
    · refine (element_sound hd hscope inside (fun s cs hs hcs => ih hs inside hcs) h).bind ?_
      rintro ⟨e, rest⟩ ⟨he, hrest⟩
      exact hfollowing (.element he) hrest
    · -- a reference, which gives a character or what an entity stands for
      refine (reference_sound _ h.tail).bind ?_
      rintro ⟨r, rest⟩ ⟨hr, hrest⟩
      dsimp only
      split
      · exact hfollowing (hchar (hr _ rfl)) hrest
      · exact .fault _ _
      · split
        · exact .fault _ _
        · split
          · rename_i hname
            exact hfollowing (hchar (predefined_legal hname)) hrest
          · rename_i hget
            split
            · exact .fault _ _
            · split
              · rename_i items hitems
                exact hfollowing (ih hscope _ (hd.entities.get? hget) _ hitems).1 hrest
              · split
                · exact .fault _ _
                · exact .error _
              · exact .error _
          · exact .fault _ _
          · split
            · exact hfollowing (.nil w) hrest
            · exact .fault _ _
          · split
            · exact .fault _ _
            · split
              · exact hfollowing (.nil w) hrest
              · exact .fault _ _
    · refine (plainText_legal h).bind ?_
      rintro ⟨text, rest⟩ ⟨htext, hrest⟩
      exact hfollowing (.text w htext) hrest

theorem rootOf_sound (w : Way) {d : DocumentType} (hd : d.Sound) (fuel : Nat)
    (h : Legal cs) : Yields (Element.Sound w) (rootOf w d fuel cs) := by
  refine (word_sound h).bind fun taken htaken => ?_
  split
  · refine (element_sound hd (outerScope_sound w) []
      (fun s cs hs hcs => content_sound hd _ hs [] hcs) htaken.2).bind ?_
    rintro ⟨root, behind⟩ ⟨hroot, -⟩
    exact .thenRead fun _ => .ok hroot
  · exact .misplaced _ _ _

theorem documentOf_sound (w : Way) (standalone : Bool) (h : Legal cs) :
    Yields (Element.Sound w) (documentOf w standalone cs) := by
  refine (miscellany_legal _ h).bind fun front hfront => ?_
  refine (word_sound hfront).bind fun taken htaken => ?_
  split
  · refine (documentType_sound w standalone _ htaken.2).bind fun d hd => ?_
    exact (miscellany_legal _ hd.2).bind fun rest hrest => rootOf_sound w (hd.1.measured rest) _ hrest
  · exact rootOf_sound w (.empty standalone 0) _ hfront

/-! The characters of a document. -/

theorem ofChars_legal (cs : List Char) (e : Ending) : Legal (Source.ofChars cs e).chars :=
  Legal.unifyNewlines fun _ hc => List.mem_takeWhile_imp hc

theorem sourceBy_legal (head : List UInt8 → Text.Head Unit) (bytes : List UInt8) :
    Legal (sourceBy head bytes).chars := by
  unfold sourceBy
  split <;> exact ofChars_legal _ _

theorem utf8Source_legal (bytes : List UInt8) : Legal (utf8Source bytes).chars := by
  unfold utf8Source
  split <;> exact ofChars_legal _ _

theorem Yields.run {α : Type} {P : α → Prop} (s : Source) {r : Except Fault α} (h : Yields P r) :
    Yields P (s.run r) := h.mapError _

theorem eightBitSource_legal (marked : Bool) (bytes : List UInt8) :
    Yields (fun s => Legal s.chars) (eightBitSource marked bytes) := by
  have hutf8 : Legal (utf8Source bytes).chars := utf8Source_legal bytes
  have htabled (p : Text.CodePage) : Legal (tabledSource p bytes).chars := sourceBy_legal _ _
  unfold eightBitSource
  refine .thenRead fun front => ?_
  dsimp only
  split
  · exact .ok hutf8
  · split
    · exact .ok hutf8
    · exact .ok (htabled _)
    · exact .ok (htabled _)
    · exact .run _ (.fault _ _)
    · refine .thenRead fun table => ?_
      split
      · exact .ok (htabled _)
      · exact .run _ (.fault _ _)

theorem sixteenBitSource_legal (marked : Bool) (order : Text.ByteOrder) (bytes : List UInt8) :
    Yields (fun s => Legal s.chars) (sixteenBitSource marked order bytes) := by
  have hunits := sourceBy_legal (unitHead order) (bytes.take (bytes.length / 2 * 2))
  unfold sixteenBitSource
  refine .thenRead fun front => ?_
  dsimp only
  split
  · exact .ok hunits
  · split
    · exact .ok hunits
    · split
      · exact .ok hunits
      · exact .run _ (.fault _ _)
    · split
      · exact .run _ (.fault _ _)
      · exact .ok hunits
    · exact .run _ (.fault _ _)
    · refine .thenRead fun table => ?_
      split
      · exact .run _ (.fault _ _)
      · exact .run _ (.fault _ _)

theorem sourceOf_legal (bytes : List UInt8) :
    Yields (fun s => Legal s.chars) (sourceOf bytes) := by
  unfold sourceOf
  split
  · exact sixteenBitSource_legal _ _ _
  · exact sixteenBitSource_legal _ _ _
  · exact eightBitSource_legal _ _
  · exact sixteenBitSource_legal _ _ _
  · exact sixteenBitSource_legal _ _ _
  · exact eightBitSource_legal _ _

theorem declaration_legal (h : Legal cs) :
    Yields (fun taken => Legal taken.2) (declaration cs) := by
  unfold declaration
  split
  · exact .ok h
  · refine (instruction_sound cs (h.drop 2)).bind fun taken htaken => ?_
    split
    · exact .ok h
    · exact .thenRead fun d => .ok htaken

theorem read_sound (w : Way) (bytes : ByteArray) : Yields (Element.Sound w) (read w bytes) := by
  refine (sourceOf_legal bytes.toList).bind fun source hsource => ?_
  refine (Yields.run source (declaration_legal hsource)).bind ?_
  rintro ⟨front, rest⟩ hrest
  refine (Yields.run source (documentOf_sound w front.standalone hrest)).bind fun root hroot => ?_
  split
  · exact .ok hroot
  · exact .run _ (.ending _ _)

end DroidAudit.Xml
