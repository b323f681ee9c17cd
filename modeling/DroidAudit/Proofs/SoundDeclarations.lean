import DroidAudit.Proofs.LegalText

/-! Words of declarations, and the document type. Its rules give attributes proper names and legal
values, and its entities stand for legal text. -/
namespace DroidAudit.Xml

/-! Words of declarations. -/

/-- A word whose text holds only characters that a document may hold, and whose name can be cut at
its colon. -/
def Token.Sound : Token → Prop
  | .name s | .labelled s => IsPart (cutName s).2
  | .literal cs => Legal cs
  | _ => True

theorem length_splitAt (mark : Char) (cs : List Char) :
    (Text.splitAt mark cs).length = cs.count mark + 1 := by
  induction cs with
  | nil => rfl
  | cons c cs ih =>
    rw [Text.splitAt, List.count_cons, Nat.add_right_comm, ← ih]
    split
    · rfl
    · cases hsplit : Text.splitAt mark cs with
      | nil => simp [hsplit] at ih
      | cons piece rest => rfl

theorem cutName_sound {run : List Char} (hrun : ∀ c ∈ run, (continuesName c || c == ':') = true)
    (hne : run ≠ [])
    (hsplit : (∃ piece, Text.splitAt ':' run = [piece]) ∨
      ∃ label part, Text.splitAt ':' run = [label, part] ∧ part ≠ []) :
    IsPart (cutName (String.ofList run)).2 := by
  have hlength := length_splitAt ':' run
  rcases hsplit with ⟨piece, hsplit⟩ | ⟨label, part, hsplit, hpart⟩
  · have hcolon : ':' ∉ run := by
      rw [hsplit, List.length_singleton] at hlength
      exact List.count_eq_zero.mp (by omega)
    have hcut : cutName (String.ofList run) = ("", String.ofList run) := by
      rw [cutName, String.toList_ofList, hsplit]
    rw [hcut]
    refine ⟨by simpa using hne, fun c hc => ?_⟩
    rw [String.toList_ofList] at hc
    have hc' : c ≠ ':' := fun heq => hcolon (heq ▸ hc)
    simpa [hc'] using hrun c hc
  · have hcut : cutName (String.ofList run) = (String.ofList label, String.ofList part) := by
      rw [cutName, String.toList_ofList, hsplit]
    rw [hcut]
    have hpiece : part ∈ Text.splitAt ':' run := by simp [hsplit]
    refine ⟨by simpa using hpart, fun c hc => ?_⟩
    rw [String.toList_ofList] at hc
    obtain ⟨hcolon, hmem⟩ := Text.of_mem_splitAt hpiece c hc
    simpa [hcolon] using hrun c hmem

theorem nameWord_sound {start : List Char} (h : Legal start) :
    Yields (fun taken => taken.1.Sound ∧ Legal taken.2) (nameWord start) := by
  unfold nameWord
  extract_lets isPart run rest isName word
  have hrun : ∀ c ∈ run, (continuesName c || c == ':') = true := fun c hc =>
    List.mem_takeWhile_imp (p := isPart) hc
  have hrest : Legal rest := h.drop _
  split
  · exact .broken _ _
  · rename_i hempty
    have hne : run ≠ [] := by simpa using hempty
    have hword : word.Sound := by
      unfold word
      split
      · rename_i hsplit
        split
        · exact cutName_sound hrun hne (.inl ⟨_, hsplit⟩)
        · trivial
      · rename_i hsplit
        split
        · rename_i hname
          simp only [Bool.and_eq_true, Bool.not_eq_true', List.isEmpty_eq_false_iff] at hname
          exact cutName_sound hrun hne (.inr ⟨_, _, hsplit, hname.2⟩)
        · trivial
      · trivial
    clear_value word rest
    split
    · split
      · exact .ending _ _
      · exact .ok ⟨hword, .nil⟩
    · split
      · exact .ok ⟨hword, hrest⟩
      · split
        · split
          · exact .broken _ _
          · exact .ok ⟨trivial, hrest.tail⟩
        · exact .broken _ _

variable {cs : List Char}

theorem declarationWord_sound (start : List Char) (h : Legal cs) :
    Yields (fun taken => taken.1.Sound ∧ Legal taken.2) (declarationWord start cs) := by
  unfold declarationWord
  split
  · exact (comment_sound start h.tail.tail).bind fun rest hrest => .ok ⟨trivial, hrest⟩
  · exact .broken _ _
  · exact .ok ⟨trivial, h.tail⟩
  · dsimp only
    have hdrop := h.drop (cs.takeWhile isKeywordPart).length
    split
    · exact .broken _ _
    · split
      · split
        · exact .fault _ _
        · exact .ok ⟨trivial, hdrop⟩
      · exact .ending _ _
      · split
        · exact .ok ⟨trivial, hdrop⟩
        · exact .broken _ _
      · exact .broken _ _

theorem bracketWord_sound {start : List Char} (hstart : Legal start) (h : Legal cs) :
    Yields (fun taken => taken.1.Sound ∧ Legal taken.2) (bracketWord start cs) := by
  unfold bracketWord
  split
  · exact declarationWord_sound start h.tail
  · refine (instruction_sound start h.tail).bind fun taken htaken => .ok ⟨?_, htaken⟩
    split <;> trivial
  · split
    · exact .ok ⟨trivial, hstart⟩
    · exact .broken _ _
  · exact .broken _ _

theorem percentWord_sound (start : List Char) (h : Legal cs) :
    Yields (fun taken => taken.1.Sound ∧ Legal taken.2) (percentWord start cs) := by
  unfold percentWord
  split
  · exact .ok ⟨trivial, h⟩
  · refine (simpleName_sound start h).bind ?_
    rintro ⟨name, rest⟩ ⟨-, hrest⟩
    dsimp only
    split
    · exact .ok ⟨trivial, hrest.tail⟩
    · exact .broken _ _

theorem literalWord_sound (start : List Char) (h : Legal cs) (quote : Char) :
    Yields (fun taken => taken.1.Sound ∧ Legal taken.2) (literalWord start cs quote) := by
  unfold literalWord
  split
  · exact .ending _ _
  · rename_i hup
    split
    · exact .ok (h.upTo hup)
    · exact .broken _ _

theorem wordAt_sound {c : Char} (h : Legal (c :: cs)) :
    Yields (fun taken => taken.1.Sound ∧ Legal taken.2) (wordAt (c :: cs) c cs) := by
  unfold wordAt
  split
  · exact literalWord_sound _ h.tail c
  · split
    · exact .ok ⟨trivial, h.tail⟩
    · split
      · exact bracketWord_sound h h.tail
      · exact .ending _ _
      · exact .ok ⟨trivial, h.tail.tail.tail⟩
      · exact .ok ⟨trivial, h.tail⟩
      · split
        · exact .ok ⟨trivial, h.tail.tail⟩
        · split
          · exact .ok ⟨trivial, h.tail⟩
          · exact .broken _ _
      · exact .ok ⟨trivial, .nil⟩
      · exact percentWord_sound _ h.tail
      · refine (simpleName_sound _ h.tail).bind ?_
        rintro ⟨word, rest⟩ ⟨-, hrest⟩
        dsimp only
        split
        · exact .ok ⟨trivial, hrest⟩
        · exact .broken _ _
      · exact nameWord_sound h

theorem token_sound (h : Legal cs) :
    Yields (fun taken => (∀ t, taken.1 = some t → t.Sound) ∧ Legal taken.2) (token cs) := by
  have hspaces := h.spaces
  unfold token
  split
  · exact .ok ⟨by simp, .nil⟩
  · rename_i heq
    rw [heq] at hspaces
    exact (wordAt_sound hspaces).bind fun taken htaken =>
      .ok ⟨by rintro _ ⟨⟩; exact htaken.1, htaken.2⟩

theorem word_sound (h : Legal cs) :
    Yields (fun taken => taken.1.Sound ∧ Legal taken.2) (word cs) := by
  refine (token_sound h).bind fun taken htaken => ?_
  split
  · exact .ok ⟨htaken.1 _ rfl, htaken.2⟩
  · exact .ending _ _

theorem take_sound {α : Type} {P : α → Prop} {pick : Token → Option α}
    (hpick : ∀ t a, t.Sound → pick t = some a → P a) (h : Legal cs) :
    Yields (fun taken => P taken.1 ∧ Legal taken.2) (take pick cs) := by
  refine (word_sound h).bind ?_
  rintro ⟨t, rest⟩ ⟨ht, hrest⟩
  dsimp only
  split
  · rename_i hpicked
    exact .ok ⟨hpick t _ ht hpicked, hrest⟩
  · exact .misplaced _ _ _

theorem take_legal {α : Type} (pick : Token → Option α) (h : Legal cs) :
    Yields (fun taken => Legal taken.2) (take pick cs) := fun taken htaken =>
  (take_sound (P := fun _ => True) (fun _ _ _ _ => trivial) h taken htaken).2

theorem signed_legal (c : Char) (h : Legal cs) : Yields Legal (signed c cs) :=
  (take_legal _ h).bind fun _ htaken => .ok htaken

theorem literal_legal (h : Legal cs) :
    Yields (fun taken => Legal taken.1 ∧ Legal taken.2) (literal cs) := by
  refine take_sound (fun t text ht hpick => ?_) h
  split at hpick
  · cases hpick
    exact ht
  · cases hpick

theorem miscellany_legal (fuel : Nat) (h : Legal cs) : Yields Legal (miscellany fuel cs) := by
  induction fuel generalizing cs with
  | zero => exact .ok h
  | succ fuel ih =>
    refine (token_sound h).bind fun taken htaken => ?_
    split
    · exact ih htaken.2
    · exact ih htaken.2
    · exact .ok h.spaces

/-! The document type. -/

def AttributeRule.Sound (r : AttributeRule) : Prop :=
  IsPart (cutName r.name).2 ∧ ∀ value, r.value = some value → IsLegalText value

structure DocumentType.Sound (d : DocumentType) : Prop where
  entities : d.entities.Legal
  rules : ∀ r ∈ d.rules, r.Sound

namespace DocumentType.Sound

variable {d : DocumentType}

theorem empty (standalone : Bool) (size : Nat) :
    DocumentType.Sound { standalone := standalone, size := size } :=
  ⟨by simp [Entities.Legal], by simp⟩

theorem addRule (h : d.Sound) {r : AttributeRule} (hr : r.Sound) : (d.addRule r).Sound := by
  unfold DocumentType.addRule
  split
  · exact ⟨h.entities, List.forall_mem_append.mpr ⟨h.rules, List.forall_mem_singleton.mpr hr⟩⟩
  · exact h

theorem addEntity (h : d.Sound) (name : String) {body : EntityBody} (hbody : body.Legal) :
    (d.addEntity name body).Sound := by
  unfold DocumentType.addEntity
  split
  · exact ⟨List.forall_mem_append.mpr ⟨h.entities, List.forall_mem_singleton.mpr hbody⟩, h.rules⟩
  · exact h

theorem mentionsOutside (h : d.Sound) : d.mentionsOutside.Sound := ⟨h.entities, h.rules⟩

theorem mentionsDeclarations (h : d.Sound) : d.mentionsDeclarations.Sound :=
  ⟨h.entities, h.rules⟩

theorem measured (h : d.Sound) (rest : List Char) : (d.measured rest).Sound := by
  unfold DocumentType.measured
  split
  · exact ⟨h.entities, h.rules⟩
  · exact h

end DocumentType.Sound

theorem publicLiteral_legal (h : Legal cs) : Yields Legal (publicLiteral cs) := by
  refine (literal_legal h).bind ?_
  rintro ⟨text, rest⟩ ⟨-, hrest⟩
  dsimp only
  split
  · exact .ok hrest
  · exact .error _

theorem outsidePlace_legal (h : Legal cs) : Yields Legal (outsidePlace cs) := by
  refine (word_sound h).bind fun taken htaken => ?_
  split
  · exact (literal_legal htaken.2).bind fun place hplace => .ok hplace.2
  · exact (publicLiteral_legal htaken.2).bind fun rest hrest =>
      (literal_legal hrest).bind fun place hplace => .ok hplace.2
  · exact .misplaced _ _ _

theorem entityBody_legal (d : DocumentType) (ofDocument : Bool) (h : Legal cs) :
    Yields (fun taken => taken.1.Legal ∧ Legal taken.2) (entityBody d ofDocument cs) := by
  refine (word_sound h).bind fun taken htaken => ?_
  split
  · rename_i rest
    have hbody {text : Except Fault (List Char)} (htext : Yields Legal text) :
        Yields (fun taken => taken.1.Legal ∧ Legal taken.2) (text >>= fun text =>
          signed '>' rest >>= fun rest => Except.ok (EntityBody.text text, rest)) :=
      htext.bind fun text htext =>
        (signed_legal '>' htaken.2).bind fun rest hrest => .ok ⟨htext, hrest⟩
    dsimp only
    split
    · exact hbody (entityText_legal _ _ htaken.1)
    · exact hbody (.ok .nil)
  · refine (outsidePlace_legal h).bind fun rest hrest => ?_
    refine (word_sound hrest).bind fun after hafter => ?_
    split
    · exact .ok ⟨trivial, hafter.2⟩
    · split
      · exact (take_legal _ hafter.2).bind fun kind hkind =>
          (signed_legal '>' hkind).bind fun rest hrest => .ok ⟨trivial, hrest⟩
      · exact .misplaced _ _ _
    · exact .misplaced _ _ _

theorem entityDeclaration_sound {d : DocumentType} (hd : d.Sound) (h : Legal cs) :
    Yields (fun taken => taken.1.Sound ∧ Legal taken.2) (entityDeclaration d cs) := by
  refine (word_sound h).bind fun taken htaken => ?_
  split
  · exact (take_legal _ htaken.2).bind fun name hname =>
      (entityBody_legal d false hname).bind fun body hbody => .ok ⟨hd, hbody.2⟩
  · exact (entityBody_legal d true htaken.2).bind fun body hbody =>
      .ok ⟨hd.addEntity _ hbody.1, hbody.2⟩
  · exact .misplaced _ _ _

theorem alternatives_legal (item : Token → Bool) (fuel : Nat) (h : Legal cs) :
    Yields Legal (alternatives item fuel cs) := by
  induction fuel generalizing cs with
  | zero => exact .fault _ _
  | succ fuel ih =>
    refine (take_legal _ h).bind fun first hfirst => ?_
    refine (word_sound hfirst).bind fun taken htaken => ?_
    split
    · exact .ok htaken.2
    · exact ih htaken.2
    · exact .misplaced _ _ _

theorem attributeType_legal (h : Legal cs) :
    Yields (fun taken => Legal taken.2) (attributeType cs) := by
  refine (word_sound h).bind fun taken htaken => ?_
  split
  · exact .ok htaken.2
  · exact (signed_legal '(' htaken.2).bind fun rest hrest =>
      (alternatives_legal isName _ hrest).bind fun rest hrest => .ok hrest
  · exact (alternatives_legal isToken _ htaken.2).bind fun rest hrest => .ok hrest
  · split
    · exact .ok htaken.2
    · exact .misplaced _ _ _
  · exact .misplaced _ _ _

theorem defaultValue_sound {d : DocumentType} (hd : d.Sound) (free : Bool) (h : Legal cs) :
    Yields (fun taken => ((∀ value, taken.1.1 = some value → IsLegalText value) ∧
      taken.1.2.Sound) ∧ Legal taken.2) (defaultValue d free cs) := by
  unfold defaultValue
  extract_lets valued
  have hvalued (cs : List Char) {text rest : List Char} (htext : Legal text) (hrest : Legal rest) :
      Yields (fun taken => ((∀ value, taken.1.1 = some value → IsLegalText value) ∧
        taken.1.2.Sound) ∧ Legal taken.2) (valued cs text rest) := by
    unfold valued
    split
    · split
      · exact .fault _ _
      · refine (attributeValue_legal hd.entities free _ [] htext).bind fun value hvalue => .ok ?_
        exact ⟨⟨by rintro _ ⟨⟩; exact hvalue, hd.entities, hd.rules⟩, hrest⟩
    · exact .ok ⟨⟨by simp, hd⟩, hrest⟩
  clear_value valued
  refine (word_sound h).bind fun taken htaken => ?_
  split
  · exact .ok ⟨⟨by simp, hd⟩, htaken.2⟩
  · exact .ok ⟨⟨by simp, hd⟩, htaken.2⟩
  · exact (literal_legal htaken.2).bind fun text htext => hvalued _ htext.1 htext.2
  · exact hvalued _ htaken.1 htaken.2
  · exact .misplaced _ _ _

theorem attributeRules_sound (element : String) (fuel : Nat) {d : DocumentType} (hd : d.Sound)
    (h : Legal cs) :
    Yields (fun taken => taken.1.Sound ∧ Legal taken.2) (attributeRules element fuel d cs) := by
  induction fuel generalizing d cs with
  | zero => exact .fault _ _
  | succ fuel ih =>
    refine (word_sound h).bind fun taken htaken => ?_
    split
    · exact .ok ⟨hd, htaken.2⟩
    iterate 2
      · rename_i name _
        refine (attributeType_legal htaken.2).bind ?_
        rintro ⟨free, rest⟩ hrest
        refine (defaultValue_sound hd free hrest).bind ?_
        rintro ⟨⟨value, d⟩, rest⟩ ⟨⟨hvalue, hd⟩, hrest⟩
        have hrule : AttributeRule.Sound ⟨element, name, free, value⟩ := ⟨htaken.1, hvalue⟩
        exact ih (hd.addRule hrule) hrest
    · exact .misplaced _ _ _

theorem group_legal (fuel : Nat) (between : Option Char) (h : Legal cs) :
    Yields Legal (group fuel between cs) := by
  induction fuel generalizing between cs with
  | zero => exact .fault _ _
  | succ fuel ih =>
    refine (word_sound h).bind fun taken htaken => ?_
    dsimp only
    split
    case' h_1 => refine (ih none htaken.2).bind ?_
    case' h_2 | h_3 | h_4 => refine Yields.bind (P := Legal) (.ok htaken.2) ?_
    case h_5 => exact .error _
    -- behind a part stands the sign between the parts, or the end of the group
    all_goals
      rintro rest hrest
      refine (word_sound hrest).bind fun after hafter => ?_
      split
      · exact .ok hafter.2
      · split
        · exact .ok hafter.2
        · split
          · exact ih _ hafter.2
          · exact .misplaced _ _ _
      · exact .misplaced _ _ _

theorem mixed_legal (fuel : Nat) (h : Legal cs) : Yields Legal (mixed fuel cs) := by
  induction fuel generalizing cs with
  | zero => exact .fault _ _
  | succ fuel ih =>
    refine (take_legal _ h).bind fun name hname => ?_
    refine (word_sound hname).bind fun taken htaken => ?_
    split
    · exact .ok htaken.2
    · exact ih htaken.2
    · exact .misplaced _ _ _

theorem contentModel_legal (h : Legal cs) : Yields Legal (contentModel cs) := by
  refine (word_sound h).bind fun taken htaken => ?_
  split
  · exact .ok htaken.2
  · exact .ok htaken.2
  · refine (word_sound htaken.2).bind fun first hfirst => ?_
    split
    · refine (word_sound hfirst.2).bind fun after hafter => ?_
      split
      · exact .ok hafter.2
      · exact .ok hafter.2
      · exact mixed_legal _ hafter.2
      · exact .misplaced _ _ _
    · exact group_legal _ none htaken.2
  · exact .misplaced _ _ _

theorem elementDeclaration_sound (w : Way) {d : DocumentType} (hd : d.Sound) (h : Legal cs) :
    Yields (fun taken => taken.1.Sound ∧ Legal taken.2) (elementDeclaration w d cs) := by
  refine (take_legal _ h).bind fun name hname => ?_
  refine (contentModel_legal hname).bind fun rest hrest => ?_
  split
  · exact .fault _ _
  · exact (signed_legal '>' hrest).bind fun rest hrest => .ok ⟨⟨hd.entities, hd.rules⟩, hrest⟩

theorem notationDeclaration_legal (h : Legal cs) : Yields Legal (notationDeclaration cs) := by
  refine (take_legal _ h).bind fun name hname => ?_
  refine (word_sound hname).bind fun taken htaken => ?_
  split
  · exact (literal_legal htaken.2).bind fun place hplace => signed_legal '>' hplace.2
  · refine (publicLiteral_legal htaken.2).bind fun rest hrest => ?_
    refine (word_sound hrest).bind fun after hafter => ?_
    split
    · exact signed_legal '>' hafter.2
    · exact .ok hafter.2
    · exact .misplaced _ _ _
  · exact .misplaced _ _ _

theorem declarations_sound (w : Way) (fuel : Nat) {d : DocumentType} (hd : d.Sound) (h : Legal cs) :
    Yields (fun taken => taken.1.Sound ∧ Legal taken.2) (declarations w fuel d cs) := by
  induction fuel generalizing d cs with
  | zero => exact .fault _ _
  | succ fuel ih =>
    refine (word_sound h).bind fun taken htaken => ?_
    split
    · exact .ok ⟨hd, htaken.2⟩
    · exact ih hd htaken.2
    · exact ih hd htaken.2
    · exact ih hd.mentionsDeclarations htaken.2
    · exact (entityDeclaration_sound hd htaken.2).bind fun next hnext => ih hnext.1 hnext.2
    · refine (take_legal _ htaken.2).bind fun name hname => ?_
      exact (attributeRules_sound _ _ hd hname).bind fun next hnext => ih hnext.1 hnext.2
    · exact (elementDeclaration_sound w hd htaken.2).bind fun next hnext => ih hnext.1 hnext.2
    · exact (notationDeclaration_legal htaken.2).bind fun rest hrest => ih hd hrest
    · exact .misplaced _ _ _

theorem documentType_sound (w : Way) (standalone : Bool) (size : Nat) (h : Legal cs) :
    Yields (fun taken => taken.1.Sound ∧ Legal taken.2) (documentType w standalone size cs) := by
  have hempty := DocumentType.Sound.empty standalone size
  refine (take_legal _ h).bind ?_
  rintro ⟨name, rest⟩ hrest
  refine (word_sound hrest).bind fun taken _ => ?_
  split
  case' h_1 =>
    refine (outsidePlace_legal hrest).bind fun place hplace => ?_
    refine Yields.bind (P := fun taken => taken.1.Sound ∧ Legal taken.2)
      (.ok ⟨hempty.mentionsOutside, hplace⟩) ?_
  case' h_2 =>
    refine Yields.bind (P := fun taken => taken.1.Sound ∧ Legal taken.2) (.ok ⟨hempty, hrest⟩) ?_
  all_goals
    rintro ⟨d, rest⟩ ⟨hd, hrest⟩
    refine (word_sound hrest).bind fun after hafter => ?_
    split
    · exact .ok ⟨hd, hafter.2⟩
    · exact (declarations_sound w _ hd hafter.2).bind fun next hnext =>
        (signed_legal '>' hnext.2).bind fun rest hrest => .ok ⟨hnext.1, hrest⟩
    · exact .misplaced _ _ _

end DroidAudit.Xml
