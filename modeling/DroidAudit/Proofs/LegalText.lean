import DroidAudit.Proofs.Numeral
import DroidAudit.Proofs.WrittenDocument
import Mathlib.Data.List.Basic

/-! Characters of documents that were read. A document holds only characters that it may hold; so do
the names, references, values and texts of entities that are read from it. -/
namespace DroidAudit.Xml

def Yields {ε α : Type} (P : α → Prop) (r : Except ε α) : Prop := ∀ a, r = .ok a → P a

namespace Yields

variable {ε α β : Type} {P : α → Prop} {Q : β → Prop}

theorem ok {a : α} (h : P a) : Yields P (Except.ok a : Except ε α) := by
  rintro _ ⟨⟩
  exact h

theorem error (e : ε) : Yields P (Except.error e : Except ε α) := by
  rintro _ ⟨⟩

variable {r : Except ε α}

theorem bind {f : α → Except ε β} (h : Yields P r)
    (hf : ∀ a, P a → Yields Q (f a)) : Yields Q (r >>= f) := by
  cases r with
  | error e => exact error e
  | ok a => exact hf a (h a rfl)

theorem thenRead {f : α → Except ε β} (hf : ∀ a, Yields Q (f a)) : Yields Q (r >>= f) :=
  bind (P := fun _ => True) (fun _ _ => trivial) fun a _ => hf a

theorem mapError {ε' : Type} (f : ε → ε') (h : Yields P r) : Yields P (r.mapError f) := by
  cases r with
  | error e => exact error _
  | ok a => exact ok (h a rfl)

theorem fault (p : Problem) (place : List Char) : Yields P (Xml.fault p place) := error _

theorem ending (p : Problem) (place : List Char) : Yields P (Xml.ending p place) := error _

theorem broken (start rest : List Char) : Yields P (Xml.broken start rest) := by
  unfold Xml.broken
  split
  · exact ending _ _
  · exact fault _ _

theorem misplaced (cs : List Char) (t : Token) (rest : List Char) :
    Yields P (Xml.misplaced cs t rest) := error _

end Yields

/-! Characters. -/

def Legal (cs : List Char) : Prop := ∀ c ∈ cs, isLegal c = true

namespace Legal

variable {cs ds : List Char}

theorem nil : Legal [] := by simp [Legal]

theorem of_subset (h : Legal cs) (hsub : ds ⊆ cs) : Legal ds := fun c hc => h c (hsub hc)

theorem append (h : Legal cs) (hd : Legal ds) : Legal (cs ++ ds) :=
  List.forall_mem_append.mpr ⟨h, hd⟩

variable {c : Char} {rest word : List Char}

theorem cons (hc : isLegal c = true) (h : Legal cs) : Legal (c :: cs) :=
  List.forall_mem_cons.mpr ⟨hc, h⟩

theorem head (h : Legal (c :: cs)) : isLegal c = true := h c List.mem_cons_self

theorem tail (h : Legal (c :: cs)) : Legal cs := fun d hd => h d (by simp [hd])

variable (h : Legal cs)
include h

theorem drop (n : Nat) : Legal (cs.drop n) := h.of_subset (List.drop_subset n cs)

theorem takeWhile (p : Char → Bool) : Legal (cs.takeWhile p) :=
  h.of_subset (List.takeWhile_sublist p).subset

theorem dropWhile (p : Char → Bool) : Legal (cs.dropWhile p) :=
  h.of_subset (List.dropWhile_sublist p).subset

theorem spaces : Legal (Xml.spaces cs) := h.dropWhile isSpace

theorem after? (hafter : Text.after? word cs = some rest) : Legal rest := by
  fun_induction Text.after? word cs with
  | case1 cs => cases hafter; exact h
  | case2 => cases hafter
  | case3 w ws c cs _ ih => exact ih h.tail hafter
  | case4 => cases hafter

theorem upTo {front : List Char} (hup : Xml.upTo word cs = some (front, rest)) :
    Legal front ∧ Legal rest := by
  induction cs generalizing front with
  | nil => cases hup
  | cons c cs ih =>
    rw [Xml.upTo] at hup
    split at hup
    · rename_i hafter
      cases hup
      exact ⟨nil, h.after? hafter⟩
    · obtain ⟨⟨front', rest'⟩, hmore, heq⟩ := Option.bind_eq_some_iff.mp hup
      cases heq
      obtain ⟨hfront, hrest⟩ := ih h.tail hmore
      exact ⟨.cons h.head hfront, hrest⟩

theorem behindFirst (hbehind : Xml.behindFirst word cs = some rest) : Legal rest := by
  induction cs with
  | nil => cases hbehind
  | cons c cs ih =>
    rw [Xml.behindFirst] at hbehind
    split at hbehind
    · rename_i hafter
      cases hbehind
      exact h.after? hafter
    · exact ih h.tail hbehind

theorem unifyNewlines : Legal (Text.unifyNewlines cs) := by
  fun_induction Text.unifyNewlines cs with
  | case1 => exact h
  | case2 cs ih => exact .cons (by decide) (ih h.tail.tail)
  | case3 cs _ ih => exact .cons (by decide) (ih h.tail)
  | case4 c cs _ _ ih => exact .cons h.head (ih h.tail)

theorem singleSpaces : Legal (Xml.singleSpaces cs) := by
  refine Text.forall_mem_intercalate (List.forall_mem_singleton.mpr (by decide)) ?_
  intro piece hpiece c hc
  exact h c (Text.of_mem_splitAt (List.mem_of_mem_filter hpiece) c hc).2

end Legal

def IsLegalText (s : String) : Prop := ∃ cs, s = String.ofList (Text.ofChars cs) ∧ Legal cs

theorem IsText.isLegalText {s : String} (h : IsText s) : IsLegalText s := by
  obtain ⟨cs, hs, hcs⟩ := h
  exact ⟨cs, hs, fun c hc => (hcs c hc).1⟩

/-! Names and references. -/

/-- The part of a name: characters of names, and at least one. -/
def IsPart (s : String) : Prop := s ≠ "" ∧ ∀ c ∈ s.toList, continuesName c = true

variable {cs : List Char} {es : Entities}

theorem simpleName_sound (start : List Char) (h : Legal cs) :
    Yields (fun taken => (IsPart taken.1 ∧ Legal taken.1.toList) ∧ Legal taken.2)
      (simpleName start cs) := by
  cases cs with
  | nil => exact .broken _ _
  | cons c cs =>
    rw [simpleName]
    split
    · rename_i hopens
      refine .ok ⟨⟨⟨by simp, ?_⟩, ?_⟩, h.tail.dropWhile _⟩
      · rw [String.toList_ofList]
        refine List.forall_mem_cons.mpr ⟨by simp [continuesName, hopens], fun d hd => ?_⟩
        exact List.mem_takeWhile_imp hd
      · rw [String.toList_ofList]
        exact .cons h.head (h.tail.takeWhile _)
    · exact .broken _ _

theorem labelledName_sound (start : List Char) (h : Legal cs) :
    Yields (fun taken => IsPart taken.1.2 ∧ Legal taken.2) (labelledName start cs) := by
  refine (simpleName_sound start h).bind ?_
  rintro ⟨first, rest⟩ ⟨hfirst, hrest⟩
  dsimp only
  split
  · exact (simpleName_sound start hrest.tail).bind fun second hsecond => .ok ⟨hsecond.1.1, hsecond.2⟩
  · exact .ok ⟨hfirst.1, hrest⟩

theorem comment_sound (start : List Char) (h : Legal cs) : Yields Legal (comment start cs) := by
  unfold comment
  split
  · rename_i hbehind
    exact .ok (h.behindFirst hbehind).tail
  · exact .broken _ _
  · exact .ending _ _

theorem instruction_sound (start : List Char) (h : Legal cs) :
    Yields (fun taken => Legal taken.2) (instruction start cs) := by
  refine (simpleName_sound start h).bind ?_
  rintro ⟨target, rest⟩ ⟨-, hrest⟩
  dsimp only
  split
  · exact .broken _ _
  · split
    · exact .ok hrest.tail.tail
    · exact .broken _ _
    · split
      · split
        · rename_i hup
          exact .ok (hrest.upTo hup).2
        · exact .ending _ _
      · exact .broken _ _
    · exact .broken _ _

/-- A reference to a character that a document may hold, or to an entity with a name of such. -/
def Reference.Legal : Reference → Prop
  | .char c => ∀ d, c = some d → isLegal d = true
  | .entity name => Xml.Legal name.toList

theorem charNumbered_legal {n : Nat} {c : Char} (h : charNumbered n = some c) :
    isLegal c = true := by
  unfold charNumbered at h
  dsimp only at h
  split at h
  · rename_i hn
    cases h
    simp only [Bool.and_eq_true] at hn
    exact hn.2
  · cases h

theorem numbered_sound (start : List Char) (base : Nat) (h : Legal cs) :
    Yields (fun taken => taken.1.Legal ∧ Legal taken.2) (numbered start base cs) := by
  unfold numbered
  dsimp only
  split
  · exact .broken _ _
  · have hdrop := h.drop (cs.takeWhile fun c => (digitIn base c).isSome).length
    split
    · rename_i hrest
      rw [hrest] at hdrop
      exact .ok ⟨fun _ => charNumbered_legal, hdrop.tail⟩
    · exact .broken _ _

theorem reference_sound (start : List Char) (h : Legal cs) :
    Yields (fun taken => taken.1.Legal ∧ Legal taken.2) (reference start cs) := by
  unfold reference
  split
  · exact numbered_sound start 16 h.tail.tail
  · exact numbered_sound start 10 h.tail
  · refine (simpleName_sound start h).bind ?_
    rintro ⟨name, rest⟩ ⟨hname, hrest⟩
    dsimp only
    split
    · exact .ok ⟨hname.2, hrest.tail⟩
    · exact .broken _ _

theorem Yields.siteFault {α : Type} {P : α → Prop} (s : Site) (p : Problem) (left : Nat) :
    Yields P (s.fault p left) := .error _

theorem siteReference_sound (s : Site) (here : List Char) (h : Legal cs) :
    Yields (fun taken => taken.1.Legal ∧ Legal taken.2) (s.reference here cs) := by
  unfold Site.reference
  split
  · rename_i hr
    exact .ok (reference_sound [] h _ hr)
  · exact .siteFault _ _ _

theorem predefined_legal {name : String} {c : Char} (h : predefined name = some c) :
    isLegal c = true := by
  unfold predefined at h
  split at h <;> cases h <;> decide

/-! Values and the texts of entities. -/

/-- What an entity stands for holds only characters that a document may hold. -/
def EntityBody.Legal : EntityBody → Prop
  | .text cs => Xml.Legal cs
  | _ => True

def Entities.Legal (es : Entities) : Prop := ∀ entry ∈ es.declared, entry.2.Legal

theorem Entities.Legal.get? (h : es.Legal) {name : String} {body : EntityBody}
    (hget : es.get? name = some body) : body.Legal := by
  obtain ⟨entry, hfind, rfl⟩ := Option.map_eq_some_iff.mp hget
  exact h entry (List.mem_of_find?_eq_some hfind)

theorem valueChars_legal (hes : es.Legal) (fuel : Nat) (site : Site)
    (inside : List String) (h : Legal cs) :
    Yields Legal (valueChars es fuel site inside cs) := by
  induction fuel generalizing site inside cs with
  | zero => exact .fault _ _
  | succ fuel ih =>
    cases cs with
    | nil => exact .ok .nil
    | cons c cs =>
      rw [valueChars]
      split
      · exact .siteFault _ _ _
      · split
        · refine (siteReference_sound site _ h.tail).bind ?_
          rintro ⟨r, rest⟩ ⟨hr, hrest⟩
          -- whatever the reference gives is put in front of the rest
          have hfollowed {front : Except Fault (List Char)} (hfront : Yields Legal front) :
              Yields Legal (front >>= fun front =>
                valueChars es fuel site inside rest >>= fun more => Except.ok (front ++ more)) :=
            hfront.bind fun front hfront =>
              (ih site inside hrest).bind fun more hmore => .ok (hfront.append hmore)
          dsimp only
          split
          · exact hfollowed (.ok (.cons (hr _ rfl) .nil))
          · exact hfollowed (.siteFault _ _ _)
          · split
            · exact hfollowed (.fault _ _)
            · split
              · rename_i hname
                exact hfollowed (.ok (.cons (predefined_legal hname) .nil))
              · rename_i hget
                split
                · exact hfollowed (.fault _ _)
                · exact hfollowed (ih _ _ (hes.get? hget))
              · exact hfollowed (.siteFault _ _ _)
              · exact hfollowed (.siteFault _ _ _)
              · split
                · exact hfollowed (.ok .nil)
                · exact hfollowed (.fault _ _)
        · refine (ih site inside h.tail).bind fun more hmore => .ok (.cons ?_ hmore)
          split
          · decide
          · exact h.head

theorem attributeValue_legal (hes : es.Legal) (free : Bool) (site : Site)
    (inside : List String) (h : Legal cs) :
    Yields IsLegalText (attributeValue es free site inside cs) := by
  refine (valueChars_legal hes _ site inside h).bind fun value hvalue => .ok ⟨_, rfl, ?_⟩
  split
  · exact hvalue
  · exact hvalue.singleSpaces

theorem entityText_legal (site : Site) (fuel : Nat) (h : Legal cs) :
    Yields Legal (entityText site fuel cs) := by
  induction fuel generalizing cs with
  | zero => exact .siteFault _ _ _
  | succ fuel ih =>
    unfold entityText
    split
    · rename_i heq
      cases heq
    · exact .ok .nil
    · split
      · exact .siteFault _ _ _
      · exact .siteFault _ _ _
      · exact .siteFault _ _ _
    · rename_i heq
      cases heq
      refine (siteReference_sound site _ h.tail).bind ?_
      rintro ⟨r, rest⟩ ⟨hr, hrest⟩
      dsimp only
      split
      · exact .siteFault _ _ _
      · exact (ih hrest).bind fun more hmore => .ok (.cons (hr _ rfl) hmore)
      · refine (ih hrest).bind fun more hmore => .ok ?_
        exact (Legal.cons (by decide) hr).append (.cons (by decide) hmore)
    · rename_i heq
      cases heq
      exact (ih h.tail).bind fun more hmore => .ok (.cons h.head hmore)

end DroidAudit.Xml
