import DroidAudit.Proofs.FileChange
import DroidAudit.Proofs.ReadBack
import DroidAudit.Resources
import Mathlib.Data.List.TakeDrop

/-! Files of named texts and lists as what they hold. An item goes to the first list of its name, or
to a new one at the end; a text under a new name goes to the end. All other texts and lists stay, and
so does every other file. -/
namespace DroidAudit

namespace Xml

theorem Element.Kept.addChild {e child : Element} (h : e.Kept) (hchild : child.Kept) :
    (e.addChild child).Kept := by
  cases h with
  | mk hname hattributes hnodup htext hchildren htails =>
    refine .mk hname hattributes hnodup htext ?_ ?_
    · rw [List.forall_mem_append]
      exact ⟨hchildren, by simpa using hchild⟩
    · rw [List.forall_mem_append]
      exact ⟨htails, by simpa using isText_of_isSimpleText rfl⟩

theorem height_addChild {e child : Element} {n : Nat} (h : e.height ≤ n + 1)
    (hchild : child.height ≤ n) : (e.addChild child).height ≤ n + 1 := by
  cases e with
  | mk name attributes text children =>
    have hall : ∀ c ∈ children, c.1.height ≤ n :=
      heightBelow_le_iff.mp (Nat.le_of_succ_le_succ (by rwa [Element.height] at h))
    rw [Element.addChild, Element.height, Element.children, Nat.add_le_add_iff_right,
      heightBelow_le_iff, List.forall_mem_append]
    exact ⟨hall, by simpa using hchild⟩

theorem kept_named {tag name text : String} (htag : isSimpleName tag = true) (hname : IsText name)
    (htext : IsText text) : ((named tag name .escaped).withText (some text)).Kept := by
  have hform : (named tag name .escaped).withText (some text) =
      .mk (.plain tag) [⟨.plain "name", name, .escaped⟩] (some text) [] := rfl
  have hpart : isSimpleName "name" = true := by decide
  have hdeclaring : "name" ≠ "xmlns" := by decide
  rw [hform]
  refine .mk ⟨rfl, htag⟩ ?_ (by simp) htext (by simp) (by simp)
  intro a ha
  rw [List.mem_singleton.mp ha]
  exact ⟨⟨rfl, hpart⟩, hdeclaring, rfl, hname⟩

theorem kept_item {text : String} (h : IsText text) :
    (Element.mk (.plain "item") [] (some text) []).Kept :=
  .mk ⟨rfl, by decide⟩ (by simp) (by simp) h (by simp) (by simp)

theorem forall_changeFirstChild {P : Element → Prop} {test : Element → Bool}
    {change : Element → Element} (hchange : ∀ e, P e → P (change e))
    {children changed : List (Element × String)}
    (h : changeFirstChild test change children = some changed) (hall : ∀ c ∈ children, P c.1) :
    ∀ c ∈ changed, P c.1 := by
  induction children generalizing changed with
  | nil => cases h
  | cons c rest ih =>
    obtain ⟨e, tail⟩ := c
    rw [List.forall_mem_cons] at hall
    rw [changeFirstChild] at h
    split at h
    · cases h
      exact List.forall_mem_cons.mpr ⟨hchange e hall.1, hall.2⟩
    · obtain ⟨rest', hrest, rfl⟩ := Option.map_eq_some_iff.mp h
      exact List.forall_mem_cons.mpr ⟨hall.1, ih hrest hall.2⟩

theorem tails_changeFirstChild {test : Element → Bool} {change : Element → Element}
    {children changed : List (Element × String)}
    (h : changeFirstChild test change children = some changed) :
    changed.map (·.2) = children.map (·.2) := by
  induction children generalizing changed with
  | nil => cases h
  | cons c rest ih =>
    obtain ⟨e, tail⟩ := c
    rw [changeFirstChild] at h
    split at h
    · cases h
      rfl
    · obtain ⟨rest', hrest, rfl⟩ := Option.map_eq_some_iff.mp h
      rw [List.map_cons, List.map_cons, ih hrest]

/-! The query for a name. -/

/-- The name under which an element below the root holds a text. -/
def Element.textName? (e : Element) : Option String :=
  if e.name.isPlain "string" then e.plainAttribute? "name" else none

namespace Query

mutual
theorem map_below (place : Place) (e : Element) :
    (below place e).map (·.2) = e.descendants := by
  cases e with
  | mk name attributes text children =>
    rw [below]
    exact map_belowFrom place 0 children

theorem map_belowFrom (place : Place) (i : Nat) (children : List (Element × String)) :
    (belowFrom place i children).map (·.2) = Element.allOfChildren children := by
  match children with
  | [] => rfl
  | (e, _) :: rest =>
    rw [belowFrom, List.map_append, List.map_cons, map_below, map_belowFrom,
      Element.allOfChildren]
    cases e
    rfl
end

theorem fullName_beq {part : String} (h : part.toList.head? ≠ some '\x7b') (n : Name) :
    (fullName n == part) = n.isPlain part := by
  rw [fullName, Name.isPlain]
  split
  · rename_i hspace
    rw [hspace, Bool.true_and]
  · rename_i hspace
    rw [Bool.eq_false_iff.mpr hspace, Bool.false_and, beq_eq_false_iff_ne]
    rintro rfl
    simp at h

theorem attributeOf?_of_plain {key : String} (h : key.toList.head? ≠ some '\x7b') (e : Element) :
    attributeOf? e key = e.plainAttribute? key := by
  simp only [attributeOf?, Element.plainAttribute?, fullName_beq h]

theorem takes_string (n : Name) : Pattern.takes n (.tag "string") = n.isPlain "string" := by
  rw [← fullName_beq (by decide) n]
  have htakes : Pattern.takes n (.tag "string") = ((fullName n).toList == "string".toList) := rfl
  rw [htakes, Bool.eq_iff_iff, beq_iff_eq, beq_iff_eq, String.toList_inj]

theorem cutAt?_append {mark : Char} {inside : List Char} (h : mark ∉ inside) (rest : List Char) :
    cutAt? mark (inside ++ mark :: rest) = some (inside, rest) := by
  have hinside : ∀ c ∈ inside, (c != mark) = true := by
    intro c hc
    simpa using ne_of_mem_of_not_mem hc h
  rw [cutAt?, List.span_eq_takeWhile_dropWhile, List.takeWhile_append_of_pos hinside,
    List.dropWhile_append_of_pos hinside]
  simp

theorem tokensFrom_nil (n : Nat) : tokensFrom n [] = [] := by
  cases n <;> rfl

theorem tokensFrom_named (n : Nat) (rest : List Char) :
    tokensFrom (n + 7) (".//string[@name=".toList ++ rest) =
      [.sign ".", .sign "//", .tag "string", .sign "[", .sign "@", .tag "name", .sign "="] ++
        tokensFrom n rest := rfl

theorem tokenAt_quoted {inside : List Char} (h : '\'' ∉ inside) (rest : List Char) :
    tokenAt '\'' (inside ++ '\'' :: rest) = (some (.quoted (String.ofList inside)), rest) := by
  have hquote : ('\'' == '\'' || '\'' == '"') = true := rfl
  simp only [tokenAt, hquote, if_true, cutAt?_append h]

theorem steps_queryFor {key : String} (h : '\'' ∉ key.toList) :
    steps (Resources.queryFor (.text key)) =
      .ok [.stay, .descendants (.tag "string"), .filter (.comparesAttribute true "name" key)] := by
  have hchars : (Resources.queryFor (.text key)).toList =
      ".//string[@name=".toList ++ '\'' :: (key.toList ++ '\'' :: [']']) := by
    have hopens : ".//string[@name='".toList = ".//string[@name=".toList ++ ['\''] := rfl
    have hcloses : "']".toList = ['\'', ']'] := rfl
    have hquery : Resources.queryFor (.text key) = ".//string[@name='" ++ key ++ "']" := rfl
    rw [hquery, String.toList_append, String.toList_append, hopens, hcloses]
    simp only [List.append_assoc, List.cons_append, List.nil_append]
  have hlength : (Resources.queryFor (.text key)).length = key.length + 10 + 2 + 7 := by
    have hopens : ".//string[@name=".toList.length = 16 := rfl
    rw [← String.length_toList, ← String.length_toList, hchars, List.length_append, hopens]
    simp only [List.length_cons, List.length_append, List.length_nil]
    omega
  have htokens : tokens (Resources.queryFor (.text key)) =
      [.sign ".", .sign "//", .tag "string", .sign "[", .sign "@", .tag "name", .sign "=",
        .quoted key, .sign "]"] := by
    have hend : tokenAt ']' [] = (some (.sign "]"), []) := rfl
    rw [tokens, hchars, hlength, tokensFrom_named, tokensFrom, tokenAt_quoted h]
    simp [tokensFrom, hend, tokensFrom_nil]
  rw [steps, htokens]
  rfl

theorem find?_queryFor {key : String} (h : '\'' ∉ key.toList) (root : Element) :
    find? root (Resources.queryFor (.text key)) =
      .ok (((below [] root).find? fun f => f.2.textName? == some key).map (·.1)) := by
  have htest : ∀ f : Found, ((Condition.comparesAttribute true "name" key).holds root f &&
      Pattern.takes f.2.name (.tag "string")) = (f.2.textName? == some key) := by
    intro f
    rw [takes_string, Condition.holds, attributeOf?_of_plain (by decide), Element.textName?]
    cases f.2.name.isPlain "string" <;> cases f.2.plainAttribute? "name" <;> simp
  rw [find?, steps_queryFor h]
  simp only [bind, Except.bind, pure, Except.pure, List.foldl_cons, List.foldl_nil, Step.follow,
    List.flatMap_cons, List.flatMap_nil, List.append_nil, List.filter_filter, htest,
    List.head?_filter]

theorem find?_queryFor_of_fresh {key : String} (h : '\'' ∉ key.toList) {root : Element}
    (hfresh : ∀ e ∈ root.descendantsPlain "string", e.plainAttribute? "name" ≠ some key) :
    find? root (Resources.queryFor (.text key)) = .ok none := by
  have hnone : ((below [] root).find? fun f => f.2.textName? == some key) = none := by
    rw [List.find?_eq_none]
    intro f hf hname
    have hmem : f.2 ∈ root.descendants := by
      rw [← map_below []]
      exact List.mem_map_of_mem hf
    rw [beq_iff_eq, Element.textName?] at hname
    split at hname
    · rename_i hplain
      exact hfresh f.2 (List.mem_filter.mpr ⟨hmem, hplain⟩) hname
    · cases hname
  rw [find?_queryFor h, hnone]
  rfl

end Query

end Xml

/-! What a document holds. -/

namespace Resources

def texts (root : Xml.Element) : List (Option String × Option String) :=
  (root.descendantsPlain "string").map fun e => (e.plainAttribute? "name", e.text)

abbrev Lists := List (Option String × List (Option String))

def listOf (e : Xml.Element) : Option String × List (Option String) :=
  (e.plainAttribute? "name", (e.childrenPlain "item").map (·.text))

def listsOf (children : List (Xml.Element × String)) : Lists :=
  ((children.map (·.1)).filter fun e => e.name.isPlain "string-array").map listOf

def lists (root : Xml.Element) : Lists := listsOf root.children

def allLists (root : Xml.Element) : Lists := (root.descendantsPlain "string-array").map listOf

def count (ls : Lists) (name : String) : Nat :=
  ((ls.find? fun l => l.1 == some name).map (·.2.length)).getD 0

def addTo (name item : String) : Lists → Lists
  | [] => [(some name, [some item])]
  | l :: rest =>
    if l.1 = some name then (l.1, l.2 ++ [some item]) :: rest else l :: addTo name item rest

def itemOf (text : String) : Xml.Element := .mk (.plain "item") [] (some text) []

theorem listOf_addChild (e : Xml.Element) (text : String) :
    listOf (e.addChild (itemOf text)) = ((listOf e).1, (listOf e).2 ++ [some text]) := by
  have hchildren : (e.addChild (itemOf text)).childrenPlain "item" =
      e.childrenPlain "item" ++ [itemOf text] := by
    simp [Xml.Element.childrenPlain, Xml.Element.addChild, Xml.Element.children, itemOf,
      Xml.Element.name, Xml.Name.plain, Xml.Name.isPlain]
  rw [listOf, hchildren, List.map_append]
  rfl

theorem listsOf_cons (e : Xml.Element) (tail : String) (rest : List (Xml.Element × String)) :
    listsOf ((e, tail) :: rest) =
      if e.name.isPlain "string-array" then listOf e :: listsOf rest else listsOf rest := by
  simp only [listsOf, List.map_cons, List.filter_cons]
  split <;> rfl

theorem isArray_text (name : String) (e : Xml.Element) :
    isArray (.text name) e =
      (e.name.isPlain "string-array" && (listOf e).1 == some name) := rfl

theorem addTo_of_some {name text : String} {children changed : List (Xml.Element × String)}
    (h : Xml.changeFirstChild (isArray (.text name)) (·.addChild (itemOf text)) children =
      some changed) :
    listsOf changed = addTo name text (listsOf children) := by
  induction children generalizing changed with
  | nil => cases h
  | cons c rest ih =>
    obtain ⟨e, tail⟩ := c
    rw [Xml.changeFirstChild, isArray_text] at h
    rw [listsOf_cons]
    by_cases harray : e.name.isPlain "string-array" = true
    · by_cases hname : (listOf e).1 = some name
      · simp only [harray, hname, BEq.rfl, Bool.and_self, if_true, Option.some.injEq] at h
        subst h
        have hsame : (e.addChild (itemOf text)).name = e.name := rfl
        rw [listsOf_cons, hsame, if_pos harray, if_pos harray, addTo, if_pos hname,
          listOf_addChild]
      · have htest : ((listOf e).1 == some name) = false := by simpa using hname
        simp only [harray, htest, Bool.and_false, Bool.false_eq_true, if_false] at h
        obtain ⟨rest', hrest, rfl⟩ := Option.map_eq_some_iff.mp h
        rw [listsOf_cons, if_pos harray, if_pos harray, addTo, if_neg hname, ih hrest]
    · simp only [harray, Bool.false_and, Bool.false_eq_true, if_false] at h
      obtain ⟨rest', hrest, rfl⟩ := Option.map_eq_some_iff.mp h
      rw [listsOf_cons, if_neg harray, if_neg harray, ih hrest]

theorem addTo_of_none {name text : String} {children : List (Xml.Element × String)}
    (h : Xml.changeFirstChild (isArray (.text name)) (·.addChild (itemOf text)) children = none) :
    addTo name text (listsOf children) = listsOf children ++ [(some name, [some text])] := by
  induction children with
  | nil => rfl
  | cons c rest ih =>
    obtain ⟨e, tail⟩ := c
    rw [Xml.changeFirstChild] at h
    split at h
    · cases h
    rename_i htest
    rw [isArray_text] at htest
    have hrest := ih (Option.map_eq_none_iff.mp h)
    rw [listsOf_cons]
    split
    · rename_i harray
      have hname : ¬(listOf e).1 = some name := by simpa [harray] using htest
      rw [addTo, if_neg hname, hrest]
      rfl
    · exact hrest

theorem itemsOf_eq (e : Xml.Element) : itemsOf e = (listOf e).2.length := by
  have hfilter : (e.children.map (·.1)).filter (fun c => c.name.isPlain "item") =
      (e.children.filter fun c => c.1.name.isPlain "item").map (·.1) := List.filter_map ..
  rw [itemsOf, listOf, Xml.Element.childrenPlain, hfilter, List.length_map, List.length_map]

theorem count_cons (l : Option String × List (Option String)) (ls : Lists) (name : String) :
    count (l :: ls) name = if l.1 = some name then l.2.length else count ls name := by
  rw [count, List.find?_cons]
  by_cases h : l.1 = some name
  · simp [h]
  · have htest : (l.1 == some name) = false := by simpa using h
    rw [htest, if_neg h]
    rfl

theorem count_listsOf (name : String) (children : List (Xml.Element × String)) :
    ((children.find? fun c => isArray (.text name) c.1).map fun c => itemsOf c.1).getD 0 =
      count (listsOf children) name := by
  induction children with
  | nil => rfl
  | cons c rest ih =>
    obtain ⟨e, tail⟩ := c
    rw [List.find?_cons, listsOf_cons, isArray_text]
    by_cases harray : e.name.isPlain "string-array" = true
    · rw [if_pos harray, count_cons]
      by_cases hname : (listOf e).1 = some name
      · simp [harray, hname, itemsOf_eq]
      · have htest : ((listOf e).1 == some name) = false := by simpa using hname
        rw [htest, Bool.and_false, if_neg hname]
        exact ih
    · rw [if_neg harray, Bool.eq_false_iff.mpr harray, Bool.false_and]
      exact ih

theorem display_text (s : String) : (Value.text s).display = s := rfl

theorem descendantsPlain_addChild (e child : Xml.Element) (part : String) :
    (e.addChild child).descendantsPlain part =
      e.descendantsPlain part ++ child.all.filter fun d => d.name.isPlain part := by
  simp only [Xml.Element.descendantsPlain, Xml.Element.descendants, Xml.Element.allOfChildren_eq,
    Xml.Element.addChild, Xml.Element.children, List.flatMap_append, List.filter_append,
    List.flatMap_cons, List.flatMap_nil, List.append_nil]

theorem texts_addChild (root : Xml.Element) (name text : String) :
    texts (root.addChild ((Xml.named "string" name .escaped).withText (some text))) =
      texts root ++ [(some name, some text)] := by
  rw [texts, texts, descendantsPlain_addChild, List.map_append]
  rfl

section

variable {root : Xml.Element}

def withItem (name text : String) (root : Xml.Element) : Xml.Element :=
  match Xml.changeFirstChild (isArray (.text name)) (·.addChild (itemOf text)) root.children with
  | some children => root.withChildren children
  | none => root.addChild ((Xml.named "string-array" name .escaped).addChild (itemOf text))

theorem lists_withItem (name text : String) (root : Xml.Element) :
    lists (withItem name text root) = addTo name text (lists root) := by
  rw [withItem]
  split
  · rename_i children hchange
    exact addTo_of_some hchange
  · rename_i hchange
    refine Eq.trans ?_ (addTo_of_none hchange).symm
    simp only [lists, listsOf, Xml.Element.addChild, Xml.Element.children,
      List.map_append, List.filter_append]
    rfl

/-- No list stands within a child of the root. -/
def IsShallow (root : Xml.Element) : Prop :=
  ∀ c ∈ root.children, c.1.descendantsPlain "string-array" = []

theorem filter_allOfChildren {part : String} {children : List (Xml.Element × String)}
    (h : ∀ c ∈ children, c.1.descendantsPlain part = []) :
    ((Xml.Element.allOfChildren children).filter fun d => d.name.isPlain part) =
      (children.map (·.1)).filter fun d => d.name.isPlain part := by
  induction children with
  | nil => rfl
  | cons c rest ih =>
    obtain ⟨e, tail⟩ := c
    rw [List.forall_mem_cons] at h
    have hself : e.all = e :: e.descendants := by
      cases e
      rfl
    have hinner : (e.descendants.filter fun d => d.name.isPlain part) = [] := h.1
    rw [Xml.Element.allOfChildren, hself, List.cons_append, List.map_cons, List.filter_cons,
      List.filter_cons, List.filter_append, ih h.2, hinner, List.nil_append]

theorem allLists_of_isShallow (h : IsShallow root) : allLists root = lists root := by
  rw [allLists, lists, listsOf, Xml.Element.descendantsPlain, Xml.Element.descendants,
    filter_allOfChildren h]

theorem IsShallow.withItem (h : IsShallow root) (name text : String) :
    IsShallow (withItem name text root) := by
  rw [Resources.withItem]
  split
  · rename_i children hchange
    refine Xml.forall_changeFirstChild (P := fun e => e.descendantsPlain "string-array" = [])
      (fun e he => ?_) hchange h
    rw [descendantsPlain_addChild, he]
    rfl
  · refine List.forall_mem_append.mpr ⟨h, ?_⟩
    rintro c hc
    rw [List.mem_singleton.mp hc]
    rfl

theorem withItem_kept {name text : String} (hname : Xml.IsText name) (htext : Xml.IsText text)
    (h : root.Kept) : (withItem name text root).Kept := by
  have hitem : (itemOf text).Kept := Xml.kept_item htext
  rw [withItem]
  split
  · rename_i children hchange
    cases h with
    | mk hroot hattributes hnodup hfront hchildren htails =>
      refine .mk hroot hattributes hnodup hfront ?_ ?_
      · exact Xml.forall_changeFirstChild (fun e he => he.addChild hitem) hchange hchildren
      · intro c hc
        have hmem : c.2 ∈ children.map (·.2) := List.mem_map_of_mem hc
        rw [Xml.tails_changeFirstChild hchange] at hmem
        obtain ⟨c', hc', heq⟩ := List.mem_map.mp hmem
        exact heq ▸ htails c' hc'
  · have hlist : (Xml.named "string-array" name .escaped).Kept :=
      Xml.kept_named (by decide) hname (Xml.isText_of_isSimpleText rfl)
    exact h.addChild (hlist.addChild hitem)

theorem withItem_height (name text : String) {n : Nat} (h : root.height ≤ n + 3) :
    (withItem name text root).height ≤ n + 3 := by
  have hitem : (itemOf text).height ≤ 1 := Nat.le_refl 1
  rw [withItem]
  split
  · rename_i children hchange
    cases root with
    | mk rootName attributes front old =>
      have hold : ∀ c ∈ old, c.1.height ≤ n + 2 :=
        Xml.heightBelow_le_iff.mp (Nat.le_of_succ_le_succ (by rwa [Xml.Element.height] at h))
      rw [Xml.Element.withChildren, Xml.Element.height, Nat.add_le_add_iff_right,
        Xml.heightBelow_le_iff]
      refine Xml.forall_changeFirstChild (P := fun e => e.height ≤ n + 2) (fun e he => ?_) hchange hold
      exact Xml.height_addChild he (Nat.le_trans hitem (by omega))
  · have hlist : ((Xml.named "string-array" name .escaped).addChild (itemOf text)).height ≤ 2 :=
      Xml.height_addChild (Nat.le_succ 1) hitem
    exact Xml.height_addChild h (Nat.le_trans hlist (by omega))

end

/-! Files. -/

theorem readDocument_iff {fs : FileSystem} {path : String} {l : FileSystem.Location}
    {bytes : ByteArray} (h : fs.Leads path l bytes) (root : Xml.Element) :
    readDocument fs path = .ok root ↔ Xml.read .tree bytes = .ok root := by
  obtain ⟨e, he⟩ : ∃ e, fs.entry path = .ok e := by
    obtain ⟨hl, x, hat⟩ := h
    exact ⟨_, by simp only [FileSystem.entry, hl, hat, bind, Except.bind]; rfl⟩
  simp only [readDocument, he, h.readBytes]
  cases Xml.read .tree bytes with
  | ok found => simp
  | error e => cases e <;> simp

/-- A path leads to a file with a document that is read back as it is when it is written. -/
def Holds (fs : FileSystem) (path : String) (l : FileSystem.Location) (root : Xml.Element) : Prop :=
  ∃ bytes, fs.Leads (Path.tidy path) l bytes ∧ Xml.read .tree bytes = .ok root ∧ root.Kept ∧
    root.height ≤ Xml.maxHeight

def KeepsOthers (l : FileSystem.Location) (fs fs' : FileSystem) : Prop :=
  ∀ path' l' root', l' ≠ l → Holds fs path' l' root' → Holds fs' path' l' root'

def HoldsSome (fs : FileSystem) (path : String) (l : FileSystem.Location)
    (P : Xml.Element → Prop) : Prop :=
  ∃ root, Holds fs path l root ∧ P root

theorem KeepsOthers.holdsSome {l l' : FileSystem.Location} {fs fs' : FileSystem}
    (h : KeepsOthers l fs fs') (hne : l' ≠ l) {path : String} {P : Xml.Element → Prop}
    (hsome : HoldsSome fs path l' P) : HoldsSome fs' path l' P := by
  obtain ⟨root, hholds, hroot⟩ := hsome
  exact ⟨root, h path l' root hne hholds, hroot⟩

section

variable {fs : FileSystem} {path : String} {l : FileSystem.Location} {root : Xml.Element}

theorem Holds.kept (h : Holds fs path l root) : root.Kept := by
  obtain ⟨bytes, hleads, hread, hkept, -⟩ := h
  exact hkept

theorem Holds.height (h : Holds fs path l root) : root.height ≤ Xml.maxHeight := by
  obtain ⟨bytes, hleads, hread, -, hheight⟩ := h
  exact hheight

theorem Holds.unique (h : Holds fs path l root) {path' : String} {root' : Xml.Element}
    (h' : Holds fs path' l root') : root = root' := by
  obtain ⟨bytes, ⟨hlocate, x, hat⟩, hread, hkept⟩ := h
  obtain ⟨bytes', ⟨hlocate', x', hat'⟩, hread', hkept'⟩ := h'
  rw [hat] at hat'
  cases hat'
  rw [hread] at hread'
  exact Except.ok.inj hread'

theorem Holds.readDocument (h : Holds fs path l root) :
    Resources.readDocument fs (Path.tidy path) = .ok root := by
  obtain ⟨bytes, hleads, hread, -⟩ := h
  exact (readDocument_iff hleads root).mpr hread

theorem Holds.writeDocument {α : Type} (h : Holds fs path l root) {root' : Xml.Element}
    (hkept : root'.Kept) (hheight : root'.height ≤ Xml.maxHeight) (result : α) :
    ∃ fs', Resources.writeDocument fs (Path.tidy path) root' result = (.ok result, fs') ∧
      Holds fs' path l root' ∧ KeepsOthers l fs fs' := by
  obtain ⟨bytes, hleads, -, -⟩ := h
  obtain ⟨fs', hwrite, hthere, hothers⟩ := hleads.writeText (Xml.documentText root').1
  refine ⟨fs', ?_, ⟨_, hthere, Xml.read_documentText hkept hheight, hkept, hheight⟩, ?_⟩
  · have hcomplete : (Xml.documentText root').2 = none := by
      rw [Xml.documentText_of_kept hkept hheight]
    simp only [Resources.writeDocument, hwrite, hcomplete]
  · rintro path' l' root'' hne ⟨bytes', hleads', hread', hkept'⟩
    exact ⟨bytes', hothers _ _ _ hne hleads', hread', hkept'⟩

/-- An item goes to the list of its name. With a number it is one more than the list has items. -/
theorem Holds.addItem (h : Holds fs path l root) {name text item : String} (addId : Bool)
    (hname : Xml.IsText name) (hitem : Xml.IsText item)
    (hnumber : item =
      if addId then text ++ toString (count (lists root) name + 1) else text) :
    ∃ fs', Resources.addItem fs (.text name) (.text text) path addId = (.ok (.text item), fs') ∧
      Holds fs' path l (withItem name item root) ∧ KeepsOthers l fs fs' := by
  have hkept : (withItem name item root).Kept := withItem_kept hname hitem h.kept
  obtain ⟨fs', hwrite, hholds, hothers⟩ :=
    h.writeDocument hkept (withItem_height name item h.height) (Value.text item)
  refine ⟨fs', ?_, hholds, hothers⟩
  have hvalue : (if addId then
      Value.text (text ++ toString (count (lists root) name + 1)) else .text text) =
      .text item := by
    rw [hnumber]
    cases addId <;> rfl
  unfold Resources.addItem
  extract_lets tidied
  have hlast := count_listsOf name root.children
  simp only [tidied, h.readDocument, display_text, hlast]
  rw [lists] at hvalue
  simp only [hvalue]
  exact hwrite

theorem Holds.setText (h : Holds fs path l root) {key text : String}
    (hkey : Xml.IsText key) (htext : Xml.IsText text) (hquote : '\'' ∉ key.toList)
    (hfresh : ∀ t ∈ texts root, t.1 ≠ some key) :
    ∃ fs' root', Resources.setText fs (.text key) (.text text) path = (.ok (), fs') ∧
      Holds fs' path l root' ∧ texts root' = texts root ++ [(some key, some text)] ∧
      KeepsOthers l fs fs' := by
  have hkept : (root.addChild ((Xml.named "string" key .escaped).withText (some text))).Kept :=
    h.kept.addChild (Xml.kept_named (by decide) hkey htext)
  have hheight : (root.addChild ((Xml.named "string" key .escaped).withText (some text))).height ≤
      Xml.maxHeight := Xml.height_addChild h.height (Nat.succ_le_succ (Nat.zero_le 988))
  obtain ⟨fs', hwrite, hholds, hothers⟩ := h.writeDocument hkept hheight ()
  refine ⟨fs', _, ?_, hholds, texts_addChild root key text, hothers⟩
  have hfind : Xml.find? root (queryFor (.text key)) = .ok none := by
    refine Xml.Query.find?_queryFor_of_fresh hquote ?_
    intro e he
    exact hfresh (e.plainAttribute? "name", e.text) (List.mem_map_of_mem he)
  unfold Resources.setText
  extract_lets tidied
  simp only [tidied, h.readDocument]
  -- The search is replaced before anything can start to compute it.
  rw [hfind]
  exact hwrite

end

end Resources
end DroidAudit
