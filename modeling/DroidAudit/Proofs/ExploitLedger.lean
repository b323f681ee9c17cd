import DroidAudit.Exploit
import DroidAudit.Proofs.ResourceFiles

/-! The components of an exploit as entries of a ledger: a list of keys for each kind of component,
the arguments under each key, and the names of the components. A key is the word for the kind with a
number that no earlier one of the kind has, so no entry falls on another. -/
namespace DroidAudit

open Resources (Lists count addTo)

structure Offer where
  component : Component
  package : String
  name : String
  arguments : List String
  packageText : Xml.IsText package
  nameText : Xml.IsText name
  argumentTexts : ∀ a ∈ arguments, Xml.IsText a

namespace Resources

theorem count_addTo (name item name' : String) (ls : Lists) :
    count (addTo name item ls) name' =
      if name' = name then count ls name' + 1 else count ls name' := by
  induction ls with
  | nil =>
    rw [addTo, count_cons]
    by_cases h : name' = name
    · subst h
      simp [count]
    · simp [h, Ne.symm h]
  | cons l rest ih =>
    rw [addTo]
    split
    · rename_i hl
      rw [count_cons, count_cons, hl]
      by_cases h : name' = name
      · subst h
        simp
      · simp [h, Ne.symm h]
    · rename_i hl
      rw [count_cons, count_cons, ih]
      by_cases h : l.1 = some name'
      · have hne : name' ≠ name := by
          rintro rfl
          exact hl h
        simp [h, hne]
      · simp [h]

variable {ls : Lists} {name : String}

theorem addTo_of_mem {item : String} (hnodup : (ls.map (·.1)).Nodup)
    (h : some name ∈ ls.map (·.1)) :
    addTo name item ls =
      ls.map fun l => (l.1, if l.1 = some name then l.2 ++ [some item] else l.2) := by
  induction ls with
  | nil => cases h
  | cons l rest ih =>
    rw [List.map_cons, List.nodup_cons] at hnodup
    rw [addTo, List.map_cons]
    split
    · rename_i hl
      have hrest : ∀ m ∈ rest, ¬m.1 = some name := by
        intro m hm heq
        exact hnodup.1 (hl ▸ heq ▸ List.mem_map_of_mem hm)
      rw [List.map_congr_left fun m hm => by rw [if_neg (hrest m hm)]]
      simp
    · rename_i hl
      rw [ih hnodup.2]
      exact (List.mem_cons.mp h).resolve_left fun heq => hl heq.symm

theorem addTo_append (h : some name ∉ ls.map (·.1))
    (item : String) (rest : Lists) : addTo name item (ls ++ rest) = ls ++ addTo name item rest := by
  induction ls with
  | nil => rfl
  | cons l ls ih =>
    rw [List.map_cons, List.mem_cons, not_or] at h
    rw [List.cons_append, addTo, if_neg fun heq => h.1 heq.symm, ih h.2]
    rfl

theorem foldl_addTo (h : some name ∉ ls.map (·.1)) (items : List String) :
    items.foldl (fun ls item => addTo name item ls) ls =
      ls ++ if items.isEmpty then [] else [(some name, items.map some)] := by
  have hmore : ∀ (items : List String) (front : List (Option String)),
      items.foldl (fun ls item => addTo name item ls) (ls ++ [(some name, front)]) =
        ls ++ [(some name, front ++ items.map some)] := by
    intro items
    induction items with
    | nil => simp
    | cons item items ih =>
      intro front
      rw [List.foldl_cons, addTo_append h, addTo, if_pos rfl, ih]
      simp
  cases items with
  | nil => simp
  | cons item items =>
    have hnew : addTo name item ls = ls ++ [(some name, [some item])] := by
      simpa [addTo] using addTo_append h item []
    rw [List.foldl_cons, hnew, hmore]
    rfl

end Resources

/-! Keys. -/

def keyOf (c : Component) (n : Nat) : String := c.word ++ toString n

theorem toList_keyOf (c : Component) (n : Nat) :
    (keyOf c n).toList = c.word.toList ++ Nat.toDigits 10 n := by
  rw [keyOf, String.toList_append, Nat.toString_eq_ofList_toDigits, String.toList_ofList]

theorem word_not_digit (c : Component) : ∀ d ∈ c.word.toList, (!d.isDigit) = true :=
  List.all_eq_true.mp (by cases c <;> decide)

theorem isDigit_of_mem_number {n : Nat} {d : Char} (h : d ∈ Nat.toDigits 10 n) : d.isDigit = true :=
  Nat.isDigit_of_mem_toDigits (by decide) (by decide) h

theorem digit_mem_keyOf (c : Component) (n : Nat) : ∃ d ∈ (keyOf c n).toList, d.isDigit = true := by
  obtain ⟨d, ds, hdigits⟩ := List.exists_cons_of_ne_nil (Nat.toDigits_ne_nil (n := n) (b := 10))
  have hd : d ∈ Nat.toDigits 10 n := by simp [hdigits]
  exact ⟨d, toList_keyOf c n ▸ List.mem_append_right _ hd, isDigit_of_mem_number hd⟩

/-- The letters of a key give its kind of component and the digits its number. -/
theorem keyOf_inj {c c' : Component} {n n' : Nat} (h : keyOf c n = keyOf c' n') :
    c = c' ∧ n = n' := by
  have hletters : ∀ c n, (keyOf c n).toList.filter (!·.isDigit) = c.word.toList := by
    intro c n
    rw [toList_keyOf, List.filter_append, List.filter_eq_self.mpr (word_not_digit c),
      List.filter_eq_nil_iff.mpr, List.append_nil]
    intro d hd
    simp [isDigit_of_mem_number hd]
  have hdigits : ∀ c n, (keyOf c n).toList.filter (·.isDigit) = Nat.toDigits 10 n := by
    intro c n
    rw [toList_keyOf, List.filter_append, List.filter_eq_nil_iff.mpr, List.nil_append,
      List.filter_eq_self.mpr fun d hd => isDigit_of_mem_number hd]
    intro d hd
    simpa using word_not_digit c d hd
  constructor
  · have hword : c.word.toList = c'.word.toList := by rw [← hletters c n, h, hletters]
    revert hword
    cases c <;> cases c' <;> decide
  · have hnumber : Nat.toDigits 10 n = Nat.toDigits 10 n' := by rw [← hdigits c n, h, hdigits]
    calc n = Nat.ofDigitChars 10 (Nat.toDigits 10 n) 0 := Nat.ofDigitChars_ten_toDigits.symm
      _ = Nat.ofDigitChars 10 (Nat.toDigits 10 n') 0 := by rw [hnumber]
      _ = n' := Nat.ofDigitChars_ten_toDigits

theorem listName_inj {c c' : Component} : c.listName = c'.listName ↔ c = c' := by
  cases c <;> cases c' <;> decide

def oneMore (numbers : Component → Nat) (c : Component) : Component → Nat :=
  fun c' => if c' = c then numbers c' + 1 else numbers c'

/-- Components with the keys that they get, where some of each kind are there already. -/
def keyed (numbers : Component → Nat) : List Offer → List (String × Offer)
  | [] => []
  | o :: os =>
    (keyOf o.component (numbers o.component + 1), o) :: keyed (oneMore numbers o.component) os

theorem keyed_offers (numbers : Component → Nat) (os : List Offer) :
    (keyed numbers os).map (·.2) = os := by
  induction os generalizing numbers with
  | nil => rfl
  | cons o os ih => rw [keyed, List.map_cons, ih]

theorem le_oneMore (numbers : Component → Nat) (c c' : Component) :
    numbers c' ≤ oneMore numbers c c' := by
  rw [oneMore]
  split <;> omega

theorem exists_of_mem_keyed {numbers : Component → Nat} {os : List Offer} {key : String}
    (h : key ∈ (keyed numbers os).map (·.1)) :
    ∃ c n, numbers c < n ∧ key = keyOf c n := by
  induction os generalizing numbers with
  | nil => cases h
  | cons o os ih =>
    rw [keyed, List.map_cons] at h
    rcases List.mem_cons.mp h with rfl | hrest
    · exact ⟨o.component, numbers o.component + 1, Nat.lt_succ_self _, rfl⟩
    · obtain ⟨c, n, hn, rfl⟩ := ih hrest
      exact ⟨c, n, Nat.lt_of_le_of_lt (le_oneMore numbers o.component c) hn, rfl⟩

theorem keyed_nodup (numbers : Component → Nat) (os : List Offer) :
    ((keyed numbers os).map (·.1)).Nodup := by
  induction os generalizing numbers with
  | nil => exact List.nodup_nil
  | cons o os ih =>
    rw [keyed, List.map_cons, List.nodup_cons]
    refine ⟨?_, ih _⟩
    intro hmem
    obtain ⟨c, n, hn, heq⟩ := exists_of_mem_keyed hmem
    obtain ⟨rfl, rfl⟩ := keyOf_inj heq
    simp [oneMore] at hn

/-! The ledger. -/

structure Ledger where
  intents : Lists
  extras : Lists
  strings : List (Option String × Option String)

namespace Ledger

def numbers (l : Ledger) (c : Component) : Nat := count l.intents c.listName

def key (l : Ledger) (o : Offer) : String := keyOf o.component (l.numbers o.component + 1)

def write (l : Ledger) (o : Offer) : Ledger :=
  { intents := addTo o.component.listName (l.key o) l.intents
    extras :=
      if Exploit.takesExtras o.component then
        o.arguments.foldl (fun ls a => addTo (l.key o) a ls) l.extras
      else l.extras
    strings := l.strings ++ [(some (l.key o), some (o.package ++ o.name))] }

/-- There is one list for each kind of component, and the keys to come are not taken. -/
structure Sound (l : Ledger) : Prop where
  distinct : (l.intents.map (·.1)).Nodup
  listed : ∀ c : Component, some c.listName ∈ l.intents.map (·.1)
  newLists : ∀ c n, l.numbers c < n → some (keyOf c n) ∉ l.extras.map (·.1)
  newTexts : ∀ c n, l.numbers c < n → some (keyOf c n) ∉ l.strings.map (·.1)

def listed (ls : Lists) (ks : List (String × Offer)) : Lists :=
  ls.map fun l =>
    (l.1, l.2 ++ (ks.filter fun k => l.1 = some k.2.component.listName).map fun k => some k.1)

def extrasOf (ks : List (String × Offer)) : Lists :=
  (ks.filter fun k => k.2.component ≠ .service ∧ k.2.arguments ≠ []).map fun k =>
    (some k.1, k.2.arguments.map some)

def textsOf (ks : List (String × Offer)) : List (Option String × Option String) :=
  ks.map fun k => (some k.1, some (k.2.package ++ k.2.name))

def after (l : Ledger) (ks : List (String × Offer)) : Ledger :=
  { intents := listed l.intents ks
    extras := l.extras ++ extrasOf ks
    strings := l.strings ++ textsOf ks }

theorem numbers_write (l : Ledger) (o : Offer) :
    (l.write o).numbers = oneMore l.numbers o.component := by
  funext c
  simp only [numbers, write, Resources.count_addTo, listName_inj, oneMore]

theorem after_nil (l : Ledger) : l.after [] = l := by
  simp [after, listed, extrasOf, textsOf]

variable {l : Ledger}

theorem intents_write (h : l.Sound) (o : Offer) :
    (l.write o).intents = listed l.intents [(l.key o, o)] := by
  rw [write, Resources.addTo_of_mem h.distinct (h.listed o.component), listed]
  refine List.map_congr_left fun m _ => ?_
  by_cases hm : m.1 = some o.component.listName <;> simp [hm]

theorem extras_write (h : l.Sound) (o : Offer) :
    (l.write o).extras = l.extras ++ extrasOf [(l.key o, o)] := by
  have hnew : some (l.key o) ∉ l.extras.map (·.1) :=
    h.newLists o.component _ (Nat.lt_succ_self _)
  rw [write, Resources.foldl_addTo hnew, extrasOf]
  by_cases hservice : o.component = .service
  · simp [hservice, Exploit.takesExtras]
  · cases harguments : o.arguments <;> simp [hservice, harguments, Exploit.takesExtras]

theorem write_eq (h : l.Sound) (o : Offer) : l.write o = l.after [(l.key o, o)] := by
  rw [after, ← intents_write h, ← extras_write h]
  rfl

theorem after_after (l : Ledger) (ks ks' : List (String × Offer)) :
    (l.after ks).after ks' = l.after (ks ++ ks') := by
  simp [after, listed, extrasOf, textsOf]

theorem names_listed (ls : Lists) (ks : List (String × Offer)) :
    (listed ls ks).map (·.1) = ls.map (·.1) := by
  simp [listed]

theorem keyOf_ne {o : Offer} {c : Component} {n : Nat}
    (h : (l.write o).numbers c < n) : keyOf c n ≠ l.key o := by
  intro heq
  obtain ⟨rfl, rfl⟩ := keyOf_inj heq
  rw [numbers_write] at h
  simp [oneMore] at h

theorem Sound.write (h : l.Sound) (o : Offer) : (l.write o).Sound := by
  have hbefore : ∀ c n, (l.write o).numbers c < n → l.numbers c < n := by
    intro c n hn
    rw [numbers_write] at hn
    exact Nat.lt_of_le_of_lt (le_oneMore l.numbers o.component c) hn
  constructor
  · rw [intents_write h, names_listed]
    exact h.distinct
  · rw [intents_write h, names_listed]
    exact h.listed
  · intro c n hn
    rw [extras_write h, List.map_append, List.mem_append, not_or]
    refine ⟨h.newLists c n (hbefore c n hn), ?_⟩
    intro hmem
    obtain ⟨m, hm, heq⟩ := List.mem_map.mp hmem
    obtain ⟨k, hk, rfl⟩ := List.mem_map.mp hm
    rw [List.mem_singleton.mp (List.mem_of_mem_filter hk)] at heq
    exact keyOf_ne hn (Option.some.inj heq).symm
  · intro c n hn
    rw [write_eq h, after, List.map_append, List.mem_append, not_or]
    refine ⟨h.newTexts c n (hbefore c n hn), ?_⟩
    intro hmem
    exact keyOf_ne hn (Option.some.inj (List.mem_singleton.mp hmem))

theorem foldl_write (h : l.Sound) (os : List Offer) :
    os.foldl write l = l.after (keyed l.numbers os) := by
  induction os generalizing l with
  | nil => exact (after_nil l).symm
  | cons o os ih =>
    rw [List.foldl_cons, ih (h.write o), numbers_write, write_eq h, after_after, keyed]
    rfl

end Ledger

end DroidAudit
