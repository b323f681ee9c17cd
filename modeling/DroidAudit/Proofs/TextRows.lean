import DroidAudit.Xml.Basic
import Mathlib.Data.Finset.Card

/-! Rows as a store of texts. A text is stored in the first row of its name, or in a new row at the
end. Storing many texts changes those rows and no others. -/
namespace DroidAudit.Xml

/-! Rows. -/

/-- An element without those below it. Names are given by their namespaces and parts. -/
structure Row where
  depth : Nat
  name : String × String
  attributes : List ((String × String) × String)
  text : String
  tail : String
  deriving Repr, DecidableEq

namespace Row

/-- A named text can only be below the root. -/
def isString (row : Row) : Bool := row.depth != 0 && row.name == ("", "string")

def key? (row : Row) : Option String :=
  if row.isString then (row.attributes.find? (·.1 == ("", "name"))).map (·.2) else none

def new (key text : String) : Row := ⟨1, ("", "string"), [(("", "name"), key)], text, ""⟩

theorem key?_new (key text : String) : (new key text).key? = some key := rfl

theorem key?_withText (row : Row) (text : String) : { row with text }.key? = row.key? := rfl

end Row

/-! Storing. -/

def lookup (rows : List Row) (key : String) : Option String :=
  (rows.find? (·.key? == some key)).map (·.text)

def strings (rows : List Row) : Nat := rows.countP (·.isString)

def put (key text : String) : List Row → List Row
  | [] => [.new key text]
  | row :: rows =>
    if row.key? = some key then { row with text } :: rows else row :: put key text rows

section Storing

variable {key text : String} {row : Row} {rows : List Row}

theorem put_cons_of_eq (h : row.key? = some key) :
    put key text (row :: rows) = { row with text } :: rows := if_pos h

theorem put_cons_of_ne (h : row.key? ≠ some key) :
    put key text (row :: rows) = row :: put key text rows := if_neg h

theorem lookup_cons (row : Row) (rows : List Row) (key : String) :
    lookup (row :: rows) key = if row.key? = some key then some row.text else lookup rows key := by
  by_cases h : row.key? = some key <;> simp [lookup, h]

theorem lookup_put (key text : String) (rows : List Row) (other : String) :
    lookup (put key text rows) other = if other = key then some text else lookup rows other := by
  induction rows with
  | nil =>
    rw [put, lookup_cons, Row.key?_new]
    simp [Row.new, eq_comm]
  | cons row rows ih =>
    by_cases h : row.key? = some key
    · rw [put_cons_of_eq h, lookup_cons, lookup_cons, Row.key?_withText, h]
      by_cases hother : other = key
      · simp [hother]
      · simp [hother, Ne.symm hother]
    · rw [put_cons_of_ne h, lookup_cons, lookup_cons, ih]
      by_cases hother : other = key
      · simp [hother, h]
      · simp [hother]

theorem strings_put (key text : String) (rows : List Row) :
    strings (put key text rows) = strings rows + if lookup rows key = none then 1 else 0 := by
  induction rows with
  | nil => rfl
  | cons row rows ih =>
    by_cases h : row.key? = some key
    · rw [put_cons_of_eq h, lookup_cons]
      simp [strings, List.countP_cons, h, Row.isString]
    · rw [put_cons_of_ne h, lookup_cons, if_neg h]
      simp only [strings, List.countP_cons] at ih ⊢
      omega

/-- What holds for new rows and whatever text a row has holds after a text is stored. -/
theorem forall_put (key text : String) {P : Row → Prop} (h : ∀ row ∈ rows, P row)
    (hnew : P (.new key text)) (htext : ∀ row, P row → P { row with text }) :
    ∀ row ∈ put key text rows, P row := by
  induction rows with
  | nil => exact List.forall_mem_singleton.mpr hnew
  | cons row rows ih =>
    obtain ⟨hrow, hrows⟩ := List.forall_mem_cons.mp h
    by_cases hkey : row.key? = some key
    · rw [put_cons_of_eq hkey]
      exact List.forall_mem_cons.mpr ⟨htext row hrow, hrows⟩
    · rw [put_cons_of_ne hkey]
      exact List.forall_mem_cons.mpr ⟨hrow, ih hrows⟩

theorem forall_of_put {P : Row → Prop} (h : ∀ row ∈ put key text rows, P row)
    (htext : ∀ row, P { row with text } → P row) : ∀ row ∈ rows, P row := by
  induction rows with
  | nil => simp
  | cons row rows ih =>
    by_cases hkey : row.key? = some key
    · rw [put_cons_of_eq hkey, List.forall_mem_cons] at h
      exact List.forall_mem_cons.mpr ⟨htext row h.1, h.2⟩
    · rw [put_cons_of_ne hkey, List.forall_mem_cons] at h
      exact List.forall_mem_cons.mpr ⟨h.1, ih h.2⟩

theorem put_append_of_mem {more : List Row} (h : some key ∈ rows.map (·.key?)) :
    put key text (rows ++ more) = put key text rows ++ more := by
  induction rows with
  | nil => cases h
  | cons row rows ih =>
    by_cases hkey : row.key? = some key
    · rw [List.cons_append, put_cons_of_eq hkey, put_cons_of_eq hkey, List.cons_append]
    · have hmem := (List.mem_cons.mp h).resolve_left (Ne.symm hkey)
      rw [List.cons_append, put_cons_of_ne hkey, put_cons_of_ne hkey, ih hmem, List.cons_append]

theorem put_append_of_not_mem {more : List Row} (h : some key ∉ rows.map (·.key?)) :
    put key text (rows ++ more) = rows ++ put key text more := by
  induction rows with
  | nil => rfl
  | cons row rows ih =>
    rw [List.map_cons, List.mem_cons, not_or] at h
    rw [List.cons_append, put_cons_of_ne (Ne.symm h.1), ih h.2, List.cons_append]

end Storing

/-! Storing one text after the other. -/

def putAll (writes : List (String × String)) (rows : List Row) : List Row :=
  writes.foldl (fun rows w => put w.1 w.2 rows) rows

theorem lookup_write (w : String × String) (writes : List (String × String)) (key : String) :
    (w :: writes).lookup key = if key = w.1 then some w.2 else writes.lookup key := by
  obtain ⟨name, text⟩ := w
  rw [List.lookup_cons]
  by_cases h : key = name
  · rw [if_pos h, beq_iff_eq.mpr h]
  · rw [if_neg h, beq_eq_false_iff_ne.mpr h]

theorem lookup_putAll (writes : List (String × String)) (rows : List Row) (key : String) :
    lookup (putAll writes rows) key = (writes.reverse.lookup key).or (lookup rows key) := by
  induction writes generalizing rows with
  | nil => rfl
  | cons w writes ih =>
    have hcons : putAll (w :: writes) rows = putAll writes (put w.1 w.2 rows) := rfl
    rw [hcons, ih, lookup_put, List.reverse_cons, List.lookup_append, Option.or_assoc, lookup_write]
    by_cases h : key = w.1
    · rw [if_pos h, if_pos h, Option.some_or]
    · rw [if_neg h, if_neg h, List.lookup_nil, Option.none_or]

/-- Only names without a text get new elements, and each of them gets one. -/
theorem strings_putAll (writes : List (String × String)) (rows : List Row) :
    strings (putAll writes rows) = strings rows +
      ((writes.map (·.1)).toFinset.filter fun key => lookup rows key = none).card := by
  induction writes generalizing rows with
  | nil => rfl
  | cons w writes ih =>
    have hcons : putAll (w :: writes) rows = putAll writes (put w.1 w.2 rows) := rfl
    rw [hcons, ih, strings_put, List.map_cons, List.toFinset_cons, Finset.filter_insert]
    generalize (writes.map (·.1)).toFinset = keys
    have hother : (keys.filter fun key => lookup (put w.1 w.2 rows) key = none) =
        (keys.filter fun key => lookup rows key = none).erase w.1 := by
      ext key
      simp only [Finset.mem_filter, Finset.mem_erase, lookup_put]
      by_cases h : key = w.1 <;> simp [h]
    rw [hother]
    by_cases h : lookup rows w.1 = none
    · have hcard := Finset.card_erase_add_one (Finset.mem_insert_self w.1
        (keys.filter fun key => lookup rows key = none))
      rw [Finset.erase_insert_eq_erase] at hcard
      rw [if_pos h, if_pos h]
      omega
    · have hnot : w.1 ∉ keys.filter fun key => lookup rows key = none := by simp [h]
      rw [if_neg h, if_neg h, Finset.erase_eq_of_notMem hnot, Nat.add_zero]

/-! All texts at once. -/

/-- Notes the text of a name. A name keeps its place. -/
def record (key text : String) : List (String × String) → List (String × String)
  | [] => [(key, text)]
  | w :: ws => if w.1 = key then (key, text) :: ws else w :: record key text ws

def latest (writes : List (String × String)) : List (String × String) :=
  writes.foldl (fun values w => record w.1 w.2 values) []

/-- Rows with new texts: each text goes to the first row of its name, and what is left over makes new
rows at the end. -/
def filled (values : List (String × String)) : List Row → List Row
  | [] => values.map fun w => .new w.1 w.2
  | row :: rows =>
    { row with text := (row.key?.bind fun key => values.lookup key).getD row.text } ::
      filled (values.filter fun w => row.key? ≠ some w.1) rows

theorem lookup_record (key text : String) (values : List (String × String)) (other : String) :
    (record key text values).lookup other = if other = key then some text else values.lookup other := by
  induction values with
  | nil => rw [record, lookup_write]
  | cons w ws ih =>
    rw [record, lookup_write]
    by_cases h : w.1 = key
    · rw [if_pos h, lookup_write]
      by_cases hother : other = key <;> simp [h, hother]
    · rw [if_neg h, lookup_write, ih]
      by_cases hname : other = w.1 <;> simp [h, hname]

theorem filter_record (keeps : String → Bool) (key text : String)
    (values : List (String × String)) :
    (record key text values).filter (fun w => keeps w.1) =
      if keeps key then record key text (values.filter fun w => keeps w.1)
      else values.filter fun w => keeps w.1 := by
  induction values with
  | nil => cases h : keeps key <;> simp [record, h]
  | cons w ws ih =>
    by_cases hname : w.1 = key
    · cases h : keeps key <;> simp [record, hname, h]
    · cases h : keeps key <;> cases hkeeps : keeps w.1 <;>
        simpa [record, hname, h, hkeeps] using ih

theorem map_record (key text : String) (values : List (String × String)) :
    ((record key text values).map fun w => Row.new w.1 w.2) =
      put key text (values.map fun w => .new w.1 w.2) := by
  induction values with
  | nil => rfl
  | cons w ws ih =>
    by_cases h : w.1 = key
    · have hkey : (Row.new w.1 w.2).key? = some key := by rw [Row.key?_new, h]
      rw [List.map_cons, put_cons_of_eq hkey]
      simp [record, h, Row.new]
    · have hkey : (Row.new w.1 w.2).key? ≠ some key := by simpa [Row.key?_new] using h
      rw [List.map_cons, put_cons_of_ne hkey]
      simp [record, h, ih]

theorem filled_record (key text : String) (values : List (String × String)) (rows : List Row) :
    filled (record key text values) rows = put key text (filled values rows) := by
  induction rows generalizing values with
  | nil => exact map_record key text values
  | cons row rows ih =>
    rw [filled, filled]
    have hfilter := filter_record (fun name => row.key? ≠ some name) key text values
    by_cases h : row.key? = some key
    · rw [if_neg (by simp [h])] at hfilter
      have hlookup := lookup_record key text values key
      rw [put_cons_of_eq (by exact h), hfilter]
      simp [h, hlookup]
    · rw [if_pos (by simp [h])] at hfilter
      have htext : (row.key?.bind fun name => (record key text values).lookup name) =
          row.key?.bind fun name => values.lookup name := by
        cases hkey : row.key? with
        | none => rfl
        | some name =>
          have hname : name ≠ key := fun heq => h (heq ▸ hkey)
          exact (lookup_record key text values name).trans (if_neg hname)
      rw [put_cons_of_ne (by exact h), hfilter, ih, htext]

theorem filled_nil (rows : List Row) : filled [] rows = rows := by
  induction rows with
  | nil => rfl
  | cons row rows ih => cases h : row.key? <;> simp [filled, h, ih]

theorem putAll_eq (writes : List (String × String)) (rows : List Row) :
    putAll writes rows = filled (latest writes) rows := by
  have hfold : ∀ (writes values : List (String × String)), putAll writes (filled values rows) =
      filled (writes.foldl (fun values w => record w.1 w.2 values) values) rows := by
    intro writes
    induction writes with
    | nil => exact fun values => rfl
    | cons w writes ih =>
      intro values
      have hcons : putAll (w :: writes) (filled values rows) =
          putAll writes (put w.1 w.2 (filled values rows)) := rfl
      rw [hcons, ← filled_record, ih]
      rfl
  have hall := hfold writes []
  rwa [filled_nil] at hall

/-- What rows are after texts were written one after the other: the last text of a name counts, and
only names without a text get new elements, one each. The rows are else as they were. -/
structure Stores (writes : List (String × String)) (rows rows' : List Row) : Prop where
  lookup_eq : ∀ key, lookup rows' key = (writes.reverse.lookup key).or (lookup rows key)
  strings_eq : strings rows' = strings rows +
    ((writes.map (·.1)).toFinset.filter fun key => lookup rows key = none).card
  rows_eq : rows' = filled (latest writes) rows

theorem stores_putAll (writes : List (String × String)) (rows : List Row) :
    Stores writes rows (putAll writes rows) :=
  ⟨lookup_putAll writes rows, strings_putAll writes rows, putAll_eq writes rows⟩

end DroidAudit.Xml
