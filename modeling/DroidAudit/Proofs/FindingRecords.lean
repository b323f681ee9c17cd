import DroidAudit.Proofs.ExportedReport
import DroidAudit.Proofs.JsonLayout

/-! Findings written as structured data and read again. A mark, that is a severity or a kind of
component, has no form as structured data: one mark in a finding, and a notice stands for all of them.
A finding that is nested too deep cannot be copied, and then nothing is written. The first finding
with one or the other decides. If there is none, each finding is read as a record of its fields, in
which only the tuples have become lists. -/
namespace DroidAudit

namespace Value

/-! Values with and without marks. -/

/-- The parts of a value that have no form as structured data. -/
def IsMark : Value → Prop
  | .severity _ => True
  | .component _ => True
  | _ => False

/-- A value is part of another, at any depth. -/
inductive OccursIn (x : Value) : Value → Prop
  | here : OccursIn x x
  | list {v : Value} {items : List Value} (hv : v ∈ items) (h : OccursIn x v) :
      OccursIn x (.list items)
  | tuple {v : Value} {items : List Value} (hv : v ∈ items) (h : OccursIn x v) :
      OccursIn x (.tuple items)
  | table {key : String} {v : Value} {entries : List (String × Value)}
      (hv : (key, v) ∈ entries) (h : OccursIn x v) : OccursIn x (.table entries)

mutual

/-- Texts, integers, truth values, nothing and marks, put together by lists, tuples and tables. -/
def IsBuilt : Value → Prop
  | .real _ => False
  | .text s => Json.IsSettled s
  | .list items => ItemsBuilt items
  | .tuple items => ItemsBuilt items
  | .table entries => (entries.map (·.1)).Nodup ∧ EntriesBuilt entries
  | _ => True

def ItemsBuilt : List Value → Prop
  | [] => True
  | v :: vs => IsBuilt v ∧ ItemsBuilt vs

def EntriesBuilt : List (String × Value) → Prop
  | [] => True
  | (k, v) :: es => Json.IsSettled k ∧ IsBuilt v ∧ EntriesBuilt es

end

mutual

def untupled : Value → Value
  | .list items => .list (itemsUntupled items)
  | .tuple items => .list (itemsUntupled items)
  | .table entries => .table (entriesUntupled entries)
  | v => v

def itemsUntupled : List Value → List Value
  | [] => []
  | v :: vs => untupled v :: itemsUntupled vs

def entriesUntupled : List (String × Value) → List (String × Value)
  | [] => []
  | (k, v) :: es => (k, untupled v) :: entriesUntupled es

end

end Value

namespace Json

mutual

def toValue : Json → Value
  | .null => .null
  | .bool b => .bool b
  | .int n => .int n
  | .real x => .real x
  | .text s => .text s
  | .array items => .list (itemsToValue items)
  | .object entries => .table (entriesToValue entries)

def itemsToValue : List Json → List Value
  | [] => []
  | j :: js => toValue j :: itemsToValue js

def entriesToValue : List (String × Json) → List (String × Value)
  | [] => []
  | (k, j) :: es => (k, toValue j) :: entriesToValue es

end

end Json

namespace Value

theorem itemsToJson?_of_none {items : List Value} {v : Value} (hv : v ∈ items)
    (h : v.toJson? = none) : itemsToJson? items = none := by
  induction items with
  | nil => cases hv
  | cons w rest ih =>
    rw [itemsToJson?]
    rcases List.mem_cons.mp hv with rfl | hv
    · rw [h]
      rfl
    · rw [ih hv]
      cases toJson? w <;> rfl

theorem OccursIn.toJson?_eq_none {x v : Value} (h : x.OccursIn v) (hx : x.IsMark) :
    v.toJson? = none := by
  induction h with
  | here => cases x <;> first | exact hx.elim | rw [toJson?]
  | list hv _ ih => rw [toJson?, itemsToJson?_of_none hv ih, Option.map_none]
  | tuple hv _ ih => rw [toJson?, itemsToJson?_of_none hv ih, Option.map_none]
  | table hv _ ih => rw [toJson?, entriesToJson?_of_none hv ih, Option.map_none]

def IsMarked (v : Value) : Prop := ∃ x : Value, x.IsMark ∧ x.OccursIn v

/-- The value has a form that can be written and read, and that stands for the value. -/
def IsPlain (v : Value) : Prop :=
  ∃ j, v.toJson? = some j ∧ j.IsSound ∧ j.toValue = v.untupled

theorem isPlain_of_items {v : Value} {items : List Value} {js : List Json}
    (hform : v.toJson? = (itemsToJson? items).map .array)
    (huntupled : v.untupled = .list (itemsUntupled items)) (hjs : itemsToJson? items = some js)
    (hsound : Json.ItemsSound js) (hvalue : Json.itemsToValue js = itemsUntupled items) :
    v.IsPlain := by
  refine ⟨.array js, by rw [hform, hjs, Option.map_some], ?_, ?_⟩
  · rwa [Json.IsSound]
  · rw [Json.toValue, hvalue, huntupled]

mutual

theorem isMarked_or_isPlain : (v : Value) → v.IsBuilt → v.IsMarked ∨ v.IsPlain
  | .null, _ => .inr ⟨.null, rfl, trivial, rfl⟩
  | .bool b, _ => .inr ⟨.bool b, rfl, trivial, rfl⟩
  | .int n, _ => .inr ⟨.int n, rfl, trivial, rfl⟩
  | .real _, h => h.elim
  | .text s, h => .inr ⟨.text s, rfl, h, rfl⟩
  | .list items, h => by
    rw [IsBuilt] at h
    rcases items_isMarked_or items h with ⟨v, hv, x, hx, hoccurs⟩ | ⟨js, hjs, hsound, hvalue⟩
    · exact .inl ⟨x, hx, .list hv hoccurs⟩
    · exact .inr (isPlain_of_items (by rw [toJson?]) (by rw [untupled]) hjs hsound hvalue)
  | .tuple items, h => by
    rw [IsBuilt] at h
    rcases items_isMarked_or items h with ⟨v, hv, x, hx, hoccurs⟩ | ⟨js, hjs, hsound, hvalue⟩
    · exact .inl ⟨x, hx, .tuple hv hoccurs⟩
    · exact .inr (isPlain_of_items (by rw [toJson?]) (by rw [untupled]) hjs hsound hvalue)
  | .table entries, h => by
    rw [IsBuilt] at h
    rcases entries_isMarked_or entries h.2 with ⟨⟨k, v⟩, hv, x, hx, hoccurs⟩ |
      ⟨js, hjs, hkeys, hsound, hvalue⟩
    · exact .inl ⟨x, hx, .table hv hoccurs⟩
    · refine .inr ⟨.object js, by rw [toJson?, hjs, Option.map_some], ?_, ?_⟩
      · rw [Json.IsSound, hkeys]
        exact ⟨h.1, hsound⟩
      · rw [Json.toValue, hvalue, untupled]
  | .severity s, _ => .inl ⟨.severity s, trivial, .here⟩
  | .component c, _ => .inl ⟨.component c, trivial, .here⟩

theorem items_isMarked_or : (items : List Value) → ItemsBuilt items →
    (∃ v ∈ items, v.IsMarked) ∨ ∃ js, itemsToJson? items = some js ∧ Json.ItemsSound js ∧
      Json.itemsToValue js = itemsUntupled items
  | [], _ => .inr ⟨[], rfl, trivial, rfl⟩
  | v :: vs, h => by
    rw [ItemsBuilt] at h
    rcases isMarked_or_isPlain v h.1 with hv | ⟨j, hj, hsound, hvalue⟩
    · exact .inl ⟨v, List.mem_cons_self, hv⟩
    rcases items_isMarked_or vs h.2 with ⟨w, hw, hmarked⟩ | ⟨js, hjs, hsounds, hvalues⟩
    · exact .inl ⟨w, List.mem_cons_of_mem v hw, hmarked⟩
    · refine .inr ⟨j :: js, by rw [itemsToJson?, hj, hjs]; rfl, ?_, ?_⟩
      · rw [Json.ItemsSound]
        exact ⟨hsound, hsounds⟩
      · rw [Json.itemsToValue, hvalue, hvalues, itemsUntupled]

theorem entries_isMarked_or : (entries : List (String × Value)) → EntriesBuilt entries →
    (∃ e ∈ entries, e.2.IsMarked) ∨ ∃ js, entriesToJson? entries = some js ∧
      js.map (·.1) = entries.map (·.1) ∧ Json.EntriesSound js ∧
      Json.entriesToValue js = entriesUntupled entries
  | [], _ => .inr ⟨[], rfl, rfl, trivial, rfl⟩
  | (k, v) :: es, h => by
    rw [EntriesBuilt] at h
    rcases isMarked_or_isPlain v h.2.1 with hv | ⟨j, hj, hsound, hvalue⟩
    · exact .inl ⟨(k, v), List.mem_cons_self, hv⟩
    rcases entries_isMarked_or es h.2.2 with ⟨e, he, hmarked⟩ | ⟨js, hjs, hkeys, hsounds, hvalues⟩
    · exact .inl ⟨e, List.mem_cons_of_mem _ he, hmarked⟩
    · refine .inr ⟨(k, j) :: js, by rw [entriesToJson?, hj, hjs]; rfl, ?_, ?_, ?_⟩
      · rw [List.map_cons, List.map_cons, hkeys]
      · rw [Json.EntriesSound]
        exact ⟨h.1, hsound, hsounds⟩
      · rw [Json.entriesToValue, hvalue, hvalues, entriesUntupled]

end

end Value

namespace Finding

def IsMarked (f : Finding) : Prop := ∃ v ∈ f.fields, v.IsMarked

def record (f : Finding) : Value :=
  .table [("category", f.category.untupled), ("severity", .text f.severity.name),
    ("description", f.description.untupled), ("name", f.name.untupled),
    ("line_number", f.line.untupled), ("file_object", f.file.untupled),
    ("apk_exploit_dict", f.exploit.untupled)]

theorem IsMarked.toJson?_eq_none {f : Finding} (h : f.IsMarked) : f.toJson? = none := by
  obtain ⟨v, hv, x, hx, hoccurs⟩ := h
  have hnone := hoccurs.toJson?_eq_none hx
  simp only [fields, List.mem_cons, List.not_mem_nil, or_false] at hv
  rcases hv with rfl | rfl | rfl | rfl | rfl | rfl <;> simp [toJson?, hnone]

theorem isMarked_or_record {f : Finding} (h : ∀ v ∈ f.fields, v.IsBuilt) :
    f.IsMarked ∨ ∃ j, f.toJson? = some j ∧ j.IsSound ∧ j.toValue = f.record := by
  by_cases hmarked : f.IsMarked
  · exact .inl hmarked
  have hplain (v : Value) (hv : v ∈ f.fields) : v.IsPlain :=
    (Value.isMarked_or_isPlain v (h v hv)).resolve_left fun hm => hmarked ⟨v, hv, hm⟩
  obtain ⟨category, hcategory, scategory, vcategory⟩ := hplain f.category (by simp [fields])
  obtain ⟨description, hdescription, sdescription, vdescription⟩ :=
    hplain f.description (by simp [fields])
  obtain ⟨name, hname, sname, vname⟩ := hplain f.name (by simp [fields])
  obtain ⟨line, hline, sline, vline⟩ := hplain f.line (by simp [fields])
  obtain ⟨file, hfile, sfile, vfile⟩ := hplain f.file (by simp [fields])
  obtain ⟨exploit, hexploit, sexploit, vexploit⟩ := hplain f.exploit (by simp [fields])
  have hseverity : Json.IsSettled f.severity.name := by
    cases f.severity <;> exact ⟨rfl, rfl⟩
  refine .inr ⟨_, by simp [toJson?, hcategory, hdescription, hname, hline, hfile, hexploit]; rfl,
    ?_, ?_⟩
  · simp only [Json.IsSound, Json.EntriesSound, scategory, sdescription, sname, sline, sfile,
      sexploit, hseverity, true_and, and_true]
    refine ⟨?_, ⟨rfl, rfl⟩, ⟨rfl, rfl⟩, ⟨rfl, rfl⟩, ⟨rfl, rfl⟩, ⟨rfl, rfl⟩, ⟨rfl, rfl⟩,
      ⟨rfl, rfl⟩⟩
    simp only [List.map_cons, List.map_nil]
    decide
  · simp only [Json.toValue, Json.entriesToValue, vcategory, vdescription, vname, vline, vfile,
      vexploit, record]

def IsTooDeep (f : Finding) : Prop := Document.room < f.copyDepth

/-- What keeps a finding from being written. It is copied first. -/
def HasFault (f : Finding) : DataFault → Prop
  | .tooDeep => f.IsTooDeep
  | .formless => f.IsMarked ∧ ¬ f.IsTooDeep

def IsClean (f : Finding) : Prop := ∀ e, ¬ f.HasFault e

theorem isClean_iff {f : Finding} : f.IsClean ↔ ¬ f.IsMarked ∧ ¬ f.IsTooDeep := by
  constructor
  · intro h
    exact ⟨fun hmarked => h .formless ⟨hmarked, h .tooDeep⟩, h .tooDeep⟩
  · rintro ⟨hmarked, hdeep⟩ (_ | _) h
    · exact hmarked h.1
    · exact hdeep h

theorem HasFault.toJson {f : Finding} {e : DataFault} (h : f.HasFault e) :
    f.toJson Document.room = .error e := by
  cases e with
  | formless => exact toJson_formless (Nat.le_of_not_lt h.2) h.1.toJson?_eq_none
  | tooDeep =>
    rw [Finding.toJson]
    exact if_pos h

theorem IsClean.toJson {f : Finding} (h : f.IsClean) (hbuilt : ∀ v ∈ f.fields, v.IsBuilt) :
    ∃ j, f.toJson Document.room = .ok j ∧ j.IsSound ∧ j.toValue = f.record := by
  obtain ⟨hmarked, hdeep⟩ := isClean_iff.mp h
  obtain ⟨j, hj, hsound, hvalue⟩ := (isMarked_or_record hbuilt).resolve_left hmarked
  refine ⟨j, ?_, hsound, hvalue⟩
  rw [Finding.toJson, hj]
  exact if_neg hdeep

end Finding

namespace Document

end Document

end DroidAudit
