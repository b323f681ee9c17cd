import DroidAudit.Proofs.CodePoints
import DroidAudit.Proofs.FileGrowth
import DroidAudit.Proofs.PropertyText
import DroidAudit.Proofs.Steps

/-! Properties that are written time after time. Each call adds its entries to the file or puts them
in place of those in it, up to a value that has no bytes. Main statement: whatever the calls, the
file is read as the entries since the last call that replaced it, unless two of their keys are the
same in small letters. -/
namespace DroidAudit

namespace Properties

/-- An entry whose value may hold any code points, also halves of pairs. -/
structure IsProperty (p : String × String) : Prop extends IsEntry p where
  spelled : Text.IsSpelled p.2

def isProperty (p : String × String) : Bool :=
  p.1 != "" && p.1.toList.all keyChars.contains && !p.2.toList.contains '\n' &&
    !p.2.toList.contains '\r' && Text.trim p.2.toList == p.2.toList &&
      (Text.points p.2.toList).flatMap Text.ofPoint == p.2.toList

theorem isProperty_iff {p : String × String} : isProperty p = true ↔ IsProperty p := by
  simp only [isProperty, Bool.and_eq_true, bne_iff_ne, Bool.not_eq_true', List.contains_eq_mem,
    beq_iff_eq, decide_eq_false_iff_not, List.all_eq_true, decide_eq_true_eq]
  constructor
  · rintro ⟨⟨⟨⟨⟨hne, hkey⟩, hfeed⟩, hreturn⟩, htrim⟩, hspelled⟩
    exact ⟨⟨hne, hkey, hfeed, hreturn, htrim⟩, hspelled⟩
  · rintro ⟨⟨hne, hkey, hfeed, hreturn, htrim⟩, hspelled⟩
    exact ⟨⟨⟨⟨⟨hne, hkey⟩, hfeed⟩, hreturn⟩, htrim⟩, hspelled⟩

theorem low_of_mem_keyChars {c : Char} (h : c ∈ keyChars) : c.toNat < 128 := by
  have hall : keyChars.all (fun c => decide (c.toNat < 128)) = true := rfl
  simpa using List.all_eq_true.mp hall c h

def smallKey (key : String) : String := String.ofList (key.toList.map Char.toLower)

theorem lower_of_mem_keyChars {key : String} (h : ∀ c ∈ key.toList, c ∈ keyChars) :
    Text.lower key = smallKey key := by
  have hchar : ∀ c ∈ keyChars, c ≠ 'Σ' ∧ c ≠ 'İ' ∧ c.val < 128 := by
    have hall : keyChars.all (fun c => c != 'Σ' && c != 'İ' && c.val < 128) = true := rfl
    intro c hc
    simpa [and_assoc] using List.all_eq_true.mp hall c hc
  have hfrom : ∀ (cs before : List Char), (∀ c ∈ cs, c ∈ keyChars) →
      Text.lowerFrom before cs = cs.map Char.toLower := by
    intro cs
    induction cs with
    | nil => exact fun _ _ => rfl
    | cons c cs ih =>
      intro before hcs
      rw [List.forall_mem_cons] at hcs
      obtain ⟨hsigma, hdotted, hlow⟩ := hchar c hcs.1
      rw [Text.lowerFrom, ih _ hcs.2]
      simp [hsigma, hdotted, Text.lowerChar, hlow]
  rw [Text.lower, Text.lowerChars, hfrom _ _ h, smallKey]

theorem entriesText_cons (p : String × String) (entries : List (String × String)) :
    entriesText (p :: entries) = entryText (.text p.1) (.text p.2) ++ entriesText entries :=
  String.join_cons

theorem entriesText_append (entries more : List (String × String)) :
    entriesText (entries ++ more) = entriesText entries ++ entriesText more := by
  induction entries with
  | nil => rfl
  | cons p entries ih =>
    rw [List.cons_append, entriesText_cons, ih, entriesText_cons, String.append_assoc]

theorem carriageReturn_not_mem {entries : List (String × String)} (h : ∀ p ∈ entries, IsEntry p) :
    '\r' ∉ (entriesText entries).toList := by
  induction entries with
  | nil => simp [entriesText, text]
  | cons p entries ih =>
    rw [List.forall_mem_cons] at h
    have hkey : '\r' ∉ p.1.toList := fun hmem =>
      absurd (of_mem_keyChars (h.1.key _ hmem)).2 (by decide)
    simp [toList_entriesText_cons, hkey, h.1.carriageReturn, ih h.2]

section

variable {p : String × String}

theorem IsEntry.key_plain (h : IsEntry p) : ∀ c ∈ p.1.toList, Text.isReserved c = false :=
  fun c hc => Text.isReserved_of_low (low_of_mem_keyChars (h.key c hc))

theorem IsProperty.fault_isNone (h : IsProperty p) :
    (Text.encodeFault? (entryText (.text p.1) (.text p.2))).isNone =
      (Text.encodeFault? p.2).isNone := by
  have hentry : Text.points (entryText (.text p.1) (.text p.2)).toList =
      p.1.toList.map Char.toNat ++ 61 :: (Text.points p.2.toList ++ [10]) := by
    have hchars : (entryText (.text p.1) (.text p.2)).toList =
        p.1.toList ++ '=' :: (p.2.toList ++ ['\n']) := by
      simp [entryText, Value.display]
    rw [hchars, Text.points_plain h.key_plain, Text.points_cons (by decide),
      h.spelled.points_append]
    rfl
  have hlow (n : Nat) (hn : n < 128) : Text.isHalf n = false := by
    rw [← Bool.not_eq_true, Text.isHalf_iff]
    omega
  rw [Bool.eq_iff_iff, Option.isNone_iff_eq_none, Option.isNone_iff_eq_none,
    Text.encodeFault?_eq_none_iff, Text.encodeFault?_eq_none_iff, hentry,
    List.forall_mem_append, List.forall_mem_cons, List.forall_mem_append]
  refine ⟨fun hnone => hnone.2.2.1, fun hvalue => ⟨fun n hn => ?_, rfl, hvalue, by simp [hlow]⟩⟩
  obtain ⟨c, hc, rfl⟩ := List.mem_map.mp hn
  exact hlow _ (low_of_mem_keyChars (h.key c hc))

def IsWritable (p : String × String) : Prop := IsProperty p ∧ Text.encodeFault? p.2 = none

theorem isWhole_entriesText {entries : List (String × String)} (h : ∀ p ∈ entries, IsWritable p) :
    Text.IsWhole (entriesText entries) := by
  induction entries with
  | nil => exact Text.isWhole_of_plain (by simp [entriesText, text])
  | cons p entries ih =>
    rw [List.forall_mem_cons] at h
    have hsign (c : Char) (hc : Text.isReserved c = false) : Text.IsWhole (String.singleton c) :=
      Text.isWhole_of_plain (by simpa using hc)
    have hentry : Text.IsWhole (entryText (.text p.1) (.text p.2)) :=
      (((Text.isWhole_of_plain h.1.1.key_plain).append (hsign '=' (by decide))).append
        (h.1.1.spelled.isWhole h.1.2)).append (hsign '\n' (by decide))
    rw [entriesText_cons]
    exact hentry.append (ih h.2)

end

end Properties

namespace Exploit

open Properties

structure PropertiesCall where
  properties : List (String × String)
  append : Bool

namespace PropertiesCall

def work (c : PropertiesCall) : Work Unit :=
  writeProperties (c.properties.map fun p => (.text p.1, .text p.2)) c.append

def written (c : PropertiesCall) : List (String × String) :=
  c.properties.takeWhile fun p => (Text.encodeFault? p.2).isNone

def after (b : ExploitBench) (calls : List PropertiesCall) : ExploitBench :=
  calls.foldl (fun b c => (c.work.outcome b).2) b

/-- The calls from the last one on that replaces the file, all of them if none does. -/
def standing : List PropertiesCall → List PropertiesCall
  | [] => []
  | c :: rest => if rest.any (!·.append) then standing rest else c :: rest

theorem takeWhile_properties {properties : List (String × String)}
    (h : ∀ p ∈ properties, IsProperty p) :
    ((properties.map fun p => (Value.text p.1, Value.text p.2)).takeWhile fun p =>
        (Text.encodeFault? (entryText p.1 p.2)).isNone) =
      (properties.takeWhile fun p => (Text.encodeFault? p.2).isNone).map fun p =>
        (.text p.1, .text p.2) := by
  induction properties with
  | nil => rfl
  | cons p properties ih =>
    rw [List.forall_mem_cons] at h
    rw [List.map_cons, List.takeWhile_cons, List.takeWhile_cons, h.1.fault_isNone, ih h.2]
    split <;> rfl

section

variable {b : ExploitBench} {path : String} {l : FileSystem.Location} {c : PropertiesCall}
  {entries : List (String × String)}

theorem isWritable_of_mem_written (hc : ∀ p ∈ c.properties, IsProperty p) :
    ∀ p ∈ c.written, IsWritable p := by
  intro p hp
  rw [written] at hp
  have hnone := List.mem_takeWhile_imp hp
  exact ⟨hc p ((List.takeWhile_sublist _).subset hp), Option.isNone_iff_eq_none.mp hnone⟩

theorem outcome_work (hpath : b.exploit.properties = some path)
    (hc : ∀ p ∈ c.properties, IsProperty p) {fs : FileSystem}
    (hwrite : b.desk.fs.writeText path c.append (entriesText c.written) = .ok fs) :
    (c.work.outcome b).2 = { b with desk := { b.desk with fs := fs } } := by
  have hchange : (Desk.change (·.writeText path c.append (entriesText c.written))).outcome b.desk =
      (.ok (), { b.desk with fs := fs }) := by
    rw [Desk.change, Step.outcome_of, hwrite]
  rw [work, writeProperties, Step.outcome_bind (outcome_demand "properties" hpath)]
  simp only [takeWhile_properties hc]
  rw [← written, ← entriesText, Step.outcome_bind (outcome_atDesk hchange)]
  split <;> rfl

structure Holds (b : ExploitBench) (path : String) (l : FileSystem.Location)
    (entries : List (String × String)) : Prop where
  named : b.exploit.properties = some path
  place : b.desk.fs.locate true path = .ok l
  content : b.desk.fs.contentAt l = some (Text.encoded (entriesText entries))
  writable : ∀ p ∈ entries, IsWritable p

def onto (c : PropertiesCall) (entries : List (String × String)) : List (String × String) :=
  if c.append then entries ++ c.written else c.written

theorem Holds.call (h : Holds b path l entries) (hc : ∀ p ∈ c.properties, IsProperty p) :
    Holds (c.work.outcome b).2 path l (c.onto entries) := by
  have hwritten := isWritable_of_mem_written hc
  obtain ⟨fs, hwrite⟩ := FileSystem.writeBytes_of_content h.place h.content c.append
    (Text.encoded (entriesText c.written))
  obtain ⟨l', hl', hgrows, hcontent, -⟩ := FileSystem.writeBytes_ok hwrite
  rw [h.place] at hl'
  cases hl'
  rw [h.content, Option.getD_some] at hcontent
  rw [outcome_work h.named hc hwrite]
  refine ⟨h.named, hgrows.locate_file h.place h.content, ?_, ?_⟩
  · rw [hcontent, onto]
    split
    · rw [entriesText_append,
        (isWhole_entriesText h.writable).encoded_append (isWhole_entriesText hwritten)]
    · rw [ByteArray.empty_append]
  · rw [onto]
    split
    · exact List.forall_mem_append.mpr ⟨h.writable, hwritten⟩
    · exact hwritten

theorem holds_first (hpath : b.exploit.properties = some path) (hfree : b.desk.fs.Vacant path l)
    (hc : ∀ p ∈ c.properties, IsProperty p) : Holds (c.work.outcome b).2 path l c.written := by
  obtain ⟨fs, hwrite, hplace, hcontent⟩ :=
    hfree.writeBytes c.append (Text.encoded (entriesText c.written))
  rw [outcome_work hpath hc hwrite]
  exact ⟨hpath, hplace, hcontent, isWritable_of_mem_written hc⟩

theorem Holds.after (h : Holds b path l entries) {calls : List PropertiesCall}
    (hcalls : ∀ c ∈ calls, ∀ p ∈ c.properties, IsProperty p) :
    Holds (after b calls) path l (calls.foldl (fun entries c => c.onto entries) entries) := by
  induction calls generalizing b entries with
  | nil => exact h
  | cons c calls ih =>
    rw [List.forall_mem_cons] at hcalls
    exact ih (h.call hcalls.1) hcalls.2

theorem foldl_onto (entries : List (String × String)) (calls : List PropertiesCall) :
    calls.foldl (fun entries c => c.onto entries) entries =
      if calls.any (!·.append) then (standing calls).flatMap written
      else entries ++ calls.flatMap written := by
  induction calls generalizing entries with
  | nil => simp
  | cons c calls ih =>
    rw [List.foldl_cons, ih, List.any_cons, standing, onto]
    cases calls.any (!·.append) with
    | true => simp
    | false => cases c.append <;> simp

theorem Holds.textAt (h : Holds b path l entries) :
    b.desk.fs.textAt (some path) = .ok (entriesText entries) := by
  have hreturn : '\r' ∉ (entriesText entries).toList :=
    carriageReturn_not_mem fun p hp => (h.writable p hp).1.toIsEntry
  have hcontent := h.content
  obtain ⟨cs, hcs⟩ := isWhole_entriesText h.writable
  rw [hcs, Text.encoded_ofChars] at hcontent
  have hbytes : b.desk.fs.bytesAt (some path) = .ok (String.ofList cs).toUTF8 := by
    rw [FileSystem.bytesAt, FileSystem.readBytes_of_content h.place hcontent]
    rfl
  rw [hcs, String.toList_ofList] at hreturn
  simp only [FileSystem.textAt, hbytes, bind, Except.bind, Text.utf8Fault_toUTF8,
    Text.utf8Text_toUTF8, String.toList_ofList, Text.unifyNewlines_of_not_mem hreturn, hcs]

theorem Holds.outcome_read (h : Holds b path l entries) :
    (readProperties.outcome b).1 = (read (entriesText entries)).mapError .properties := by
  have hlook : (Desk.look (·.textAt (some path))).outcome b.desk =
      (.ok (.ok (entriesText entries)), b.desk) := by
    rw [Desk.look, Step.outcome_of, h.textAt]
  rw [readProperties, Step.outcome_bind (outcome_demand "properties" h.named)]
  refine congrArg Prod.fst (@outcome_atDesk _ _ b
    ((read (entriesText entries)).mapError .properties) b.desk ?_)
  rw [Step.outcome_bind hlook]
  cases hread : read (entriesText entries) <;> simp only [hread] <;> rfl

end

end PropertiesCall

/-- After any calls that start without a file, reading gives the entries since the last call that
replaced the file, with their keys in small letters, or finds a key twice. -/
theorem readProperties_after (b : ExploitBench) {path : String} {l : FileSystem.Location}
    (hpath : b.exploit.properties = some path) (hfree : b.desk.fs.Vacant path l)
    (calls : List PropertiesCall) (hcalls : calls ≠ [])
    (hproperties : ∀ c ∈ calls, ∀ p ∈ c.properties, IsProperty p) :
    let entries := (PropertiesCall.standing calls).flatMap PropertiesCall.written
    (readProperties.outcome (PropertiesCall.after b calls)).1 =
      if (entries.map (smallKey ·.1)).Nodup then .ok (entries.map fun p => (smallKey p.1, p.2))
      else .error (.properties .repeatedKey) := by
  intro entries
  cases calls with
  | nil => exact absurd rfl hcalls
  | cons c calls =>
    rw [List.forall_mem_cons] at hproperties
    have hholds := (PropertiesCall.holds_first hpath hfree hproperties.1).after hproperties.2
    have hentries : calls.foldl (fun entries c => c.onto entries) c.written = entries := by
      rw [PropertiesCall.foldl_onto]
      simp only [entries, PropertiesCall.standing]
      split <;> rfl
    rw [hentries] at hholds
    have hsound : ∀ p ∈ entries, IsEntry p := fun p hp => (hholds.writable p hp).1.toIsEntry
    have hkey : ∀ p ∈ entries, readKey p = smallKey p.1 := fun p hp =>
      lower_of_mem_keyChars (hsound p hp).key
    have hkeys : entries.map readKey = entries.map (smallKey ·.1) := List.map_congr_left hkey
    have hresult : (entries.map fun p => (readKey p, p.2)) =
        entries.map fun p => (smallKey p.1, p.2) :=
      List.map_congr_left fun p hp => by rw [hkey p hp]
    have hread := hholds.outcome_read
    rw [read_entriesText hsound, hresult] at hread
    simp only [hkeys] at hread
    rw [PropertiesCall.after, List.foldl_cons, ← PropertiesCall.after, hread]
    split <;> rfl

/-- Calls that write, replace and add, with a value of signs only, an empty one, one in another
script, and one that has no bytes. -/
def sampleCalls : List PropertiesCall :=
  [⟨[("sdk.dir", "/old")], true⟩,
   ⟨[("Sdk.Dir", "%%=:#;[x]% 50"), ("empty", "")], false⟩,
   ⟨[("N_1-a", "é\u2028語"), ("lost", String.ofList [Text.halfChar 0xd800]), ("later", "x")], true⟩,
   ⟨[("LATER", "=")], true⟩]

def sampleBench : ExploitBench where
  desk := { fs := ⟨.directory [("e", .directory [])], []⟩ }
  exploit := { properties := some "e/local.properties" }

theorem sound_of_check {calls : List PropertiesCall}
    (h : (calls.all fun c => c.properties.all isProperty) = true) :
    ∀ c ∈ calls, ∀ p ∈ c.properties, IsProperty p := fun c hc p hp =>
  isProperty_iff.mp (List.all_eq_true.mp (List.all_eq_true.mp h c hc) p hp)

/-- The entries are read, and if the last of them is written again, its key is found twice. -/
theorem readProperties_after_sample :
    (readProperties.outcome (PropertiesCall.after sampleBench sampleCalls)).1 =
        .ok [("sdk.dir", "%%=:#;[x]% 50"), ("empty", ""), ("n_1-a", "é\u2028語"), ("later", "=")] ∧
      (readProperties.outcome (PropertiesCall.after sampleBench
          (sampleCalls ++ [⟨[("later", "=")], true⟩]))).1 =
        .error (.properties .repeatedKey) := by
  have hfree : sampleBench.desk.fs.Vacant "e/local.properties" ["e", "local.properties"] :=
    ⟨FileSystem.locate_of_plainPlace (by decide +kernel) false, rfl, by decide +kernel⟩
  constructor
  · exact readProperties_after sampleBench rfl hfree _ (by simp [sampleCalls]) (sound_of_check rfl)
  · exact readProperties_after sampleBench rfl hfree _ (by simp) (sound_of_check rfl)

end Exploit
end DroidAudit
