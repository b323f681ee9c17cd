import DroidAudit.Failure
import DroidAudit.Proofs.Results

/-! Files that a path reaches without links. The way through links is bounded by a count that goes
down; a way that meets none only follows its steps, and can be computed by them alone. -/
namespace DroidAudit

namespace Text

/-- A text without reserved characters: its bytes and its listed name are what they seem. -/
def isPlain (s : String) : Bool := !s.toList.any isReserved

theorem any_eq_any_toList (s : String) : s.any isReserved = s.toList.any isReserved :=
  String.contains_bool_eq

theorem any_isReserved {s : String} (h : isPlain s = true) : s.any isReserved = false := by
  rw [any_eq_any_toList]
  simpa [isPlain] using h

theorem encoded_of_isPlain {s : String} (h : isPlain s = true) : encoded s = s.toUTF8 := by
  rw [encoded, any_isReserved h]
  rfl

theorem listedName_of_isPlain {s : String} (h : isPlain s = true) : listedName s = s := by
  rw [listedName, any_isReserved h]
  rfl

def plainText? (bytes : ByteArray) : Option String :=
  if (utf8Fault bytes).isSome then none
  else ((String.fromUTF8? bytes).filter isPlain).map fun s =>
    String.ofList (unifyNewlines s.toList)

end Text

namespace FileSystem

/-- Follows plain steps through directories, the last one also to a file or to nothing, and gives up
at links and idle steps. -/
def plainWalk (root : Entry) : Location → List String → Option Location
  | here, [] => some here
  | here, s :: rest =>
    if s == "" || s == "." || s == ".." || !Text.isPlain s || maxNameBytes < s.toUTF8.size then none
    else
      match root.at? here with
      | some (.directory entries) =>
        match (entries.find? fun e => e.1 == s).map Prod.snd with
        | some (.directory _) => plainWalk root (here ++ [s]) rest
        | some (.file _ _) => if rest.isEmpty then some (here ++ [s]) else none
        | some (.link _) => none
        | none => if rest.isEmpty then some (here ++ [s]) else none
      | _ => none

theorem walk_of_plainWalk {root : Entry} {follow : Bool} {links : Nat} {here there : Location}
    {steps : List String} (h : plainWalk root here steps = some there) :
    walk root follow links here steps = .ok there := by
  induction steps generalizing here with
  | nil =>
    rw [walk]
    exact congrArg Except.ok (Option.some.inj h)
  | cons s rest ih =>
    rw [plainWalk] at h
    split at h
    · cases h
    rename_i hs
    simp only [Bool.or_eq_true, Bool.not_eq_true', Bool.not_eq_false, decide_eq_true_eq,
      not_or] at hs
    obtain ⟨⟨⟨⟨hempty, hdot⟩, hup⟩, hplain⟩, hlong⟩ := hs
    cases hat : root.at? here with
    | none => simp [hat] at h
    | some e =>
      cases e with
      | file bytes x => simp [hat] at h
      | link target => simp [hat] at h
      | directory entries =>
        simp only [hat] at h
        rw [walk]
        simp only [hat, hempty, hdot, hup, Text.encoded_of_isPlain hplain,
          Text.listedName_of_isPlain hplain, hlong, Bool.or_self, if_false, Bool.false_eq_true]
        split at h
        · rename_i inner hin
          simp only [hin]
          exact ih h
        · rename_i bytes x hin
          simp only [hin]
          split at h
          · rename_i hrest
            simp only [hrest, if_true]
            exact congrArg Except.ok (Option.some.inj h)
          · cases h
        · cases h
        · rename_i hin
          simp only [hin]
          split at h
          · rename_i hrest
            rw [List.isEmpty_iff.mp hrest]
            exact congrArg Except.ok (Option.some.inj h)
          · cases h

def plainPlace? (fs : FileSystem) (path : String) : Option Location :=
  if (Text.pathFault? path).isSome || path.toList.contains '\x00' || path.isEmpty ||
      !Text.isPlain path || maxPathBytes < path.toUTF8.size then none
  else plainWalk fs.root (if Path.isAbsolute path then [] else fs.working) (Path.steps path)

theorem locate_of_plainPlace {fs : FileSystem} {path : String} {l : Location}
    (h : fs.plainPlace? path = some l) (follow : Bool) : fs.locate follow path = .ok l := by
  unfold plainPlace? at h
  split at h
  · cases h
  rename_i hpath
  simp only [Bool.or_eq_true, Bool.not_eq_true', Bool.not_eq_false, decide_eq_true_eq,
    not_or] at hpath
  obtain ⟨⟨⟨⟨hfault, hnull⟩, hempty⟩, hplain⟩, hlong⟩ := hpath
  simp only [locate, hfault, hnull, hempty, Text.encoded_of_isPlain hplain, hlong, if_false,
    Bool.false_eq_true]
  exact walk_of_plainWalk h

def plainBytes? (fs : FileSystem) (path : String) : Option ByteArray :=
  (fs.plainPlace? path).bind fun l =>
    match fs.root.at? l with
    | some (.file bytes _) => some bytes
    | _ => none

theorem bytesAt_of_readBytes {fs : FileSystem} {path : String} {bytes : ByteArray}
    (h : fs.readBytes path = .ok bytes) : fs.bytesAt (some path) = .ok bytes := by
  rw [bytesAt, h]
  rfl

theorem readBytes_of_plainBytes {fs : FileSystem} {path : String} {bytes : ByteArray}
    (h : fs.plainBytes? path = some bytes) : fs.readBytes path = .ok bytes := by
  obtain ⟨l, hl, hat⟩ := Option.bind_eq_some_iff.mp h
  have hlocate := locate_of_plainPlace hl true
  split at hat
  · rename_i found x hfile
    cases hat
    simp only [readBytes, entry, hlocate, hfile, bind, Except.bind, fault]
  · cases hat

theorem textAt_of_plain {fs : FileSystem} {path text : String} (bytes : ByteArray)
    (hb : fs.plainBytes? path = some bytes) (ht : Text.plainText? bytes = some text) :
    fs.textAt (some path) = .ok text := by
  unfold Text.plainText? at ht
  split at ht
  · cases ht
  rename_i hfault
  obtain ⟨s, hs, rfl⟩ := Option.map_eq_some_iff.mp ht
  obtain ⟨hread, hplain⟩ := Option.filter_eq_some_iff.mp hs
  have hnone : Text.utf8Fault bytes = none := by simpa using hfault
  have htext : Text.utf8Text bytes = s := by
    simp [Text.utf8Text, hread, Text.any_isReserved hplain]
  have hbytes : fs.bytesAt (some path) = .ok bytes := by
    rw [bytesAt, readBytes_of_plainBytes hb]
    rfl
  simp only [textAt, hbytes, bind, Except.bind, hnone, htext]

def sourceA : String := "class A \x7bString s = \"http://a.b\";\x7d"

def sourceB : String := "class B \x7b\x7d"

def twoSources : FileSystem where
  root := .directory [("s", .directory
    [("A.java", .file sourceA.toUTF8 false), ("B.java", .file sourceB.toUTF8 false)])]
  working := []

theorem twoSources_A : twoSources.textAt (some "s/A.java") = .ok sourceA :=
  textAt_of_plain sourceA.toUTF8 rfl (by decide +kernel)

theorem twoSources_B : twoSources.textAt (some "s/B.java") = .ok sourceB :=
  textAt_of_plain sourceB.toUTF8 rfl (by decide +kernel)

def oneManifest (text : String) : FileSystem where
  root := .directory [("m.xml", .file text.toUTF8 false)]
  working := []

theorem readBytes_oneManifest (text : String) :
    (oneManifest text).readBytes "m.xml" = .ok text.toUTF8 :=
  readBytes_of_plainBytes rfl

end FileSystem
end DroidAudit
