import DroidAudit.Preparation
import DroidAudit.Proofs.CommandWords
import DroidAudit.Proofs.PlainPath
import DroidAudit.Proofs.Steps

/-! The call of the unpacker. Its command line is put together as text and then split into words, so
the paths in it reach the unpacker as they are just if they hold nothing that is special in a command
line; what one path holds cannot be made good by the other. -/
namespace DroidAudit

namespace Desk

theorem startLine_passes_iff (t : Tools) (line : String) (shell : Bool) (d : Desk)
    (ws : List String) :
    ((startLine t line shell).outcome d).2.calls.map Call.line = d.calls.map Call.line ++ [ws] ↔
      Command.words line = .ok ws := by
  cases hwords : Command.words line with
  | error e =>
    have hnone : (startLine t line shell).outcome d = (.error (.words e), d) := by
      rw [startLine, hwords]
      rfl
    rw [hnone]
    simp
  | ok found =>
    have hcalls : ((startLine t line shell).outcome d).2.calls =
        d.calls ++ [{ line := found, working := some d.fs.workingPath, shell := shell }] := by
      rw [startLine, hwords]
      rfl
    rw [hcalls, List.map_append, List.append_cancel_left_eq]
    simp

end Desk

namespace Preparation

def unpackerWords (t : Tools) (source results : String) : List String :=
  ["java", "-Djava.awt.headless=true", "-jar", t.unpacker ++ "/apktool.jar", "d", source,
   "--no-src", "--force", "-m", "--output", results]

theorem escaped_of_ne {t : Tools} (h : t.chosenFor ≠ "Windows") (line : String) :
    t.escaped line = line := by
  simp [Tools.escaped, h]

theorem toList_unpackerLine {t : Tools} (h : t.chosenFor ≠ "Windows") (source results : String) :
    (unpackerLine t source results).toList =
      Command.joined ((unpackerWords t source results).map String.toList) := by
  rw [unpackerLine, escaped_of_ne h]
  simp [Command.joined, unpackerWords, List.intercalate]

theorem forall_mem_unpackerWords {t : Tools}
    (hlibrary : ∀ c ∈ t.unpacker.toList, Command.isSpecial c = false) (source results : String) :
    (∀ w ∈ unpackerWords t source results, ∀ c ∈ w.toList, Command.isSpecial c = false) ↔
      (∀ c ∈ source.toList, Command.isSpecial c = false) ∧
        ∀ c ∈ results.toList, Command.isSpecial c = false := by
  have hjar : ∀ c ∈ (t.unpacker ++ "/apktool.jar").toList, Command.isSpecial c = false := by
    rw [String.toList_append, List.forall_mem_append]
    exact ⟨hlibrary, Command.plain_of_all rfl⟩
  constructor
  · intro h
    exact ⟨h source (by simp [unpackerWords]), h results (by simp [unpackerWords])⟩
  · rintro ⟨hsource, hresults⟩
    have hplain {word : String} (h : word.toList.all (!Command.isSpecial ·) = true) :=
      Command.plain_of_all h
    simp only [unpackerWords, List.forall_mem_cons]
    exact ⟨hplain rfl, hplain rfl, hplain rfl, hjar, hplain rfl, hsource, hplain rfl, hplain rfl,
      hplain rfl, hplain rfl, hresults, fun w hw => absurd hw List.not_mem_nil⟩

/-- What holds of the characters of a name, and of the slash before it, holds of a path that ends in
it just if it holds of what the name is put behind. -/
theorem forall_mem_join {P : Char → Prop} (hslash : P '/') {name : String}
    (hrelative : Path.isAbsolute name = false) (hname : ∀ c ∈ name.toList, P c) (path : String) :
    (∀ c ∈ (Path.join path name).toList, P c) ↔ ∀ c ∈ path.toList, P c := by
  have happend (end' : String) (hend : ∀ c ∈ end'.toList, P c) :
      (∀ c ∈ (path ++ end').toList, P c) ↔ ∀ c ∈ path.toList, P c := by
    rw [String.toList_append, List.forall_mem_append]
    exact and_iff_left hend
  rw [Path.join, hrelative, if_neg Bool.false_ne_true]
  split
  · exact happend name hname
  · rw [String.append_assoc]
    refine happend _ ?_
    rw [String.toList_append]
    exact List.forall_mem_cons.mpr ⟨hslash, hname⟩

theorem join_ne_empty {name : String} (hname : name ≠ "") (path : String) :
    Path.join path name ≠ "" := by
  rw [Path.join]
  split
  · exact hname
  · split <;> simp [hname]

theorem outcome_atDesk {α : Type} (work : Desk.Work α) (b : Workbench) :
    (atDesk work).outcome b = ((work.outcome b.desk).1, { b with desk := (work.outcome b.desk).2 }) :=
  rfl

theorem keeps_atDesk {α : Type} {work : Desk.Work α} (h : work.Keeps Desk.calls) :
    (atDesk work).Keeps fun b => b.desk.calls := fun b => h b.desk

theorem takeManifest_keeps_calls (results place : String) :
    (takeManifest results place).Keeps Desk.calls := by
  refine (Desk.look_keeps _ _).bind fun found => ?_
  have hmove := Desk.change_keeps_calls (·.moveFile (Path.join results "AndroidManifest.xml") place)
  have hremove := (Desk.change_keeps_calls (·.removeTree results)).attempt
  cases found with
  | false => exact Step.Keeps.throw _
  | true => exact hmove.bind fun _ => hremove

theorem startUnpacker_desk (t : Tools) (line : String) (d : Desk) :
    ((startUnpacker t line).outcome d).2 = ((Desk.startLine t line false).outcome d).2 := by
  rw [startUnpacker, Step.outcome_of]
  split <;> simp_all

/-- A run that gets as far as the unpacker starts it, and no other program behind it. -/
theorem calls_decodeManifest (t : Tools) (b : Workbench) {d : Desk}
    (hready : (readyUnpacker t (Path.join b.app.build "apktool")).outcome b.desk = (.ok (), d)) :
    ((decodeManifest t).outcome b).2.desk.calls =
      ((Desk.startLine t (unpackerLine t b.app.source (Path.join b.app.build "apktool"))
        false).outcome d).2.calls := by
  have happ : app.outcome b = (.ok b.app, b) := rfl
  have hready' : (atDesk (readyUnpacker t (Path.join b.app.build "apktool"))).outcome b =
      (.ok (), { b with desk := d }) := by
    rw [outcome_atDesk, hready]
  have hrest (results place : String) :
      (atDesk (takeManifest results place) >>= fun _ => pure place).Keeps
        fun b : Workbench => b.desk.calls :=
    (keeps_atDesk (takeManifest_keeps_calls results place)).bind fun _ => Step.Keeps.pure place
  rw [decodeManifest, Step.outcome_bind happ, Step.outcome_bind hready']
  generalize unpackerLine t b.app.source (Path.join b.app.build "apktool") = line
  have hcalls := Step.part_bind (fun b : Workbench => b.desk.calls) (atDesk (startUnpacker t line))
    (fun _ => hrest (Path.join b.app.build "apktool") (Path.join b.app.build "AndroidManifest.xml"))
    { b with desk := d }
  rw [outcome_atDesk, startUnpacker_desk] at hcalls
  exact hcalls

/-- If a run gets as far as the unpacker, then it passes the words that are meant just if the paths
of the app and of the directory for its parts have no special characters. -/
theorem unpacker_words_iff (t : Tools) (b : Workbench) (d : Desk) (hchosen : t.chosenFor ≠ "Windows")
    (hlibrary : ∀ c ∈ t.unpacker.toList, Command.isSpecial c = false)
    (hsource : b.app.source ≠ "")
    (hready : (readyUnpacker t (Path.join b.app.build "apktool")).outcome b.desk = (.ok (), d)) :
    ((decodeManifest t).outcome b).2.desk.calls.map Call.line =
        d.calls.map Call.line ++
          [unpackerWords t b.app.source (Path.join b.app.build "apktool")] ↔
      (∀ c ∈ b.app.source.toList, Command.isSpecial c = false) ∧
        ∀ c ∈ b.app.build.toList, Command.isSpecial c = false := by
  have hresults : Path.join b.app.build "apktool" ≠ "" := join_ne_empty (by decide) _
  have hfull : ∀ w ∈ unpackerWords t b.app.source (Path.join b.app.build "apktool"), w ≠ "" := by
    simp [unpackerWords, hsource, hresults]
  rw [calls_decodeManifest t b hready, Desk.startLine_passes_iff,
    Command.words_joined_iff (toList_unpackerLine hchosen _ _) (List.cons_ne_nil _ _) hfull,
    forall_mem_unpackerWords hlibrary]
  have hname : ∀ c ∈ "apktool".toList, Command.isSpecial c = false := Command.plain_of_all rfl
  have hslash : Command.isSpecial '/' = false := by decide
  exact and_congr_right' (forall_mem_join hslash rfl hname b.app.build)

def quoteFiles : FileSystem where
  root := .directory [("lib", .directory [("apktool.jar", .file .empty true)]),
    ("o'k", .directory [("apktool", .directory [])])]
  working := []

def quoteTools : Tools where
  converter := "lib"
  unpacker := "lib"
  decompilers := "lib"
  javaVersion := .ok "1.8.0"
  run := fun _ fs => (.ok 0, fs)

def quoteBench : Workbench where
  desk := { fs := quoteFiles }
  app := { source := "it's.apk", build := "o'k", isSource := false }

theorem quoteFiles_makeExecutable :
    quoteFiles.makeExecutable "lib/apktool.jar" = .ok quoteFiles := by
  have hlocate : quoteFiles.locate true "lib/apktool.jar" = .ok ["lib", "apktool.jar"] :=
    FileSystem.locate_of_plainPlace (by decide +kernel) true
  rw [FileSystem.makeExecutable, hlocate]
  rfl

theorem quoteFiles_isDirectory : quoteFiles.isDirectory "o'k/apktool" = true := by
  have hlocate : quoteFiles.locate true "o'k/apktool" = .ok ["o'k", "apktool"] :=
    FileSystem.locate_of_plainPlace (by decide +kernel) true
  rw [FileSystem.isDirectory, FileSystem.entry, hlocate]
  rfl

theorem readyUnpacker_quoteBench :
    (readyUnpacker quoteTools (Path.join quoteBench.app.build "apktool")).outcome quoteBench.desk =
      (.ok (), { fs := quoteFiles, calls := [{ line := ["java", "-version"] }] }) := by
  have hgate : (JavaVersion.gate quoteTools).outcome quoteBench.desk = (.ok (),
      { fs := quoteFiles, calls := [{ line := ["java", "-version"] }] }) := rfl
  have hmake (d : Desk) (hd : d.fs = quoteFiles) :
      (makeExecutable quoteTools (Path.join quoteTools.unpacker "apktool.jar")).attempt.outcome d =
        (.ok (), d) := by
    have hjar : Path.join quoteTools.unpacker "apktool.jar" = "lib/apktool.jar" := rfl
    rw [Step.attempt, Step.outcome_of, makeExecutable, Desk.change, Step.outcome_of, hd, hjar,
      escaped_of_ne (by decide), quoteFiles_makeExecutable, ← hd]
  have hneed (d : Desk) (hd : d.fs = quoteFiles) :
      (Desk.needDirectory (Path.join quoteBench.app.build "apktool")).outcome d = (.ok (), d) := by
    have hresults : Path.join quoteBench.app.build "apktool" = "o'k/apktool" := rfl
    have hlook : (Desk.look (·.isDirectory "o'k/apktool")).outcome d = (.ok true, d) := by
      rw [Desk.look, Step.outcome_of, hd, quoteFiles_isDirectory]
    rw [hresults, Desk.needDirectory, Step.outcome_bind hlook]
    rfl
  rw [readyUnpacker, Step.outcome_bind hgate]
  have hsystem : supportedSystems.contains (Text.lower quoteTools.system) = true := by decide
  simp only [hsystem, Bool.not_true, Bool.false_eq_true, if_false]
  rw [Step.outcome_bind (hmake _ rfl)]
  exact hneed _ rfl

/-- The two quotes take the options between them into one word with both paths. -/
theorem unpacker_words_iff_quotes :
    (readyUnpacker quoteTools (Path.join quoteBench.app.build "apktool")).outcome quoteBench.desk =
        (.ok (), { fs := quoteFiles, calls := [{ line := ["java", "-version"] }] }) ∧
      ((decodeManifest quoteTools).outcome quoteBench).2.desk.calls.map Call.line ≠
        [["java", "-version"], unpackerWords quoteTools "it's.apk" "o'k/apktool"] := by
  have hiff := unpacker_words_iff quoteTools quoteBench _ (by decide) (Command.plain_of_all rfl)
    (by decide) readyUnpacker_quoteBench
  refine ⟨readyUnpacker_quoteBench, hiff.not.mpr fun hplain => ?_⟩
  exact absurd (hplain.1 '\'' (by decide)) (by decide)

end Preparation
end DroidAudit
