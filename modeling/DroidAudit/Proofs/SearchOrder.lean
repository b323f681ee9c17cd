import DroidAudit.Proofs.CollectedExtras

/-! The order in which a search goes through files. The files have no order of their own, and the
first one that ends the search decides; so the extras depend on the order as soon as two files of
different extras could end it. -/
namespace DroidAudit.ExportedDetector

def argumentsOf (f : Finding) : List Value :=
  match f.exploit.get? "arguments" with
  | some (.list items) => items
  | _ => []

/-- Each two trees that could end a search give the same extras. -/
def Agree (methods : List String) (trees : List Java.Node) : Prop :=
  ∀ s ∈ trees, ∀ t ∈ trees, ends methods s = true → ends methods t = true →
    ∀ x, x ∈ gained methods s ↔ x ∈ gained methods t

section
variable {methods : List String}

theorem collected_of_ends {tree : Java.Node} (h : ends methods tree = true)
    (trees : List Java.Node) : collected methods (tree :: trees) = gained methods tree := by
  have hfirst : ending? methods (tree :: trees) = some tree := List.find?_cons_of_pos h
  rw [collected, hfirst, Option.elim_some]

/-- A search collects what some tree gives that could end it, and nothing if there is none. -/
theorem collected_cases (methods : List String) (trees : List Java.Node) :
    (∃ t ∈ trees, ends methods t = true ∧ collected methods trees = gained methods t) ∨
      (∀ t ∈ trees, ends methods t = false) ∧ collected methods trees = [] := by
  cases hfirst : ending? methods trees with
  | some t =>
    left
    exact ⟨t, List.mem_of_find?_eq_some hfirst, List.find?_some hfirst, by rw [collected, hfirst]; rfl⟩
  | none =>
    right
    refine ⟨fun t ht => Bool.eq_false_iff.mpr (List.find?_eq_none.mp hfirst t ht), ?_⟩
    rw [collected, hfirst]
    rfl

theorem collected_of_agree {trees trees' : List Java.Node} (hperm : trees.Perm trees')
    (hagree : Agree methods trees) (x : String) :
    x ∈ collected methods trees ↔ x ∈ collected methods trees' := by
  rcases collected_cases methods trees with ⟨s, hs, hends, hsame⟩ | ⟨hnone, hempty⟩
  · rcases collected_cases methods trees' with ⟨t, ht, hends', hsame'⟩ | ⟨hnone, -⟩
    · rw [hsame, hsame']
      exact hagree s hs t (hperm.mem_iff.mpr ht) hends hends' x
    · exact absurd hends (Bool.eq_false_iff.mp (hnone s (hperm.mem_iff.mp hs)))
  · rcases collected_cases methods trees' with ⟨t, ht, hends', -⟩ | ⟨-, hempty'⟩
    · exact absurd hends' (Bool.eq_false_iff.mp (hnone t (hperm.mem_iff.mpr ht)))
    · rw [hempty, hempty']

theorem treesFor_perm (fs : FileSystem) (needle : String) {files files' : List String}
    (h : files.Perm files') : (treesFor fs needle files).Perm (treesFor fs needle files') :=
  (h.filter _).filterMap _

theorem exists_order {fs : FileSystem} {needle : String} {files : List String} {tree : Java.Node}
    (h : tree ∈ treesFor fs needle files) :
    ∃ order trees, order.Perm files ∧ treesFor fs needle order = tree :: trees := by
  obtain ⟨file, hfile, htree⟩ := List.mem_filterMap.mp h
  obtain ⟨hfile, hneedle⟩ := List.mem_filter.mp hfile
  refine ⟨file :: files.erase file, treesFor fs needle (files.erase file),
    (List.perm_cons_erase hfile).symm, ?_⟩
  rw [treesFor_cons, if_pos hneedle, htree]
  rfl

end

theorem passable_of_treeAt? {fs : FileSystem} {file : String} (h : (fs.treeAt? file).isSome = true) :
    fs.Passable file := by
  unfold FileSystem.treeAt? at h
  split at h
  · rename_i text htext
    refine .inr ⟨text, htext, fun e he => ?_⟩
    rw [he] at h
    cases h
  · cases h

theorem IsReport.argumentsOf_complete {m : Manifest} {component : Component} {name : String}
    {f : Finding} {methods : List String} (h : IsReport m component name f)
    (hmethods : entryMethods component.word = some methods) {fs : FileSystem} {files : List String}
    (hpass : ∀ file ∈ files, fs.Passable file) :
    argumentsOf (ExportedDetector.complete fs files f).1 =
      (collected methods (treesFor fs (Text.replace name "." "/") files)).map .text := by
  rw [argumentsOf, (h.complete_eq hmethods hpass).1]
  split
  · rename_i items hitems
    split at hitems
    · cases hitems
    · cases hitems
      rfl
  · rename_i hother
    split at hother
    · rename_i hnil
      rw [hnil]
      rfl
    · exact absurd rfl (hother _)

/-- The files of a finding have trees. Then it records the same arguments for every order of the
files, exactly if the trees that could end the search agree on the extras. -/
theorem arguments_same_for_orders_iff {m : Manifest} {root : Xml.Element} {f : Finding}
    (hf : f ∈ fromManifest m root) :
    ∃ component name methods, Records f component name ∧
      entryMethods component.word = some methods ∧
      ∀ (fs : FileSystem) (files : List String),
        (∀ file ∈ files, (fs.treeAt? file).isSome = true) →
        ((∀ order order' : List String, order.Perm files → order'.Perm files →
            ∀ v, v ∈ argumentsOf (complete fs order f).1 ↔
              v ∈ argumentsOf (complete fs order' f).1) ↔
          Agree methods (treesFor fs (Text.replace name "." "/") files)) := by
  obtain ⟨component, name, methods, hreport, hmethods⟩ := exists_report hf
  refine ⟨component, name, methods, hreport.records, hmethods, fun fs files htrees => ?_⟩
  have harguments : ∀ order : List String, order.Perm files →
      argumentsOf (complete fs order f).1 =
        (collected methods (treesFor fs (Text.replace name "." "/") order)).map .text :=
    fun order horder => hreport.argumentsOf_complete hmethods fun file hfile =>
      passable_of_treeAt? (htrees file (horder.mem_iff.mp hfile))
  constructor
  · intro h s hs t ht hends hends' x
    obtain ⟨order, trees, horder, hfirst⟩ := exists_order hs
    obtain ⟨order', trees', horder', hfirst'⟩ := exists_order ht
    have hsame := h order order' horder horder' (.text x)
    rw [harguments order horder, harguments order' horder', hfirst, hfirst', collected_of_ends hends,
      collected_of_ends hends'] at hsame
    simpa using hsame
  · intro hagree order order' horder horder' v
    have hperm := (treesFor_perm fs (Text.replace name "." "/") horder).symm
    have hperm' := (treesFor_perm fs (Text.replace name "." "/") horder').symm
    rw [harguments order horder, harguments order' horder', List.mem_map, List.mem_map]
    refine exists_congr fun x => and_congr_left fun _ => ?_
    rw [← collected_of_agree hperm hagree, ← collected_of_agree hperm' hagree]

theorem gained_twoReaders :
    ∃ first second,
      treesFor twoReaders (Text.replace "A" "." "/") ["a/A.java", "b/A.java"] = [first, second] ∧
      treesFor twoReaders (Text.replace "A" "." "/") ["b/A.java", "a/A.java"] = [second, first] ∧
      (ends ["onCreate", "onStart"] first = true ∧
        gained ["onCreate", "onStart"] first = ["\"x\""]) ∧
      ends ["onCreate", "onStart"] second = true ∧
        gained ["onCreate", "onStart"] second = ["\"y\""] := by
  obtain ⟨first, second, -, -, htrees, htrees', ⟨hwhole, hcontributes, hliterals⟩, hwhole',
    hcontributes', hliterals'⟩ := treesFor_twoReaders
  refine ⟨first, second, htrees, htrees', ⟨?_, ?_⟩, ?_, ?_⟩
  · rw [ends_of_whole hwhole, hcontributes]
  · rw [gained_of_contributes hwhole hcontributes, hliterals]
    rfl
  · rw [ends_of_whole hwhole', hcontributes']
  · rw [gained_of_contributes hwhole' hcontributes', hliterals']
    rfl

theorem arguments_same_for_orders_iff_two :
    openFinding ∈ fromManifest {} openActivity ∧
      ¬∀ order order' : List String, order.Perm ["a/A.java", "b/A.java"] →
        order'.Perm ["a/A.java", "b/A.java"] →
        ∀ v, v ∈ argumentsOf (complete twoReaders order openFinding).1 ↔
          v ∈ argumentsOf (complete twoReaders order' openFinding).1 := by
  obtain ⟨component, name, methods, hrecords, hmethods, horders⟩ :=
    arguments_same_for_orders_iff openFinding_mem
  obtain ⟨rfl, rfl⟩ := hrecords.unique openFinding_records
  obtain rfl : ["onCreate", "onStart"] = methods := Option.some.inj hmethods
  obtain ⟨first, second, hfirst, hsecond, -⟩ := treesFor_twoReaders
  refine ⟨openFinding_mem, fun h => ?_⟩
  have hagree := (horders twoReaders ["a/A.java", "b/A.java"] (by simp [hfirst, hsecond])).mp h
  obtain ⟨first, second, htrees, -, ⟨hends, hx⟩, hends', hy⟩ := gained_twoReaders
  have hsame := hagree first (by simp [htrees]) second (by simp [htrees]) hends hends' "\"x\""
  rw [hx, hy] at hsame
  simp at hsame

/-- The activity reads the one or the other extra, by the order of the files. -/
theorem order_changes_arguments :
    argumentsOf (complete twoReaders ["a/A.java", "b/A.java"] openFinding).1 = [.text "\"x\""] ∧
      argumentsOf (complete twoReaders ["b/A.java", "a/A.java"] openFinding).1 =
        [.text "\"y\""] := by
  obtain ⟨first, second, htrees, htrees', ⟨hends, hx⟩, hends', hy⟩ := gained_twoReaders
  have hreport : IsReport {} .activity "A" openFinding := ⟨_, _, _, rfl⟩
  have hpass : ∀ file ∈ ["a/A.java", "b/A.java"], twoReaders.Passable file := fun file hfile =>
    passable_twoReaders file (by simpa using hfile)
  have hpass' : ∀ file ∈ ["b/A.java", "a/A.java"], twoReaders.Passable file := fun file hfile =>
    passable_twoReaders file (by simpa [or_comm] using hfile)
  constructor
  · rw [hreport.argumentsOf_complete rfl hpass, htrees, collected_of_ends hends, hx]
    rfl
  · rw [hreport.argumentsOf_complete rfl hpass', htrees', collected_of_ends hends', hy]
    rfl

end DroidAudit.ExportedDetector
