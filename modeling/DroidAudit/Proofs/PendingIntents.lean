import DroidAudit.Proofs.DeclaredViews

/-! Intents that are handed on for later. A call for a pending intent is reported once for each
mention of the class of intents in an object that is created in its arguments with one argument at
most, whether that object is an intent or only holds one. So there are as many findings as there are
intents created in that way if each of them mentions the class once, and no other such object does. -/
namespace DroidAudit

section Count
variable {α β : Type} {f : α → List β} {p : α → Bool} {xs : List α}

theorem flatMap_if (p : α → Bool) (f : α → List β) (xs : List α) :
    (xs.flatMap fun x => if p x then f x else []) = (xs.filter p).flatMap f := by
  induction xs with
  | nil => rfl
  | cons x xs ih => cases hx : p x <;> simp [hx, ih]

theorem length_filter_le_length_flatMap (h : ∀ x ∈ xs, p x = true → f x ≠ []) :
    (xs.filter p).length ≤ (xs.flatMap f).length := by
  induction xs with
  | nil => exact Nat.le_refl _
  | cons x xs ih =>
    obtain ⟨hx, hxs⟩ := List.forall_mem_cons.mp h
    have hrest := ih hxs
    have hfirst : p x = true → 0 < (f x).length := fun hp => List.length_pos_iff.mpr (hx hp)
    cases hp : p x <;> simp_all <;> omega

/-- If each member that counts gives something, there is as much as there are of them only if each
gives one thing and the others nothing. -/
theorem length_flatMap_eq_iff (h : ∀ x ∈ xs, p x = true → f x ≠ []) :
    (xs.flatMap f).length = (xs.filter p).length ↔
      ∀ x ∈ xs, (f x).length = if p x then 1 else 0 := by
  induction xs with
  | nil => simp
  | cons x xs ih =>
    obtain ⟨hx, hxs⟩ := List.forall_mem_cons.mp h
    have hle := length_filter_le_length_flatMap hxs
    have hfirst : p x = true → 0 < (f x).length := fun hp => List.length_pos_iff.mpr (hx hp)
    rw [List.forall_mem_cons, ← ih hxs, List.flatMap_cons, List.length_append, List.filter_cons]
    split
    · have := hfirst ‹_›
      rw [List.length_cons]
      omega
    · omega

end Count

namespace Java.Node

mutual

/-- The last name of a dotted type. -/
def lastName? : Node → Option String
  | mk (.referenceType name) _ children => some ((lastNameBelow? children).getD name)
  | _ => none

def lastNameBelow? : List (Part × Node) → Option String
  | [] => none
  | (_, n) :: rest => n.lastName?.or (lastNameBelow? rest)

end

def createdType? (n : Node) : Option String := (n.part .type).head?.bind lastName?

mutual

/-- The last name of a type is written on a node of it. -/
theorem exists_mem_walk_of_lastName? {name : String} : ∀ n : Node, n.lastName? = some name →
    ∃ m ∈ n.walk, m.kind = .referenceType name
  | mk kind place children, h => by
    cases kind with
    | referenceType written =>
      rw [lastName?, Option.some.injEq] at h
      cases hbelow : lastNameBelow? children with
      | none =>
        rw [hbelow, Option.getD_none] at h
        exact ⟨_, self_mem_walk _, congrArg Kind.referenceType h⟩
      | some last =>
        rw [hbelow, Option.getD_some] at h
        obtain ⟨m, hm, hkind⟩ := exists_mem_walkChildren_of_lastName? children (h ▸ hbelow)
        rw [walk]
        exact ⟨m, List.mem_cons_of_mem _ hm, hkind⟩
    | _ => simp [lastName?] at h

theorem exists_mem_walkChildren_of_lastName? {name : String} : ∀ children : List (Part × Node),
    lastNameBelow? children = some name →
      ∃ m ∈ walkChildren children, m.kind = .referenceType name
  | [], h => by
    rw [lastNameBelow?] at h
    cases h
  | (_, n) :: rest, h => by
    rw [lastNameBelow?, Option.or_eq_some_iff] at h
    rw [walkChildren]
    rcases h with hn | ⟨-, hrest⟩
    · obtain ⟨m, hm, hkind⟩ := exists_mem_walk_of_lastName? n hn
      exact ⟨m, List.mem_append_left _ hm, hkind⟩
    · obtain ⟨m, hm, hkind⟩ := exists_mem_walkChildren_of_lastName? rest hrest
      exact ⟨m, List.mem_append_right _ hm, hkind⟩

end

end Java.Node

namespace CallDetector
open Java

def isPendingCall (n : Node) : Bool := n.calledMember?.any pendingMethods.contains

def intentMentions (creation : Node) : List Node :=
  creation.walk.filter fun m => m.kind == .referenceType "Intent"

/-- An intent that is created with one argument at most. -/
def isImplicitIntent (n : Node) : Bool :=
  n.kind == .classCreator && n.arguments.length ≤ 1 && n.createdType? == some "Intent"

/-- Calls for a pending intent, each with the intents that are created in its arguments with one
argument at most. -/
def implicitPairs (nodes : List Node) : List (Node × Node) :=
  (nodes.filter isPendingCall).flatMap fun call =>
    ((call.arguments.flatMap Node.walk).filter isImplicitIntent).map fun creation => (call, creation)

/-- The objects that are created in the arguments of calls for a pending intent with one argument at
most, for each of the calls. -/
def pendingCreations (nodes : List Node) : List Node :=
  (nodes.filter isPendingCall).flatMap fun call => call.arguments.flatMap smallCreations

theorem map_snd_implicitPairs (nodes : List Node) :
    (implicitPairs nodes).map Prod.snd =
      (pendingCreations nodes).filter fun n => n.createdType? == some "Intent" := by
  rw [implicitPairs, pendingCreations, List.map_flatMap, List.filter_flatMap]
  refine List.flatMap_congr fun call _ => ?_
  have hsmall : call.arguments.flatMap smallCreations =
      (call.arguments.flatMap Node.walk).filter fun n =>
        n.kind == .classCreator && n.arguments.length ≤ 1 := List.filter_flatMap.symm
  rw [List.map_map, hsmall, List.filter_filter]
  refine (List.map_id _).trans (List.filter_congr fun n _ => ?_)
  rw [isImplicitIntent, Bool.and_comm]

theorem flatMap_pendingIntent (path : Option String) (nodes : List Node) :
    nodes.flatMap (pendingIntent path) =
      ((pendingCreations nodes).flatMap intentMentions).map fun _ =>
        pendingNotice.about path none := by
  have hcall : ∀ n, pendingIntent path n = if isPendingCall n then
      (n.arguments.flatMap smallCreations).flatMap fun creation =>
        (intentMentions creation).map fun _ => pendingNotice.about path none
      else [] := by
    intro n
    rw [List.flatMap_assoc]
    rfl
  rw [List.flatMap_congr fun n _ => hcall n, flatMap_if, pendingCreations, List.map_flatMap,
    List.flatMap_assoc]

theorem intentMentions_ne_nil {creation : Node} (h : creation.createdType? = some "Intent") :
    intentMentions creation ≠ [] := by
  obtain ⟨type, htype, hname⟩ := Option.bind_eq_some_iff.mp h
  obtain ⟨m, hm, hkind⟩ := Node.exists_mem_walk_of_lastName? type hname
  have hcreation : m ∈ creation.walk :=
    Node.mem_walk_trans hm creation (Node.mem_walk_of_part (List.mem_of_mem_head? htype))
  exact List.ne_nil_of_mem (List.mem_filter.mpr ⟨hcreation, beq_iff_eq.mpr hkind⟩)

end CallDetector

namespace Detector
open CallDetector

/-- A run fails exactly if the tree is not met as a whole. Otherwise it adds a finding for each mention
of the class of intents in an object that is created with one argument at most. These are as many as
there are intents created in that way if each such object mentions the class once if it is an intent
and not at all if it is something else. -/
theorem pendingIntent_run_adds (w : Surroundings) {s : Sight} {tree : Java.Node}
    (ht : s.tree = some tree) (hmay : pendingIntent.mayRun w s = .ok (true, []))
    (files : Option (List String)) (known : List Finding) :
    (pendingIntent.run w s files known).2 = (if tree.reached.2 then none else some .tooDeep) ∧
    (tree.reached.2 = true → pendingIntent.run w s files known =
      (known ++ List.replicate ((pendingCreations tree.walk).flatMap intentMentions).length
        (pendingNotice.about s.path none), none)) ∧
    ((∃ found, pendingIntent.run w s files known = (known ++ found, none) ∧
        found.length = (implicitPairs tree.walk).length) ↔
      tree.reached.2 = true ∧ ∀ creation ∈ pendingCreations tree.walk,
        (intentMentions creation).length =
          if creation.createdType? = some "Intent" then 1 else 0) := by
  have hrun : pendingIntent.run w s files known =
      (known ++ List.replicate ((pendingCreations tree.reached.1).flatMap intentMentions).length
          (pendingNotice.about s.path none),
        if tree.reached.2 then none else some .tooDeep) := by
    rw [run_stream rfl, runStream_of_wants hmay ht, yields, hmay]
    have hsee : tree.reached.1.flatMap (pendingIntent.see w s) =
        tree.reached.1.flatMap (CallDetector.pendingIntent s.path) := rfl
    simp only [hsee, flatMap_pendingIntent, if_true, List.nil_append, List.map_const']
  have hcount : ((pendingCreations tree.walk).flatMap intentMentions).length =
      (implicitPairs tree.walk).length ↔ ∀ creation ∈ pendingCreations tree.walk,
        (intentMentions creation).length =
          if creation.createdType? = some "Intent" then 1 else 0 := by
    rw [← List.length_map (f := Prod.snd), map_snd_implicitPairs, length_flatMap_eq_iff]
    · simp only [beq_iff_eq]
    · exact fun creation _ hcreated => intentMentions_ne_nil (beq_iff_eq.mp hcreated)
  rw [hrun, ← hcount]
  refine ⟨rfl, ?_⟩
  cases hwhole : tree.reached.2 with
  | false =>
    refine ⟨fun h => absurd h Bool.false_ne_true, iff_of_false ?_ fun h => Bool.false_ne_true h.1⟩
    rintro ⟨found, hfound, -⟩
    cases congrArg Prod.snd hfound
  | true =>
    rw [Java.Node.reached_of_whole hwhole]
    refine ⟨fun _ => rfl, ?_, ?_⟩
    · rintro ⟨found, hfound, hlength⟩
      rw [← hlength, ← List.append_cancel_left (congrArg Prod.fst hfound), List.length_replicate]
      exact ⟨rfl, rfl⟩
    · rintro ⟨-, hlength⟩
      exact ⟨_, rfl, List.length_replicate.trans hlength⟩

/-- The tree of a class that gives something to a call for a pending intent. -/
def pendingTree (given : Java.Node) (column : Nat) : Java.Node :=
  .mk .compilationUnit none
    [(.other, .mk (.importName "android.app.PendingIntent" false false) none []),
     (.other, .mk (.classDeclaration "A") (some ⟨2, 1⟩)
      [(.body, .mk (.methodDeclaration "f") (some ⟨2, 10⟩)
        [(.body, .mk .statementExpression (some ⟨2, 20⟩)
          [(.other, .mk (.methodInvocation (some "PendingIntent") "getActivity") (some ⟨2, 20⟩)
            [(.argument, .mk (.memberReference (some "") "c") (some ⟨2, 46⟩) []),
             (.argument, .mk (.literal "0") (some ⟨2, 49⟩) []),
             (.argument, given),
             (.argument, .mk (.literal "0") (some ⟨2, column⟩) [])])])])])]

theorem mayRun_pendingTree {w : Surroundings} {path : Option String} {text : String}
    {cs : List Char} {given : Java.Node} {column : Nat} (hchars : text.toList = cs)
    (h : (Text.occurs "new Intent".toList cs &&
      pendingMethods.any fun m => Text.occurs m.toList cs) = true) :
    pendingIntent.mayRun w ⟨path, some text, some (pendingTree given column)⟩ = .ok (true, []) := by
  subst hchars
  obtain ⟨hnew, hmethod⟩ : Text.contains text "new Intent" = true ∧
    Text.containsAny text pendingMethods = true := Bool.and_eq_true_iff.mp h
  simp only [mayRun, hnew, hmethod, Bool.not_true, Bool.or_false, Bool.false_eq_true, if_false]
  rfl

/-- The text of a class that hands on an intent with an action only. -/
def actionSource : String :=
  "import android.app.PendingIntent;\n" ++
  "class A \x7bvoid f() \x7bPendingIntent.getActivity(c, 0, new Intent(\"a\"), 0);\x7d\x7d"

def actionIntent : Java.Node :=
  .mk .classCreator none
    [(.type, .mk (.referenceType "Intent") none []),
     (.argument, .mk (.literal "\"a\"") (some ⟨2, 63⟩) [])]

theorem pendingIntent_run_adds_action :
    (implicitPairs (pendingTree actionIntent 69).walk).length = 1 ∧
    ∃ found, pendingIntent.run ⟨.empty [], {}⟩
        ⟨some "A.java", some actionSource, some (pendingTree actionIntent 69)⟩ none [] =
          ([] ++ found, none) ∧
      found.length = (implicitPairs (pendingTree actionIntent 69).walk).length := by
  have hmay : pendingIntent.mayRun ⟨.empty [], {}⟩
      ⟨some "A.java", some actionSource, some (pendingTree actionIntent 69)⟩ = .ok (true, []) :=
    mayRun_pendingTree (Text.toList_append_of String.toList_ofList String.toList_ofList)
      (by decide +kernel)
  exact ⟨rfl, (pendingIntent_run_adds ⟨.empty [], {}⟩ rfl hmay none []).2.2.mpr ⟨rfl, by decide⟩⟩

/-- The text of a class that hands on an object with an intent for a class of its own. -/
def boxedSource : String :=
  "import android.app.PendingIntent;\n" ++
  "class A \x7bvoid f() \x7bPendingIntent.getActivity(c, 0, new Box(new Intent(c, B.class)), 0);\x7d\x7d"

def boxedIntent : Java.Node :=
  .mk .classCreator none
    [(.type, .mk (.referenceType "Box") none []),
     (.argument, .mk .classCreator none
      [(.type, .mk (.referenceType "Intent") none []),
       (.argument, .mk (.memberReference (some "") "c") (some ⟨2, 71⟩) []),
       (.argument, .mk .classReference (some ⟨2, 74⟩)
          [(.type, .mk (.referenceType "B") none [])])])]

/-- An intent for a class of its own is reported because another object holds it. -/
theorem boxed_intent_reported :
    Java.read boxedSource = .ok (pendingTree boxedIntent 85) ∧
      implicitPairs (pendingTree boxedIntent 85).walk = [] ∧
      pendingIntent.run ⟨.empty [], {}⟩
          ⟨some "A.java", some boxedSource, some (pendingTree boxedIntent 85)⟩ none [] =
        ([pendingNotice.about (some "A.java") none], none) := by
  have hchars : boxedSource.toList = _ :=
    Text.toList_append_of String.toList_ofList String.toList_ofList
  refine ⟨?_, rfl, ?_⟩
  · rw [Java.read_of_toList hchars]
    decide +kernel
  have hmay : pendingIntent.mayRun ⟨.empty [], {}⟩
      ⟨some "A.java", some boxedSource, some (pendingTree boxedIntent 85)⟩ = .ok (true, []) :=
    mayRun_pendingTree hchars (by decide +kernel)
  rw [run_stream rfl, runStream_of_wants hmay rfl, yields, hmay]
  rfl

end Detector
end DroidAudit
