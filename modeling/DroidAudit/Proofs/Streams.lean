import DroidAudit.Proofs.Observation
import Mathlib.Data.List.Forall2

/-! Detectors that look at nodes one by one. A tree that is held for all of them is gone through
once, and each node is shown to every observer that was started before the next one is taken. An
observer that runs on its own goes through the same tree alone. Up to the order in which web views that
stay unsettled are listed, the two ways cannot be told from each other by what is reported. -/
namespace DroidAudit

namespace Java.Node

mutual

/-- What is reached before a node lies too deep comes first in the tree, and is all of it if none
does. -/
theorem walkWithin_spec (room : Nat) : ∀ n : Node, (n.walkWithin room).1 <+: n.walk ∧
    ((n.walkWithin room).2 = true → (n.walkWithin room).1 = n.walk)
  | .mk kind position children => by
    obtain ⟨hfront, hwhole⟩ := walkChildrenWithin_spec room kind children
    rw [walkWithin, walk]
    exact ⟨List.cons_prefix_cons.mpr ⟨rfl, hfront⟩,
      fun h => congrArg (mk kind position children :: ·) (hwhole h)⟩

theorem walkChildrenWithin_spec (room : Nat) (kind : Kind) : ∀ children : List (Part × Node),
    (walkChildrenWithin room kind children).1 <+: walkChildren children ∧
      ((walkChildrenWithin room kind children).2 = true →
        (walkChildrenWithin room kind children).1 = walkChildren children)
  | [] => by simp [walkChildrenWithin, walkChildren]
  | (part, n) :: rest => by
    rw [walkChildrenWithin, walkChildren]
    split
    · exact ⟨List.nil_prefix, nofun⟩
    have hn := walkWithin_spec (room - levelsBelow kind n.kind) n
    cases hw : n.walkWithin (room - levelsBelow kind n.kind) with
    | mk found whole =>
      rw [hw] at hn
      cases whole with
      | false => exact ⟨hn.1.trans (List.prefix_append _ _), nofun⟩
      | true =>
        obtain ⟨hfront, hwhole⟩ := walkChildrenWithin_spec room kind rest
        rw [← hn.2 rfl]
        exact ⟨(List.prefix_append_right_inj found).mpr hfront,
          fun h => congrArg (found ++ ·) (hwhole h)⟩

end

theorem reached_of_whole {tree : Node} (h : tree.reached.2 = true) : tree.reached.1 = tree.walk :=
  (walkWithin_spec maxDepth tree).2 h

theorem mem_walk_of_reached {tree n : Node} (h : n ∈ tree.reached.1) : n ∈ tree.walk :=
  (walkWithin_spec maxDepth tree).1.subset h

end Java.Node

namespace Detector

/-- What a detector of nodes reports when it is asked and then shown some nodes: what comes with its
answer, and, if it wants to see nodes, what each of them gives. -/
def yields (d : Detector) (w : Surroundings) (s : Sight) (nodes : List Java.Node) : List Finding :=
  match d.mayRun w s with
  | .error _ => []
  | .ok (wants, asked) => asked ++ if wants then nodes.flatMap (d.see w s) else []

/-- Whether a detector of nodes wants to see the nodes of a file. -/
def Wants (d : Detector) (w : Surroundings) (s : Sight) : Prop :=
  ∃ asked, d.mayRun w s = .ok (true, asked)

/-- The method by which web views are told `false`, for the detectors of views that are never told. -/
def toldBy? : Detector → Option String
  | contentAccess => some "setAllowContentAccess"
  | fileAccess => some "setAllowFileAccess"
  | universalAccess => some WebViewDetector.universalMethod
  | _ => none

variable {d : Detector} {w : Surroundings} {s : Sight} {waits : Bool}

theorem run_stream (hd : d.family = .stream waits) (files : Option (List String))
    (known : List Finding) :
    d.run w s files known = (known ++ (d.runStream waits w s).1, (d.runStream waits w s).2) := by
  cases d <;> cases hd <;> rfl

/-- Only the detector of universal access reports something by just being asked, web views that stay
unsettled, and then it does not want to see nodes. -/
theorem mayRun_asked {wants : Bool} {asked : List Finding} (h : d.mayRun w s = .ok (wants, asked)) :
    asked = [] ∨ wants = false ∧ d = universalAccess ∧ WebViewDetector.defaults s.tree
      WebViewDetector.universalMethod WebViewDetector.universalNotice s.path = .ok asked := by
  cases d with
  | universalAccess =>
    simp only [mayRun] at h
    split at h
    · obtain ⟨found, hfound, h⟩ := bind_eq_ok_iff.mp h
      cases h
      exact .inr ⟨rfl, rfl, hfound⟩
    · cases h
      exact .inl rfl
  | _ =>
    simp only [mayRun] at h
    repeat' split at h
    all_goals cases h
    all_goals exact .inl rfl

theorem runStream_of_wants {asked : List Finding} (h : d.mayRun w s = .ok (true, asked))
    {tree : Java.Node} (ht : s.tree = some tree) :
    d.runStream false w s =
      (d.yields w s tree.reached.1, if tree.reached.2 then none else some .tooDeep) := by
  simp only [runStream, h, ht, seeAll, yields, if_true, Bool.false_eq_true, if_false]

theorem runStream_of_idle {asked : List Finding} (h : d.mayRun w s = .ok (false, asked))
    (nodes : List Java.Node) : d.runStream waits w s = (d.yields w s nodes, none) := by
  simp [runStream, h, yields]

end Detector

section
variable {w : Surroundings} {s : Shared}

namespace Observer

/-- An observer that has been asked, and whether it wants to see nodes. -/
def asked (w : Surroundings) (s : Shared) (o : Observer) : Observer × Bool :=
  match o.detector.mayRun w (o.sight s) with
  | .error _ => (o, false)
  | .ok (wants, found) => ({ o with findings := o.findings ++ found }, wants)

theorem run_of_stream {o : Observer} {tree : Java.Node} (hd : o.detector.family = .stream false)
    (ht : o.tree s = some tree)
    (hask : ∃ answer, o.detector.mayRun w (o.sight s) = .ok answer) :
    (o.run w s).1 =
      { o with findings := o.findings ++ o.detector.yields w (o.sight s) tree.reached.1 } ∧
    (tree.reached.2 = true → (o.run w s).2 = none) := by
  have hsight : (o.sight s).tree = some tree := ht
  obtain ⟨⟨wants, found⟩, hfound⟩ := hask
  simp only [run, Detector.run_stream hd]
  cases wants with
  | false =>
    rw [Detector.runStream_of_idle hfound tree.reached.1]
    exact ⟨rfl, fun _ => rfl⟩
  | true =>
    rw [Detector.runStream_of_wants hfound hsight]
    exact ⟨rfl, fun hwhole => if_pos hwhole⟩

end Observer

theorem startAll_eq {observers : List Observer}
    (hd : ∀ o ∈ observers, o.detector.family = .stream false)
    (hask : ∀ o ∈ observers, ∃ answer, o.detector.mayRun w (o.sight s) = .ok answer) :
    startAll w s observers = (observers.map (Observer.asked w s), none) := by
  induction observers with
  | nil => rfl
  | cons o rest ih =>
    have hrest := ih (fun p hp => hd p (by simp [hp])) (fun p hp => hask p (by simp [hp]))
    have ho := hd o (by simp)
    obtain ⟨⟨wants, found⟩, hfound⟩ := hask o (by simp)
    have hmay : o.mayRun w s = ({ o with findings := o.findings ++ found }, .ok wants) := by
      simp only [Observer.mayRun, ho, hfound]
    cases wants with
    | false => simp only [startAll, hmay, hrest, List.map_cons, Observer.asked, hfound]
    | true =>
      have hwaits : (o.detector.family == .stream true) = false := by rw [ho]; rfl
      simp only [startAll, hmay, hwaits, hrest, List.map_cons, Observer.asked, hfound,
        Bool.false_eq_true, if_false]

/-- The nodes are shown in one pass, node by node. Each started observer has in the end what all
nodes give it, since what it sees of the file does not change on the way. -/
theorem foldl_showNode (nodes : List Java.Node) (started : List (Observer × Bool)) :
    nodes.foldl (showNode w s) started = started.map fun (o, wants) =>
      (if wants then
        { o with findings := o.findings ++ nodes.flatMap (o.detector.see w (o.sight s)) }
      else o, wants) := by
  induction nodes generalizing started with
  | nil => simp
  | cons n nodes ih =>
    rw [List.foldl_cons, ih, showNode, List.map_map]
    congr 1
    funext ⟨o, wants⟩
    cases wants with
    | false => rfl
    | true =>
      -- what is seen does not depend on what was found
      have hsight : (o.see w s n).sight s = o.sight s := rfl
      simp only [Function.comp_apply, if_true, hsight]
      simp [Observer.see]

theorem asked_shown {o : Observer}
    (hask : ∃ answer, o.detector.mayRun w (o.sight s) = .ok answer) (nodes : List Java.Node) :
    (let p := o.asked w s
      if p.2 then
        { p.1 with findings := p.1.findings ++ nodes.flatMap (p.1.detector.see w (p.1.sight s)) }
      else p.1) =
    { o with findings := o.findings ++ o.detector.yields w (o.sight s) nodes } := by
  obtain ⟨⟨wants, found⟩, hfound⟩ := hask
  have hsight : ({ o with findings := o.findings ++ found } : Observer).sight s = o.sight s := rfl
  cases wants with
  | false => simp [Observer.asked, hfound, Detector.yields]
  | true => simp [Observer.asked, hfound, Detector.yields, hsight]

theorem showTree_eq {observers : List Observer} {tree : Java.Node}
    (hd : ∀ o ∈ observers, o.detector.family = .stream false)
    (hs : s.tree.tree = some (some tree))
    (hask : ∀ o ∈ observers, ∃ answer, o.detector.mayRun w (o.sight s) = .ok answer) :
    showTree w s observers =
      (observers.map fun o =>
        { o with findings := o.findings ++ o.detector.yields w (o.sight s) tree.reached.1 },
        if tree.reached.2 then none else some .tooDeep) := by
  simp only [showTree, hs, Option.getD_some, startAll_eq hd hask, foldl_showNode, List.map_map]
  refine Prod.ext (List.map_congr_left fun o ho => ?_) rfl
  exact asked_shown (hask o ho) tree.reached.1

end

/-- Observers that differ at most in the order of what they have found. -/
def Observer.Alike (o p : Observer) : Prop :=
  o.findings.Perm p.findings ∧ o = { p with findings := o.findings }

/-- Observers of nodes that have the common tree, and of which none fails when it is asked, come out of
one common pass as they come out of their own runs, up to the order of their findings, and in the same
order if they want to see nodes. If the tree can be gone through, whoever wants to see nodes reports
what its check yields on the nodes of the tree in reading order. Nobody else is shown a node, and only
the detector of universal access then reports something, the web views that stay unsettled. -/
theorem showTree_alike_runs (w : Surroundings) (s : Shared) (tree : Java.Node)
    (observers : List Observer) (hd : ∀ o ∈ observers, o.detector.family = .stream false)
    (hs : s.tree.tree = some (some tree)) (ht : ∀ o ∈ observers, o.tree s = some tree)
    (hask : ∀ o ∈ observers, ∃ answer, o.detector.mayRun w (o.sight s) = .ok answer) :
    List.Forall₂ (fun shown o => shown.Alike (o.run w s).1 ∧
      (o.detector.Wants w (o.sight s) → shown = (o.run w s).1)) (showTree w s observers).1 observers ∧
    ((showTree w s observers).2 = none ↔ tree.reached.2 = true) ∧
    (tree.reached.2 = true → ∀ o ∈ observers, (o.run w s).2 = none ∧
      (o.detector.Wants w (o.sight s) → (o.run w s).1.findings =
        o.findings ++ tree.walk.flatMap (o.detector.see w (o.sight s))) ∧
      (¬ o.detector.Wants w (o.sight s) → ∃ found,
        (o.run w s).1.findings.Perm (o.findings ++ found) ∧
        (found = [] ∨ o.detector = .universalAccess ∧ WebViewDetector.defaults (o.sight s).tree
          WebViewDetector.universalMethod WebViewDetector.universalNotice (o.sight s).path =
            .ok found))) := by
  rw [showTree_eq hd hs hask]
  refine ⟨?_, by simp, fun hwhole o ho => ?_⟩
  · rw [List.forall₂_map_left_iff, List.forall₂_same]
    intro o ho
    rw [(Observer.run_of_stream (hd o ho) (ht o ho) (hask o ho)).1]
    exact ⟨⟨.refl _, rfl⟩, fun _ => rfl⟩
  · obtain ⟨hrun, hnone⟩ := Observer.run_of_stream (hd o ho) (ht o ho) (hask o ho)
    rw [hrun, Java.Node.reached_of_whole hwhole]
    refine ⟨hnone hwhole, ?_, fun hidle => ?_⟩
    · rintro ⟨asked, hmay⟩
      have hnil : asked = [] := (Detector.mayRun_asked hmay).resolve_right fun h => nomatch h.1
      simp [Detector.yields, hmay, hnil]
    · obtain ⟨⟨wants, asked⟩, hmay⟩ := hask o ho
      cases wants with
      | true => exact absurd ⟨asked, hmay⟩ hidle
      | false =>
        refine ⟨asked, ?_, (Detector.mayRun_asked hmay).imp_right And.right⟩
        simp [Detector.yields, hmay]

/-- A method named `call` that opens a directory outside of the app. -/
def storageTree : Java.Node :=
  .mk .compilationUnit none [(.other, .mk (.classDeclaration "A") none
    [(.body, .mk (.methodDeclaration "call") (some ⟨2, 3⟩)
      [(.body, .mk .statementExpression none
        [(.other, .mk (.methodInvocation (some "") "getExternalFilesDir") (some ⟨3, 5⟩) [])])])])]

def storageShared : Shared := { tree := { tree := some (some storageTree), parseable := some true } }

def storageObservers : List Observer :=
  [{ detector := .externalStorage }, { detector := .insecureFunctions },
   { detector := .universalAccess }]

theorem showTree_alike_runs_storage :
    (∀ o ∈ storageObservers, o.detector.family = .stream false ∧ o.tree storageShared = some storageTree ∧
      ∃ answer, o.detector.mayRun ⟨.empty [], { minSdk := 15 }⟩ (o.sight storageShared) = .ok answer) ∧
    List.Forall₂ (fun shown o => shown.Alike (o.run ⟨.empty [], { minSdk := 15 }⟩ storageShared).1 ∧
      (o.detector.Wants ⟨.empty [], { minSdk := 15 }⟩ (o.sight storageShared) →
        shown = (o.run ⟨.empty [], { minSdk := 15 }⟩ storageShared).1))
      (showTree ⟨.empty [], { minSdk := 15 }⟩ storageShared storageObservers).1 storageObservers ∧
    (showTree ⟨.empty [], { minSdk := 15 }⟩ storageShared storageObservers).1.map
      (·.findings.length) = [1, 1, 0] := by
  have hall : ∀ o ∈ storageObservers,
      o.detector.family = .stream false ∧ o.tree storageShared = some storageTree ∧
        ∃ answer, o.detector.mayRun ⟨.empty [], { minSdk := 15 }⟩ (o.sight storageShared) =
          .ok answer := by
    simp only [storageObservers, List.mem_cons, List.not_mem_nil, or_false, forall_eq_or_imp,
      forall_eq]
    exact ⟨⟨rfl, rfl, _, rfl⟩, ⟨rfl, rfl, _, rfl⟩, ⟨rfl, rfl, _, rfl⟩⟩
  exact ⟨hall, (showTree_alike_runs ⟨.empty [], { minSdk := 15 }⟩ storageShared storageTree
    storageObservers (fun o ho => (hall o ho).1) rfl (fun o ho => (hall o ho).2.1)
    fun o ho => (hall o ho).2.2).1, by decide +kernel⟩

def interfaceSource : String :=
  "class A \x7bvoid f(WebView v) \x7bv.addJavascriptInterface(a, b);\x7d\x7d"

/-- From level 17 on the detector of interfaces does not want to see nodes, so it reports nothing on a
source with a call that its check reports. -/
theorem interface_call_unreported :
    ∃ tree, Java.read interfaceSource = .ok tree ∧ tree.reached.2 = true ∧
      let w : Surroundings := ⟨.empty [], { minSdk := 17 }⟩
      let s : Shared := { tree := { tree := some (some tree), parseable := some true } }
      let o : Observer := { detector := .scriptInterface }
      (o.run w s).1.findings = [] ∧ (o.run w s).2 = none ∧
        (∀ p ∈ (showTree w s [o]).1, p.findings = []) ∧
        (tree.walk.flatMap (o.detector.see w (o.sight s))).length = 1 := by
  have hread : ((Java.read interfaceSource).toOption.any fun tree => tree.reached.2 &&
      (tree.walk.flatMap (Detector.scriptInterface.see ⟨.empty [], { minSdk := 17 }⟩
        ⟨none, none, some tree⟩)).length == 1) = true := by decide +kernel
  obtain ⟨tree, htree, hseen⟩ := (Option.any_eq_true _ _).mp hread
  rw [Bool.and_eq_true, beq_iff_eq] at hseen
  refine ⟨tree, toOption_eq_some_iff.mp htree, hseen.1, rfl, rfl, ?_, hseen.2⟩
  rw [showTree_eq (List.forall_mem_singleton.mpr rfl) rfl (List.forall_mem_singleton.mpr ⟨_, rfl⟩)]
  exact List.forall_mem_singleton.mpr rfl

end DroidAudit
