import DroidAudit.Proofs.Streams
import Mathlib.Data.List.Perm.Basic

/-! Web views that nobody tells anything. If the call that settles a view stands nowhere in a tree,
every declaration of views is reported once for each method around it: a method is walked with all
that lies in it, the methods of inner classes too, and is then met again on its own. -/
namespace DroidAudit
namespace Java
namespace Node

/-! Nodes and what they lie in. -/

mutual

/-- The node and everything below it in reading order, each with the nodes it lies in. -/
def withAncestors (above : List Node) : Node → List (List Node × Node)
  | mk kind place children =>
    (above, mk kind place children) ::
      childrenWithAncestors (mk kind place children :: above) children

def childrenWithAncestors (above : List Node) : List (Part × Node) → List (List Node × Node)
  | [] => []
  | (_, n) :: rest => n.withAncestors above ++ childrenWithAncestors above rest

end

def isMethod (n : Node) : Bool := n.declaredMethod?.isSome

theorem mem_walkChildren {d : Node} {children : List (Part × Node)} :
    d ∈ walkChildren children ↔ ∃ c ∈ children, d ∈ c.2.walk := by
  induction children with
  | nil => simp [walkChildren]
  | cons c rest ih => simp [walkChildren, ih]

theorem self_mem_walk (n : Node) : n ∈ n.walk := by
  cases n
  rw [walk]
  exact List.mem_cons_self

theorem mem_walk_of_part {n child : Node} {part : Part} (h : child ∈ n.part part) :
    child ∈ n.walk := by
  obtain ⟨kind, place, children⟩ := n
  obtain ⟨⟨played, found⟩, hmem, hpart⟩ := List.mem_filterMap.mp h
  dsimp only at hpart
  split at hpart
  · cases hpart
    rw [walk]
    exact List.mem_cons_of_mem _ (mem_walkChildren.mpr ⟨_, hmem, child.self_mem_walk⟩)
  · cases hpart

mutual

/-- What lies below a node that lies in a tree lies in the tree. -/
theorem mem_walk_trans {m n : Node} (hn : n ∈ m.walk) : ∀ tree : Node, m ∈ tree.walk → n ∈ tree.walk
  | mk kind place children, hm => by
    rw [walk] at hm
    rcases List.mem_cons.mp hm with rfl | hm
    · exact hn
    · rw [walk]
      exact List.mem_cons_of_mem _ (mem_walkChildren_trans hn children hm)

theorem mem_walkChildren_trans {m n : Node} (hn : n ∈ m.walk) : ∀ children : List (Part × Node),
    m ∈ walkChildren children → n ∈ walkChildren children
  | [], hm => by
    rw [walkChildren] at hm
    cases hm
  | (_, child) :: rest, hm => by
    rw [walkChildren, List.mem_append] at hm ⊢
    exact hm.imp (mem_walk_trans hn child) (mem_walkChildren_trans hn rest)

end

section Enclosed
variable {α : Type}

/-- A list, once for each method among some nodes. -/
def forMethods (above : List Node) (xs : List α) : List α :=
  (above.filter isMethod).flatMap fun _ => xs

theorem forMethods_singleton (above : List Node) (x : α) :
    forMethods above [x] = List.replicate (above.countP isMethod) x := by
  rw [forMethods, ← List.map_eq_flatMap, List.map_const', List.countP_eq_length_filter]

theorem forMethods_append (above : List Node) (xs ys : List α) :
    (forMethods above (xs ++ ys)).Perm (forMethods above xs ++ forMethods above ys) :=
  (List.flatMap_append_perm _ _ _).symm

/-- What the nodes below one give, each as often as it lies in a method. -/
def enclosed (f : Node → List α) (places : List (List Node × Node)) : List α :=
  places.flatMap fun x => forMethods x.1 (f x.2)

/-- What the methods among some nodes give, each with all that lies in it. -/
def byMethod (f : Node → List α) (nodes : List Node) : List α :=
  (nodes.filter isMethod).flatMap fun m => m.walk.flatMap f

variable {f : Node → List α}

mutual

/-- Taking each node as often as it lies in a method is going through the methods one by one. -/
theorem enclosed_perm (hf : ∀ m, m.isMethod = true → f m = []) (above : List Node) : ∀ n : Node,
    (enclosed f (n.withAncestors above)).Perm
      (forMethods above (n.walk.flatMap f) ++ byMethod f n.walk)
  | mk kind place children => by
    have hbelow := enclosed_children_perm hf (mk kind place children :: above) children
    rw [withAncestors, walk]
    generalize hn : mk kind place children = n at hbelow
    have hwalk : n.walk = n :: walkChildren children := by rw [← hn, walk]
    have hfirst : enclosed f ((above, n) :: childrenWithAncestors (n :: above) children) =
        forMethods above (f n) ++ enclosed f (childrenWithAncestors (n :: above) children) := rfl
    rw [hfirst, List.flatMap_cons]
    refine (hbelow.append_left _).trans ?_
    cases hm : n.isMethod with
    | true =>
      -- the method itself gives nothing, and what lies in it is given once more
      have hmore : forMethods (n :: above) ((walkChildren children).flatMap f) =
          (walkChildren children).flatMap f ++
            forMethods above ((walkChildren children).flatMap f) := by
        rw [forMethods, List.filter_cons_of_pos hm, List.flatMap_cons, ← forMethods]
      have hown : byMethod f (n :: walkChildren children) =
          (walkChildren children).flatMap f ++ byMethod f (walkChildren children) := by
        rw [byMethod, List.filter_cons_of_pos hm, List.flatMap_cons, ← byMethod, hwalk,
          List.flatMap_cons, hf n hm, List.nil_append]
      have hnone : forMethods above ([] : List α) = [] := by simp [forMethods]
      rw [hmore, hown, hf n hm, hnone, List.nil_append, List.nil_append, List.append_assoc]
      exact List.perm_append_comm_assoc ..
    | false =>
      have hno : ¬n.isMethod = true := by rw [hm]; exact Bool.false_ne_true
      have hsame : forMethods (n :: above) ((walkChildren children).flatMap f) =
          forMethods above ((walkChildren children).flatMap f) := by
        rw [forMethods, List.filter_cons_of_neg hno, ← forMethods]
      have hown : byMethod f (n :: walkChildren children) = byMethod f (walkChildren children) := by
        rw [byMethod, List.filter_cons_of_neg hno, ← byMethod]
      rw [hsame, hown, ← List.append_assoc]
      exact (forMethods_append above _ _).symm.append_right _

theorem enclosed_children_perm (hf : ∀ m, m.isMethod = true → f m = []) (above : List Node) :
    ∀ children : List (Part × Node),
      (enclosed f (childrenWithAncestors above children)).Perm
        (forMethods above ((walkChildren children).flatMap f) ++ byMethod f (walkChildren children))
  | [] => by simp [childrenWithAncestors, walkChildren, enclosed, forMethods, byMethod]
  | (_, n) :: rest => by
    have hn := enclosed_perm hf above n
    have hrest := enclosed_children_perm hf above rest
    have hboth : byMethod f (n.walk ++ walkChildren rest) =
        byMethod f n.walk ++ byMethod f (walkChildren rest) := by
      rw [byMethod, List.filter_append, List.flatMap_append, ← byMethod, ← byMethod]
    rw [childrenWithAncestors, walkChildren, enclosed, List.flatMap_append, ← enclosed, ← enclosed,
      List.flatMap_append, hboth]
    calc
      enclosed f (n.withAncestors above) ++ enclosed f (childrenWithAncestors above rest)
      _ |>.Perm (forMethods above (n.walk.flatMap f) ++ byMethod f n.walk ++
          (forMethods above ((walkChildren rest).flatMap f) ++ byMethod f (walkChildren rest))) :=
        hn.append hrest
      _ |>.Perm (forMethods above (n.walk.flatMap f) ++
          forMethods above ((walkChildren rest).flatMap f) ++
          (byMethod f n.walk ++ byMethod f (walkChildren rest))) := by
        rw [List.append_assoc, List.append_assoc]
        exact (List.perm_append_comm_assoc ..).append_left _
      _ |>.Perm (forMethods above (n.walk.flatMap f ++ (walkChildren rest).flatMap f) ++
          (byMethod f n.walk ++ byMethod f (walkChildren rest))) :=
        (forMethods_append above _ _).symm.append_right _

end

end Enclosed
end Node
end Java

namespace WebViewDetector
open Java

/-! Declarations. -/

/-- Declarations of variables, in blocks and in the heads of loops. -/
def isDeclaration (n : Node) : Bool :=
  n.kind == .variableDeclaration || n.kind == .localVariableDeclaration

def variableNames (n : Node) : List String :=
  (n.part .declarator).filterMap fun d =>
    match d.kind with
    | .variableDeclarator name => some name
    | _ => none

def typeName? (n : Node) : Option String :=
  match (n.part .type).head?.map Node.kind with
  | some (.referenceType name) => some name
  | _ => none

def viewNames (n : Node) : List String :=
  if isDeclaration n && typeName? n == some "WebView" then variableNames n else []

/-- Declarations of web views, each of one variable at least. -/
def declaresViews (n : Node) : Bool := !(viewNames n).isEmpty

def viewPlace (n : Node) : List (Option Position) := if declaresViews n then [n.position] else []

theorem isDeclaration_iff {n : Node} : isDeclaration n = true ↔
    n.kind = .variableDeclaration ∨ n.kind = .localVariableDeclaration := by
  rw [isDeclaration, Bool.or_eq_true, beq_iff_eq, beq_iff_eq]

theorem declaredViews_of_declaration {n : Node} (h : isDeclaration n = true) :
    declaredViews n = some (viewNames n) := by
  have hviews : declaredViews n =
      some (if typeName? n == some "WebView" then variableNames n else []) := by
    unfold declaredViews typeName?
    rcases isDeclaration_iff.mp h with hkind | hkind
    all_goals
      simp only [hkind]
      split
      · rename_i htype
        simp only [htype]
        rfl
      · rename_i hother
        split
        · rename_i name hname
          have hne : name ≠ "WebView" := fun heq => hother (heq ▸ hname)
          simp [hne]
        · rfl
  rw [hviews, viewNames, h, Bool.true_and]

theorem declaredViews_of_other {n : Node} (h : isDeclaration n = false) :
    declaredViews n = none := by
  have hkind : ¬(n.kind = .variableDeclaration ∨ n.kind = .localVariableDeclaration) := by
    rw [← isDeclaration_iff, h]
    exact Bool.false_ne_true
  unfold declaredViews
  split
  · exact absurd (.inl ‹_›) hkind
  · exact absurd (.inr ‹_›) hkind
  · rfl

theorem viewNames_of_other {n : Node} (h : isDeclaration n = false) : viewNames n = [] := by
  rw [viewNames, h]
  rfl

theorem calledMember_of_declaredViews {n : Node} {names : List String}
    (h : declaredViews n = some names) : n.calledMember? = none := by
  unfold declaredViews at h
  split at h
  · rename_i hk
    simp only [Node.calledMember?, hk]
  · rename_i hk
    simp only [Node.calledMember?, hk]
  · cases h

theorem declare_fresh {views : List View} {v : View} (h : v.name ∉ views.map (·.name)) :
    declare views v = views ++ [v] := by
  have hnone : views.any (·.name == v.name) = false := by
    rw [List.any_eq_false]
    intro w hw hsame
    exact h (List.mem_map.mpr ⟨w, hw, beq_iff_eq.mp hsame⟩)
  rw [declare, hnone, if_neg Bool.false_ne_true]

theorem foldl_declare {names : List String} {views : List View} (count : Nat) (n : Node)
    (h : (views.map (·.name) ++ names).Nodup) :
    names.foldl (fun vs name => declare vs ⟨name, count, n⟩) views =
      views ++ names.map (⟨·, count, n⟩) := by
  induction names generalizing views with
  | nil => rw [List.foldl_nil, List.map_nil, List.append_nil]
  | cons name names ih =>
    have hfresh : name ∉ views.map (·.name) := fun hmem =>
      (List.nodup_append.mp h).2.2 name hmem name List.mem_cons_self rfl
    rw [List.foldl_cons, declare_fresh hfresh, ih, List.map_cons, List.append_assoc,
      List.singleton_append]
    rwa [List.map_append, List.append_assoc]

/-! Walks in which nothing is settled. -/

variable {method : String}

theorem settleSelectors_quiet {name : Option String} {views left : List View}
    {selectors : List Node} (hno : ∀ s ∈ selectors, s.isCallWith method "false" = false)
    (h : settleSelectors method name views selectors = .ok left) : left = views := by
  induction selectors with
  | nil =>
    cases h
    rfl
  | cons s rest ih =>
    obtain ⟨hs, hrest⟩ := List.forall_mem_cons.mp hno
    rw [settleSelectors, hs] at h
    split at h
    · cases h
    · exact ih hrest h

def viewsFrom : Nat → List Node → List View
  | _, [] => []
  | count, n :: rest =>
    (viewNames n).map (⟨·, count, n⟩) ++
      viewsFrom (if isDeclaration n then count + 1 else count) rest

theorem step_quiet {w next : Walk} {n : Node} (hno : n.isCallWith method "false" = false)
    (hselectors : ∀ s ∈ n.selectors, s.isCallWith method "false" = false)
    (hnames : (w.views.map (·.name) ++ viewNames n).Nodup) (h : step method w n = .ok next) :
    next.views = w.views ++ (viewNames n).map (⟨·, w.count, n⟩) ∧
      next.count = if isDeclaration n then w.count + 1 else w.count := by
  cases hd : isDeclaration n with
  | true =>
    rw [step, declaredViews_of_declaration hd] at h
    dsimp only at h
    split at h
    · cases h
    · cases h
      exact ⟨foldl_declare w.count n hnames, rfl⟩
  | false =>
    have hnone := viewNames_of_other hd
    rw [hnone, List.map_nil, List.append_nil]
    rw [step, declaredViews_of_other hd] at h
    dsimp only at h
    split at h
    · cases h
      exact ⟨rfl, rfl⟩
    · obtain ⟨left, hleft, h⟩ := bind_eq_ok_iff.mp h
      rw [hno] at h
      cases h
      exact ⟨settleSelectors_quiet hselectors hleft, rfl⟩
    · rw [hno, if_neg Bool.false_ne_true] at h
      cases h
      exact ⟨rfl, rfl⟩

theorem walkMethod_quiet {nodes : List Node} {w last : Walk}
    (hno : ∀ n ∈ nodes, n.isCallWith method "false" = false ∧
      ∀ s ∈ n.selectors, s.isCallWith method "false" = false)
    (hnames : (w.views.map (·.name) ++ nodes.flatMap viewNames).Nodup)
    (h : walkMethod method w nodes = .ok last) :
    last.views = w.views ++ viewsFrom w.count nodes := by
  induction nodes generalizing w with
  | nil =>
    cases h
    rw [viewsFrom, List.append_nil]
  | cons n rest ih =>
    obtain ⟨⟨hn, hselectors⟩, hrest⟩ := List.forall_mem_cons.mp hno
    rw [List.flatMap_cons, ← List.append_assoc] at hnames
    rw [walkMethod] at h
    obtain ⟨next, hstep, h⟩ := bind_eq_ok_iff.mp h
    obtain ⟨hviews, hcount⟩ := step_quiet hn hselectors (List.nodup_append.mp hnames).1 hstep
    have hdeclared : next.views.map (·.name) = w.views.map (·.name) ++ viewNames n := by
      rw [hviews, List.map_append, List.map_map]
      exact congrArg _ (List.map_id _)
    rw [← hdeclared] at hnames
    rw [ih hrest hnames h, hviews, hcount, viewsFrom, List.append_assoc]

theorem declarations_skip {seen : List Nat} {views rest : List View}
    (h : ∀ v ∈ views, v.number ∈ seen) :
    declarations seen (views ++ rest) = declarations seen rest := by
  induction views with
  | nil => rfl
  | cons v views ih =>
    obtain ⟨hv, hviews⟩ := List.forall_mem_cons.mp h
    have hseen : seen.contains v.number = true := by
      rw [List.contains_eq_mem, decide_eq_true_eq]
      exact hv
    rw [List.cons_append, declarations, hseen, if_pos rfl, ih hviews]

theorem declarations_viewsFrom {nodes : List Node} {count : Nat} {seen : List Nat}
    (hseen : ∀ i ∈ seen, i < count) :
    (declarations seen (viewsFrom count nodes)).map (·.position) = nodes.flatMap viewPlace := by
  induction nodes generalizing count seen with
  | nil => rfl
  | cons n rest ih =>
    rw [viewsFrom, List.flatMap_cons, viewPlace, declaresViews]
    cases hnames : viewNames n with
    | nil =>
      have hlater : ∀ i ∈ seen, i < if isDeclaration n then count + 1 else count := by
        intro i hi
        have := hseen i hi
        split <;> omega
      exact ih hlater
    | cons name names =>
      have hd : isDeclaration n = true := by
        cases hd : isDeclaration n with
        | true => rfl
        | false => simp [viewNames, hd] at hnames
      have hnew : seen.contains count = false := by
        rw [List.contains_eq_mem, decide_eq_false_iff_not]
        exact fun hmem => Nat.lt_irrefl count (hseen count hmem)
      have hlater : ∀ i ∈ count :: seen, i < count + 1 := by
        intro i hi
        rcases List.mem_cons.mp hi with rfl | hi
        · exact Nat.lt_succ_self i
        · exact Nat.lt_succ_of_lt (hseen i hi)
      rw [hd, if_pos rfl, List.map_cons, List.cons_append, declarations, hnew,
        if_neg Bool.false_ne_true, declarations_skip (by simp), List.map_cons, ih hlater]
      rfl

/-! What is reported. -/

theorem defaults_eq_ok {tree : Node} {notice : Notice} {path : Option String}
    {found : List Finding} (h : defaults (some tree) method notice path = .ok found) :
    ∃ lists, (tree.walk.filter Node.isMethod).mapM (methodDefaults method notice path) = .ok lists ∧
      found = lists.flatten := by
  simp only [defaults] at h
  obtain ⟨lists, hm, h⟩ := bind_eq_ok_iff.mp h
  split at h
  · rename_i hwhole
    rw [Node.reached_of_whole hwhole] at hm
    exact ⟨lists, hm, (Except.ok.inj h).symm⟩
  · cases h

theorem methodDefaults_quiet {m : Node} {notice : Notice} {path : Option String}
    {found : List Finding}
    (hno : ∀ n ∈ m.walk, n.isCallWith method "false" = false)
    (hnames : (m.walk.flatMap viewNames).Nodup)
    (h : methodDefaults method notice path m = .ok found) :
    found = (m.walk.flatMap viewPlace).map (notice.about path) := by
  have hquiet : ∀ n ∈ m.walk, n.isCallWith method "false" = false ∧
      ∀ s ∈ n.selectors, s.isCallWith method "false" = false := fun n hn =>
    ⟨hno n hn, fun s hs => hno s (Node.mem_walk_trans (Node.mem_walk_of_part hs) m hn)⟩
  obtain ⟨left, hleft, h⟩ := bind_eq_ok_iff.mp h
  obtain ⟨last, hwalk, hleft⟩ := bind_eq_ok_iff.mp hleft
  have hviews := walkMethod_quiet (w := ⟨[], none, 0⟩) hquiet hnames hwalk
  rw [List.nil_append] at hviews
  cases hleft
  cases h
  have hplaces : (declarations [] (viewsFrom 0 m.walk)).map (·.position) = _ :=
    declarations_viewsFrom (by simp)
  rw [hviews, ← hplaces, List.map_map]
  rfl

/-- The places of the declarations of web views in a tree, each as often as there are methods around
it. -/
def enclosedPlaces (tree : Node) : List (Option Position) :=
  (tree.withAncestors []).flatMap fun x =>
    if declaresViews x.2 then List.replicate (x.1.countP Node.isMethod) x.2.position else []

theorem enclosedPlaces_perm (tree : Node) :
    (Node.byMethod viewPlace tree.walk).Perm (enclosedPlaces tree) := by
  have hmethod : ∀ m : Node, m.isMethod = true → viewPlace m = [] := by
    intro m hm
    cases hd : isDeclaration m with
    | false => simp [viewPlace, declaresViews, viewNames, hd]
    | true =>
      rcases isDeclaration_iff.mp hd with hkind | hkind
      · simp [Node.isMethod, Node.declaredMethod?, hkind] at hm
      · simp [Node.isMethod, Node.declaredMethod?, hkind] at hm
  have hplaces : enclosedPlaces tree = Node.enclosed viewPlace (tree.withAncestors []) := by
    refine List.flatMap_congr fun x _ => ?_
    rw [viewPlace]
    split
    · exact (Node.forMethods_singleton x.1 x.2.position).symm
    · simp [Node.forMethods]
  rw [hplaces]
  exact (Node.enclosed_perm hmethod [] tree).symm

/-- Where the call stands nowhere and the views inside of each method have names of their own, the
lines that are reported are those of the declarations of web views, each as often as there are
methods around it. -/
theorem lines_of_defaults {tree : Node} {notice : Notice} {path : Option String}
    {found : List Finding} (hno : ∀ n ∈ tree.walk, n.isCallWith method "false" = false)
    (hnames : ∀ m ∈ tree.walk, m.isMethod = true → (m.walk.flatMap viewNames).Nodup)
    (h : defaults (some tree) method notice path = .ok found) :
    (found.map (·.line)).Perm ((enclosedPlaces tree).map optionalPosition) := by
  obtain ⟨lists, hlists, rfl⟩ := defaults_eq_ok h
  have hmethods : lists = (tree.walk.filter Node.isMethod).map fun m =>
      (m.walk.flatMap viewPlace).map (notice.about path) := by
    refine eq_map_of_mapM (fun m hm found hfound => ?_) hlists
    obtain ⟨hmem, hmethod⟩ := List.mem_filter.mp hm
    exact methodDefaults_quiet (fun n hn => hno n (Node.mem_walk_trans hn tree hmem))
      (hnames m hmem hmethod) hfound
  have hline : ∀ place, (notice.about path place).line = optionalPosition place := fun _ => rfl
  have hfound : lists.flatten.map (·.line) =
      (Node.byMethod viewPlace tree.walk).map optionalPosition := by
    rw [hmethods, ← List.flatMap_def, Node.byMethod, List.map_flatMap, List.map_flatMap]
    refine List.flatMap_congr fun m _ => ?_
    rw [List.map_map]
    exact List.map_congr_left fun place _ => hline place
  rw [hfound]
  exact (enclosedPlaces_perm tree).map optionalPosition

/-- A class with a field, a constructor, and a method around another method. -/
def nestedSource : String :=
  "class A \x7bWebView e; A() \x7bWebView d;\x7d\n" ++
  "void f() \x7bWebView a, b; new B() \x7bvoid g() \x7bWebView c;\x7d\x7d;\x7d\x7d"

def reportsPlaces (method : String) (places : List (Option Position)) (tree : Node) : Bool :=
  (tree.walk.all fun n => !n.isCallWith method "false") &&
    ((tree.walk.filter Node.isMethod).all fun m => decide (m.walk.flatMap viewNames).Nodup) &&
    enclosedPlaces tree == places &&
    (defaults (some tree) method fileNotice none).toOption.isSome

/-- The views of the outer method stand in one method, the one of the inner method in two. -/
theorem lines_of_defaults_nested :
    ∃ tree found, Java.read nestedSource = .ok tree ∧
      defaults (some tree) "setAllowFileAccess" fileNotice none = .ok found ∧
      (found.map (·.line)).Perm
        ([some ⟨2, 11⟩, some ⟨2, 44⟩, some ⟨2, 44⟩].map optionalPosition) := by
  have hread : (Java.read nestedSource).toOption.any
      (reportsPlaces "setAllowFileAccess" [some ⟨2, 11⟩, some ⟨2, 44⟩, some ⟨2, 44⟩]) = true := by
    have hchars : nestedSource.toList = _ :=
      Text.toList_append_of String.toList_ofList String.toList_ofList
    rw [Java.read_of_toList hchars]
    decide +kernel
  obtain ⟨tree, hsource, hreports⟩ := (Option.any_eq_true _ _).mp hread
  simp only [reportsPlaces, Bool.and_eq_true, beq_iff_eq, List.all_eq_true, List.mem_filter,
    decide_eq_true_eq, and_imp, Bool.not_eq_true'] at hreports
  obtain ⟨⟨⟨hno, hnames⟩, hplaces⟩, hok⟩ := hreports
  obtain ⟨found, hfound⟩ := Option.isSome_iff_exists.mp hok
  rw [toOption_eq_some_iff] at hsource hfound
  have hlines := lines_of_defaults hno hnames hfound
  rw [hplaces] at hlines
  exact ⟨tree, found, hsource, hfound, hlines⟩

end WebViewDetector
end DroidAudit
