import DroidAudit.Proofs.DeclaredViews
import Mathlib.Data.List.Nodup

/-! Bodies of methods in which web views are made, asked for their settings and told `false`, the
last either by themselves or through a variable that holds their settings. A call through a variable
is taken for one on the view that was asked last, whose settings need not be the variable's. So the
views that are left are the right ones only if, of each view, both ways of counting say the same. -/
namespace DroidAudit.WebViewDetector
open Java

/-! Statements. -/

/-- The statements of a body; `m` is the method that is told `false`. -/
inductive Statement
  /-- `WebView view = new WebView(context);` -/
  | make (view context : String)
  /-- `WebSettings settings = view.getSettings();` -/
  | ask (settings view : String)
  /-- `settings.m(false);` -/
  | forbid (settings : String)
  /-- `view.getSettings().m(false);` -/
  | forbidView (view : String)
  deriving DecidableEq

structure Line where
  statement : Statement
  place : Option Position
  inner : Nat → Option Position

def Line.node (method : String) (l : Line) : Node :=
  match l.statement with
  | .make view context =>
    .mk .localVariableDeclaration l.place
      [(.type, .mk (.referenceType "WebView") (l.inner 0) []),
       (.declarator, .mk (.variableDeclarator view) (l.inner 1)
          [(.other, .mk .classCreator (l.inner 2)
              [(.type, .mk (.referenceType "WebView") (l.inner 3) []),
               (.argument, .mk (.memberReference (some "") context) (l.inner 4) [])])])]
  | .ask settings view =>
    .mk .localVariableDeclaration l.place
      [(.type, .mk (.referenceType "WebSettings") (l.inner 0) []),
       (.declarator, .mk (.variableDeclarator settings) (l.inner 1)
          [(.other, .mk (.methodInvocation (some view) "getSettings") (l.inner 2) [])])]
  | .forbid settings =>
    .mk .statementExpression l.place
      [(.other, .mk (.methodInvocation (some settings) method) (l.inner 0)
          [(.argument, .mk (.literal "false") (l.inner 1) [])])]
  | .forbidView view =>
    .mk .statementExpression l.place
      [(.other, .mk (.methodInvocation (some view) "getSettings") (l.inner 0)
          [(.selector, .mk (.methodInvocation none method) (l.inner 1)
              [(.argument, .mk (.literal "false") (l.inner 2) [])])])]

/-- Each name is declared once, and before it is used. -/
def WellNamed : List String → List String → List Statement → Prop
  | _, _, [] => True
  | views, settings, .make view _ :: rest =>
    view ∉ views ∧ view ∉ settings ∧ WellNamed (view :: views) settings rest
  | views, settings, .ask s view :: rest =>
    view ∈ views ∧ s ∉ views ∧ s ∉ settings ∧ WellNamed views (s :: settings) rest
  | views, settings, .forbid s :: rest => s ∈ settings ∧ WellNamed views settings rest
  | views, settings, .forbidView view :: rest => view ∈ views ∧ WellNamed views settings rest

/-- A view is told `false` by itself, or through a variable with its settings. -/
def hardened (statements : List Statement) (view : String) : Bool :=
  statements.contains (.forbidView view) ||
    statements.any fun
      | .ask settings asked => asked == view && statements.contains (.forbid settings)
      | _ => false

/-- The object that was asked for settings last. If `getSettings` itself is the method, a call of it
asks too. -/
def Statement.latest (method : String) (last : Option String) : Statement → Option String
  | .make .. => last
  | .ask _ view => some view
  | .forbid settings => if method = "getSettings" then some settings else last
  | .forbidView view => if method = "getSettings" then none else some view

/-- Whether a statement counts as one on a view, given the object that was asked last. -/
def Statement.settles (last : Option String) : Statement → String → Bool
  | .forbid _, view => last == some view
  | .forbidView told, view => told == view
  | _, _ => false

def settled (method : String) : Option String → List Statement → String → Bool
  | _, [], _ => false
  | last, s :: rest, view =>
    s.settles (s.latest method last) view || settled method (s.latest method last) rest view

def Line.made (l : Line) : List (String × Option Position) :=
  match l.statement with
  | .make view _ => [(view, l.place)]
  | _ => []

def madeViews (lines : List Line) : List (String × Option Position) := lines.flatMap Line.made

/-! What one statement does. -/

def Line.run (method : String) (l : Line) (w : Walk) : Walk :=
  let last := l.statement.latest method w.settings
  match l.statement with
  | .make view _ =>
    { w with views := declare w.views ⟨view, w.count, l.node method⟩, count := w.count + 1 }
  | .ask .. => { w with settings := last, count := w.count + 1 }
  | .forbid _ => { w with views := settle w.views last, settings := last }
  | .forbidView view =>
    { w with views := settle (settle w.views (some view)) last, settings := last }

theorem walkMethod_append (method : String) (w : Walk) (front rest : List Node) :
    walkMethod method w (front ++ rest) =
      (walkMethod method w front).bind fun next => walkMethod method next rest := by
  induction front generalizing w with
  | nil => rfl
  | cons n front ih =>
    rw [List.cons_append, walkMethod, walkMethod]
    cases step method w n with
    | error e => rfl
    | ok next => exact ih next

variable {method : String} {w : Walk} {lines : List Line} {settings views : List String}

theorem walkMethod_cons {next : Walk} {n : Node} {rest : List Node}
    (h : step method w n = .ok next) :
    walkMethod method w (n :: rest) = walkMethod method next rest := by
  rw [walkMethod, h]
  rfl

theorem step_idle {n : Node} (hd : isDeclaration n = false)
    (hcall : n.calledMember? = none) : step method w n = .ok w := by
  simp only [step, declaredViews_of_other hd, hcall]

section Call
variable {method : String} {w : Walk} {place place' : Option Position} {view : Option String}

/-- The node of a call with the argument `false`. -/
def callNode (method : String) (on : Option String) (place place' : Option Position) : Node :=
  .mk (.methodInvocation on method) place [(.argument, .mk (.literal "false") place' [])]

theorem isCallWith_callNode : (callNode method view place place').isCallWith method "false" = true := by
  simp [callNode, Node.isCallWith, Node.isCallOf, Node.calledMember?, Node.kind, Node.arguments,
    Node.part, Node.children, Node.literal?]

theorem step_callNode : step method w (callNode method view place place') =
    .ok { w with
      views := settle w.views (if method = "getSettings" then view else w.settings)
      settings := if method = "getSettings" then view else w.settings } := by
  by_cases hm : method = "getSettings"
  · subst hm
    rfl
  · rw [step, declaredViews_of_other rfl, if_neg hm]
    dsimp only
    split
    · rename_i hcall
      cases hcall
    · rename_i hcall
      exact absurd (Option.some.inj hcall) hm
    · rw [isCallWith_callNode, if_pos rfl]

def askNode (view : Option String) (place : Option Position) (selectors : List (Part × Node)) :
    Node :=
  .mk (.methodInvocation view "getSettings") place selectors

theorem step_askNode {selectors : List (Part × Node)} {left : List View}
    (hnone : (askNode view place selectors).arguments = [])
    (h : settleSelectors method view w.views (askNode view place selectors).selectors = .ok left) :
    step method w (askNode view place selectors) =
      .ok { w with views := left, settings := view } := by
  have hcall : (askNode view place selectors).isCallWith method "false" = false := by
    simp [Node.isCallWith, Node.isCallOf, hnone]
  rw [step, declaredViews_of_other rfl]
  show (settleSelectors method view w.views (askNode view place selectors).selectors).bind _ = _
  rw [h, hcall]
  rfl

end Call

theorem isCopyable_make (method view context : String) (place : Option Position)
    (inner : Nat → Option Position) :
    (Line.node method ⟨.make view context, place, inner⟩).isCopyable = true := by
  have hplace (p : Option Position) : (if p.isSome then 5 else 2) ≤ 5 := by split <;> decide
  have := hplace place
  have := hplace (inner 0)
  have := hplace (inner 1)
  have := hplace (inner 2)
  have := hplace (inner 3)
  have := hplace (inner 4)
  simp only [Line.node, Node.isCopyable, Node.copyDepth, Node.copyDepthBelow, levelsBelow,
    Kind.holdsSingly, maxDepth, decide_eq_true_eq, Bool.false_eq_true, if_true, if_false]
  omega

theorem walk_line (method : String) (l : Line) {w : Walk}
    (hw : ∀ v ∈ w.views, v.node.isCopyable = true) :
    walkMethod method w (l.node method).walk = .ok (l.run method w) := by
  obtain ⟨statement, place, inner⟩ := l
  cases statement with
  | make view context =>
    have hcopied : w.views.any (!·.node.isCopyable) = false := by simpa using hw
    have hstep : step method w (Line.node method ⟨.make view context, place, inner⟩) =
        .ok (Line.run method ⟨.make view context, place, inner⟩ w) := by
      change (if true && w.views.any (!·.node.isCopyable) then _ else _) = _
      rw [hcopied]
      rfl
    exact walkMethod_cons hstep
  | ask settings view =>
    refine (walkMethod_cons rfl).trans ((walkMethod_cons rfl).trans ((walkMethod_cons rfl).trans ?_))
    exact walkMethod_cons (step_askNode rfl rfl)
  | forbid settings => exact (walkMethod_cons rfl).trans (walkMethod_cons step_callNode)
  | forbidView view =>
    have hasks : settleSelectors method (some view) w.views
        [callNode method none (inner 1) (inner 2)] = .ok (settle w.views (some view)) := by
      rw [settleSelectors, isCallWith_callNode]
      rfl
    refine (walkMethod_cons rfl).trans ((walkMethod_cons (step_askNode rfl hasks)).trans ?_)
    exact walkMethod_cons step_callNode

/-! What a body does. -/

def View.shown (v : View) : String × Option Position := (v.name, v.node.position)

/-- Names and numbers tell the same views apart. -/
def Paired (views : List View) : Prop :=
  ∀ v ∈ views, ∀ u ∈ views, u.number = v.number ↔ u.name = v.name

theorem settle_sublist (views : List View) (last : Option String) :
    (settle views last).Sublist views := by
  unfold settle
  split
  · exact .refl _
  split
  · exact .refl _
  · exact List.filter_sublist

theorem map_shown_settle {views : List View} (h : Paired views) (last : Option String) :
    (settle views last).map View.shown =
      (views.map View.shown).filter fun v => !(last == some v.1) := by
  have hname : ∀ name, settle views (some name) = views.filter fun v => !(name == v.name) := by
    intro name
    rw [settle]
    cases hfind : views.find? (·.name == name) with
    | none =>
      refine (List.filter_eq_self.mpr fun v hv => ?_).symm
      have hother := List.find?_eq_none.mp hfind v hv
      rw [beq_iff_eq] at hother
      rw [Bool.not_eq_true', beq_eq_false_iff_ne]
      exact fun hsame => hother hsame.symm
    | some found =>
      have hfound : found.name = name := by simpa using List.find?_some hfind
      refine List.filter_congr fun v hv => ?_
      have hiff := h found (List.mem_of_find?_eq_some hfind) v hv
      rw [hfound] at hiff
      by_cases hsame : v.name = name
      · simp [hsame, hiff.mpr hsame]
      · have hnumber : v.number ≠ found.number := fun heq => hsame (hiff.mp heq)
        rw [bne_iff_ne.mpr hnumber, beq_eq_false_iff_ne.mpr (Ne.symm hsame)]
        rfl
  rw [List.filter_map]
  cases last with
  | none => exact congrArg _ (List.filter_eq_self.mpr fun _ _ => rfl).symm
  | some name => exact congrArg _ (hname name)

structure Sound (views settings : List String) (w : Walk) : Prop where
  names : (w.views.map (·.name)).Nodup
  paired : Paired w.views
  known : ∀ v ∈ w.views, v.name ∈ views
  numbers : ∀ v ∈ w.views, v.number < w.count
  copyable : ∀ v ∈ w.views, v.node.isCopyable = true
  asked : ∀ name ∈ w.settings, name ∈ views ∨ name ∈ settings

namespace Sound

variable {views settings : List String} {w : Walk}

theorem initial : Sound [] [] ⟨[], none, 0⟩ :=
  ⟨.nil, by simp [Paired], by simp, by simp, by simp, by simp⟩

theorem of_sublist (hw : Sound views settings w) {left : List View} (hleft : left.Sublist w.views)
    {last : Option String} (hlast : ∀ name ∈ last, name ∈ views ∨ name ∈ settings) :
    Sound views settings { w with views := left, settings := last } where
  names := hw.names.sublist (hleft.map _)
  paired := fun v hv u hu => hw.paired v (hleft.subset hv) u (hleft.subset hu)
  known := fun v hv => hw.known v (hleft.subset hv)
  numbers := fun v hv => hw.numbers v (hleft.subset hv)
  copyable := fun v hv => hw.copyable v (hleft.subset hv)
  asked := hlast

theorem ask (hw : Sound views settings w) {view : String} (hview : view ∈ views) (name : String) :
    Sound views (name :: settings) { w with settings := some view, count := w.count + 1 } where
  names := hw.names
  paired := hw.paired
  known := hw.known
  numbers := fun v hv => Nat.lt_succ_of_lt (hw.numbers v hv)
  copyable := hw.copyable
  asked := by simp [hview]

theorem make (hw : Sound views settings w) {view : String} (hview : view ∉ views) {n : Node}
    (hn : n.isCopyable = true) :
    declare w.views ⟨view, w.count, n⟩ = w.views ++ [⟨view, w.count, n⟩] ∧
      Sound (view :: views) settings
        { w with views := w.views ++ [⟨view, w.count, n⟩], count := w.count + 1 } := by
  have hfresh : view ∉ w.views.map (·.name) := by
    intro hmem
    obtain ⟨v, hv, rfl⟩ := List.mem_map.mp hmem
    exact hview (hw.known v hv)
  refine ⟨declare_fresh hfresh, ?_, ?_, ?_, ?_, ?_, ?_⟩
  · rw [List.map_append]
    refine List.nodup_append.mpr ⟨hw.names, by simp, fun a ha b hb => ?_⟩
    obtain rfl : b = view := by simpa using hb
    exact fun heq => hfresh (heq ▸ ha)
  · intro v hv u hu
    have hold : ∀ x ∈ w.views, x.number ≠ w.count ∧ x.name ≠ view := fun x hx =>
      ⟨Nat.ne_of_lt (hw.numbers x hx), fun heq => hview (heq ▸ hw.known x hx)⟩
    rcases List.mem_append.mp hv with hv | hv
    · rcases List.mem_append.mp hu with hu | hu
      · exact hw.paired v hv u hu
      · obtain rfl := List.mem_singleton.mp hu
        exact iff_of_false (hold v hv).1.symm (hold v hv).2.symm
    · obtain rfl := List.mem_singleton.mp hv
      rcases List.mem_append.mp hu with hu | hu
      · exact iff_of_false (hold u hu).1 (hold u hu).2
      · obtain rfl := List.mem_singleton.mp hu
        exact iff_of_true rfl rfl
  · intro v hv
    rcases List.mem_append.mp hv with hv | hv
    · exact List.mem_cons_of_mem view (hw.known v hv)
    · obtain rfl := List.mem_singleton.mp hv
      exact List.mem_cons_self
  · intro v hv
    rcases List.mem_append.mp hv with hv | hv
    · exact Nat.lt_succ_of_lt (hw.numbers v hv)
    · obtain rfl := List.mem_singleton.mp hv
      exact Nat.lt_succ_self w.count
  · exact List.forall_mem_append.mpr ⟨hw.copyable, List.forall_mem_singleton.mpr hn⟩
  · intro name hname
    exact (hw.asked name hname).imp_left (List.mem_cons_of_mem view)

end Sound

theorem WellNamed.made_fresh (h : WellNamed views settings (lines.map (·.statement))) :
    ∀ v ∈ madeViews lines, v.1 ∉ views ∧ v.1 ∉ settings := by
  induction lines generalizing views settings with
  | nil => simp [madeViews]
  | cons l rest ih =>
    obtain ⟨statement, place, inner⟩ := l
    cases statement with
    | make view context =>
      obtain ⟨hviews, hsettings, hrest⟩ := h
      intro v hv
      rcases List.mem_cons.mp hv with rfl | hv
      · exact ⟨hviews, hsettings⟩
      · obtain ⟨hv', hs⟩ := ih hrest v hv
        exact ⟨fun hmem => hv' (List.mem_cons_of_mem view hmem), hs⟩
    | ask name view =>
      obtain ⟨-, -, -, hrest⟩ := h
      intro v hv
      obtain ⟨hv', hs⟩ := ih hrest v hv
      exact ⟨hv', fun hmem => hs (List.mem_cons_of_mem name hmem)⟩
    | forbid name => exact ih h.2
    | forbidView view => exact ih h.2

theorem Sound.run (method : String) {l : Line} {rest : List Statement} (hw : Sound views settings w)
    (h : WellNamed views settings (l.statement :: rest)) :
    ∃ views' settings', Sound views' settings' (l.run method w) ∧ WellNamed views' settings' rest ∧
      (∀ name, l.statement.settles (l.statement.latest method w.settings) name = true →
        name ∈ views' ∨ name ∈ settings') ∧
      (l.run method w).settings = l.statement.latest method w.settings ∧
      (l.run method w).views.map View.shown = (w.views.map View.shown ++ l.made).filter fun v =>
        !l.statement.settles (l.statement.latest method w.settings) v.1 := by
  obtain ⟨statement, place, inner⟩ := l
  cases statement with
  | make view context =>
    obtain ⟨hview, -, hrest⟩ := h
    obtain ⟨hdeclare, hmade⟩ := hw.make hview (isCopyable_make method view context place inner)
    have hrun : Line.run method ⟨.make view context, place, inner⟩ w =
        { w with
          views := w.views ++ [⟨view, w.count, Line.node method ⟨.make view context, place, inner⟩⟩]
          count := w.count + 1 } := by
      rw [← hdeclare]
      rfl
    rw [hrun]
    refine ⟨view :: views, settings, hmade, hrest, by simp [Statement.settles], rfl, ?_⟩
    rw [List.map_append]
    exact (List.filter_eq_self.mpr fun _ _ => rfl).symm
  | ask name view =>
    obtain ⟨hview, -, -, hrest⟩ := h
    refine ⟨views, name :: settings, hw.ask hview name, hrest, by simp [Statement.settles], rfl, ?_⟩
    rw [Line.made, List.append_nil]
    exact (List.filter_eq_self.mpr fun _ _ => rfl).symm
  | forbid name =>
    obtain ⟨hname, hrest⟩ := h
    have hlast : ∀ asked ∈ Statement.latest method w.settings (.forbid name),
        asked ∈ views ∨ asked ∈ settings := by
      intro asked hasked
      rw [Statement.latest] at hasked
      split at hasked
      · cases hasked
        exact .inr hname
      · exact hw.asked asked hasked
    refine ⟨views, settings, hw.of_sublist (settle_sublist _ _) hlast, hrest, ?_, rfl, ?_⟩
    · intro asked hasked
      exact hlast asked (beq_iff_eq.mp hasked)
    · rw [Line.made, List.append_nil]
      exact map_shown_settle hw.paired _
  | forbidView view =>
    obtain ⟨hview, hrest⟩ := h
    have hlast : ∀ asked ∈ Statement.latest method w.settings (.forbidView view), asked = view := by
      intro asked hasked
      rw [Statement.latest] at hasked
      split at hasked
      · cases hasked
      · exact (Option.some.inj hasked).symm
    have hfewer := settle_sublist w.views (some view)
    have hpaired : Paired (settle w.views (some view)) := fun v hv u hu =>
      hw.paired v (hfewer.subset hv) u (hfewer.subset hu)
    refine ⟨views, settings, hw.of_sublist ((settle_sublist _ _).trans hfewer) ?_, hrest, ?_, rfl, ?_⟩
    · exact fun asked hasked => .inl (hlast asked hasked ▸ hview)
    · intro told htold
      exact .inl (beq_iff_eq.mp htold ▸ hview)
    · rw [Line.made, List.append_nil]
      refine (map_shown_settle hpaired _).trans ?_
      rw [map_shown_settle hw.paired, List.filter_filter]
      refine List.filter_congr fun v _ => ?_
      by_cases hv : view = v.1
      · rw [hv, beq_self_eq_true, Bool.not_true, Bool.and_false, Statement.settles, beq_self_eq_true,
          Bool.not_true]
      · have hother : (Statement.latest method w.settings (.forbidView view) == some v.1) = false :=
          beq_eq_false_iff_ne.mpr fun heq => hv (hlast v.1 heq).symm
        rw [hother, Bool.not_false, Bool.true_and]
        rfl

theorem run_lines (method : String)
    (hw : Sound views settings w) (h : WellNamed views settings (lines.map (·.statement))) :
    ∃ last, walkMethod method w (lines.flatMap fun l => (l.node method).walk) = .ok last ∧
      (∃ views' settings', Sound views' settings' last) ∧
      last.views.map View.shown = (w.views.map View.shown ++ madeViews lines).filter fun v =>
        !settled method w.settings (lines.map (·.statement)) v.1 := by
  induction lines generalizing views settings w with
  | nil =>
    refine ⟨w, rfl, ⟨views, settings, hw⟩, ?_⟩
    simp [madeViews, settled]
  | cons l rest ih =>
    obtain ⟨views', settings', hnext, hrest, hsettles, hlast, hviews⟩ := hw.run method h
    obtain ⟨last, hwalk, hsound, hleft⟩ := ih hnext hrest
    refine ⟨last, ?_, hsound, ?_⟩
    · rw [List.flatMap_cons, walkMethod_append, walk_line method l hw.copyable]
      exact hwalk
    · have hlater : ∀ v ∈ madeViews rest,
          l.statement.settles (l.statement.latest method w.settings) v.1 = false := by
        intro v hv
        obtain ⟨hviews', hsettings'⟩ := hrest.made_fresh v hv
        cases hs : l.statement.settles (l.statement.latest method w.settings) v.1 with
        | false => rfl
        | true => exact absurd (hsettles v.1 hs) (not_or.mpr ⟨hviews', hsettings'⟩)
      have hmade : (madeViews rest).filter (fun v =>
          !l.statement.settles (l.statement.latest method w.settings) v.1) = madeViews rest :=
        List.filter_eq_self.mpr fun v hv => by rw [hlater v hv]; rfl
      rw [hleft, hviews, hlast]
      nth_rewrite 1 [← hmade]
      rw [← List.filter_append, List.filter_filter, List.append_assoc]
      refine List.filter_congr fun v _ => ?_
      rw [List.map_cons, settled, Bool.not_or, Bool.and_comm]

/-! What is reported for a body. -/

/-- A method with a body of such statements, behind whatever stands in front of the body. -/
def bodyMethod (method name : String) (place : Option Position) (header : List (Part × Node))
    (lines : List Line) : Node :=
  .mk (.methodDeclaration name) place (header ++ lines.map fun l => (.body, l.node method))

def findingsOn (notice : Notice) (path : Option String) (lines : List Line)
    (excused : String → Bool) : List Finding :=
  ((madeViews lines).filter fun v => !excused v.1).map fun v => notice.about path v.2

theorem walkChildren_append (front rest : List (Part × Node)) :
    Node.walkChildren (front ++ rest) = Node.walkChildren front ++ Node.walkChildren rest := by
  induction front with
  | nil => rfl
  | cons c front ih =>
    rw [List.cons_append, Node.walkChildren, Node.walkChildren, ih, List.append_assoc]

theorem walk_bodyMethod (method name : String) (place : Option Position)
    (header : List (Part × Node)) (lines : List Line) :
    (bodyMethod method name place header lines).walk =
      bodyMethod method name place header lines :: (Node.walkChildren header ++
        lines.flatMap fun l => (l.node method).walk) := by
  have hbody : Node.walkChildren (lines.map fun l => (Part.body, l.node method)) =
      lines.flatMap fun l => (l.node method).walk := by
    induction lines with
    | nil => rfl
    | cons l rest ih => rw [List.map_cons, Node.walkChildren, ih, List.flatMap_cons]
  rw [← hbody, ← walkChildren_append]
  rfl

theorem walkMethod_idle {nodes : List Node}
    (h : ∀ n ∈ nodes, isDeclaration n = false ∧ n.calledMember? = none) :
    walkMethod method w nodes = .ok w := by
  induction nodes with
  | nil => rfl
  | cons n rest ih =>
    obtain ⟨⟨hd, hcall⟩, hrest⟩ := List.forall_mem_cons.mp h
    exact (walkMethod_cons (step_idle hd hcall)).trans (ih hrest)

theorem declarations_of_nodup {views : List View} {seen : List Nat}
    (h : (views.map (·.number)).Nodup) (hseen : ∀ v ∈ views, v.number ∉ seen) :
    declarations seen views = views.map (·.node) := by
  induction views generalizing seen with
  | nil => rfl
  | cons v rest ih =>
    obtain ⟨hv, hrest⟩ := List.nodup_cons.mp h
    obtain ⟨hnew, hseen⟩ := List.forall_mem_cons.mp hseen
    have hnone : seen.contains v.number = false := by
      rw [List.contains_eq_mem, decide_eq_false_iff_not]
      exact hnew
    rw [declarations, hnone, if_neg Bool.false_ne_true, List.map_cons, ih hrest]
    intro u hu hmem
    rcases List.mem_cons.mp hmem with heq | hmem
    · exact hv (List.mem_map.mpr ⟨u, hu, heq⟩)
    · exact hseen u hu hmem

theorem Sound.numbers_nodup (hw : Sound views settings w) : (w.views.map (·.number)).Nodup := by
  have hnames := List.pairwise_map.mp hw.names
  exact List.pairwise_map.mpr (hnames.imp_of_mem fun hv hu hne heq =>
    hne ((hw.paired _ hu _ hv).mp heq))

theorem methodDefaults_body {name : String} {notice : Notice} {path : Option String}
    {place : Option Position} {header : List (Part × Node)}
    (hheader : ∀ n ∈ Node.walkChildren header, isDeclaration n = false ∧ n.calledMember? = none)
    (hnames : WellNamed [] [] (lines.map (·.statement))) :
    methodDefaults method notice path (bodyMethod method name place header lines) =
      .ok (findingsOn notice path lines (settled method none (lines.map (·.statement)))) := by
  obtain ⟨last, hwalk, ⟨views, settings, hsound⟩, hviews⟩ := run_lines method .initial hnames
  have hmethod : walkMethod method ⟨[], none, 0⟩ (bodyMethod method name place header lines).walk =
      .ok last := by
    rw [walk_bodyMethod, walkMethod_cons (step_idle rfl rfl), walkMethod_append,
      walkMethod_idle hheader]
    exact hwalk
  have hplaces : (declarations [] last.views).map (fun n => notice.about path n.position) =
      (last.views.map View.shown).map fun v => notice.about path v.2 := by
    rw [declarations_of_nodup hsound.numbers_nodup (by simp), List.map_map, List.map_map]
    rfl
  rw [methodDefaults, unsettled, hmethod]
  show Except.ok _ = _
  rw [hplaces, hviews]
  rfl

theorem about_injective (notice : Notice) (path : Option String) {place place' : Option Position}
    (h : notice.about path place = notice.about path place') : place = place' := by
  have hline : optionalPosition place = optionalPosition place' := congrArg Finding.line h
  cases place with
  | none =>
    cases place' with
    | none => rfl
    | some q => cases hline
  | some p =>
    cases place' with
    | none => cases hline
    | some q =>
      obtain ⟨line, column⟩ := p
      obtain ⟨line', column'⟩ := q
      simp only [optionalPosition, Position.toValue, Value.tuple.injEq, List.cons.injEq,
        Value.int.injEq, Int.natCast_inj, and_true] at hline
      rw [hline.1, hline.2]

/-- For views at different places, different excuses give different findings. -/
theorem findingsOn_perm_iff {notice : Notice} {path : Option String}
    (hplaces : ((madeViews lines).map (·.2)).Nodup) {excused excused' : String → Bool} :
    (findingsOn notice path lines excused).Perm (findingsOn notice path lines excused') ↔
      ∀ v ∈ madeViews lines, excused v.1 = excused' v.1 := by
  have hmem : ∀ (e : String → Bool), ∀ v ∈ madeViews lines,
      notice.about path v.2 ∈ findingsOn notice path lines e ↔ e v.1 = false := by
    intro e v hv
    rw [findingsOn, List.mem_map]
    constructor
    · rintro ⟨u, hu, habout⟩
      obtain ⟨hu, hleft⟩ := List.mem_filter.mp hu
      have hplace : u.2 = v.2 := about_injective notice path habout
      rw [← List.inj_on_of_nodup_map hplaces hu hv hplace]
      exact Bool.not_eq_true' _ ▸ hleft
    · intro hleft
      exact ⟨v, List.mem_filter.mpr ⟨hv, by rw [hleft]; rfl⟩, rfl⟩
  constructor
  · intro hperm v hv
    have hiff := (hmem excused v hv).symm.trans (hperm.mem_iff.trans (hmem excused' v hv))
    cases hold : excused v.1 with
    | false => exact (hiff.mp hold).symm
    | true =>
      cases hnew : excused' v.1 with
      | false =>
        rw [hiff.mpr hnew] at hold
        cases hold
      | true => rfl
  · intro hsame
    have hfilter : ((madeViews lines).filter fun v => !excused v.1) =
        (madeViews lines).filter fun v => !excused' v.1 :=
      List.filter_congr fun v hv => by rw [hsame v hv]
    rw [findingsOn, hfilter, ← findingsOn]

/-- In a body in which each name is declared once and before it is used, the views that are reported
are those that are neither told `false` by themselves nor were asked last when something was told
`false` through a variable. Those are the views that are not told `false` by themselves or through a
variable of their own settings exactly if the two ways of counting agree on every view. -/
theorem left_rightly_iff (method name : String) (notice : Notice) (path : Option String)
    (place : Option Position) (header : List (Part × Node)) (lines : List Line)
    (hheader : ∀ n ∈ Node.walkChildren header, isDeclaration n = false ∧ n.calledMember? = none)
    (hnames : WellNamed [] [] (lines.map (·.statement)))
    (hplaces : ((madeViews lines).map (·.2)).Nodup) :
    ∃ found, methodDefaults method notice path (bodyMethod method name place header lines) =
        .ok found ∧
      found = findingsOn notice path lines (settled method none (lines.map (·.statement))) ∧
      (found.Perm (findingsOn notice path lines (hardened (lines.map (·.statement)))) ↔
        ∀ v ∈ madeViews lines, settled method none (lines.map (·.statement)) v.1 =
          hardened (lines.map (·.statement)) v.1) :=
  ⟨_, methodDefaults_body hheader hnames, rfl, findingsOn_perm_iff hplaces⟩

def placed (statement : Statement) (place : Position) (inner : List (Option Position)) : Line :=
  ⟨statement, some place, fun i => (inner[i]?).join⟩

/-- Each view is told before the next one is made, and the last one is not. -/
def threeViews : List Line :=
  [placed (.make "a" "c") ⟨1, 1⟩ [], placed (.ask "s" "a") ⟨2, 1⟩ [],
   placed (.forbid "s") ⟨3, 1⟩ [], placed (.make "b" "c") ⟨4, 1⟩ [],
   placed (.forbidView "b") ⟨5, 1⟩ [], placed (.make "d" "c") ⟨6, 1⟩ []]

theorem left_rightly_iff_three_views :
    WellNamed [] [] (threeViews.map (·.statement)) ∧ ∃ found,
      methodDefaults "setAllowFileAccess" fileNotice none
        (bodyMethod "setAllowFileAccess" "f" none [] threeViews) = .ok found ∧
      found = [fileNotice.about none (some ⟨6, 1⟩)] ∧
      found.Perm (findingsOn fileNotice none threeViews (hardened (threeViews.map (·.statement)))) := by
  have hnames : WellNamed [] [] (threeViews.map (·.statement)) := by
    simp [threeViews, placed, WellNamed]
  obtain ⟨found, hfound, hleft, hiff⟩ := left_rightly_iff "setAllowFileAccess" "f" fileNotice none
    none [] threeViews (by simp [Node.walkChildren]) hnames (by decide)
  exact ⟨hnames, found, hfound, hleft, hiff.mpr (by decide)⟩

/-- Two views whose settings are asked for in turn, before the first is told `false`. -/
def twoViews : List Line :=
  [placed (.make "a" "c") ⟨2, 1⟩ [none, none, none, none, some ⟨2, 25⟩],
   placed (.make "b" "c") ⟨3, 1⟩ [none, none, none, none, some ⟨3, 25⟩],
   placed (.ask "s" "a") ⟨4, 1⟩ [none, none, some ⟨4, 17⟩],
   placed (.ask "t" "b") ⟨5, 1⟩ [none, none, some ⟨5, 17⟩],
   placed (.forbid "s") ⟨6, 1⟩ [some ⟨6, 1⟩, some ⟨6, 22⟩]]

def twoViewsSource : String :=
  "class A \x7bvoid f() \x7b\nWebView a = new WebView(c);\nWebView b = new WebView(c);\n" ++
  "WebSettings s = a.getSettings();\nWebSettings t = b.getSettings();\n" ++
  "s.setAllowFileAccess(false);\x7d\x7d"

def twoViewsTree : Node :=
  .mk .compilationUnit none [(.other, .mk (.classDeclaration "A") (some ⟨1, 1⟩)
    [(.body, bodyMethod "setAllowFileAccess" "f" (some ⟨1, 10⟩) [] twoViews)])]

/-- The second view is taken for the one that is told `false`, and the first one is reported. -/
theorem other_view_reported :
    Java.read twoViewsSource = .ok twoViewsTree ∧
    WellNamed [] [] (twoViews.map (·.statement)) ∧
    defaults (some twoViewsTree) "setAllowFileAccess" fileNotice (some "A.java") =
      .ok [fileNotice.about (some "A.java") (some ⟨2, 1⟩)] ∧
    findingsOn fileNotice (some "A.java") twoViews (hardened (twoViews.map (·.statement))) =
      [fileNotice.about (some "A.java") (some ⟨3, 1⟩)] := by
  refine ⟨?_, ?_, ?_, ?_⟩
  · have hchars : twoViewsSource.toList = _ := Text.toList_append_of
      (Text.toList_append_of String.toList_ofList String.toList_ofList) String.toList_ofList
    rw [Java.read_of_toList hchars]
    decide +kernel
  · simp [twoViews, placed, WellNamed]
  · rfl
  · rfl

end DroidAudit.WebViewDetector
