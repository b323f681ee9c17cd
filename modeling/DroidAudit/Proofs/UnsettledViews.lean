import DroidAudit.Proofs.SettledViews

/-! Web views that stay unsettled. A walk through a method keeps a list of variables with the numbers
of their declarations. What it keeps at the end can be said without that list: a variable of some
declaration is left if it is not declared again and if, as long as a name stands for the declaration,
nobody tells the object of that name `false`. -/
namespace DroidAudit

namespace WebViewDetector
open Java

/-! Who is asked and who is told. -/

def asksSettings (n : Node) : Bool := n.calledMember? == some "getSettings"

/-- The object that was asked for its settings last. -/
def lastAsked (last : Option String) (nodes : List Node) : Option String :=
  nodes.foldl (fun last n => if asksSettings n then n.callQualifier? else last) last

/-- The object that a node tells `false`. A call for settings tells its own object, by itself or by
what is called on the settings, and any other call tells the object that was asked last. -/
def told (method : String) (last : Option String) (n : Node) : Option String :=
  if asksSettings n then
    if n.isCallWith method "false" || n.selectors.any (·.isCallWith method "false") then
      n.callQualifier?
    else none
  else if n.isCallWith method "false" then last
  else none

/-- A variable `x` of a declaration stays over some nodes. It is not declared again, and the declaration
is not told `false` by any of its `names` that has not been declared again before. -/
@[mk_iff]
structure Stays (method : String) (last : Option String) (names : List String) (x : String)
    (nodes : List Node) : Prop where
  kept : x ∉ nodes.flatMap viewNames
  untold : ∀ before n after, nodes = before ++ n :: after → ∀ name ∈ names,
    told method (lastAsked last before) n = some name → name ∈ before.flatMap viewNames

/-- Among some nodes there is a declaration with the property of which a variable stays to the end. -/
def Leaves (p : Node → Prop) (method : String) (last : Option String) (nodes : List Node) : Prop :=
  ∃ before d after, nodes = before ++ d :: after ∧ p d ∧ ∃ x ∈ viewNames d,
    Stays method (lastAsked last before) (viewNames d) x after

variable {p : Node → Prop} {method x : String} {last : Option String} {names names' : List String} {n : Node}
  {nodes rest : List Node}

theorem stays_congr (h : ∀ name, name ∈ names ↔ name ∈ names') :
    Stays method last names x nodes ↔ Stays method last names' x nodes := by
  simp only [stays_iff, h]

theorem stays_nil : Stays method last names x [] :=
  ⟨List.not_mem_nil, fun before n after h => by simp at h⟩

theorem stays_cons_iff :
    Stays method last names x (n :: rest) ↔
      x ∉ viewNames n ∧ (∀ name ∈ names, told method last n ≠ some name) ∧
        Stays method (lastAsked last [n]) (names.filter fun name => name ∉ viewNames n) x rest := by
  constructor
  · intro h
    have hkept := h.kept
    rw [List.flatMap_cons, List.mem_append, not_or] at hkept
    refine ⟨hkept.1, fun name hname htold => ?_, hkept.2, ?_⟩
    · exact List.not_mem_nil (h.untold [] n rest rfl name hname htold)
    · rintro before m after rfl name hname htold
      obtain ⟨hname, hfresh⟩ := List.mem_filter.mp hname
      have hmem := h.untold (n :: before) m after rfl name hname htold
      rw [List.flatMap_cons, List.mem_append] at hmem
      exact hmem.resolve_left (of_decide_eq_true hfresh)
  · rintro ⟨hx, htold, hrest⟩
    refine ⟨?_, ?_⟩
    · rw [List.flatMap_cons, List.mem_append, not_or]
      exact ⟨hx, hrest.kept⟩
    · rintro (_ | ⟨m, before⟩) k after hnodes name hname htold'
      · obtain ⟨rfl, -⟩ := List.cons.inj hnodes
        exact absurd htold' (htold name hname)
      · obtain ⟨rfl, hafter⟩ := List.cons.inj hnodes
        rw [List.flatMap_cons, List.mem_append]
        by_cases hname' : name ∈ viewNames n
        · exact .inl hname'
        · exact .inr (hrest.untold before k after hafter name
            (List.mem_filter.mpr ⟨hname, decide_eq_true hname'⟩) htold')

theorem not_leaves_nil : ¬Leaves p method last [] := by
  rintro ⟨before, d, after, hnodes, -⟩
  simp at hnodes

theorem leaves_cons_iff :
    Leaves p method last (n :: rest) ↔
      (p n ∧ ∃ x ∈ viewNames n, Stays method last (viewNames n) x rest) ∨
        Leaves p method (lastAsked last [n]) rest := by
  constructor
  · rintro ⟨_ | ⟨m, before⟩, d, after, hnodes, hx⟩
    · obtain ⟨rfl, rfl⟩ := List.cons.inj hnodes
      exact .inl hx
    · obtain ⟨rfl, hafter⟩ := List.cons.inj hnodes
      exact .inr ⟨before, d, after, hafter, hx⟩
  · rintro (hx | ⟨before, d, after, rfl, hx⟩)
    · exact ⟨[], n, rest, rfl, hx⟩
    · exact ⟨n :: before, d, after, rfl, hx⟩

/-! What declaring and settling do to a list of views. -/

section Views
variable {views : List View} {name : Option String} {u v : View}

theorem mem_declare_iff : u ∈ declare views v ↔ u = v ∨ u ∈ views ∧ u.name ≠ v.name := by
  rw [declare]
  split
  · rename_i hany
    obtain ⟨old, hold, hsame⟩ := List.any_eq_true.mp hany
    grind
  · rename_i hany
    have hfresh : ∀ w ∈ views, w.name ≠ v.name := by simpa using hany
    grind

theorem nodup_names_declare (h : (views.map (·.name)).Nodup) :
    ((declare views v).map (·.name)).Nodup := by
  rw [declare]
  split
  · have hnames : ((views.map fun w => if w.name == v.name then v else w).map (·.name)) =
        views.map (·.name) := by
      rw [List.map_map]
      exact List.map_congr_left fun w _ => by grind
    rwa [hnames]
  · rename_i hany
    have hfresh : ∀ w ∈ views, w.name ≠ v.name := by simpa using hany
    rw [List.map_append, List.map_singleton]
    exact List.nodup_append.mpr ⟨h, List.nodup_singleton _, by grind⟩

theorem mem_foldl_declare_iff {names : List String} {count : Nat} {n : Node} :
    u ∈ names.foldl (fun vs name => declare vs ⟨name, count, n⟩) views ↔
      u ∈ views ∧ u.name ∉ names ∨ ∃ name ∈ names, u = ⟨name, count, n⟩ := by
  induction names generalizing views with
  | nil => simp
  | cons name names ih =>
    rw [List.foldl_cons, ih, mem_declare_iff]
    by_cases hname : name ∈ names <;> grind

theorem nodup_names_foldl_declare {names : List String} {count : Nat} {n : Node}
    (h : (views.map (·.name)).Nodup) :
    ((names.foldl (fun vs name => declare vs ⟨name, count, n⟩) views).map (·.name)).Nodup := by
  induction names generalizing views with
  | nil => exact h
  | cons name names ih => exact ih (nodup_names_declare h)

theorem mem_settle_iff (h : (views.map (·.name)).Nodup) :
    v ∈ settle views name ↔
      v ∈ views ∧ ∀ u ∈ views, name = some u.name → u.number ≠ v.number := by
  cases name with
  | none => simp [settle]
  | some name =>
    rw [settle]
    cases hfind : views.find? (·.name == name) with
    | none =>
      refine (and_iff_left ?_).symm
      intro u hu hname
      rw [List.find?_eq_none] at hfind
      exact absurd (beq_iff_eq.mpr (Option.some.inj hname).symm) (hfind u hu)
    | some w =>
      have hw := List.mem_of_find?_eq_some hfind
      have hname : w.name = name := by simpa using List.find?_some hfind
      rw [List.mem_filter, bne_iff_ne]
      refine and_congr_right fun _ => ⟨fun hne u hu heq => ?_, fun hall => (hall w hw ?_).symm⟩
      · have hsame : u = w := List.inj_on_of_nodup_map h hu hw
          ((Option.some.inj heq).symm.trans hname.symm)
        rw [hsame]
        exact hne.symm
      · rw [hname]

theorem nodup_names_settle (h : (views.map (·.name)).Nodup) :
    ((settle views name).map (·.name)).Nodup :=
  h.sublist ((settle_sublist views name).map _)

theorem settle_settle (h : (views.map (·.name)).Nodup) :
    settle (settle views name) name = settle views name := by
  cases name with
  | none => rfl
  | some name =>
    have hgone : (settle views (some name)).find? (·.name == name) = none := by
      rw [List.find?_eq_none]
      intro u hu hname
      obtain ⟨hmem, hnumber⟩ := (mem_settle_iff h).mp hu
      exact hnumber u hmem (by rw [beq_iff_eq.mp hname]) rfl
    rw [settle, hgone]

/-- However often an object is told `false` behind a call for settings, it is settled once. -/
theorem settleSelectors_eq {left : List View} {selectors : List Node}
    (hnames : (views.map (·.name)).Nodup)
    (h : settleSelectors method name views selectors = .ok left) :
    left = settle views (if selectors.any (·.isCallWith method "false") then name else none) := by
  induction selectors generalizing views with
  | nil =>
    cases h
    rfl
  | cons s rest ih =>
    rw [settleSelectors] at h
    split at h
    · cases h
    rw [List.any_cons]
    split at h
    · rename_i hs
      rw [hs, Bool.true_or, if_pos rfl, ih (nodup_names_settle hnames) h]
      split
      · exact settle_settle hnames
      · rfl
    · rename_i hs
      rw [Bool.not_eq_true] at hs
      rw [hs, Bool.false_or, ih hnames h]

end Views

/-! What a step does. -/

/-- Views have names of their own and are of declarations that were counted. -/
structure Walk.Sound (w : Walk) : Prop where
  names : (w.views.map (·.name)).Nodup
  numbers : ∀ v ∈ w.views, v.number < w.count

def standing (views : List View) (number : Nat) : List String :=
  (views.filter (·.number == number)).map (·.name)

theorem mem_standing_iff {views : List View} {number : Nat} {name : String} :
    name ∈ standing views number ↔ ∃ v ∈ views, v.number = number ∧ v.name = name := by
  simp only [standing, List.mem_map, List.mem_filter, beq_iff_eq, and_assoc]

/-- One of the views that are known, with a declaration of that property, stays over the nodes. -/
def Walk.Keeps (p : Node → Prop) (w : Walk) (method : String) (nodes : List Node) : Prop :=
  ∃ v ∈ w.views, p v.node ∧ Stays method w.settings (standing w.views v.number) v.name nodes

section Step
variable {w next : Walk}

theorem isCallWith_of_no_call {value : String} (h : n.calledMember? = none) :
    n.isCallWith method value = false := by
  rw [Node.isCallWith, Node.isCallOf, h]
  rfl

theorem asksSettings_of_declaration (h : isDeclaration n = true) : asksSettings n = false := by
  rw [asksSettings, calledMember_of_declaredViews (declaredViews_of_declaration h)]
  rfl

theorem step_declaration (hd : isDeclaration n = true) (h : step method w n = .ok next) :
    next = ⟨(viewNames n).foldl (fun vs name => declare vs ⟨name, w.count, n⟩) w.views,
      w.settings, w.count + 1⟩ := by
  rw [step, declaredViews_of_declaration hd] at h
  dsimp only at h
  split at h
  · cases h
  · exact (Except.ok.inj h).symm

theorem step_other (hd : isDeclaration n = false) (hw : w.Sound) (h : step method w n = .ok next) :
    next = ⟨settle w.views (told method w.settings n), lastAsked w.settings [n], w.count⟩ := by
  rw [step, declaredViews_of_other hd] at h
  dsimp only at h
  split at h
  · rename_i hcall
    have hasks : asksSettings n = false := by rw [asksSettings, hcall]; rfl
    obtain rfl := Except.ok.inj h
    simp [told, lastAsked, hasks, isCallWith_of_no_call hcall, settle]
  · rename_i hcall
    have hasks : asksSettings n = true := by rw [asksSettings, hcall]; rfl
    obtain ⟨left, hleft, h⟩ := bind_eq_ok_iff.mp h
    obtain rfl := Except.ok.inj h
    have hselectors := settleSelectors_eq hw.names hleft
    have htold : (if n.isCallWith method "false" then settle left n.callQualifier? else left) =
        settle w.views (told method w.settings n) := by
      rw [told, hasks, if_pos rfl, hselectors]
      cases n.isCallWith method "false" with
      | false => rw [Bool.false_or, if_neg Bool.false_ne_true]
      | true =>
        rw [Bool.true_or, if_pos rfl, if_pos rfl]
        split
        · exact settle_settle hw.names
        · rfl
    simp [htold, lastAsked, hasks]
  · rename_i member hne hcall
    have hasks : asksSettings n = false := by
      rw [asksSettings, hcall, beq_eq_false_iff_ne]
      exact fun heq => hne (Option.some.inj heq)
    split at h
    · rename_i hno
      obtain rfl := Except.ok.inj h
      simp [told, lastAsked, hasks, hno]
    · rename_i hno
      obtain rfl := Except.ok.inj h
      simp [told, lastAsked, hasks, hno, settle]

theorem Walk.Sound.step (hw : w.Sound) (h : WebViewDetector.step method w n = .ok next) :
    next.Sound := by
  cases hd : isDeclaration n with
  | true =>
    rw [step_declaration hd h]
    refine ⟨nodup_names_foldl_declare hw.names, fun v hv => ?_⟩
    rcases mem_foldl_declare_iff.mp hv with ⟨hold, -⟩ | ⟨name, -, rfl⟩
    · exact Nat.lt_succ_of_lt (hw.numbers v hold)
    · exact Nat.lt_succ_self _
  | false =>
    rw [step_other hd hw h]
    exact ⟨nodup_names_settle hw.names, fun v hv => hw.numbers v ((mem_settle_iff hw.names).mp hv).1⟩

/-- The names of earlier declarations stand for them unless they are declared again. -/
theorem mem_standing_earlier_iff {views : List View} {count number : Nat} {n : Node}
    {name : String} (h : number < count) :
    name ∈ standing (names.foldl (fun vs name => declare vs ⟨name, count, n⟩) views) number ↔
      name ∈ (standing views number).filter fun name => name ∉ names := by
  rw [List.mem_filter, decide_eq_true_eq, mem_standing_iff, mem_standing_iff]
  constructor
  · rintro ⟨v, hv, rfl, rfl⟩
    rcases mem_foldl_declare_iff.mp hv with ⟨hold, hfresh⟩ | ⟨other, -, rfl⟩
    · exact ⟨⟨v, hold, rfl, rfl⟩, hfresh⟩
    · exact absurd h (Nat.lt_irrefl count)
  · rintro ⟨⟨v, hv, hnumber, rfl⟩, hfresh⟩
    exact ⟨v, mem_foldl_declare_iff.mpr (.inl ⟨hv, hfresh⟩), hnumber, rfl⟩

theorem mem_standing_latest_iff {views : List View} {count : Nat} {n : Node}
    {name : String} (h : ∀ v ∈ views, v.number < count) :
    name ∈ standing (names.foldl (fun vs name => declare vs ⟨name, count, n⟩) views) count ↔
      name ∈ names := by
  rw [mem_standing_iff]
  constructor
  · rintro ⟨v, hv, hnumber, rfl⟩
    rcases mem_foldl_declare_iff.mp hv with ⟨hold, -⟩ | ⟨other, hother, rfl⟩
    · exact absurd (h v hold) (hnumber ▸ Nat.lt_irrefl _)
    · exact hother
  · exact fun hname => ⟨_, mem_foldl_declare_iff.mpr (.inr ⟨name, hname, rfl⟩), rfl, rfl⟩

/-- A declaration takes names away from earlier ones and brings its own. -/
theorem keeps_declaration_iff (hd : isDeclaration n = true) (hw : w.Sound)
    (h : step method w n = .ok next) :
    next.Keeps p method rest ↔ w.Keeps p method (n :: rest) ∨
      p n ∧ ∃ x ∈ viewNames n, Stays method w.settings (viewNames n) x rest := by
  have hasked : lastAsked w.settings [n] = w.settings := by
    simp [lastAsked, asksSettings_of_declaration hd]
  have htold : told method w.settings n = none := by
    have hcall := calledMember_of_declaredViews (declaredViews_of_declaration hd)
    simp [told, asksSettings_of_declaration hd, isCallWith_of_no_call hcall]
  rw [step_declaration hd h]
  simp only [Walk.Keeps, stays_cons_iff, hasked, htold]
  constructor
  · rintro ⟨v, hv, hp, hstays⟩
    rcases mem_foldl_declare_iff.mp hv with ⟨hold, hfresh⟩ | ⟨x, hx, rfl⟩
    · exact .inl ⟨v, hold, hp, hfresh, fun _ _ => nofun,
        (stays_congr fun _ => mem_standing_earlier_iff (hw.numbers v hold)).mp hstays⟩
    · exact .inr ⟨hp, x, hx, (stays_congr fun _ => mem_standing_latest_iff hw.numbers).mp hstays⟩
  · rintro (⟨v, hold, hp, hfresh, -, hstays⟩ | ⟨hp, x, hx, hstays⟩)
    · exact ⟨v, mem_foldl_declare_iff.mpr (.inl ⟨hold, hfresh⟩), hp,
        (stays_congr fun _ => mem_standing_earlier_iff (hw.numbers v hold)).mpr hstays⟩
    · exact ⟨_, mem_foldl_declare_iff.mpr (.inr ⟨x, hx, rfl⟩), hp,
        (stays_congr fun _ => mem_standing_latest_iff hw.numbers).mpr hstays⟩

/-- Any other node settles the declaration that the name it tells stands for, and no other one. -/
theorem keeps_other_iff (hd : isDeclaration n = false) (hw : w.Sound)
    (h : step method w n = .ok next) : next.Keeps p method rest ↔ w.Keeps p method (n :: rest) := by
  have hnone := viewNames_of_other hd
  have hkept : ∀ v, v ∈ settle w.views (told method w.settings n) ↔ v ∈ w.views ∧
      ∀ name ∈ standing w.views v.number, told method w.settings n ≠ some name := by
    intro v
    rw [mem_settle_iff hw.names]
    refine and_congr_right fun _ => ⟨fun hall name hname htold => ?_, fun hall u hu htold hnumber => ?_⟩
    · obtain ⟨u, hu, hnumber, rfl⟩ := mem_standing_iff.mp hname
      exact hall u hu htold hnumber
    · exact hall u.name (mem_standing_iff.mpr ⟨u, hu, hnumber, rfl⟩) htold
  -- of a declaration that is left, all names are
  have hstanding : ∀ v ∈ settle w.views (told method w.settings n), ∀ name,
      name ∈ standing (settle w.views (told method w.settings n)) v.number ↔
        name ∈ (standing w.views v.number).filter fun name => name ∉ viewNames n := by
    intro v hv name
    rw [List.mem_filter, hnone, mem_standing_iff, mem_standing_iff]
    constructor
    · rintro ⟨u, hu, hnumber, rfl⟩
      exact ⟨⟨u, ((hkept u).mp hu).1, hnumber, rfl⟩, rfl⟩
    · rintro ⟨⟨u, hu, hnumber, rfl⟩, -⟩
      exact ⟨u, (hkept u).mpr ⟨hu, hnumber ▸ ((hkept v).mp hv).2⟩, hnumber, rfl⟩
  rw [step_other hd hw h]
  simp only [Walk.Keeps, stays_cons_iff]
  constructor
  · rintro ⟨v, hv, hp, hstays⟩
    obtain ⟨hold, huntold⟩ := (hkept v).mp hv
    exact ⟨v, hold, hp, hnone ▸ List.not_mem_nil, huntold, (stays_congr (hstanding v hv)).mp hstays⟩
  · rintro ⟨v, hold, hp, -, huntold, hstays⟩
    have hv := (hkept v).mpr ⟨hold, huntold⟩
    exact ⟨v, hv, hp, (stays_congr (hstanding v hv)).mpr hstays⟩

/-- What stays after a node was there before it and stays over it, or the node declares it. -/
theorem keeps_step_iff (hw : w.Sound) (h : step method w n = .ok next) :
    next.Keeps p method rest ↔ w.Keeps p method (n :: rest) ∨
      p n ∧ ∃ x ∈ viewNames n, Stays method w.settings (viewNames n) x rest := by
  cases hd : isDeclaration n with
  | true => exact keeps_declaration_iff hd hw h
  | false =>
    have hnone := viewNames_of_other hd
    rw [keeps_other_iff hd hw h, hnone]
    simp

theorem settings_step (hw : w.Sound) (h : step method w n = .ok next) :
    next.settings = lastAsked w.settings [n] := by
  cases hd : isDeclaration n with
  | true =>
    rw [step_declaration hd h]
    simp [lastAsked, asksSettings_of_declaration hd]
  | false => rw [step_other hd hw h]

end Step

/-- What stays after a node and what later nodes leave, by the same after the nodes in front. -/
theorem keeps_or_leaves_cons_iff {w next : Walk} (hw : w.Sound) (h : step method w n = .ok next) :
    next.Keeps p method rest ∨ Leaves p method next.settings rest ↔
      w.Keeps p method (n :: rest) ∨ Leaves p method w.settings (n :: rest) := by
  rw [leaves_cons_iff, keeps_step_iff hw h, settings_step hw h, or_assoc]

theorem keeps_or_leaves_nil_iff {w : Walk} :
    w.Keeps p method [] ∨ Leaves p method w.settings [] ↔ ∃ v ∈ w.views, p v.node := by
  simp only [Walk.Keeps, stays_nil, not_leaves_nil, and_true, or_false]

/-- The views that a walk leaves are those that were there and stay, and those that are declared on the
way and stay. -/
theorem walkMethod_left_iff {w final : Walk} (hw : w.Sound)
    (h : walkMethod method w nodes = .ok final) :
    (∃ v ∈ final.views, p v.node) ↔ w.Keeps p method nodes ∨ Leaves p method w.settings nodes := by
  induction nodes generalizing w with
  | nil =>
    obtain rfl := Except.ok.inj h
    exact keeps_or_leaves_nil_iff.symm
  | cons n rest ih =>
    rw [walkMethod] at h
    obtain ⟨next, hstep, h⟩ := bind_eq_ok_iff.mp h
    rw [ih (hw.step hstep) h, keeps_or_leaves_cons_iff hw hstep]

/-! Which walks go through. -/

def Answers (n : Node) : Prop :=
  n.calledMember? = some "getSettings" → ∀ s ∈ n.selectors, s.kind.takesArguments = true

def TooDeep (n : Node) : Prop := n.isCopyable = false

theorem settleSelectors_ok_iff (method : String) (name : Option String) (views : List View)
    {selectors : List Node} :
    (∃ left, settleSelectors method name views selectors = .ok left) ↔
      ∀ s ∈ selectors, s.kind.takesArguments = true := by
  induction selectors generalizing views with
  | nil => exact iff_of_true ⟨views, rfl⟩ (by simp)
  | cons s rest ih =>
    rw [List.forall_mem_cons, settleSelectors]
    cases hs : s.kind.takesArguments with
    | false => simp
    | true =>
      simp only [Bool.not_true, Bool.false_eq_true, if_false, true_and]
      split
      · exact ih _
      · exact ih views

theorem step_ok_iff (method : String) (w : Walk) {n : Node} :
    (∃ next, step method w n = .ok next) ↔
      Answers n ∧ (viewNames n ≠ [] → ¬∃ v ∈ w.views, TooDeep v.node) := by
  cases hd : isDeclaration n with
  | true =>
    have hviews := declaredViews_of_declaration hd
    have hanswers : Answers n := fun hcall =>
      nomatch (calledMember_of_declaredViews hviews).symm.trans hcall
    rw [step, hviews, and_iff_right hanswers]
    have hdeep : w.views.any (!·.node.isCopyable) = true ↔ ∃ v ∈ w.views, TooDeep v.node := by
      simp [TooDeep]
    cases viewNames n with
    | nil => simp
    | cons name names =>
      rw [← hdeep]
      cases w.views.any (!·.node.isCopyable) <;> simp
  | false =>
    have hnone := viewNames_of_other hd
    rw [step, declaredViews_of_other hd, hnone, and_iff_left (absurd rfl), Answers]
    dsimp only
    split
    · rename_i hm
      simp [hm]
    · rename_i hm
      simp only [hm, true_implies]
      rw [← settleSelectors_ok_iff method n.callQualifier? w.views, exists_bind_eq_ok_iff]
      simp
    · rename_i member hne hm
      have hother : ¬ n.calledMember? = some "getSettings" := by
        rw [hm]
        exact fun h => hne (Option.some.inj h)
      refine iff_of_true ?_ (fun h => absurd h hother)
      split
      · exact ⟨_, rfl⟩
      · exact ⟨_, rfl⟩

/-- Nodes can be walked if calls for settings answer and if, whenever a web view is declared, none is
left of the nodes in front that lies too deep to be copied. -/
def Walkable (method : String) (nodes : List Node) : Prop :=
  (∀ n ∈ nodes, Answers n) ∧ ∀ before d after, nodes = before ++ d :: after → viewNames d ≠ [] →
    ¬Leaves TooDeep method none before

theorem walkMethod_ok_iff {w : Walk} (hw : w.Sound) :
    (∃ final, walkMethod method w nodes = .ok final) ↔ (∀ n ∈ nodes, Answers n) ∧
      ∀ before d after, nodes = before ++ d :: after → viewNames d ≠ [] →
        ¬(w.Keeps TooDeep method before ∨ Leaves TooDeep method w.settings before) := by
  induction nodes generalizing w with
  | nil => simp [walkMethod]
  | cons n rest ih =>
    have hfirst : (∃ final, walkMethod method w (n :: rest) = .ok final) ↔
        ∃ next, step method w n = .ok next ∧ ∃ final, walkMethod method next rest = .ok final := by
      rw [walkMethod, exists_bind_eq_ok_iff]
    rw [hfirst, List.forall_mem_cons]
    constructor
    · rintro ⟨next, hstep, hrest⟩
      obtain ⟨hanswers, hcopied⟩ := (step_ok_iff method w).mp ⟨next, hstep⟩
      obtain ⟨hmore, hlater⟩ := (ih (hw.step hstep)).mp hrest
      refine ⟨⟨hanswers, hmore⟩, ?_⟩
      rintro (_ | ⟨m, before⟩) d after hsplit hd
      · obtain ⟨rfl, -⟩ := List.cons.inj hsplit
        rw [keeps_or_leaves_nil_iff]
        exact hcopied hd
      · obtain ⟨rfl, hafter⟩ := List.cons.inj hsplit
        rw [← keeps_or_leaves_cons_iff hw hstep]
        exact hlater before d after hafter hd
    · rintro ⟨⟨hanswers, hmore⟩, hcopied⟩
      obtain ⟨next, hstep⟩ := (step_ok_iff method w).mpr ⟨hanswers, fun hd hdeep =>
        hcopied [] n rest rfl hd (keeps_or_leaves_nil_iff.mpr hdeep)⟩
      refine ⟨next, hstep, (ih (hw.step hstep)).mpr ⟨hmore, fun before d after hafter hd => ?_⟩⟩
      rw [keeps_or_leaves_cons_iff hw hstep]
      exact hcopied (n :: before) d after (by rw [hafter]; rfl) hd

/-! Methods. -/

section Report
variable {tree m : Node} {notice : Notice} {path : Option String} {left : List Node}

theorem sound_start : (⟨[], none, 0⟩ : Walk).Sound := ⟨List.nodup_nil, by simp⟩

theorem not_keeps_start : ¬(⟨[], none, 0⟩ : Walk).Keeps p method nodes := by simp [Walk.Keeps]

theorem exists_of_mem_declarations {views : List View} {seen : List Nat}
    (h : n ∈ declarations seen views) : ∃ v ∈ views, v.node = n := by
  induction views generalizing seen with
  | nil => cases h
  | cons v views ih =>
    rw [declarations] at h
    split at h
    · obtain ⟨u, hu, hnode⟩ := ih h
      exact ⟨u, List.mem_cons_of_mem v hu, hnode⟩
    · rcases List.mem_cons.mp h with rfl | h
      · exact ⟨v, List.mem_cons_self, rfl⟩
      · obtain ⟨u, hu, hnode⟩ := ih h
        exact ⟨u, List.mem_cons_of_mem v hu, hnode⟩

theorem unsettled_ok_iff : (∃ left, unsettled method m = .ok left) ↔ Walkable method m.walk := by
  have hwalk : (∃ final, walkMethod method ⟨[], none, 0⟩ m.walk = .ok final) ↔ _ :=
    walkMethod_ok_iff sound_start
  simp only [not_keeps_start, false_or] at hwalk
  rw [Walkable, ← hwalk, unsettled, exists_bind_eq_ok_iff]
  simp

/-- What stays unsettled was declared in the method. -/
theorem mem_walk_of_unsettled (h : unsettled method m = .ok left) (hn : n ∈ left) : n ∈ m.walk := by
  obtain ⟨final, hwalk, h⟩ := bind_eq_ok_iff.mp h
  obtain rfl := Except.ok.inj h
  obtain ⟨before, d, after, hsplit, rfl, -⟩ :=
    ((walkMethod_left_iff (p := (· = n)) sound_start hwalk).mp
      (exists_of_mem_declarations hn)).resolve_left not_keeps_start
  rw [hsplit]
  exact List.mem_append_right before List.mem_cons_self

theorem unsettled_ne_nil_iff (h : unsettled method m = .ok left) :
    left ≠ [] ↔ Leaves (fun _ => True) method none m.walk := by
  obtain ⟨final, hwalk, h⟩ := bind_eq_ok_iff.mp h
  have hleft := walkMethod_left_iff (p := fun _ => True) sound_start hwalk
  rw [or_iff_right not_keeps_start] at hleft
  rw [← hleft, ← Except.ok.inj h]
  cases final.views with
  | nil => simp [declarations]
  | cons v rest => exact iff_of_true (List.cons_ne_nil _ _) ⟨v, List.mem_cons_self, trivial⟩

/-! Trees. -/

/-- All methods of a tree, so far as it is reached, can be walked. -/
def AllWalkable (method : String) (tree : Node) : Prop :=
  ∀ m ∈ tree.reached.1, m.isMethod = true → Walkable method m.walk

/-- Some method of a tree leaves a web view. -/
def LeavesView (method : String) (tree : Node) : Prop :=
  ∃ m ∈ tree.walk, m.isMethod = true ∧ Leaves (fun _ => True) method none m.walk

theorem methodDefaults_ok_iff :
    (∃ found, methodDefaults method notice path m = .ok found) ↔ Walkable method m.walk := by
  rw [← unsettled_ok_iff, methodDefaults, exists_bind_eq_ok_iff]
  simp

/-- Settings that web views are never told can be looked for if all methods can be walked and the tree
does not lie too deep. -/
theorem defaults_ok_iff (method : String) (notice : Notice) (path : Option String) :
    (∃ found, defaults (some tree) method notice path = .ok found) ↔
      AllWalkable method tree ∧ tree.reached.2 = true := by
  have hmethods : (∃ found, (tree.reached.1.filter fun n => n.declaredMethod?.isSome).mapM
      (methodDefaults method notice path) = .ok found) ↔ AllWalkable method tree := by
    rw [mapM_ok_iff]
    simp only [methodDefaults_ok_iff, List.mem_filter, and_imp, AllWalkable]
    rfl
  rw [← hmethods, defaults, exists_bind_eq_ok_iff]
  cases tree.reached.2 <;> simp

theorem methodDefaults_ne_nil_iff {found : List Finding}
    (h : methodDefaults method notice path m = .ok found) :
    found ≠ [] ↔ Leaves (fun _ => True) method none m.walk := by
  obtain ⟨left, hleft, h⟩ := bind_eq_ok_iff.mp h
  rw [← Except.ok.inj h, Ne, List.map_eq_nil_iff, ← Ne, unsettled_ne_nil_iff hleft]

/-- The walks through the methods of a tree go through, and one of them leaves a view. -/
theorem defaults_left_iff (method : String) (notice : Notice) (path : Option String) :
    (∃ found, defaults (some tree) method notice path = .ok found ∧ found ≠ []) ↔
      (AllWalkable method tree ∧ tree.reached.2 = true) ∧ LeavesView method tree := by
  rw [← defaults_ok_iff method notice path]
  cases hfound : defaults (some tree) method notice path with
  | error e => simp
  | ok found =>
    obtain ⟨lists, hlists, rfl⟩ := defaults_eq_ok hfound
    have hall := mapM_ok_iff.mp ⟨lists, hlists⟩
    obtain rfl := eq_map_of_mapM
      (g := fun m => (methodDefaults method notice path m).toOption.getD [])
      (fun m _ y hy => by rw [hy]; rfl) hlists
    have hleaves : (∃ m ∈ tree.walk.filter Node.isMethod,
        (methodDefaults method notice path m).toOption.getD [] ≠ []) ↔ LeavesView method tree := by
      refine exists_congr fun m => ?_
      rw [List.mem_filter, and_assoc]
      refine and_congr_right fun hm => and_congr_right fun hmethod => ?_
      obtain ⟨l, hl⟩ := hall m (List.mem_filter.mpr ⟨hm, hmethod⟩)
      rw [hl]
      exact methodDefaults_ne_nil_iff hl
    rw [← hleaves]
    simp [and_assoc]

end Report
end WebViewDetector
end DroidAudit
