import DroidAudit.Proofs.WrittenTags

/-! What stands between tags is read piece by piece: characters, comments, which leave nothing, and
elements. Each piece leads from a text to what stands behind it. -/
namespace DroidAudit.Xml

/-- With enough fuel for its length, a text is read as some pieces and then what stands behind
them. -/
def Passes (scope : Scope) (cs : List Char) (items : List Item) (tail : List Char) : Prop :=
  ∀ fuel, cs.length < fuel → ∃ fuel', tail.length < fuel' ∧
    content .tree {} fuel scope [] cs =
      content .tree {} fuel' scope [] tail >>= fun more => .ok (items ++ more.1, more.2)

namespace Passes

variable {scope : Scope} {cs tail : List Char} {items : List Item}

theorem refl (scope : Scope) (cs : List Char) : Passes scope cs [] cs := by
  intro fuel hfuel
  refine ⟨fuel, hfuel, ?_⟩
  cases content .tree {} fuel scope [] cs <;> rfl

theorem trans {mid : List Char} {more : List Item} (h : Passes scope cs items mid)
    (hmore : Passes scope mid more tail) : Passes scope cs (items ++ more) tail := by
  intro fuel hfuel
  obtain ⟨fuel₁, hfuel₁, hcs⟩ := h fuel hfuel
  obtain ⟨fuel₂, hfuel₂, hmid⟩ := hmore fuel₁ hfuel₁
  refine ⟨fuel₂, hfuel₂, ?_⟩
  rw [hcs, hmid]
  cases content .tree {} fuel₂ scope [] tail with
  | error f => rfl
  | ok taken => simp [bind, Except.bind]

theorem of_step {item : List Item} (hlength : tail.length < cs.length)
    (h : ∀ fuel, cs.length ≤ fuel → content .tree {} (fuel + 1) scope [] cs =
      content .tree {} fuel scope [] tail >>= fun more => .ok (item ++ more.1, more.2)) :
    Passes scope cs item tail := by
  intro fuel hfuel
  obtain ⟨fuel, rfl⟩ : ∃ n, fuel = n + 1 := ⟨fuel - 1, by omega⟩
  exact ⟨fuel, by omega, h fuel (by omega)⟩

theorem reference {body : List Char} {c : Char} (hrefers : Refers body c) (scope : Scope)
    (tail : List Char) : Passes scope ('&' :: body ++ tail) [.text [c]] tail := by
  refine of_step (by simp only [List.length_append, List.length_cons]; omega) fun fuel _ => ?_
  obtain ⟨r, hr, href⟩ := hrefers
  rw [List.cons_append, content]
  cases r with
  | char found =>
    cases hr
    simp [href, bind, Except.bind]
  | entity name =>
    have hname : predefined name = some c := hr
    simp [href, hname, bind, Except.bind]

end Passes

variable {cs tail : List Char} {scope : Scope}

theorem behindFirst_of_not_mem (h : '>' ∉ cs) : behindFirst [']', ']', '>'] cs = none := by
  induction cs with
  | nil => rfl
  | cons c cs ih =>
    have hafter : Text.after? [']', ']', '>'] (c :: cs) = none := by
      simp only [Text.after?]
      split
      · rcases cs with _ | ⟨d, _ | ⟨e, cs⟩⟩
        · rfl
        · simp [Text.after?]
        · have he : '>' ≠ e := by
            rintro rfl
            simp at h
          simp [Text.after?, he]
      · rfl
    rw [behindFirst, hafter]
    exact ih (by simp_all)

/-- Characters that need no reference are read at once, up to a tag or a reference. -/
theorem Passes.run {run : List Char} (hrun : ∀ c ∈ run, c ∉ textSigns) (hne : run ≠ [])
    (scope : Scope)
    (htail : tail.head? = some '<' ∨ tail.head? = some '&') :
    Passes scope (run ++ tail) [.text run] tail := by
  obtain ⟨c, run, rfl⟩ := List.exists_cons_of_ne_nil hne
  refine of_step (by simp only [List.length_append, List.length_cons]; omega) fun fuel _ => ?_
  have hsigns : ∀ d ∈ c :: run, d ≠ '<' ∧ d ≠ '&' ∧ d ≠ '>' := fun d hd => by
    simpa [textSigns, and_left_comm] using hrun d hd
  have htake : (c :: run ++ tail).takeWhile (fun d => d != '<' && d != '&') = c :: run := by
    rw [List.takeWhile_append_of_pos fun d hd => by simp [hsigns d hd]]
    cases tail with
    | nil => simp
    | cons d tail =>
      simp only [List.head?_cons, Option.some.injEq] at htail
      rcases htail with rfl | rfl <;> simp
  have hclosing : behindFirst [']', ']', '>'] (c :: run) = none :=
    behindFirst_of_not_mem fun hmem => (hsigns '>' hmem).2.2 rfl
  have hplain : plainText (c :: (run ++ tail)) = .ok (c :: run, tail) := by
    rw [← List.cons_append, plainText, htake]
    simp [hclosing]
  obtain ⟨htag, hamp, -⟩ := hsigns c (by simp)
  rw [List.cons_append, content]
  · simp [hplain, bind, Except.bind]
  all_goals simp [htag, hamp]

theorem comment_of_not_mem {body : List Char} (h : '-' ∉ body) (start rest : List Char) :
    comment start (body ++ '-' :: '-' :: '>' :: rest) = .ok rest := by
  have hbehind : behindFirst ['-', '-'] (body ++ '-' :: '-' :: '>' :: rest) = some ('>' :: rest) := by
    induction body with
    | nil => rfl
    | cons c body ih =>
      simp only [List.mem_cons, not_or] at h
      rw [List.cons_append, behindFirst]
      simp [Text.after?, h.1, ih h.2]
  have hdashes : "--".toList = ['-', '-'] := rfl
  rw [comment, hdashes, hbehind]
  rfl

theorem Passes.comment {body : List Char} (hbody : '-' ∉ body) (scope : Scope) (tail : List Char) :
    Passes scope ('<' :: '!' :: '-' :: '-' :: body ++ '-' :: '-' :: '>' :: tail) [] tail := by
  refine of_step (by simp only [List.length_append, List.length_cons]; omega) fun fuel _ => ?_
  simp only [List.cons_append]
  rw [content]
  simp [comment_of_not_mem hbody, bind, Except.bind]

/-- A tag opens an element whatever its name is, if it is not the sign of something else. -/
theorem content_tag (scope : Scope) {c : Char} (hsigns : c ≠ '/' ∧ c ≠ '!' ∧ c ≠ '?') (fuel : Nat)
    (cs : List Char) :
    content .tree {} (fuel + 1) scope [] ('<' :: c :: cs) =
      element .tree {} scope [] (fun inner cs => content .tree {} fuel inner [] cs) ('<' :: c :: cs) >>=
        fun taken => content .tree {} fuel scope [] taken.2 >>= fun more =>
          .ok (.element taken.1 :: more.1, more.2) := by
  rw [content]
  · rfl
  all_goals simp [hsigns]

structure IsReadIn (scope : Scope) (es : List Char) (e : Element) : Prop where
  opens : ∃ c cs, es = '<' :: c :: cs ∧ opensName c = true
  reads : ∀ rest fuel, (es ++ rest).length ≤ fuel →
    element .tree {} scope [] (fun inner cs => content .tree {} fuel inner [] cs) (es ++ rest) =
      .ok (e, rest)

theorem Passes.element {es : List Char} {e : Element} (h : IsReadIn scope es e)
    (tail : List Char) : Passes scope (es ++ tail) [.element e] tail := by
  have hreads := h.reads tail
  obtain ⟨c, cs, rfl, hopens⟩ := h.opens
  have hsigns : c ≠ '/' ∧ c ≠ '!' ∧ c ≠ '?' := by
    refine ⟨?_, ?_, ?_⟩ <;>
      exact ne_of_opensName hopens (by decide)
  refine of_step (by simp only [List.length_append, List.length_cons]; omega) fun fuel hfuel => ?_
  have helement := hreads fuel hfuel
  rw [List.cons_append, List.cons_append] at helement ⊢
  rw [content_tag scope hsigns, helement]
  rfl

/-! Text between tags. -/

theorem gather_texts (runs : List (List Char)) (items : List Item) :
    gather (runs.map .text ++ items) = (runs.flatten ++ (gather items).1, (gather items).2) := by
  induction runs with
  | nil => rfl
  | cons run runs ih => simp [gather, ih]

/-- Text is read up to a tag, in runs. The induction keeps the characters in front that are still to
be read at once with the next ones. -/
theorem Passes.text (scope : Scope) {ds : List Char}
    (hds : ∀ c ∈ ds, isLegal c = true ∧ c ≠ '\r') (htail : tail.head? = some '<')
    (run : List Char) (hrun : ∀ c ∈ run, c ∉ textSigns) :
    ∃ runs : List (List Char), runs.flatten = run ++ ds ∧
      Passes scope (run ++ (ds.flatMap (fun c => writtenPoint escapedTextChar c.toNat) ++ tail))
        (runs.map .text) tail := by
  have hfront {run tail : List Char} (hrun : ∀ c ∈ run, c ∉ textSigns)
      (htail : tail.head? = some '<' ∨ tail.head? = some '&') :
      ∃ runs : List (List Char), runs.flatten = run ∧ Passes scope (run ++ tail) (runs.map .text) tail := by
    by_cases hne : run = []
    · subst hne
      exact ⟨[], rfl, .refl scope tail⟩
    · exact ⟨[run], by simp, .run hrun hne scope htail⟩
  induction ds generalizing run with
  | nil => simpa using hfront hrun (.inl htail)
  | cons c ds ih =>
    obtain ⟨⟨hlegal, -⟩, hrest⟩ := List.forall_mem_cons.mp hds
    have hwritten := writtenPoint_writtenAs hlegal escapedTextChar_writtenAs
    rw [List.flatMap_cons, List.append_assoc]
    generalize writtenPoint escapedTextChar c.toNat = v at hwritten
    cases hwritten with
    | itself _ hsigns =>
      have hlonger : ∀ d ∈ run ++ [c], d ∉ textSigns :=
        List.forall_mem_append.mpr ⟨hrun, List.forall_mem_singleton.mpr hsigns⟩
      simpa using ih hrest (run ++ [c]) hlonger
    | @reference body hrefers _ =>
      obtain ⟨runs, hruns, hmore⟩ := ih hrest [] (by simp)
      generalize ds.flatMap (fun c => writtenPoint escapedTextChar c.toNat) ++ tail = behind at hmore ⊢
      have hsign : ('&' :: body ++ behind).head? = some '&' := rfl
      obtain ⟨front, hflat, hread⟩ := hfront hrun (.inr hsign)
      refine ⟨front ++ [[c]] ++ runs, by simp [hflat, hruns], ?_⟩
      have hall := (hread.trans (Passes.reference hrefers scope _)).trans hmore
      simpa using hall

theorem Passes.isText (scope : Scope) {s : String} (hs : IsText s) :
    ∃ ds, s = String.ofList (Text.ofChars ds) ∧ ∀ tail : List Char, tail.head? = some '<' →
      ∃ runs : List (List Char), runs.flatten = ds ∧
        Passes scope (textChars s ++ tail) (runs.map .text) tail := by
  obtain ⟨ds, rfl, hds⟩ := hs
  refine ⟨ds, rfl, fun tail htail => ?_⟩
  rw [textChars, writtenText, written_ofChars]
  exact Passes.text scope hds htail [] (by simp)

/-! Elements. -/

def ReadsIn (scope : Scope) (cs text : List Char) (children : List (Element × String))
    (rest : List Char) : Prop :=
  ∀ fuel, cs.length < fuel → ∃ items, content .tree {} fuel scope [] cs = .ok (items, rest) ∧
    gather items = (text, children)

theorem readsIn_endTag (scope : Scope) (more : List Char) :
    ReadsIn scope ('<' :: '/' :: more) [] [] ('<' :: '/' :: more) := by
  intro fuel hfuel
  obtain ⟨fuel, rfl⟩ : ∃ n, fuel = n + 1 := ⟨fuel - 1, by omega⟩
  exact ⟨[], rfl, rfl⟩

theorem Passes.readsIn_endTag {more : List Char} {items : List Item}
    (h : Passes scope cs items ('<' :: '/' :: more)) :
    ReadsIn scope cs (gather items).1 (gather items).2 ('<' :: '/' :: more) := by
  intro fuel hfuel
  obtain ⟨fuel', hfuel', hread⟩ := h fuel hfuel
  obtain ⟨n, rfl⟩ : ∃ n, fuel' = n + 1 := ⟨fuel' - 1, by omega⟩
  refine ⟨items, ?_, rfl⟩
  have hnone : content .tree {} (n + 1) scope [] ('<' :: '/' :: more) = .ok ([], '<' :: '/' :: more) :=
    rfl
  rw [hread, hnone]
  simp [bind, Except.bind]

theorem Passes.readsIn {text rest : List Char} {items : List Item}
    {children : List (Element × String)} (hpasses : Passes scope cs items tail)
    (h : ReadsIn scope tail text children rest) :
    ∀ fuel, cs.length < fuel → ∃ more,
      content .tree {} fuel scope [] cs = .ok (items ++ more, rest) ∧ gather more = (text, children) := by
  intro fuel hfuel
  obtain ⟨fuel', hfuel', hread⟩ := hpasses fuel hfuel
  obtain ⟨more, hmore, hgather⟩ := h fuel' hfuel'
  refine ⟨more, ?_, hgather⟩
  rw [hread, hmore]
  rfl

theorem TagMeans.isReadIn_empty {label part : String} {given : List Given}
    {name : Name} {attributes : List Attribute}
    (h : TagMeans scope label part given name attributes) :
    IsReadIn scope
      ('<' :: ((writtenAs label part).toList ++ (given.flatMap givenChars ++ [' ', '/', '>'])))
      (.mk name attributes (some "") []) := by
  constructor
  · obtain ⟨c, cs, hs, hopens⟩ := writtenAs_opens h.labelKept h.partKept
    exact ⟨c, _, by rw [hs]; rfl, hopens⟩
  · intro rest fuel _
    obtain ⟨raw, hlabel, hraw, hstart⟩ := h.opening
      ('<' :: ((writtenAs label part).toList ++
        (given.flatMap givenChars ++ ' ' :: '/' :: '>' :: rest)))
      (' ' :: '/' :: '>' :: rest) rfl fun _ => rfl
    simp only [List.cons_append, List.append_assoc, List.nil_append, Xml.element,
      List.drop_succ_cons, List.drop_zero, hlabel, hraw, hstart, bind, Except.bind, if_true]
    rfl

theorem TagMeans.isReadIn {label part : String} {given : List Given} {name : Name}
    {attributes : List Attribute} (h : TagMeans scope label part given name attributes)
    {text : List Char} {children : List (Element × String)}
    (hinner : ∀ more, ReadsIn (declaredOf given ++ scope) (cs ++ '<' :: '/' :: more) text children
      ('<' :: '/' :: more)) :
    IsReadIn scope
      ('<' :: ((writtenAs label part).toList ++ (given.flatMap givenChars ++
        '>' :: (cs ++ '<' :: '/' :: ((writtenAs label part).toList ++ ['>'])))))
      (.mk name attributes (some (String.ofList (Text.ofChars text))) children) := by
  constructor
  · obtain ⟨c, cs, hs, hopens⟩ := writtenAs_opens h.labelKept h.partKept
    exact ⟨c, _, by rw [hs]; rfl, hopens⟩
  · intro rest fuel hfuel
    have hinner := hinner ((writtenAs label part).toList ++ '>' :: rest)
    simp only [List.cons_append, List.append_assoc, List.nil_append] at hfuel hinner ⊢
    generalize cs ++ _ = inner at hfuel hinner ⊢
    obtain ⟨raw, hlabel, hraw, hstart⟩ := h.opening
      ('<' :: ((writtenAs label part).toList ++ (given.flatMap givenChars ++ '>' :: inner)))
      ('>' :: inner) rfl fun _ => rfl
    obtain ⟨items, hitems, hgather⟩ := hinner fuel (by simp at hfuel; omega)
    have hmade : makeElement name attributes items =
        .mk name attributes (some (String.ofList (Text.ofChars text))) children := by
      simp only [makeElement, hgather]
    simp only [Xml.element, List.drop_succ_cons, List.drop_zero, hlabel, hraw, hstart, bind,
      Except.bind, Bool.false_eq_true, if_false, hitems, endTag_written h.labelKept h.partKept, hmade]
    simp

end DroidAudit.Xml
