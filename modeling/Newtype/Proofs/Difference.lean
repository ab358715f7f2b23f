import Mathlib.Algebra.GroupWithZero.Nat
import Newtype.Proofs.Backing

/-!
# Texts tell plans apart

What the author of a struct has written by hand is left out of the plan, or called by it.
Two plans for the same struct with other members written by hand differ in their first
line that depends on the hook, or one of them has a text form that the other has not and
so has the longer text.  Hence the texts are the same only if the plans are.

* `Plan.text_opening` — how every text begins.
* `Plan.check_eq_of_text` — **the text shows the check.**
* `Plan.length_text` — the length of a text, member by member.
* `Plan.forms_eq_of_text` — **the text shows the text forms.**
* `Plan.text_eq_iff` — **when two texts are the same.**
-/

namespace Newtype

open Layout

/-! ### The beginning of a text -/

theorem renderLine_append (depth : Nat) {a : String} (ha : a ≠ "") (b : String) :
    renderLine depth (a ++ b) = margin depth ++ (a ++ b) ++ "\n" := by
  rw [renderLine, if_neg]
  simp [ha]

namespace Plan

/-- The lines in front of those that depend on the check. -/
def opening (p : Plan) : String :=
  margin 0 ++ ("impl " ++ (p.typeName ++ " \x7b")) ++ "\n" ++
    (margin 1 ++ ("/// Creates a new `" ++ (p.typeName ++ "`.")) ++ "\n") ++ margin 1

/-- The first line that depends on the check. -/
def announcement (p : Plan) (check : Check) : String :=
  if check = .none then "#[inline]"
  else "pub fn new(" ++ (p.parameters ++ (") -> " ++ (p.constructorOutput ++ " \x7b")))

theorem exists_spaced_cons (b : List Layout) (bs : List (List Layout)) :
    ∃ more, spaced (b :: bs) = b ++ more := by
  cases bs with
  | nil => exact ⟨[], (List.append_nil b).symm⟩
  | cons c bs => exact ⟨.blank :: spaced (c :: bs), rfl⟩

/-- The first two lines of the constructor. -/
theorem renderAll_constructorLayout (p : Plan) (check : Check) : ∃ rest,
    renderAll 1 (p.constructorLayout check) =
      margin 1 ++ ("/// Creates a new `" ++ (p.typeName ++ "`.")) ++ "\n" ++
        (margin 1 ++ (p.announcement check ++ ("\n" ++ rest))) := by
  have hcomment : renderLine 1 ("/// Creates a new `" ++ p.typeName ++ "`.") =
      margin 1 ++ ("/// Creates a new `" ++ (p.typeName ++ "`.")) ++ "\n" := by
    rw [String.append_assoc]
    exact renderLine_append 1 (by decide) _
  by_cases hnone : check = .none
  · have hinline : renderLine 1 "#[inline]" = margin 1 ++ "#[inline]" ++ "\n" := rfl
    unfold constructorLayout
    rw [if_pos hnone, announcement, if_pos hnone, List.singleton_append,
      List.cons_append, List.singleton_append, renderAll, renderAll, render, render, hcomment,
      hinline]
    exact ⟨_, by simp only [String.append_assoc]; rfl⟩
  · have hhead : renderLine 1 ("pub fn new(" ++ p.parameters ++ ") -> " ++ p.constructorOutput ++
        " \x7b") = margin 1 ++ p.announcement check ++ "\n" := by
      rw [announcement, if_neg hnone, String.append_assoc, String.append_assoc,
        String.append_assoc]
      exact renderLine_append 1 (by decide) _
    unfold constructorLayout
    rw [if_neg hnone, List.append_nil, List.singleton_append, renderAll,
      renderAll, render, render, hcomment, hhead]
    exact ⟨_, by simp only [String.append_assoc]; rfl⟩

/-- **Every text begins with the constructor.** -/
theorem text_opening {p : Plan} {check : Check} {ms : List Member}
    (h : p.members = .constructor check :: ms) :
    ∃ rest, p.text = p.opening ++ (p.announcement check ++ ("\n" ++ rest)) := by
  have hown : (p.members.filter isInherent).map p.inherentMember =
      p.constructorLayout check :: (ms.filter isInherent).map p.inherentMember := by
    rw [h]
    rfl
  obtain ⟨more, hmore⟩ := exists_spaced_cons (p.constructorLayout check)
    ((ms.filter isInherent).map p.inherentMember)
  obtain ⟨rest, hrest⟩ := p.renderAll_constructorLayout check
  have hhead : renderLine 0 ("impl " ++ p.typeName ++ " \x7b") =
      margin 0 ++ ("impl " ++ (p.typeName ++ " \x7b")) ++ "\n" := by
    rw [String.append_assoc]
    exact renderLine_append 0 (by decide) _
  rw [text, layout, Layout.text, renderAll, render, hown, hmore, renderAll_append, hrest, hhead,
    opening]
  exact ⟨_, by simp only [String.append_assoc]; rfl⟩

/-! ### The check -/

/-- A line is given by the text up to its end. -/
theorem eq_of_line_append {a b x y : List Char} (ha : '\n' ∉ a) (hb : '\n' ∉ b)
    (h : a ++ '\n' :: x = b ++ '\n' :: y) : a = b := by
  have hline : ∀ c z : List Char, '\n' ∉ c → (c ++ '\n' :: z).takeWhile (· != '\n') = c := by
    intro c z hc
    have hall : ∀ d ∈ c, (d != '\n') = true := by
      intro d hd
      rw [bne_iff_ne]
      exact fun heq => hc (heq ▸ hd)
    rw [List.takeWhile_append_of_pos hall, List.takeWhile_cons_of_neg (by simp),
      List.append_nil]
  rw [← hline a x ha, h, hline b y hb]

end Plan

/-- The error type of a check, if it has one, stands in one line. -/
def Check.OneLine (c : Check) : Prop := ∀ e, c.error? = some e → '\n' ∉ e.toList

namespace Plan

theorem append_left_cancel {a x y : String} (h : a ++ x = a ++ y) : x = y := by
  rw [← String.toList_inj, String.toList_append, String.toList_append] at h
  exact String.toList_inj.mp (List.append_cancel_left h)

/-- What making a wrapper gives shows the check, if there is one. -/
theorem check_eq_of_output {p p' : Plan} (hp : p.check ≠ .none) (hp' : p'.check ≠ .none)
    (hline : p.check.OneLine) (hline' : p'.check.OneLine) {x y : String}
    (h : p.constructorOutput ++ (" \x7b" ++ ("\n" ++ x)) =
      p'.constructorOutput ++ (" \x7b" ++ ("\n" ++ y))) : p.check = p'.check := by
  have hfirst := congrArg (·.toList.head?) h
  rw [constructorOutput, constructorOutput] at h hfirst
  cases hc : p.check with
  | none => exact absurd hc hp
  | panicking =>
    cases hc' : p'.check with
    | none => exact absurd hc' hp'
    | panicking => rfl
    | fallible e' => simp [hc, hc', Check.error?] at hfirst
  | fallible e =>
    cases hc' : p'.check with
    | none => exact absurd hc' hp'
    | panicking => simp [hc, hc', Check.error?] at hfirst
    | fallible e' =>
      -- both outputs begin alike, and the error types reach to the end of the line
      simp only [hc, hc', Check.error?, String.append_assoc] at h
      have herror := congrArg String.toList (append_left_cancel h)
      have hfeed : "\n".toList = ['\n'] := rfl
      have hend : '\n' ∉ (">" ++ " \x7b").toList := by decide
      have he := hline e (by rw [hc]; rfl)
      have he' := hline' e' (by rw [hc']; rfl)
      have hends : e.toList ++ (">" ++ " \x7b").toList = e'.toList ++ (">" ++ " \x7b").toList := by
        refine eq_of_line_append ?_ ?_ (x := x.toList) (y := y.toList) ?_
        · simp only [List.mem_append, he, hend, or_self, not_false_eq_true]
        · simp only [List.mem_append, he', hend, or_self, not_false_eq_true]
        · simpa only [String.toList_append, List.append_assoc, hfeed, List.singleton_append]
            using herror
      rw [String.toList_inj.mp (List.append_cancel_right hends)]

/-- **The text shows the check.** -/
theorem check_eq_of_text {p p' : Plan} (hname : p.typeName = p'.typeName)
    (hstorage : p.storage = p'.storage) {ms ms' : List Member}
    (hm : p.members = .constructor p.check :: ms)
    (hm' : p'.members = .constructor p'.check :: ms') (hline : p.check.OneLine)
    (hline' : p'.check.OneLine) (h : p.text = p'.text) : p.check = p'.check := by
  obtain ⟨rest, htext⟩ := text_opening hm
  obtain ⟨rest', htext'⟩ := text_opening hm'
  have hopening : p.opening = p'.opening := by rw [opening, opening, hname]
  have hparameters : p.parameters = p'.parameters := by rw [parameters, parameters, hstorage]
  rw [htext, htext', hopening] at h
  have hlines := append_left_cancel h
  have hfirst := congrArg (·.toList.head?) hlines
  rw [announcement, announcement] at hlines hfirst
  by_cases hnone : p.check = .none
  · by_cases hnone' : p'.check = .none
    · rw [hnone, hnone']
    · simp [hnone, hnone'] at hfirst
  · by_cases hnone' : p'.check = .none
    · simp [hnone, hnone'] at hfirst
    · rw [if_neg hnone, if_neg hnone', hparameters] at hlines
      simp only [String.append_assoc] at hlines
      have houtput := append_left_cancel (append_left_cancel (append_left_cancel hlines))
      exact check_eq_of_output hnone hnone' hline hline' houtput

/-! ### The length of a text -/

/-- The text of a trait, with what stands in front of it. -/
def traitText (p : Plan) (m : Member) : String :=
  renderAll 0 (.blank :: .line "#[automatically_derived]" :: p.traitImpl m)

/-- The text of the block of the type itself. -/
def ownText (p : Plan) : String :=
  render 0 (.block ("impl " ++ p.typeName)
    (spaced ((p.members.filter isInherent).map p.inherentMember)))

theorem length_traitText_pos (p : Plan) (m : Member) : 0 < (p.traitText m).length := by
  rw [traitText, renderAll, render, String.length_append]
  exact Nat.lt_of_lt_of_le Nat.zero_lt_one (Nat.le_add_right 1 _)

/-- **The length of a text**: that of the block of the type itself, and of each trait. -/
theorem length_text (p : Plan) : p.text.length = p.ownText.length +
    ((p.members.filter (!isInherent ·)).map fun m => (p.traitText m).length).sum := by
  have htraits : ∀ ms : List Member, (renderAll 0 (ms.flatMap fun m =>
      .blank :: .line "#[automatically_derived]" :: p.traitImpl m)).length =
        (ms.map fun m => (p.traitText m).length).sum := by
    intro ms
    induction ms with
    | nil => rfl
    | cons m ms ih =>
      rw [List.flatMap_cons, renderAll_append, String.length_append, ih, List.map_cons,
        List.sum_cons, traitText]
  rw [text, layout, Layout.text, renderAll, String.length_append, htraits, ownText]

/-- Members with the text forms at their place, as far as they are there. -/
def withForms (front back : List Member) (display debug : Bool) : List Member :=
  front ++ (when display [.display] ++ (when debug [.debug] ++ back))

/-- The text forms are traits, so the block of the type itself is the same with and
without them, and each adds its own length. -/
theorem length_withForms (p : Plan) (front back : List Member) (display debug : Bool) :
    { p with members := withForms front back display debug }.text.length =
      { p with members := front ++ back }.text.length +
        ((if display then (p.traitText .display).length else 0) +
          if debug then (p.traitText .debug).length else 0) := by
  have hown : { p with members := withForms front back display debug }.ownText =
      { p with members := front ++ back }.ownText := by
    have hfilter : (withForms front back display debug).filter isInherent =
        (front ++ back).filter isInherent := by
      simp only [withForms, List.filter_append]
      cases display <;> cases debug <;> rfl
    simp only [ownText, hfilter]
    rfl
  have htraits : ((withForms front back display debug).filter (!isInherent ·)).map
      (fun m => (p.traitText m).length) =
      (front.filter (!isInherent ·)).map (fun m => (p.traitText m).length) ++
        (when display [(p.traitText .display).length] ++
          (when debug [(p.traitText .debug).length] ++
            (back.filter (!isInherent ·)).map fun m => (p.traitText m).length)) := by
    simp only [withForms, List.filter_append, List.map_append]
    cases display <;> cases debug <;> rfl
  have hsum : ∀ (b : Bool) (n : Nat), (when b [n]).sum = if b then n else 0 := by
    intro b n
    cases b <;> simp [when]
  rw [length_text, length_text, hown]
  change _ + (((withForms front back display debug).filter (!isInherent ·)).map
      fun m => (p.traitText m).length).sum =
    _ + (((front ++ back).filter (!isInherent ·)).map fun m => (p.traitText m).length).sum + _
  rw [htraits, List.filter_append, List.map_append]
  simp only [List.sum_append, hsum]
  omega

/-- **The text shows the text forms**, if those of the first plan are among those of the
second. -/
theorem forms_eq_of_text {p : Plan} {front back : List Member} {a a' b b' : Bool}
    (ha : a = true → a' = true) (hb : b = true → b' = true)
    (h : { p with members := withForms front back a b }.text =
      { p with members := withForms front back a' b' }.text) : a = a' ∧ b = b' := by
  -- neither form can make up for the other, since the first text has none the second lacks
  have hsums : ∀ x y : Nat, 0 < x → 0 < y →
      ((if a then x else 0) + if b then y else 0) =
        ((if a' then x else 0) + if b' then y else 0) → a = a' ∧ b = b' := by
    clear h
    intro x y hx hy hsum
    cases a <;> cases a' <;> cases b <;> cases b' <;> grind
  have hlength := congrArg String.length h
  rw [length_withForms, length_withForms] at hlength
  exact hsums _ _ (p.length_traitText_pos .display) (p.length_traitText_pos .debug)
    (Nat.add_left_cancel hlength)

/-! ### Members written by hand -/

/-- The members in front of the text forms. -/
def beforeForms (fields : List Field) (t : Target) (p : Policy) : List Member :=
  let storage := Storage.ofFields fields
  [.constructor (if p.validation then Check.of t.hook else .none), .copyConstructor t.readOnly] ++
    (List.range storage.slots.length).map .accessor ++
    equalityMembers storage.traits t.readOnly ++ orderMembers storage.traits p.comparison ++
    mathMembers p.category p.math ++ [.fromStorage, .intoInner] ++ when p.implicit [.intoStorage]

/-- The members behind the text forms. -/
def behindForms (p : Policy) : List Member :=
  formatMembers p.category p.single ++ when (p.single && p.category = .identifier) [.generate]

theorem members_make_forms (fields : List Field) (t : Target) (p : Policy) :
    (make fields t p).members = withForms (beforeForms fields t p) (behindForms p)
      (!t.userDisplay && (Storage.ofFields fields).traits.display) (!t.userDebug) := by
  simp only [make, withForms, beforeForms, behindForms, List.append_assoc]

end Plan

/-- Two structs that differ in their place and in what is written for them by hand. -/
def Target.SameButMembers (t t' : Target) : Prop :=
  { t with
    userDisplay := t'.userDisplay
    userDebug := t'.userDebug
    hook := t'.hook
    location := t'.location } = t'

theorem Target.SameButMembers.name {t t' : Target} (h : t.SameButMembers t') :
    t.name = t'.name := by
  unfold SameButMembers at h
  rw [← h]

theorem Target.SameButMembers.readOnly {t t' : Target} (h : t.SameButMembers t') :
    t.readOnly = t'.readOnly := by
  unfold SameButMembers at h
  rw [← h]

theorem checkOf_injective {h h' : Option Hook} (heq : Check.of h = Check.of h') : h = h' := by
  rcases h with - | ⟨- | e⟩ <;> rcases h' with - | ⟨- | e'⟩ <;> cases heq <;> rfl

namespace Plan

/-- With the same hook, the plans differ in the text forms only. -/
theorem of_eq_withForms (s : Specification) {t t' : Target} (h : t.SameButMembers t')
    (hhook : t.hook = t'.hook) : ∃ (p : Plan) (front back : List Member),
      of s t = { p with
        members := withForms front back
          (!t.userDisplay && (Storage.ofFields s.fields).traits.display) (!t.userDebug) } ∧
      of s t' = { p with
        members := withForms front back
          (!t'.userDisplay && (Storage.ofFields s.fields).traits.display) (!t'.userDebug) } := by
  have hpolicy : Policy.of s.fields s.options t' = Policy.of s.fields s.options t := by
    rw [Policy.of, Policy.of, h.name]
  have hfront : beforeForms s.fields t' (Policy.of s.fields s.options t) =
      beforeForms s.fields t (Policy.of s.fields s.options t) := by
    rw [beforeForms, beforeForms, h.readOnly, hhook]
  refine ⟨of s t, beforeForms s.fields t (.of s.fields s.options t),
    behindForms (.of s.fields s.options t), ?_, ?_⟩
  · rw [← members_make_forms]
    rfl
  · rw [← hfront, ← members_make_forms, of, of, hpolicy, make, make, h.name, hhook]

/-- **When two texts are the same.**  Take a struct with some members written by hand, and
the same struct with others, among which are no text forms but those of the first.  The
texts of the two wrappers are the same exactly if the hooks are, if the one struct has a
text form for debugging where the other has, and likewise for the ordinary text form,
unless the storage has none. -/
theorem text_eq_iff {s : Specification} {t t' : Target} (h : t.SameButMembers t')
    (hdisplay : t'.userDisplay = true → t.userDisplay = true)
    (hdebug : t'.userDebug = true → t.userDebug = true) (hline : (Check.of t.hook).OneLine)
    (hline' : (Check.of t'.hook).OneLine) :
    (of s t).text = (of s t').text ↔
      ((Storage.ofFields s.fields).traits.display = true → t.userDisplay = t'.userDisplay) ∧
        t.userDebug = t'.userDebug ∧ t.hook = t'.hook := by
  constructor
  · intro htext
    have hcheck : (of s t).check = (of s t').check :=
      check_eq_of_text h.name rfl rfl rfl hline hline' htext
    have hhook : t.hook = t'.hook := checkOf_injective hcheck
    obtain ⟨p, front, back, heq, heq'⟩ := of_eq_withForms s h hhook
    have hnot : ∀ b b' : Bool, (b' = true → b = true) → (!b) = true → (!b') = true := by decide
    have hmore : (!t.userDisplay && (Storage.ofFields s.fields).traits.display) = true →
        (!t'.userDisplay && (Storage.ofFields s.fields).traits.display) = true := by
      rw [Bool.and_eq_true, Bool.and_eq_true]
      exact And.imp_left (hnot _ _ hdisplay)
    rw [heq, heq'] at htext
    obtain ⟨ha, hb⟩ := forms_eq_of_text hmore (hnot _ _ hdebug) htext
    refine ⟨fun hshown => ?_, Bool.not_inj hb, hhook⟩
    rw [hshown, Bool.and_true, Bool.and_true] at ha
    exact Bool.not_inj ha
  · rintro ⟨hshown, hd, hhook⟩
    obtain ⟨p, front, back, heq, heq'⟩ := of_eq_withForms s h hhook
    have hforms : (!t.userDisplay && (Storage.ofFields s.fields).traits.display) =
        (!t'.userDisplay && (Storage.ofFields s.fields).traits.display) := by
      cases hs : (Storage.ofFields s.fields).traits.display with
      | false => rw [Bool.and_false, Bool.and_false]
      | true => rw [hshown hs]
    rw [heq, heq', hforms, hd]

end Plan
end Newtype
