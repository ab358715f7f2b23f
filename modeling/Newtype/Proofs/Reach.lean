import Newtype.Proofs.Difference
import Newtype.Proofs.Scoping
import Newtype.Proofs.Supertraits

/-!
# What a member written by hand can reach

The file of a wrapper is written from its arguments and from the members that its author has
written next to it.  Of the other wrappers among its arguments it shows the traits, and all that
the members written for those tell in their traits is whether they have an ordinary text form.
So a change of implementation blocks can reach the file of a wrapper in two ways only: through
its own members, or through the text form of a wrapper that its arguments lead to, over any
number of steps.

* `Plan.traits_eq` — the traits of a wrapper and the members written by hand.
* `Generator.membersNamed`, `Generator.Reaches` — the members for a wrapper, and the wrappers
  that its arguments lead to.
* `Lockstep.lookup_learn`, `Lockstep.lookup_foldl_learn` — **what is known about the wrappers
  that can be reached, after one turn and after all.**
* `Lockstep.fileOf_eq` — **what the file of a wrapper follows from.**
* `members_scoped` — **the members of a struct, and which files a revision leaves alone.**
* `not_scoped_shown` — a block in another source that reaches a file.
-/

namespace Newtype

/-! ### Traits and members -/

theorem sameButMembers_addMembers {t t' : Target} (h : t.Alike t') (ms ms' : List UserMember) :
    (t.addMembers ms).SameButMembers (t'.addMembers ms') := by
  rw [addMembers_eq, addMembers_eq, ← h]
  rfl

/-- The author of a struct has written its ordinary text form. -/
theorem userDisplay_addMembers {t t' : Target} (h : t.Alike t') {ms ms' : List UserMember}
    (hms : .display ∈ ms ↔ .display ∈ ms') :
    (t.addMembers ms).userDisplay = (t'.addMembers ms').userDisplay := by
  have hcontains : ms.contains .display = ms'.contains .display := by
    rw [Bool.eq_iff_iff, List.contains_iff_mem, List.contains_iff_mem]
    exact hms
  rw [addMembers_eq, addMembers_eq, ← h]
  exact congrArg (t.userDisplay || ·) hcontains

namespace Plan

/-- **The traits of a wrapper** show of the members written by hand only whether there is an
ordinary text form. -/
theorem traits_eq (s : Specification) {t t' : Target} (h : t.SameButMembers t')
    (hdisplay : t.userDisplay = t'.userDisplay) : (of s t).traits t = (of s t').traits t' := by
  have hpolicy : Policy.of s.fields s.options t = Policy.of s.fields s.options t' := by
    rw [Policy.of, Policy.of, h.name]
  have hflag : ∀ m : Member, (m ∈ (of s t).members ↔ m ∈ (of s t').members) →
      (of s t).members.contains m = (of s t').members.contains m := by
    intro m hm
    rw [Bool.eq_iff_iff, List.contains_iff_mem, List.contains_iff_mem]
    exact hm
  -- each trait shows a member or a flag; of these the text form alone depends on what is written
  have heq := hflag .totalEquality (totalEquality_mem_iff.trans totalEquality_mem_iff.symm)
  have hhash := hflag .hash (hash_mem_iff.trans hash_mem_iff.symm)
  have hord := hflag .totalOrder (by rw [of, of, totalOrder_mem_iff, totalOrder_mem_iff, hpolicy])
  have hshown := hflag .display (by rw [of, of, display_mem_iff, display_mem_iff, hdisplay])
  have hrelational : ((of s t).traits t).partialOrd = ((of s t').traits t').partialOrd := by
    rw [Bool.eq_iff_iff, partialOrd_traits_iff, partialOrd_traits_iff]
    refine exists_congr fun total => ?_
    rw [of, of, relationalOperators_mem_iff, relationalOperators_mem_iff, hpolicy]
  simp only [traits] at hrelational
  rw [traits, traits, heq, hhash, hord, hshown, hrelational, hdisplay, h.readOnly]

end Plan

namespace Generator

/-! ### Wrappers that are reached -/

/-- The members that are written for the wrapper with a name. -/
def membersNamed (g : Generator) (w : String) : List UserMember :=
  (g.accepted.filter (·.target.name == w)).flatMap g.membersOf

theorem membersNamed_eq {g : Generator} {p : Pending} (hp : p ∈ g.accepted) :
    g.membersNamed p.target.name = g.membersOf p := by
  obtain ⟨l, r, hsplit⟩ := List.append_of_mem hp
  have hn := g.nodup_names
  rw [names, namesOf, hsplit, List.map_append, List.map_cons, List.nodup_append,
    List.nodup_cons] at hn
  -- no other declaration has the name
  have hl : l.filter (·.target.name == p.target.name) = [] := by
    refine List.filter_eq_nil_iff.mpr fun q hq => ?_
    rw [beq_iff_eq]
    exact hn.2.2 _ (List.mem_map_of_mem hq) _ List.mem_cons_self
  have hr : r.filter (·.target.name == p.target.name) = [] := by
    refine List.filter_eq_nil_iff.mpr fun q hq heq => hn.2.1.1 ?_
    rw [← beq_iff_eq.mp heq]
    exact List.mem_map_of_mem hq
  rw [membersNamed, hsplit, List.filter_append, hl, List.nil_append,
    List.filter_cons_of_pos (by simp), hr, List.flatMap_singleton]

/-- The arguments of a wrapper lead to another one, over any number of steps. -/
def Reaches (g : Generator) (w v : String) : Prop := Relation.ReflTransGen (Uses g.accepted) w v

/-- Types lead from one wrapper that is reached to the next. -/
theorem Reaches.of_type {g : Generator} {w : String} {p : Pending} (hp : p ∈ g.accepted)
    (hw : g.Reaches w p.target.name) {t : TypeExpr} (ht : t ∈ p.types) {v : String}
    (hv : batchWrapper? p.scope g.names t = some v) : g.Reaches w v := by
  by_cases hself : v = p.target.name
  · rwa [hself]
  · exact hw.tail ⟨p, hp, rfl, hself, t, ht, hv⟩

/-- Nothing has a file without a declaration. -/
theorem fileOf_eq_none {g : Generator} {w : String} (h : w ∉ g.names) : g.fileOf w = none := by
  refine List.find?_eq_none.mpr fun a ha hfile => h ?_
  obtain ⟨l, p, r, s, hturn, rfl, -⟩ := exists_turn_of_mem_generate ha (beq_iff_eq.mp hfile)
  exact List.mem_map_of_mem (mem_accepted_of_turn hturn)

namespace Lockstep

variable {keep : String → Prop} {g g' : Generator} {w : String}
  {known known' : List (String × TraitSet)}

/-- Matched declarations are read alike if the same is known about the wrappers that are
reached. -/
theorem shown_of_reached (h : Lockstep keep g g') {p p' : Pending} (hp : Matched keep g g' p p')
    (hacc : p ∈ g.accepted) (hw : g.Reaches w p.target.name)
    (hknown : ∀ v, g.Reaches w v → known.lookup v = known'.lookup v) :
    shownOf (g.specification g.names known p) = shownOf (g'.specification g'.names known' p') := by
  have hsame : g.specification g.names known p = g.specification g.names known' p := by
    rw [specification_eq_specIn, specification_eq_specIn]
    exact specIn_congr (fun _ _ => rfl) fun t ht v hv => hknown v (hw.of_type hacc ht hv)
  rw [hsame]
  exact h.shown_specification hp known'

variable (hdisplay : ∀ v, g.Reaches w v →
  (.display ∈ g.membersNamed v ↔ .display ∈ g'.membersNamed v))

include hdisplay

/-- **A turn keeps what is known about the wrappers that are reached**, if they have ordinary
text forms of their own in both batches or in none. -/
theorem lookup_learn (h : Lockstep keep g g') {p p' : Pending} (hp : Matched keep g g' p p')
    (hacc : p ∈ g.accepted) (hacc' : p' ∈ g'.accepted)
    (hknown : ∀ v, g.Reaches w v → known.lookup v = known'.lookup v) :
    ∀ v, g.Reaches w v →
      (g.learn g.names known p).lookup v = (g'.learn g'.names known' p').lookup v := by
  intro v hv
  have hname := hp.alike.name
  -- a turn adds an entry for its own wrapper and leaves the others alone
  by_cases hself : v = p.target.name
  · subst hself
    have hforms := hdisplay _ hv
    rw [membersNamed_eq hacc, hname, membersNamed_eq hacc'] at hforms
    have htarget := hp.alike.target
    have htraits : traitsOf (g.fullTarget p) (g.specification g.names known p) =
        traitsOf (g'.fullTarget p') (g'.specification g'.names known' p') := by
      rcases shownOf_cases (h.shown_of_reached hp hacc hv hknown) with
        ⟨m, m', hs, hs'⟩ | ⟨s, s', hs, hs', heq⟩
      · rw [hs, hs']
        rfl
      · rw [hs, hs', traitsOf, traitsOf, ← plan_of_shown heq (.refl _)]
        exact congrArg some (Plan.traits_eq s (sameButMembers_addMembers htarget _ _)
          (userDisplay_addMembers htarget hforms))
    rw [lookup_learn_self, htraits, hknown _ hv, hname, lookup_learn_self]
  · rw [lookup_learn_of_ne hself, lookup_learn_of_ne (hname ▸ hself)]
    exact hknown v hv

/-- **So do all turns.**  The induction is on the turns of both batches together. -/
theorem lookup_foldl_learn (h : Lockstep keep g g') {ps ps' : List Pending}
    (hps : List.Forall₂ (Matched keep g g') ps ps') (hacc : ∀ p ∈ ps, p ∈ g.accepted)
    (hacc' : ∀ p' ∈ ps', p' ∈ g'.accepted)
    (hknown : ∀ v, g.Reaches w v → known.lookup v = known'.lookup v) :
    ∀ v, g.Reaches w v → (ps.foldl (g.learn g.names) known).lookup v =
      (ps'.foldl (g'.learn g'.names) known').lookup v := by
  induction hps generalizing known known' with
  | nil => exact hknown
  | cons hp _ ih =>
    rw [List.foldl_cons, List.foldl_cons]
    refine ih (fun q hq => hacc q (List.mem_cons_of_mem _ hq))
      (fun q hq => hacc' q (List.mem_cons_of_mem _ hq)) ?_
    exact h.lookup_learn hdisplay hp (hacc _ List.mem_cons_self) (hacc' _ List.mem_cons_self)
      hknown

/-- **What the file of a wrapper follows from**: its own members, and whether the wrappers that
its arguments lead to have ordinary text forms of their own. -/
theorem fileOf_eq (h : Lockstep keep g g') (hmembers : g.membersNamed w = g'.membersNamed w) :
    g.fileOf w = g'.fileOf w := by
  by_cases hw : w ∈ g.names
  · obtain ⟨p, hacc, rfl⟩ := List.mem_map.mp hw
    obtain ⟨p', hacc', (hp : Matched keep g g' p p')⟩ :=
      exists_mem_of_forall₂ (List.Forall₂.flip h.accepted) hacc
    have hname := hp.alike.name
    rw [membersNamed_eq hacc, hname, membersNamed_eq hacc'] at hmembers
    have hwhole : Matched (fun _ => True) g g' p p' := ⟨hp.declaration, fun _ => hmembers⟩
    -- what is known at the turn of the wrapper is the same about all that it can see
    have hbefore : ∀ (g₀ : Generator) (v : String), ∀ q ∈ g₀.before v, q ∈ g₀.accepted := by
      intro g₀ v q hq
      exact (ordered_perm g₀.accepted).mem_iff.mp ((List.takeWhile_sublist _).subset hq)
    have hknown := h.lookup_foldl_learn hdisplay (h.before p.target.name) (hbefore g _)
      (hbefore g' _) fun v _ => (rfl : List.lookup v [] = List.lookup v [])
    have hread : shownOf (g.reading p) = shownOf (g'.reading p') := by
      rw [reading, reading, ← hname]
      exact h.shown_of_reached hp hacc .refl hknown
    rw [fileOf_eq_turn hacc, hname, fileOf_eq_turn hacc']
    exact hwhole.file? trivial h.header hread
  · rw [fileOf_eq_none hw, fileOf_eq_none (h.names ▸ hw)]

end Lockstep

/-! ### Sources and modules -/

/-- **Members are scoped to source and module.**  Whatever a generator has been given, an
annotated struct in one of its sources gets the members of the implementation blocks for
it, in order: those found in the same source, with the same inline modules around them
and with the bare name of the struct.  Such a struct has text forms of its own exactly if
there is a block for them or, for debugging, if it derives them, and the last hook
counts.  The file that a run gives it is written from these.

Hence no file changes when sources are revised elsewhere, that is, when sources without
annotated structs are added or left out, or when implementation blocks are added, removed
or changed such that those for the annotated structs still give the same members.  Where they
give others, this still holds for the file of every wrapper that keeps its own members, unless a
wrapper that its arguments lead to gets an ordinary text form of its own or loses it. -/
theorem members_scoped (registry : Registry) (header : Option String) :
    (∀ (l r : List Addition) (text : String) (file : Option String) (items : List Item),
      readFile text = some items → ∀ d ∈ (extract items file).declarations,
        .source (filled registry header l).sources d ∈
            (filled registry header (l ++ .source text file :: r)).pending ∧
          (filled registry header (l ++ .source text file :: r)).fullTarget
              (.source (filled registry header l).sources d) =
            d.withMembers (userMembers items d.scope.module d.target.name) ∧
          (.source (filled registry header l).sources d ∈
              (filled registry header (l ++ .source text file :: r)).accepted →
            (filled registry header (l ++ .source text file :: r)).fileOf d.target.name =
              ((filled registry header (l ++ .source text file :: r)).reading
                (.source (filled registry header l).sources d)).toOption.map fun s =>
                  (filled registry header (l ++ .source text file :: r)).artifact
                    (Plan.of s
                      (d.withMembers (userMembers items d.scope.module d.target.name))))) ∧
      (∀ as bs : List Addition, Revised EditedElsewhere as bs →
        (filled registry header as).generate.1 = (filled registry header bs).generate.1) ∧
      ∀ as bs : List Addition, Revised (fun _ => Edited) as bs → ∀ w,
        (filled registry header as).membersNamed w = (filled registry header bs).membersNamed w →
        (∀ v, (filled registry header as).Reaches w v →
          (.display ∈ (filled registry header as).membersNamed v ↔
            .display ∈ (filled registry header bs).membersNamed v)) →
        (filled registry header as).fileOf w = (filled registry header bs).fileOf w := by
  refine ⟨?_, ?_, ?_⟩
  · intro l r text file items hread d hd
    obtain ⟨hmem, hmembers⟩ := membersOf_addItems_addAll (numbered_filled registry header l) r hd
    rw [filled_append_source registry header l r file hread]
    have htarget : (((filled registry header l).addItems items file).addAll r).fullTarget
        (.source (filled registry header l).sources d) =
          d.withMembers (userMembers items d.scope.module d.target.name) := by
      rw [fullTarget, hmembers]
      exact addMembers_of_mem_extract hd _
    refine ⟨hmem, htarget, fun hacc => ?_⟩
    rw [← htarget]
    exact (fileOf_eq_turn hacc).trans (file?_turn _ _)
  · intro as bs h
    exact (h.lockstep keeps_elsewhere registry header).generate_files
  · intro as bs h w hmembers hdisplay
    exact (h.lockstep keeps_edited registry header).fileOf_eq hdisplay hmembers

/-- A wrapper with a text form of its own, behind a module. -/
def ageText : String :=
  "mod m \x7b\x7d #[wrapper_value_object(u8)] struct Age; impl Display for Age \x7b\x7d"

/-- The same with a block in the module. -/
def ageTextEdited : String :=
  "mod m \x7b impl Debug for Age \x7b\x7d \x7d #[wrapper_value_object(u8)] struct Age; " ++
    "impl Display for Age \x7b\x7d"

/-- A block in another source. -/
def strayText : String := "impl Debug for Age \x7b\x7d"

/-- The two texts differ by a block in the module only, the struct has the same members in
both, and the block in the other source comes without a struct. -/
def ageTextsFit : Bool :=
  match readFile ageText, readFile ageTextEdited, readFile strayText with
  | some [.module w [], .struct s, .impl head methods],
    some [.module w' [.impl inner ms], .struct s', .impl head' methods'], some stray =>
      let items := [.module w [], .struct s, .impl head methods]
      let items' := [.module w' [.impl inner ms], .struct s', .impl head' methods']
      decide (w = w' ∧ s.Moved s' ∧ (extract stray none).declarations.length = 0 ∧
        (∀ d ∈ (extract items none).declarations,
          userMembers items d.scope.module d.target.name =
            userMembers items' d.scope.module d.target.name) ∧
        (extract items' none).declarations.length = 1 ∧
        ∀ d ∈ (extract items' none).declarations,
          userMembers items' d.scope.module d.target.name = [.display])
  | _, _, _ => false

/-- A block in another module and one in another source show nowhere: the struct has the
text form written next to it, and its file stays. -/
theorem members_scoped_age : ∃ items d, readFile ageTextEdited = some items ∧
    d ∈ (extract items none).declarations ∧
    (filled .builtin none [.source strayText none, .source ageTextEdited none]).fullTarget
      (.source 1 d) = d.withMembers [.display] ∧
    (filled .builtin none [.source ageText none]).generate.1 =
      (filled .builtin none [.source strayText none, .source ageTextEdited none]).generate.1 := by
  have hcheck : ageTextsFit = true := by decide +kernel
  unfold ageTextsFit at hcheck
  split at hcheck
  · next w s head methods w' inner ms s' head' methods' stray hread hread' hstray =>
    rw [decide_eq_true_iff] at hcheck
    obtain ⟨rfl, hs, hbare, hkept, hone, hmembers⟩ := hcheck
    have hrevised : Revised EditedElsewhere [.source ageText none]
        [.source strayText none, .source ageTextEdited none] := by
      refine .added ?_ (.edited hread hread' ⟨?_, fun d hd _ => hkept d hd⟩ .nil)
      · intro items hitems
        cases hstray.symm.trans hitems
        exact List.length_eq_zero_iff.mp hbare
      · exact .module w (.added inner ms .nil)
          (.struct hs (.removed head methods (.added head' methods' .nil)))
    have hsources : (filled .builtin none [.source strayText none]).sources = 1 := by
      rw [filled, addAll, List.foldl_cons, List.foldl_nil, add, addSource?, hstray]
      rfl
    obtain ⟨d, hd⟩ := List.length_eq_one_iff.mp hone
    have hmem : d ∈ (extract _ none).declarations := hd ▸ List.mem_singleton_self d
    have hscoped := members_scoped .builtin none
    refine ⟨_, d, hread', hmem, ?_, hscoped.2.1 _ _ hrevised⟩
    have htarget := (hscoped.1 [.source strayText none] [] _ none _ hread' d hmem).2.1
    rwa [hsources, hmembers d hmem] at htarget
  · cases hcheck

/-- A type that is known to have no text form. -/
def blobs : Registry :=
  Registry.builtin.register "Blob" (.named { TraitSet.assumed with display := false })

/-- A wrapper of it. -/
def innerText : String := "#[wrapper_value_object(Blob)] struct V;"

/-- The same wrapper, for which its author has written a text form. -/
def innerTextShown : String :=
  "#[wrapper_value_object(Blob)] struct V; impl Display for V \x7b\x7d"

/-- A wrapper of the wrapper. -/
def outerText : String := "#[wrapper_value_object(V)] struct W;"

/-- The two texts differ by the block only. -/
def innerTextsFit : Bool :=
  match readFile innerText, readFile innerTextShown with
  | some [.struct s], some [.struct s', .impl _ _] => decide (s.Moved s')
  | _, _ => false

/-- The batch with a text for the inner wrapper, and the outer one in another source. -/
def nestedBatch (inner : String) : List Addition := [.source inner none, .source outerText none]

/-- The file of the outer wrapper is another one. -/
def outerChanges : Bool :=
  (filled blobs none (nestedBatch innerTextShown)).turnFiles.any fun a =>
    a.file == artifactName "W" && !(filled blobs none (nestedBatch innerText)).turnFiles.contains a

/-- **A block can reach a file of another source.**  The outer wrapper gets a text form because
the inner one, in its own source, has been given one. -/
theorem not_scoped_shown :
    Revised (fun _ => Edited) (nestedBatch innerText) (nestedBatch innerTextShown) ∧
      ∃ a ∈ (filled blobs none (nestedBatch innerTextShown)).generate.1,
        a.file = artifactName "W" ∧ a ∉ (filled blobs none (nestedBatch innerText)).generate.1 := by
  constructor
  · have hfit : innerTextsFit = true := by decide +kernel
    unfold innerTextsFit at hfit
    split at hfit
    · next s s' head methods hread hread' =>
      have hedited : Edited [.struct s] [.struct s', .impl head methods] :=
        .struct (decide_eq_true_iff.mp hfit) (.added head methods .nil)
      exact .edited hread hread' hedited (.same _ .nil)
    · cases hfit
  · -- the files are sorted in the end, which cannot be evaluated; their turns can
    have hchanges : outerChanges = true := by decide +kernel
    obtain ⟨a, ha, hnew⟩ := List.any_eq_true.mp hchanges
    rw [Bool.and_eq_true, beq_iff_eq, Bool.not_eq_true', List.contains_eq_mem,
      decide_eq_false_iff_not] at hnew
    refine ⟨a, mem_generate_iff_turn.mpr (.inl ha), hnew.1, fun hold => ?_⟩
    rcases mem_generate_iff_turn.mp hold with hturn | rfl
    · exact hnew.2 hturn
    · exact artifactName_ne_sharedName "W" hnew.1.symm

end Generator
end Newtype
