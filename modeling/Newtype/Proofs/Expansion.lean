import Newtype.Expansion
import Newtype.Proofs.Run

/-!
# Expansion and generation agree

A struct with the marker is read twice: where it stands, to give it its storage, and in
a batch, to write the file with its members.  The first reading knows the built-in types
only, the second one also the imports of the module and the other wrappers of the batch.
This changes the kinds of the fields and nothing else, so both readings succeed on the
same structs, with the same storage, and blame the arguments for the same reason.

* `AtModuleLevel`, `Generator.Holds` — a batch with a source in which a struct stands at
  module level.
* `StructItem.Annotated` — a struct and the same struct with the marker.
* `specification_eq_ofTokens` — the batch reads the tokens in the marker.
* `expand_iff_generate` — **the two readings agree.**
-/

namespace Newtype

/-! ### Structs in a batch -/

/-- Among some items, or in an inline module among them, there is a struct with a
scope around it. -/
inductive AtModuleLevel : Scope → List Item → Scope → StructItem → Prop
  | here {scope : Scope} {items : List Item} {s : StructItem} :
    .struct s ∈ items → AtModuleLevel scope items scope s
  | inside {scope scope' : Scope} {items inner : List Item} {w : String} {s : StructItem} :
    .module w inner ∈ items →
      AtModuleLevel (.ofItems (scope.module ++ [w]) inner) inner scope' s →
        AtModuleLevel scope items scope' s

theorem mem_foundAll {file : Option String} {scope : Scope} {nested : Bool} {x : Found}
    {item : Item} (hx : x ∈ item.found file scope nested) :
    ∀ {items : List Item}, item ∈ items → x ∈ Item.foundAll file scope nested items := by
  intro items
  induction items with
  | nil => intro h; cases h
  | cons i is ih =>
    intro h
    rw [Item.foundAll, List.mem_append]
    rcases List.mem_cons.mp h with rfl | h
    · exact Or.inl hx
    · exact Or.inr (ih h)

/-- A struct at module level is found there. -/
theorem AtModuleLevel.mem_foundAll {scope scope' : Scope} {items : List Item} {s : StructItem}
    (h : AtModuleLevel scope items scope' s) {file : Option String} {d : Declaration}
    (hd : s.declaration? file scope' false = some d) :
    .declaration d ∈ Item.foundAll file scope false items := by
  induction h with
  | here hs => exact Newtype.mem_foundAll (by simp [Item.found, hd]) hs
  | inside hm _ ih => exact Newtype.mem_foundAll (by simpa [Item.found] using ih hd) hm

theorem AtModuleLevel.mem_extract {scope : Scope} {items : List Item} {s : StructItem}
    (h : AtModuleLevel (.ofItems [] items) items scope s) {file : Option String}
    {d : Declaration} (hd : s.declaration? file scope false = some d) :
    d ∈ (extract items file).declarations :=
  List.mem_filterMap.mpr ⟨_, h.mem_foundAll hd, rfl⟩

namespace Generator

/-- The declarations of a file wait in the generator, as those of source text `i`. -/
def Holds (g : Generator) (i : Nat) (items : List Item) (file : Option String) : Prop :=
  ∀ d ∈ (extract items file).declarations, .source i d ∈ g.pending

theorem holds_addItems (g : Generator) (items : List Item) (file : Option String) :
    (g.addItems items file).Holds g.sources items file := by
  intro d hd
  exact List.mem_append_right _ (List.mem_map_of_mem hd)

theorem Holds.addItems {g : Generator} {i : Nat} {items : List Item} {file : Option String}
    (h : g.Holds i items file) (items' : List Item) (file' : Option String) :
    (g.addItems items' file').Holds i items file :=
  fun d hd => List.mem_append_left _ (h d hd)

theorem Holds.addResolved {g : Generator} {i : Nat} {items : List Item} {file : Option String}
    (h : g.Holds i items file) (t : Target) (s : Specification) :
    (g.addResolved t s).Holds i items file :=
  fun d hd => List.mem_append_left _ (h d hd)

/-- A declaration in order is accepted if no other with its name is. -/
theorem mem_accepted {g : Generator} {p : Pending} (hp : p ∈ g.pending)
    (hpass : p.passes = true)
    (hname : ∀ q ∈ g.accepted, q.target.name = p.target.name → q = p) : p ∈ g.accepted := by
  obtain ⟨q, hq, hqp⟩ := exists_mem_screenFrom hpass hp List.not_mem_nil
  exact hname q hq hqp ▸ hq

end Generator

/-! ### The marker and its tokens -/

/-- An attribute with some tokens in brackets, or with nothing for no tokens. -/
def Attribute.Carries (a : Attribute) (args : List Tree) : Prop :=
  a.form = .list args ∨ a.form = .bare ∧ args = []

/-- The struct `s'` is the struct `s` with one more attribute, which is its marker and
carries the arguments. -/
def StructItem.Annotated (scope : Scope) (args : List Tree) (s s' : StructItem) : Prop :=
  ∃ front a back, s.attributes = front ++ back ∧
    s' = { s with attributes := front ++ a :: back } ∧
    s'.attributes.find? scope.isMarker = some a ∧ a.Carries args

namespace Specification

/-- Reading tokens is reading the arguments in a marker that carries them. -/
theorem ofTokens_eq_bind {a : Attribute} {args : List Tree} (h : a.Carries args)
    (resolve : TypeExpr → Kind) :
    ofTokens resolve args = markerArguments a >>= ofArguments resolve := by
  rcases h with h | ⟨h, rfl⟩
  · simp only [ofTokens, markerArguments, h]
    cases readArguments args <;> rfl
  · -- no tokens are no arguments
    rw [markerArguments, h]
    rfl

/-- **Only the kinds of the fields depend on what types mean.** -/
theorem ofTokens_written (r₁ r₂ : TypeExpr → Kind) (args : List Tree) :
    written <$> ofTokens r₁ args = written <$> ofTokens r₂ args := by
  unfold ofTokens
  cases readArguments args with
  | error f => rfl
  | ok as => exact ofArguments_written r₁ r₂ as

end Specification

/-- The same struct has the same name, and is in order, where it stands and in a batch. -/
theorem StructItem.Annotated.target_eq {scope : Scope} {args : List Tree} {s s' : StructItem}
    (h : s.Annotated scope args s') {file : Option String} {d : Declaration}
    (hd : s'.declaration? file scope false = some d) :
    d.target.name = s.name ∧ d.target.check = (Target.ofStruct s false none).check := by
  obtain ⟨front, a, back, -, rfl, hfind, -⟩ := h
  rw [declaration?, hfind] at hd
  cases hd
  exact ⟨rfl, rfl⟩

/-- **The batch reads the tokens in the marker.** -/
theorem StructItem.Annotated.specification_eq_ofTokens {scope : Scope} {args : List Tree}
    {s s' : StructItem} (h : s.Annotated scope args s') {file : Option String}
    {d : Declaration} (hd : s'.declaration? file scope false = some d) (g : Generator)
    (i : Nat) (names : List String) (known : List (String × TraitSet)) :
    g.specification names known (.source i d) =
      Specification.ofTokens (batchKind g.registry scope names known) args := by
  obtain ⟨front, a, back, -, rfl, hfind, hcarry⟩ := h
  rw [declaration?, hfind] at hd
  cases hd
  exact (Specification.ofTokens_eq_bind hcarry _).symm

/-! ### The parts of an expansion -/

/-- The storage for some types: a single one, or a tuple of all. -/
def storageOf : List TypeExpr → List Tree
  | [t] => t.spelling
  | ts => [groupToken .paren ([markToken ','].intercalate (ts.map (·.spelling)))]

/-- The struct with a field for its storage. -/
def StructItem.storing (s : StructItem) (storage : List Tree) : List Tree :=
  s.attributes.flatMap (·.spelling) ++ s.visibility ++
    [wordToken "struct", wordToken s.name,
      groupToken .brace ([wordToken "value", markToken ':'] ++ storage ++ [markToken ','])]

/-- The inclusion of a generated file. -/
def inclusion (file : String) : List Tree :=
  callTokens "include"
    (callTokens "concat"
      (callTokens "env" [textToken "OUT_DIR"] ++
        [markToken ',', textToken "/", markToken ',', textToken file])) ++ [markToken ';']

theorem storageTokens_eq (fields : List Field) :
    storageTokens fields = storageOf (fields.map (·.type)) := by
  match fields with
  | [] => rfl
  | [f] => rfl
  | f :: f' :: fs => simp [storageTokens, storageOf, Function.comp_def]

theorem expansion_eq (s : StructItem) (fields : List Field) : expansion s fields =
    s.storing (storageOf (fields.map (·.type))) ++ inclusion (artifactName s.name) := by
  rw [← storageTokens_eq]
  simp [expansion, StructItem.storing, inclusion]

/-- A struct in order with arguments that can be read is expanded. -/
theorem expandStruct_eq_ok_iff {args : List Tree} {s : StructItem} {ts : List Tree} :
    expandStruct args s = .ok ts ↔ (Target.ofStruct s false none).check = none ∧
      ∃ spec, Specification.ofTokens Registry.builtin.resolve args = .ok spec ∧
        ts = expansion s spec.fields := by
  unfold expandStruct
  cases (Target.ofStruct s false none).check with
  | some r => simp
  | none =>
    cases Specification.ofTokens Registry.builtin.resolve args with
    | error m => simp
    | ok spec => simp [eq_comm]

/-- The arguments are blamed if the struct is in order. -/
theorem expandStruct_eq_malformed_iff {args : List Tree} {s : StructItem} {m : Malformed} :
    expandStruct args s = .error (.malformed m) ↔
      (Target.ofStruct s false none).check = none ∧
        Specification.ofTokens Registry.builtin.resolve args = .error m := by
  unfold expandStruct
  cases (Target.ofStruct s false none).check with
  | some r => simp
  | none => cases Specification.ofTokens Registry.builtin.resolve args <;> simp

theorem expand_eq_expandStruct {item : List Tree} {s : StructItem} (h : readStruct item = .ok s)
    (args : List Tree) : expand args item = expandStruct args s := by
  rw [expand, h]

/-! ### A struct and its declaration -/

/-- The types of the fields do not depend on what types mean. -/
theorem types_eq_of_written_eq {s₁ s₂ : Specification} (h : s₁.written = s₂.written) :
    s₁.fields.map (·.type) = s₂.fields.map (·.type) := by
  have hmap := congrArg (fun w => w.1.map Prod.snd) h
  simpa [Specification.written, Field.written, Function.comp_def] using hmap

namespace Generator

/-- A source of the batch has the struct `s` at module level, annotated with the
arguments, and `d` is the declaration found there.  No other wrapper has its name. -/
structure Declares (g : Generator) (args : List Tree) (s : StructItem) (i : Nat)
    (d : Declaration) : Prop where
  source : ∃ items file scope s', g.Holds i items file ∧
    AtModuleLevel (.ofItems [] items) items scope s' ∧ s.Annotated scope args s' ∧
    s'.declaration? file scope false = some d
  unique : ∀ q ∈ g.accepted, q.target.name = s.name → q = .source i d

namespace Declares

variable {g : Generator} {args : List Tree} {s : StructItem} {i : Nat} {d : Declaration}

theorem name_eq (h : g.Declares args s i d) : d.target.name = s.name := by
  obtain ⟨items, file, scope, s', -, -, hs, hd⟩ := h.source
  exact (hs.target_eq hd).1

/-- The declaration is accepted if and only if its struct is in order. -/
theorem mem_accepted_iff (h : g.Declares args s i d) :
    .source i d ∈ g.accepted ↔ (Target.ofStruct s false none).check = none := by
  obtain ⟨items, file, scope, s', hheld, hlevel, hs, hd⟩ := h.source
  obtain ⟨hname, hcheck⟩ := hs.target_eq hd
  have hpass : (Pending.source i d).passes = true ↔
      (Target.ofStruct s false none).check = none := by
    rw [Pending.passes, Option.isNone_iff_eq_none, Pending.target, hcheck]
  rw [← hpass]
  constructor
  · intro hacc
    exact (of_mem_screenFrom hacc).2.1
  · intro hpass
    refine mem_accepted (hheld d (hlevel.mem_extract hd)) hpass fun q hq hqd => ?_
    exact h.unique q hq (hqd.trans hname)

/-- The batch reads the arguments as they are read where the struct stands, but for the
kinds of the fields. -/
theorem specification_alike (h : g.Declares args s i d) (known : List (String × TraitSet)) :
    Specification.written <$> g.specification g.names known (.source i d) =
      Specification.written <$> Specification.ofTokens Registry.builtin.resolve args := by
  obtain ⟨items, file, scope, s', -, -, hs, hd⟩ := h.source
  rw [hs.specification_eq_ofTokens hd]
  exact Specification.ofTokens_written _ _ args

/-- The file of the struct comes from the turn of its declaration. -/
theorem mem_generate_iff (h : g.Declares args s i d) {a : Artifact} :
    a ∈ g.generate.1 ∧ a.file = artifactName s.name ↔
      ∃ l r spec, ordered g.accepted = l ++ .source i d :: r ∧
        g.specification g.names (g.knownAfter l) (.source i d) = .ok spec ∧
        a = g.artifact (g.planOf (.source i d) spec) := by
  constructor
  · rintro ⟨ha, hfile⟩
    obtain ⟨l, p, r, spec, hturn, hp, hspec, rfl⟩ := exists_turn_of_mem_generate ha hfile
    cases h.unique p (mem_accepted_of_turn hturn) hp
    exact ⟨l, r, spec, hturn, hspec, rfl⟩
  · rintro ⟨l, r, spec, hturn, hspec, rfl⟩
    have hmem := (mem_generate_of_ok hturn hspec).mpr rfl
    rwa [show (Pending.source i d).target.name = s.name from h.name_eq] at hmem

/-- The arguments are blamed at the turn of the declaration. -/
theorem malformed_iff (h : g.Declares args s i d) {m : Malformed} :
    .reject (g.fullTarget (.source i d), .malformed m) ∈ g.events ↔
      ∃ l r, ordered g.accepted = l ++ .source i d :: r ∧
        g.specification g.names (g.knownAfter l) (.source i d) = .error m := by
  rw [malformed_mem_events]
  constructor
  · rintro ⟨l, p, r, hturn, hspec, ht⟩
    have hp : p.target.name = s.name := by
      have hname := congrArg Target.name ht
      rw [fullTarget_name, fullTarget_name] at hname
      exact hname.symm.trans h.name_eq
    cases h.unique p (mem_accepted_of_turn hturn) hp
    exact ⟨l, r, hturn, hspec⟩
  · rintro ⟨l, r, hturn, hspec⟩
    exact ⟨l, _, r, hturn, hspec, rfl⟩

end Declares
end Generator

/-! ### Agreement -/

/-- **Expansion and generation agree.**  Take a struct with its arguments and a batch that
declares it.  The struct can be expanded if and only if the batch has a file for it.  The
storage is then made of the types of the fields behind that file, and that file is
included.  The arguments are blamed in both places or in none, for the same reason: what
types mean changes nothing about a list of arguments but the kinds of the fields. -/
theorem expand_iff_generate {g : Generator} {args item : List Tree} {s : StructItem} {i : Nat}
    {d : Declaration} (hread : readStruct item = .ok s) (h : g.Declares args s i d) :
    ((∃ ts, expand args item = .ok ts) ↔ ∃ a ∈ g.generate.1, a.file = artifactName s.name) ∧
    (∀ ts a, expand args item = .ok ts → a ∈ g.generate.1 → a.file = artifactName s.name →
      ∃ known spec, g.specification g.names known (.source i d) = .ok spec ∧
        .produce (g.planOf (.source i d) spec) ∈ g.events ∧
        a = g.artifact (g.planOf (.source i d) spec) ∧
        ts = s.storing (storageOf (spec.fields.map (·.type))) ++ inclusion a.file) ∧
    (∀ m, expand args item = .error (.malformed m) ↔
      .reject (g.fullTarget (.source i d), .malformed m) ∈ g.events) ∧
    ∀ (r₁ r₂ : TypeExpr → Kind) (as : List Argument),
      Specification.written <$> Specification.ofArguments r₁ as =
        Specification.written <$> Specification.ofArguments r₂ as := by
  rw [expand_eq_expandStruct hread]
  refine ⟨⟨?_, ?_⟩, ?_, ?_, Specification.ofArguments_written⟩
  · -- a struct that can be expanded is accepted, and can be read at its turn
    rintro ⟨ts, hts⟩
    obtain ⟨hcheck, spec₀, hspec₀, -⟩ := expandStruct_eq_ok_iff.mp hts
    obtain ⟨l, r, hturn⟩ := Generator.exists_turn (h.mem_accepted_iff.mpr hcheck)
    obtain ⟨spec, hspec, -⟩ := exists_ok_of_alike (h.specification_alike _).symm hspec₀
    exact ⟨_, h.mem_generate_iff.mpr ⟨l, r, spec, hturn, hspec, rfl⟩⟩
  · -- a file comes from such a turn
    rintro ⟨a, ha⟩
    obtain ⟨l, r, spec, hturn, hspec, -⟩ := h.mem_generate_iff.mp ha
    have hcheck := h.mem_accepted_iff.mp (Generator.mem_accepted_of_turn hturn)
    obtain ⟨spec₀, hspec₀, -⟩ := exists_ok_of_alike (h.specification_alike _) hspec
    exact ⟨_, expandStruct_eq_ok_iff.mpr ⟨hcheck, spec₀, hspec₀, rfl⟩⟩
  · intro ts a hts ha hfile
    obtain ⟨-, spec₀, hspec₀, rfl⟩ := expandStruct_eq_ok_iff.mp hts
    obtain ⟨l, r, spec, hturn, hspec, rfl⟩ := h.mem_generate_iff.mp ⟨ha, hfile⟩
    obtain ⟨spec₁, hspec₁, hwritten⟩ := exists_ok_of_alike (h.specification_alike _) hspec
    -- the two readings differ in the kinds, and the storage does not show them
    cases hspec₀.symm.trans hspec₁
    refine ⟨_, spec, hspec, ?_, rfl, ?_⟩
    · exact Generator.produce_mem_events.mpr ⟨l, _, r, spec, hturn, hspec, rfl⟩
    · rw [hfile, expansion_eq, types_eq_of_written_eq hwritten]
  · intro m
    rw [expandStruct_eq_malformed_iff, h.malformed_iff]
    constructor
    · rintro ⟨hcheck, hm⟩
      obtain ⟨l, r, hturn⟩ := Generator.exists_turn (h.mem_accepted_iff.mpr hcheck)
      exact ⟨l, r, hturn, (error_iff_of_alike (h.specification_alike _)).mpr hm⟩
    · rintro ⟨l, r, hturn, hm⟩
      exact ⟨h.mem_accepted_iff.mp (Generator.mem_accepted_of_turn hturn),
        (error_iff_of_alike (h.specification_alike _)).mp hm⟩

/-! ### A batch with two sources -/

/-- A struct without fields under a marker with some tokens. -/
def markedStruct (w : String) (args : List Tree) : StructItem :=
  ⟨[⟨⟨false, [marker]⟩, .list args, []⟩], [], w, .start, none, .unit, none⟩

/-- A wrapper in a module of one source, the wrapper in its field in another source, and a
third one that was added with its fields. -/
def scoreBatch : Generator :=
  ((({} : Generator).addItems
    [.module "league" [.struct (markedStruct "Score" [wordToken "Points"])]] none).addItems
    [.struct (markedStruct "Points" [wordToken "u8"])] none).addResolved
      { name := "Season" } ⟨[Field.defaultId], {}⟩

/-- The declaration of the wrapper in the module. -/
def scoreDeclaration : Declaration :=
  ⟨{ name := "Score", location := ⟨none, 1, 0⟩ },
    .ok [⟨.type (.named ⟨false, ["Points"]⟩), .start⟩], ⟨["league"], []⟩⟩

theorem scoreBatch_declares : scoreBatch.Declares [wordToken "Points"]
    { markedStruct "Score" [wordToken "Points"] with attributes := [] } 0 scoreDeclaration where
  source := by
    refine ⟨[.module "league" [.struct (markedStruct "Score" [wordToken "Points"])]], none,
      ⟨["league"], []⟩, markedStruct "Score" [wordToken "Points"], ?_, ?_, ?_, rfl⟩
    · exact ((Generator.holds_addItems _ _ _).addItems _ _).addResolved _ _
    · exact .inside List.mem_cons_self (.here List.mem_cons_self)
    · exact ⟨[], _, [], rfl, rfl, rfl, Or.inl rfl⟩
  unique := by
    intro q hq hname
    have hq' : q ∈ scoreBatch.pending := hq
    rcases List.mem_cons.mp hq' with rfl | hq'
    · rfl
    · rcases List.mem_cons.mp hq' with rfl | hq'
      · exact absurd hname (by decide)
      · cases List.mem_singleton.mp hq'
        exact absurd hname (by decide)

/-- The wrapper in the module can be expanded, so it has its file. -/
theorem expand_score_iff_generate :
    readStruct [wordToken "struct", wordToken "Score", markToken ';'] =
        .ok { markedStruct "Score" [wordToken "Points"] with attributes := [] } ∧
      (∃ ts, expand [wordToken "Points"] [wordToken "struct", wordToken "Score", markToken ';'] =
        .ok ts) ∧
      ∃ a ∈ scoreBatch.generate.1, a.file = artifactName "Score" := by
  have hread : readStruct [wordToken "struct", wordToken "Score", markToken ';'] =
      .ok { markedStruct "Score" [wordToken "Points"] with attributes := [] } := rfl
  have hexpand : ∃ ts, expand [wordToken "Points"]
      [wordToken "struct", wordToken "Score", markToken ';'] = .ok ts := ⟨_, rfl⟩
  exact ⟨hread, hexpand, (expand_iff_generate hread scoreBatch_declares).1.mp hexpand⟩

end Newtype
