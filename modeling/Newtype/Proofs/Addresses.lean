import Newtype.Proofs.Scoping

/-!
# Where declarations are found

An item of a file has an address: the steps that lead to it, each into an inline module,
into the body of a function or into the body of a method, and its place at the end of the
way.  The address tells all that the search hands down.  The modules on the way are the
path of the scope, the last of them binds its names, and a struct is nested exactly if the
way goes through a body.

The search finds the structs with the marker at all addresses there are, and it finds them
in the order of the file.  That is the lexicographic order of the places on the way: what
an item holds comes after all that stands before the item, and before all that stands
behind it.

* `Step`, `Leads`, `Address`, `StructAt` — what can be reached in a file.
* `scopeOn`, `DeclaredAt` — what is found at an address.
* `Lists` — a list is all that stands in a relation to addresses, in their order.
* `lists_foundAll` — **the search lists the declarations in reach.**
* `declarations_located` — the declarations of a file.
-/

namespace Newtype

/-! ### Ways -/

/-- A step from a list of items into one of them. -/
inductive Step where
  /-- into the inline module at a place, with its name and its items -/
  | module (place : Nat) (name : String) (items : List Item)
  /-- into the body of the function at a place -/
  | function (place : Nat)
  /-- into the body of a method of the implementation block at a place -/
  | method (place number : Nat)

namespace Step

/-- The place of the item. -/
def place : Step → Nat
  | module k _ _ => k
  | function k => k
  | method k _ => k

/-- The numbers of a step: the place of the item and, in an implementation block, the
number of the method. -/
def key : Step → List Nat
  | module k _ _ => [k]
  | function k => [k]
  | method k j => [k, j]

/-- The step leads into a body. -/
def isBody : Step → Bool
  | module _ _ _ => false
  | function _ => true
  | method _ _ => true

/-- The module a step leads into. -/
def module? : Step → Option (String × List Item)
  | module _ w items => some (w, items)
  | _ => none

end Step

/-- The way leads from a list of items to another one. -/
inductive Leads : List Item → List Step → List Item → Prop
  | here (items : List Item) : Leads items [] items
  | module {items inner last : List Item} {k : Nat} {w : String} {way : List Step} :
    items[k]? = some (.module w inner) → Leads inner way last →
      Leads items (.module k w inner :: way) last
  | function {items body last : List Item} {k : Nat} {way : List Step} :
    items[k]? = some (.function body) → Leads body way last →
      Leads items (.function k :: way) last
  | method {items body last : List Item} {k j : Nat} {head : ImplHead} {m : MethodHead}
      {methods : List (MethodHead × List Item)} {way : List Step} :
    items[k]? = some (.impl head methods) → methods[j]? = some (m, body) →
      Leads body way last → Leads items (.method k j :: way) last

/-- The modules on a way, with their names and items. -/
def modulesOn (way : List Step) : List (String × List Item) := way.filterMap Step.module?

/-- An address of an item: the way to the list it is in, and its place there. -/
structure Address where
  way : List Step
  place : Nat

namespace Address

/-- The numbers of an address. -/
def key (a : Address) : List Nat := a.way.flatMap Step.key ++ [a.place]

/-- The address behind one more step. -/
def under (s : Step) (a : Address) : Address := ⟨s :: a.way, a.place⟩

/-- The first number of an address. -/
def first (a : Address) : Nat :=
  match a.way with
  | [] => a.place
  | s :: _ => s.place

theorem key_under (s : Step) (a : Address) : (a.under s).key = s.key ++ a.key := by
  rw [key, key, under, List.flatMap_cons, List.append_assoc]

theorem exists_key_eq (a : Address) : ∃ ns, a.key = a.first :: ns := by
  obtain ⟨way, p⟩ := a
  cases way with
  | nil => exact ⟨[], rfl⟩
  | cons s way =>
    cases s with
    | module k w items => exact ⟨_, rfl⟩
    | function k => exact ⟨_, rfl⟩
    | method k j => exact ⟨_, rfl⟩

theorem key_lt_of_first_lt {a b : Address} (h : a.first < b.first) : a.key < b.key := by
  obtain ⟨ns, ha⟩ := a.exists_key_eq
  obtain ⟨ms, hb⟩ := b.exists_key_eq
  rw [ha, hb, List.cons_lt_cons_iff]
  exact Or.inl h

/-- The order of two addresses is that of what follows their common first step. -/
theorem key_under_lt (s : Step) {a b : Address} (h : a.key < b.key) :
    (a.under s).key < (b.under s).key := by
  rw [key_under, key_under]
  cases s <;> simpa [Step.key, List.cons_lt_cons_iff] using h

/-- What stands in a method comes before what stands in a later one. -/
theorem key_method_lt {k j j' : Nat} (h : j < j') (a b : Address) :
    (a.under (.method k j)).key < (b.under (.method k j')).key := by
  rw [key_under, key_under]
  exact List.cons_lt_cons_iff.mpr (Or.inr ⟨rfl, List.cons_lt_cons_iff.mpr (Or.inl h)⟩)

end Address

/-- The struct at an address of a file. -/
def StructAt (items : List Item) (a : Address) (s : StructItem) : Prop :=
  ∃ last, Leads items a.way last ∧ last[a.place]? = some (.struct s)

/-! ### What is found at an address -/

/-- The scope at the end of a way that starts in another scope: the path goes on with the
modules on the way, and the last of them binds the names. -/
def scopeFrom (scope : Scope) (way : List Step) : Scope :=
  match (modulesOn way).getLast? with
  | some m => .ofItems (scope.module ++ (modulesOn way).map (·.1)) m.2
  | none => scope

@[simp] theorem scopeFrom_nil (scope : Scope) : scopeFrom scope [] = scope := rfl

@[simp] theorem scopeFrom_function (scope : Scope) (k : Nat) (way : List Step) :
    scopeFrom scope (.function k :: way) = scopeFrom scope way := rfl

@[simp] theorem scopeFrom_method (scope : Scope) (k j : Nat) (way : List Step) :
    scopeFrom scope (.method k j :: way) = scopeFrom scope way := rfl

@[simp] theorem scopeFrom_module (scope : Scope) (k : Nat) (w : String) (inner : List Item)
    (way : List Step) : scopeFrom scope (.module k w inner :: way) =
      scopeFrom (.ofItems (scope.module ++ [w]) inner) way := by
  have hmodules : modulesOn (.module k w inner :: way) = (w, inner) :: modulesOn way := rfl
  rw [scopeFrom, scopeFrom, hmodules, List.getLast?_cons]
  cases hlast : (modulesOn way).getLast? with
  | none =>
    rw [List.getLast?_eq_none_iff] at hlast
    simp [hlast]
  | some m => simp [Scope.ofItems]

/-- The declaration at an address, for a search that starts in some scope. -/
def Declares (file : Option String) (scope : Scope) (nested : Bool) (items : List Item)
    (a : Address) (d : Declaration) : Prop :=
  ∃ s, StructAt items a s ∧
    s.declaration? file (scopeFrom scope a.way) (nested || a.way.any Step.isBody) = some d

/-- The list holds everything that stands in a relation to some address, in the order of
the addresses. -/
def Lists (R : Address → Declaration → Prop) (ds : List Declaration) : Prop :=
  ∃ as : List Address, as.Pairwise (·.key < ·.key) ∧ List.Forall₂ R as ds ∧
    ∀ a d, R a d → a ∈ as

namespace Lists

variable {R S : Address → Declaration → Prop} {ds es : List Declaration}

theorem congr (h : Lists R ds) (hRS : ∀ a d, R a d ↔ S a d) : Lists S ds := by
  obtain ⟨as, hsorted, hrel, hall⟩ := h
  exact ⟨as, hsorted, hrel.imp fun a d => (hRS a d).mp, fun a d hS => hall a d ((hRS a d).mpr hS)⟩

theorem nil (h : ∀ a d, ¬R a d) : Lists R [] :=
  ⟨[], .nil, .nil, fun a d hR => absurd hR (h a d)⟩

theorem append (hR : Lists R ds) (hS : Lists S es)
    (hlt : ∀ a d b e, R a d → S b e → a.key < b.key) :
    Lists (fun a d => R a d ∨ S a d) (ds ++ es) := by
  obtain ⟨as, hsorted, hrel, hall⟩ := hR
  obtain ⟨bs, hsorted', hrel', hall'⟩ := hS
  refine ⟨as ++ bs, ?_, ?_, ?_⟩
  · refine List.pairwise_append.mpr ⟨hsorted, hsorted', fun a ha b hb => ?_⟩
    obtain ⟨d, -, hd⟩ := exists_mem_of_forall₂ hrel.flip ha
    obtain ⟨e, -, he⟩ := exists_mem_of_forall₂ hrel'.flip hb
    exact hlt a d b e hd he
  · exact List.rel_append (hrel.imp fun _ _ => Or.inl) (hrel'.imp fun _ _ => Or.inr)
  · rintro a d (hd | hd)
    · exact List.mem_append_left _ (hall a d hd)
    · exact List.mem_append_right _ (hall' a d hd)

/-- A list stays one behind a step. -/
theorem under (h : Lists R ds) (s : Step) :
    Lists (fun a d => ∃ b, a = b.under s ∧ R b d) ds := by
  obtain ⟨as, hsorted, hrel, hall⟩ := h
  refine ⟨as.map (Address.under s), ?_, ?_, ?_⟩
  · exact hsorted.map _ fun _ _ => Address.key_under_lt s
  · rw [List.forall₂_map_left_iff]
    exact hrel.imp fun a _ hd => ⟨a, rfl, hd⟩
  · rintro a d ⟨b, rfl, hd⟩
    exact List.mem_map_of_mem (hall b d hd)

end Lists

/-! ### The search -/

/-- The declarations that the item at a place holds, with their addresses. -/
def Item.Holds (file : Option String) (scope : Scope) (nested : Bool) (k : Nat) (a : Address)
    (d : Declaration) : Item → Prop
  | .struct s => a = ⟨[], k⟩ ∧ s.declaration? file scope nested = some d
  | .impl _ methods => ∃ j m body b, methods[j]? = some (m, body) ∧ a = b.under (.method k j) ∧
    Declares file scope true body b d
  | .function body => ∃ b, a = b.under (.function k) ∧ Declares file scope true body b d
  | .module w inner => ∃ b, a = b.under (.module k w inner) ∧
    Declares file (.ofItems (scope.module ++ [w]) inner) nested inner b d
  | .imports _ => False
  | .typeAlias _ _ => False
  | .other => False

theorem Item.Holds.first_eq {file : Option String} {scope : Scope} {nested : Bool} {k : Nat}
    {a : Address} {d : Declaration} {item : Item} (h : item.Holds file scope nested k a d) :
    a.first = k := by
  cases item with
  | struct s =>
    obtain ⟨rfl, -⟩ := h
    rfl
  | impl head methods =>
    obtain ⟨j, m, body, b, -, rfl, -⟩ := h
    rfl
  | function body =>
    obtain ⟨b, rfl, -⟩ := h
    rfl
  | module w inner =>
    obtain ⟨b, rfl, -⟩ := h
    rfl
  | imports _ => exact h.elim
  | typeAlias _ _ => exact h.elim
  | other => exact h.elim

/-- A declaration in reach is held by the item at the first place of its address. -/
theorem declares_iff {file : Option String} {scope : Scope} {nested : Bool} {items : List Item}
    {a : Address} {d : Declaration} : Declares file scope nested items a d ↔
      ∃ item, items[a.first]? = some item ∧ item.Holds file scope nested a.first a d := by
  constructor
  · rintro ⟨s, ⟨last, hleads, hs⟩, hd⟩
    obtain ⟨way, p⟩ := a
    cases hleads with
    | here => exact ⟨.struct s, hs, rfl, by simpa using hd⟩
    | @module _ inner _ k w way hk hrest =>
      refine ⟨.module w inner, hk, ⟨way, p⟩, rfl, s, ⟨last, hrest, hs⟩, ?_⟩
      simpa [Step.isBody] using hd
    | @function _ body _ k way hk hrest =>
      refine ⟨.function body, hk, ⟨way, p⟩, rfl, s, ⟨last, hrest, hs⟩, ?_⟩
      simpa [Step.isBody] using hd
    | @method _ body _ k j head m methods way hk hj hrest =>
      refine ⟨.impl head methods, hk, j, m, body, ⟨way, p⟩, hj, rfl, s, ⟨last, hrest, hs⟩, ?_⟩
      simpa [Step.isBody] using hd
  · rintro ⟨item, hk, h⟩
    cases item with
    | struct s =>
      obtain ⟨heq, hd⟩ := h
      rw [heq] at hk ⊢
      exact ⟨s, ⟨items, .here items, hk⟩, by simpa using hd⟩
    | impl head methods =>
      obtain ⟨j, m, body, b, hj, heq, s, ⟨last, hrest, hs⟩, hd⟩ := h
      rw [heq]
      refine ⟨s, ⟨last, .method hk hj hrest, hs⟩, ?_⟩
      simpa [Address.under, Step.isBody] using hd
    | function body =>
      obtain ⟨b, heq, s, ⟨last, hrest, hs⟩, hd⟩ := h
      rw [heq]
      refine ⟨s, ⟨last, .function hk hrest, hs⟩, ?_⟩
      simpa [Address.under, Step.isBody] using hd
    | module w inner =>
      obtain ⟨b, heq, s, ⟨last, hrest, hs⟩, hd⟩ := h
      rw [heq]
      refine ⟨s, ⟨last, .module hk hrest, hs⟩, ?_⟩
      simpa [Address.under, Step.isBody] using hd
    | imports _ => exact h.elim
    | typeAlias _ _ => exact h.elim
    | other => exact h.elim

theorem getElem?_length_append {α : Type} (before : List α) (x : α) (after : List α) :
    (before ++ x :: after)[before.length]? = some x := by
  rw [List.getElem?_append_right (Nat.le_refl _), Nat.sub_self]
  rfl

-- The four statements follow the recursion of the search.  A list of items is looked at
-- from some place on, so that the places in the addresses stay those of the whole list;
-- so is a list of methods.
mutual

theorem lists_found (file : Option String) (scope : Scope) (nested : Bool) (k : Nat) :
    ∀ item : Item, Lists (fun a d => item.Holds file scope nested k a d)
      ((item.found file scope nested).filterMap Found.declaration?)
  | .struct s => by
    rw [Item.found]
    simp only [Item.Holds]
    cases hd : s.declaration? file scope nested with
    | none => exact .nil fun a d h => nomatch h.2
    | some d =>
      refine ⟨[⟨[], k⟩], List.pairwise_singleton _ _, .cons ⟨rfl, rfl⟩ .nil, ?_⟩
      rintro a d ⟨rfl, -⟩
      exact List.mem_singleton_self _
  | .impl head methods => by
    have hown : (head.own scope.module (methods.map (·.1))).filterMap Found.declaration? = [] := by
      rw [List.filterMap_eq_nil_iff]
      intro x hx
      cases x with
      | declaration d => exact absurd hx (declaration_notMem_own _ _ _ d)
      | member m => rfl
    rw [Item.found, List.filterMap_append, hown, List.nil_append]
    refine (lists_foundInMethods file scope k methods []).congr fun a d => ?_
    simp [Item.Holds]
  | .function body => by
    rw [Item.found]
    refine ((lists_foundAll file scope true body []).under (.function k)).congr fun a d => ?_
    simp [Item.Holds]
  | .module w items => by
    rw [Item.found]
    refine ((lists_foundAll file (.ofItems (scope.module ++ [w]) items) nested items []).under
      (.module k w items)).congr fun a d => ?_
    simp [Item.Holds]
  | .imports _ => .nil fun _ _ h => h.elim
  | .typeAlias _ _ => .nil fun _ _ h => h.elim
  | .other => .nil fun _ _ h => h.elim

theorem lists_foundAll (file : Option String) (scope : Scope) (nested : Bool) :
    ∀ items before : List Item,
      Lists (fun a d => before.length ≤ a.first ∧
          Declares file scope nested (before ++ items) a d)
        ((Item.foundAll file scope nested items).filterMap Found.declaration?)
  | [], before => by
    refine .nil ?_
    rintro a d ⟨hle, h⟩
    obtain ⟨item, hitem, -⟩ := declares_iff.mp h
    rw [List.append_nil, List.getElem?_eq_none hle] at hitem
    cases hitem
  | i :: is, before => by
    have hrest := lists_foundAll file scope nested is (before ++ [i])
    have hfirst := lists_found file scope nested before.length i
    rw [Item.foundAll, List.filterMap_append]
    refine (hfirst.append hrest ?_).congr ?_
    · rintro a d b e ha ⟨hle, -⟩
      refine Address.key_lt_of_first_lt ?_
      rw [List.length_append, List.length_singleton] at hle
      rw [ha.first_eq]
      exact hle
    · intro a d
      rw [List.append_assoc, List.singleton_append, List.length_append, List.length_singleton]
      constructor
      · rintro (h | ⟨hle, h⟩)
        · refine ⟨h.first_eq.ge, declares_iff.mpr ⟨i, ?_, h.first_eq.symm ▸ h⟩⟩
          rw [h.first_eq, getElem?_length_append]
        · exact ⟨by omega, h⟩
      · rintro ⟨hle, h⟩
        -- the way starts at this item or behind it
        rcases Nat.eq_or_lt_of_le hle with heq | hlt
        · obtain ⟨item, hitem, hholds⟩ := declares_iff.mp h
          rw [← heq, getElem?_length_append] at hitem
          cases hitem
          exact Or.inl (heq.symm ▸ hholds)
        · exact Or.inr ⟨hlt, h⟩

theorem lists_foundInMethods (file : Option String) (scope : Scope) (k : Nat) :
    ∀ methods before : List (MethodHead × List Item),
      Lists (fun a d => ∃ j m body b, before.length ≤ j ∧
          (before ++ methods)[j]? = some (m, body) ∧ a = b.under (.method k j) ∧
            Declares file scope true body b d)
        ((Item.foundInMethods file scope methods).filterMap Found.declaration?)
  | [], before => by
    refine .nil ?_
    rintro a d ⟨j, m, body, b, hle, hj, -⟩
    rw [List.append_nil, List.getElem?_eq_none hle] at hj
    cases hj
  | m :: ms, before => by
    have hrest := lists_foundInMethods file scope k ms (before ++ [m])
    have hfirst := lists_foundInMethod file scope k before.length m
    rw [Item.foundInMethods, List.filterMap_append]
    refine (hfirst.append hrest ?_).congr ?_
    · rintro a d b e ⟨a', rfl, -⟩ ⟨j, _, _, b', hle, -, rfl, -⟩
      rw [List.length_append, List.length_singleton] at hle
      exact Address.key_method_lt hle a' b'
    · intro a d
      rw [List.append_assoc, List.singleton_append, List.length_append, List.length_singleton]
      constructor
      · rintro (⟨b, rfl, h⟩ | ⟨j, m', body, b, hle, hj, rfl, h⟩)
        · exact ⟨before.length, m.1, m.2, b, Nat.le_refl _, getElem?_length_append _ _ _, rfl, h⟩
        · exact ⟨j, m', body, b, by omega, hj, rfl, h⟩
      · rintro ⟨j, m', body, b, hle, hj, rfl, h⟩
        rcases Nat.eq_or_lt_of_le hle with rfl | hlt
        · rw [getElem?_length_append] at hj
          cases hj
          exact Or.inl ⟨b, rfl, h⟩
        · exact Or.inr ⟨j, m', body, b, hlt, hj, rfl, h⟩

theorem lists_foundInMethod (file : Option String) (scope : Scope) (k j : Nat) :
    ∀ method : MethodHead × List Item,
      Lists (fun a d => ∃ b, a = b.under (.method k j) ∧ Declares file scope true method.2 b d)
        ((Item.foundInMethod file scope method).filterMap Found.declaration?)
  | (_, body) => by
    rw [Item.foundInMethod]
    refine ((lists_foundAll file scope true body []).under (.method k j)).congr fun a d => ?_
    simp

end

/-! ### The declarations of a file -/

/-- The scope at the end of a way through a file: its path are the names of the inline
modules on the way, and its names are bound by the items of the last of them, or of the
file if there is none. -/
def scopeOn (items : List Item) (way : List Step) : Scope :=
  .ofItems ((modulesOn way).map (·.1)) (((modulesOn way).getLast?.map (·.2)).getD items)

theorem scopeFrom_file (items : List Item) (way : List Step) :
    scopeFrom (.ofItems [] items) way = scopeOn items way := by
  rw [scopeFrom, scopeOn]
  cases hlast : (modulesOn way).getLast? with
  | none =>
    rw [List.getLast?_eq_none_iff] at hlast
    simp [hlast]
  | some m => rfl

/-- The declaration that stands at an address of a file. -/
structure DeclaredAt (items : List Item) (file : Option String) (a : Address)
    (d : Declaration) : Prop where
  /-- it is made from the struct there, with the arguments of its first marker -/
  struct : ∃ s m, StructAt items a s ∧
    s.attributes.find? (scopeOn items a.way).isMarker = some m ∧
      d.target = .ofStruct s d.target.nested file ∧ d.arguments = markerArguments m
  /-- it is nested if the way leads through a body -/
  nested : d.target.nested = true ↔ ∃ step ∈ a.way, step.isBody = true
  scope : d.scope = scopeOn items a.way

theorem Declares.declaredAt {items : List Item} {file : Option String} {a : Address}
    {d : Declaration} (h : Declares file (.ofItems [] items) false items a d) :
    DeclaredAt items file a d := by
  obtain ⟨s, hs, hd⟩ := h
  rw [scopeFrom_file, Bool.false_or] at hd
  obtain ⟨m, hm, rfl⟩ := Option.map_eq_some_iff.mp hd
  exact ⟨⟨s, m, hs, hm, rfl, rfl⟩, List.any_eq_true, rfl⟩

/-- **The search finds exactly the structs with the marker that are in reach, and says
rightly where they stand.**  The addresses in a file at which a struct has an attribute
that is the marker in its scope can be listed in the order of the file.  The search gives
one declaration for each of them, in this order: it is made from the struct, it is nested
exactly if the way to it leads through a body, and its scope is that of the innermost
inline module on the way. -/
theorem declarations_located (items : List Item) (file : Option String) :
    ∃ as : List Address, as.Pairwise (·.key < ·.key) ∧
      (∀ a, a ∈ as ↔ ∃ s, StructAt items a s ∧
        ∃ m ∈ s.attributes, (scopeOn items a.way).isMarker m = true) ∧
      List.Forall₂ (DeclaredAt items file) as (extract items file).declarations := by
  obtain ⟨as, hsorted, hrel, hall⟩ :=
    (lists_foundAll file (.ofItems [] items) false items []).congr fun a d =>
      (and_iff_right (Nat.zero_le _) : _ ↔ Declares file (.ofItems [] items) false items a d)
  refine ⟨as, hsorted, fun a => ?_, ?_⟩
  · constructor
    · intro ha
      obtain ⟨d, -, hd⟩ := exists_mem_of_forall₂ hrel.flip ha
      obtain ⟨s, m, hs, hm, -⟩ := (Declares.declaredAt hd).struct
      exact ⟨s, hs, m, List.mem_of_find?_eq_some hm, List.find?_some hm⟩
    · rintro ⟨s, hs, m, hm, hmarker⟩
      obtain ⟨d, hd⟩ : ∃ d, s.declaration? file (scopeOn items a.way)
          (false || a.way.any Step.isBody) = some d := by
        rw [← Option.isSome_iff_exists, StructItem.declaration?, Option.isSome_map,
          List.find?_isSome]
        exact ⟨m, hm, hmarker⟩
      rw [← scopeFrom_file] at hd
      exact hall a d ⟨s, hs, hd⟩
  · rw [extract_declarations]
    exact hrel.imp fun a d hd => hd.declaredAt

end Newtype
