import Newtype.Member.Basic

/-!
# Planning the members

Which members a wrapper gets. Each group is a list of its own, so the plan is their
concatenation.

* `Plan.make` — the members for a given policy.
* `Plan.of` — the members for a specification and its target.
* `Plan.traits` — the traits of the wrapper, as other wrappers see them.
-/

namespace Newtype
namespace Plan

/-- A list that is there under a condition. -/
def when {α : Type} (b : Bool) (xs : List α) : List α := if b then xs else []

/-- Equality, and what rests on it. -/
def equalityMembers (t : TraitSet) (readOnly : Bool) : List Member :=
  [.equality] ++ when t.eq [.totalEquality] ++ when t.hash [.hash] ++ [.storageEquality] ++
    when readOnly [.byRefEquality]

/-- Comparison. The operators need at least a partial order. -/
def orderMembers (t : TraitSet) (operators : Bool) : List Member :=
  when t.partialOrd [.compareTo t.ord] ++
    when (operators && t.partialOrd)
      ([.relationalOperators t.ord] ++ when t.ord [.totalOrder])

/-- Arithmetic. One-byte integers give a plain number of a wider type. -/
def mathMembers (c : Category) (operators : Bool) : List Member :=
  let output := if c = .byteWide then ArithmeticOutput.widened else .wrapper
  when operators (BinaryOp.all.map (.arithmetic · output))

/-- Text forms of a single number. -/
def formatMembers (c : Category) (single : Bool) : List Member :=
  when (single && c.isNumeric)
    ((if c.isIntegral then NumberFormat.integral else NumberFormat.fractional).map
      .numericFormat ++ [.tryFormat])

/-- The members for some fields and a target under a policy. -/
def make (fields : List Field) (t : Target) (p : Policy) : Plan :=
  let storage := Storage.ofFields fields
  let traits := storage.traits
  let check := if p.validation then Check.of t.hook else .none
  let members :=
    [.constructor check, .copyConstructor t.readOnly] ++
      (List.range storage.slots.length).map .accessor ++
      equalityMembers traits t.readOnly ++
      orderMembers traits p.comparison ++
      mathMembers p.category p.math ++
      [.fromStorage, .intoInner] ++ when p.implicit [.intoStorage] ++
      when (!t.userDisplay && traits.display) [.display] ++
      when (!t.userDebug) [.debug] ++
      formatMembers p.category p.single ++
      when (p.single && p.category = .identifier) [.generate]
  ⟨t.name, storage, check, p.category, members⟩

/-- The members for a specification and its target. -/
def of (s : Specification) (t : Target) : Plan :=
  make s.fields t (.of s.fields s.options t)

/-- The member orders wrappers by operators. -/
def isRelational : Member → Bool
  | .relationalOperators _ => true
  | _ => false

/-- The traits of the wrapper. -/
def traits (p : Plan) (t : Target) : TraitSet where
  copy := t.readOnly
  eq := p.members.contains .totalEquality
  hash := p.members.contains .hash
  ord := p.members.contains .totalOrder
  partialOrd := p.members.any isRelational
  display := p.members.contains .display || t.userDisplay

end Plan
end Newtype
