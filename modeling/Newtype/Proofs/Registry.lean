import Mathlib.Data.List.Basic
import Newtype.Kind.Registry

/-!
# Paths as keys

The registry knows a type by the text of its path.  As long as the segments are words, that
is, neither empty nor with a colon in them, the text tells the path: two paths have the same
text only if they are the same.  A path of two segments or more is never a primitive, so
what is registered for it is what it stands for.

* `IsWord` — a segment that can be read back.
* `join_injective` — **the text of a path tells the path.**
* `Registry.key_join` — nothing is stripped from it.
* `Primitive.ofName?_join` — no primitive has a long path.
* `Registry.get?_register` — **registering a path changes that path only.**
-/

namespace Newtype

/-- A segment of a path: some characters, and none of them a colon. -/
def IsWord (w : String) : Prop := w ≠ "" ∧ ':' ∉ w.toList

instance (w : String) : Decidable (IsWord w) := inferInstanceAs (Decidable (_ ∧ _))

/-! ### The text of a path -/

/-- The text behind the first segment. -/
def restText (ws : List String) : List Char := ws.flatMap fun w => ':' :: ':' :: w.toList

theorem toList_join (w : String) (ws : List String) :
    (Path.join (w :: ws)).toList = w.toList ++ restText ws := by
  induction ws generalizing w with
  | nil =>
    rw [Path.join, String.intercalate_singleton]
    exact (List.append_nil _).symm
  | cons v vs ih =>
    have hv := ih v
    rw [Path.join] at hv ⊢
    rw [String.intercalate_cons_cons, String.toList_append, String.toList_append, hv,
      List.append_assoc]
    rfl

/-- A segment goes on until the first colon. -/
theorem takeWhile_append_restText {a : List Char} (ha : ':' ∉ a) (ws : List String) :
    (a ++ restText ws).takeWhile (· != ':') = a := by
  have hstop : (restText ws).takeWhile (· != ':') = [] := by
    cases ws <;> rfl
  have hpos : ∀ c ∈ a, (c != ':') = true := fun c hc =>
    bne_iff_ne.mpr fun h => ha (h ▸ hc)
  rw [List.takeWhile_append_of_pos hpos, hstop, List.append_nil]

theorem append_restText_inj {a b : List Char} (ha : ':' ∉ a) (hb : ':' ∉ b) {ws vs : List String}
    (h : a ++ restText ws = b ++ restText vs) : a = b ∧ restText ws = restText vs := by
  have hab : a = b := by
    rw [← takeWhile_append_restText ha ws, h, takeWhile_append_restText hb vs]
  subst hab
  exact ⟨rfl, List.append_cancel_left h⟩

theorem segments_injective {w v : String} {ws vs : List String} (hws : ∀ x ∈ w :: ws, IsWord x)
    (hvs : ∀ x ∈ v :: vs, IsWord x) (h : w.toList ++ restText ws = v.toList ++ restText vs) :
    w :: ws = v :: vs := by
  rw [List.forall_mem_cons] at hws hvs
  -- The first segments are the same, and so is what follows them.
  induction ws generalizing w v vs with
  | nil =>
    obtain ⟨hhead, hrest⟩ := append_restText_inj hws.1.2 hvs.1.2 h
    cases vs with
    | nil => rw [String.toList_inj.mp hhead]
    | cons y vs => exact absurd hrest (List.cons_ne_nil _ _).symm
  | cons x ws ih =>
    obtain ⟨hhead, hrest⟩ := append_restText_inj hws.1.2 hvs.1.2 h
    cases vs with
    | nil => exact absurd hrest (List.cons_ne_nil _ _)
    | cons y vs =>
      have htails : x.toList ++ restText ws = y.toList ++ restText vs :=
        (List.cons.inj (List.cons.inj hrest).2).2
      rw [String.toList_inj.mp hhead,
        ih (List.forall_mem_cons.mp hws.2) (List.forall_mem_cons.mp hvs.2) htails]

/-- **The text of a path tells the path.** -/
theorem join_injective {ws vs : List String} (hws : ∀ w ∈ ws, IsWord w) (hvs : ∀ v ∈ vs, IsWord v)
    (hne : ws ≠ []) (hne' : vs ≠ []) (h : Path.join ws = Path.join vs) : ws = vs := by
  obtain ⟨w, ws, rfl⟩ := List.exists_cons_of_ne_nil hne
  obtain ⟨v, vs, rfl⟩ := List.exists_cons_of_ne_nil hne'
  have htext := congrArg String.toList h
  rw [toList_join, toList_join] at htext
  exact segments_injective hws hvs htext

theorem stripColons_eq_self {c : Char} (hc : c ≠ ':') (cs : List Char) :
    stripColons (c :: cs) = c :: cs := by
  rw [stripColons]
  exact fun _ h => hc (List.cons.inj h).1

theorem Registry.key_join {ws : List String} (hws : ∀ w ∈ ws, IsWord w) (hne : ws ≠ []) :
    key (Path.join ws) = Path.join ws := by
  obtain ⟨w, ws, rfl⟩ := List.exists_cons_of_ne_nil hne
  obtain ⟨hw, hcolon⟩ := hws w List.mem_cons_self
  obtain ⟨c, cs, hcs⟩ := List.exists_cons_of_ne_nil fun h => hw (String.toList_eq_nil_iff.mp h)
  have hc : c ≠ ':' := fun h => hcolon (hcs ▸ h ▸ List.mem_cons_self)
  rw [key, toList_join, hcs, List.cons_append, stripColons_eq_self hc, ← List.cons_append, ← hcs,
    ← toList_join, String.ofList_toList]

/-! ### Primitives -/

theorem Primitive.colon_notMem_name (p : Primitive) : ':' ∉ p.name.toList := by
  cases p <;> decide

theorem Primitive.ofName?_join {ws : List String} (h : 1 < ws.length) :
    ofName? (Path.join ws) = none := by
  match ws, h with
  | w :: v :: vs, _ =>
    refine List.find?_eq_none.mpr fun p _ hp => p.colon_notMem_name ?_
    rw [beq_iff_eq.mp hp, toList_join]
    exact List.mem_append_right _ List.mem_cons_self

/-! ### Registering -/

namespace Registry

theorem find?_entry (q : String) (e : String × Kind) (es : List (String × Kind)) :
    (e :: es).find? (·.1 == q) = if e.1 = q then some e else es.find? (·.1 == q) := by
  by_cases h : e.1 = q <;> simp [h]

theorem find?_insertEntry (p q : String) (k : Kind) (es : List (String × Kind)) :
    (insertEntry p k es).find? (·.1 == q) =
      if p = q then some (p, k) else es.find? (·.1 == q) := by
  induction es with
  | nil => exact find?_entry q (p, k) []
  | cons e es ih =>
    obtain ⟨r, l⟩ := e
    rw [insertEntry]
    by_cases hlt : p < r
    · rw [if_pos hlt, find?_entry]
    · by_cases heq : p = r
      · subst heq
        rw [if_neg hlt, if_pos rfl, find?_entry, find?_entry]
        by_cases h : p = q
        · rw [if_pos h, if_pos h]
        · rw [if_neg h, if_neg h, if_neg h]
      · rw [if_neg hlt, if_neg heq, find?_entry, find?_entry, ih]
        by_cases h : r = q
        · rw [if_pos h, if_pos h, if_neg fun hp => heq (hp.trans h.symm)]
        · rw [if_neg h, if_neg h]

/-- **Registering a path changes that path only.** -/
theorem get?_register (r : Registry) (p q : String) (k : Kind) :
    (r.register p k).get? q = if key p = key q then some k else r.get? q := by
  rw [get?, register, find?_insertEntry]
  split_ifs <;> rfl

end Registry
end Newtype
