/-!
# Dependency order

The order in which a batch is worked off: always the first entry whose dependencies
are all done. When none is left the rest, which hangs on a cycle, follows as it is.

* `ready` — all dependencies of an entry are done.
* `takeReady` — one entry after the other, while one is ready.
* `dependencyOrder` — the order of all entries.
-/

namespace Newtype
namespace Order

/-- All dependencies of an entry are done. -/
def ready (deps : Nat → List Nat) (done : List Nat) (i : Nat) : Bool :=
  (deps i).all done.contains

/-- The first entry that is not done but ready. -/
def next? (deps : Nat → List Nat) (n : Nat) (done : List Nat) : Option Nat :=
  (List.range n).find? fun i => !done.contains i && ready deps done i

/-- The entries done after at most `steps` more, in order. -/
def takeReady (deps : Nat → List Nat) (n : Nat) : Nat → List Nat → List Nat
  | 0, done => done
  | steps + 1, done =>
    match next? deps n done with
    | some i => takeReady deps n steps (done ++ [i])
    | none => done

/-- The order of `n` entries: those that can be reached without a cycle, then the
others. -/
def dependencyOrder (deps : Nat → List Nat) (n : Nat) : List Nat :=
  let done := takeReady deps n n []
  done ++ (List.range n).filter (!done.contains ·)

end Order
end Newtype
