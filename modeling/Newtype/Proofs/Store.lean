import Newtype.Files.Store
import Newtype.Proofs.Arguments

/-!
# Files in a directory

What the operations on a store of files do to what stands at a place, for paths to a name
in a directory.

* `pathSteps_joinPath`, `IsFileName` — the steps of such a path.
* `node?_set` — **one place changes, and no other.**
* `DirAt`, `follow_of_dirs` — the directory that steps lead to stays if directories do.
* `exists_dirAt_makeDir`, `file?_makeDir` — making a directory makes it, and changes no file.
* `makeDir_of_dirAt` — a directory that is there is not made again.
* `locate_joinPath`, `readText_joinPath_iff`, `write_joinPath` — files in a directory.
-/

namespace Newtype

/-! ### Paths into a directory -/

/-- The text is the name of a file: it is not empty, has no slash, and is none of the
steps that stay or go back. -/
structure IsFileName (w : String) : Prop where
  nonempty : w ≠ ""
  noSlash : '/' ∉ w.toList
  notHere : w ≠ "."
  notBack : w ≠ ".."

theorem pathSteps_of_noSlash {w : String} (h : '/' ∉ w.toList) (hne : w ≠ "") :
    pathSteps w = [w] := by
  rw [pathSteps, List.splitOn_eq_singleton h, List.map_singleton, String.ofList_toList]
  simp [hne]

/-- A slash parts the steps. -/
theorem pathSteps_slash {path l r : String} (h : path.toList = l.toList ++ '/' :: r.toList) :
    pathSteps path = pathSteps l ++ pathSteps r := by
  rw [pathSteps, h, List.splitOn_append_cons_self, List.map_append, List.filter_append]
  rfl

theorem endsInSlash_iff {path : String} :
    endsInSlash path = true ↔ ∃ cs, path.toList = cs ++ ['/'] := by
  rw [endsInSlash, beq_iff_eq, List.getLast?_eq_some_iff]

/-- **The path to a name in a directory has one step more than the directory.** -/
theorem pathSteps_joinPath (dir : String) {w : String} (hw : IsFileName w) :
    pathSteps (joinPath dir w) = pathSteps dir ++ [w] := by
  rw [← pathSteps_of_noSlash hw.noSlash hw.nonempty]
  unfold joinPath
  split
  · next h =>
    rcases Bool.or_eq_true_iff.mp h with hempty | hslash
    · rw [String.isEmpty_iff.mp hempty, String.empty_append]
      rfl
    · -- the slash is there already, with nothing behind it
      obtain ⟨cs, hcs⟩ := endsInSlash_iff.mp hslash
      have hdir : pathSteps dir = pathSteps (String.ofList cs) ++ pathSteps "" :=
        pathSteps_slash (by rw [hcs, String.toList_ofList]; rfl)
      have hpath : pathSteps (dir ++ w) = pathSteps (String.ofList cs) ++ pathSteps w :=
        pathSteps_slash (by rw [String.toList_append, hcs, String.toList_ofList]; simp)
      rw [hpath, hdir]
      simp [pathSteps]
  · exact pathSteps_slash (by simp [String.toList_append])

theorem joinPath_injective {dir a b : String} (h : joinPath dir a = joinPath dir b) : a = b := by
  unfold joinPath at h
  rw [← String.toList_inj]
  split at h
  · simpa [← String.toList_inj] using h
  · simpa [← String.toList_inj] using h

/-- The path ends in the name. -/
theorem toList_joinPath (dir w : String) : ∃ cs, (joinPath dir w).toList = cs ++ w.toList := by
  unfold joinPath
  split
  · exact ⟨dir.toList, String.toList_append⟩
  · exact ⟨(dir ++ "/").toList, String.toList_append⟩

theorem joinPath_ne_empty (dir : String) {w : String} (hw : IsFileName w) :
    (joinPath dir w).isEmpty = false := by
  obtain ⟨cs, hcs⟩ := toList_joinPath dir w
  rw [Bool.eq_false_iff]
  intro hempty
  rw [String.isEmpty_iff.mp hempty, String.toList_empty, List.nil_eq_append_iff] at hcs
  exact hw.nonempty (String.toList_eq_nil_iff.mp hcs.2)

theorem endsInSlash_joinPath (dir : String) {w : String} (hw : IsFileName w) :
    endsInSlash (joinPath dir w) = false := by
  obtain ⟨cs, hcs⟩ := toList_joinPath dir w
  have hne : w.toList ≠ [] := fun h => hw.nonempty (String.toList_eq_nil_iff.mp h)
  rw [endsInSlash, hcs, beq_eq_false_iff_ne, List.getLast?_append]
  intro hlast
  rw [List.getLast?_eq_some_getLast hne, Option.some_or, Option.some.injEq] at hlast
  exact hw.noSlash (hlast ▸ List.getLast_mem hne)

namespace FileStore

variable {s s' : FileStore}

/-! ### Places -/

/-- **One place changes, and no other.** -/
theorem node?_set {place : List String} (hplace : place ≠ []) (n : Node) (q : List String) :
    (s.set place n).node? q = if q = place then some n else s.node? q := by
  have hlookup : ∀ nodes : List (List String × Node), q ≠ place →
      (nodes.filter (·.1 != place)).lookup q = nodes.lookup q := by
    intro nodes hq
    induction nodes with
    | nil => rfl
    | cons e nodes ih =>
      obtain ⟨p, m⟩ := e
      by_cases hp : p = place
      · rw [List.filter_cons_of_neg (by simp [hp]), ih, hp, List.lookup_cons,
          beq_eq_false_iff_ne.mpr hq]
      · rw [List.filter_cons_of_pos (by simp [hp]), List.lookup_cons, List.lookup_cons, ih]
  by_cases hq : q = place
  · subst hq
    simp [set, node?, hplace]
  · rw [if_neg hq, node?, node?]
    split
    · rfl
    · rw [set, List.lookup_cons, beq_eq_false_iff_ne.mpr hq]
      exact hlookup s.nodes hq

/-- The file at a place. -/
def file? (s : FileStore) (place : List String) : Option Content :=
  match s.node? place with
  | some (.file c) => some c
  | _ => none

/-- All directories of one store are directories of another. -/
def KeepsDirs (s s' : FileStore) : Prop := ∀ q, s.node? q = some .dir → s'.node? q = some .dir

/-! ### Directories -/

/-- Where one step leads. -/
def stepFrom (place : List String) (w : String) : List String :=
  if w == "." then place else if w == ".." then place.dropLast else place ++ [w]

theorem follow_cons (s : FileStore) (place : List String) (w : String) (ws : List String) :
    s.follow place (w :: ws) =
      match s.node? place with
      | none => .error .notFound
      | some (.file _) => .error .notDirectory
      | some .dir => s.follow (stepFrom place w) ws := by
  rw [follow, stepFrom]
  cases s.node? place with
  | none => rfl
  | some n =>
    cases n with
    | file c => rfl
    | dir =>
      simp only
      split
      · rfl
      · split <;> rfl

/-- A step can be taken from a directory. -/
theorem follow_cons_eq_ok_iff {place q : List String} {w : String} {ws : List String} :
    s.follow place (w :: ws) = .ok q ↔
      s.node? place = some .dir ∧ s.follow (stepFrom place w) ws = .ok q := by
  rw [follow_cons]
  cases s.node? place with
  | none => simp
  | some n => cases n <;> simp

/-- Steps lead to a place as long as the directories on the way stay. -/
theorem follow_of_dirs (hdirs : KeepsDirs s s') : ∀ steps place q : List String,
    s.follow place steps = .ok q → s'.follow place steps = .ok q := by
  intro steps
  induction steps with
  | nil => intro place q h; exact h
  | cons w ws ih =>
    intro place q h
    obtain ⟨hplace, hrest⟩ := follow_cons_eq_ok_iff.mp h
    exact follow_cons_eq_ok_iff.mpr ⟨hdirs place hplace, ih _ _ hrest⟩

theorem follow_append_eq_ok_iff : ∀ {l r place q : List String},
    s.follow place (l ++ r) = .ok q ↔
      ∃ m, s.follow place l = .ok m ∧ s.follow m r = .ok q := by
  intro l
  induction l with
  | nil => intro r place q; simp [follow]
  | cons w l ih =>
    intro r place q
    simp only [List.cons_append, follow_cons_eq_ok_iff, ih, and_assoc, exists_and_left]

theorem follow_name {place : List String} {w : String} (hplace : s.node? place = some .dir)
    (hw : IsFileName w) : s.follow place [w] = .ok (place ++ [w]) := by
  simp [follow, hplace, hw.notHere, hw.notBack]

/-- The steps lead to a directory at a place. -/
structure DirAt (s : FileStore) (steps place : List String) : Prop where
  follow : s.follow [] steps = .ok place
  isDir : s.node? place = some .dir

theorem isDir_iff {steps : List String} : s.isDir steps = true ↔ ∃ place, s.DirAt steps place := by
  unfold isDir
  cases h : s.follow [] steps with
  | error e =>
    refine ⟨fun h => absurd h Bool.false_ne_true, ?_⟩
    rintro ⟨place, hf, -⟩
    rw [hf] at h
    cases h
  | ok q =>
    simp only [beq_iff_eq]
    constructor
    · intro hq
      exact ⟨q, h, hq⟩
    · rintro ⟨place, hf, hd⟩
      rw [h] at hf
      cases hf
      exact hd

theorem DirAt.mono {steps place : List String} (h : s.DirAt steps place)
    (hdirs : KeepsDirs s s') : s'.DirAt steps place :=
  ⟨follow_of_dirs hdirs _ _ _ h.follow, hdirs _ h.isDir⟩

/-! ### Making directories -/

/-- One directory is made in a directory that is there, at a place that had nothing. -/
theorem makeOne_eq_ok {steps : List String} (h : s.makeOne steps = .ok s') :
    ∃ init w place, steps = init ++ [w] ∧ s.DirAt init place ∧ w ≠ "." ∧ w ≠ ".." ∧
      s.node? (place ++ [w]) = none ∧ s' = s.set (place ++ [w]) .dir := by
  rw [makeOne, bind_eq_ok_iff] at h
  obtain ⟨place, hfollow, h⟩ := h
  cases hplace : s.node? place with
  | none => simp [hplace] at h
  | some n =>
    cases n with
    | file c => simp [hplace] at h
    | dir =>
      cases hlast : steps.getLast? with
      | none => simp [hplace, hlast] at h
      | some w =>
        obtain ⟨init, rfl⟩ := List.getLast?_eq_some_iff.mp hlast
        simp only [hplace, hlast] at h
        split at h
        · cases h
        · next hfree =>
          simp only [Bool.or_eq_true, beq_iff_eq, not_or, Option.isSome_iff_ne_none, ne_eq,
            not_not] at hfree
          cases h
          rw [List.dropLast_concat] at hfollow
          exact ⟨init, w, place, rfl, ⟨hfollow, hplace⟩, hfree.1.1, hfree.1.2, hfree.2, rfl⟩

/-- A directory that is there cannot be made. -/
theorem makeOne_of_dirAt {steps place : List String} (h : s.DirAt steps place) :
    s.makeOne steps = .error .alreadyExists := by
  rcases List.eq_nil_or_concat steps with rfl | ⟨init, w, rfl⟩
  · rfl
  · rw [List.concat_eq_append] at h ⊢
    obtain ⟨m, hinit, hlast⟩ := follow_append_eq_ok_iff.mp h.follow
    obtain ⟨hm, hstep⟩ := follow_cons_eq_ok_iff.mp hlast
    cases hstep
    have hthere : (w == "." || w == ".." || (s.node? (m ++ [w])).isSome) = true := by
      have hfull := h.isDir
      unfold stepFrom at hfull
      split at hfull
      · next hw => simp [hw]
      · split at hfull
        · next hw => simp [hw]
        · simp [hfull]
    rw [makeOne, List.dropLast_concat, hinit, List.getLast?_concat]
    simp only [bind, Except.bind, hm, hthere, if_true]

/-- The second store has what the first has, and perhaps some more directories. -/
def OnlyAddsDirs (s s' : FileStore) : Prop :=
  ∀ q, s'.node? q = s.node? q ∨ s.node? q = none ∧ s'.node? q = some .dir

theorem OnlyAddsDirs.refl (s : FileStore) : OnlyAddsDirs s s := fun _ => .inl rfl

theorem OnlyAddsDirs.trans {s'' : FileStore} (h : OnlyAddsDirs s s')
    (h' : OnlyAddsDirs s' s'') : OnlyAddsDirs s s'' := by
  intro q
  rcases h q with hq | ⟨hnone, hdir⟩
  · rw [← hq]
    exact h' q
  · rcases h' q with hq' | ⟨hnone', -⟩
    · exact .inr ⟨hnone, hq'.trans hdir⟩
    · rw [hdir] at hnone'
      cases hnone'

theorem OnlyAddsDirs.keepsDirs (h : OnlyAddsDirs s s') : KeepsDirs s s' := by
  intro q hq
  rcases h q with heq | ⟨hnone, -⟩
  · rw [heq, hq]
  · rw [hq] at hnone
    cases hnone

/-- Directories are no files. -/
theorem OnlyAddsDirs.file?_eq (h : OnlyAddsDirs s s') (q : List String) :
    s'.file? q = s.file? q := by
  rcases h q with heq | ⟨hnone, hdir⟩
  · rw [file?, file?, heq]
  · rw [file?, file?, hnone, hdir]

theorem onlyAddsDirs_makeOne {steps : List String} (h : s.makeOne steps = .ok s') :
    OnlyAddsDirs s s' := by
  obtain ⟨init, w, place, -, -, -, -, hnone, rfl⟩ := makeOne_eq_ok h
  intro q
  rw [node?_set (by simp)]
  split
  · next heq => exact .inr ⟨heq ▸ hnone, rfl⟩
  · exact .inl rfl

/-- The directory that is made is there afterwards. -/
theorem exists_dirAt_makeOne {steps : List String} (h : s.makeOne steps = .ok s') :
    ∃ place, s'.DirAt steps place := by
  have hkeeps := (onlyAddsDirs_makeOne h).keepsDirs
  obtain ⟨init, w, place, rfl, hinit, hhere, hback, -, rfl⟩ := makeOne_eq_ok h
  have hinit' := hinit.mono hkeeps
  refine ⟨place ++ [w], follow_append_eq_ok_iff.mpr ⟨place, hinit'.follow, ?_⟩, ?_⟩
  · simp [follow, hinit'.isDir, hhere, hback]
  · rw [node?_set (by simp), if_pos rfl]

/-- Makes one directory, or leaves it if it is there. -/
def ensureOne (s : FileStore) (steps : List String) : FileStore × Option FileFault :=
  match s.makeOne steps with
  | .ok s' => (s', none)
  | .error e => (s, if s.isDir steps then none else some e)

theorem ensureOne_spec (s : FileStore) (steps : List String) :
    OnlyAddsDirs s (s.ensureOne steps).1 ∧
      ((s.ensureOne steps).2 = none → ∃ place, (s.ensureOne steps).1.DirAt steps place) := by
  unfold ensureOne
  cases h : s.makeOne steps with
  | ok s' => exact ⟨onlyAddsDirs_makeOne h, fun _ => exists_dirAt_makeOne h⟩
  | error e =>
    refine ⟨.refl s, fun hnone => isDir_iff.mp ?_⟩
    by_contra hdir
    simp [hdir] at hnone

/-- The last directory is made at once, or after those on the way to it. -/
theorem makeAll_cons (s : FileStore) (steps : List String) (n : String) (up : List String) :
    s.makeAll steps (n :: up) = s.ensureOne steps ∨
      ((s.makeAll up.reverse up).2 ≠ none ∧
        s.makeAll steps (n :: up) = s.makeAll up.reverse up) ∨
      s.makeAll steps (n :: up) = (s.makeAll up.reverse up).1.ensureOne steps := by
  rw [makeAll, ensureOne]
  cases s.makeOne steps with
  | ok s' => exact .inl rfl
  | error e =>
    cases e with
    | notFound =>
      obtain ⟨m, fault⟩ := s.makeAll up.reverse up
      cases fault with
      | some e => exact .inr (.inl ⟨by simp, rfl⟩)
      | none => exact .inr (.inr rfl)
    | _ => exact .inl rfl

theorem onlyAddsDirs_makeAll (s : FileStore) : ∀ names steps : List String,
    OnlyAddsDirs s (s.makeAll steps names).1 := by
  intro names
  induction names with
  | nil => intro steps; exact .refl s
  | cons n up ih =>
    intro steps
    rcases s.makeAll_cons steps n up with h | ⟨-, h⟩ | h
    · rw [h]
      exact (s.ensureOne_spec steps).1
    · rw [h]
      exact ih up.reverse
    · rw [h]
      exact (ih up.reverse).trans (ensureOne_spec _ steps).1

theorem exists_dirAt_makeAll {steps up : List String} {n : String}
    (h : (s.makeAll steps (n :: up)).2 = none) :
    ∃ place, (s.makeAll steps (n :: up)).1.DirAt steps place := by
  rcases s.makeAll_cons steps n up with heq | ⟨hfault, heq⟩ | heq <;> rw [heq] at h ⊢
  · exact (s.ensureOne_spec steps).2 h
  · exact absurd h hfault
  · exact (ensureOne_spec _ steps).2 h

/-- **Making a directory changes no file.** -/
theorem file?_makeDir (s : FileStore) (dir : String) (place : List String) :
    (s.makeDir dir).1.file? place = s.file? place :=
  (s.onlyAddsDirs_makeAll _ _).file?_eq place

/-- **A directory that has been made is there.** -/
theorem exists_dirAt_makeDir {dir : String} (h : (s.makeDir dir).2 = none) :
    ∃ place, (s.makeDir dir).1.DirAt (pathSteps dir) place := by
  unfold makeDir at h ⊢
  cases hnames : (pathNames dir).reverse with
  | cons n up =>
    rw [hnames] at h
    exact exists_dirAt_makeAll h
  | nil =>
    -- a path without names has no steps either
    have hsteps : pathSteps dir = [] := by
      rw [List.reverse_eq_nil_iff, pathNames] at hnames
      split at hnames
      · assumption
      · cases hnames
    rw [hsteps]
    exact ⟨[], rfl, rfl⟩

/-- **A directory that is there is not made again.** -/
theorem makeDir_of_dirAt {dir : String} {place : List String}
    (h : s.DirAt (pathSteps dir) place) : s.makeDir dir = (s, none) := by
  have hdir : s.isDir (pathSteps dir) = true := isDir_iff.mpr ⟨place, h⟩
  unfold makeDir
  cases (pathNames dir).reverse with
  | nil => rfl
  | cons n up => simp only [makeAll, makeOne_of_dirAt h, hdir, if_true]

/-! ### Files in a directory -/

section InDirectory

variable {dir : String} {base : List String} (hdir : s.DirAt (pathSteps dir) base) {w : String}
  (hw : IsFileName w)

include hdir hw

theorem locate_joinPath : s.locate (joinPath dir w) = .ok (base ++ [w]) := by
  rw [locate, joinPath_ne_empty dir hw, endsInSlash_joinPath dir hw, pathSteps_joinPath dir hw]
  exact follow_append_eq_ok_iff.mpr ⟨base, hdir.follow, follow_name hdir.isDir hw⟩

theorem readText_joinPath : s.readText (joinPath dir w) =
    match s.node? (base ++ [w]) with
    | none => .error .notFound
    | some .dir => .error .isDirectory
    | some (.file (.text t)) => .ok t
    | some (.file (.bytes _)) => .error .notText := by
  rw [readText, locate_joinPath hdir hw]
  rfl

/-- Reading gives the text of the file with the name. -/
theorem readText_joinPath_iff {t : String} : s.readText (joinPath dir w) = .ok t ↔
    s.node? (base ++ [w]) = some (.file (.text t)) := by
  rw [readText_joinPath hdir hw]
  rcases s.node? (base ++ [w]) with _ | _ | _ | _ <;> simp

theorem readText_joinPath_eq_isDirectory_iff :
    s.readText (joinPath dir w) = .error .isDirectory ↔ s.node? (base ++ [w]) = some .dir := by
  rw [readText_joinPath hdir hw]
  rcases s.node? (base ++ [w]) with _ | _ | _ | _ <;> simp

/-- Writing puts the file there, unless there is a directory. -/
theorem write_joinPath (hfree : s.node? (base ++ [w]) ≠ some .dir) (c : Content) :
    s.write (joinPath dir w) c = .ok (s.set (base ++ [w]) (.file c)) := by
  rw [write, locate_joinPath hdir hw]
  simp only [bind, Except.bind, List.dropLast_concat, hdir.isDir]

end InDirectory

end FileStore
end Newtype
