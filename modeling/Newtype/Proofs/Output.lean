import Newtype.Batch.Output
import Newtype.Proofs.Outcomes
import Newtype.Proofs.Store
import Newtype.Proofs.Traits

/-!
# Writing a batch into a directory

After a batch has been written into a directory, nothing in it is left from earlier
batches under the names of this one: every declaration has a file, with its wrapper or
with what is wrong.  Several declarations may share a name, and then a wrapper comes
before what is wrong with the others.

* `reject_mem_events`, `mem_names_pending_iff` — the rejections of a batch.
* `mem_rejectionArtifacts`, `nodup_outputs`, `mem_fileNames_iff` — the files of a batch.
* `writeArtifact_wrote`, `writeArtifacts_wrote` — **what writing does to a store**, for one
  file and for all.
* `writeArtifacts_of_same` — writing what is there changes nothing.
* `writeTo_up_to_date` — **a batch that has been written leaves nothing stale.**
-/

namespace Newtype

/-! ### Rejections -/

/-- Screening parts the declarations, and with them their names. -/
theorem names_screenFrom_perm : ∀ (ps : List Pending) (seen : List String),
    ((screenFrom seen ps).1.map (·.1.name) ++ namesOf (screenFrom seen ps).2).Perm
      (namesOf ps) := by
  intro ps
  induction ps with
  | nil => intro seen; exact .nil
  | cons p ps ih =>
    intro seen
    cases hr : p.refusal? seen with
    | some r =>
      rw [screenFrom_cons_of_refused hr]
      exact (ih seen).cons _
    | none =>
      rw [screenFrom_cons_of_accepted hr]
      exact List.perm_middle.trans ((ih _).cons _)

namespace Generator

theorem mem_rejections {x : Rejected} {es : List Event} : x ∈ rejections es ↔ .reject x ∈ es := by
  rw [rejections, List.mem_filterMap]
  constructor
  · rintro ⟨e, he, h⟩
    cases e with
    | reject y => cases h; exact he
    | poll => cases h
    | produce plan => cases h
  · intro h
    exact ⟨_, h, rfl⟩

/-- A struct is rejected by screening, or at its turn if its arguments cannot be read. -/
theorem reject_mem_events {g : Generator} {x : Rejected} : .reject x ∈ g.events ↔
    x ∈ (screen g.pending).1 ∨
      ∃ p ∈ g.accepted, ∃ m, g.reading p = .error m ∧ x = (g.fullTarget p, .malformed m) := by
  rw [events_eq, List.mem_append, mem_work]
  refine or_congr ?_ ?_
  · simp
  constructor
  · rintro ⟨l, p, r, hturn, hmem⟩
    refine ⟨p, mem_accepted_of_turn hturn, ?_⟩
    rw [reading_of_turn hturn, knownAfter]
    cases hs : g.specification g.names (l.foldl (g.learn g.names) []) p with
    | ok s => simp [hs, happens] at hmem
    | error m =>
      simp only [hs, happens, List.mem_cons, List.not_mem_nil, or_false, reduceCtorEq, false_or,
        Event.reject.injEq] at hmem
      exact ⟨m, rfl, hmem⟩
  · rintro ⟨p, hp, m, hread, rfl⟩
    obtain ⟨l, r, hturn⟩ := exists_turn hp
    rw [reading_of_turn hturn, knownAfter] at hread
    refine ⟨l, p, r, hturn, ?_⟩
    rw [hread]
    simp [happens]

/-- **A name that waits is rejected, or has a wrapper.** -/
theorem mem_names_pending_iff {g : Generator} {w : String} : w ∈ namesOf g.pending ↔
    (∃ x ∈ rejections g.events, x.1.name = w) ∨
      ∃ q ∈ g.accepted, q.target.name = w ∧ ∃ s, g.reading q = .ok s := by
  rw [← (names_screenFrom_perm g.pending []).mem_iff, List.mem_append, List.mem_map, namesOf,
    List.mem_map]
  simp only [mem_rejections, reject_mem_events]
  constructor
  · rintro (⟨x, hx, hname⟩ | ⟨q, hq, hname⟩)
    · exact .inl ⟨x, .inl hx, hname⟩
    · cases hread : g.reading q with
      | ok s => exact .inr ⟨q, hq, hname, s, hread⟩
      | error m =>
        exact .inl ⟨_, .inr ⟨q, hq, m, hread, rfl⟩, (g.fullTarget_name q).trans hname⟩
  · rintro (⟨x, hx | ⟨q, hq, m, -, rfl⟩, hname⟩ | ⟨q, hq, hname, -⟩)
    · exact .inl ⟨x, hx, hname⟩
    · exact .inr ⟨q, hq, (g.fullTarget_name q).symm.trans hname⟩
    · exact .inr ⟨q, hq, hname⟩

/-! ### The files of a batch -/

/-- The file in place of a refused declaration. -/
def rejectionArtifact (g : Generator) (x : Rejected) : Artifact :=
  ⟨artifactName x.1.name, g.withHeader (rejectionText (x.2.diagnostic x.1))⟩

/-- **Of the rejections with one name the first gets the file**, unless it is taken. -/
theorem mem_rejectionArtifacts {g : Generator} {a : Artifact} :
    ∀ {rs : List Rejected} {owned : List String}, a ∈ g.rejectionArtifacts owned rs ↔
      a.file ∉ owned ∧ ∃ x, rs.find? (artifactName ·.1.name == a.file) = some x ∧
        a = g.rejectionArtifact x := by
  intro rs
  induction rs with
  | nil => intro owned; simp [rejectionArtifacts]
  | cons x rs ih =>
    intro owned
    obtain ⟨t, r⟩ := x
    rw [rejectionArtifacts]
    by_cases howned : artifactName t.name ∈ owned
    · -- the file is taken, so the first of the rejections that count comes later
      rw [if_pos (by simpa using howned), ih]
      refine and_congr_right fun hfile => ?_
      rw [List.find?_cons_of_neg]
      rw [beq_iff_eq]
      exact fun heq => hfile (heq ▸ howned)
    · rw [if_neg (by simpa using howned), List.mem_cons, ih]
      by_cases hfile : artifactName t.name = a.file
      · -- this is the rejection, and it takes the file from all later ones
        rw [List.find?_cons_of_pos (by simpa using hfile)]
        constructor
        · rintro (rfl | ⟨hfree, -⟩)
          · exact ⟨howned, _, rfl, rfl⟩
          · exact absurd hfile.symm (List.ne_of_not_mem_cons hfree)
        · rintro ⟨-, x, hx, rfl⟩
          cases hx
          exact .inl rfl
      · rw [List.find?_cons_of_neg (by simpa using hfile), List.mem_cons, not_or]
        constructor
        · rintro (rfl | ⟨⟨-, hfree⟩, hx⟩)
          · exact absurd rfl hfile
          · exact ⟨hfree, hx⟩
        · rintro ⟨hfree, hx⟩
          exact .inr ⟨⟨fun heq => hfile heq.symm, hfree⟩, hx⟩

theorem nodup_rejectionArtifacts (g : Generator) : ∀ (rs : List Rejected) (owned : List String),
    ((g.rejectionArtifacts owned rs).map (·.file)).Nodup := by
  intro rs
  induction rs with
  | nil => intro owned; exact List.nodup_nil
  | cons x rs ih =>
    intro owned
    rw [rejectionArtifacts]
    split
    · exact ih owned
    · rw [List.map_cons, List.nodup_cons]
      refine ⟨fun hmem => ?_, ih _⟩
      obtain ⟨a, ha, hfile⟩ := List.mem_map.mp hmem
      exact (mem_rejectionArtifacts.mp ha).1 (hfile ▸ List.mem_cons_self)

theorem outputs_eq (g : Generator) : g.outputs = g.generate.1 ++
    g.rejectionArtifacts (g.generate.1.map (·.file)) (rejections g.events) := rfl

/-- **No file of a batch is written twice.** -/
theorem nodup_outputs (g : Generator) : (g.outputs.map (·.file)).Nodup := by
  have hgenerate : (g.generate.1.map (·.file)).Nodup := by
    obtain ⟨own, heq, -, hlt, hshared⟩ := g.generate_files
    rw [heq, List.map_append, List.map_singleton, List.nodup_append]
    refine ⟨List.pairwise_map.mpr (hlt.imp fun h => String.ne_of_lt h), List.nodup_singleton _, ?_⟩
    rintro f hf _ hf' rfl
    obtain ⟨a, ha, rfl⟩ := List.mem_map.mp hf
    exact hshared a ha (List.mem_singleton.mp hf')
  rw [outputs_eq, List.map_append, List.nodup_append]
  refine ⟨hgenerate, g.nodup_rejectionArtifacts _ _, ?_⟩
  rintro f hf _ hf' rfl
  obtain ⟨a, ha, rfl⟩ := List.mem_map.mp hf'
  exact (mem_rejectionArtifacts.mp ha).1 hf

/-- A wrapper that can be read has its file. -/
theorem mem_outputs_of_reading {g : Generator} {q : Pending} {s : Specification}
    (hq : q ∈ g.accepted) (hs : g.reading q = .ok s) :
    g.artifact (g.planOf q s) ∈ g.outputs := by
  obtain ⟨l, r, hturn⟩ := exists_turn hq
  rw [reading_of_turn hturn] at hs
  rw [outputs_eq]
  exact List.mem_append_left _ ((mem_generate_of_ok hturn hs).mpr rfl).1

/-- The file for a name is taken exactly if there is a wrapper with this name. -/
theorem mem_generate_files_iff {g : Generator} {w : String} :
    artifactName w ∈ g.generate.1.map (·.file) ↔
      ∃ q ∈ g.accepted, q.target.name = w ∧ ∃ s, g.reading q = .ok s := by
  rw [List.mem_map]
  constructor
  · rintro ⟨a, ha, hfile⟩
    obtain ⟨l, q, r, s, hturn, hname, hs, -⟩ := exists_turn_of_mem_generate ha hfile
    exact ⟨q, mem_accepted_of_turn hturn, hname, s, (reading_of_turn hturn).trans hs⟩
  · rintro ⟨q, hq, rfl, s, hs⟩
    obtain ⟨l, r, hturn⟩ := exists_turn hq
    rw [reading_of_turn hturn] at hs
    exact ⟨_, (mem_generate_of_ok hturn hs).mpr rfl⟩

/-- A name without a wrapper has the file of its first rejection. -/
theorem mem_outputs_of_rejection {g : Generator} {w : String} {x : Rejected}
    (hnone : ∀ q ∈ g.accepted, q.target.name = w → ∀ s, g.reading q ≠ .ok s)
    (hx : (rejections g.events).find? (·.1.name == w) = some x) :
    g.rejectionArtifact x ∈ g.outputs := by
  have hname : x.1.name = w := by simpa using List.find?_some hx
  have hfree : artifactName w ∉ g.generate.1.map (·.file) := by
    rw [mem_generate_files_iff]
    rintro ⟨q, hq, hqname, s, hs⟩
    exact hnone q hq hqname s hs
  have hsame : ∀ y : Rejected, (artifactName y.1.name == artifactName w) = (y.1.name == w) := by
    intro y
    rw [Bool.eq_iff_iff, beq_iff_eq, beq_iff_eq]
    exact ⟨artifactName_injective, congrArg artifactName⟩
  rw [outputs_eq]
  refine List.mem_append_right _ (mem_rejectionArtifacts.mpr ⟨?_, x, ?_, rfl⟩)
  · rwa [rejectionArtifact, hname]
  · simpa only [rejectionArtifact, hname, hsame] using hx

/-- A name that waits without a wrapper has a rejection. -/
theorem exists_first_rejection {g : Generator} {w : String} (hw : w ∈ namesOf g.pending)
    (hnone : ∀ q ∈ g.accepted, q.target.name = w → ∀ s, g.reading q ≠ .ok s) :
    ∃ x, (rejections g.events).find? (·.1.name == w) = some x := by
  rw [← Option.isSome_iff_exists, List.find?_isSome]
  rcases mem_names_pending_iff.mp hw with ⟨x, hx, hname⟩ | ⟨q, hq, hname, s, hs⟩
  · exact ⟨x, hx, beq_iff_eq.mpr hname⟩
  · exact absurd hs (hnone q hq hname s)

theorem sharedArtifact_mem_outputs (g : Generator) : g.sharedArtifact ∈ g.outputs :=
  List.mem_append_left _ (mem_generate.mpr (.inr rfl))

/-- The names of the files that a batch has. -/
def fileNames (g : Generator) : List String :=
  (namesOf g.pending).map artifactName ++ [sharedName]

/-- **The files of a batch are those for the names that wait, and the shared one.** -/
theorem mem_fileNames_iff {g : Generator} {f : String} :
    f ∈ g.fileNames ↔ ∃ a ∈ g.outputs, a.file = f := by
  rw [fileNames, List.mem_append, List.mem_singleton, List.mem_map]
  constructor
  · rintro (⟨w, hw, rfl⟩ | rfl)
    · by_cases hread : ∃ q ∈ g.accepted, q.target.name = w ∧ ∃ s, g.reading q = .ok s
      · obtain ⟨q, hq, rfl, s, hs⟩ := hread
        exact ⟨_, mem_outputs_of_reading hq hs, congrArg artifactName (g.planOf_typeName q s)⟩
      · have hnone : ∀ q ∈ g.accepted, q.target.name = w → ∀ s, g.reading q ≠ .ok s :=
          fun q hq hname s hs => hread ⟨q, hq, hname, s, hs⟩
        obtain ⟨x, hx⟩ := exists_first_rejection hw hnone
        have hname : x.1.name = w := by simpa using List.find?_some hx
        exact ⟨_, mem_outputs_of_rejection hnone hx, congrArg artifactName hname⟩
    · exact ⟨_, g.sharedArtifact_mem_outputs, rfl⟩
  · rintro ⟨a, ha, rfl⟩
    rw [outputs_eq, List.mem_append, mem_generate, mem_rejectionArtifacts] at ha
    rcases ha with (⟨plan, hplan, rfl⟩ | rfl) | ⟨-, x, hx, rfl⟩
    · obtain ⟨l, q, r, s, hturn, hs, rfl⟩ := produce_mem_events.mp hplan
      refine .inl ⟨q.target.name, mem_names_pending_iff.mpr (.inr ?_),
        congrArg artifactName (g.planOf_typeName q s).symm⟩
      exact ⟨q, mem_accepted_of_turn hturn, rfl, s, (reading_of_turn hturn).trans hs⟩
    · exact .inr rfl
    · exact .inl ⟨x.1.name, mem_names_pending_iff.mpr (.inl ⟨x, List.mem_of_find?_eq_some hx, rfl⟩),
        rfl⟩

/-- The paths of the files are different. -/
theorem nodup_paths (g : Generator) (dir : String) :
    (g.outputs.map (joinPath dir ·.file)).Nodup := by
  rw [← Function.comp_def (joinPath dir), ← List.map_map]
  exact g.nodup_outputs.map fun _ _ => joinPath_injective

theorem mem_paths_iff {g : Generator} {dir path : String} :
    path ∈ g.outputs.map (joinPath dir ·.file) ↔ ∃ f ∈ g.fileNames, path = joinPath dir f := by
  rw [List.mem_map]
  constructor
  · rintro ⟨a, ha, rfl⟩
    exact ⟨a.file, mem_fileNames_iff.mpr ⟨a, ha, rfl⟩, rfl⟩
  · rintro ⟨f, hf, rfl⟩
    obtain ⟨a, ha, rfl⟩ := mem_fileNames_iff.mp hf
    exact ⟨a, ha, rfl⟩

/-! ### Writing files -/

/-- The second store has some files at a place, and is otherwise like the first. -/
structure Wrote (base : List String) (s : FileStore) (as : List Artifact) (s' : FileStore) :
    Prop where
  files : ∀ a ∈ as, s'.node? (base ++ [a.file]) = some (.file (.text a.text))
  others : ∀ q, (∀ a ∈ as, q ≠ base ++ [a.file]) → s'.node? q = s.node? q

section Writing

variable {dir : String} {base : List String} {s s' s'' : FileStore} {a : Artifact}
  {as : List Artifact}

/-- Files do not take the place of directories. -/
theorem Wrote.keepsDirs (h : Wrote base s as s')
    (hfree : ∀ a ∈ as, s.node? (base ++ [a.file]) ≠ some .dir) : FileStore.KeepsDirs s s' := by
  intro q hq
  rw [h.others q, hq]
  rintro a ha rfl
  exact hfree a ha hq

theorem place_ne_of_notMem (hnew : a.file ∉ as.map (·.file)) :
    ∀ b ∈ as, base ++ [a.file] ≠ base ++ [b.file] := by
  intro b hb heq
  have hfile : a.file = b.file := by simpa using heq
  exact hnew (hfile ▸ List.mem_map_of_mem hb)

/-- A file stays while others are written. -/
theorem Wrote.cons (h : Wrote base s [a] s') (h' : Wrote base s' as s'')
    (hnew : a.file ∉ as.map (·.file)) : Wrote base s (a :: as) s'' := by
  constructor
  · rw [List.forall_mem_cons]
    refine ⟨?_, h'.files⟩
    rw [h'.others _ (place_ne_of_notMem hnew)]
    exact h.files a (List.mem_singleton_self a)
  · intro q hq
    rw [List.forall_mem_cons] at hq
    rw [h'.others q hq.2, h.others q (List.forall_mem_singleton.mpr hq.1)]

/-- A text that has been read is what the file holds. -/
theorem toOption_eq_some_iff {x : Except FileFault String} {t : String} :
    x.toOption = some t ↔ x = .ok t := by
  cases x <;> simp [Except.toOption]

/-- **Writing one file**, which is there already or is put there. -/
theorem writeArtifact_wrote {w : Written} (hdir : w.store.DirAt (pathSteps dir) base)
    (hname : IsFileName a.file) (hfree : w.store.node? (base ++ [a.file]) ≠ some .dir) :
    ∃ w', writeArtifact dir w a = .ok w' ∧ w'.paths = w.paths ++ [joinPath dir a.file] ∧
      Wrote base w.store [a] w'.store := by
  unfold writeArtifact
  by_cases hsame : (w.store.readText (joinPath dir a.file)).toOption = some a.text
  · refine ⟨_, if_pos hsame, rfl, List.forall_mem_singleton.mpr ?_, fun _ _ => rfl⟩
    exact (FileStore.readText_joinPath_iff hdir hname).mp (toOption_eq_some_iff.mp hsame)
  · simp only [if_neg hsame, FileStore.write_joinPath hdir hname hfree]
    refine ⟨_, rfl, rfl, List.forall_mem_singleton.mpr ?_, ?_⟩
    · rw [FileStore.node?_set (by simp), if_pos rfl]
    · intro q hq
      rw [FileStore.node?_set (by simp), if_neg (hq a (List.mem_singleton_self a))]

/-- **Writing all files of a list**, one after the other.  The induction is on the list,
with what has been written before as a parameter. -/
theorem writeArtifacts_wrote : ∀ (as : List Artifact) (w : Written),
    w.store.DirAt (pathSteps dir) base → (∀ a ∈ as, IsFileName a.file) →
    (∀ a ∈ as, w.store.node? (base ++ [a.file]) ≠ some .dir) → (as.map (·.file)).Nodup →
    ∃ w', writeArtifacts dir w as = (w', none) ∧
      w'.paths = w.paths ++ as.map (joinPath dir ·.file) ∧ Wrote base w.store as w'.store := by
  intro as
  induction as with
  | nil =>
    intro w _ _ _ _
    exact ⟨w, rfl, (List.append_nil _).symm, by simp, fun _ _ => rfl⟩
  | cons a as ih =>
    intro w hdir hname hfree hnodup
    obtain ⟨hnew, hnodup⟩ := List.nodup_cons.mp hnodup
    rw [List.forall_mem_cons] at hname hfree
    obtain ⟨w₁, hw₁, hpaths₁, hwrote₁⟩ := writeArtifact_wrote hdir hname.1 hfree.1
    have hdir₁ : w₁.store.DirAt (pathSteps dir) base :=
      hdir.mono (hwrote₁.keepsDirs (List.forall_mem_singleton.mpr hfree.1))
    -- the files that are left have other names, so their places are as before
    have hfree₁ : ∀ b ∈ as, w₁.store.node? (base ++ [b.file]) ≠ some .dir := by
      intro b hb
      rw [hwrote₁.others _ (List.forall_mem_singleton.mpr (place_ne_of_notMem hnew b hb).symm)]
      exact hfree.2 b hb
    obtain ⟨w₂, hw₂, hpaths₂, hwrote₂⟩ := ih w₁ hdir₁ hname.2 hfree₁ hnodup
    refine ⟨w₂, ?_, ?_, hwrote₁.cons hwrote₂ hnew⟩
    · rw [writeArtifacts, hw₁]
      exact hw₂
    · rw [hpaths₂, hpaths₁, List.append_assoc, List.map_cons, List.singleton_append]

/-- **Writing what is there changes nothing.** -/
theorem writeArtifacts_of_same : ∀ (as : List Artifact) (w : Written),
    (∀ a ∈ as, w.store.readText (joinPath dir a.file) = .ok a.text) →
    writeArtifacts dir w as =
      ({ w with paths := w.paths ++ as.map (joinPath dir ·.file) }, none) := by
  intro as
  induction as with
  | nil => intro w _; rw [writeArtifacts, List.map_nil, List.append_nil]
  | cons a as ih =>
    intro w hsame
    rw [List.forall_mem_cons] at hsame
    rw [writeArtifacts, writeArtifact, if_pos (toOption_eq_some_iff.mpr hsame.1)]
    simp only
    rw [ih { w with paths := w.paths ++ [joinPath dir a.file] } hsame.2, List.map_cons,
      List.append_assoc, List.singleton_append]

end Writing

/-! ### Writing a batch -/

theorem isFileName_artifactName {w : String} (h : '/' ∉ w.toList) :
    IsFileName (artifactName w) := by
  have hlength : 18 ≤ (artifactName w).length := by
    rw [artifactName, String.length_append]
    exact Nat.le_add_left _ _
  -- the name is longer than those that are special
  have hne : ∀ v : String, v.length < 18 → artifactName w ≠ v := by
    rintro v hv rfl
    omega
  refine ⟨hne _ (by decide), ?_, hne _ (by decide), hne _ (by decide)⟩
  rw [artifactName, String.toList_append, List.mem_append, not_or]
  exact ⟨h, by decide⟩

/-- A batch can be written into a directory: the directory can be made, no directory stands
where a file goes, and the names of the structs have no slash. -/
structure Writable (g : Generator) (s : FileStore) (dir : String) : Prop where
  made : (s.makeDir dir).2 = none
  free : ∀ f ∈ g.fileNames, (s.makeDir dir).1.readText (joinPath dir f) ≠ .error .isDirectory
  plain : ∀ w ∈ namesOf g.pending, '/' ∉ w.toList

theorem Writable.isFileName {g : Generator} {s : FileStore} {dir : String}
    (h : g.Writable s dir) : ∀ a ∈ g.outputs, IsFileName a.file := by
  intro a ha
  have hf : a.file ∈ g.fileNames := mem_fileNames_iff.mpr ⟨a, ha, rfl⟩
  rw [fileNames, List.mem_append, List.mem_singleton, List.mem_map] at hf
  rcases hf with ⟨w, hw, hfile⟩ | hfile
  · rw [← hfile]
    exact isFileName_artifactName (h.plain w hw)
  · rw [hfile]
    exact ⟨by decide, by decide, by decide, by decide⟩

theorem writeTo_of_made {s : FileStore} {dir : String} (g : Generator)
    (h : (s.makeDir dir).2 = none) :
    g.writeTo s dir = writeArtifacts dir ⟨(s.makeDir dir).1, [], []⟩ g.outputs := by
  unfold writeTo
  rcases hmade : s.makeDir dir with ⟨s', fault⟩
  rw [hmade] at h
  cases h
  rfl

/-- What writing a batch does. -/
theorem writeTo_wrote {g : Generator} {s : FileStore} {dir : String} (h : g.Writable s dir) :
    ∃ base w, g.writeTo s dir = (w, none) ∧ (s.makeDir dir).1.DirAt (pathSteps dir) base ∧
      w.store.DirAt (pathSteps dir) base ∧ w.paths = g.outputs.map (joinPath dir ·.file) ∧
      Wrote base (s.makeDir dir).1 g.outputs w.store := by
  obtain ⟨base, hdir⟩ := FileStore.exists_dirAt_makeDir h.made
  have hname := h.isFileName
  have hfree : ∀ a ∈ g.outputs, (s.makeDir dir).1.node? (base ++ [a.file]) ≠ some .dir := by
    intro a ha hd
    exact h.free a.file (mem_fileNames_iff.mpr ⟨a, ha, rfl⟩)
      ((FileStore.readText_joinPath_eq_isDirectory_iff hdir (hname a ha)).mpr hd)
  obtain ⟨w, hw, hpaths, hwrote⟩ :=
    writeArtifacts_wrote g.outputs ⟨(s.makeDir dir).1, [], []⟩ hdir hname hfree g.nodup_outputs
  refine ⟨base, w, ?_, hdir, hdir.mono (hwrote.keepsDirs hfree), hpaths, hwrote⟩
  rw [g.writeTo_of_made h.made, hw]

/-- **A batch that has been written leaves nothing stale.**  Each name that waits has its
file: with the wrapper of this name if there is one, and otherwise with what the first
rejection of the name says.  The shared file is there.  No other file changes, in the
directory or elsewhere.  The paths are those of these files, and writing the batch once more
changes nothing. -/
theorem writeTo_up_to_date {g : Generator} {s : FileStore} {dir : String}
    (h : g.Writable s dir) : ∃ w, g.writeTo s dir = (w, none) ∧
      (∀ q ∈ g.accepted, ∀ spec, g.reading q = .ok spec →
        w.store.readText (joinPath dir (artifactName q.target.name)) =
          .ok (g.withHeader (g.planOf q spec).text)) ∧
      (∀ p ∈ g.pending,
        (∀ q ∈ g.accepted, q.target.name = p.target.name → ∀ spec, g.reading q ≠ .ok spec) →
        ∃ x, (rejections g.events).find? (·.1.name == p.target.name) = some x ∧
          w.store.readText (joinPath dir (artifactName p.target.name)) =
            .ok (g.withHeader (rejectionText (x.2.diagnostic x.1)))) ∧
      w.store.readText (joinPath dir sharedName) = .ok (g.withHeader sharedText) ∧
      (∀ f, IsFileName f → f ∉ g.fileNames →
        w.store.readText (joinPath dir f) = (s.makeDir dir).1.readText (joinPath dir f)) ∧
      (∀ place, (∀ f ∈ g.fileNames, w.store.locate (joinPath dir f) ≠ .ok place) →
        w.store.file? place = s.file? place) ∧
      w.paths.Nodup ∧ (∀ path, path ∈ w.paths ↔ ∃ f ∈ g.fileNames, path = joinPath dir f) ∧
      g.writeTo w.store dir = (⟨w.store, w.paths, []⟩, none) := by
  obtain ⟨base, w, hw, hmade, hdir, hpaths, hwrote⟩ := writeTo_wrote h
  have hname := h.isFileName
  have hread : ∀ a ∈ g.outputs, w.store.readText (joinPath dir a.file) = .ok a.text :=
    fun a ha => (FileStore.readText_joinPath_iff hdir (hname a ha)).mpr (hwrote.files a ha)
  have hshared := hread _ g.sharedArtifact_mem_outputs
  rw [sharedArtifact] at hshared
  refine ⟨w, hw, ?_, ?_, hshared, ?_, ?_, ?_, ?_, ?_⟩
  · intro q hq spec hspec
    have hfile := hread _ (mem_outputs_of_reading hq hspec)
    rwa [artifact, planOf_typeName] at hfile
  · intro p hp hnone
    obtain ⟨x, hx⟩ := exists_first_rejection (List.mem_map_of_mem hp) hnone
    have hxname : x.1.name = p.target.name := by simpa using List.find?_some hx
    have hfile := hread _ (mem_outputs_of_rejection hnone hx)
    rw [rejectionArtifact, hxname] at hfile
    exact ⟨x, hx, hfile⟩
  · -- the directory is at the same place before and after, and this file was not written
    intro f hf hnew
    rw [FileStore.readText_joinPath hdir hf, FileStore.readText_joinPath hmade hf, hwrote.others]
    intro a ha heq
    have hfile : f = a.file := by simpa using heq
    exact hnew (hfile ▸ mem_fileNames_iff.mpr ⟨a, ha, rfl⟩)
  · intro place hplace
    rw [← s.file?_makeDir dir place, FileStore.file?, FileStore.file?, hwrote.others]
    rintro a ha rfl
    exact hplace a.file (mem_fileNames_iff.mpr ⟨a, ha, rfl⟩)
      (FileStore.locate_joinPath hdir (hname a ha))
  · rw [hpaths]
    exact g.nodup_paths dir
  · intro path
    rw [hpaths]
    exact mem_paths_iff
  · -- the second time all texts are there
    have hsame := FileStore.makeDir_of_dirAt hdir
    rw [g.writeTo_of_made (congrArg Prod.snd hsame), hsame,
      writeArtifacts_of_same g.outputs ⟨w.store, [], []⟩ hread, hpaths, List.nil_append]

/-- A struct that is declared in a function, at the top and once more, and another one that
cannot be read. -/
def declaredThrice : Generator where
  pending := [.source 0 ⟨{ name := "Score", nested := true }, .ok [], ⟨[], []⟩⟩,
    declared "Score" [bare "i32"] [], declared "Score" [bare "u8"] [], nameOnly "Lone"]

/-- A directory with a file of an earlier batch and one that belongs to none. -/
def earlierFiles : FileStore :=
  ⟨[(["out"], .dir), (["out", "Lone_implementation.rs"], .file (.text "old")),
    (["out", "notes.txt"], .file (.text "keep"))]⟩

/-- The struct at the top has its wrapper, the old file is replaced, and the other stays. -/
theorem writeTo_up_to_date_declaredThrice : declaredThrice.Writable earlierFiles "out" ∧
    ∃ w, declaredThrice.writeTo earlierFiles "out" = (w, none) ∧
      (∃ spec, w.store.readText (joinPath "out" (artifactName "Score")) =
        .ok (declaredThrice.withHeader
          (declaredThrice.planOf (declared "Score" [bare "i32"] []) spec).text)) ∧
      (∃ x : Rejected, x.2.code = .malformed ∧
        w.store.readText (joinPath "out" (artifactName "Lone")) =
          .ok (declaredThrice.withHeader (rejectionText (x.2.diagnostic x.1)))) ∧
      w.store.readText (joinPath "out" "notes.txt") = .ok "keep" ∧ w.paths.Nodup ∧
      declaredThrice.writeTo w.store "out" = (⟨w.store, w.paths, []⟩, none) := by
  have hwritable : declaredThrice.Writable earlierFiles "out" :=
    ⟨by decide, by decide, by decide⟩
  obtain ⟨w, hw, hfiles, hrejected, -, hothers, -, hnodup, -, hagain⟩ :=
    writeTo_up_to_date hwritable
  have haccepted : declaredThrice.accepted =
      [declared "Score" [bare "i32"] [], nameOnly "Lone"] := rfl
  refine ⟨hwritable, w, hw, ?_, ?_, ?_, hnodup, hagain⟩
  · have hmem : declared "Score" [bare "i32"] [] ∈ declaredThrice.accepted := by
      rw [haccepted]
      exact List.mem_cons_self
    have hread : ∃ spec, declaredThrice.reading (declared "Score" [bare "i32"] []) = .ok spec :=
      ⟨_, rfl⟩
    obtain ⟨spec, hspec⟩ := hread
    exact ⟨spec, hfiles _ hmem spec hspec⟩
  · have hmem : nameOnly "Lone" ∈ declaredThrice.pending := by simp [declaredThrice]
    have hread : ∃ m, declaredThrice.reading (nameOnly "Lone") = .error m := ⟨_, rfl⟩
    have hnone : ∀ q ∈ declaredThrice.accepted, q.target.name = "Lone" →
        ∀ spec, declaredThrice.reading q ≠ .ok spec := by
      rw [haccepted, List.forall_mem_cons, List.forall_mem_singleton]
      refine ⟨fun hname => absurd hname (by decide), fun _ spec hspec => ?_⟩
      obtain ⟨m, hm⟩ := hread
      rw [hm] at hspec
      cases hspec
    obtain ⟨x, hx, hfile⟩ := hrejected (nameOnly "Lone") hmem hnone
    have hfirst : ∃ y, (rejections declaredThrice.events).find? (·.1.name == "Lone") = some y ∧
        y.2.code = .malformed := ⟨_, rfl, rfl⟩
    obtain ⟨y, hy, hcode⟩ := hfirst
    rw [Option.some.inj (hx.symm.trans hy)] at hfile
    exact ⟨y, hcode, hfile⟩
  · rw [hothers "notes.txt" ⟨by decide, by decide, by decide, by decide⟩ (by decide)]
    rfl

end Generator
end Newtype
