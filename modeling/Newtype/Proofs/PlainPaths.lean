import Newtype.Member.Basic
import Newtype.Proofs.PathReading
import Newtype.Proofs.Registry

/-!
# Plain paths survive printing

The text of a plain path is written without blanks, next to the tokens of the same path.  It has
to be cut into the same tokens again, whatever the segments are, and so has the text of a tuple
of such paths.

* `TypeExpr.ofText?` — the type a text is read as.
* `tokenize_path`, `tokenize_tuple` — texts of paths and of tuples are cut into their tokens.
* `TypeExpr.ofText?_path` — **the text of a path is read as the path.**
* `wellSpelled_of_ofText?` — **only paths that can be written are read from texts.**
* `Storage.ofText?_type` — the type of a compound storage is read as a tuple.
* `plainPaths_read_back` — **plain paths survive printing.**
-/

namespace Newtype

open Lexer Reader PathReader TypeReader

/-! ### The lexemes of a path -/

theorem stops_restText (ws : List String) {rest : List Char} (hrest : Stops rest) :
    Stops (restText ws ++ rest) := by
  cases ws with
  | nil => exact hrest
  | cons w ws => exact stops_cons _ (by decide) (by decide)

theorem punctFollows_word {w : List Char} (hw : IsSpelledWord w) (rest : List Char) :
    punctFollows (w ++ rest) = false := by
  obtain ⟨c, cs, rfl, hc⟩ := hw.exists_cons
  exact punctFollows_of_isIdentStart hc _

/-- The segments behind a `::` are cut into their tokens. -/
theorem cuts_restText {ws : List String} (hws : ∀ w ∈ ws, IsSpelledWord w.toList)
    {rest : List Char} (hrest : Stops rest) {ms : List Mark} {pos : Position}
    (h : Cuts (pos.advance (restText ws)) rest ms) :
    ∃ ts, SegmentTrees ws ts ∧ Cuts pos (restText ws ++ rest) (ts.map .tree ++ ms) := by
  induction ws generalizing pos with
  | nil => exact ⟨[], .nil, h⟩
  | cons w ws ih =>
    obtain ⟨hw, hws⟩ := List.forall_mem_cons.mp hws
    have htext : restText (w :: ws) = [':', ':'] ++ (w.toList ++ restText ws) := rfl
    rw [htext, Position.advance_append, Position.advance_append] at h
    obtain ⟨ts, hts, hcut⟩ := ih hws h
    refine ⟨_, .cons pos (pos.step ':') (pos.advance [':', ':']) hts, ?_⟩
    rw [htext, List.append_assoc, List.append_assoc]
    exact .colons (punctFollows_word hw _) (.word hw (stops_restText ws hrest) hcut)

/-- **A path is cut into its tokens.** -/
theorem cuts_path {p : Path} (hp : p.WellSpelled) {rest : List Char} (hrest : Stops rest)
    {ms : List Mark} {pos : Position} (h : Cuts (pos.advance p.text.toList) rest ms) :
    ∃ ts, PathTrees p ts ∧ Cuts pos (p.text.toList ++ rest) (ts.map .tree ++ ms) := by
  obtain ⟨global, segments⟩ := p
  have hwords : ∀ w ∈ segments, IsSpelledWord w.toList := fun w hw => (hp.segment w hw).1
  obtain ⟨w, ws, rfl⟩ := List.exists_cons_of_ne_nil hp.ne_nil
  cases global with
  | true =>
    have htext : (Path.text ⟨true, w :: ws⟩).toList = restText (w :: ws) := by
      simp [Path.text, toList_join, restText]
    rw [htext] at h ⊢
    obtain ⟨ts, hts, hcut⟩ := cuts_restText hwords hrest h
    exact ⟨ts, .global hts, hcut⟩
  | false =>
    obtain ⟨hw, hws⟩ := List.forall_mem_cons.mp hwords
    have htext : (Path.text ⟨false, w :: ws⟩).toList = w.toList ++ restText ws := by
      simp [Path.text, toList_join]
    rw [htext, Position.advance_append] at h
    obtain ⟨ts, hts, hcut⟩ := cuts_restText hws hrest h
    refine ⟨_, .plain pos hts, ?_⟩
    rw [htext, List.append_assoc]
    exact .word hw (stops_restText ws hrest) hcut

/-- The types of a tuple, as they are written between its parentheses. -/
def listText (ps : List Path) : String := ", ".intercalate (ps.map Path.text)

theorem listText_cons (p q : Path) (ps : List Path) :
    listText (p :: q :: ps) = p.text ++ ", " ++ listText (q :: ps) :=
  String.intercalate_cons_cons

/-- Paths with commas between them are cut into their tokens. -/
theorem cuts_list {p : Path} {ps : List Path} (hps : ∀ q ∈ p :: ps, q.WellSpelled)
    {rest : List Char} (hrest : Stops rest) {ms : List Mark} {pos : Position}
    (h : Cuts (pos.advance (listText (p :: ps)).toList) rest ms) :
    ∃ ts, ListTrees (p :: ps) ts ∧
      Cuts pos ((listText (p :: ps)).toList ++ rest) (ts.map .tree ++ ms) := by
  induction ps generalizing p pos with
  | nil =>
    have htext : listText [p] = p.text := String.intercalate_singleton
    rw [htext] at h ⊢
    obtain ⟨ts, hts, hcut⟩ := cuts_path (hps p List.mem_cons_self) hrest h
    exact ⟨ts, .one hts, hcut⟩
  | cons q ps ih =>
    obtain ⟨hp, hps⟩ := List.forall_mem_cons.mp hps
    have htext : (listText (p :: q :: ps)).toList =
        p.text.toList ++ (',' :: ' ' :: (listText (q :: ps)).toList) := by
      simp [listText_cons]
    rw [htext, Position.advance_append] at h
    obtain ⟨us, hus, hmore⟩ := ih hps h
    have hcomma : Cuts (pos.advance p.text.toList)
        (',' :: ' ' :: ((listText (q :: ps)).toList ++ rest)) (.tree (.punct ',' false _) :: _) :=
      .punct (by decide +kernel) (by decide) (by decide)
        (punctFollows_of_notMem (by decide +kernel) _) (.gap (by decide) hmore)
    obtain ⟨ts, hts, hcut⟩ := cuts_path hp (stops_cons _ (by decide) (by decide)) hcomma
    refine ⟨_, .cons false (pos.advance p.text.toList) hts hus, ?_⟩
    rw [htext, List.append_assoc, List.map_append, List.append_assoc]
    exact hcut

/-- A path starts with no byte order mark and no comment. -/
theorem exists_text_cons {p : Path} (hp : p.WellSpelled) :
    ∃ c cs, p.text.toList = c :: cs ∧ c.toNat ≠ 0xfeff ∧ c ≠ '/' := by
  obtain ⟨global, segments⟩ := p
  obtain ⟨w, ws, rfl⟩ := List.exists_cons_of_ne_nil hp.ne_nil
  cases global with
  | true =>
    have htext : (Path.text ⟨true, w :: ws⟩).toList = ':' :: ':' :: (w.toList ++ restText ws) := by
      simp [Path.text, toList_join]
    exact ⟨':', _, htext, by decide, by decide⟩
  | false =>
    obtain ⟨c, cs, hw, hc⟩ := (hp.segment w List.mem_cons_self).1.exists_cons
    have htext : (Path.text ⟨false, w :: ws⟩).toList = c :: (cs ++ restText ws) := by
      simp [Path.text, toList_join, hw]
    refine ⟨c, _, htext, fun hmark => ?_, ne_of_isIdentStart hc (by decide)⟩
    have hno : Text.isIdentStart (Char.ofNat 0xfeff) = false := by decide +kernel
    rw [← hmark, Char.ofNat_toNat] at hno
    exact absurd (hc.symm.trans hno) (by decide)

/-- **The text of a path has the tokens of the path.** -/
theorem tokenize_path {p : Path} (hp : p.WellSpelled) :
    ∃ ts, tokenize p.text = some ts ∧ PathTrees p ts := by
  obtain ⟨ts, hts, hcut⟩ := cuts_path hp stops_nil (cuts_nil (Position.start.advance p.text.toList))
  obtain ⟨c, cs, htext, hc, -⟩ := exists_text_cons hp
  rw [List.append_nil, htext] at hcut
  have hnest : nest [] [] (ts.map .tree ++ []) = some ts := by
    rw [nest_trees, List.append_nil, nest, List.reverse_reverse]
  exact ⟨ts, (tokenize_of_cuts htext hc hcut).trans hnest, hts⟩

/-- **The text of a tuple of paths has the tokens of the paths in parentheses.** -/
theorem tokenize_tuple {p : Path} {ps : List Path} (hps : ∀ q ∈ p :: ps, q.WellSpelled) :
    ∃ ts left right, tokenize ("(" ++ listText (p :: ps) ++ ")") =
      some [.group .paren ts left right] ∧ ListTrees (p :: ps) ts := by
  obtain ⟨ts, hts, hcut⟩ := cuts_list hps (stops_cons [] (by decide) (by decide))
    (Cuts.closing .paren (cuts_nil _) :
      Cuts ((Position.start.step '(').advance (listText (p :: ps)).toList) [')'] _)
  have hhead : ((listText (p :: ps)).toList ++ [')']).head? ≠ some '/' := by
    obtain ⟨c, cs, htext, -, hc⟩ := exists_text_cons (hps p List.mem_cons_self)
    cases ps with
    | nil => simpa [listText, htext] using hc
    | cons q ps => simpa [listText_cons, htext] using hc
  have htext : ("(" ++ listText (p :: ps) ++ ")").toList =
      '(' :: ((listText (p :: ps)).toList ++ [')']) := by
    simp
  refine ⟨ts, .start, (Position.start.step '(').advance (listText (p :: ps)).toList, ?_, hts⟩
  rw [tokenize_of_cuts htext (by decide) (.paren hhead hcut), nest, nest_trees]
  simp [nest]

/-! ### Texts as types -/

/-- The type a text is read as. -/
def TypeExpr.ofText? (text : String) : Option TypeExpr :=
  (tokenize text).bind fun ts => (readType ts).toOption

/-- The readers of a list of tokens are two levels above others. -/
theorem exists_deeper (ts : List Tree) : ∃ g : Grammar, Grammar.forTokens ts = g.deeper.deeper :=
  ⟨.ofDepth (8 * Tree.sizeAll ts + 14), rfl⟩

theorem TypeExpr.ofText?_of_reads {text : String} {ts : List Tree} (htext : tokenize text = some ts)
    {Q : TypeExpr → Prop} (h : ∀ g : Grammar, Reads (typeReader g.deeper true) ts [] Q) :
    ∃ t, TypeExpr.ofText? text = some t ∧ Q t := by
  obtain ⟨g, hg⟩ := exists_deeper ts
  obtain ⟨t, hread, ht⟩ := (h g).runAll .start
  have htype : readType ts = .ok t := by
    rw [readType, hg]
    exact hread
  exact ⟨t, by rw [TypeExpr.ofText?, htext, Option.bind_some, htype]; rfl, ht⟩

/-- **The text of a plain path is read as the path.** -/
theorem TypeExpr.ofText?_path {p : Path} (hp : p.WellSpelled) :
    TypeExpr.ofText? p.text = some (.named p) := by
  obtain ⟨ts, htext, hts⟩ := tokenize_path hp
  obtain ⟨t, hread, rfl⟩ := TypeExpr.ofText?_of_reads htext fun g => by
    have hread := reads_typeReader_path g.deeper true hts hp .nil
    rwa [List.append_nil] at hread
  exact hread

/-- **The text of a tuple of plain paths is read as the tuple.** -/
theorem TypeExpr.ofText?_tuple {p q : Path} {ps : List Path}
    (hps : ∀ r ∈ p :: q :: ps, r.WellSpelled) :
    ∃ spelling, TypeExpr.ofText? ("(" ++ listText (p :: q :: ps) ++ ")") =
      some (.tuple ((p :: q :: ps).map .named) spelling) := by
  obtain ⟨ts, left, right, htext, hts⟩ := tokenize_tuple hps
  cases hts with
  | cons joint pos h hmore =>
    obtain ⟨t, hread, spelling, rfl⟩ := TypeExpr.ofText?_of_reads htext fun g =>
      reads_typeReader_tuple rfl joint pos h hmore hps left right
    exact ⟨spelling, hread⟩

/-- **Only paths that can be written are read from texts.** -/
theorem wellSpelled_of_ofText? {text : String} {p : Path}
    (h : TypeExpr.ofText? text = some (.named p)) : p.WellSpelled := by
  obtain ⟨ts, htext, hread⟩ := Option.bind_eq_some_iff.mp h
  obtain ⟨g, hg⟩ := exists_deeper ts
  have hwords : WordsSpelled ts := fun w pos hw => isSpelledWord_of_mem_tokenize htext hw
  have htype : readType ts = .ok (.named p) := by
    cases hr : readType ts with
    | error e => rw [hr] at hread; cases hread
    | ok t => rw [hr] at hread; cases hread; rfl
  rw [readType, hg] at htype
  obtain ⟨c, hc⟩ := of_runAll_eq_ok htype
  exact wellSpelled_of_typeReader hwords hc

/-! ### Texts of paths and of storages -/

/-- No `::` is left at the front of the joined segments. -/
theorem Path.WellSpelled.not_colons_join {p : Path} (hp : p.WellSpelled) :
    ¬"::".toList <+: (Path.join p.segments).toList := by
  obtain ⟨w, ws, hws⟩ := List.exists_cons_of_ne_nil hp.ne_nil
  obtain ⟨c, cs, hw, hc⟩ := (hp.segment w (hws ▸ List.mem_cons_self)).1.exists_cons
  rw [hws, toList_join, hw]
  intro hcolons
  exact ne_of_isIdentStart hc (by decide) (List.cons_prefix_cons.mp hcolons).1.symm

theorem Path.WellSpelled.text_inj {p q : Path} (hp : p.WellSpelled) (hq : q.WellSpelled)
    (h : p.text = q.text) : p = q := by
  have hread := TypeExpr.ofText?_path hp
  rw [h, TypeExpr.ofText?_path hq] at hread
  exact (TypeExpr.named.inj (Option.some.inj hread)).symm

/-- **The type of a compound storage is read as the tuple of the types of its slots.** -/
theorem Storage.ofText?_type {s : Storage} (hs : s.isCompound = true) {ps : List Path}
    (hps : ∀ p ∈ ps, p.WellSpelled) (htypes : s.slots.map (·.type) = ps.map Path.text) :
    ∃ spelling, TypeExpr.ofText? s.type = some (.tuple (ps.map .named) spelling) := by
  have hlength : 1 < ps.length := by
    rw [← ps.length_map (f := Path.text), ← htypes, List.length_map]
    exact of_decide_eq_true hs
  obtain ⟨p, q, ps, rfl⟩ : ∃ p q ps', ps = p :: q :: ps' := by
    match ps, hlength with
    | p :: q :: ps', _ => exact ⟨p, q, ps', rfl⟩
  have htext : s.type = "(" ++ listText (p :: q :: ps) ++ ")" := by
    rw [listText, ← htypes, Storage.type]
    split
    next slot hslots => exact absurd htypes (by simp [hslots])
    next => rfl
  rw [htext]
  exact TypeExpr.ofText?_tuple hps

/-- **Plain paths survive printing.** The paths that can be written are those that some text is
read as. The text of such a path is read as the path itself, its path is the text without the
leading `::`, and it is the text of no other path. The type of a compound storage of such paths
is read as the tuple of them in order. -/
theorem plainPaths_read_back :
    (∀ p : Path, p.WellSpelled ↔ ∃ text, TypeExpr.ofText? text = some (.named p)) ∧
    (∀ p : Path, p.WellSpelled → TypeExpr.ofText? (TypeExpr.named p).text = some (.named p)) ∧
    (∀ p : Path, p.WellSpelled → ∃ path, (TypeExpr.named p).path? = some path ∧
      (TypeExpr.named p).text = (if p.global then "::" else "") ++ path ∧
      ¬"::".toList <+: path.toList) ∧
    (∀ p q : Path, p.WellSpelled → q.WellSpelled →
      ((TypeExpr.named p).text = (TypeExpr.named q).text ↔ p = q)) ∧
    (∀ (s : Storage) (ps : List Path), s.isCompound = true → (∀ p ∈ ps, p.WellSpelled) →
      s.slots.map (·.type) = ps.map (fun p => (TypeExpr.named p).text) →
      ∃ spelling, TypeExpr.ofText? s.type = some (.tuple (ps.map .named) spelling)) := by
  refine ⟨fun p => ⟨fun hp => ?_, fun ⟨_, h⟩ => ?_⟩, fun p hp => ?_, fun p hp => ?_,
    fun p q hp hq => ⟨fun h => ?_, fun h => ?_⟩, fun s ps hs hps htypes => ?_⟩
  · exact ⟨p.text, TypeExpr.ofText?_path hp⟩
  · exact wellSpelled_of_ofText? h
  · exact TypeExpr.ofText?_path hp
  · exact ⟨Path.join p.segments, rfl, rfl, hp.not_colons_join⟩
  · exact hp.text_inj hq h
  · rw [h]
  · exact s.ofText?_type hs hps htypes

/-- A leading `::`, a raw name, a name beyond ASCII, and words that are no names. -/
theorem plainPaths_read_back_mixed :
    let p : Path := ⟨true, ["std", "r#fn", "Größe"]⟩
    let q : Path := ⟨false, ["crate", "try", "Self"]⟩
    let s : Storage :=
      ⟨[⟨"a", "::std::r#fn::Größe", false⟩, ⟨"b", "crate::try::Self", true⟩], .value⟩
    TypeExpr.ofText? "::std::r#fn::Größe" = some (.named p) ∧
      (∃ path, (TypeExpr.named p).path? = some path ∧ "::std::r#fn::Größe" = "::" ++ path) ∧
      (TypeExpr.named p).text ≠ (TypeExpr.named q).text ∧
      ∃ spelling, TypeExpr.ofText? s.type = some (.tuple [.named p, .named q] spelling) := by
  intro p q s
  have hp : p.WellSpelled := ⟨by decide, by decide +kernel, by decide⟩
  have hq : q.WellSpelled := ⟨by decide, by decide +kernel, by decide⟩
  have hp_text : (TypeExpr.named p).text = "::std::r#fn::Größe" := by decide +kernel
  have hq_text : (TypeExpr.named q).text = "crate::try::Self" := by decide +kernel
  obtain ⟨-, hread, hpath, htext, hstorage⟩ := plainPaths_read_back
  refine ⟨hp_text ▸ hread p hp, ?_, ?_, ?_⟩
  · obtain ⟨path, hpath, htext, -⟩ := hpath p hp
    exact ⟨path, hpath, hp_text ▸ htext⟩
  · exact (htext p q hp hq).not.mpr (by decide)
  · refine hstorage s [p, q] rfl (by simp [hp, hq]) ?_
    simp only [s, List.map_cons, List.map_nil, hp_text, hq_text]

end Newtype
