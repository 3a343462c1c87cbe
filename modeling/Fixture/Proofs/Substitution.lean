import Fixture.Tag.Resolver
import Fixture.Proofs.Loops
import Fixture.Proofs.Scan

/-! # A pass as one substitution

    Expanding a kind of tags replaces one token after another in the text as it
    then stands.  Writing every tag that the scan found by its replacement, all
    at once and leaving the gaps alone, is the simpler account of the same
    pass.  The two agree as long as no replacement meets text that was not a
    tag to begin with: text that earlier replacements brought in or pushed
    together, and the ends of longer tokens.

    The invariant of the pass is the text after some tokens have had their
    turn: the segments of the scan, those tokens written by their replacements
    and the others still as they were.  One replacement moves one token from
    the others to the written ones exactly if the token is nowhere else in that
    text.  So a text is cut at the tags of the token, and the stretches between
    them are what has to be free of it. -/

namespace Fixture

open Text

namespace Segments

/-! ## Stretches -/

/-- The stretches of text between the tags that `u` leaves open, the other
    tags written by it; `a` stands in front. -/
def stretchesFrom (u : List Char → Option (List Char)) (rest : List Char) :
    List Occurrence → List Char → List (List Char)
  | [], a => [a ++ rest]
  | o :: tags, a =>
      match u o.content with
      | some new => stretchesFrom u rest tags (a ++ o.gap ++ new)
      | none => (a ++ o.gap) :: stretchesFrom u rest tags []

/-- The stretches of text between the tags that `u` leaves open. -/
def stretches (u : List Char → Option (List Char)) (t : Segments) :
    List (List Char) :=
  stretchesFrom u t.rest t.tags []

theorem stretchesFrom_ne_nil (u : List Char → Option (List Char)) (rest : List Char)
    (tags : List Occurrence) (a : List Char) : stretchesFrom u rest tags a ≠ [] := by
  induction tags generalizing a with
  | nil => exact List.cons_ne_nil _ _
  | cons o tags ih =>
      rw [stretchesFrom]
      cases u o.content with
      | some new => exact ih _
      | none => exact List.cons_ne_nil _ _

/-- A text is its stretches, joined by what the open tags are written as. -/
theorem intercalate_stretchesFrom (u : List Char → Option (List Char)) (new rest : List Char)
    (tags : List Occurrence) (a : List Char) :
    new.intercalate (stretchesFrom u rest tags a)
      = a ++ join (fun d => (u d).getD new) ⟨tags, rest⟩ := by
  induction tags generalizing a with
  | nil => exact List.intercalate_singleton
  | cons o tags ih =>
      rw [stretchesFrom, join_cons]
      cases u o.content with
      | some y =>
          rw [ih]
          simp only [Option.getD_some, List.append_assoc]
      | none =>
          rw [List.intercalate_cons_of_ne_nil (stretchesFrom_ne_nil u rest tags []), ih]
          simp only [Option.getD_none, List.append_assoc, List.nil_append]

theorem intercalate_stretches (u : List Char → Option (List Char)) (new : List Char)
    (t : Segments) :
    new.intercalate (t.stretches u) = t.join (fun d => (u d).getD new) :=
  intercalate_stretchesFrom u new t.rest t.tags []

/-! ## Turns -/

/-- The text of a tag when the contents in `done` have had their turn. -/
def partly (k : TagKind) (w : List Char → List Char) (done : List (List Char))
    (c : List Char) : List Char :=
  if c ∈ done then w c else k.token c

/-- What a tag is written as at the turn of `c`: those of `c` are open, unless
    they have had a turn before. -/
def atTurn (k : TagKind) (w : List Char → List Char) (done : List (List Char))
    (c d : List Char) : Option (List Char) :=
  if d ∈ done then some (w d) else if d = c then none else some (k.token d)

/-- With its token in the open tags the text is the one before the turn. -/
theorem atTurn_getD_token (k : TagKind) (w : List Char → List Char)
    (done : List (List Char)) (c d : List Char) :
    (atTurn k w done c d).getD (k.token c) = partly k w done d := by
  rw [atTurn, partly]
  by_cases hd : d ∈ done
  · rw [if_pos hd, if_pos hd]
    rfl
  · rw [if_neg hd, if_neg hd]
    by_cases hc : d = c
    · rw [if_pos hc, hc]
      rfl
    · rw [if_neg hc]
      rfl

/-- With what it is written as in them the text is the one behind the turn. -/
theorem atTurn_getD_written (k : TagKind) (w : List Char → List Char)
    (done : List (List Char)) (c d : List Char) :
    (atTurn k w done c d).getD (w c) = partly k w (done ++ [c]) d := by
  rw [atTurn, partly]
  by_cases hd : d ∈ done
  · rw [if_pos hd, if_pos (List.mem_append_left _ hd)]
    rfl
  · rw [if_neg hd]
    by_cases hc : d = c
    · rw [if_pos hc, if_pos (by simp [hc]), hc]
      rfl
    · rw [if_neg hc, if_neg (by simp [hd, hc])]
      rfl

theorem partly_nil (k : TagKind) (w : List Char → List Char) :
    partly k w [] = k.token := by
  funext c
  exact if_neg List.not_mem_nil

/-- **ONE TURN** of a token that is written as something else: it moves the content
    to those written, and touches nothing else, exactly if the token is in no
    stretch between the tags of that content. -/
theorem replaceAll_join_partly_iff {k : TagKind} {w : List Char → List Char} {c : List Char}
    (hc : ']' ∉ c) (hw : w c ≠ k.token c) (done : List (List Char)) (t : Segments) :
    replaceAll (k.token c) (w c) (t.join (partly k w done))
        = t.join (partly k w (done ++ [c]))
      ↔ ∀ g ∈ t.stretches (atTurn k w done c), ¬ k.token c <:+: g := by
  have hbefore := intercalate_stretches (atTurn k w done c) (k.token c) t
  have hbehind := intercalate_stretches (atTurn k w done c) (w c) t
  simp only [atTurn_getD_token] at hbefore
  simp only [atTurn_getD_written] at hbehind
  rw [← hbefore, ← hbehind]
  exact replaceAll_intercalate_eq_iff (TagKind.close_not_mem_append hc) hw _

/-! ## All turns -/

/-- The token of each content that is written as something else is, when its
    turn comes, nowhere but in the tags with that content. -/
def Fresh (k : TagKind) (w : List Char → List Char) (t : Segments) : Prop :=
  ∀ i, (hi : i < t.contents.length) → w t.contents[i] ≠ k.token t.contents[i] →
    ∀ g ∈ t.stretches (atTurn k w (t.contents.take i) t.contents[i]),
      ¬ k.token t.contents[i] <:+: g

instance (k : TagKind) (w : List Char → List Char) (t : Segments) :
    Decidable (t.Fresh k w) := by
  unfold Fresh
  infer_instance

/-- Every turn moves its content from those still to come to those written, and
    does nothing else. -/
def TurnByTurn (k : TagKind) (w : List Char → List Char) (t : Segments) : Prop :=
  ∀ i, (hi : i < t.contents.length) →
    replaceAll (k.token t.contents[i]) (w t.contents[i]) (t.join (partly k w (t.contents.take i)))
      = t.join (partly k w (t.contents.take (i + 1)))

/-- The turn of a token that stays moves nothing. -/
theorem join_partly_concat_of_eq {k : TagKind} {w : List Char → List Char} {c : List Char}
    (hw : w c = k.token c) (done : List (List Char)) (t : Segments) :
    t.join (partly k w (done ++ [c])) = t.join (partly k w done) := by
  refine join_congr fun d _ => ?_
  rw [← atTurn_getD_written, ← atTurn_getD_token, hw]

/-- **NO WEAKER CONDITION** makes every turn do what it should. -/
theorem fresh_iff_turnByTurn {k : TagKind} {w : List Char → List Char} {t : Segments}
    (hclose : ∀ c ∈ t.contents, ']' ∉ c) : t.Fresh k w ↔ t.TurnByTurn k w := by
  refine forall_congr' fun i => forall_congr' fun hi => ?_
  rw [List.take_succ_eq_append_getElem hi]
  by_cases hw : w t.contents[i] = k.token t.contents[i]
  · refine iff_of_true (fun h => absurd hw h) ?_
    rw [join_partly_concat_of_eq hw, hw, replaceAll_same]
  · rw [replaceAll_join_partly_iff (hclose _ (List.getElem_mem hi)) hw]
    exact ⟨fun h => h hw, fun h _ => h⟩

/-- **THE RUN**: giving every tag its turn writes all tags. -/
theorem foldl_replaceAll_join {k : TagKind} {w : List Char → List Char}
    {t : Segments} (h : t.TurnByTurn k w) :
    t.contents.foldl (fun s c => replaceAll (k.token c) (w c) s) (t.join k.token)
      = t.join w := by
  -- by induction on the turns already over
  have run : ∀ i ≤ t.contents.length,
      (t.contents.take i).foldl (fun s c => replaceAll (k.token c) (w c) s) (t.join k.token)
        = t.join (partly k w (t.contents.take i)) := by
    intro i
    induction i with
    | zero =>
        intro _
        rw [List.take_zero, partly_nil]
        rfl
    | succ i ih =>
        intro hi
        rw [← h i hi, ← ih (Nat.le_of_lt hi), List.take_succ_eq_append_getElem hi,
          List.foldl_append]
        rfl
  have hall := run t.contents.length (Nat.le_refl _)
  rw [List.take_length] at hall
  rw [hall]
  exact join_congr fun c hc => if_pos hc

/-! ## Tokens that do not end each other -/

/-- No token is a proper end of another. -/
def EndsApart (k : TagKind) (t : Segments) : Prop :=
  ∀ c ∈ t.contents, ∀ d ∈ t.contents, k.token c <:+ k.token d → c = d

/-- What a tag is written as when all contents but those in `done` are open. -/
def writtenAmong (w : List Char → List Char) (done : List (List Char))
    (c : List Char) : Option (List Char) :=
  if c ∈ done then some (w c) else none

/-- Every stretch is part of the text in which all tags are written. -/
theorem infix_join_of_mem_stretchesFrom {w : List Char → List Char}
    {done : List (List Char)} {rest g : List Char} :
    ∀ (tags : List Occurrence) (a : List Char),
      g ∈ stretchesFrom (writtenAmong w done) rest tags a →
        g <:+: a ++ join w ⟨tags, rest⟩ := by
  intro tags
  induction tags with
  | nil =>
      intro a hg
      rw [List.mem_singleton.mp hg]
      exact List.infix_rfl
  | cons o tags ih =>
      intro a hg
      rw [stretchesFrom, writtenAmong] at hg
      rw [join_cons]
      by_cases ho : o.content ∈ done
      · rw [if_pos ho] at hg
        have := ih (a ++ o.gap ++ w o.content) hg
        simpa only [List.append_assoc] using this
      · rw [if_neg ho] at hg
        rcases List.mem_cons.mp hg with rfl | hg
        · exact ⟨[], w o.content ++ join w ⟨tags, rest⟩, by simp⟩
        · have hin := (ih [] hg).trans
            (List.suffix_append (a ++ o.gap ++ w o.content) (join w ⟨tags, rest⟩)).isInfix
          simpa only [List.append_assoc, List.nil_append] using hin

/-- A token that no other token ends with or ends, and that is in no stretch between
    all the tags still open, is in none between its own: what is in front of another
    tag, and that tag, is passed over in the search for it. -/
theorem not_infix_of_endsApart {k : TagKind} {w : List Char → List Char}
    {done : List (List Char)} {c rest : List Char} (hc : ']' ∉ c) :
    ∀ (tags : List Occurrence) (a b : List Char),
      (∀ o ∈ tags, ']' ∉ o.content) →
      (∀ o ∈ tags, k.token c <:+ k.token o.content → c = o.content) →
      (∀ o ∈ tags, k.token o.content <:+ k.token c → o.content = c) →
      Inert (k.token c) a →
      (∀ g ∈ stretchesFrom (writtenAmong w done) rest tags b, ¬ k.token c <:+: g) →
      ∀ g ∈ stretchesFrom (atTurn k w done c) rest tags (a ++ b), ¬ k.token c <:+: g := by
  intro tags
  induction tags with
  | nil =>
      intro a b _ _ _ ha hfree g hg
      obtain rfl := List.mem_singleton.mp hg
      rw [List.append_assoc]
      exact fun hin => hfree _ (List.mem_singleton.mpr rfl) (ha.of_infix_append hin)
  | cons o tags ih =>
      intro a b hclose hend hended ha hfree
      have hrest := fun a b => ih a b (fun p hp => hclose p (List.mem_cons_of_mem o hp))
        (fun p hp => hend p (List.mem_cons_of_mem o hp))
        (fun p hp => hended p (List.mem_cons_of_mem o hp))
      rw [stretchesFrom, writtenAmong] at hfree
      rw [stretchesFrom, atTurn]
      by_cases ho : o.content ∈ done
      · -- already written: the tag is part of the stretch that goes on
        rw [if_pos ho] at hfree ⊢
        have := hrest a (b ++ o.gap ++ w o.content) ha hfree
        simpa only [List.append_assoc] using this
      · rw [if_neg ho] at hfree ⊢
        have hgap := hfree _ (List.mem_cons_self ..)
        have hlater := fun g hg => hfree g (List.mem_cons_of_mem _ hg)
        by_cases hoc : o.content = c
        · rw [if_pos hoc]
          intro g hg
          rcases List.mem_cons.mp hg with rfl | hg
          · rw [List.append_assoc]
            exact fun hin => hgap (ha.of_infix_append hin)
          · exact hrest [] [] (inert_nil _) hlater g hg
        · -- another tag: with the gap in front of it it is passed over
          rw [if_neg hoc]
          have htag : Inert (k.token c) (b ++ o.gap ++ k.token o.content) :=
            TagKind.inert_append_token hc (hclose o (List.mem_cons_self ..)) hgap
              (fun h => hoc (hend o (List.mem_cons_self ..) h).symm)
              (fun h => hoc (hended o (List.mem_cons_self ..) h))
          have := hrest _ [] (ha.append htag) hlater
          simpa only [List.append_assoc, List.append_nil] using this

/-- Where no token ends another, the stretches between all the tags still open are
    enough. -/
theorem fresh_of_endsApart {k : TagKind} {w : List Char → List Char} {t : Segments}
    (hclose : ∀ c ∈ t.contents, ']' ∉ c) (hends : t.EndsApart k)
    (hfree : ∀ i, (hi : i < t.contents.length) → w t.contents[i] ≠ k.token t.contents[i] →
      ∀ g ∈ t.stretches (writtenAmong w (t.contents.take i)),
        ¬ k.token t.contents[i] <:+: g) :
    t.Fresh k w := by
  intro i hi hw
  have hmem : t.contents[i] ∈ t.contents := List.getElem_mem hi
  have hmemOf : ∀ o ∈ t.tags, o.content ∈ t.contents := fun o ho => List.mem_map_of_mem ho
  exact not_infix_of_endsApart (hclose _ hmem) t.tags [] []
    (fun o ho => hclose _ (hmemOf o ho)) (fun o ho => hends _ hmem _ (hmemOf o ho))
    (fun o ho => hends _ (hmemOf o ho) _ hmem)
    (inert_nil _) (hfree i hi hw)

end Segments

namespace Resolver

/-! ## The pass of a resolver -/

/-- The text a tag becomes: its replacement, or its token without one. -/
def written (r : Resolver) (k : TagKind) (content : List Char) : List Char :=
  match r.replacement k content with
  | .ok (some new) => new
  | _ => k.token content

theorem written_eq_getD {r : Resolver} {k : TagKind} {c : List Char}
    {new? : Option (List Char)} (h : r.replacement k c = .ok new?) :
    r.written k c = new?.getD (k.token c) := by
  rw [written, h]
  cases new? <;> rfl

/-- A pass asks for the replacements in order, and fails if one does; all it
    does to the text is replace tokens. -/
theorem expand_eq_foldl (r : Resolver) (k : TagKind) (s : List Char) :
    r.expand k s
      = ((Segments.scan k s).contents.mapM (r.replacement k)).map fun _ =>
          (Segments.scan k s).contents.foldl
            (fun out c => replaceAll (k.token c) (r.written k c) out) s := by
  rw [expand, Segments.contents]
  generalize (Segments.scan k s).tags = tags
  induction tags generalizing s with
  | nil => rfl
  | cons o tags ih =>
      rw [List.foldlM_cons, List.map_cons, List.mapM_cons, List.foldl_cons, written]
      cases h : r.replacement k o.content with
      | error e => rfl
      | ok new? =>
          cases new? with
          | none =>
              rw [replaceAll_same]
              show tags.foldlM _ s = _
              rw [ih]
              cases (tags.map Occurrence.content).mapM (r.replacement k) <;> rfl
          | some new =>
              show tags.foldlM _ (replaceAll (k.token o.content) new s) = _
              rw [ih]
              cases (tags.map Occurrence.content).mapM (r.replacement k) <;> rfl

/-- A pass fails only if the replacement of a tag that it finds fails. -/
theorem expand_error_iff {r : Resolver} {k : TagKind} {s : List Char} :
    (∃ e, r.expand k s = .error e)
      ↔ ∃ c ∈ (Segments.scan k s).contents, ∃ e, r.replacement k c = .error e := by
  rw [expand_eq_foldl]
  generalize (Segments.scan k s).contents.foldl _ s = out
  induction (Segments.scan k s).contents with
  | nil =>
      constructor
      · rintro ⟨e, he⟩
        cases he
      · rintro ⟨c, hc, -⟩
        cases hc
  | cons c cs ih =>
      rw [List.mapM_cons, List.exists_mem_cons_iff, ← ih]
      cases r.replacement k c with
      | error e => exact ⟨fun _ => .inl ⟨e, rfl⟩, fun _ => ⟨e, rfl⟩⟩
      | ok new? =>
          cases cs.mapM (r.replacement k) with
          | error e => exact ⟨fun _ => .inr ⟨e, rfl⟩, fun _ => ⟨e, rfl⟩⟩
          | ok news =>
              constructor
              · rintro ⟨e, he⟩
                cases he
              · rintro (⟨e, he⟩ | ⟨e, he⟩)
                · cases he
                · cases he

/-- A pass fails as the first of its replacements that fails. -/
theorem expand_eq_error_iff {r : Resolver} {k : TagKind} {s : List Char} {e : Overflow} :
    r.expand k s = .error e
      ↔ (Segments.scan k s).contents.mapM (r.replacement k) = .error e := by
  rw [expand_eq_foldl, map_eq_error_iff]

/-- **A PASS IS ONE SUBSTITUTION**: the gaps stay and every tag found becomes
    its replacement, or stays without one, if no token that gives way stands,
    when its turn comes, anywhere but in its tags; and under no weaker condition
    does every turn write its tags and nothing else.  The pass fails only as a
    replacement does. -/
theorem expand_eq_join (r : Resolver) (k : TagKind) (s : List Char) :
    (∀ e, r.expand k s = .error e
      ↔ (Segments.scan k s).contents.mapM (r.replacement k) = .error e)
    ∧ ((Segments.scan k s).Fresh k (r.written k) →
      r.expand k s
        = ((Segments.scan k s).contents.mapM (r.replacement k)).map fun _ =>
            (Segments.scan k s).join (r.written k))
    ∧ ((Segments.scan k s).Fresh k (r.written k)
      ↔ (Segments.scan k s).TurnByTurn k (r.written k)) := by
  have hturns : (Segments.scan k s).Fresh k (r.written k)
      ↔ (Segments.scan k s).TurnByTurn k (r.written k) :=
    Segments.fresh_iff_turnByTurn Segments.close_not_mem_content
  refine ⟨fun e => expand_eq_error_iff, fun hfresh => ?_, hturns⟩
  have hrun := Segments.foldl_replaceAll_join (hturns.mp hfresh)
  rw [Segments.join_scan] at hrun
  rw [expand_eq_foldl, hrun]

/-- A resolver over configured texts. -/
private def configured (entries : List (String × String)) : Resolver :=
  { environment := .object (entries.map fun e => (e.1, .string e.2))
    scenario := Store.empty
    clock := ⟨0, 0, 0⟩ }

/-- A longer token may stand in front of the one that ends it, and a value may bring
    in a token whose turn is over: it stays. -/
theorem expand_eq_join_longer_first :
    let r := configured [("a", "1"), ("b", "see [CONF:a]")]
    let s := "[CONF:[CONF:b], [CONF:a], [CONF:b], [CONF:b]".toList
    (Segments.scan .conf s).Fresh .conf (r.written .conf)
      ∧ (r.expand .conf s).toOption = some "<nil>, 1, see [CONF:a], see [CONF:a]".toList := by
  intro r s
  have hfresh : (Segments.scan .conf s).Fresh .conf (r.written .conf) := by
    decide +kernel
  refine ⟨hfresh, ?_⟩
  rw [(expand_eq_join r .conf s).2.1 hfresh]
  decide +kernel

/-- Without the condition a pass is no substitution: a value brings in a
    token whose turn is still to come, a token ends a longer one, a value and
    the gap in front of it make up a token. -/
theorem expand_ne_join :
    let r := configured [("a", "[CONF:b]"), ("b", "x"), ("j", "F:b]")]
    ∀ s ∈ ["[CONF:a][CONF:b]", "[CONF:b] [CONF:[CONF:b]", "[CON[CONF:j] [CONF:b]"],
      r.expand .conf s.toList
        ≠ ((Segments.scan .conf s.toList).contents.mapM (r.replacement .conf)).map
            fun _ => (Segments.scan .conf s.toList).join (r.written .conf) := by
  intro r s hs h
  have hne : ∀ s ∈ ["[CONF:a][CONF:b]", "[CONF:b] [CONF:[CONF:b]", "[CON[CONF:j] [CONF:b]"],
      (r.expand .conf s.toList).toOption
        ≠ (((Segments.scan .conf s.toList).contents.mapM (r.replacement .conf)).map
            fun _ => (Segments.scan .conf s.toList).join (r.written .conf)).toOption := by
    decide +kernel
  exact hne s hs (congrArg Except.toOption h)

end Resolver

end Fixture
