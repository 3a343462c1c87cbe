import Fixture.Proofs.Settled
import Fixture.Tag.Offsets

/-! # Texts divided at their tags

    What a scan finds is told without the scan: the tags and the gaps between them make up
    the text, no content goes past a closing bracket, no opening starts in front of a tag,
    and what is left has no complete tag.  There is one such division of every text, and
    the scan gives it.

    A scan by offsets goes through the same division.  At the beginning of each round the
    offset is the number of bytes in front of what is left, so a slice of it is a slice of
    the text, and none of them can fail. -/

namespace Fixture

open Text

/-! ## Divisions -/

namespace Segments

variable {k : TagKind} {s : List Char} {t : Segments}

/-- The gaps and tags are those of the text. -/
structure Divides (k : TagKind) (t : Segments) (s : List Char) : Prop where
  /-- They make up the text. -/
  join : t.join k.token = s
  /-- A tag ends at the first closing bracket. -/
  no_close : ∀ o ∈ t.tags, ']' ∉ o.content
  /-- No opening starts in a gap, not even one that reaches into the tag behind it. -/
  no_opening : ∀ o ∈ t.tags, ∀ v, v <:+ o.gap → v ≠ [] → ¬ k.opening <+: v ++ k.token o.content
  /-- No opening in what is left has a closing bracket behind it. -/
  no_tag : ¬ k.OccursIn t.rest

/-- An opening that starts in a gap ends in the tag behind it at the latest. -/
theorem opening_prefix_append_iff {v c u : List Char} :
    k.opening <+: v ++ (k.token c ++ u) ↔ k.opening <+: v ++ k.token c := by
  constructor
  · intro h
    have hfront : v ++ k.token c <+: v ++ (k.token c ++ u) :=
      ⟨u, List.append_assoc ..⟩
    refine List.prefix_of_prefix_length_le h hfront ?_
    simp only [TagKind.token, List.length_append]
    omega
  · rintro ⟨w, hw⟩
    exact ⟨w ++ u, by rw [← List.append_assoc, hw, List.append_assoc]⟩

/-- The first opening in a divided text is that of the first tag. -/
theorem cut?_opening_of_divides {o : Occurrence} {tags : List Occurrence} {rest : List Char}
    (h : Divides k ⟨o :: tags, rest⟩ s) :
    cut? k.opening s = some (o.gap, o.content ++ ([']'] ++ join k.token ⟨tags, rest⟩)) := by
  have hs : s = o.gap ++ (k.token o.content ++ join k.token ⟨tags, rest⟩) := by
    rw [← h.join, join_cons, List.append_assoc]
  have hgap : ∀ v, v <:+ o.gap → v ≠ [] →
      ¬ k.opening <+: v ++ (k.token o.content ++ join k.token ⟨tags, rest⟩) := by
    intro v hv hne hp
    exact h.no_opening o (List.mem_cons_self ..) v hv hne (opening_prefix_append_iff.mp hp)
  have htoken : cut? k.opening (k.token o.content ++ join k.token ⟨tags, rest⟩)
      = some ([], o.content ++ ([']'] ++ join k.token ⟨tags, rest⟩)) := by
    rw [TagKind.token, List.append_assoc, List.append_assoc]
    exact cut?_append_self ..
  rw [hs, cut?_append_front hgap, htoken]
  simp

/-- **ONE DIVISION**: a scan finds the gaps and tags that a text is divided into. -/
theorem scan_of_divides (h : Divides k t s) : scan k s = t := by
  obtain ⟨tags, rest⟩ := t
  induction tags generalizing s with
  | nil =>
      rw [← h.join]
      exact scan_of_not_occursIn h.no_tag
  | cons o tags ih =>
      have hclose := cut?_singleton (h.no_close o (List.mem_cons_self ..))
        (join k.token ⟨tags, rest⟩)
      have hlater := ih
        { join := rfl
          no_close := fun o' ho' => h.no_close o' (List.mem_cons_of_mem o ho')
          no_opening := fun o' ho' => h.no_opening o' (List.mem_cons_of_mem o ho')
          no_tag := h.no_tag }
      rw [scan_of_closed (cut?_opening_of_divides h) hclose, hlater]

/-- What a scan finds is a division. -/
theorem divides_scan (k : TagKind) (s : List Char) : Divides k (scan k s) s where
  join := join_scan k s
  no_close := fun o ho => close_not_mem_content o.content (List.mem_map_of_mem ho)
  no_opening := by
    fun_induction scan k s with
    | case1 | case2 =>
        intro o ho
        cases ho
    | case3 s gap inside h content after hin later ih =>
        intro o ho v hv hne hp
        rcases List.mem_cons.mp ho with rfl | ho
        · refine not_prefix_of_cut? h hv hne ?_
          have hinside : k.opening ++ inside = k.token content ++ after := by
            rw [eq_of_cut? hin]
            simp only [TagKind.token, List.append_assoc]
          rw [hinside]
          exact opening_prefix_append_iff.mpr hp
        · exact ih o ho v hv hne hp
  no_tag := by
    fun_induction scan k s with
    | case1 s h => exact tags_scan_eq_nil_iff.mp (by rw [scan_of_no_opening h])
    | case2 s gap inside h hin => exact tags_scan_eq_nil_iff.mp (by rw [scan_of_unclosed h hin])
    | case3 s gap inside h content after hin later ih => exact ih

end Segments

/-! ## The scan by offsets -/

namespace Spot

variable {k : TagKind} {rest gap inside content after : List Char}

theorem find?_of_no_opening (h : cut? k.opening rest = none) : find? k rest = none := by
  have hstart : Text.find? k.opening rest = none := by
    rw [Text.find?, h]
    rfl
  rw [find?, hstart]
  rfl

/-- The content is looked for behind an opening that was found. -/
theorem dropBytes?_inside (h : cut? k.opening rest = some (gap, inside)) :
    dropBytes? (byteSize gap + byteSize k.opening) rest = some inside := by
  rw [eq_of_cut? h, ← byteSize_append]
  exact dropBytes?_append (gap ++ k.opening) inside

/-- Behind an opening it is the closing bracket that decides. -/
theorem find?_of_opening (h : cut? k.opening rest = some (gap, inside)) :
    find? k rest = (Text.find? [']'] inside).map fun length =>
      ⟨byteSize gap, byteSize gap + byteSize k.opening,
        byteSize gap + byteSize k.opening + length⟩ := by
  have hstart : Text.find? k.opening rest = some (byteSize gap) := by
    rw [Text.find?, h]
    rfl
  rw [find?, hstart]
  show (dropBytes? (byteSize gap + byteSize k.opening) rest).bind _ = _
  rw [dropBytes?_inside h, Option.bind_some]
  cases Text.find? [']'] inside <;> rfl

/-- A closed opening is found, with the offsets of its parts. -/
theorem find?_of_closed (h : cut? k.opening rest = some (gap, inside))
    (hin : cut? [']'] inside = some (content, after)) :
    find? k rest = some ⟨byteSize gap, byteSize gap + byteSize k.opening,
      byteSize gap + byteSize k.opening + byteSize content⟩ := by
  rw [find?_of_opening h, Text.find?, hin]
  rfl

/-- No tag is found where none is closed. -/
theorem find?_of_unclosed (h : cut? k.opening rest = some (gap, inside))
    (hin : cut? [']'] inside = none) : find? k rest = none := by
  rw [find?_of_opening h, Text.find?, hin]
  rfl

/-- A token is as long as its opening, its content and a bracket. -/
theorem byteSize_token (k : TagKind) (c : List Char) :
    byteSize (k.token c) = byteSize k.opening + byteSize c + 1 := by
  rw [TagKind.token, byteSize_append, byteSize_append]
  rfl

/-- The slices of a tag behind an offset are its token and its content. -/
theorem slice?_append (k : TagKind) (before gap content after : List Char) :
    slice? ⟨byteSize gap, byteSize gap + byteSize k.opening,
        byteSize gap + byteSize k.opening + byteSize content⟩ (byteSize before)
        (before ++ (gap ++ (k.token content ++ after)))
      = some ⟨k.token content, content⟩ := by
  have htoken : Text.slice? (byteSize before + byteSize gap)
      (byteSize before + (byteSize gap + byteSize k.opening + byteSize content) + 1)
      (before ++ (gap ++ (k.token content ++ after))) = some (k.token content) := by
    have h := Text.slice?_append (before ++ gap) (k.token content) after
    rw [byteSize_append, byteSize_token, List.append_assoc] at h
    rw [← h]
    congr 1
    omega
  have hcontent : Text.slice? (byteSize before + (byteSize gap + byteSize k.opening))
      (byteSize before + (byteSize gap + byteSize k.opening + byteSize content))
      (before ++ (gap ++ (k.token content ++ after))) = some content := by
    have h := Text.slice?_append (before ++ gap ++ k.opening) content ([']'] ++ after)
    rw [byteSize_append, byteSize_append] at h
    simp only [TagKind.token, List.append_assoc] at h ⊢
    rw [← h]
    congr 1
    · omega
    · omega
  rw [slice?, htoken, hcontent]
  rfl

/-- A tag that is found is closed. -/
theorem exists_token_of_find? {spot : Spot} (h : find? k rest = some spot) :
    ∃ gap content after, rest = gap ++ (k.token content ++ after)
      ∧ spot = ⟨byteSize gap, byteSize gap + byteSize k.opening,
        byteSize gap + byteSize k.opening + byteSize content⟩ := by
  cases hopen : cut? k.opening rest with
  | none =>
      rw [find?_of_no_opening hopen] at h
      cases h
  | some gi =>
      obtain ⟨gap, inside⟩ := gi
      cases hclose : cut? [']'] inside with
      | none =>
          rw [find?_of_unclosed hopen hclose] at h
          cases h
      | some ca =>
          obtain ⟨content, after⟩ := ca
          refine ⟨gap, content, after, ?_,
            (Option.some.inj (h.symm.trans (find?_of_closed hopen hclose)))⟩
          rw [eq_of_cut? hopen, eq_of_cut? hclose]
          simp only [TagKind.token, List.append_assoc]

end Spot

namespace TagSlice

variable {k : TagKind} {s : List Char} {offset : Nat}

/-- A tag as a scan has found it. -/
def ofOccurrence (k : TagKind) (o : Occurrence) : TagSlice := ⟨k.token o.content, o.content⟩

theorem rest_append (before r : List Char) : rest (before ++ r) (byteSize before) = r := by
  rw [rest, dropBytes?_append]
  rfl

theorem scanFrom_of_none (h : Spot.find? k (rest s offset) = none) : scanFrom k s offset = [] := by
  rw [scanFrom]
  split
  · rfl
  · rename_i spot hspot
    rw [h] at hspot
    cases hspot

/-- A round that finds a tag gives it, and goes on behind it. -/
theorem scanFrom_of_some {spot : Spot} (h : Spot.find? k (rest s offset) = some spot) :
    scanFrom k s offset
      = (spot.slice? offset s).toList ++ scanFrom k s (offset + spot.stop + 1) := by
  rw [scanFrom]
  split
  · rename_i hspot
    rw [h] at hspot
    cases hspot
  · rename_i spot' hspot
    rw [h] at hspot
    obtain rfl := Option.some.inj hspot
    rfl

/-- **NO TAG IS MISSING**: from an offset between two characters on, the scan by offsets
    finds the tags of the text that is left. -/
theorem scanFrom_append (k : TagKind) (before r : List Char) :
    scanFrom k (before ++ r) (byteSize before)
      = (Segments.scan k r).tags.map (ofOccurrence k) := by
  fun_induction Segments.scan k r generalizing before with
  | case1 r h =>
      refine scanFrom_of_none ?_
      rw [rest_append]
      exact Spot.find?_of_no_opening h
  | case2 r gap inside h hin =>
      refine scanFrom_of_none ?_
      rw [rest_append]
      exact Spot.find?_of_unclosed h hin
  | case3 r gap inside h content after hin later ih =>
      have hr : r = gap ++ (k.token content ++ after) := by
        rw [eq_of_cut? h, eq_of_cut? hin]
        simp only [TagKind.token, List.append_assoc]
      have hspot : Spot.find? k (rest (before ++ r) (byteSize before)) = some
          ⟨byteSize gap, byteSize gap + byteSize k.opening,
            byteSize gap + byteSize k.opening + byteSize content⟩ := by
        rw [rest_append]
        exact Spot.find?_of_closed h hin
      have hnext := ih (before ++ (gap ++ k.token content))
      rw [byteSize_append, byteSize_append, Spot.byteSize_token] at hnext
      rw [scanFrom_of_some hspot, hr, Spot.slice?_append, List.map_cons, ← hnext]
      simp only [List.append_assoc, Nat.add_assoc]
      rfl

/-- The offsets that the rounds of a scan begin with. -/
inductive Visits (k : TagKind) (s : List Char) : Nat → Prop
  | start : Visits k s 0
  | next {offset : Nat} {spot : Spot} (h : Visits k s offset)
      (hspot : Spot.find? k (rest s offset) = some spot) : Visits k s (offset + spot.stop + 1)

/-- A round ends where the tag does that it has found. -/
theorem exists_front_of_next {r : List Char} {spot : Spot} (h : Spot.find? k r = some spot)
    (before : List Char) : ∃ front after, r = front ++ after
      ∧ byteSize before + spot.stop + 1 = byteSize (before ++ front) := by
  obtain ⟨gap, content, after, rfl, rfl⟩ := Spot.exists_token_of_find? h
  refine ⟨gap ++ k.token content, after, by rw [List.append_assoc], ?_⟩
  simp only [byteSize_append, Spot.byteSize_token]
  omega

/-- **BETWEEN TWO CHARACTERS**: every round begins with an offset where a character of the
    text begins, or at its end. -/
theorem exists_front_of_visits (h : Visits k s offset) :
    ∃ before r, s = before ++ r ∧ offset = byteSize before := by
  induction h with
  | start => exact ⟨[], s, rfl, rfl⟩
  | next _ hspot ih =>
      obtain ⟨before, r, rfl, rfl⟩ := ih
      rw [rest_append] at hspot
      obtain ⟨front, after, rfl, hnext⟩ := exists_front_of_next hspot before
      exact ⟨before ++ front, after, (List.append_assoc ..).symm, hnext⟩

/-- **NO SLICE FAILS**: in every round there is a rest behind the offset, a tail behind an
    opening in it, and the token and content of a tag that it has. -/
theorem slices_of_visits (h : Visits k s offset) :
    ∃ r, dropBytes? offset s = some r
      ∧ (∀ start, Text.find? k.opening r = some start →
        ∃ tail, dropBytes? (start + byteSize k.opening) r = some tail)
      ∧ ∀ spot, Spot.find? k r = some spot → ∃ tag, spot.slice? offset s = some tag := by
  obtain ⟨before, r, rfl, rfl⟩ := exists_front_of_visits h
  refine ⟨r, dropBytes?_append before r, ?_, ?_⟩
  · intro start hstart
    obtain ⟨⟨gap, inside⟩, hcut, rfl⟩ := Option.map_eq_some_iff.mp hstart
    exact ⟨inside, Spot.dropBytes?_inside hcut⟩
  · intro spot hspot
    obtain ⟨gap, content, after, rfl, rfl⟩ := Spot.exists_token_of_find? hspot
    exact ⟨_, Spot.slice?_append k before gap content after⟩

end TagSlice

namespace Segments

open TagSlice (scanFrom ofOccurrence Visits)

/-- **A SCAN DIVIDES ITS TEXT** into gaps and tags of the kind, in the one way in which it
    is divided: they make up the text, no content has a closing bracket, no opening starts
    in a gap, and none in what is left is closed.  The scan by offsets takes these very
    tags out of the text, and none of its slices fails. -/
theorem scan_eq_division (k : TagKind) (s : List Char) :
    (∀ t, scan k s = t ↔ Divides k t s)
    ∧ scanFrom k s 0 = (scan k s).tags.map (ofOccurrence k)
    ∧ ∀ offset, Visits k s offset →
      ∃ r, dropBytes? offset s = some r
        ∧ (∀ start, Text.find? k.opening r = some start →
          ∃ tail, dropBytes? (start + byteSize k.opening) r = some tail)
        ∧ ∀ spot, Spot.find? k r = some spot → ∃ tag, spot.slice? offset s = some tag :=
  ⟨fun _ => ⟨fun h => h ▸ divides_scan k s, scan_of_divides⟩, TagSlice.scanFrom_append k [] s,
    fun _ => TagSlice.slices_of_visits⟩

/-- Openings inside a tag and behind it, among characters of several bytes. -/
example :
    let s := "é[CONF:[CONF:ü]][CONF:€].[CONF:b".toList
    scan .conf s = ⟨[⟨"é".toList, "[CONF:ü".toList⟩, ⟨"]".toList, "€".toList⟩],
        ".[CONF:b".toList⟩
      ∧ scanFrom .conf s 0 = [⟨"[CONF:[CONF:ü]".toList, "[CONF:ü".toList⟩,
        ⟨"[CONF:€]".toList, "€".toList⟩] := by
  decide +kernel

end Segments

end Fixture
