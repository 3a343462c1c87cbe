import Mathlib.Data.List.TakeWhile
import Fixture.Derive.Attribute
import Fixture.Proofs.Readers

/-! # What attributes say, piece by piece

    Commas divide an attribute into pieces.  Where its entries could be read, the
    pieces up to the first one that takes everything behind it along are those
    entries, and what was read is what they say: the last name, whether one of
    them is the mark of a field without values, the last path. -/

namespace Fixture.Derive

open Reader

/-! ## Pieces -/

namespace Token

def isComma : Token → Bool
  | .mark m _ => m = ","
  | _ => false

def isEquals : Token → Bool
  | .mark m _ => m = "="
  | _ => false

/-- Part of a path. -/
def isPathPart : Token → Bool
  | .word _ => true
  | .mark m _ => m = ":"
  | _ => false

end Token

/-- The tokens of an attribute between its commas, if it is one of ours. -/
def pieces : List Token → List (List Token)
  | .word "bind" :: .group _ inner :: _ => inner.splitOnP Token.isComma
  | _ => []

/-- The piece has an equals sign, and a key that is not the one that is known. -/
def takesAll (key : String) : List Token → Bool
  | .word w :: .mark "=" _ :: _ => w ≠ key
  | ts => ts.any Token.isEquals

/-- The pieces of attributes that have not been taken by others. -/
def seen (key : String) (attributes : List (List Token)) : List (List Token) :=
  attributes.flatMap fun a => (pieces a).takeWhile fun piece => !takesAll key piece

/-- Where no piece takes others along, all are seen. -/
theorem seen_eq_flatMap_pieces {key : String} {attributes : List (List Token)}
    (h : ∀ a ∈ attributes, ∀ piece ∈ pieces a, takesAll key piece = false) :
    seen key attributes = attributes.flatMap pieces := by
  refine List.flatMap_congr fun a ha => List.takeWhile_eq_self_iff.mpr fun piece hpiece => ?_
  rw [h a ha piece hpiece, Bool.not_false]

/-! ## Keys -/

/-- What was read of a path behind its first word begins with a colon, unless
    nothing was. -/
theorem exists_of_many {fuel : Nat} {s t shown : List Token}
    (h : many.go (Token.startsWith "::") (do let _ ← marks "::"; keySegment) fuel s
      = .ok (shown, t)) :
    ∃ path, s = path ++ t ∧ (∀ part ∈ path, part.isPathPart = true)
      ∧ (shown = [] ∧ path = [] ∨ shown ≠ [] ∧ ∃ j more, path = .mark ":" j :: more) := by
  induction fuel generalizing s t shown with
  | zero =>
      cases h
      exact ⟨[], rfl, List.forall_mem_nil _, Or.inl ⟨rfl, rfl⟩⟩
  | succ fuel ih =>
      rw [many.go, ahead_bind] at h
      split at h
      · -- every segment behind the first brings its own colons
        obtain ⟨first, u, hfirst, h⟩ := exists_of_bind h
        obtain ⟨others, v, hothers, h⟩ := exists_of_bind h
        cases h
        obtain ⟨colons, w, hcolons, hword⟩ := exists_of_bind hfirst
        obtain ⟨j, j', rfl⟩ := eq_cons_of_colons hcolons
        obtain ⟨path, rfl, hparts, -⟩ := ih hothers
        rw [keySegment, get_bind] at hword
        split at hword
        · rename_i spelling more hcolons
          cases hword
          refine ⟨.mark ":" j :: .mark ":" j' :: .word spelling :: path, rfl, ?_,
            Or.inr ⟨List.cons_ne_nil _ _, j, _, rfl⟩⟩
          simp only [List.forall_mem_cons]
          exact ⟨rfl, rfl, rfl, hparts⟩
        · cases hword
      · cases h
        exact ⟨[], rfl, List.forall_mem_nil _, Or.inl ⟨rfl, rfl⟩⟩

/-- A key that was read is a single word, or a path that has a colon in it. -/
theorem exists_of_entryKey {s t : List Token} {key : Option String}
    (h : entryKey s = .ok (key, t)) :
    ∃ path, s = path ++ t ∧ (∀ part ∈ path, part.isPathPart = true)
      ∧ ((∃ w, key = some w ∧ path = [.word w])
        ∨ key = none ∧ ((∃ j more, path = .mark ":" j :: more)
          ∨ ∃ w j more, path = .word w :: .mark ":" j :: more)) := by
  rw [entryKey] at h
  obtain ⟨colons, u, hcolons, h⟩ := exists_of_bind h
  rw [get_bind] at h
  split at h
  · cases h
  · rename_i w rest
    rw [set_bind] at h
    obtain ⟨others, v, hothers, h⟩ := exists_of_bind h
    cases h
    rw [many, get_bind] at hothers
    obtain ⟨path, rfl, hparts, hpath⟩ := exists_of_many hothers
    rcases marks?_cases hcolons with ⟨rfl, rfl⟩ | ⟨hne, hmarks⟩
    · refine ⟨.word w :: path, rfl, List.forall_mem_cons.mpr ⟨rfl, hparts⟩, ?_⟩
      rcases hpath with ⟨rfl, rfl⟩ | ⟨hne, j, more, rfl⟩
      · exact Or.inl ⟨w, rfl, rfl⟩
      · refine Or.inr ⟨?_, Or.inr ⟨w, j, more, rfl⟩⟩
        rw [List.isEmpty_eq_false_iff.mpr hne]
        rfl
    · obtain ⟨j, j', rfl⟩ := eq_cons_of_colons hmarks
      refine ⟨.mark ":" j :: .mark ":" j' :: .word w :: path, rfl, ?_,
        Or.inr ⟨?_, Or.inl ⟨j, _, rfl⟩⟩⟩
      · simp only [List.forall_mem_cons]
        exact ⟨rfl, rfl, rfl, hparts⟩
      · rw [List.isEmpty_eq_false_iff.mpr hne]
        rfl
  · cases h

/-! ## What stands behind a key -/

/-- A literal is read where one stands. -/
theorem eq_cons_of_literal {l : String} {s t : List Token}
    (h : literal s = .ok ([.literal l], t)) : s = .literal l :: t := by
  rw [literal, ahead_bind] at h
  split at h
  · obtain ⟨sign, u, hsign, hvalue⟩ := exists_of_bind h
    obtain ⟨value, v, hany, hshown⟩ := exists_of_bind hvalue
    rw [anyToken, get_bind] at hany
    split at hany
    · rename_i x xs
      obtain ⟨rfl, rfl⟩ := Prod.mk.inj (Except.ok.inj hany)
      obtain ⟨htokens, rfl⟩ := Prod.mk.inj (Except.ok.inj hshown)
      rcases marks?_cases hsign with ⟨rfl, rfl⟩ | ⟨hne, -⟩
      · rw [(List.cons.inj htokens).1]
      · -- behind a sign there would be two tokens
        have hlength := congrArg List.length htokens
        rw [List.length_append, List.length_singleton, List.length_singleton] at hlength
        have := List.length_pos_iff.mpr hne
        omega
    · cases hany
  · cases h

/-- The text of an entry stands behind an equals sign, as a literal. -/
theorem exists_of_entryText {key : String} {text suffix : List Char} {s t : List Token}
    (h : entryText key s = .ok ((text, suffix), t)) :
    ∃ j l, s = .mark "=" j :: .literal l :: t ∧ stringValue? l = some (text, suffix) := by
  rw [entryText] at h
  obtain ⟨equals, u, hequals, hbehind⟩ := exists_of_bind h
  obtain ⟨j, rfl⟩ := eq_cons_of_marks (c := '=') hequals
  obtain ⟨value, v, hvalue, htext⟩ := exists_of_bind hbehind
  obtain ⟨l, rfl⟩ : ∃ l, value = [.literal l] := by
    rcases value with - | ⟨x, - | ⟨y, more⟩⟩
    · cases htext
    · cases x with
      | literal l => exact ⟨l, rfl⟩
      | word | lifetime | mark | group => cases htext
    · cases x <;> cases htext
  obtain rfl := eq_cons_of_literal hvalue
  cases hl : stringValue? l with
  | none =>
      simp only [hl] at htext
      cases htext
  | some found =>
      simp only [hl] at htext
      obtain ⟨rfl, rfl⟩ := Prod.mk.inj (Except.ok.inj htext)
      exact ⟨j, l, rfl, hl⟩

/-- What is passed over is a value and all behind it, a group, or nothing. -/
theorem cases_of_passOver {s t : List Token} (h : passOver s = .ok ((), t)) :
    (∃ j more, s = .mark "=" j :: more ∧ t = [])
    ∨ (∃ inner, s = .group .parenthesis inner :: t) ∨ s = t := by
  rw [passOver, get_bind] at h
  split at h
  · cases h
    exact Or.inl ⟨_, _, rfl, rfl⟩
  · cases h
    exact Or.inr (Or.inl ⟨_, rfl⟩)
  · cases h
    exact Or.inr (Or.inr rfl)

/-! ## What a piece says -/

/-- The text that a piece gives to a key. -/
def given? (key : String) : List Token → Option (List Char)
  | [.word w, .mark "=" _, .literal l] => if w = key then (stringValue? l).map Prod.fst else none
  | _ => none

/-- The piece is this word. -/
def isWordAlone (w : String) : List Token → Bool
  | [.word v] => v = w
  | _ => false

/-- What the options of a field are after a piece. -/
def FieldOptions.after (o : FieldOptions) (piece : List Token) : FieldOptions :=
  ⟨(given? "rename" piece).or o.renamed, isWordAlone "skip" piece || o.skipped⟩

/-- The path that a piece gives to the library. -/
def rootOf? (piece : List Token) : Option (List Token) :=
  (given? "crate" piece).bind fun text => (readPath text).toOption

/-! ## Reading a piece -/

/-- What a reader takes behind a key is the rest of a piece, from which `after`
    tells what it makes of it, or all that is left, which changes nothing. -/
def ReadsPieces {α : Type} (read : α → Option String → Reader α) (known : String)
    (after : α → List Token → α) : Prop :=
  ∀ {a b key s t u}, entryKey s = .ok (key, t) → read a key t = .ok (b, u) →
    (∃ piece, s = piece ++ u ∧ (∀ x ∈ piece, x.isComma = false) ∧ takesAll known piece = false
      ∧ b = after a piece)
    ∨ u = [] ∧ b = a ∧ ∃ front behind, s = front ++ behind ∧ (∀ x ∈ front, x.isComma = false)
      ∧ ∀ more, takesAll known (front ++ more) = true

/-- A path goes on over no comma. -/
theorem isComma_of_isPathPart {x : Token} (h : x.isPathPart = true) : x.isComma = false := by
  cases x with
  | mark m j =>
      rw [of_decide_eq_true h]
      rfl
  | word | lifetime | literal | group => rfl

theorem isEquals_of_isPathPart {x : Token} (h : x.isPathPart = true) : x.isEquals = false := by
  cases x with
  | mark m j =>
      rw [of_decide_eq_true h]
      rfl
  | word | lifetime | literal | group => rfl

/-- A piece without an equals sign takes nothing but itself. -/
theorem takesAll_of_forall {known : String} {piece : List Token}
    (h : ∀ x ∈ piece, x.isEquals = false) : takesAll known piece = false := by
  rw [takesAll.eq_def]
  split
  · cases h _ (List.mem_cons_of_mem _ (List.mem_cons_self ..))
  · exact List.any_eq_false.mpr fun x hx => Bool.eq_false_iff.mp (h x hx)

/-- Behind a path that is not the known key an equals sign takes everything. -/
theorem takesAll_path_equals {known : String} {path : List Token}
    (hparts : ∀ part ∈ path, part.isPathPart = true) (hne : path ≠ [])
    (hunknown : path ≠ [.word known]) (j : Bool) (more : List Token) :
    takesAll known (path ++ .mark "=" j :: more) = true := by
  rw [takesAll.eq_def]
  split
  · rename_i w j' behind heq
    refine decide_eq_true fun hw => ?_
    subst hw
    rcases path with - | ⟨x, - | ⟨y, ys⟩⟩
    · exact hne rfl
    · exact hunknown (by rw [(List.cons.inj heq).1])
    · -- an equals sign is no part of a path
      obtain ⟨rfl, -⟩ := List.cons.inj (List.cons.inj heq).2
      cases hparts _ (List.mem_cons_of_mem _ (List.mem_cons_self ..))
  · exact List.any_eq_true.mpr ⟨.mark "=" j, by simp, rfl⟩

/-- An entry of an unknown kind is a piece without an equals sign, or takes all
    that is left. -/
theorem cases_of_unknown {known : String} {path t u : List Token}
    (hparts : ∀ part ∈ path, part.isPathPart = true) (hne : path ≠ [])
    (hunknown : path ≠ [.word known]) (h : passOver t = .ok ((), u)) :
    (∃ behind, path ++ t = path ++ behind ++ u ∧ (∀ x ∈ path ++ behind, x.isComma = false)
      ∧ ∀ x ∈ path ++ behind, x.isEquals = false)
    ∨ u = [] ∧ ∃ front behind, path ++ t = front ++ behind
      ∧ (∀ x ∈ front, x.isComma = false) ∧ ∀ more, takesAll known (front ++ more) = true := by
  have hcomma : ∀ x ∈ path, x.isComma = false := by
    intro x hx
    exact isComma_of_isPathPart (hparts x hx)
  have hequals : ∀ x ∈ path, x.isEquals = false := by
    intro x hx
    exact isEquals_of_isPathPart (hparts x hx)
  rcases cases_of_passOver h with ⟨j, more, rfl, rfl⟩ | ⟨inner, rfl⟩ | rfl
  · refine Or.inr ⟨rfl, path ++ [.mark "=" j], more, by simp, ?_, fun behind => ?_⟩
    · exact List.forall_mem_append.mpr ⟨hcomma, List.forall_mem_singleton.mpr rfl⟩
    · rw [List.append_assoc]
      exact takesAll_path_equals hparts hne hunknown j behind
  · exact Or.inl ⟨[.group .parenthesis inner], by simp,
      List.forall_mem_append.mpr ⟨hcomma, List.forall_mem_singleton.mpr rfl⟩,
      List.forall_mem_append.mpr ⟨hequals, List.forall_mem_singleton.mpr rfl⟩⟩
  · exact Or.inl ⟨[], by simp, by simpa using hcomma, by simpa using hequals⟩

theorem given?_of_forall {key : String} {piece : List Token}
    (h : ∀ x ∈ piece, x.isEquals = false) : given? key piece = none := by
  rw [given?.eq_def]
  split
  · cases h _ (List.mem_cons_of_mem _ (List.mem_cons_self ..))
  · rfl

/-- A longer path is not a word by itself. -/
theorem isWordAlone_append {w : String} {path : List Token} (hne : path ≠ [])
    (hw : path ≠ [.word w]) (behind : List Token) : isWordAlone w (path ++ behind) = false := by
  rw [isWordAlone.eq_def]
  split
  · rename_i v heq
    refine decide_eq_false fun hv => ?_
    subst hv
    rcases path with - | ⟨x, xs⟩
    · exact hne rfl
    · obtain ⟨rfl, hxs⟩ := List.cons.inj heq
      exact hw (by rw [(List.append_eq_nil_iff.mp hxs).1])
  · rfl

/-- A key that is not one word is not that word by itself. -/
theorem path_ne_word {path : List Token} {key : Option String} {w : String}
    (hpath : (∃ w, key = some w ∧ path = [.word w])
      ∨ key = none ∧ ((∃ j more, path = .mark ":" j :: more)
        ∨ ∃ w j more, path = .word w :: .mark ":" j :: more))
    (hw : key ≠ some w) : path ≠ [] ∧ path ≠ [.word w] := by
  obtain ⟨v, rfl, rfl⟩ | ⟨-, ⟨j, more, rfl⟩ | ⟨v, j, more, rfl⟩⟩ := hpath
  · refine ⟨List.cons_ne_nil _ _, fun heq => hw ?_⟩
    cases heq
    rfl
  · exact ⟨List.cons_ne_nil _ _, fun heq => nomatch heq⟩
  · exact ⟨List.cons_ne_nil _ _, fun heq => nomatch heq⟩

/-- Entries of a field are read by pieces, for what each piece gives. -/
theorem readsPieces_fieldEntry : ReadsPieces fieldEntry "rename" FieldOptions.after := by
  intro o o' key s t u hkey hread
  obtain ⟨path, rfl, hparts, hpath⟩ := exists_of_entryKey hkey
  rw [fieldEntry] at hread
  split at hread
  · rename_i hrename
    obtain ⟨⟨text, suffix⟩, v, htext, hdone⟩ := exists_of_bind hread
    obtain ⟨j, l, rfl, hl⟩ := exists_of_entryText htext
    obtain ⟨w, hw, rfl⟩ | ⟨hnone, -⟩ := hpath
    · obtain rfl := Option.some.inj (hw.symm.trans hrename)
      dsimp only at hdone
      split at hdone
      · cases hdone
      · cases hdone
        refine Or.inl ⟨[.word "rename", .mark "=" j, .literal l], rfl, ?_, rfl, ?_⟩
        · simp only [List.forall_mem_cons]
          exact ⟨rfl, rfl, rfl, List.forall_mem_nil _⟩
        · rw [FieldOptions.after, given?, if_pos rfl, hl]
          rfl
    · rw [hnone] at hrename
      cases hrename
  · rename_i hrename
    split at hread
    · rename_i hskip
      obtain ⟨w, hw, rfl⟩ | ⟨hnone, -⟩ := hpath
      · obtain rfl := Option.some.inj (hw.symm.trans hskip)
        cases hread
        exact Or.inl ⟨[.word "skip"], rfl, List.forall_mem_singleton.mpr rfl, rfl, rfl⟩
      · rw [hnone] at hskip
        cases hskip
    · rename_i hskip
      obtain ⟨⟨⟩, v, hpass, hdone⟩ := exists_of_bind hread
      obtain ⟨rfl, rfl⟩ := Prod.mk.inj (Except.ok.inj hdone)
      obtain ⟨hne, hknown⟩ := path_ne_word hpath hrename
      obtain ⟨behind, heq, hcomma, hequals⟩ | hall := cases_of_unknown hparts hne hknown hpass
      · refine Or.inl ⟨path ++ behind, heq, hcomma, takesAll_of_forall hequals, ?_⟩
        rw [FieldOptions.after, given?_of_forall hequals,
          isWordAlone_append hne (path_ne_word hpath hskip).2]
        rfl
      · exact Or.inr ⟨hall.1, rfl, hall.2⟩

theorem readsPieces_itemEntry :
    ReadsPieces itemEntry "crate" fun root piece => (rootOf? piece).or root := by
  intro root root' key s t u hkey hread
  obtain ⟨path, rfl, hparts, hpath⟩ := exists_of_entryKey hkey
  rw [itemEntry] at hread
  split at hread
  · rename_i hcrate
    obtain ⟨⟨text, suffix⟩, v, htext, hbehind⟩ := exists_of_bind hread
    obtain ⟨j, l, rfl, hl⟩ := exists_of_entryText htext
    obtain ⟨w, hw, rfl⟩ | ⟨hnone, -⟩ := hpath
    · obtain rfl := Option.some.inj (hw.symm.trans hcrate)
      obtain ⟨parsed, v', hparsed, hdone⟩ := exists_of_bind hbehind
      have hpath : readPath text = .ok parsed ∧ v = v' := by
        cases hr : readPath text with
        | error f =>
            simp only [hr] at hparsed
            cases hparsed
        | ok p =>
            simp only [hr] at hparsed
            cases hparsed
            exact ⟨rfl, rfl⟩
      obtain ⟨hpath, rfl⟩ := hpath
      split at hdone
      · cases hdone
        have hroot : rootOf? [.word "crate", .mark "=" j, .literal l] = some parsed := by
          rw [rootOf?, given?, if_pos rfl, hl]
          exact congrArg Except.toOption hpath
        refine Or.inl ⟨[.word "crate", .mark "=" j, .literal l], rfl, ?_, rfl, ?_⟩
        · simp only [List.forall_mem_cons]
          exact ⟨rfl, rfl, rfl, List.forall_mem_nil _⟩
        · dsimp only
          rw [hroot, Option.some_or]
      · cases hdone
    · rw [hnone] at hcrate
      cases hcrate
  · rename_i hcrate
    obtain ⟨⟨⟩, v, hpass, hdone⟩ := exists_of_bind hread
    obtain ⟨rfl, rfl⟩ := Prod.mk.inj (Except.ok.inj hdone)
    obtain ⟨hne, hknown⟩ := path_ne_word hpath hcrate
    obtain ⟨behind, heq, hcomma, hequals⟩ | hall := cases_of_unknown hparts hne hknown hpass
    · refine Or.inl ⟨path ++ behind, heq, hcomma, takesAll_of_forall hequals, ?_⟩
      dsimp only
      rw [rootOf?, given?_of_forall hequals, Option.bind_none, Option.none_or]
    · exact Or.inr ⟨hall.1, rfl, hall.2⟩

/-! ## Reading all pieces -/

section

variable {α : Type} {read : α → Option String → Reader α} {known : String}
  {after : α → List Token → α}

/-- What has no comma stays in one piece. -/
theorem exists_splitOnP_append {front : List Token} (h : ∀ x ∈ front, x.isComma = false)
    (behind : List Token) :
    ∃ more others, (front ++ behind).splitOnP Token.isComma = (front ++ more) :: others := by
  induction front with
  | nil =>
      cases hs : behind.splitOnP Token.isComma with
      | nil => exact (List.splitOnP_ne_nil _ _ hs).elim
      | cons more others => exact ⟨more, others, hs⟩
  | cons x front ih =>
      obtain ⟨hx, hfront⟩ := List.forall_mem_cons.mp h
      obtain ⟨more, others, hs⟩ := ih hfront
      refine ⟨more, others, ?_⟩
      rw [List.cons_append, List.splitOnP_cons_eq_if_modifyHead, hx,
        if_neg Bool.false_ne_true, hs]
      rfl

/-- **ENTRIES THAT WERE READ** to their end say what the pieces do, up to the first
    piece that takes the others along. -/
theorem readEntries_eq_foldl (hread : ReadsPieces read known after)
    (hnil : ∀ a, after a [] = a) {fuel : Nat} {a b : α} {s : List Token}
    (h : readEntries read fuel a s = .ok (b, [])) :
    b = ((s.splitOnP Token.isComma).takeWhile fun piece => !takesAll known piece).foldl
      after a := by
  -- An entry is a piece or the rest of the attribute, and behind the comma of a
  -- piece the reading begins again.
  induction fuel generalizing a s with
  | zero =>
      obtain ⟨rfl, rfl⟩ := Prod.mk.inj (Except.ok.inj h)
      exact (hnil _).symm
  | succ fuel ih =>
      rw [readEntries] at h
      obtain ⟨key, t, hkey, hentry⟩ := exists_of_bind h
      obtain ⟨a', u, hentry, hbehind⟩ := exists_of_bind hentry
      rw [ahead_bind] at hbehind
      obtain ⟨piece, rfl, hcomma, htakes, rfl⟩ | ⟨rfl, rfl, front, behind, rfl, hcomma, htakes⟩ :=
        hread hkey hentry
      · split at hbehind
        · rename_i hempty
          obtain rfl := List.isEmpty_iff.mp hempty
          obtain ⟨rfl, -⟩ := Prod.mk.inj (Except.ok.inj hbehind)
          simp only [List.append_nil, List.splitOnP_eq_singleton hcomma, List.takeWhile_cons,
            htakes, Bool.not_false, if_true, List.takeWhile_nil, List.foldl_cons, List.foldl_nil]
        · obtain ⟨comma, v, hmarks, hrest⟩ := exists_of_bind hbehind
          obtain ⟨j, rfl⟩ := eq_cons_of_marks (c := ',') hmarks
          rw [List.splitOnP_append_cons_of_forall_mem hcomma _ (by rfl)]
          simp only [List.takeWhile_cons, htakes, Bool.not_false, if_true, List.foldl_cons]
          rw [ahead_bind] at hrest
          split at hrest
          · rename_i hempty
            obtain rfl := List.isEmpty_iff.mp hempty
            obtain ⟨rfl, -⟩ := Prod.mk.inj (Except.ok.inj hrest)
            exact (hnil _).symm
          · exact ih hrest
      · obtain ⟨more, others, hs⟩ := exists_splitOnP_append hcomma behind
        obtain ⟨rfl, -⟩ := Prod.mk.inj (Except.ok.inj hbehind)
        simp only [hs, List.takeWhile_cons, htakes, Bool.not_true, Bool.false_eq_true, if_false,
          List.foldl_nil]

/-- An attribute gives what its pieces give, one after another, up to one that takes all the
    others. -/
theorem readAttribute_eq_foldl (hread : ReadsPieces read known after)
    (hnil : ∀ a, after a [] = a) {a b : α} {ts : List Token}
    (h : readAttribute read a ts = .ok b) :
    b = ((pieces ts).takeWhile fun piece => !takesAll known piece).foldl after a := by
  rw [readAttribute.eq_def] at h
  split at h
  · cases h
  · cases h
  · obtain rfl := Except.ok.inj h
    exact (hnil _).symm
  · rw [Reader.all] at h
    split at h
    · rename_i heq
      obtain rfl := Except.ok.inj h
      exact readEntries_eq_foldl hread hnil heq
    · cases h
    · cases h
  · rename_i hgroup
    obtain rfl := Except.ok.inj h
    rw [pieces.eq_def]
    split
    · exact (hgroup _ _ _ rfl).elim
    · rfl

/-- **ATTRIBUTES THAT WERE READ** say what their pieces do that are seen. -/
theorem readAttributes_eq_foldl (hread : ReadsPieces read known after)
    (hnil : ∀ a, after a [] = a) {a b : α} {attributes : List (List Token)}
    (h : readAttributes read a attributes = .ok b) :
    b = (seen known attributes).foldl after a := by
  induction attributes generalizing a with
  | nil => exact (Except.ok.inj h).symm
  | cons ts attributes ih =>
      rw [readAttributes, List.foldlM_cons] at h
      obtain ⟨c, hc, h⟩ := Fixture.bind_eq_ok_iff.mp h
      rw [seen, List.flatMap_cons, List.foldl_append, ← readAttribute_eq_foldl hread hnil hc]
      exact ih h

end

/-! ## What was said last -/

/-- The last one given is what counts. -/
theorem foldl_or {β γ : Type} (f : β → Option γ) (ps : List β) (a : Option γ) :
    ps.foldl (fun acc p => (f p).or acc) a = (ps.filterMap f).getLast?.or a := by
  induction ps generalizing a with
  | nil => rfl
  | cons p ps ih =>
      rw [List.foldl_cons, ih, List.filterMap_cons]
      cases f p with
      | none => rw [Option.none_or]
      | some c =>
          rw [Option.some_or, List.getLast?_cons]
          cases (ps.filterMap f).getLast? <;> rfl

/-- The options of a field are the last name given and whether it is skipped anywhere. -/
theorem foldl_after (ps : List (List Token)) (o : FieldOptions) :
    ps.foldl FieldOptions.after o
      = ⟨ps.foldl (fun acc p => (given? "rename" p).or acc) o.renamed,
        ps.any (isWordAlone "skip") || o.skipped⟩ := by
  induction ps generalizing o with
  | nil => rfl
  | cons p ps ih =>
      rw [List.foldl_cons, ih, List.foldl_cons, List.any_cons]
      simp only [FieldOptions.after]
      rw [Bool.or_left_comm, ← Bool.or_assoc]

/-- **THE OPTIONS OF A FIELD** are the last name that its attributes give it, and
    whether they say that it takes no values. -/
theorem FieldOptions.eq_of_ofAttributes {attributes : List (List Token)} {o : FieldOptions}
    (h : ofAttributes attributes = .ok o) :
    o = ⟨((seen "rename" attributes).filterMap (given? "rename")).getLast?,
      (seen "rename" attributes).any (isWordAlone "skip")⟩ := by
  rw [readAttributes_eq_foldl readsPieces_fieldEntry (fun _ => rfl) h, foldl_after, foldl_or,
    Option.or_none, Bool.or_false]

/-- **THE PATH OF THE LIBRARY** is the last one that attributes give. -/
theorem eq_of_rootOfAttributes {attributes : List (List Token)} {root : Option (List Token)}
    (h : rootOfAttributes attributes = .ok root) :
    root = ((seen "crate" attributes).filterMap rootOf?).getLast? := by
  rw [readAttributes_eq_foldl readsPieces_itemEntry (fun _ => rfl) h, foldl_or, Option.or_none]

end Fixture.Derive
