import Fixture.Derive.Attribute
import Fixture.Proofs.Readers

/-! # What entries of attributes do to each other

    An entry is a key with nothing behind it, with a constant behind an equals
    sign or with tokens in parentheses.  What reading one comes to depends on
    that entry and on what was read before it, never on what is behind it.  It
    may end the reading of its attribute, though: an entry of an unknown kind
    with a constant takes everything behind it along. -/

namespace Fixture.Derive

/-! ## Entries and their tokens -/

/-- A constant, with its sign. -/
inductive Constant where
  | literal (spelling : String)
  | truth (b : Bool)
  | negative (joint : Bool) (spelling : String)
      (number : (Token.literal spelling).isNumber = true)

def Constant.tokens : Constant → List Token
  | literal s => [.literal s]
  | truth b => [.word (if b then "true" else "false")]
  | negative joint s _ => [.mark "-" joint, .literal s]

/-- The tokens that a reader gives for a constant. -/
def Constant.shown : Constant → List Token
  | literal s => [.literal s]
  | truth b => [.word (if b then "true" else "false")]
  | negative _ s _ => [Token.sign "-", .literal s]

/-- What stands behind the key of an entry. -/
inductive Behind where
  | nothing
  | value (joint : Bool) (constant : Constant)
  | list (inner : List Token)

def Behind.tokens : Behind → List Token
  | nothing => []
  | value joint c => .mark "=" joint :: c.tokens
  | list inner => [.group .parenthesis inner]

/-- An entry.  Its key is a path; `joint` is about the comma behind it. -/
structure Entry where
  absolute : Bool
  first : String
  others : List String
  behind : Behind
  joint : Bool

namespace Entry

/-- The key, if it is a single word. -/
def key? (e : Entry) : Option String :=
  if !e.absolute && e.others.isEmpty then some e.first else none

/-- A segment of a path behind the first. -/
def segment (w : String) : List Token := [.mark ":" true, .mark ":" false, .word w]

def keyTokens (e : Entry) : List Token :=
  if e.absolute then segment e.first ++ e.others.flatMap segment
  else .word e.first :: e.others.flatMap segment

def tokens (e : Entry) : List Token := e.keyTokens ++ e.behind.tokens

/-- Entries between commas; one may stand behind the last. -/
def spell (trailing : Bool) : List Entry → List Token
  | [] => []
  | [e] => e.tokens ++ if trailing then [.mark "," e.joint] else []
  | e :: e' :: es => e.tokens ++ .mark "," e.joint :: spell trailing (e' :: es)

/-- The contents of an attribute with entries. -/
def contents (d : Delimiter) (trailing : Bool) (es : List Entry) : List Token :=
  [.word "bind", .group d (spell trailing es)]

end Entry

/-! ## What reading entries comes to -/

/-- What reading an entry comes to. -/
inductive Step (α : Type) where
  | fault (f : Fault)
  /-- The reading goes on behind the entry; `left` is still to be read. -/
  | next (a : α) (left : Behind)
  /-- Whatever is behind the entry was taken with it. -/
  | last (a : α)

namespace Step

variable {α β : Type}

/-- What there is to do behind a step: `others` where the reading goes on, and
    `done` where nothing is left to read. -/
def andThen (s : Step α) (done others : α → Except Fault β) : Except Fault β :=
  match s with
  | .fault f => .error f
  | .next a .nothing => others a
  | .next _ _ => .error (.expected "`,`" false)
  | .last a => done a

/-- What a step gives can be mapped behind it. -/
theorem map_andThen (s : Step α) (done others : α → Except Fault α) (f : α → β) :
    (s.andThen done others).map f
      = s.andThen (fun a => (done a).map f) fun a => (others a).map f := by
  cases s with
  | fault => rfl
  | last => rfl
  | next a left => cases left <;> rfl

/-- Reads entries one after another, by what each of them comes to. -/
def sequence (step : α → Entry → Step α) : α → List Entry → Except Fault α
  | a, [] => .ok a
  | a, e :: es => (step a e).andThen .ok fun a => sequence step a es

variable {step : α → Entry → Step α} {u : Entry}

/-- An entry that changes nothing and takes nothing along might as well not be
    there. -/
theorem sequence_of_next (h : ∀ a, step a u = .next a .nothing) (before after : List Entry)
    (a : α) : sequence step a (before ++ u :: after) = sequence step a (before ++ after) := by
  induction before generalizing a with
  | nil =>
      show (step a u).andThen .ok (fun a => sequence step a after) = _
      rw [h]
      rfl
  | cons e before ih =>
      -- Both sides make the same step, which may also be the last one.
      exact congrArg ((step a e).andThen .ok) (funext fun a' => ih a')

/-- Nothing behind an entry that takes everything along is read. -/
theorem sequence_of_last (h : ∀ a, step a u = .last a) (before after : List Entry) (a : α) :
    sequence step a (before ++ u :: after) = sequence step a before := by
  induction before generalizing a with
  | nil =>
      show (step a u).andThen .ok (fun a => sequence step a after) = _
      rw [h]
      rfl
  | cons e before ih =>
      exact congrArg ((step a e).andThen .ok) (funext fun a' => ih a')

end Step

/-- The text that a key is given. -/
def Behind.text (key : String) : Behind → Except Fault (List Char × List Char)
  | value _ (.literal l) =>
      match stringValue? l with
      | some text => .ok text
      | none => .error (.notString key)
  | value _ _ => .error (.notString key)
  | nothing | list _ => .error (.expected "`=`" false)

namespace Entry

/-- An entry of an unknown kind. -/
def passed {α : Type} (e : Entry) (a : α) : Step α :=
  match e.behind with
  | .nothing | .list _ => .next a .nothing
  | .value _ _ => .last a

/-- An entry of a field. -/
def ofField (o : FieldOptions) (e : Entry) : Step FieldOptions :=
  if e.key? = some "rename" then
    match e.behind.text "rename" with
    | .error f => .fault f
    | .ok (text, _) =>
        if text.isEmpty then .fault .emptyName
        else .next { o with renamed := some text } .nothing
  else if e.key? = some "skip" then .next { o with skipped := true } e.behind
  else e.passed o

/-- An entry of an item. -/
def ofItem (root : Option (List Token)) (e : Entry) : Step (Option (List Token)) :=
  if e.key? = some "crate" then
    match e.behind.text "crate" with
    | .error f => .fault f
    | .ok (text, suffix) =>
        match readPath text with
        | .error f => .fault f
        | .ok path =>
            if suffix.isEmpty then .next (some path) .nothing
            else .fault (.suffix (String.ofList suffix))
  else e.passed root

end Entry

open Reader

/-! ## Reading constants -/

/-- A constant is read to its end. -/
theorem literal_constant (c : Constant) (rest : List Token) :
    literal (c.tokens ++ rest) = .ok (c.shown, rest) := by
  have hstart : Token.startsWithLiteral (c.tokens ++ rest) = true := by
    cases c with
    | literal s => rfl
    | truth b => cases b <;> rfl
    | negative joint s number => exact number
  rw [literal, ahead_bind, if_pos hstart]
  cases c with
  | literal s =>
      rw [bind_of_ok (marks?_of_none (by rfl))]
      rfl
  | truth b =>
      rw [bind_of_ok (marks?_of_none (by rfl))]
      rfl
  | negative joint s number =>
      rw [bind_of_ok (marks?_of_some (t := .literal s :: rest) (by rfl))]
      rfl

/-- The attribute ends here or a comma stands here. -/
def AtComma (ts : List Token) : Prop :=
  ts = [] ∨ ∃ joint more, ts = .mark "," joint :: more

/-- At a comma no other mark is found. -/
theorem AtComma.dropMarks?_eq_none {ts : List Token} {m : String} {c : Char} {cs : List Char}
    (h : AtComma ts) (hm : m.toList = c :: cs) (hc : c ≠ ',') :
    Token.dropMarks? m.toList ts = none := by
  rw [hm]
  obtain rfl | ⟨joint, more, rfl⟩ := h
  · rfl
  · rw [Token.dropMarks?, if_neg]
    rintro ⟨hcomma, -⟩
    have := congrArg String.toList hcomma
    simp at this
    exact hc this.symm

/-- What stands behind a key is read as the text it has, and nothing beyond it. -/
theorem entryText_run {key : String} {rest : List Token} (b : Behind) (h : AtComma rest) :
    entryText key (b.tokens ++ rest) = (b.text key).map fun text => (text, rest) := by
  cases b with
  | nothing =>
      have hnone : Token.dropMarks? "=".toList rest = none :=
        h.dropMarks?_eq_none (c := '=') rfl (by decide)
      rw [Behind.tokens, List.nil_append, entryText, bind_of_error (marks_of_none hnone)]
      rfl
  | list inner =>
      rw [entryText, bind_of_error (marks_of_none (by rfl))]
      rfl
  | value joint c =>
      rw [entryText, bind_of_ok (marks_of_some (t := c.tokens ++ rest) (by rfl))]
      rw [bind_of_ok (literal_constant c rest)]
      cases c with
      | literal l =>
          dsimp only [Behind.text, Constant.shown]
          cases stringValue? l <;> rfl
      | truth b => cases b <;> rfl
      | negative => rfl

theorem entryText_of_ok {key : String} {b : Behind} {rest : List Token}
    {text : List Char × List Char} (h : AtComma rest) (htext : b.text key = .ok text) :
    entryText key (b.tokens ++ rest) = .ok (text, rest) := by
  rw [entryText_run b h, htext]
  rfl

theorem entryText_of_error {key : String} {b : Behind} {rest : List Token} {f : Fault}
    (h : AtComma rest) (htext : b.text key = .error f) :
    entryText key (b.tokens ++ rest) = .error f := by
  rw [entryText_run b h, htext]
  rfl

/-! ## Reading keys -/

/-- No colons stand behind a key. -/
theorem dropMarks?_colons_behind {rest : List Token} (b : Behind) (h : AtComma rest) :
    Token.dropMarks? "::".toList (b.tokens ++ rest) = none := by
  cases b with
  | nothing => exact h.dropMarks?_eq_none (c := ':') rfl (by decide)
  | value joint c => rfl
  | list inner => rfl

/-- The segments of a path behind the first are read up to its end. -/
theorem many_segments {ts : List Token} (h : Token.dropMarks? "::".toList ts = none)
    {fuel : Nat} (others : List String) (hfuel : others.length ≤ fuel) :
    many.go (Token.startsWith "::") (do let _ ← marks "::"; keySegment) fuel
        (others.flatMap Entry.segment ++ ts)
      = .ok (others.map Token.word, ts) := by
  induction others generalizing fuel with
  | nil =>
      cases fuel with
      | zero => rfl
      | succ fuel =>
          have hstop : Token.startsWith "::" ts = false := by
            rw [Token.startsWith, h]
            rfl
          rw [many.go, List.flatMap_nil, List.nil_append, ahead_bind, hstop,
            if_neg Bool.false_ne_true]
          rfl
  | cons w others ih =>
      cases fuel with
      | zero => exact absurd hfuel (Nat.not_succ_le_zero _)
      | succ fuel =>
          have hsegment : (do let _ ← marks "::"; keySegment)
              ((w :: others).flatMap Entry.segment ++ ts)
              = .ok ([.word w], others.flatMap Entry.segment ++ ts) := by
            rw [bind_of_ok (marks_of_some
              (t := .word w :: (others.flatMap Entry.segment ++ ts)) (by rfl))]
            rfl
          rw [many.go, ahead_bind, if_pos (by rfl), bind_of_ok hsegment,
            bind_of_ok (ih (Nat.le_of_succ_le_succ hfuel))]
          rfl

/-- Each segment of a path takes a token at least. -/
theorem length_le_length_segments (others : List String) (ts : List Token) :
    others.length ≤ (others.flatMap Entry.segment ++ ts).length := by
  induction others with
  | nil => exact Nat.zero_le _
  | cons w others ih =>
      rw [List.flatMap_cons, List.append_assoc, List.length_append, List.length_cons,
        Nat.add_comm]
      exact Nat.add_le_add (Nat.succ_le_succ (Nat.zero_le 2)) ih

/-- **THE KEY** of an entry is read up to what stands behind it. -/
theorem entryKey_run {rest : List Token} (e : Entry) (h : AtComma rest) :
    entryKey (e.tokens ++ rest) = .ok (e.key?, e.behind.tokens ++ rest) := by
  obtain ⟨absolute, first, others, behind, joint⟩ := e
  generalize hts : behind.tokens ++ rest = ts
  have hnone : Token.dropMarks? "::".toList ts = none := hts ▸ dropMarks?_colons_behind behind h
  have hothers : many (Token.startsWith "::") (do let _ ← marks "::"; keySegment)
      (others.flatMap Entry.segment ++ ts) = .ok (others.map Token.word, ts) := by
    rw [many, get_bind]
    exact many_segments hnone others (length_le_length_segments others ts)
  -- Both kinds of paths have the first word behind what is read of colons.
  obtain ⟨colons, hcolons, hempty⟩ : ∃ colons : List Token,
      marks? "::" (Entry.tokens ⟨absolute, first, others, behind, joint⟩ ++ rest)
        = .ok (colons, .word first :: (others.flatMap Entry.segment ++ ts))
      ∧ colons.isEmpty = !absolute := by
    rw [Entry.tokens, Entry.keyTokens, List.append_assoc, hts]
    cases absolute with
    | false => exact ⟨[], marks?_of_none (by rfl), rfl⟩
    | true => exact ⟨[Token.sign "::"], marks?_of_some (by rfl), rfl⟩
  rw [entryKey, bind_of_ok hcolons, get_bind]
  dsimp only
  rw [set_bind, bind_of_ok hothers, hempty, Entry.key?]
  cases others <;> rfl

/-! ## Reading behind a key -/

/-- A reader of what stands behind keys comes to the steps, whatever is behind
    the entry. -/
def Comes {α : Type} (read : α → Option String → Reader α) (step : α → Entry → Step α) :
    Prop :=
  ∀ a e rest, AtComma rest →
    read a e.key? (e.behind.tokens ++ rest)
      = match step a e with
        | .fault f => .error f
        | .next a left => .ok (a, left.tokens ++ rest)
        | .last a => .ok (a, [])

/-- An unknown entry is passed over, a value with all that follows. -/
theorem passOver_run {rest : List Token} (b : Behind) (h : AtComma rest) :
    passOver (b.tokens ++ rest) = .ok ((), match b with
      | .nothing | .list _ => rest
      | .value _ _ => []) := by
  cases b with
  | nothing =>
      obtain rfl | ⟨joint, more, rfl⟩ := h
      · rfl
      · rfl
  | value joint c => rfl
  | list inner => rfl

/-- So an unknown entry changes nothing, and leaves what is behind it unless it takes that
    too. -/
theorem passOver_comes {α : Type} {rest : List Token} (e : Entry) (a : α) (h : AtComma rest) :
    (do passOver; return a : Reader α) (e.behind.tokens ++ rest)
      = match e.passed a with
        | .fault f => .error f
        | .next a left => .ok (a, left.tokens ++ rest)
        | .last a => .ok (a, []) := by
  rw [bind_of_ok (passOver_run e.behind h), Entry.passed]
  cases e.behind <;> rfl

/-- An entry of a field comes to what the field makes of it. -/
theorem comes_fieldEntry : Comes fieldEntry Entry.ofField := by
  intro o e rest h
  rw [fieldEntry, Entry.ofField]
  split
  · cases htext : e.behind.text "rename" with
    | error f =>
        rw [bind_of_error (entryText_of_error h htext)]
    | ok t =>
        obtain ⟨text, suffix⟩ := t
        rw [bind_of_ok (entryText_of_ok h htext)]
        dsimp only
        split
        · rfl
        · rfl
  · split
    · rfl
    · exact passOver_comes e o h

theorem comes_itemEntry : Comes itemEntry Entry.ofItem := by
  intro root e rest h
  rw [itemEntry, Entry.ofItem]
  split
  · cases htext : e.behind.text "crate" with
    | error f =>
        rw [bind_of_error (entryText_of_error h htext)]
    | ok t =>
        obtain ⟨text, suffix⟩ := t
        rw [bind_of_ok (entryText_of_ok h htext)]
        dsimp only
        cases hpath : readPath text with
        | error f => rfl
        | ok path =>
            rw [bind_of_ok (a := path) (t := rest) (by rfl)]
            dsimp only
            split
            · rfl
            · rfl
  · exact passOver_comes e root h

/-! ## Reading entries -/

section

variable {α : Type} {read : α → Option String → Reader α} {step : α → Entry → Step α}

/-- No entry is read behind anything else than a comma. -/
theorem comma_missing (ts : List Token) {a : α} {more : Reader α}
    (hne : ts.isEmpty = false) (h : Token.dropMarks? ",".toList ts = none) :
    (do
      if ← ahead List.isEmpty then return a
      let _ ← marks ","
      more : Reader α) ts = .error (.expected "`,`" false) := by
  rw [ahead_bind, hne, if_neg Bool.false_ne_true, bind_of_error (marks_of_none h)]
  rfl

/-- One entry is read, and the comma behind it. -/
theorem readEntries_entry (hcomes : Comes read step) (fuel : Nat) (a : α) (e : Entry)
    {rest : List Token} (h : AtComma rest) :
    readEntries read (fuel + 1) a (e.tokens ++ rest)
      = (step a e).andThen (fun a => .ok (a, [])) fun a =>
        match rest with
        | [] | [_] => .ok (a, [])
        | _ :: more => readEntries read fuel a more := by
  have hread := hcomes a e rest h
  rw [readEntries, bind_of_ok (entryKey_run e h)]
  -- Only where the reading goes on does it matter what is behind the entry.
  cases hstep : step a e with
  | fault f =>
      rw [hstep] at hread
      exact bind_of_error hread
  | last a' =>
      rw [hstep] at hread
      rw [bind_of_ok hread]
      rfl
  | next a' left =>
      rw [hstep] at hread
      rw [bind_of_ok hread]
      cases left with
      | nothing =>
          obtain rfl | ⟨joint, more, rfl⟩ := h
          · rfl
          · rw [ahead_bind, if_neg (by exact Bool.false_ne_true),
              bind_of_ok (marks_of_some (t := more) (by rfl))]
            cases more with
            | nil => rfl
            | cons t ts => rfl
      | value joint c =>
          exact comma_missing ((Behind.value joint c).tokens ++ rest) (by rfl) (by rfl)
      | list inner =>
          exact comma_missing ((Behind.list inner).tokens ++ rest) (by rfl) (by rfl)

/-- No entry is empty. -/
theorem exists_cons_tokens (e : Entry) (ts : List Token) :
    ∃ t rest, e.tokens ++ ts = t :: rest := by
  obtain ⟨absolute, first, others, behind, joint⟩ := e
  cases absolute with
  | false => exact ⟨_, _, rfl⟩
  | true => exact ⟨_, _, rfl⟩

theorem exists_cons_spell (trailing : Bool) (e : Entry) (es : List Entry) :
    ∃ t rest, Entry.spell trailing (e :: es) = t :: rest := by
  cases es with
  | nil => exact exists_cons_tokens e _
  | cons e' es => exact exists_cons_tokens e _

/-- Each entry consists of a token or more. -/
theorem length_le_length_spell (trailing : Bool) (es : List Entry) :
    es.length ≤ (Entry.spell trailing es).length := by
  induction es with
  | nil => exact Nat.le_refl 0
  | cons e es ih =>
      cases es with
      | nil =>
          obtain ⟨t, ts, hspell⟩ := exists_cons_spell trailing e []
          rw [hspell]
          exact Nat.succ_le_succ (Nat.zero_le _)
      | cons e' es =>
          simp only [Entry.spell, List.length_append, List.length_cons] at ih ⊢
          omega

/-- **ENTRIES ARE READ ONE AFTER ANOTHER**, by what each of them comes to. -/
theorem readEntries_spell (hcomes : Comes read step) (trailing : Bool) (e : Entry)
    (es : List Entry) {fuel : Nat} (hfuel : es.length < fuel) (a : α) :
    readEntries read fuel a (Entry.spell trailing (e :: es))
      = (Step.sequence step a (e :: es)).map fun a => (a, []) := by
  rw [Step.sequence, Step.map_andThen]
  -- One entry is read at a time, and what is left to read behind its comma is
  -- again a list of entries, with less fuel and from another state.
  induction es generalizing e fuel a with
  | nil =>
      obtain ⟨fuel, rfl⟩ := Nat.exists_eq_succ_of_ne_zero (Nat.ne_zero_of_lt hfuel)
      have hcomma : AtComma (if trailing then [.mark "," e.joint] else []) := by
        cases trailing with
        | true => exact Or.inr ⟨_, _, rfl⟩
        | false => exact Or.inl rfl
      rw [Entry.spell, readEntries_entry hcomes fuel a e hcomma]
      cases trailing <;> rfl
  | cons e' es ih =>
      obtain ⟨fuel, rfl⟩ := Nat.exists_eq_succ_of_ne_zero (Nat.ne_zero_of_lt hfuel)
      obtain ⟨t, ts, hspell⟩ := exists_cons_spell trailing e' es
      rw [Entry.spell, readEntries_entry hcomes fuel a e (Or.inr ⟨_, _, rfl⟩), hspell]
      refine congrArg ((step a e).andThen _) (funext fun a' => ?_)
      rw [Step.sequence, Step.map_andThen, ← ih e' (Nat.lt_of_succ_lt_succ hfuel) a', hspell]

/-- The attribute with entries is read as they are. -/
theorem readAttribute_contents (hcomes : Comes read step) (d : Delimiter) (trailing : Bool)
    (es : List Entry) (a : α) :
    readAttribute read a (Entry.contents d trailing es) = Step.sequence step a es := by
  cases es with
  | nil => rfl
  | cons e es =>
      have hread := readEntries_spell hcomes trailing e es
        (length_le_length_spell trailing (e :: es)) a
      obtain ⟨t, ts, hspell⟩ := exists_cons_spell trailing e es
      rw [Entry.contents]
      rw [hspell] at hread ⊢
      show Reader.all _ (t :: ts) = _
      rw [Reader.all, StateT.run, hread]
      cases Step.sequence step a (e :: es) <;> rfl

/-! ## Entries of unknown kinds -/

/-- Attributes are read alike when one of them is replaced by another that is. -/
theorem readAttributes_replace {x y : List Token}
    (h : ∀ a, readAttribute read a x = readAttribute read a y)
    (front behind : List (List Token)) (a : α) :
    readAttributes read a (front ++ x :: behind)
      = readAttributes read a (front ++ y :: behind) := by
  simp only [readAttributes, List.foldlM_append, List.foldlM_cons, h]

/-- What is read when an entry is passed over: the other entries, or those in
    front of it. -/
theorem readAttributes_passed (hcomes : Comes read step) {u : Entry}
    (hu : ∀ a, step a u = u.passed a) (d : Delimiter) (trailing : Bool)
    (before after : List Entry) (front behind : List (List Token)) (a : α) :
    ((∀ joint c, u.behind ≠ .value joint c) →
      readAttributes read a (front ++ Entry.contents d trailing (before ++ u :: after) :: behind)
        = readAttributes read a (front ++ Entry.contents d trailing (before ++ after) :: behind))
    ∧ (∀ joint c, u.behind = .value joint c →
      readAttributes read a (front ++ Entry.contents d trailing (before ++ u :: after) :: behind)
        = readAttributes read a (front ++ Entry.contents d trailing before :: behind)) := by
  constructor
  · intro hvalue
    have hnext : ∀ a, step a u = .next a .nothing := by
      intro a
      rw [hu, Entry.passed]
      cases hbehind : u.behind with
      | nothing => rfl
      | list inner => rfl
      | value joint c => exact absurd hbehind (hvalue joint c)
    refine readAttributes_replace (fun a => ?_) front behind a
    rw [readAttribute_contents hcomes, readAttribute_contents hcomes,
      Step.sequence_of_next hnext]
  · intro joint c hvalue
    have hlast : ∀ a, step a u = .last a := by
      intro a
      rw [hu, Entry.passed, hvalue]
    refine readAttributes_replace (fun a => ?_) front behind a
    rw [readAttribute_contents hcomes, readAttribute_contents hcomes,
      Step.sequence_of_last hlast]

end

/-- **ENTRIES OF UNKNOWN KINDS**: without a constant such an entry has no part in
    what the attributes of a field and of an item say, faults included.  With a
    constant it hides the entries behind it in its attribute, and has no other
    part. -/
theorem ofAttributes_unknown (u : Entry) (before after : List Entry) (d : Delimiter)
    (trailing : Bool) (front behind : List (List Token)) :
    (u.key? ≠ some "rename" → u.key? ≠ some "skip" →
      ((∀ joint c, u.behind ≠ .value joint c) →
        FieldOptions.ofAttributes
            (front ++ Entry.contents d trailing (before ++ u :: after) :: behind)
          = FieldOptions.ofAttributes
            (front ++ Entry.contents d trailing (before ++ after) :: behind))
      ∧ (∀ joint c, u.behind = .value joint c →
        FieldOptions.ofAttributes
            (front ++ Entry.contents d trailing (before ++ u :: after) :: behind)
          = FieldOptions.ofAttributes
            (front ++ Entry.contents d trailing before :: behind)))
    ∧ (u.key? ≠ some "crate" →
      ((∀ joint c, u.behind ≠ .value joint c) →
        rootOfAttributes (front ++ Entry.contents d trailing (before ++ u :: after) :: behind)
          = rootOfAttributes (front ++ Entry.contents d trailing (before ++ after) :: behind))
      ∧ (∀ joint c, u.behind = .value joint c →
        rootOfAttributes (front ++ Entry.contents d trailing (before ++ u :: after) :: behind)
          = rootOfAttributes (front ++ Entry.contents d trailing before :: behind))) := by
  constructor
  · intro hrename hskip
    have hu : ∀ o, Entry.ofField o u = u.passed o := by
      intro o
      rw [Entry.ofField, if_neg hrename, if_neg hskip]
    exact readAttributes_passed comes_fieldEntry hu d trailing before after front behind _
  · intro hcrate
    have hu : ∀ root, Entry.ofItem root u = u.passed root := by
      intro root
      rw [Entry.ofItem, if_neg hcrate]
    exact readAttributes_passed comes_itemEntry hu d trailing before after front behind _

/-- An entry with a constant hides the name that the field is given, and the
    fault of an entry behind it. -/
theorem ofAttributes_unknown_hides :
    let entry (key : String) (behind : Behind) : Entry := ⟨false, key, [], behind, false⟩
    let text (s : String) : Behind := .value false (.literal s)
    let other := entry "other" (text "\"x\"")
    let list := entry "other" (.list [.word "x"])
    let rename := entry "rename" (text "\"y\"")
    let crate := entry "crate" (.value false (.truth true))
    let read (es : List Entry) : List (List Token) := [Entry.contents .parenthesis true es]
    FieldOptions.ofAttributes (read [rename]) = .ok ⟨some ['y'], false⟩
      ∧ FieldOptions.ofAttributes (read [list, rename]) = .ok ⟨some ['y'], false⟩
      ∧ FieldOptions.ofAttributes (read [other, rename]) = .ok ⟨none, false⟩
      ∧ rootOfAttributes (read [crate]) = .error (.notString "crate")
      ∧ rootOfAttributes (read [list, crate]) = .error (.notString "crate")
      ∧ rootOfAttributes (read [other, crate]) = .ok none := by
  intro entry text other list rename crate read
  have hlist : ∀ joint c, list.behind ≠ .value joint c := fun _ _ h => nomatch h
  obtain ⟨hfield, -⟩ := ofAttributes_unknown list [] [rename] .parenthesis true [] []
  obtain ⟨-, hitem⟩ := ofAttributes_unknown list [] [crate] .parenthesis true [] []
  obtain ⟨hfield', -⟩ := ofAttributes_unknown other [] [rename] .parenthesis true [] []
  obtain ⟨-, hitem'⟩ := ofAttributes_unknown other [] [crate] .parenthesis true [] []
  have hrename : FieldOptions.ofAttributes (read [rename]) = .ok ⟨some ['y'], false⟩ := by rfl
  have hcrate : rootOfAttributes (read [crate]) = .error (.notString "crate") := by rfl
  refine ⟨hrename, ?_, ?_, hcrate, ?_, ?_⟩
  · exact ((hfield (by decide) (by decide)).1 hlist).trans hrename
  · exact (hfield' (by decide) (by decide)).2 false _ rfl
  · exact ((hitem (by decide)).1 hlist).trans hcrate
  · exact (hitem' (by decide)).2 false _ rfl

end Fixture.Derive
