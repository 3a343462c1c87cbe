import Mathlib.Data.List.DropRight
import Fixture.Convert.Array
import Fixture.Convert.Scalar
import Fixture.Proofs.NumberText

/-! # Arrays and their texts

    The text of an array of scalars is read back item by item: every item is
    written so that a comma or a bracket behind it ends it.  Strings and whole
    numbers come back by themselves, doubles if the reader gives each the double
    it was written from.  A list is then the same whether it is converted from
    the array or from its text, and so is what goes wrong. -/

namespace Fixture

namespace Json

/-! ## Strings -/

/-- The controls that have no short escape are spelled with four digits. -/
theorem hexValue?_control : ∀ n < 0x20,
    let ds := Nat.toDigits 16 n
    (List.replicate (4 - ds.length) '0' ++ ds).length = 4
      ∧ hexValue? (List.replicate (4 - ds.length) '0' ++ ds) = some n := by
  decide

/-- Four digits of a code point that is no surrogate are read as its character. -/
theorem takeUnicode_append {ds : List Char} {n : Nat} (hlength : ds.length = 4)
    (hvalue : hexValue? ds = some n) (hn : n < 0xD800) (rest : List Char) :
    takeUnicode (ds ++ rest) = .ok (Char.ofNat n, rest) := by
  -- a character has at least one byte
  have hsize : ¬ Text.byteSize (ds ++ rest) < 4 := by
    obtain ⟨a, b, c, d, rfl⟩ := List.length_eq_four.mp hlength
    have ha := a.utf8Size_pos
    have hb := b.utf8Size_pos
    have hc := c.utf8Size_pos
    have hd := d.utf8Size_pos
    simp only [List.cons_append, Text.byteSize]
    omega
  have hhex : takeHex (ds ++ rest) = .ok (n, rest) := by
    rw [takeHex, if_neg hsize, List.take_left' hlength, List.drop_left' hlength, hvalue]
  rw [takeUnicode, hhex]
  change (if 0xDC00 ≤ n ∧ n ≤ 0xDFFF then _ else if n < 0xD800 ∨ 0xDBFF < n then _ else _) = _
  rw [if_neg (by omega), if_pos (Or.inl hn)]

/-- A character stands for itself, or for its escape, which is read back. -/
theorem escape_cases (c : Char) :
    (escape c = [c] ∧ c ≠ '"' ∧ c ≠ '\\' ∧ ¬ c.toNat < 0x20)
    ∨ ∃ e, escape c = '\\' :: e ∧ ∀ rest, takeEscape (e ++ rest) = .ok (c, rest) := by
  rw [escape.eq_def]
  split
  · exact Or.inr ⟨['"'], rfl, fun _ => rfl⟩
  · exact Or.inr ⟨['\\'], rfl, fun _ => rfl⟩
  · exact Or.inr ⟨['b'], rfl, fun _ => rfl⟩
  · exact Or.inr ⟨['f'], rfl, fun _ => rfl⟩
  · exact Or.inr ⟨['n'], rfl, fun _ => rfl⟩
  · exact Or.inr ⟨['r'], rfl, fun _ => rfl⟩
  · exact Or.inr ⟨['t'], rfl, fun _ => rfl⟩
  · rename_i hquote hslash _ _ _ _ _
    split
    · rename_i hcontrol
      obtain ⟨hlength, hvalue⟩ := hexValue?_control c.toNat hcontrol
      refine Or.inr ⟨_, rfl, fun rest => ?_⟩
      have hread := takeUnicode_append hlength hvalue (by omega) rest
      rwa [Char.ofNat_toNat] at hread
    · rename_i hprinted
      exact Or.inl ⟨rfl, hquote, hslash, hprinted⟩

/-- **A STRING** is read back from its escapes. -/
theorem takeString_flatMap_escape (cs rest : List Char) {fuel : Nat} (hfuel : cs.length < fuel) :
    takeString fuel (cs.flatMap escape ++ '"' :: rest) = .ok (cs, rest) := by
  induction cs generalizing fuel with
  | nil =>
      obtain ⟨fuel, rfl⟩ := Nat.exists_eq_succ_of_ne_zero (Nat.ne_of_gt hfuel)
      rfl
  | cons c cs ih =>
      obtain ⟨fuel, rfl⟩ := Nat.exists_eq_succ_of_ne_zero (Nat.ne_of_gt (Nat.zero_lt_of_lt hfuel))
      have htail := ih (Nat.lt_of_succ_lt_succ hfuel)
      rw [List.flatMap_cons, List.append_assoc]
      rcases escape_cases c with ⟨hc, hquote, hslash, hprinted⟩ | ⟨e, he, hread⟩
      · rw [hc, List.singleton_append, takeString, if_neg hquote, if_neg hslash, if_neg hprinted,
          htail]
        rfl
      · rw [he, List.cons_append, takeString, if_neg (by decide), if_pos rfl, hread]
        change (takeString fuel _ >>= _) = _
        rw [htail]
        rfl

/-- Escaping makes no text shorter. -/
theorem length_le_flatMap_escape (cs : List Char) : cs.length ≤ (cs.flatMap escape).length := by
  induction cs with
  | nil => exact Nat.le_refl 0
  | cons c cs ih =>
      have hpos : 0 < (escape c).length := by
        rcases escape_cases c with ⟨hc, -⟩ | ⟨e, he, -⟩
        · rw [hc]
          exact Nat.one_pos
        · rw [he]
          exact Nat.succ_pos _
      rw [List.flatMap_cons, List.length_append, List.length_cons]
      omega

/-- A quoted text is read up to the quotation mark that ends it. -/
theorem takeText_quote (s : String) (rest : List Char) :
    takeText (s.toList.flatMap escape ++ '"' :: rest) = .ok (s, rest) := by
  have hfuel : s.toList.length < (s.toList.flatMap escape ++ '"' :: rest).length := by
    have := length_le_flatMap_escape s.toList
    rw [List.length_append, List.length_cons]
    omega
  rw [takeText, takeString_flatMap_escape _ _ hfuel]
  change Except.ok (String.ofList s.toList, rest) = _
  rw [String.ofList_toList]

/-! ## Items -/

/-- In front of what may stand behind an item, the text of the document is read as
    the document. -/
def IsItem (j : Json) : Prop :=
  ∀ fuel depth {rest}, EndsItem rest →
    takeValue (fuel + 1) depth (j.render ++ rest) = .ok (j, rest)

theorem isItem_null : IsItem .null := fun _ _ _ _ => rfl

theorem isItem_bool : ∀ b, IsItem (.bool b)
  | true => fun _ _ _ _ => rfl
  | false => fun _ _ _ _ => rfl

theorem isItem_string (s : String) : IsItem (.string s) := by
  intro fuel depth rest _
  have htext := takeText_quote s rest
  rw [render, quote, List.append_assoc]
  change (takeText (s.toList.flatMap escape ++ '"' :: rest) >>= _) = _
  rw [htext]
  rfl

/-! ## Numbers -/

/-- A sign begins a number, and only that. -/
theorem takeValue_minus (fuel depth : Nat) (s : List Char) :
    takeValue (fuel + 1) depth ('-' :: s)
      = (takeNumber true s).map fun taken => (.number taken.1, taken.2) := rfl

theorem isSpace_of_isDigit {c : Char} (hc : c.isDigit = true) : isSpace c = false := by
  cases hspace : isSpace c with
  | false => rfl
  | true =>
      simp only [isSpace, Bool.or_eq_true, decide_eq_true_eq] at hspace
      rcases hspace with ((rfl | rfl) | rfl) | rfl
      · cases hc
      · cases hc
      · cases hc
      · cases hc

/-- A digit begins a number, too. -/
theorem takeValue_digit (fuel depth : Nat) {c : Char} (hc : c.isDigit = true) (s : List Char) :
    takeValue (fuel + 1) depth (c :: s)
      = (takeNumber false (c :: s)).map fun taken => (.number taken.1, taken.2) := by
  have hskip : skipSpace (c :: s) = c :: s :=
    List.dropWhile_cons_of_neg (Bool.eq_false_iff.mp (isSpace_of_isDigit hc))
  have hother : ∀ {d : Char} {t : List Char}, d.isDigit = false → c :: s ≠ d :: t := by
    intro d t hd heq
    rw [(List.cons.inj heq).1, hd] at hc
    cases hc
  rw [takeValue.eq_def]
  dsimp only
  rw [hskip]
  split
  · rename_i heq
    cases heq
  · rename_i heq
    exact absurd heq (hother rfl)
  · rename_i heq
    exact absurd heq (hother rfl)
  · rename_i heq
    exact absurd heq (hother rfl)
  · rename_i heq
    exact absurd heq (hother rfl)
  · rename_i heq
    exact absurd heq (hother rfl)
  · rename_i heq
    exact absurd heq (hother rfl)
  · rename_i heq
    exact absurd heq (hother rfl)
  · rename_i heq
    obtain ⟨rfl, rfl⟩ := List.cons.inj heq
    rw [if_pos hc]
    rfl

/-! ### Texts of numbers -/

/-- There is no space in the text. -/
def Unspaced (s : List Char) : Prop := ∀ c ∈ s, isSpace c = false

@[simp] theorem unspaced_nil : Unspaced [] := fun _ h => nomatch h

@[simp] theorem unspaced_cons {c : Char} {s : List Char} :
    Unspaced (c :: s) ↔ isSpace c = false ∧ Unspaced s := List.forall_mem_cons

@[simp] theorem unspaced_append {s t : List Char} :
    Unspaced (s ++ t) ↔ Unspaced s ∧ Unspaced t := List.forall_mem_append

@[simp] theorem unspaced_zeros (k : Nat) : Unspaced (List.replicate k '0') := by
  intro c hc
  rw [List.eq_of_mem_replicate hc]
  rfl

@[simp] theorem unspaced_toDigits (m : Nat) : Unspaced (Nat.toDigits 10 m) :=
  fun _ hc => isSpace_of_isDigit (Nat.isDigit_of_mem_toDigits (by decide) (by decide) hc)

theorem unspaced_positional (d : Decimal) : Unspaced d.positional := by
  have hdigits : Unspaced d.digits := unspaced_toDigits _
  have htake : ∀ k, Unspaced (d.digits.take k) := by
    intro k c hc
    exact hdigits c (List.mem_of_mem_take hc)
  have hdrop : ∀ k, Unspaced (d.digits.drop k) := by
    intro k c hc
    exact hdigits c (List.mem_of_mem_drop hc)
  rw [Decimal.positional]
  split
  · simp [hdigits]
  · dsimp only
    split
    · simp [htake, hdrop, isSpace]
    · simp [hdigits, isSpace]

theorem unspaced_mantissa (d : Decimal) : Unspaced d.mantissa := by
  have hdigits : Unspaced d.digits := unspaced_toDigits _
  rw [Decimal.mantissa]
  split
  · exact unspaced_nil
  · rename_i heq
    exact heq ▸ hdigits
  · rename_i heq
    rw [heq, unspaced_cons] at hdigits
    exact unspaced_cons.mpr ⟨hdigits.1, unspaced_cons.mpr ⟨rfl, hdigits.2⟩⟩

/-- In either notation a decimal has no space in it. -/
theorem unspaced_decimalText (style : Style) (d : Decimal) : Unspaced (style.decimalText d) := by
  rw [Style.decimalText]
  split
  · split
    · simp [unspaced_positional, isSpace]
    · exact unspaced_positional d
  · simp only [unspaced_append, unspaced_cons, unspaced_mantissa, Style.exponentText, true_and]
    split
    · simp [isSpace]
    · simp [isSpace]

theorem unspaced_styleText (style : Style) (x : Binary64) : Unspaced (style.text x) := by
  have hunsigned : Unspaced (style.unsignedText x) := by
    cases x with
    | nan => simp [Style.unsignedText, isSpace]
    | infinite => simp [Style.unsignedText, isSpace]
    | finite negative c e h =>
        rw [Style.unsignedText]
        split
        · exact unspaced_decimalText style _
        · exact unspaced_decimalText style _
  rw [Style.text]
  split
  · simp [hunsigned, isSpace]
  · exact hunsigned

/-- The text of a number in a document is one word. -/
theorem unspaced_text (n : JsonNumber) : Unspaced n.text := by
  cases n with
  | integer k hk =>
      rw [JsonNumber.text]
      split
      · simp [isSpace]
      · simp
  | real x hx => exact unspaced_styleText _ x

/-! ### Numbers at the front -/

/-- A word is read as what it stands for, or not at all. -/
theorem eq_of_takeWord {α : Type} {result a : α} {ws s r : List Char}
    (h : takeWord result ws s = .ok (a, r)) : a = result := by
  induction ws generalizing s with
  | nil => exact (Prod.mk.inj (Except.ok.inj h)).1.symm
  | cons w ws ih =>
      cases s with
      | nil => cases h
      | cons c s =>
          rw [takeWord] at h
          split at h
          · exact ih h
          · cases h

/-- A number is taken from a text without spaces as its first character says. -/
theorem takeNumber_of_takeValue {fuel depth : Nat} {s r : List Char} {n : JsonNumber}
    (hspace : Unspaced s) (h : takeValue (fuel + 1) depth s = .ok (.number n, r)) :
    (∃ t, s = '-' :: t ∧ takeNumber true t = .ok (n, r))
    ∨ ∃ c t, s = c :: t ∧ c.isDigit = true ∧ takeNumber false s = .ok (n, r) := by
  have hskip : skipSpace s = s := by
    cases s with
    | nil => rfl
    | cons c s =>
        exact List.dropWhile_cons_of_neg (Bool.eq_false_iff.mp (hspace c (List.mem_cons_self ..)))
  rw [takeValue.eq_def] at h
  dsimp only at h
  rw [hskip] at h
  split at h
  · cases h
  · cases eq_of_takeWord h
  · cases eq_of_takeWord h
  · cases eq_of_takeWord h
  · obtain ⟨_, -, h⟩ := bind_eq_ok_iff.mp h
    cases h
  · split at h
    · cases h
    · obtain ⟨_, -, h⟩ := bind_eq_ok_iff.mp h
      cases h
  · split at h
    · cases h
    · obtain ⟨_, -, h⟩ := bind_eq_ok_iff.mp h
      cases h
  · obtain ⟨⟨m, t⟩, hm, h⟩ := bind_eq_ok_iff.mp h
    cases h
    exact Or.inl ⟨_, rfl, hm⟩
  · split at h
    · rename_i hdigit
      obtain ⟨⟨m, t⟩, hm, h⟩ := bind_eq_ok_iff.mp h
      cases h
      exact Or.inr ⟨_, _, rfl, hdigit, hm⟩
    · cases h

/-- Read as a whole text, the text of the number gives the number. -/
def ReadsBack (n : JsonNumber) : Prop := read n.text = .ok (.number n)

/-- The number that was read, if one was. -/
def number? : Except Fault Json → Option JsonNumber
  | .ok (.number n) => some n
  | _ => none

/-- A number reads back if reading its whole text gives it. -/
theorem readsBack_iff {n : JsonNumber} : ReadsBack n ↔ number? (read n.text) = some n := by
  constructor
  · intro h
    rw [h]
    rfl
  · intro h
    rw [number?.eq_def] at h
    split at h
    · rename_i heq
      rw [ReadsBack, heq, Option.some.inj h]
    · cases h

instance decidableReadsBack (n : JsonNumber) : Decidable (ReadsBack n) :=
  decidable_of_iff _ readsBack_iff.symm

/-- **A NUMBER** that is read back from its text is read back in an array. -/
theorem isItem_number {n : JsonNumber} (h : ReadsBack n) : IsItem (.number n) := by
  intro fuel depth rest hrest
  obtain ⟨⟨j, r⟩, htake, hfinish⟩ := bind_eq_ok_iff.mp (mapError_eq_ok_iff.mp h)
  obtain ⟨hr, hj⟩ : skipSpace r = [] ∧ j = .number n := by
    rw [finish] at hfinish
    split at hfinish
    · exact ⟨‹_›, Except.ok.inj hfinish⟩
    · cases hfinish
  subst hj
  -- nothing is left, for what is left would be spaces of the text
  have hnil : ∀ {s : List Char}, r <:+ s → (∀ c ∈ s, isSpace c = false) → r = [] := by
    intro s hsuffix hspace
    refine List.eq_nil_iff_forall_not_mem.mpr fun c hc => ?_
    have := List.dropWhile_eq_nil_iff.mp hr c hc
    rw [hspace c (hsuffix.subset hc)] at this
    cases this
  rw [render]
  rcases takeNumber_of_takeValue (unspaced_text n) htake with
    ⟨t, ht, hnumber⟩ | ⟨c, t, ht, hc, hnumber⟩
  · have hspace := unspaced_text n
    rw [ht, unspaced_cons] at hspace
    obtain rfl := hnil (suffix_of_takeNumber hnumber) hspace.2
    rw [ht, List.cons_append, takeValue_minus, takeNumber_append hrest hnumber]
    rfl
  · obtain rfl := hnil (suffix_of_takeNumber hnumber) (unspaced_text n)
    have happend := takeNumber_append hrest hnumber
    rw [ht] at happend ⊢
    rw [List.cons_append, takeValue_digit fuel depth hc, ← List.cons_append, happend]
    rfl

/-- An integer that a document can hold reads back. -/
theorem isItem_integer (k : Int) (hk : IntType.i64.least ≤ k ∧ k ≤ IntType.u64.greatest) :
    IsItem (.number (.integer k hk)) := by
  intro fuel depth rest hrest
  have hnumber := takeNumber_append hrest (takeNumber_natAbs k hk)
  rw [render, JsonNumber.text]
  by_cases hneg : k < 0
  · rw [decide_eq_true hneg] at hnumber
    rw [if_pos hneg, List.append_assoc, List.singleton_append, takeValue_minus, hnumber]
    rfl
  · rw [decide_eq_false hneg] at hnumber
    rw [if_neg hneg, List.nil_append]
    cases hds : Nat.toDigits 10 k.natAbs with
    | nil => exact absurd hds Nat.toDigits_ne_nil
    | cons c ds =>
        have hc : c.isDigit = true := Nat.isDigit_of_mem_toDigits (by decide) (by decide)
          (hds ▸ List.mem_cons_self ..)
        rw [hds] at hnumber
        rw [List.cons_append, takeValue_digit fuel depth hc, ← List.cons_append, hnumber]
        rfl

/-! ## Arrays -/

/-- The node of a document has no further nodes. -/
def IsScalar : Json → Prop
  | .null | .bool _ | .number _ | .string _ => True
  | .array _ | .object _ => False

/-- Every scalar is read back if its number is, should it be a double. -/
theorem isItem_of_isScalar {j : Json} (hscalar : j.IsScalar)
    (hreal : ∀ x hx, j = .number (.real x hx) → ReadsBack (.real x hx)) : IsItem j := by
  cases j with
  | null => exact isItem_null
  | bool b => exact isItem_bool b
  | string s => exact isItem_string s
  | number n =>
      cases n with
      | integer k hk => exact isItem_integer k hk
      | real x hx => exact isItem_number (hreal x hx rfl)
  | array items => exact hscalar.elim
  | object members => exact hscalar.elim

/-- All items but the first stand behind a comma. -/
theorem renderItems_cons (j : Json) (js : List Json) :
    renderItems (j :: js) = j.render ++ js.flatMap fun j => ',' :: j.render := by
  induction js generalizing j with
  | nil => rw [renderItems, List.flatMap_nil, List.append_nil]
  | cons j' js ih =>
      rw [renderItems, ih j', List.flatMap_cons, List.cons_append]
      exact fun h => nomatch h

/-- Space in front of a value is passed over anyway. -/
theorem takeValue_skipSpace (fuel depth : Nat) (s : List Char) :
    takeValue (fuel + 1) depth (skipSpace s) = takeValue (fuel + 1) depth s := by
  have hidem : skipSpace (skipSpace s) = skipSpace s := List.dropWhile_idempotent ..
  rw [takeValue.eq_def, takeValue.eq_def (fuel + 1) depth s]
  dsimp only
  rw [hidem]

/-- An item is taken off the front of the items and the others behind it, with a
    comma in front of it or without. -/
theorem takeItems_cons {fuel depth : Nat} {s t r : List Char} {j : Json} {js : List Json}
    (hitem : takeValue (fuel + 1) depth s = .ok (j, t))
    (hitems : takeItems (fuel + 1) depth false t = .ok (js, r)) :
    takeItems (fuel + 2) depth true s = .ok (j :: js, r)
    ∧ takeItems (fuel + 2) depth false (',' :: s) = .ok (j :: js, r) := by
  have hskip := (takeValue_skipSpace fuel depth s).trans hitem
  generalize hu : skipSpace s = u at hskip
  -- the item is taken whether a comma was there or not
  have htake : (takeValue (fuel + 1) depth u >>= fun taken =>
      takeItems (fuel + 1) depth false taken.2 >>= fun more =>
        .ok (taken.1 :: more.1, more.2)) = .ok (j :: js, r) := by
    rw [hskip]
    change (takeItems (fuel + 1) depth false t >>= _) = _
    rw [hitems]
    rfl
  have hbracket : ∀ v, u ≠ ']' :: v := by
    rintro v rfl
    cases hskip
  have hnil : u ≠ [] := by
    rintro rfl
    cases hskip
  constructor
  · rw [takeItems.eq_def]
    dsimp only
    rw [hu]
    split
    · exact absurd rfl hnil
    · exact absurd rfl (hbracket _)
    · exact htake
    · contradiction
    · contradiction
  · rw [takeItems.eq_def]
    dsimp only
    have hcomma : skipSpace (',' :: s) = ',' :: s := rfl
    simp only [hcomma, hu]
    exact htake

/-- **THE ITEMS OF AN ARRAY** are read back up to its bracket. -/
theorem takeItems_flatMap {js : List Json} (h : ∀ j ∈ js, IsItem j) (depth : Nat)
    (rest : List Char) (fuel : Nat) (hfuel : js.length < fuel) :
    takeItems fuel depth false ((js.flatMap fun j => ',' :: j.render) ++ ']' :: rest)
      = .ok (js, rest) := by
  induction js generalizing fuel with
  | nil =>
      obtain ⟨fuel, rfl⟩ := Nat.exists_eq_succ_of_ne_zero (Nat.ne_of_gt hfuel)
      rfl
  | cons j js ih =>
      obtain ⟨fuel, rfl⟩ := Nat.exists_eq_add_of_le' (Nat.le_trans (by simp) hfuel : 2 ≤ fuel)
      rw [List.length_cons] at hfuel
      have hitems := ih (fun j hj => h j (List.mem_cons_of_mem _ hj)) (fuel + 1) (by omega)
      have hends : EndsItem ((js.flatMap fun j => ',' :: j.render) ++ ']' :: rest) := by
        cases js with
        | nil => exact ⟨rest, Or.inr rfl⟩
        | cons j' js => exact ⟨_, Or.inl rfl⟩
      have hitem := h j (List.mem_cons_self ..) fuel depth hends
      rw [List.flatMap_cons, List.append_assoc, List.cons_append]
      exact (takeItems_cons hitem hitems).2

/-- There are no more items than characters, so the fuel of the reader lasts. -/
theorem length_le_renderItems (js : List Json) : js.length ≤ (renderItems js).length + 1 := by
  cases js with
  | nil => exact Nat.zero_le _
  | cons j js =>
      have hcommas : js.length ≤ (js.flatMap fun j => ',' :: j.render).length := by
        induction js with
        | nil => exact Nat.le_refl 0
        | cons j js ih =>
            rw [List.flatMap_cons, List.length_append, List.length_cons, List.length_cons]
            omega
      rw [renderItems_cons, List.length_append, List.length_cons]
      omega

/-- **AN ARRAY** is read back from its text. -/
theorem readArray_render {items : List Json} (h : ∀ j ∈ items, IsItem j) :
    readArray (Json.array items).render = .ok items := by
  have htake : takeArray (Json.array items).render = .ok (items, []) := by
    change takeItems (2 * (renderItems items ++ [']']).length + 1) (depthLimit - 1) true
      (renderItems items ++ [']']) = .ok (items, [])
    have hlength := length_le_renderItems items
    rw [List.length_append, List.length_singleton]
    cases items with
    | nil => rfl
    | cons j js =>
        rw [List.length_cons] at hlength
        have hfuel : 2 * ((renderItems (j :: js)).length + 1) + 1
            = 2 * (renderItems (j :: js)).length + 1 + 2 := by omega
        have hends : EndsItem ((js.flatMap fun j => ',' :: j.render) ++ [']']) := by
          cases js with
          | nil => exact ⟨[], Or.inr rfl⟩
          | cons j' js => exact ⟨_, Or.inl rfl⟩
        have hitem := h j (List.mem_cons_self ..) (2 * (renderItems (j :: js)).length + 1)
          (depthLimit - 1) hends
        have hitems := takeItems_flatMap (fun j hj => h j (List.mem_cons_of_mem _ hj))
          (depthLimit - 1) [] (2 * (renderItems (j :: js)).length + 2) (by omega)
        -- the first item is the only one without a comma in front of it
        rw [hfuel, renderItems_cons, List.append_assoc]
        rw [renderItems_cons] at hitem hitems
        exact (takeItems_cons hitem hitems).1
  rw [readArray, htake]
  rfl

end Json

/-! ## Lists -/

/-- **A LIST** is the same from an array of scalars and from the text of the
    array, in its elements and in what is said of the first that is none, if every
    double in the array is read back from its own text. -/
theorem Convert.list_text {α : Type} (target : String) (item : Value → Except Fault α)
    {items : List Json} (hscalar : ∀ j ∈ items, j.IsScalar)
    (hreal : ∀ x hx, .number (.real x hx) ∈ items → Json.ReadsBack (.real x hx)) :
    list target item (.string (Value.array items).text) = list target item (.array items) := by
  have hread : Json.readArray (Value.array items).text.toList = .ok items := by
    rw [Value.text, String.toList_ofList]
    exact Json.readArray_render fun j hj =>
      Json.isItem_of_isScalar (hscalar j hj) fun x hx heq => hreal x hx (heq ▸ hj)
  have hsource : sourceItems target (.string (Value.array items).text)
      = sourceItems target (.array items) := by
    rw [sourceItems, sourceItems, hread]
  rw [list, list, hsource]

/-- Numbers in all their forms make the same doubles from the text of an array, and
    after a string with escapes a null is the same fault. -/
theorem Convert.list_text_numbers :
    let doubles : List JsonNumber := [.real (.ofInt 1) (by decide +kernel),
      .real (.ofDecimal true 0 0) (by decide +kernel),
      .real (.ofDecimal false 1 300) (by decide +kernel)]
    let numbers : List Json := .number (.integer 1 (by decide)) :: doubles.map .number
    let mixed : List Json := [.string "\"\\\n\x01", .null]
    list "list" double (.string "[1,1.0,-0.0,1e+300]") = list "list" double (.array numbers)
      ∧ list "list" (fun v => .ok v.text) (.string "[\"\\\"\\\\\\n\\u0001\",null]")
        = list "list" (fun v => .ok v.text) (.array mixed) := by
  intro doubles numbers mixed
  have hnumbers : (Value.array numbers).text = "[1,1.0,-0.0,1e+300]" := by decide +kernel
  have hmixed : (Value.array mixed).text = "[\"\\\"\\\\\\n\\u0001\",null]" := by decide +kernel
  refine ⟨?_, ?_⟩
  · rw [← hnumbers]
    refine list_text "list" double ?_ ?_
    · simp [numbers, doubles, Json.IsScalar]
    · have hback : ∀ n ∈ doubles, Json.ReadsBack n := by decide +kernel
      intro x hx hmem
      obtain hone | hmem := List.mem_cons.mp hmem
      · cases hone
      · obtain ⟨n, hn, heq⟩ := List.mem_map.mp hmem
        exact Json.number.inj heq ▸ hback n hn
  · rw [← hmixed]
    refine list_text "list" (fun v => .ok v.text) ?_ ?_
    · simp [mixed, Json.IsScalar]
    · intro x hx hmem
      simp [mixed] at hmem

end Fixture
