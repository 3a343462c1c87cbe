import Fixture.Number.Literal

/-! # Float literals, as a grammar

    The reader of literals cuts a text where its digits end.  Here is what it
    accepts, said without cutting: which texts are literals, and which number each
    of them comes to.  What another reader needs to know of a literal follows from
    the grammar, above all where a sign can stand in it: in front, and behind the
    letter of an exponent. -/

namespace Fixture.Literal

variable {f : Format} {negative : Bool} {s tail : List Char} {m : Nat} {x : Int}

/-! ## The grammar -/

/-- The sign in front of a text, if there is one. -/
inductive IsSign : List Char → Bool → Prop
  | none : IsSign [] false
  | plus : IsSign ['+'] false
  | minus : IsSign ['-'] true

/-- An exponent at the end of a literal, if there is one. -/
inductive IsExponent : List Char → Int → Prop
  | none : IsExponent [] 0
  | some {letter : Char} {sign ds : List Char} {negative : Bool}
      (hletter : letter = 'e' ∨ letter = 'E') (hsign : IsSign sign negative)
      (hne : ds ≠ []) (hds : ∀ c ∈ ds, c.isDigit = true) :
      IsExponent (letter :: (sign ++ ds))
        (if negative then -(digitsValue ds : Int) else digitsValue ds)

/-- Digits, perhaps with a point among them and an exponent behind them, that come
    to `m · 10 ^ x`. -/
inductive IsDecimal : List Char → Nat → Int → Prop
  | whole {ds tail : List Char} {x : Int} (hne : ds ≠ [])
      (hds : ∀ c ∈ ds, c.isDigit = true) (htail : IsExponent tail x) :
      IsDecimal (ds ++ tail) (digitsValue ds) x
  | point {ds ds' tail : List Char} {x : Int} (hne : ds ≠ [] ∨ ds' ≠ [])
      (hds : ∀ c ∈ ds, c.isDigit = true) (hds' : ∀ c ∈ ds', c.isDigit = true)
      (htail : IsExponent tail x) :
      IsDecimal (ds ++ '.' :: (ds' ++ tail)) (digitsValue (ds ++ ds')) (x - ds'.length)

/-- A literal without its sign, and the number it comes to with it. -/
inductive SpellsUnsigned (negative : Bool) : List Char → Binary f → Prop
  | infinite {s : List Char} (h : s.map Char.toLower = "inf".toList
      ∨ s.map Char.toLower = "infinity".toList) : SpellsUnsigned negative s (.infinite negative)
  | nan {s : List Char} (h : s.map Char.toLower = "nan".toList) : SpellsUnsigned negative s .nan
  | decimal {s : List Char} {m : Nat} {x : Int} (h : IsDecimal s m x) :
      SpellsUnsigned negative s (.ofDecimal negative m x)

/-- A literal, and the number it comes to. -/
inductive Spells : List Char → Binary f → Prop
  | mk {sign s : List Char} {negative : Bool} {x : Binary f} (hsign : IsSign sign negative)
      (h : SpellsUnsigned negative s x) : Spells (sign ++ s) x

/-! ## How the parts begin -/

/-- The text begins with a digit or a point. -/
def BeginsDecimal (s : List Char) : Prop := ∃ c t, s = c :: t ∧ (c.isDigit = true ∨ c = '.')

/-- An exponent is missing or begins with its letter. -/
theorem IsExponent.begins (h : IsExponent tail x) :
    tail = [] ∨ ∃ letter t, tail = letter :: t ∧ (letter = 'e' ∨ letter = 'E') := by
  cases h with
  | none => exact Or.inl rfl
  | some hletter => exact Or.inr ⟨_, _, rfl, hletter⟩

/-- A decimal begins with a digit or with a point and a digit. -/
theorem IsDecimal.begins (h : IsDecimal s m x) : BeginsDecimal s := by
  cases h with
  | @whole ds tail x hne hds htail =>
      obtain ⟨c, t, rfl⟩ := List.exists_cons_of_ne_nil hne
      exact ⟨c, _, rfl, Or.inl (hds c (List.mem_cons_self ..))⟩
  | @point ds ds' tail x hne hds hds' htail =>
      cases ds with
      | nil => exact ⟨'.', _, rfl, Or.inr rfl⟩
      | cons c t => exact ⟨c, _, rfl, Or.inl (hds c (List.mem_cons_self ..))⟩

/-- Digits have no other case. -/
theorem toLower_of_isDigit {c : Char} (hc : c.isDigit = true) : c.toLower = c := by
  refine dif_neg ?_
  rintro ⟨hA, -⟩
  have h9 : c.val ≤ '9'.val := of_decide_eq_true (Bool.and_eq_true_iff.mp hc).2
  exact absurd (UInt32.le_trans hA h9) (by decide)

/-- What begins with a digit or a point is none of the words. -/
theorem BeginsDecimal.not_word (h : BeginsDecimal s) {word : List Char}
    (hword : word = "inf".toList ∨ word = "infinity".toList ∨ word = "nan".toList) :
    s.map Char.toLower ≠ word := by
  obtain ⟨c, t, rfl, hc⟩ := h
  intro heq
  have hlower : c.toLower = 'i' ∨ c.toLower = 'n' := by
    rcases hword with rfl | rfl | rfl
    · exact Or.inl (List.cons.inj heq).1
    · exact Or.inl (List.cons.inj heq).1
    · exact Or.inr (List.cons.inj heq).1
  rcases hc with hc | rfl
  · rw [toLower_of_isDigit hc] at hlower
    rcases hlower with rfl | rfl <;> cases hc
  · rcases hlower with h | h <;> cases h

/-- A literal without its sign does not begin with a sign. -/
theorem SpellsUnsigned.ne_sign_cons {x : Binary f} (h : SpellsUnsigned negative s x) {c : Char}
    (hc : c = '+' ∨ c = '-') (t : List Char) : s ≠ c :: t := by
  rintro rfl
  have hlower : c.toLower = c := by rcases hc with rfl | rfl <;> rfl
  have hword : ∀ {d : Char} {w : List Char}, (c :: t).map Char.toLower = d :: w →
      d ≠ '+' ∧ d ≠ '-' → False := by
    intro d w heq hd
    obtain rfl : c = d := hlower ▸ (List.cons.inj heq).1
    exact hc.elim hd.1 hd.2
  cases h with
  | infinite h => exact h.elim (hword · (by decide)) (hword · (by decide))
  | nan h => exact hword h (by decide)
  | decimal h =>
      obtain ⟨d, t', heq, hd⟩ := h.begins
      obtain rfl := (List.cons.inj heq).1
      rcases hc with rfl | rfl <;> revert hd <;> decide

theorem SpellsUnsigned.ne_nil {x : Binary f} (h : SpellsUnsigned negative s x) : s ≠ [] := by
  rintro rfl
  cases h with
  | infinite h => rcases h with h | h <;> cases h
  | nan h => cases h
  | decimal h =>
      obtain ⟨c, t, heq, -⟩ := h.begins
      cases heq

theorem Spells.ne_nil {x : Binary f} (h : Spells s x) : s ≠ [] := by
  obtain ⟨-, h⟩ := h
  exact List.append_ne_nil_of_right_ne_nil _ h.ne_nil

/-- A literal is more than a sign. -/
theorem not_spells_sign {c : Char} {y : Binary f} (hc : c = '+' ∨ c = '-') : ¬ Spells [c] y := by
  generalize hs : [c] = s
  rintro ⟨hsign, h⟩
  cases hsign with
  | none => exact h.ne_sign_cons hc [] hs.symm
  | plus => exact h.ne_nil (List.cons.inj hs).2.symm
  | minus => exact h.ne_nil (List.cons.inj hs).2.symm

/-- Behind its sign a literal has no other. -/
theorem spells_sign_cons_iff {c : Char} {u : List Char} {y : Binary f} (hc : c = '+' ∨ c = '-') :
    Spells (c :: u) y ↔ SpellsUnsigned (c = '-') u y := by
  constructor
  · generalize hs : c :: u = s
    rintro ⟨hsign, h⟩
    cases hsign with
    | none => exact absurd hs.symm (h.ne_sign_cons hc u)
    | plus =>
        obtain ⟨rfl, rfl⟩ := List.cons.inj hs
        exact h
    | minus =>
        obtain ⟨rfl, rfl⟩ := List.cons.inj hs
        exact h
  · intro h
    rcases hc with rfl | rfl
    · exact .mk .plus h
    · exact .mk .minus h

/-! ## How literals end -/

/-- The character may stand at the end of a literal. -/
def IsEnd (c : Char) : Prop :=
  c.isDigit = true ∨ c = '.' ∨ c.toLower ∈ ['f', 'y', 'n']

instance (c : Char) : Decidable (IsEnd c) := by
  unfold IsEnd
  infer_instance

/-- Digits at the end of a text give it its last character. -/
theorem exists_end_of_digits {ds : List Char} (hne : ds ≠ []) (hds : ∀ c ∈ ds, c.isDigit = true)
    (front : List Char) :
    ∃ c, (front ++ ds).getLast? = some c ∧ (c.isDigit = true ∨ c = '.') := by
  refine ⟨ds.getLast hne, ?_, Or.inl (hds _ (List.getLast_mem hne))⟩
  rw [List.getLast?_append, List.getLast?_eq_some_getLast hne, Option.some_or]

/-- A decimal ends with a digit or a point. -/
theorem IsDecimal.exists_end (h : IsDecimal s m x) :
    ∃ c, s.getLast? = some c ∧ (c.isDigit = true ∨ c = '.') := by
  cases h with
  | @whole ds tail x hne hds htail =>
      cases htail with
      | none =>
          rw [List.append_nil]
          exact exists_end_of_digits hne hds []
      | @some letter sign ds' negative hletter hsign hne' hds' =>
          rw [← List.cons_append, ← List.append_assoc]
          exact exists_end_of_digits hne' hds' _
  | @point ds ds' tail x hne hds hds' htail =>
      cases htail with
      | none =>
          rw [List.append_nil]
          cases ds' with
          | nil =>
              refine ⟨'.', ?_, Or.inr rfl⟩
              rw [List.getLast?_append]
              rfl
          | cons d ds' =>
              rw [← List.singleton_append, ← List.append_assoc]
              exact exists_end_of_digits (List.cons_ne_nil d ds') hds' _
      | @some letter sign ds'' negative hletter hsign hne' hds'' =>
          rw [← List.cons_append, ← List.cons_append, ← List.append_assoc, ← List.append_assoc]
          exact exists_end_of_digits hne' hds'' _

/-- A word in any letter case ends with the last letter of the word, in either case. -/
theorem exists_end_of_toLower {word : List Char} {c : Char} (h : s.map Char.toLower = word)
    (hlast : word.getLast? = some c) (hc : c ∈ ['f', 'y', 'n']) :
    ∃ c, s.getLast? = some c ∧ IsEnd c := by
  rw [← h, List.getLast?_map, Option.map_eq_some_iff] at hlast
  obtain ⟨d, hd, rfl⟩ := hlast
  exact ⟨d, hd, Or.inr (Or.inr hc)⟩

/-- So there are few characters that a number ends with. -/
theorem Spells.exists_end {y : Binary f} (h : Spells s y) : ∃ c, s.getLast? = some c ∧ IsEnd c := by
  obtain ⟨-, h⟩ := h
  rename_i sign s negative
  have hs : ∃ c, s.getLast? = some c ∧ IsEnd c := by
    cases h with
    | infinite h =>
        rcases h with h | h
        · exact exists_end_of_toLower (c := 'f') h rfl (by simp)
        · exact exists_end_of_toLower (c := 'y') h rfl (by simp)
    | nan h => exact exists_end_of_toLower (c := 'n') h rfl (by simp)
    | decimal h =>
        obtain ⟨c, hc, hend⟩ := h.exists_end
        exact ⟨c, hc, hend.imp_right Or.inl⟩
  obtain ⟨c, hc, hend⟩ := hs
  exact ⟨c, by rw [List.getLast?_append, hc, Option.some_or], hend⟩

/-! ## The reader -/

/-- A sign is taken from the front of any text, even if another one follows. -/
theorem exists_of_takeSign (s : List Char) :
    ∃ sign, IsSign sign (takeSign s).1 ∧ s = sign ++ (takeSign s).2 := by
  rw [takeSign.eq_def]
  split
  · exact ⟨['+'], .plus, rfl⟩
  · exact ⟨['-'], .minus, rfl⟩
  · exact ⟨[], .none, rfl⟩

/-- A sign is taken, and only one. -/
theorem takeSign_of_isSign {sign : List Char} (hsign : IsSign sign negative)
    (hplus : ∀ t, s ≠ '+' :: t) (hminus : ∀ t, s ≠ '-' :: t) :
    takeSign (sign ++ s) = (negative, s) := by
  cases hsign with
  | plus => rfl
  | minus => rfl
  | none =>
      rw [List.nil_append, takeSign.eq_def]
      split
      · exact absurd rfl (hplus _)
      · exact absurd rfl (hminus _)
      · rfl

/-- An exponent is read as what it spells. -/
theorem exponent?_eq_some_iff : exponent? tail = some x ↔ IsExponent tail x := by
  constructor
  · intro h
    cases tail with
    | nil =>
        obtain rfl := Option.some.inj h
        exact .none
    | cons letter t =>
        rw [exponent?] at h
        split at h
        · rename_i hletter
          obtain ⟨sign, hsign, ht⟩ := exists_of_takeSign t
          generalize takeSign t = taken at h hsign ht
          obtain ⟨negative, ds⟩ := taken
          dsimp only at h hsign ht
          split at h
          · rename_i hds
            obtain rfl := Option.some.inj h
            exact ht ▸ .some hletter hsign hds.1 (List.all_eq_true.mp hds.2)
          · cases h
        · cases h
  · rintro (_ | ⟨hletter, hsign, hne, hds⟩)
    · rfl
    · rename_i letter sign ds negative
      have hsigns : ∀ {c : Char}, c.isDigit = false → ∀ t, ds ≠ c :: t := by
        rintro c hc t rfl
        have := hds c (List.mem_cons_self ..)
        rw [hc] at this
        cases this
      rw [exponent?, if_pos hletter, takeSign_of_isSign hsign (hsigns rfl) (hsigns rfl)]
      exact if_pos ⟨hne, List.all_eq_true.mpr hds⟩

/-- The digits at the front of a text end where something else begins. -/
theorem takeWhile_dropWhile_digits {ds rest : List Char} (hds : ∀ c ∈ ds, c.isDigit = true)
    (hrest : ∀ c t, rest = c :: t → c.isDigit = false) :
    (ds ++ rest).takeWhile Char.isDigit = ds ∧ (ds ++ rest).dropWhile Char.isDigit = rest := by
  rw [List.takeWhile_append_of_pos hds, List.dropWhile_append_of_pos hds]
  cases rest with
  | nil => exact ⟨List.append_nil ds, rfl⟩
  | cons c t =>
      have hc := hrest c t rfl
      rw [List.takeWhile_cons_of_neg (by simp [hc]), List.dropWhile_cons_of_neg (by simp [hc])]
      exact ⟨List.append_nil ds, rfl⟩

/-- An exponent begins with no digit. -/
theorem IsExponent.not_digit (h : IsExponent tail x) :
    ∀ c t, tail = c :: t → c.isDigit = false := by
  rintro c t rfl
  obtain h | ⟨_, _, heq, rfl | rfl⟩ := h.begins
  · cases h
  · rw [(List.cons.inj heq).1]
    rfl
  · rw [(List.cons.inj heq).1]
    rfl

/-- What is read where the digits have ended and no point follows. -/
theorem decimal?_whole {ds : List Char} (hds : ∀ c ∈ ds, c.isDigit = true)
    (hdigit : ∀ c t, tail = c :: t → c.isDigit = false) (hpoint : ∀ t, tail ≠ '.' :: t) :
    decimal? (ds ++ tail)
      = if ds = [] then none else (exponent? tail).map fun x => (digitsValue ds, x) := by
  obtain ⟨htake, hdrop⟩ := takeWhile_dropWhile_digits hds hdigit
  rw [decimal?, htake, hdrop]
  dsimp only
  split
  · exact absurd rfl (hpoint _)
  · simp only [and_true, List.append_nil, List.length_nil, Int.natCast_zero, Int.sub_zero]

/-- What is read where a point follows the digits. -/
theorem decimal?_point {ds more : List Char} (hds : ∀ c ∈ ds, c.isDigit = true) :
    decimal? (ds ++ '.' :: more)
      = if ds = [] ∧ more.takeWhile Char.isDigit = [] then none
        else (exponent? (more.dropWhile Char.isDigit)).map fun x =>
          (digitsValue (ds ++ more.takeWhile Char.isDigit),
            x - ((more.takeWhile Char.isDigit).length : Int)) := by
  have hdot : ∀ c t, '.' :: more = c :: t → c.isDigit = false := by
    intro c t heq
    rw [← (List.cons.inj heq).1]
    rfl
  obtain ⟨htake, hdrop⟩ := takeWhile_dropWhile_digits hds hdot
  rw [decimal?, htake, hdrop]
  rfl

theorem IsExponent.not_point (h : IsExponent tail x) : ∀ t, tail ≠ '.' :: t := by
  rintro t rfl
  obtain h | ⟨_, _, heq, rfl | rfl⟩ := h.begins
  · cases h
  · cases heq
  · cases heq

/-- A decimal is read as what it spells. -/
theorem decimal?_eq_some_iff : decimal? s = some (m, x) ↔ IsDecimal s m x := by
  constructor
  · intro h
    have hs : s.takeWhile Char.isDigit ++ s.dropWhile Char.isDigit = s :=
      List.takeWhile_append_dropWhile
    have hwhole : ∀ c ∈ s.takeWhile Char.isDigit, c.isDigit = true :=
      fun c hc => List.all_eq_true.mp List.all_takeWhile c hc
    have hrest : ∀ c t, s.dropWhile Char.isDigit = c :: t → c.isDigit = false := by
      intro c t heq
      have := List.head?_dropWhile_not Char.isDigit s
      rwa [heq] at this
    generalize s.takeWhile Char.isDigit = whole at hs hwhole
    generalize s.dropWhile Char.isDigit = rest at hs hrest
    subst hs
    by_cases hpoint : ∃ more, rest = '.' :: more
    · obtain ⟨more, rfl⟩ := hpoint
      rw [decimal?_point hwhole] at h
      split at h
      · cases h
      · rename_i hne
        obtain ⟨x', hx', heq⟩ := Option.map_eq_some_iff.mp h
        obtain ⟨rfl, rfl⟩ := Prod.mk.inj heq
        have hdecimal := IsDecimal.point (Decidable.not_and_iff_or_not.mp hne) hwhole
          (List.all_eq_true.mp List.all_takeWhile) (exponent?_eq_some_iff.mp hx')
        rwa [List.takeWhile_append_dropWhile] at hdecimal
    · rw [decimal?_whole hwhole hrest (fun t ht => hpoint ⟨t, ht⟩)] at h
      split at h
      · cases h
      · rename_i hne
        obtain ⟨x', hx', heq⟩ := Option.map_eq_some_iff.mp h
        obtain ⟨rfl, rfl⟩ := Prod.mk.inj heq
        exact .whole hne hwhole (exponent?_eq_some_iff.mp hx')
  · rintro (⟨hne, hds, htail⟩ | ⟨hne, hds, hds', htail⟩)
    · rw [decimal?_whole hds htail.not_digit htail.not_point, if_neg hne,
        exponent?_eq_some_iff.mpr htail]
      rfl
    · obtain ⟨htake, hdrop⟩ := takeWhile_dropWhile_digits hds' htail.not_digit
      rw [decimal?_point hds, htake, hdrop, if_neg (Decidable.not_and_iff_or_not.mpr hne),
        exponent?_eq_some_iff.mpr htail]
      rfl

theorem unsigned?_eq_some_iff {y : Binary f} :
    unsigned? negative s = some y ↔ SpellsUnsigned negative s y := by
  rw [unsigned?]
  dsimp only
  constructor
  · intro h
    split at h
    · rename_i hword
      obtain rfl := Option.some.inj h
      exact .infinite hword
    · split at h
      · rename_i hword
        obtain rfl := Option.some.inj h
        exact .nan hword
      · obtain ⟨⟨m, x⟩, hdecimal, rfl⟩ := Option.map_eq_some_iff.mp h
        exact .decimal (decimal?_eq_some_iff.mp hdecimal)
  · rintro (hword | hword | hdecimal)
    · exact if_pos hword
    · rw [if_neg (by rw [hword]; decide), if_pos hword]
    · have hbegins := hdecimal.begins
      rw [if_neg (not_or.mpr ⟨hbegins.not_word (Or.inl rfl), hbegins.not_word (Or.inr (Or.inl rfl))⟩),
        if_neg (hbegins.not_word (Or.inr (Or.inr rfl))), decimal?_eq_some_iff.mpr hdecimal]
      rfl

/-- **WHAT IS READ** is what the text spells. -/
theorem read?_eq_some_iff {y : Binary f} : read? s = some y ↔ Spells s y := by
  have hread : read? s = some y ↔ s ≠ [] ∧ unsigned? (takeSign s).1 (takeSign s).2 = some y := by
    rw [read?, read]
    split
    · rename_i hnil
      exact iff_of_false (fun h => nomatch h) (fun h => h.1 hnil)
    · rename_i hne
      rw [and_iff_right hne]
      generalize takeSign s = taken
      obtain ⟨negative, rest⟩ := taken
      dsimp only
      cases unsigned? (f := f) negative rest with
      | none => exact iff_of_false (fun h => nomatch h) (fun h => nomatch h)
      | some x => exact Iff.rfl
  rw [hread]
  constructor
  · rintro ⟨-, h⟩
    obtain ⟨sign, hsign, hs⟩ := exists_of_takeSign s
    rw [hs]
    exact .mk hsign (unsigned?_eq_some_iff.mp h)
  · intro h
    refine ⟨h.ne_nil, ?_⟩
    obtain ⟨hsign, h⟩ := h
    rw [takeSign_of_isSign hsign (h.ne_sign_cons (Or.inl rfl)) (h.ne_sign_cons (Or.inr rfl))]
    exact unsigned?_eq_some_iff.mpr h

/-- Reading succeeds on what spells a number, and gives that number. -/
theorem read_eq_ok_iff {y : Binary f} : read s = .ok y ↔ Spells s y := by
  rw [← read?_eq_some_iff, read?]
  cases read (f := f) s with
  | ok x =>
      constructor
      · intro h
        exact congrArg some (Except.ok.inj h)
      · intro h
        exact congrArg Except.ok (Option.some.inj h)
  | error fault => exact iff_of_false (fun h => nomatch h) (fun h => nomatch h)

end Fixture.Literal
