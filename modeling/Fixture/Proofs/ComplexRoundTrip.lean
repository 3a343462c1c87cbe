import Fixture.Proofs.ComplexText
import Fixture.Proofs.Spelling

/-! # Complex numbers as they are written

    Both parts are literals, and the sign that is always shown in front of the
    imaginary one is where the text is parted again, whatever stands in front of it.
    Only an imaginary part that is not a number has no sign; then the two parts run
    into each other, and what they make is no literal. -/

namespace Fixture

open Literal

variable {f : Format} {s : List Char} {x y : Binary f}

namespace Literal

/-- A literal that ends like the word for what is not a number is that word, behind a
    sign at most. -/
theorem Spells.eq_sign_append_nan (h : Spells s x) (hlast : s.getLast? = some 'N') :
    ∃ sign word negative, s = sign ++ word ∧ IsSign sign negative ∧ word.length = 3 := by
  obtain ⟨hsign, h⟩ := h
  rename_i sign word negative
  rw [List.getLast?_append_of_ne_nil _ h.ne_nil] at hlast
  have hlower : (word.map Char.toLower).getLast? = some 'n' := by
    rw [List.getLast?_map, hlast]
    rfl
  refine ⟨sign, word, negative, rfl, hsign, ?_⟩
  cases h with
  | infinite h => rcases h with h | h <;> rw [h] at hlower <;> cases hlower
  | nan h =>
      have hlength := congrArg List.length h
      rwa [List.length_map] at hlength
  | decimal h =>
      obtain ⟨c, hc, hend⟩ := h.exists_end
      obtain rfl := Option.some.inj (hc.symm.trans hlast)
      exact absurd hend (by decide)

/-- A literal with that word behind it is no literal. -/
theorem not_spells_append_nan (h : Spells s x) : ¬ Spells (s ++ "NaN".toList) y := by
  intro hnan
  obtain ⟨sign, word, negative, heq, hsign, hlength⟩ :=
    hnan.eq_sign_append_nan (List.getLast?_append_of_ne_nil s (by decide))
  obtain ⟨rfl, -⟩ := List.append_inj' heq hlength.symm
  cases hsign with
  | none => exact h.ne_nil rfl
  | plus => exact not_spells_sign (Or.inl rfl) h
  | minus => exact not_spells_sign (Or.inr rfl) h

end Literal

namespace Complex

variable {z : Complex}

/-- The text between the parentheses. -/
def body (z : Complex) : List Char :=
  Style.plain.text z.re ++ Style.plain.signedText z.im ++ ['i']

theorem unwrap_render (z : Complex) : unwrap z.render = z.body := by
  have hrender : z.render = '(' :: (z.body ++ [')']) := by
    rw [render, body, List.append_assoc _ ['i'] [')']]
    rfl
  rw [hrender, unwrap_parentheses]

/-- The text is a number, a sign and a number. -/
theorem denotes_body (hz : z.im ≠ .nan) :
    ∃ form : Form, form.text = z.body ∧ form.Denotes z := by
  obtain ⟨re, im⟩ := z
  have hre := Style.plain.spells_text Format.proper_binary64 re
  have him := Style.plain.spellsUnsigned Format.proper_binary64 im
  have hsigned : Style.plain.signedText im
      = (if im.isNegative then '-' else '+') :: Style.plain.unsignedText im := by
    cases im with
    | nan => exact absurd rfl hz
    | infinite negative => rfl
    | finite negative c e canonical => rfl
  refine ⟨.both (Style.plain.text re) (if im.isNegative then '-' else '+')
    (Style.plain.unsignedText im), ?_, ?_⟩
  · rw [Form.text, body, hsigned]
  · cases hneg : im.isNegative with
    | true =>
        rw [hneg] at him
        exact .both hre (Or.inr rfl) him
    | false =>
        rw [hneg] at him
        exact .both hre (Or.inl rfl) him

/-- Without a sign in front of the imaginary part nothing is parted. -/
theorem not_denotes_body (hz : z.im = .nan) (z' : Complex) :
    ¬ (Form.ofText z.body).Denotes z' := by
  obtain ⟨re, im⟩ := z
  obtain rfl := hz
  have hre := Style.plain.spells_text Format.proper_binary64 re
  rw [body]
  generalize Style.plain.text re = s at hre
  have hform : Form.ofText (s ++ "NaN".toList ++ ['i']) = .imaginary (s ++ "NaN".toList) :=
    ofText_imaginary (splitParts?_append_unsigned hre.splitParts?_eq_none (by simp))
  have hword : ∀ t : List Char, t.length < 3 → s ++ "NaN".toList ≠ t := by
    rintro t ht rfl
    rw [List.length_append] at ht
    exact absurd ht (Nat.not_lt_of_le (Nat.le_add_left 3 _))
  show ¬ (Form.ofText (s ++ "NaN".toList ++ ['i'])).Denotes z'
  rw [hform, denotes_imaginary_iff, imaginary?_of_ne (hword [] (by decide))
    (hword ['+'] (by decide)) (hword ['-'] (by decide)), Literal.read?_eq_some_iff]
  exact fun h => not_spells_append_nan hre h.1

end Complex

namespace Convert

/-- **ROUND TRIP**: the text of a complex number is converted back to it, zeros with
    their signs and infinities included, unless the imaginary part is not a number; then
    the text is refused. -/
theorem complex_text (z : Complex) :
    complex (.string z.text) = if z.im = .nan
      then .error (.parse "Complex" z.text "invalid syntax") else .ok z := by
  have hrender : (Value.string z.text).render = z.render := String.toList_ofList
  split
  · rename_i hz
    rw [complex_eq_error_iff, Option.eq_none_iff_forall_ne_some, hrender]
    refine ⟨fun z' hread => ?_, ?_⟩
    · rw [(Complex.ofText_unwrap z.render).2, Complex.unwrap_render] at hread
      exact Complex.not_denotes_body hz z' hread
    · rw [Value.text, hrender]
      rfl
  · rename_i hz
    obtain ⟨form, htext, hform⟩ := Complex.denotes_body hz
    rw [complex_eq_ok_iff, Complex.read?_eq_some_iff, hrender]
    refine ⟨form, Complex.unwrap_eq_iff.mp ?_, hform⟩
    rw [Complex.unwrap_render, htext]

/-- Zero keeps its sign, and the sign of the real part is not where the text is
    parted. -/
example : (⟨Binary.ofInt (-1), Binary.ofDecimal true 0 0⟩ : Complex).text = "(-1-0i)" := by
  decide +kernel

end Convert

end Fixture
