import Fixture.Text.Search

/-! # Tags in a text

    A tag is an opening such as `[CONF:`, a content without `]`, and a closing
    `]`.  Scanning one kind splits a text into the tags of that kind and the
    gaps between them; it ends at the first opening that is never closed. -/

namespace Fixture

/-- The kinds of tags, in the order in which they are expanded. -/
inductive TagKind where
  | conf
  | ctxt
  | sha256
  | base64
  | now
deriving DecidableEq, Repr

namespace TagKind

def order : List TagKind := [conf, ctxt, sha256, base64, now]

/-- What a tag of the kind begins with. -/
def opening : TagKind → List Char
  | conf => "[CONF:".toList
  | ctxt => "[CTXT:".toList
  | sha256 => "[SHA256:".toList
  | base64 => "[BASE64:".toList
  | now => "[NOW:".toList

/-- The tag of the kind with the given content. -/
def token (k : TagKind) (content : List Char) : List Char :=
  k.opening ++ content ++ [']']

theorem opening_ne_nil (k : TagKind) : k.opening ≠ [] := by
  cases k <;> decide

end TagKind

/-- A tag found in a text, and the text between it and the tag before it. -/
structure Occurrence where
  gap : List Char
  content : List Char
deriving DecidableEq, Repr

/-- A text as gaps and tags of one kind, and what follows the last tag. -/
structure Segments where
  tags : List Occurrence
  rest : List Char
deriving DecidableEq, Repr

namespace Segments

/-- Splits a text into gaps and tags of one kind. -/
def scan (k : TagKind) (s : List Char) : Segments :=
  match _h₁ : Text.cut? k.opening s with
  | none => ⟨[], s⟩
  | some (gap, inside) =>
      match _h₂ : Text.cut? [']'] inside with
      | none => ⟨[], s⟩
      | some (content, after) =>
          let later := scan k after
          ⟨⟨gap, content⟩ :: later.tags, later.rest⟩
termination_by s.length
decreasing_by
  have h₁ := Text.length_of_cut? _h₁
  have h₂ := Text.length_of_cut? _h₂
  simp only [List.length_cons, List.length_nil] at h₂
  omega

/-- The text that the segments came from, with each tag written by `f`. -/
def join (f : List Char → List Char) (t : Segments) : List Char :=
  t.tags.flatMap (fun o => o.gap ++ f o.content) ++ t.rest

end Segments

end Fixture
