import Fixture.Yaml.Node

/-! # Kinds of tags

    A tag matters only by its kind: a kind of the core schema, an angle, the
    mark of no kind, or anything else.  The names of kinds are looked for behind
    one mark, behind two, and behind the name of the core schema. -/

namespace Fixture.Yaml

/-- What a tag says about its node. -/
inductive Kind where
  /-- There is no tag. -/
  | untagged
  | null
  | bool
  | int
  | float
  | text
  | bytes
  | time
  | sequence
  | mapping
  | degrees
  | radians
  /-- The mark `!` by itself. -/
  | bare
  | other
deriving DecidableEq, Repr

/-- A tag with its mark between what the handle stands for and the rest; a
    handle that is the mark itself is not repeated. -/
def Tag.spelling (t : Tag) : List Char :=
  (if t.start = ['!'] then [] else t.start) ++ '!' :: t.suffix

namespace Kind

/-- The kinds that have names. -/
def named : List (String × Kind) :=
  [("null", null), ("bool", bool), ("int", int), ("float", float), ("str", text),
    ("binary", bytes), ("timestamp", time), ("seq", sequence), ("map", mapping),
    ("degrees", degrees), ("radians", radians)]

/-- What may stand in front of the name of a kind. -/
def starts : List String := ["!", "!!", "tag:yaml.org,2002:!"]

/-- The kind of a tag. -/
def ofTag : Option Tag → Kind
  | none => untagged
  | some t =>
      if t.spelling = ['!', '!'] then bare
      else
        let found := named.find? fun (name, _) =>
          starts.any fun start => t.spelling = start.toList ++ name.toList
        (found.map Prod.snd).getD other

/-- Scalars of the kind are read as if they had no tag. -/
def isPassedOver : Kind → Bool
  | untagged | text | bare | other => true
  | _ => false

end Kind

end Fixture.Yaml
