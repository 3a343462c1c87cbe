import Fixture.Tag.Scan
import Fixture.Tag.Sentinel
import Fixture.Json.Path
import Fixture.Store
import Fixture.Time.Moment
import Fixture.Time.Shift
import Fixture.Digest.Base64
import Fixture.Digest.Sha256

/-! # Resolving cells

    A cell that is one sentinel is its value.  Otherwise the kinds of tags are
    expanded one after another, every tag of one kind before the next kind is
    looked at, so a configuration value may bring in further tags.  A text that
    is a single lookup of something other than text is that value itself.

    Only one thing can go wrong: a shift of time too long to be counted. -/

namespace Fixture

/-- What tags are looked up in: the environment document, the scenario store
    and the moment that `NOW` tags start from. -/
structure Resolver where
  environment : Json
  scenario : Store
  clock : Moment

/-- The moment a `NOW` tag names, in the format it names; nothing if the tag is
    malformed or its moment cannot be written. -/
def Moment.renderTag (clock : Moment) (content : List Char) :
    Except Overflow (Option (List Char)) := do
  let (shift, format) := Text.cutAt ':' content
  let milliseconds? ← Shift.read shift
  match milliseconds? with
  | none => .ok none
  | some milliseconds =>
      match clock.shift? milliseconds with
      | none => .ok none
      | some m => .ok (inFormat m (String.ofList format))
where
  /-- The moment in a format. -/
  inFormat (m : Moment) : String → Option (List Char)
    | "" | "rfc3339" => m.rfc3339?
    | "unix" => some (toString m.seconds).toList
    | "unixmilli" => some (toString m.unixMilliseconds).toList
    | _ => none

namespace Resolver

/-- The value a lookup tag names; the other kinds look nothing up. -/
def lookup (r : Resolver) (k : TagKind) (key : List Char) : Value :=
  match k with
  | .conf => r.environment.get (String.ofList key)
  | .ctxt => r.scenario.get (String.ofList key)
  | .sha256 | .base64 | .now => .null

/-- The text a tag is replaced by; nothing if the tag stays. -/
def replacement (r : Resolver) (k : TagKind) (content : List Char) :
    Except Overflow (Option (List Char)) :=
  match k with
  | .conf | .ctxt => .ok (some (r.lookup k content).render)
  | .sha256 => .ok (some (Sha256.hex (content.flatMap String.utf8EncodeChar)))
  | .base64 => .ok (some (Base64.encode (content.flatMap String.utf8EncodeChar)))
  | .now => r.clock.renderTag content

/-- Expands the tags of one kind: for each tag found, every occurrence of its
    token in the text as it then stands is replaced. -/
def expand (r : Resolver) (k : TagKind) (s : List Char) :
    Except Overflow (List Char) :=
  (Segments.scan k s).tags.foldlM (fun out tag => do
    match ← r.replacement k tag.content with
    | none => .ok out
    | some new => .ok (Text.replaceAll (k.token tag.content) new out)) s

/-- The content of a text that is a single tag of the kind. -/
def wholeTag? (k : TagKind) (s : List Char) : Option (List Char) := do
  let inside ← Text.dropFront? k.opening s
  let content ← Text.dropBack? [']'] inside
  if ']' ∈ content then none else some content

/-- The value of a text that is a single lookup tag, unless it is text or
    missing. -/
def native? (r : Resolver) (k : TagKind) (s : List Char) : Option Value :=
  match k with
  | .conf | .ctxt => do
      let content ← wholeTag? k s
      match r.lookup k content with
      | .string _ | .null => none
      | v => some v
  | .sha256 | .base64 | .now => none

/-- Expands kinds one after another and then the sentinels, unless the text
    becomes a single lookup tag with a native value on the way. -/
def resolveKinds (r : Resolver) : List TagKind → List Char → Except Overflow Value
  | [], s => .ok (.string (String.ofList (Sentinel.inlineAll s)))
  | k :: ks, s =>
      match r.native? k s with
      | some v => .ok v
      | none => do
          let s ← r.expand k s
          resolveKinds r ks s

/-- The value of a cell. -/
def resolve (r : Resolver) (cell : String) : Except Overflow Value :=
  match Sentinel.ofText? cell.toList with
  | some sentinel => .ok sentinel.value
  | none => r.resolveKinds TagKind.order cell.toList

/-- The text of a cell. -/
def resolveText (r : Resolver) (cell : String) : Except Overflow String := do
  let v ← r.resolve cell
  .ok v.text

end Resolver

end Fixture
