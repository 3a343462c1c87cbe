import Fixture.Text.Blank
import Fixture.Yaml.Token

/-! # Nodes of a YAML text

    A node is a scalar, a sequence or a mapping.  An alias stands for the node
    that carries its anchor, which has to be finished by then.  Where a node is
    missing, a plain `~` stands for it.

    Some things are refused that the marks alone allow: a folded block whose
    text stands at the margin, many more aliases than anchors, more nodes than
    any sensible text has, and a second document. -/

namespace Fixture.Yaml

/-- A tag: what its handle stands for, and the rest of its name. -/
structure Tag where
  start : List Char
  suffix : List Char
deriving DecidableEq, Repr

/-- A node of a document. -/
inductive Node where
  | scalar (tag : Option Tag) (form : Form) (text : List Char)
  | sequence (items : List Node)
  | mapping (entries : List (Node × Node))
deriving Repr, Inhabited

/-- How far the tokens of a text have been read. -/
structure Reading where
  rest : List Token
  /-- Declared handles of tags and what they stand for. -/
  handles : List (List Char × List Char)
  /-- Names of the anchors, the latest first. -/
  anchors : List (List Char)
  /-- Finished nodes with an anchor, by the number of the anchor, and how many
      nodes each consists of. -/
  finished : List (Nat × Node × Nat)
  /-- How many aliases have been met. -/
  aliases : Nat
  /-- How many nodes have been met, with those that aliases stand for. -/
  nodes : Nat
  /-- How many collections are open. -/
  depth : Nat

/-- A step in reading tokens; it fails on malformed texts. -/
abbrev Reader (α : Type) := StateT Reading Option α

namespace Reader

def fault {α : Type} : Reader α := fun _ => none

/-- The next token; a text that has broken off has none. -/
def peek : Reader Token := fun r => r.rest.head?.map fun t => (t, r)

def skip : Reader Unit := fun r => some ((), { r with rest := r.rest.drop 1 })

/-! ## Tags and anchors -/

/-- What a tag stands for.  The handle `!!` has a meaning of its own, and every
    other handle between two marks has to be declared. -/
def resolve (handle suffix : List Char) : Reader Tag := do
  match (← get).handles.lookup handle with
  | some start => pure ⟨start, suffix⟩
  | none =>
      if handle = ['!', '!'] then pure ⟨"tag:yaml.org,2002:".toList, suffix⟩
      else if 2 ≤ handle.length ∧ handle.getLast? = some '!' then fault
      else pure ⟨handle, suffix⟩

/-- Enters an anchor and gives its number. -/
def register (name : List Char) : Reader Nat := do
  let r ← get
  set { r with anchors := name :: r.anchors }
  pure r.anchors.length

/-! ## Limits -/

/-- How many nodes a text may have. -/
def mostNodes : Nat := 250000

/-- How many collections may be inside of each other. -/
def mostDepth : Nat := 2000

/-- Counts further nodes. -/
def count (n : Nat) : Reader Unit := do
  let r ← get
  if mostNodes < r.nodes + n then fault else set { r with nodes := r.nodes + n }

/-- Reads what is inside of a collection. -/
def inside {α : Type} (inner : Reader α) : Reader α := do
  let r ← get
  if mostDepth ≤ r.depth then fault
  set { r with depth := r.depth + 1 }
  let a ← inner
  modify fun r => { r with depth := r.depth - 1 }
  pure a

/-! ## Nodes with anchors -/

/-- The node an alias stands for. -/
def aliased (name : List Char) : Reader Node := do
  let r ← get
  set { r with aliases := r.aliases + 1 }
  match r.anchors.idxOf? name with
  | none => fault
  | some i =>
      match r.finished.lookup (r.anchors.length - 1 - i) with
      | some (n, size) => do
          count size
          pure n
      | none => fault

/-- Enters a finished node under the number of its anchor, if it has one.
    `before` nodes had been met in front of it. -/
def finish (anchor : Option Nat) (before : Nat) (n : Node) : Reader Node := do
  match anchor with
  | some i =>
      modify fun r => { r with finished := (i, n, r.nodes - before) :: r.finished }
  | none => pure ()
  pure n

/-- The anchor in front of a node. -/
def anchor? : Reader (Option Nat) := do
  match ← peek with
  | .anchor name => skip; some <$> register name
  | _ => pure none

/-- The tag in front of a node. -/
def tag? : Reader (Option Tag) := do
  match ← peek with
  | .tag handle suffix => skip; some <$> resolve handle suffix
  | _ => pure none

/-- The anchor and the tag in front of a node, in either order. -/
def properties : Reader (Option Nat × Option Tag) := do
  match ← anchor? with
  | some i => pure (some i, ← tag?)
  | none =>
      match ← tag? with
      | some t => pure (← anchor?, some t)
      | none => pure (none, none)

/-! ## Nodes -/

/-- What stands where a node is missing. -/
def missing : Node := .scalar none .plain ['~']

/-- A scalar.  Under an anchor an empty quoted one counts as plain. -/
def scalar (anchor : Option Nat) (tag : Option Tag) (form : Form) (text : List Char) :
    Reader Node :=
  if form = .folded true ∧ text.any fun c => !Text.isBlank c then fault
  else if anchor.isSome ∧ form = .quoted ∧ text = [] then pure (.scalar tag .plain [])
  else pure (.scalar tag form text)

mutual

/-- The node that begins here.  Blocks may begin here only if `block` allows
    them, and sequences without an indentation of their own only if `bare`
    does. -/
def node (block bare : Bool) : Nat → Reader Node
  | 0 => fault
  | fuel + 1 => do
      match ← peek with
      | .alias name => skip; aliased name
      | _ =>
          let (anchor, tag) ← properties
          let before := (← get).nodes
          count 1
          let n ← match ← peek with
            | .scalar form text => do skip; scalar anchor tag form text
            | .flowSequenceStart => do skip; .sequence <$> inside (flowItems true fuel [])
            | .flowMappingStart => do skip; .mapping <$> inside (flowEntries true fuel [])
            | t =>
                if t = .blockEntry ∧ bare then .sequence <$> inside (bareItems fuel [])
                else if t = .blockSequenceStart ∧ block then do
                  skip; .sequence <$> inside (blockItems fuel [])
                else if t = .blockMappingStart ∧ block then do
                  skip; .mapping <$> inside (blockEntries fuel [])
                else if anchor.isSome || tag.isSome then pure (.scalar tag .plain [])
                else fault
          finish anchor before n

/-- A node, unless a token comes first that shows it missing. -/
def nodeOr (block bare : Bool) (isNext : Token → Bool) : Nat → Reader Node
  | 0 => fault
  | fuel + 1 => do
      if isNext (← peek) then pure missing else node block bare fuel

/-- The further items of a block sequence. -/
def blockItems : Nat → List Node → Reader (List Node)
  | 0, _ => fault
  | fuel + 1, items => do
      match ← peek with
      | .blockEnd => skip; pure items
      | .blockEntry =>
          skip
          let n ← nodeOr true false (fun t => t = .blockEntry || t = .blockEnd) fuel
          blockItems fuel (items ++ [n])
      | _ => fault

/-- The further items of a sequence without an indentation of its own. -/
def bareItems : Nat → List Node → Reader (List Node)
  | 0, _ => fault
  | fuel + 1, items => do
      match ← peek with
      | .blockEntry =>
          skip
          let n ← nodeOr true false
            (fun t => t = .blockEntry || t = .key || t = .value || t = .blockEnd) fuel
          bareItems fuel (items ++ [n])
      | _ => pure items

/-- The further entries of a block mapping. -/
def blockEntries : Nat → List (Node × Node) → Reader (List (Node × Node))
  | 0, _ => fault
  | fuel + 1, entries => do
      let isEnd (t : Token) : Bool := t = .key || t = .value || t = .blockEnd
      let key? ← match ← peek with
        | .key => do skip; some <$> nodeOr true true isEnd fuel
        | .value => pure (some missing)
        | .blockEnd => do skip; pure none
        | _ => fault
      match key? with
      | none => pure entries
      | some k =>
          let v ← match ← peek with
            | .value => do skip; nodeOr true true isEnd fuel
            | _ => pure missing
          blockEntries fuel (entries ++ [(k, v)])

/-- The further items of a flow sequence. -/
def flowItems (first : Bool) : Nat → List Node → Reader (List Node)
  | 0, _ => fault
  | fuel + 1, items => do
      let t ← peek
      if t = .flowSequenceEnd then do skip; pure items
      else
        if !first then
          if t = .flowEntry then skip else fault
        match ← peek with
        | .flowSequenceEnd => skip; pure items
        | .key =>
            skip
            let e ← flowPair fuel
            flowItems false fuel (items ++ [.mapping [e]])
        | _ =>
            let n ← node false false fuel
            flowItems false fuel (items ++ [n])

/-- The single entry of a mapping that is written as an item of a sequence.  If
    its key is missing, the mark that shows this is passed over. -/
def flowPair : Nat → Reader (Node × Node)
  | 0 => fault
  | fuel + 1 => do
      let isEnd (t : Token) : Bool := t = .flowEntry || t = .flowSequenceEnd
      let t ← peek
      let k ← if isEnd t || t = .value then do skip; pure missing else node false false fuel
      match ← peek with
      | .value =>
          skip
          let v ← nodeOr false false isEnd fuel
          pure (k, v)
      | _ => pure (k, missing)

/-- The further entries of a flow mapping. -/
def flowEntries (first : Bool) :
    Nat → List (Node × Node) → Reader (List (Node × Node))
  | 0, _ => fault
  | fuel + 1, entries => do
      let isEnd (t : Token) : Bool := t = .flowEntry || t = .flowMappingEnd
      let t ← peek
      if t = .flowMappingEnd then do skip; pure entries
      else
        if !first then
          if t = .flowEntry then skip else fault
        match ← peek with
        | .flowMappingEnd => skip; pure entries
        | .key =>
            skip
            let k ← nodeOr false false (fun t => isEnd t || t = .value) fuel
            let v ← match ← peek with
              | .value => do skip; nodeOr false false isEnd fuel
              | _ => pure missing
            flowEntries false fuel (entries ++ [(k, v)])
        | .value =>
            skip
            let v ← nodeOr false false isEnd fuel
            flowEntries false fuel (entries ++ [(missing, v)])
        | _ =>
            let k ← node false false fuel
            flowEntries false fuel (entries ++ [(k, missing)])

end

/-! ## Documents -/

/-- Passes the marks of documents that have ended. -/
def skipEnds : Reader Unit :=
  modify fun r => { r with rest := r.rest.dropWhile (· = .documentEnd) }

/-- A directive stands here. -/
def isDirective : Token → Bool
  | .versionDirective | .tagDirective _ _ => true
  | _ => false

/-- Reads the directives of a document: one version and each handle once. -/
def directives : Nat → Bool → Reader Unit
  | 0, _ => fault
  | fuel + 1, versioned => do
      match ← peek with
      | .versionDirective =>
          if versioned then fault
          skip
          directives fuel true
      | .tagDirective handle start =>
          if ((← get).handles.lookup handle).isSome then fault
          skip
          modify fun r => { r with handles := (handle, start) :: r.handles }
          directives fuel versioned
      | _ => pure ()

/-- The node of a document, without what begins and ends the document. -/
def root (fuel : Nat) : Reader Node := do
  let explicit := isDirective (← peek) || (← peek) = .documentStart
  directives fuel false
  if !explicit then node true false fuel
  else if (← peek) = .documentStart then
    skip
    let t ← peek
    if isDirective t || t = .documentStart || t = .documentEnd || t = .textEnd then
      pure missing
    else node true false fuel
  else fault

/-- A second document begins behind the first.  Once the first has ended, what
    does not begin a document is not looked at. -/
def another (fuel : Nat) (explicitEnd : Bool) : Reader Bool := fun r =>
  let begins? : Option (Bool × Reading) := (do
    skipEnds
    let t ← peek
    if t = .textEnd then pure false
    else if isDirective t || t = .documentStart then
      modify fun r => { r with handles := [] }
      directives fuel false
      pure ((← peek) = .documentStart)
    else pure explicitEnd : Reader Bool) r
  some ((begins?.map Prod.fst).getD false, r)

/-- There are a hundred aliases or more, and more than ten for every anchor. -/
def tooManyAliases (r : Reading) : Bool :=
  100 ≤ r.aliases && 10 * r.anchors.length < r.aliases

/-- The node of the only document, or nothing if there is no document. -/
def document (fuel : Nat) : Reader (Option Node) := do
  skipEnds
  if (← peek) = .textEnd then pure none
  else
    let n ← root fuel
    let t ← peek
    if isDirective t then fault
    else if ← another fuel (t = .documentEnd) then fault
    else if tooManyAliases (← get) then fault
    else pure (some n)

end Reader

/-- The node of the only document in a text, or nothing if the text has no
    document.  A malformed text and a second document are faults. -/
def Node.read (s : List Char) : Option (Option Node) :=
  let tokens := Token.scan s
  (Reader.document (4 * tokens.length + 8) ⟨tokens, [], [], [], 0, 0, 0⟩).map Prod.fst

end Fixture.Yaml
