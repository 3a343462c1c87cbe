import Mathlib.Data.List.DropRight
import Fixture.Derive.Implementation
import Fixture.Proofs.Dispatch
import Fixture.Proofs.Pieces

/-! # What is found in an implementation

    The tokens of an implementation are read again: which lookups there are and
    what is done in each, and which names are listed.  The lookups are one for each
    field, under the name that its attributes say; the listed names are the keys
    of the lookups that bind a value, and every path of the library begins with
    the one that the item gives. -/

namespace Fixture.Derive

open Implementation (absolute standardRoot quotedName owned staticText comma unused)

/-! ## Finding lookups and names -/

namespace Token

def isLiteral : Token → Bool
  | .literal _ => true
  | _ => false

def isSemicolon : Token → Bool
  | .mark m _ => m = ";"
  | _ => false

/-- What stands in braces. -/
def block? : Token → Option (List Token)
  | .group .brace inner => some inner
  | _ => none

/-- The blocks that stand behind each other in tokens. -/
def blocks (ts : List Token) : List (List Token) := ts.filterMap block?

/-- Blocks are found in parts of a text apart from one another. -/
theorem blocks_append (ts ts' : List Token) : blocks (ts ++ ts') = blocks ts ++ blocks ts' :=
  List.filterMap_append

/-- A block at the end is the last one found. -/
theorem blocks_concat_braced (ts inner : List Token) :
    blocks (ts ++ [braced inner]) = blocks ts ++ [inner] :=
  blocks_append ts [braced inner]

theorem blocks_concat_word (ts : List Token) (w : String) :
    blocks (ts ++ [.word w]) = blocks ts :=
  (blocks_append ts [.word w]).trans (List.append_nil _)

/-- The functions of an implementation. -/
def functions (ts : List Token) : List Token := (blocks ts).getLast?.getD []

/-- The names in the block of the first function. -/
def listing (ts : List Token) : List Token :=
  match blocks (functions ts) with
  | (_ :: .group .bracket names :: _) :: _ => names.filter isLiteral
  | _ => []

/-- The block of the function in front of the last one. -/
def binding (ts : List Token) : List Token :=
  (blocks ((functions ts).rdropWhile fun t => !isWord "fn" t)).getLast?.getD []

/-- The keys at the front of tokens and what is done for each of them. -/
def lookups : List Token → List (Token × List Token)
  | .word "if" :: .word "lowered" :: .mark "==" _ :: key :: .group .brace body :: ts =>
      (key, body) :: lookups ts
  | _ => []

/-- The lookups behind the statements of the binding function. -/
def arms (ts : List Token) : List (Token × List Token) :=
  lookups ((binding ts).rtakeWhile fun t => !isSemicolon t)

/-- A value is bound to a field. -/
def binds (body : List Token) : Bool := body.any (isWord "bind_field")

end Token

open Token

/-- Behind the last character that ends it stands all that is taken from the end. -/
theorem rtakeWhile_append {α : Type} {p : α → Bool} {x : α} {after : List α} (hx : p x = false)
    (h : ∀ y ∈ after, p y = true) (before : List α) :
    (before ++ x :: after).rtakeWhile p = after := by
  rw [List.rtakeWhile, List.reverse_append, List.reverse_cons, List.append_assoc,
    List.takeWhile_append_of_pos (fun y hy => h y (List.mem_reverse.mp hy)),
    List.singleton_append, List.takeWhile_cons_of_neg (Bool.eq_false_iff.mp hx), List.append_nil,
    List.reverse_reverse]

theorem rdropWhile_append {α : Type} {p : α → Bool} {x : α} {after : List α} (hx : p x = false)
    (h : ∀ y ∈ after, p y = true) (before : List α) :
    (before ++ x :: after).rdropWhile p = before ++ [x] := by
  rw [List.rdropWhile, List.reverse_append, List.reverse_cons, List.append_assoc,
    List.dropWhile_append_of_pos (fun y hy => h y (List.mem_reverse.mp hy)),
    List.singleton_append, List.dropWhile_cons_of_neg (Bool.eq_false_iff.mp hx),
    List.reverse_cons, List.reverse_reverse]

/-! ## What attributes say of fields and items -/

namespace FieldItem

/-- The key of a field: the last name it was given or its own, in lower case. -/
def key (f : FieldItem) : String :=
  let given := ((seen "rename" f.attributes).filterMap (given? "rename")).getLast?
  String.ofList (Text.lowercase (given.getD (plainName f.name)))

/-- The field carries the mark that it takes no values. -/
def skips (f : FieldItem) : Bool := (seen "rename" f.attributes).any (isWordAlone "skip")

def arm (f : FieldItem) : Arm := ⟨f.key, f.name, f.type, f.skips⟩

end FieldItem

/-- The path of the library that an item gives, or else the standard one. -/
def Item.root (item : Item) : List Token :=
  ((seen "crate" item.attributes).filterMap rootOf?).getLast?.getD standardRoot

/-- What is derived for a field is what its attributes say. -/
theorem Arm.eq_of_ofField {f : FieldItem} {a : Arm} (h : ofField f = .ok a) : a = f.arm := by
  rw [ofField] at h
  obtain ⟨o, ho, h⟩ := bind_eq_ok_iff.mp h
  obtain rfl := Except.ok.inj h
  rw [FieldOptions.eq_of_ofAttributes ho]
  rfl

/-- The arms of a struct are those of its fields, in their order. -/
theorem Arm.eq_map_of_ofField {fields : List FieldItem} {arms : List Arm}
    (h : List.Forall₂ (fun f a => ofField f = .ok a) fields arms) :
    arms = fields.map FieldItem.arm := by
  induction h with
  | nil => rfl
  | cons ha _ ih => rw [List.map_cons, eq_of_ofField ha, ih]

/-- **WHAT IS DERIVED** for an item is what its attributes and those of its fields
    say. -/
theorem Implementation.eq_of_ofItem {item : Item} {i : Implementation}
    (h : ofItem item = .ok i) :
    ∃ fields, item.body = .fields fields
      ∧ i = ⟨item.root, item.name, item.generics, fields.map FieldItem.arm⟩ := by
  rw [ofItem] at h
  obtain ⟨root, hroot, h⟩ := bind_eq_ok_iff.mp h
  split at h
  · cases h
  · cases h
  · rename_i fields hbody
    obtain ⟨arms, harms, h⟩ := bind_eq_ok_iff.mp h
    obtain rfl := Except.ok.inj h
    refine ⟨fields, hbody, ?_⟩
    rw [eq_of_rootOfAttributes hroot, Arm.eq_map_of_ofField (mapM_eq_ok_iff.mp harms), Item.root]

/-! ## What is derived, behind the path of the library -/

namespace Expansion

variable (root : List Token)

/-- The fault `kind` of the name that a value was to be bound to. -/
def refused (kind : String) : List Token :=
  absolute ["core", "result", "Result", "Err"]
    ++ [parenthesized (root ++ absolute ["BindError", kind]
      ++ [braced ([.word "field", sign ":"] ++ owned "name" ++ comma
        :: [.word "target", sign ":"] ++ owned "target" ++ [comma])])]

/-- What is done for a field: its mark decides, and what is bound is the very field. -/
def outcome (f : FieldItem) : List Token :=
  if f.skips then refused root "FieldNotSettable"
  else
    root ++ absolute ["__private", "bind_field"]
      ++ [parenthesized [sign "&", .word "mut", .word "self", sign ".", .word f.name, comma,
        .word "name", comma, .word "target", comma, .word "value"]]

/-- The lookup of a field. -/
def lookup (f : FieldItem) : Token × List Token :=
  (quotedName f.key, .word "return" :: outcome root f ++ [sign ";"])

/-- A lookup as it is spelled. -/
def spelled (l : Token × List Token) : List Token :=
  [.word "if", .word "lowered", sign "==", l.1, braced l.2]

/-- The statements in front of all lookups: the value is used where no field takes
    one, and the name where there is no field. -/
def statements (untaken nameless : Bool) : List Token :=
  [.word "let", .word "lowered", sign "=", .word "name", sign ".", .word "to_lowercase",
    parenthesized [], sign ";",
    .word "let", .word "target", sign "=", sign "<", .word "Self", .word "as"] ++ root
    ++ absolute ["Bindable"] ++ [sign ">"] ++ absolute ["target_name"]
    ++ [parenthesized [], sign ";"]
    ++ (if untaken then unused [.word "value"] else [])
    ++ (if nameless then unused [sign "&", .word "lowered"] else [])

/-- Behind the last statement there is nothing. -/
theorem exists_statements (untaken nameless : Bool) :
    ∃ before, statements root untaken nameless = before ++ [sign ";"] := by
  rw [statements]
  cases untaken with
  | true =>
      cases nameless with
      | true => exact ⟨_, (List.append_assoc ..).symm⟩
      | false => exact ⟨_, (List.append_nil _).trans (List.append_assoc ..).symm⟩
  | false =>
      cases nameless with
      | true => exact ⟨_, (List.append_assoc ..).symm⟩
      | false =>
          simp only [Bool.false_eq_true, if_false, List.append_nil]
          exact ⟨_, (List.append_assoc _ [parenthesized []] [sign ";"]).symm⟩

/-- The binding function in front of its block. -/
def signature : List Token :=
  [.word "fn", .word "bind",
    parenthesized
      ([sign "&", .word "mut", .word "self", comma,
        .word "name", sign ":", sign "&", .word "str", comma, .word "value", sign ":", sign "&"]
        ++ root ++ absolute ["Value"] ++ [comma]),
    sign "->"]
    ++ root ++ absolute ["BindResult"] ++ [sign "<", parenthesized [], sign ">"]

/-- The function that lists names. -/
def namesFunction (names : List Token) : List Token :=
  [.word "fn", .word "field_names", parenthesized [], sign "->", sign "&", .lifetime "'static",
    bracketed staticText,
    braced [sign "&", bracketed (Parts.tokens ⟨names.map fun n => [n], false⟩)]]

/-- The function that gives the name of the structure. -/
def targetFunction (name : String) : List Token :=
  [.word "fn", .word "target_name", parenthesized [], sign "->"] ++ staticText
    ++ [braced [quotedName name]]

/-- What is required of the types of fields: of an item that has a parameter which
    stands for a type, each field that takes values adds a requirement. -/
def added (item : Item) (fields : List FieldItem) : List (List Token) :=
  if item.generics.hasTypes then
    (fields.filter fun f => !f.skips).map fun f =>
      f.type ++ sign ":" :: item.root ++ absolute ["FromFixture"]
  else []

/-- The requirements of the item itself and behind them those that are added. -/
def required (item : Item) (fields : List FieldItem) : Parts :=
  ⟨item.generics.requirements.parts ++ added item fields,
    item.generics.requirements.trailing && (added item fields).isEmpty⟩

end Expansion

namespace Implementation

variable (i : Implementation)

/-- An implementation consists of three functions. -/
theorem functions_tokens :
    functions i.tokens = i.namesFunction ++ i.bindFunction ++ i.targetFunction := by
  rw [functions, tokens, blocks_concat_braced, List.getLast?_concat, Option.getD_some]

/-! ### The list of names -/

/-- The names of a list are the literals between its commas. -/
theorem filter_isLiteral_names (names : List String) :
    (Parts.tokens ⟨names.map fun n => [quotedName n], false⟩).filter isLiteral
      = names.map quotedName := by
  cases names with
  | nil => rfl
  | cons n names =>
      have hothers : List.filter isLiteral
            ((names.map fun n => [quotedName n]).flatMap fun part => sign "," :: part)
          = names.map quotedName := by
        induction names with
        | nil => rfl
        | cons n names ih => exact congrArg (quotedName n :: ·) ih
      rw [Parts.tokens, List.map_cons]
      simp only [Bool.false_eq_true, if_false, List.append_nil, List.filter_append, hothers]
      rfl

/-- What the first function lists are the names, quoted. -/
theorem listing_tokens : listing i.tokens = i.names.map quotedName := by
  rw [listing, functions_tokens, ← filter_isLiteral_names]
  rfl

/-! ### The binding function -/

/-- The block of the binding function. -/
def bindBody : List Token :=
  Expansion.statements i.root i.settable.isEmpty i.arms.isEmpty
    ++ (i.arms.flatMap i.armTokens ++ i.refusal "FieldLookup")

theorem bindFunction_eq :
    i.bindFunction = Expansion.signature i.root ++ [braced i.bindBody] := by
  rw [bindFunction, Expansion.signature, bindBody, Expansion.statements, bindings]
  simp only [List.append_assoc, List.cons_append, List.nil_append]

/-- The body of the second function is the one found in the implementation. -/
theorem binding_tokens : binding i.tokens = i.bindBody := by
  -- only the first token of the last function begins a function, so what is left in
  -- front of it ends with the block of the binding function
  obtain ⟨behind, htarget, hbehind⟩ :
      ∃ behind, i.targetFunction = .word "fn" :: behind
        ∧ ∀ t ∈ behind, (!isWord "fn" t) = true := by
    refine ⟨[.word "target_name", parenthesized [], sign "->"] ++ staticText
      ++ [braced [quotedName i.target]], rfl, ?_⟩
    simp only [staticText, List.cons_append, List.nil_append, List.forall_mem_cons]
    exact ⟨rfl, rfl, rfl, rfl, rfl, rfl, rfl, List.forall_mem_nil _⟩
  rw [binding, functions_tokens, htarget, rdropWhile_append (by rfl) hbehind, bindFunction_eq,
    ← List.append_assoc, blocks_concat_word, blocks_concat_braced, List.getLast?_concat,
    Option.getD_some]

/-- A refusal has no semicolon at its outer level, so it is one statement. -/
theorem isSemicolon_refusal (kind : String) : ∀ t ∈ i.refusal kind, (!isSemicolon t) = true := by
  simp only [refusal, absolute, List.flatMap_cons, List.flatMap_nil, List.cons_append,
    List.nil_append, List.forall_mem_cons]
  exact ⟨rfl, rfl, rfl, rfl, rfl, rfl, rfl, rfl, rfl, List.forall_mem_nil _⟩

theorem isSemicolon_armTokens (a : Arm) : ∀ t ∈ i.armTokens a, (!isSemicolon t) = true := by
  simp only [armTokens, List.forall_mem_cons]
  exact ⟨rfl, rfl, rfl, rfl, rfl, List.forall_mem_nil _⟩

/-- In front of the refusal each arm is a lookup of its key with its outcome. -/
theorem lookups_armTokens (as : List Arm) :
    lookups (as.flatMap i.armTokens ++ i.refusal "FieldLookup")
      = as.map fun a => (quotedName a.key, .word "return" :: i.outcome a ++ [sign ";"]) := by
  induction as with
  | nil => rfl
  | cons a as ih => exact congrArg (_ :: ·) ih

/-- So the lookups of an implementation are its arms, in their order. -/
theorem arms_tokens :
    Token.arms i.tokens
      = i.arms.map fun a => (quotedName a.key, .word "return" :: i.outcome a ++ [sign ";"]) := by
  -- the marks at which the lookups end are inside of their blocks, so the last one
  -- outside is that of the statements in front
  obtain ⟨before, hbefore⟩ :=
    Expansion.exists_statements i.root i.settable.isEmpty i.arms.isEmpty
  have hbehind : ∀ t ∈ i.arms.flatMap i.armTokens ++ i.refusal "FieldLookup",
      (!isSemicolon t) = true := by
    refine List.forall_mem_append.mpr ⟨fun t ht => ?_, i.isSemicolon_refusal _⟩
    obtain ⟨a, -, ht⟩ := List.mem_flatMap.mp ht
    exact i.isSemicolon_armTokens a t ht
  rw [Token.arms, binding_tokens, bindBody, hbefore, List.append_assoc, List.singleton_append,
    rtakeWhile_append (by rfl) hbehind, lookups_armTokens]

/-- A value is bound exactly to the fields that take values. -/
theorem binds_outcome (a : Arm) :
    binds (.word "return" :: i.outcome a ++ [sign ";"]) = !a.skipped := by
  rw [outcome]
  cases a.skipped with
  | true => rfl
  | false =>
      -- a path of the library may hold the word as well, which changes nothing
      rw [if_neg Bool.false_ne_true, Bool.not_false, binds]
      exact List.any_eq_true.mpr ⟨.word "bind_field", by simp [absolute], rfl⟩

/-- **THE LISTED NAMES** are the keys of the lookups that bind a value. -/
theorem listing_eq_filter :
    listing i.tokens = ((Token.arms i.tokens).filter fun l => binds l.2).map Prod.fst := by
  rw [listing_tokens, arms_tokens, List.filter_map, List.map_map, names, List.map_map, settable]
  have hbinds : ((fun l : Token × List Token => binds l.2)
      ∘ fun a : Arm => (quotedName a.key, .word "return" :: i.outcome a ++ [sign ";"]))
      = fun a => !a.skipped := funext fun a => i.binds_outcome a
  rw [hbinds]
  rfl

end Implementation

/-! ## What an expansion consists of -/

/-- The parts of an expansion agree with each other and with the item. -/
structure Expansion (item : Item) (fields : List FieldItem) (ts : List Token) : Prop where
  /-- There is one lookup for each field, in their order. -/
  arms : Token.arms ts = fields.map (Expansion.lookup item.root)
  /-- The names that are listed are the keys of the lookups that bind a value. -/
  listing : Token.listing ts = ((Token.arms ts).filter fun l => binds l.2).map Prod.fst
  /-- A lookup binds a value unless the field carries the mark. -/
  binds : ∀ f ∈ fields, Token.binds (Expansion.lookup item.root f).2 = !f.skips
  /-- The block of the binding function has the lookups and nothing else behind its
      first statements, and fails at its end. -/
  binding : Token.binding ts
    = Expansion.statements item.root (fields.all FieldItem.skips) fields.isEmpty
      ++ (Token.arms ts).flatMap Expansion.spelled ++ Expansion.refused item.root "FieldLookup"
  /-- There are three functions. -/
  functions : Token.functions ts
    = Expansion.namesFunction (Token.listing ts)
      ++ (Expansion.signature item.root ++ [braced (Token.binding ts)])
      ++ Expansion.targetFunction item.name
  /-- The functions stand behind the requirements. -/
  heading : ts
    = .word "impl" :: Parameter.angles Parameter.introduced item.generics.parameters
      ++ item.root ++ absolute ["Bindable"] ++ [.word "for", .word item.name]
      ++ Parameter.angles Parameter.name item.generics.parameters
      ++ Generics.whereClause (Expansion.required item fields)
      ++ [braced (Token.functions ts)]

namespace Implementation

section

variable (item : Item) (fields : List FieldItem)

/-- What attributes say of an item and its fields. -/
def ofFields : Implementation :=
  ⟨item.root, item.name, item.generics, fields.map FieldItem.arm⟩

/-- The arms that can be set are those of the fields that are not skipped. -/
theorem settable_ofFields :
    (ofFields item fields).settable = (fields.filter fun f => !f.skips).map FieldItem.arm := by
  rw [settable, ofFields, List.filter_map]
  rfl

/-- The types of these fields are what the implementation asks for. -/
theorem requirements_ofFields :
    (ofFields item fields).requirements = Expansion.required item fields := by
  have hadded : (if (ofFields item fields).generics.hasTypes
        then (ofFields item fields).settable.map (ofFields item fields).requirement else [])
      = Expansion.added item fields := by
    rw [settable_ofFields, List.map_map]
    rfl
  rw [requirements, Expansion.required, hadded]
  split
  · rename_i hnone
    rw [hnone, List.append_nil, List.isEmpty_nil, Bool.and_true]
    rfl
  · rename_i hsome
    rw [List.isEmpty_eq_false_iff.mpr hsome, Bool.and_false]
    rfl

/-- No arm can be set exactly if all fields are skipped. -/
theorem settable_isEmpty_ofFields :
    (ofFields item fields).settable.isEmpty = fields.all FieldItem.skips := by
  rw [settable_ofFields, List.isEmpty_map]
  induction fields with
  | nil => rfl
  | cons f fields ih =>
      rw [List.filter_cons, List.all_cons, ← ih]
      cases f.skips <;> rfl

/-- The tokens of an implementation are an expansion of the struct. -/
theorem expansion_ofFields : Expansion item fields (ofFields item fields).tokens := by
  have harms : Token.arms (ofFields item fields).tokens
      = fields.map (Expansion.lookup item.root) := by
    rw [arms_tokens]
    exact List.map_map
  have hbinding : Token.binding (ofFields item fields).tokens
      = Expansion.statements item.root (fields.all FieldItem.skips) fields.isEmpty
        ++ (Token.arms (ofFields item fields).tokens).flatMap Expansion.spelled
        ++ Expansion.refused item.root "FieldLookup" := by
    rw [binding_tokens, bindBody, settable_isEmpty_ofFields, harms, List.flatMap_map,
      ofFields, List.flatMap_map, List.isEmpty_map, ← List.append_assoc]
    rfl
  refine ⟨harms, listing_eq_filter _, fun f _ => binds_outcome (ofFields item fields) f.arm,
    hbinding, ?_, ?_⟩
  · rw [functions_tokens, listing_tokens, bindFunction_eq, ← binding_tokens,
      Expansion.namesFunction, List.map_map]
    rfl
  · rw [functions_tokens, ← requirements_ofFields]
    rfl

end

/-- **EXPANSIONS** of the items that are accepted: the keys of the lookups, the
    fields that take values and the path of the library are what the pieces of
    attributes say that are seen, and all are seen where no piece takes the others
    behind it along. -/
theorem expansion_of_ofItem {item : Item} {i : Implementation} (h : ofItem item = .ok i) :
    ∃ fields, item.body = .fields fields ∧ Expansion item fields i.tokens
      ∧ (∀ f ∈ fields, (∀ a ∈ f.attributes, ∀ piece ∈ pieces a, takesAll "rename" piece = false) →
        seen "rename" f.attributes = f.attributes.flatMap pieces)
      ∧ ((∀ a ∈ item.attributes, ∀ piece ∈ pieces a, takesAll "crate" piece = false) →
        seen "crate" item.attributes = item.attributes.flatMap pieces) := by
  obtain ⟨fields, hbody, rfl⟩ := eq_of_ofItem h
  exact ⟨fields, hbody, expansion_ofFields item fields,
    fun _ _ hnone => seen_eq_flatMap_pieces hnone, seen_eq_flatMap_pieces⟩

/-- A field under the name that it was given, one that takes no values, and one whose
    name is lost behind an entry of another kind. -/
theorem expansion_of_ofItem_request :
    let bind (inner : List Token) : List Token := [.word "bind", parenthesized inner]
    let entry (key value : String) : List Token := [.word key, sign "=", .literal value]
    let lost := entry "other" "\"x\"" ++ comma :: entry "rename" "\"y\""
    let fields : List FieldItem :=
      [⟨[bind (entry "rename" "\"URL\"")], "endpoint", [.word "T"]⟩,
        ⟨[bind [.word "skip"]], "r#type", [.word "u8"]⟩, ⟨[bind lost], "Tries", [.word "u8"]⟩]
    let item : Item :=
      ⟨[], "Request", ⟨[⟨.type, [], [.word "T"], [], [], false⟩], ⟨[], false⟩⟩, .fields fields⟩
    ∃ i, ofItem item = .ok i ∧ Expansion item fields i.tokens
      ∧ Token.text ((Token.arms i.tokens).map Prod.fst) = "\"url\" \"type\" \"tries\""
      ∧ (Token.arms i.tokens).map (fun l => binds l.2) = [true, false, true]
      ∧ Token.text (Token.listing i.tokens) = "\"url\" \"tries\""
      ∧ Token.text (Generics.whereClause (Expansion.required item fields))
        = "where T : :: tagbind :: FromFixture , u8 : :: tagbind :: FromFixture" := by
  intro bind entry lost fields item
  obtain ⟨i, hi⟩ : ∃ i, ofItem item = .ok i :=
    failure?_eq_none_iff.mp (Option.isNone_iff_eq_none.mp (by decide +kernel))
  obtain ⟨fields', hfields, hexpansion, -⟩ := expansion_of_ofItem hi
  obtain rfl := Body.fields.inj hfields
  refine ⟨i, hi, hexpansion, ?_, ?_, ?_, by decide +kernel⟩
  · rw [hexpansion.arms]
    decide +kernel
  · rw [hexpansion.arms]
    decide +kernel
  · rw [hexpansion.listing, hexpansion.arms]
    decide +kernel

end Implementation

end Fixture.Derive
