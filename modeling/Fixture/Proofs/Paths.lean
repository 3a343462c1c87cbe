import Mathlib.Data.List.Infix
import Fixture.Json.Path
import Fixture.Proofs.Digits
import Fixture.Proofs.Keys

/-! # Dotted paths

    A path is walked one segment after another, and a path behind another one is
    walked from where the first has led.  A value keeps all that lies below a node:
    arrays and objects come back from it as they were, and below anything else there
    is nothing.  So looking up in stages is looking up at once.

    A route is given by its steps, keys and positions, whatever the keys are.  Routes
    whose keys have no dots are read back from their paths, all but one: the route of
    an empty key has the same path as the route of no steps, and that path is taken for
    the document. -/

namespace Fixture

/-! ## Segments -/

namespace Text

/-- The pieces between the separators are those of the list of characters. -/
theorem splitOn_eq (sep : Char) (s : List Char) : splitOn sep s = s.splitOn sep := by
  induction s with
  | nil => rfl
  | cons c s ih =>
      rw [splitOn, List.splitOn_cons_eq_if_modifyHead, ih]
      by_cases h : c = sep
      · rw [if_pos h, if_pos (beq_iff_eq.mpr h)]
      · rw [if_neg h, if_neg (mt beq_iff_eq.mp h)]
        cases hs : s.splitOn sep with
        | nil => exact absurd hs (List.splitOn_ne_nil sep s)
        | cons piece pieces => rfl

theorem splitOn_ne_nil (sep : Char) (s : List Char) : splitOn sep s ≠ [] := by
  rw [splitOn_eq]
  exact List.splitOn_ne_nil sep s

/-- What stands in front of a separator and what stands behind it are cut on their own. -/
theorem splitOn_append_cons (sep : Char) (s t : List Char) :
    splitOn sep (s ++ sep :: t) = splitOn sep s ++ splitOn sep t := by
  rw [splitOn_eq, splitOn_eq, splitOn_eq, List.splitOn_append_cons_self]

end Text

namespace Json

variable {p q : String} {node root : Json}

/-- The first segment leads to a child, and the others on from there. -/
theorem descend?_cons (segment : List Char) (segments : List (List Char)) (root : Json) :
    root.descend? (segment :: segments)
      = (root.child? segment).bind (Json.descend? segments) := rfl

/-- Segments behind others go on from where those have led. -/
theorem descend?_append (front back : List (List Char)) (root : Json) :
    root.descend? (front ++ back) = (root.descend? front).bind (Json.descend? back) :=
  List.foldlM_append ..

/-- The value at a path is that of the node there, and null if there is none. -/
theorem get_eq (root : Json) (path : String) :
    root.get path = ((root.node? path).map Value.ofJson).getD .null := by
  rw [Json.get]
  cases root.node? path <;> rfl

/-- Only the empty path is not walked by its segments. -/
theorem node?_of_ne_empty (hq : q ≠ "") (root : Json) :
    root.node? q = root.descend? (Text.splitOn '.' q.toList) := by
  rw [node?, if_neg (mt String.toList_eq_nil_iff.mp hq)]

/-- A path of keys without dots is walked key by key. -/
theorem node?_intercalate {keys : List String} (hdots : ∀ key ∈ keys, '.' ∉ key.toList)
    (hpath : ".".intercalate keys ≠ "") (root : Json) :
    root.node? (".".intercalate keys) = root.descend? (keys.map String.toList) := by
  have hkeys : keys.map String.toList ≠ [] := by
    rintro h
    obtain rfl := List.map_eq_nil_iff.mp h
    exact hpath rfl
  have hpieces : ∀ piece ∈ keys.map String.toList, '.' ∉ piece := by
    intro piece hpiece
    obtain ⟨key, hkey, rfl⟩ := List.mem_map.mp hpiece
    exact hdots key hkey
  rw [node?_of_ne_empty hpath, Text.splitOn_eq, String.toList_intercalate]
  exact congrArg root.descend? (List.splitOn_intercalate '.' hpieces hkeys)

/-! ## One path behind another -/

theorem append_dot_append_ne_empty (p q : String) : p ++ "." ++ q ≠ "" := by
  intro h
  have hdot := (String.append_eq_empty_iff.mp (String.append_eq_empty_iff.mp h).1).2
  exact absurd hdot (by decide)

/-- **A PATH BEHIND ANOTHER** is walked from where the first one has led. -/
theorem node?_append (hp : p ≠ "") (hq : q ≠ "") (root : Json) :
    root.node? (p ++ "." ++ q) = (root.node? p).bind (Json.node? q) := by
  have hpieces : Text.splitOn '.' (p ++ "." ++ q).toList
      = Text.splitOn '.' p.toList ++ Text.splitOn '.' q.toList := by
    rw [String.toList_append, String.toList_append, List.append_assoc]
    exact Text.splitOn_append_cons '.' p.toList q.toList
  rw [node?_of_ne_empty (append_dot_append_ne_empty p q), hpieces, descend?_append,
    ← node?_of_ne_empty hp]
  exact congrArg _ (funext fun node => (node?_of_ne_empty hq node).symm)

/-- There is nothing below the node. -/
def IsLeaf : Json → Prop
  | .array _ | .object _ => False
  | .null | .bool _ | .number _ | .string _ => True

/-- Nothing is below a leaf. -/
theorem IsLeaf.node?_eq_none (h : node.IsLeaf) (hq : q ≠ "") : node.node? q = none := by
  rw [node?_of_ne_empty hq]
  obtain ⟨segment, segments, hsegments⟩ :=
    List.exists_cons_of_ne_nil (Text.splitOn_ne_nil '.' q.toList)
  rw [hsegments, descend?_cons]
  cases node with
  | array items => exact h.elim
  | object members => exact h.elim
  | null | bool b | number n | string s => rfl

/-- A number is a number of a document or nothing, and there is nothing below it. -/
theorem isLeaf_numberToJson (x : Binary64) : (Value.numberToJson x).IsLeaf := by
  rw [Value.numberToJson]
  split
  · trivial
  · split <;> trivial

/-- **A VALUE KEEPS WHAT LIES BELOW** the node it was taken from, though numbers may come
    back as others. -/
theorem node?_toJson_ofJson (hq : q ≠ "") (node : Json) :
    (Value.ofJson node).toJson.node? q = node.node? q := by
  cases node with
  | array items => rfl
  | object members => rfl
  | null | bool b | string s => rfl
  | number n =>
      have hback : (Value.ofJson (.number n)).toJson.node? q = none :=
        (isLeaf_numberToJson n.toBinary).node?_eq_none hq
      have hnode : (Json.number n).node? q = none := IsLeaf.node?_eq_none trivial hq
      rw [hback, hnode]

/-- A value has the nodes that are below the node it comes from. -/
theorem node?_toJson_get (hq : q ≠ "") (root : Json) (p : String) :
    (root.get p).toJson.node? q = (root.node? p).bind (Json.node? q) := by
  rw [get_eq]
  cases root.node? p with
  | none => exact IsLeaf.node?_eq_none trivial hq
  | some node => exact node?_toJson_ofJson hq node

/-- Looking up a longer path is looking up its end in the value at its front. -/
theorem get_append (hp : p ≠ "") (hq : q ≠ "") (root : Json) :
    root.get (p ++ "." ++ q) = (root.get p).toJson.get q := by
  rw [get_eq, get_eq (root.get p).toJson, node?_append hp hq, node?_toJson_get hq]

/-- One stage after another, however many there are. -/
theorem get_intercalate (hp : p ≠ "") {paths : List String} (hpaths : ∀ path ∈ paths, path ≠ "")
    (root : Json) :
    root.get (".".intercalate (p :: paths))
      = paths.foldl (fun v path => v.toJson.get path) (root.get p) := by
  induction paths generalizing p with
  | nil => rw [String.intercalate_singleton, List.foldl_nil]
  | cons q paths ih =>
      obtain ⟨hq, hpaths⟩ := List.forall_mem_cons.mp hpaths
      have hjoin : ".".intercalate (p :: q :: paths)
          = ".".intercalate ((p ++ "." ++ q) :: paths) := by
        cases paths with
        | nil => rfl
        | cons r paths => simp only [String.intercalate_cons_cons, String.append_assoc]
      rw [hjoin, ih (append_dot_append_ne_empty p q) hpaths, get_append hp hq, List.foldl_cons]

/-- **LOOKING UP IN STAGES** is looking up at once, through two of them or more: each
    begins at the document of the value that the one before gave.  Below what is missing,
    null or a scalar everything is null. -/
theorem get_in_stages (hp : p ≠ "") (root : Json) :
    (∀ q, q ≠ "" → root.get (p ++ "." ++ q) = (root.get p).toJson.get q)
    ∧ (∀ paths : List String, (∀ path ∈ paths, path ≠ "") →
      root.get (".".intercalate (p :: paths))
        = paths.foldl (fun v path => v.toJson.get path) (root.get p))
    ∧ ((∀ node, root.node? p = some node → node.IsLeaf) →
      ∀ q, q ≠ "" → root.get (p ++ "." ++ q) = .null) := by
  refine ⟨fun q hq => get_append hp hq root, fun paths hpaths => get_intercalate hp hpaths root,
    fun hleaf q hq => ?_⟩
  have hnone : (root.node? p).bind (Json.node? q) = none := by
    rw [Option.bind_eq_none_iff]
    intro node hnode
    exact (hleaf node hnode).node?_eq_none hq
  rw [get_eq, node?_append hp hq, hnone]
  rfl

/-- A position with a plus sign and an empty key on the way, three stages, and what lies
    below a segment that is no number. -/
theorem get_in_stages_signed :
    let root : Json := .object [("a", .array [.object [("", .object [("b", .bool true)])]])]
    root.get "a.+0..b" = (root.get "a.+0").toJson.get ".b"
      ∧ root.get "a.+0..b" = ((root.get "a").toJson.get "+0").toJson.get ".b"
      ∧ (root.get "a.+0").toJson.get ".b" = .bool true
      ∧ root.get "a.x.b" = .null := by
  intro root
  obtain ⟨hstages, -, -⟩ := get_in_stages (p := "a.+0") (by decide) root
  obtain ⟨-, hmany, -⟩ := get_in_stages (p := "a") (by decide) root
  obtain ⟨-, -, hnull⟩ := get_in_stages (p := "a.x") (by decide) root
  have hmissing : root.node? "a.x" = none := by rfl
  refine ⟨hstages ".b" (by decide), hmany ["+0", ".b"] (by decide), by rfl, ?_⟩
  exact hnull (fun node hnode => nomatch hmissing.symm.trans hnode) "b" (by decide)

/-! ## Routes -/

/-- A step from a node to one right below it: to the member under a key, or to the item at
    a position.  A position is a number of the size of a pointer, and no array has more. -/
inductive Step where
  | key (k : String)
  | position (i : Nat) (inRange : (i : Int) ≤ IntType.usize.greatest)
deriving DecidableEq

/-- A step in a path; a position is written in decimal digits. -/
def Step.text : Step → String
  | .key k => k
  | .position i _ => String.ofList (Nat.toDigits 10 i)

/-- The path of a route. -/
def dotted (route : List Step) : String := ".".intercalate (route.map Step.text)

/-- The steps of a route lead from a node to another one. -/
inductive Leads : List Step → Json → Json → Prop
  | here (node : Json) : Leads [] node node
  | member {k : String} {route : List Step} {members : List (String × Json)} {child node : Json}
      (hchild : Assoc.get? members k = some child) (h : Leads route child node) :
      Leads (.key k :: route) (.object members) node
  | item {i : Nat} {inRange : (i : Int) ≤ IntType.usize.greatest} {route : List Step}
      {items : List Json} {child node : Json}
      (hchild : items[i]? = some child) (h : Leads route child node) :
      Leads (.position i inRange :: route) (.array items) node

variable {route : List Step}

theorem child?_key (members : List (String × Json)) (k : String) :
    (Json.object members).child? k.toList = Assoc.get? members k := by
  rw [child?, String.ofList_toList]

theorem child?_position (items : List Json) (i : Nat)
    (inRange : (i : Int) ≤ IntType.usize.greatest) :
    (Json.array items).child? (Nat.toDigits 10 i) = items[i]? := by
  have hread : IntType.usize.readText (Nat.toDigits 10 i) = .ok i := by
    rw [IntType.readText_of_spells (IntType.spells_toDigits .usize i), IntType.narrow_eq_ok_iff]
    exact ⟨rfl, Int.natCast_nonneg i, inRange⟩
  rw [child?, hread]
  rfl

/-- **THE SEGMENTS OF A ROUTE** lead where its steps lead. -/
theorem Leads.descend?_eq (h : Leads route root node) :
    root.descend? (route.map fun step => step.text.toList) = some node := by
  induction h with
  | here node => rfl
  | member hchild _ ih =>
      rw [List.map_cons, descend?_cons, Step.text, child?_key, hchild]
      exact ih
  | @item i inRange route items child node hchild _ ih =>
      rw [List.map_cons, descend?_cons, Step.text, String.toList_ofList,
        child?_position items i inRange, hchild]
      exact ih

/-- A position has no dot, so only keys are asked for that. -/
theorem Step.dot_not_mem_text {step : Step} (h : ∀ k, step = .key k → '.' ∉ k.toList) :
    '.' ∉ step.text.toList := by
  cases step with
  | key k => exact h k rfl
  | position i inRange =>
      rw [text, String.toList_ofList]
      intro hdot
      exact absurd (Nat.isDigit_of_mem_toDigits (by decide) (by decide) hdot) (by decide)

/-- Only the route of no steps and that of one step with an empty key have the empty path. -/
theorem dotted_eq_empty_iff : dotted route = "" ↔ route = [] ∨ route = [.key ""] := by
  constructor
  · intro h
    match route with
    | [] => exact Or.inl rfl
    | [.key k] =>
        rw [dotted, List.map_singleton, String.intercalate_singleton] at h
        exact Or.inr (congrArg (fun k => [Step.key k]) h)
    | [.position i _] =>
        rw [dotted, List.map_singleton, String.intercalate_singleton] at h
        exact absurd (String.ofList_eq_empty_iff.mp h) Nat.toDigits_ne_nil
    | step :: step' :: route =>
        rw [dotted, List.map_cons, List.map_cons, String.intercalate_cons_cons] at h
        exact absurd h (append_dot_append_ne_empty _ _)
  · rintro (rfl | rfl) <;> rfl

/-- The value of an object is not that of one of its members, which is smaller. -/
theorem ofJson_ne_of_get? {members : List (String × Json)} {k : String}
    (h : Assoc.get? members k = some node) :
    Value.ofJson (.object members) ≠ Value.ofJson node := by
  intro heq
  cases node with
  | object members' =>
      obtain rfl := Value.object.inj heq
      have hmem := List.sizeOf_lt_of_mem (Assoc.mem_of_get? h)
      simp only [Prod.mk.sizeOf_spec, object.sizeOf_spec] at hmem
      omega
  | null | bool b | number n | string s | array items => cases heq

/-- **EVERY NODE** at the end of a route whose keys have no dots is what its path is looked
    up as.  The route of the empty key alone is the only exception: its path is that of
    the document. -/
theorem get_dotted (h : Leads route root node) (hdots : ∀ k, .key k ∈ route → '.' ∉ k.toList) :
    (root.get (dotted route) = Value.ofJson node ↔ route ≠ [.key ""])
    ∧ (route = [.key ""] → root.get (dotted route) = Value.ofJson root) := by
  have hdocument : root.get "" = Value.ofJson root := rfl
  by_cases hroute : route = [.key ""]
  · subst hroute
    refine ⟨iff_of_false ?_ (fun hne => hne rfl), fun _ => hdocument⟩
    cases h with
    | member hchild hrest =>
        cases hrest with
        | here => exact ofJson_ne_of_get? hchild
  · refine ⟨iff_of_true ?_ hroute, fun heq => absurd heq hroute⟩
    by_cases hempty : dotted route = ""
    · -- no steps: the path of the document, which is the node
      obtain rfl := (dotted_eq_empty_iff.mp hempty).resolve_right hroute
      cases h with
      | here => exact hdocument
    · have hsteps : ∀ text ∈ route.map Step.text, '.' ∉ text.toList := by
        intro text htext
        obtain ⟨step, hstep, rfl⟩ := List.mem_map.mp htext
        exact Step.dot_not_mem_text fun k hk => hdots k (hk ▸ hstep)
      have hnode : root.node? (dotted route) = some node := by
        rw [dotted, node?_intercalate hsteps hempty, List.map_map]
        exact h.descend?_eq
      rw [get_eq, hnode]
      rfl

/-- Empty keys at both ends of a route and a key that looks like a position, and the empty
    key alone. -/
theorem get_dotted_empty_keys :
    let inner : Json := .object [("0", .array [.null, .object [("", .string "x")]])]
    let root : Json := .object [("", inner)]
    let route : List Step := [.key "", .key "0", .position 1 (by decide), .key ""]
    Leads route root (.string "x") ∧ dotted route = ".0.1."
      ∧ root.get ".0.1." = .string "x"
      ∧ root.get (dotted [.key ""]) = Value.ofJson root
      ∧ root.get (dotted [.key ""]) ≠ Value.ofJson inner := by
  intro inner root route
  have hleads : Leads route root (.string "x") :=
    .member rfl (.member rfl (.item rfl (.member rfl (.here _))))
  have halone : Leads [.key ""] root inner := .member rfl (.here inner)
  have hdots : ∀ k, Step.key k ∈ route → '.' ∉ k.toList := by
    intro k hk
    simp only [route, List.mem_cons, Step.key.injEq, reduceCtorEq, List.not_mem_nil, or_false,
      false_or] at hk
    rcases hk with rfl | rfl | rfl <;> decide
  have hdotsAlone : ∀ k, Step.key k ∈ [Step.key ""] → '.' ∉ k.toList := by
    intro k hk
    obtain rfl := Step.key.inj (List.mem_singleton.mp hk)
    decide
  obtain ⟨hroute, -⟩ := get_dotted hleads hdots
  obtain ⟨hexception, hdocument⟩ := get_dotted halone hdotsAlone
  refine ⟨hleads, rfl, hroute.mpr (by decide), hdocument rfl, ?_⟩
  exact fun h => hexception.mp h rfl

end Json

end Fixture
