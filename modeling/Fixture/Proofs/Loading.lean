import Mathlib.Data.List.Infix
import Fixture.Proofs.Layers
import Fixture.Proofs.Paths

/-! # Paths through layers

    A path of keys leads through mappings.  Where the upper layer has something
    else than a mapping on a path, the document has the same; where it has
    nothing, the document has what the lower layer alone would have.  Both follow
    from what a merge is, one key after another. -/

namespace Fixture

open Assoc (get?)

/-! ## Paths of keys in a document -/

namespace Setting

/-- What a layer holds at a sequence of keys, all but the last of which lead to
    mappings. -/
def under? : List String → Setting → Option Setting
  | [], s => some s
  | key :: keys, .mapping entries => (get? entries key).bind (under? keys)
  | _ :: _, _ => none

/-- A document has the keys of the settings. -/
theorem get?_entriesToJson (entries : List (String × Setting)) (key : String) :
    get? (entriesToJson entries) key = (get? entries key).map toJson := by
  induction entries with
  | nil => rfl
  | cons e entries ih =>
      obtain ⟨k, s⟩ := e
      rw [entriesToJson, Assoc.get?_cons, Assoc.get?_cons, ih]
      by_cases h : key = k
      · rw [if_pos h, if_pos h]
        rfl
      · rw [if_neg h, if_neg h]

theorem child?_toJson_mapping (entries : List (String × Setting)) (key : String) :
    (mapping entries).toJson.child? key.toList = (get? entries key).map toJson := by
  rw [toJson, Json.child?_key, get?_entriesToJson]

/-- The document of a setting has what the setting holds. -/
theorem descend?_toJson_of_under? {keys : List String} {s v : Setting}
    (h : under? keys s = some v) :
    s.toJson.descend? (keys.map String.toList) = some v.toJson := by
  induction keys generalizing s with
  | nil =>
      obtain rfl := Option.some.inj h
      rfl
  | cons key keys ih =>
      cases s with
      | mapping entries =>
          obtain ⟨u, hu, h⟩ := Option.bind_eq_some_iff.mp h
          rw [List.map_cons, Json.descend?_cons, child?_toJson_mapping, hu]
          exact ih h
      | null | bool | unsigned | signed | float | text | sequence => cases h

/-! ## Paths of keys through a merge -/

/-- **WHAT THE UPPER LAYER HOLDS**, if it is no mapping, stays where it is. -/
theorem Merges.under?_eq {lower upper merged v : Setting} (h : Merges lower upper merged)
    {keys : List String} (hv : under? keys upper = some v) (hmapping : ¬ v.IsMapping) :
    under? keys merged = some v := by
  induction keys generalizing lower upper merged with
  | nil =>
      obtain rfl := Option.some.inj hv
      cases h with
      | mappings => exact absurd (isMapping_mapping _) hmapping
      | replaced => rfl
  | cons key keys ih =>
      cases h with
      | replaced => exact hv
      | @mappings lower upper merged common _ _ onlyUpper both merges =>
          obtain ⟨u, hu, hv⟩ := Option.bind_eq_some_iff.mp hv
          cases hlower : get? lower key with
          | none => exact Option.bind_eq_some_iff.mpr ⟨u, (onlyUpper key hlower).trans hu, hv⟩
          | some a =>
              exact Option.bind_eq_some_iff.mpr
                ⟨common key, both key a u hlower hu, ih (merges key a u hlower hu) hv⟩

/-- The layers have mappings wherever the upper one holds something on the way to
    the end of a path. -/
def BothMappings (keys : List String) (lower upper : Setting) : Prop :=
  ∀ front, front <+: keys → front ≠ keys → ∀ u, under? front upper = some u →
    u.IsMapping ∧ ∃ a, under? front lower = some a ∧ a.IsMapping

/-- **WHAT THE UPPER LAYER DOES NOT HOLD** is what it was in the lower layer. -/
theorem Merges.descend?_eq {lower upper merged : Setting} (h : Merges lower upper merged)
    {keys : List String} (hnone : under? keys upper = none)
    (hboth : BothMappings keys lower upper) :
    merged.toJson.descend? (keys.map String.toList)
      = lower.toJson.descend? (keys.map String.toList) := by
  induction keys generalizing lower upper merged with
  | nil => cases hnone
  | cons key keys ih =>
      obtain ⟨hupper, a, ha, hlower⟩ :=
        hboth [] List.nil_prefix (List.cons_ne_nil key keys).symm upper rfl
      obtain rfl := Option.some.inj ha
      cases h with
      | replaced h => exact absurd ⟨hlower, hupper⟩ h
      | @mappings lower upper merged common _ onlyLower _ both merges =>
          rw [List.map_cons, Json.descend?_cons, Json.descend?_cons, child?_toJson_mapping,
            child?_toJson_mapping]
          cases hu : get? upper key with
          | none => rw [onlyLower key hu]
          | some u =>
              have hnone : under? keys u = none := by rwa [under?, hu] at hnone
              -- the path goes on, so both layers have mappings under the key
              have hne : [key] ≠ key :: keys := by
                intro heq
                rw [← (List.cons.inj heq).2] at hnone
                cases hnone
              obtain ⟨-, a, ha, -⟩ := hboth [key] (List.cons_prefix_cons.mpr
                ⟨rfl, List.nil_prefix⟩) hne u (by rw [under?, hu]; rfl)
              obtain ⟨a', ha', heq⟩ := Option.bind_eq_some_iff.mp ha
              obtain rfl := Option.some.inj heq
              rw [both key a' u ha' hu, ha']
              refine ih (merges key a' u ha' hu) hnone fun front hfront hproper w hw => ?_
              obtain ⟨hw, b, hb, hmapping⟩ := hboth (key :: front)
                (List.cons_prefix_cons.mpr ⟨rfl, hfront⟩)
                (fun heq => hproper (List.cons.inj heq).2) w (by rw [under?, hu]; exact hw)
              refine ⟨hw, b, ?_, hmapping⟩
              rwa [under?, ha'] at hb

end Setting

/-! ## Loading -/

namespace Environment

open Setting (Merges Canonical BothMappings under?)

theorem canonical_of_layer {file text : String} {settings : Settings}
    (h : layer file text = .ok settings) : Canonical (.mapping settings) := by
  rw [layer] at h
  split at h
  · obtain rfl := Except.ok.inj h
    exact .mapping .nil fun _ he => nomatch he
  · split at h
    · cases h
    · rename_i entries hentries
      obtain rfl := Except.ok.inj h
      exact Setting.canonical_of_ofYaml? hentries
    · cases h

/-- The settings of a file are in order. -/
theorem canonical_of_layerAt {file : String} {found : FileTree} {settings : Settings}
    (h : layerAt file found = .ok settings) : Canonical (.mapping settings) := by
  cases found with
  | directory entries => cases h
  | file bytes =>
      rw [layerAt] at h
      split at h
      · exact canonical_of_layer h
      · cases h

/-- The file system finds nothing at the path of a file. -/
def IsMissing (tree : FileTree) (path : String) : Prop :=
  tree.get? path = none ∧ FileTree.isTooLong path = false

/-- Nothing stands at a path that is too long. -/
theorem not_isTooLong_of_get? {tree found : FileTree} {path : String}
    (h : tree.get? path = some found) : FileTree.isTooLong path = false := by
  rw [FileTree.get?] at h
  split at h
  · cases h
  · rename_i hpath
    exact Bool.eq_false_iff.mpr fun hlong => hpath (Or.inr hlong)

/-- What an overlay puts above a base: nothing, if it is not there. -/
def overlayAt (tree : FileTree) (path : String) : Except GatheringFault Settings :=
  match tree.get? path with
  | some found => layerAt path found
  | none => .ok []

/-- What stands at a path as a file is one, and its bytes are read. -/
theorem read_of_get? {tree : FileTree} {path : String} {bytes : ByteArray}
    (h : tree.get? path = some (.file bytes)) :
    tree.system.isFile path = true ∧ tree.system.read path = .ok bytes := by
  simp only [FileTree.system, h, not_isTooLong_of_get? h, Bool.false_eq_true, if_false, and_self]

/-- The overlay of a tree is read where it stands. -/
theorem overlayOf_read {tree : FileTree} {path : String} (hlong : FileTree.isTooLong path = false) :
    overlayOf path (tree.system.read path) = overlayAt tree path := by
  simp only [FileTree.system, hlong, Bool.false_eq_true, if_false, overlayAt]
  cases tree.get? path with
  | none => rfl
  | some found => cases found <;> rfl

/-- What is loaded from settings over settings. -/
theorem load_of_layers {tree : FileTree} {s : Selection} {bytes : ByteArray}
    {lower upper : Settings} (hbase : tree.get? s.base = some (.file bytes))
    (hlower : layerAt s.base (.file bytes) = .ok lower)
    (hlong : FileTree.isTooLong s.overlay = false)
    (hupper : overlayAt tree s.overlay = .ok upper) :
    load tree s = .ok (ofSettings s.name (Setting.mergeEntries lower upper)) := by
  obtain ⟨hfile, hread⟩ := read_of_get? hbase
  have hlower' : layerOf s.base (tree.system.read s.base) = .ok lower := by
    rw [hread]
    exact hlower
  rw [load, loadFrom, if_pos hfile, hlower', overlayOf_read hlong, hupper]
  rfl

/-- **TWO LAYERS** are loaded as what they come to: under a path stands what the
    overlay holds there if it is no mapping, and what the base alone would have
    if the overlay holds nothing there.  An overlay that is missing or blank
    leaves the base as it is. -/
theorem load_eq_merged {tree : FileTree} {s : Selection} {bytes : ByteArray} {lower : Settings}
    (hbase : tree.get? s.base = some (.file bytes))
    (hlower : layerAt s.base (.file bytes) = .ok lower) :
    (∀ found upper, tree.get? s.overlay = some found → layerAt s.overlay found = .ok upper →
      ∃ merged,
        (∀ other, Merges (.mapping lower) (.mapping upper) other ↔ other = .mapping merged)
        ∧ load tree s = .ok (ofSettings s.name merged)
        ∧ ∀ keys : List String, (∀ key ∈ keys, '.' ∉ key.toList) → ".".intercalate keys ≠ "" →
          (∀ v, under? keys (.mapping upper) = some v → ¬ v.IsMapping →
            (ofSettings s.name merged).document.get (".".intercalate keys)
              = Value.ofJson v.toJson)
          ∧ (under? keys (.mapping upper) = none →
            BothMappings keys (.mapping lower) (.mapping upper) →
            (ofSettings s.name merged).document.get (".".intercalate keys)
              = (ofSettings s.name lower).document.get (".".intercalate keys)))
    ∧ (IsMissing tree s.overlay → load tree s = .ok (ofSettings s.name lower))
    ∧ ∀ overlay text, tree.get? s.overlay = some (.file overlay) →
        String.fromUTF8? overlay = some text → text.toList.all Text.isBlank = true →
        load tree s = .ok (ofSettings s.name lower) := by
  refine ⟨?_, ?_, ?_⟩
  · intro found upper hfound hupper
    have hmerges :=
      Setting.merges_merge (canonical_of_layerAt hlower) (canonical_of_layerAt hupper)
    have hoverlay : overlayAt tree s.overlay = .ok upper := by
      rw [overlayAt, hfound]
      exact hupper
    refine ⟨Setting.mergeEntries lower upper,
      fun other => ⟨fun h => h.unique hmerges, fun h => h ▸ hmerges⟩,
      load_of_layers hbase hlower (not_isTooLong_of_get? hfound) hoverlay,
      fun keys hdots hpath => ⟨fun v hv hmapping => ?_, fun hnone hboth => ?_⟩⟩
    · have hentry := hmerges.under?_eq hv hmapping
      rw [Json.get_eq, Json.node?_intercalate hdots hpath]
      exact congrArg (fun node => (node.map Value.ofJson).getD .null)
        (Setting.descend?_toJson_of_under? hentry)
    · rw [Json.get_eq, Json.get_eq, Json.node?_intercalate hdots hpath,
        Json.node?_intercalate hdots hpath]
      exact congrArg (fun node => (node.map Value.ofJson).getD .null)
        (hmerges.descend?_eq hnone hboth)
  · rintro ⟨hnone, hlong⟩
    exact load_of_layers hbase hlower hlong (by rw [overlayAt, hnone])
  · intro overlay text hoverlay htext hblank
    have hnone : overlayAt tree s.overlay = .ok [] := by
      rw [overlayAt, hoverlay]
      change layerAt s.overlay (.file overlay) = _
      rw [layerAt, htext]
      exact if_pos hblank
    exact load_of_layers hbase hlower (not_isTooLong_of_get? hoverlay) hnone

/-- A path of one segment is one step. -/
theorem get?_of_segments {tree : FileTree} {path segment : String}
    (hpath : ¬ (path.toList.head? = some '/' ∨ FileTree.isTooLong path = true))
    (hsegments : FileTree.segments path = [segment]) :
    tree.get? path = FileTree.walk? [] tree [segment] := by
  rw [FileTree.get?, if_neg hpath, hsegments]

/-- In the document of two layers a sequence has replaced a scalar, while what
    stood beside it in the base is still there; without an overlay, or with one of
    blanks, the base has stayed as it was. -/
theorem load_eq_merged_sequence :
    let base := "a: {b: 1, c: x}\nd: 2".toUTF8
    let tree : List (String × FileTree) → FileTree := fun files =>
      .directory (("s.yml", .file base) :: files)
    let s : Selection := ⟨"", "s"⟩
    (∃ merged, load (tree [("s-private.yml", .file "a: {b: [3]}".toUTF8)]) s = .ok merged
      ∧ (merged.document.get "a.b").text = "[3]" ∧ (merged.document.get "a.c").text = "x")
    ∧ ∃ alone, load (tree []) s = .ok alone
      ∧ load (tree [("s-private.yml", .file " \n".toUTF8)]) s = .ok alone
      ∧ (alone.document.get "a.b").text = "1" := by
  intro base tree s
  have hbase : ∀ files, (tree files).get? s.base = some (.file base) := by
    intro files
    have hsegments : FileTree.segments s.base = ["s.yml"] := by decide +kernel
    rw [get?_of_segments (by decide +kernel) hsegments]
    simp [tree, FileTree.walk?]
  have hoverlay : ∀ files, (tree files).get? s.overlay = files.lookup "s-private.yml" := by
    intro files
    have hne : ("s-private.yml" == "s.yml") = false := by decide +kernel
    have hsegments : FileTree.segments s.overlay = ["s-private.yml"] := by decide +kernel
    rw [get?_of_segments (by decide +kernel) hsegments]
    cases h : files.lookup "s-private.yml" <;>
      simp [tree, FileTree.walk?, List.lookup_cons, hne, h]
  obtain ⟨lower, hlower⟩ : ∃ lower, layerAt s.base (.file base) = .ok lower :=
    failure?_eq_none_iff.mp (Option.isNone_iff_eq_none.mp (by decide +kernel))
  obtain ⟨upper, hupper⟩ : ∃ upper, layerAt s.overlay (.file "a: {b: [3]}".toUTF8) = .ok upper :=
    failure?_eq_none_iff.mp (Option.isNone_iff_eq_none.mp (by decide +kernel))
  -- what the files hold at keys, as far as it can be compared
  let held (settings : Except GatheringFault Settings) (keys : List String) :
      Option (Bool × String) :=
    (settings.toOption.bind fun settings => under? keys (.mapping settings)).map fun v =>
      (decide v.IsMapping, (Value.ofJson v.toJson).text)
  have hentry : ∀ {settings} keys isMapping shown,
      held (.ok settings) keys = some (isMapping, shown) →
      ∃ v, under? keys (.mapping settings) = some v ∧ decide v.IsMapping = isMapping
        ∧ (Value.ofJson v.toJson).text = shown := by
    intro settings keys isMapping shown h
    obtain ⟨v, hv, h⟩ := Option.map_eq_some_iff.mp h
    exact ⟨v, hv, (Prod.mk.inj h).1, (Prod.mk.inj h).2⟩
  have hupperAt : ∀ keys, held (.ok upper) keys
      = held (layerAt s.overlay (.file "a: {b: [3]}".toUTF8)) keys := by
    intro keys
    rw [hupper]
  have hlowerAt : ∀ keys, held (.ok lower) keys = held (layerAt s.base (.file base)) keys := by
    intro keys
    rw [hlower]
  have hshown : ∀ path, ((ofSettings s.name lower).document.get path).text
      = ((layerAt s.base (.file base)).toOption.map fun settings =>
        ((ofSettings s.name settings).document.get path).text).getD "" := by
    intro path
    rw [hlower]
    rfl
  refine ⟨?_, ?_⟩
  · obtain ⟨merged, -, hload, hpaths⟩ := (load_eq_merged (hbase
      [("s-private.yml", .file "a: {b: [3]}".toUTF8)]) hlower).1 _ upper (hoverlay _) hupper
    refine ⟨_, hload, ?_, ?_⟩
    · obtain ⟨v, hv, hmapping, hv'⟩ :=
        hentry ["a", "b"] false "[3]" ((hupperAt _).trans (by decide +kernel))
      have hleaf := of_decide_eq_false hmapping
      have hget := (hpaths ["a", "b"] (by decide) (by decide)).1 v hv hleaf
      exact (congrArg Value.text hget).trans hv'
    · have hnone : under? ["a", "c"] (.mapping upper) = none :=
        Option.map_eq_none_iff.mp ((hupperAt ["a", "c"]).trans (by decide +kernel))
      have hboth : BothMappings ["a", "c"] (.mapping lower) (.mapping upper) := by
        intro front hfront hproper u hu
        obtain ⟨a, ha, hamapping, -⟩ := hentry ["a"] true "\x7b\"b\":1,\"c\":\"x\"\x7d"
          ((hlowerAt _).trans (by decide +kernel))
        obtain ⟨b, hb, hbmapping, -⟩ := hentry ["a"] true "\x7b\"b\":[3]\x7d"
          ((hupperAt _).trans (by decide +kernel))
        -- the keys in front of the last one are none or the first
        have hcases : front ∈ ["a", "c"].inits := (List.mem_inits ..).mpr hfront
        simp only [List.inits, List.map_cons, List.map_nil, List.mem_cons, List.not_mem_nil,
          or_false] at hcases
        rcases hcases with rfl | rfl | rfl
        · obtain rfl := Option.some.inj hu
          exact ⟨Setting.isMapping_mapping _, _, rfl, Setting.isMapping_mapping _⟩
        · obtain rfl := Option.some.inj (hu.symm.trans hb)
          exact ⟨of_decide_eq_true hbmapping, a, ha, of_decide_eq_true hamapping⟩
        · exact absurd rfl hproper
      have hget := (hpaths ["a", "c"] (by decide) (by decide)).2 hnone hboth
      exact (congrArg Value.text hget).trans ((hshown "a.c").trans (by decide +kernel))
  · refine ⟨_, (load_eq_merged (hbase []) hlower).2.1 ⟨hoverlay [], by decide +kernel⟩, ?_,
      (hshown "a.b").trans (by decide +kernel)⟩
    exact (load_eq_merged (hbase [("s-private.yml", .file " \n".toUTF8)]) hlower).2.2 _ " \n"
      (hoverlay _) (by decide +kernel) (by decide +kernel)

end Environment

end Fixture
