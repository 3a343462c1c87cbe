import Fixture.Proofs.Loading

/-! # How loading ends

    An environment is loaded if its base is a file and both files have settings.  A base
    that is no file is a fault of its own, whatever the overlay is; all that is wrong with
    what is read, be it the base or the overlay, is a fault of gathering.  Of the overlay
    one fault is passed over: that nothing is found where it would stand.

    It is the reading that says so.  An overlay whose name is too long is not there, but
    reading it fails otherwise, and so does the loading. -/

namespace Fixture.Environment

variable {text : String} {bytes : ByteArray} {found : Except ReadFault ByteArray}

/-! ## What is read -/

/-- The text has settings, if only none: it is blank, or a document with a mapping on
    top. -/
inductive HasSettings (text : String) : Prop
  | blank (h : text.toList.all Text.isBlank = true)
  | mapping {entries : Settings} (h : Setting.ofYaml? text = some (.mapping entries))

/-- What was read is a text that has settings. -/
def Usable (found : Except ReadFault ByteArray) : Prop :=
  ∃ bytes text, found = .ok bytes ∧ String.fromUTF8? bytes = some text ∧ HasSettings text

/-- What can be wrong with a file. -/
inductive Unusable : Except ReadFault ByteArray → Prop
  | unread (fault : ReadFault) : Unusable (.error fault)
  | notText {bytes : ByteArray} (h : String.fromUTF8? bytes = none) : Unusable (.ok bytes)
  | malformed {bytes : ByteArray} {text : String} (htext : String.fromUTF8? bytes = some text)
      (hblank : text.toList.all Text.isBlank = false) (h : Setting.ofYaml? text = none) :
      Unusable (.ok bytes)
  | notMapping {bytes : ByteArray} {text : String} {top : Setting}
      (htext : String.fromUTF8? bytes = some text)
      (hblank : text.toList.all Text.isBlank = false) (h : Setting.ofYaml? text = some top)
      (htop : ¬ top.IsMapping) : Unusable (.ok bytes)

/-- Nothing is in between. -/
theorem usable_or_unusable (found : Except ReadFault ByteArray) :
    Usable found ∨ Unusable found := by
  cases found with
  | error fault => exact Or.inr (.unread fault)
  | ok bytes =>
      cases htext : String.fromUTF8? bytes with
      | none => exact Or.inr (.notText htext)
      | some text =>
          cases hblank : text.toList.all Text.isBlank with
          | true => exact Or.inl ⟨bytes, text, rfl, htext, .blank hblank⟩
          | false =>
              cases htop : Setting.ofYaml? text with
              | none => exact Or.inr (.malformed htext hblank htop)
              | some top =>
                  by_cases hmapping : top.IsMapping
                  · obtain ⟨entries, rfl⟩ := hmapping
                    exact Or.inl ⟨bytes, text, rfl, htext, .mapping htop⟩
                  · exact Or.inr (.notMapping htext hblank htop hmapping)

theorem layer_of_hasSettings (file : String) (h : HasSettings text) :
    ∃ settings, layer file text = .ok settings := by
  rw [layer]
  by_cases hblank : text.toList.all Text.isBlank = true
  · exact ⟨[], if_pos hblank⟩
  · rw [if_neg hblank]
    cases h with
    | blank h => exact absurd h hblank
    | mapping h => exact ⟨_, by rw [h]⟩

/-- A text file is read as what its text is. -/
theorem layerOf_ok (file : String) (htext : String.fromUTF8? bytes = some text) :
    layerOf file (.ok bytes) = layer file text := by
  rw [layerOf, layerAt, htext]

/-- A usable file gives settings. -/
theorem layerOf_of_usable (file : String) (h : Usable found) :
    ∃ settings, layerOf file found = .ok settings := by
  obtain ⟨bytes, text, rfl, htext, h⟩ := h
  rw [layerOf_ok file htext]
  exact layer_of_hasSettings file h

theorem layerOf_of_unusable (file : String) (h : Unusable found) :
    ∃ reason, layerOf file found = .error reason := by
  cases h with
  | unread fault => exact ⟨_, rfl⟩
  | notText h => exact ⟨.notText file, by rw [layerOf, layerAt, h]⟩
  | malformed htext hblank h =>
      rw [layerOf_ok file htext, layer, hblank, h]
      exact ⟨_, rfl⟩
  | @notMapping bytes text top htext hblank h htop =>
      rw [layerOf_ok file htext, layer, hblank, h]
      cases top with
      | mapping entries => exact absurd (Setting.isMapping_mapping entries) htop
      | null | bool | unsigned | signed | float | text | sequence => exact ⟨_, rfl⟩

/-- Only a usable file gives settings. -/
theorem usable_of_layerOf {file : String} {settings : Settings}
    (h : layerOf file found = .ok settings) : Usable found := by
  refine (usable_or_unusable found).resolve_right fun hnot => ?_
  obtain ⟨reason, hreason⟩ := layerOf_of_unusable file hnot
  cases h.symm.trans hreason

/-- An overlay gives settings if it is missing or usable, and is a fault otherwise. -/
theorem overlayOf_cases (file : String) (found : Except ReadFault ByteArray) :
    ((found = .error .missing ∨ Usable found) ∧ ∃ settings, overlayOf file found = .ok settings)
      ∨ ((found ≠ .error .missing ∧ Unusable found)
        ∧ ∃ reason, overlayOf file found = .error reason) := by
  by_cases hmissing : found = .error .missing
  · subst hmissing
    exact Or.inl ⟨Or.inl rfl, [], rfl⟩
  · have hlayer : overlayOf file found = layerOf file found := by
      unfold overlayOf
      split
      · exact absurd rfl hmissing
      · rfl
    rw [hlayer]
    rcases usable_or_unusable found with h | h
    · exact Or.inl ⟨Or.inr h, layerOf_of_usable file h⟩
    · exact Or.inr ⟨⟨hmissing, h⟩, layerOf_of_unusable file h⟩

/-- No file is both. -/
theorem not_unusable_of_usable (h : Usable found) : ¬ Unusable found := by
  intro hnot
  obtain ⟨settings, hsettings⟩ := layerOf_of_usable "" h
  obtain ⟨reason, hreason⟩ := layerOf_of_unusable "" hnot
  cases hsettings.symm.trans hreason

/-! ## Names -/

/-- A text that names what stands in a directory. -/
structure IsName (name : String) : Prop where
  slash : '/' ∉ name.toList
  dots : name ≠ "" ∧ name ≠ "." ∧ name ≠ ".."

/-- A longer text names something unless it has a slash. -/
theorem isName_of_size {name : String} (hslash : '/' ∉ name.toList)
    (hsize : 2 < name.utf8ByteSize) : IsName name := by
  refine ⟨hslash, ?_, ?_, ?_⟩ <;> rintro rfl <;> exact absurd hsize (by decide)

namespace IsName

variable {name : String} (hname : IsName name)
include hname

theorem segments_eq : FileTree.segments name = [name] := by
  rw [FileTree.segments, Text.splitOn_eq, List.splitOn_eq_singleton hname.slash,
    List.map_singleton, String.ofList_toList]
  exact List.filter_cons_of_pos (decide_eq_true ⟨hname.dots.1, hname.dots.2.1⟩)

/-- A name by itself is too long if it is longer than names may be. -/
theorem isTooLong_eq : FileTree.isTooLong name = decide (255 < name.utf8ByteSize) := by
  have hor : 4096 ≤ name.utf8ByteSize ∨ 255 < name.utf8ByteSize ↔ 255 < name.utf8ByteSize := by
    omega
  rw [FileTree.isTooLong, hname.segments_eq, List.any_cons, List.any_nil, Bool.or_false,
    ← Bool.decide_or, decide_eq_decide.mpr hor]

/-- A name leads to what has it in the directory. -/
theorem get?_eq_lookup {entries : List (String × FileTree)} (hsize : name.utf8ByteSize ≤ 255) :
    (FileTree.directory entries).get? name = entries.lookup name := by
  have hpath : ¬ (name.toList.head? = some '/' ∨ FileTree.isTooLong name = true) := by
    rintro (hhead | hlong)
    · exact hname.slash (List.mem_of_mem_head? hhead)
    · rw [hname.isTooLong_eq] at hlong
      exact absurd (of_decide_eq_true hlong) (by omega)
  rw [get?_of_segments hpath hname.segments_eq, FileTree.walk?, if_neg hname.dots.2.2]
  cases entries.lookup name <;> rfl

end IsName

/-! ## Outcomes -/

/-- What is wrong with one layer is wrong with both. -/
theorem combine_error {lower upper : Except GatheringFault Settings}
    (h : (∃ reason, lower = .error reason) ∨ ∃ reason, upper = .error reason) :
    ∃ reason, combine lower upper = .error reason := by
  cases lower <;> cases upper
  case ok.ok => rcases h with ⟨_, h⟩ | ⟨_, h⟩ <;> cases h
  all_goals exact ⟨_, rfl⟩

/-- **THREE WAYS TO END**: which one it is shows in the files. -/
theorem loadFrom_cases (files : FileSystem) (s : Selection) :
    (files.isFile s.base = false ∧ loadFrom files s = .error (.environmentFile s.base))
    ∨ ((files.isFile s.base = true ∧ Usable (files.read s.base)
        ∧ (files.read s.overlay = .error .missing ∨ Usable (files.read s.overlay)))
      ∧ ∃ loaded, loadFrom files s = .ok loaded)
    ∨ ((files.isFile s.base = true ∧ (Unusable (files.read s.base)
        ∨ files.read s.overlay ≠ .error .missing ∧ Unusable (files.read s.overlay)))
      ∧ ∃ reason, loadFrom files s = .error (.gathering reason)) := by
  cases hfile : files.isFile s.base with
  | false =>
      refine Or.inl ⟨rfl, if_neg ?_⟩
      rw [hfile]
      exact Bool.false_ne_true
  | true =>
      -- what is wrong with one of the layers is wrong with both
      have hfault : ((∃ reason, layerOf s.base (files.read s.base) = .error reason)
          ∨ ∃ reason, overlayOf s.overlay (files.read s.overlay) = .error reason) →
          ∃ reason, loadFrom files s = .error (.gathering reason) := by
        intro h
        obtain ⟨reason, hreason⟩ := combine_error h
        exact ⟨reason, by rw [loadFrom, if_pos hfile, hreason]⟩
      rcases usable_or_unusable (files.read s.base) with hbase | hbase
      · rcases overlayOf_cases s.overlay (files.read s.overlay) with ⟨h, upper, hupper⟩ | ⟨h, hupper⟩
        · obtain ⟨lower, hlower⟩ := layerOf_of_usable s.base hbase
          refine Or.inr (Or.inl ⟨⟨rfl, hbase, h⟩, ?_⟩)
          exact ⟨_, by rw [loadFrom, if_pos hfile, hlower, hupper]; rfl⟩
        · exact Or.inr (Or.inr ⟨⟨rfl, Or.inr h⟩, hfault (Or.inr hupper)⟩)
      · exact Or.inr (Or.inr ⟨⟨rfl, Or.inl hbase⟩,
          hfault (Or.inl (layerOf_of_unusable s.base hbase))⟩)

/-- Only a missing overlay is passed over. -/
theorem loadFrom_ne_ok {files : FileSystem} {s : Selection} {fault : ReadFault}
    (hread : files.read s.overlay = .error fault) (hfault : fault ≠ .missing) :
    ¬ ∃ loaded, loadFrom files s = .ok loaded := by
  rintro ⟨loaded, h⟩
  rcases loadFrom_cases files s with
    ⟨-, hload⟩ | ⟨⟨-, -, hmissing | husable⟩, -⟩ | ⟨-, reason, hload⟩
  · cases h.symm.trans hload
  · rw [hread] at hmissing
    exact hfault (Except.error.inj hmissing)
  · exact not_unusable_of_usable husable (hread ▸ .unread fault)
  · cases h.symm.trans hload

/-- **HOW LOADING ENDS**, for all files and settings: without a base the base is at fault;
    with one, and with settings in it and in the overlay, unless nothing is found where
    that would stand, there is an environment; and whatever is wrong with either of them
    otherwise is a fault of gathering.  There is no fourth way. -/
theorem load_ends (files : FileSystem) (s : Selection) :
    (loadFrom files s = .error (.environmentFile s.base) ↔ files.isFile s.base = false)
    ∧ ((∃ loaded, loadFrom files s = .ok loaded)
      ↔ files.isFile s.base = true ∧ Usable (files.read s.base)
        ∧ (files.read s.overlay = .error .missing ∨ Usable (files.read s.overlay)))
    ∧ ((∃ reason, loadFrom files s = .error (.gathering reason))
      ↔ files.isFile s.base = true ∧ (Unusable (files.read s.base)
        ∨ files.read s.overlay ≠ .error .missing ∧ Unusable (files.read s.overlay)))
    ∧ (loadFrom files s = .error (.environmentFile s.base)
      ∨ (∃ loaded, loadFrom files s = .ok loaded)
      ∨ ∃ reason, loadFrom files s = .error (.gathering reason)) := by
  have hfalse : ∀ {P : Prop}, files.isFile s.base = false → ¬ (files.isFile s.base = true ∧ P) :=
    fun hfile h => Bool.false_ne_true (hfile.symm.trans h.1)
  rcases loadFrom_cases files s with
    ⟨hfile, h⟩ | ⟨⟨hfile, hbase, hoverlay⟩, loaded, h⟩ | ⟨⟨hfile, hwrong⟩, reason, h⟩
  · rw [h]
    exact ⟨iff_of_true rfl hfile, iff_of_false nofun (hfalse hfile),
      iff_of_false nofun (hfalse hfile), Or.inl rfl⟩
  · have hright : ¬ (Unusable (files.read s.base)
        ∨ files.read s.overlay ≠ .error .missing ∧ Unusable (files.read s.overlay)) := by
      rintro (hnot | ⟨hmissing, hnot⟩)
      · exact not_unusable_of_usable hbase hnot
      · exact not_unusable_of_usable (hoverlay.resolve_left hmissing) hnot
    rw [h]
    exact ⟨iff_of_false nofun (hfile ▸ nofun), iff_of_true ⟨loaded, rfl⟩ ⟨hfile, hbase, hoverlay⟩,
      iff_of_false nofun (fun h => hright h.2), Or.inr (Or.inl ⟨loaded, rfl⟩)⟩
  · have hright : ¬ (Usable (files.read s.base)
        ∧ (files.read s.overlay = .error .missing ∨ Usable (files.read s.overlay))) := by
      rintro ⟨hbase, hoverlay⟩
      rcases hwrong with hnot | ⟨hmissing, hnot⟩
      · exact not_unusable_of_usable hbase hnot
      · exact not_unusable_of_usable (hoverlay.resolve_left hmissing) hnot
    rw [h]
    exact ⟨iff_of_false nofun (hfile ▸ nofun), iff_of_false nofun (fun h => hright h.2),
      iff_of_true ⟨reason, rfl⟩ ⟨hfile, hwrong⟩, Or.inr (Or.inr ⟨reason, rfl⟩)⟩

/-- A base whose name leaves no room for the name of an overlay is not loaded, though it
    has settings and nothing stands where the overlay would. -/
theorem load_ends_without_overlay :
    let name := String.ofList (List.replicate 250 'x')
    let tree : FileTree := .directory [(name ++ ".yml", .file "a: 1".toUTF8)]
    let s : Selection := ⟨"", name⟩
    ¬ ((∃ loaded, load tree s = .ok loaded)
      ↔ tree.system.isFile s.base = true ∧ Usable (tree.system.read s.base)
        ∧ ∀ found, tree.get? s.overlay = some found → Usable (tree.system.read s.overlay)) := by
  intro name tree s hclaim
  have hslash : ∀ back : String, '/' ∉ back.toList → '/' ∉ (name ++ back).toList := by
    intro back hback
    rw [String.toList_append, List.mem_append, String.toList_ofList]
    exact not_or.mpr ⟨fun h => absurd (List.eq_of_mem_replicate h) (by decide), hback⟩
  have hsizes : (name ++ ".yml").utf8ByteSize = 254
      ∧ (name ++ "-private.yml").utf8ByteSize = 262 := by decide +kernel
  clear_value name
  have hbase : s.base = name ++ ".yml" := if_pos (Or.inr rfl)
  have hoverlay : s.overlay = name ++ "-private.yml" := if_pos (Or.inr rfl)
  have hbaseName := isName_of_size (hslash ".yml" (by decide)) (by omega)
  have hoverlayName := isName_of_size (hslash "-private.yml" (by decide)) (by omega)
  have hfound : tree.get? s.base = some (.file "a: 1".toUTF8) := by
    rw [hbase, hbaseName.get?_eq_lookup (by omega)]
    exact List.lookup_cons_self
  have hlong : FileTree.isTooLong s.overlay = true := by
    rw [hoverlay, hoverlayName.isTooLong_eq]
    exact decide_eq_true (by omega)
  have hnone : tree.get? s.overlay = none := if_pos (Or.inr hlong)
  obtain ⟨hfile, hread⟩ := read_of_get? hfound
  have husable : Usable (tree.system.read s.base) := by
    obtain ⟨settings, hsettings⟩ : ∃ settings, layerOf "" (.ok "a: 1".toUTF8) = .ok settings :=
      failure?_eq_none_iff.mp (Option.isNone_iff_eq_none.mp (by decide +kernel))
    rw [hread]
    exact usable_of_layerOf hsettings
  have hunread : tree.system.read s.overlay = .error .nameTooLong := if_pos hlong
  refine loadFrom_ne_ok hunread nofun (hclaim.mpr ⟨hfile, husable, fun found h => ?_⟩)
  rw [hnone] at h
  cases h

end Fixture.Environment
