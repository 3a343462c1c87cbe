import Fixture.Proofs.WholeTag

/-! # Lookups are confined to what a cell names

    Two runs over the same cell are compared.  A pass looks up nothing but the
    contents of the tags it finds, so runs that agree on these stand at the
    same text behind the pass, whatever else their environments or stores hold.
    The environment is read in the first pass only: tags that looked-up values
    bring in later find no way back to it, and the store is read in the second
    pass only. -/

namespace Fixture

open Text

namespace Resolver

/-! ## One pass in two runs -/

/-- A replacement depends on the clock and on what is looked up for it. -/
theorem replacement_congr {r₁ r₂ : Resolver} {k : TagKind} {c : List Char}
    (hclock : r₁.clock = r₂.clock) (h : r₁.lookup k c = r₂.lookup k c) :
    r₁.replacement k c = r₂.replacement k c := by
  cases k with
  | conf | ctxt => rw [replacement, replacement, h]
  | sha256 | base64 => rfl
  | now => rw [replacement, replacement, hclock]

/-- A pass depends on the replacements of the tags it finds. -/
theorem expand_congr {r₁ r₂ : Resolver} {k : TagKind} {s : List Char}
    (h : ∀ c ∈ (Segments.scan k s).contents, r₁.replacement k c = r₂.replacement k c) :
    r₁.expand k s = r₂.expand k s := by
  rw [expand, expand]
  rw [Segments.contents] at h
  generalize (Segments.scan k s).tags = tags at h ⊢
  induction tags generalizing s with
  | nil => rfl
  | cons o tags ih =>
      rw [List.foldlM_cons, List.foldlM_cons, h o.content (List.mem_cons_self ..)]
      refine bind_congr ?_
      intro out
      exact ih (fun c hc => h c (List.mem_cons_of_mem _ hc))

theorem native?_congr {r₁ r₂ : Resolver} {k : TagKind} {s : List Char}
    (h : ∀ c ∈ (Segments.scan k s).contents, r₁.lookup k c = r₂.lookup k c) :
    r₁.native? k s = r₂.native? k s := by
  rw [native?_eq_bind, native?_eq_bind]
  cases hw : wholeTag? k s with
  | none => rfl
  | some c =>
      have hc : c ∈ (Segments.scan k s).contents := by
        rw [scan_of_wholeTag? hw]
        exact List.mem_cons_self ..
      rw [Option.bind_some, Option.bind_some, h c hc]

/-- **ONE PASS**: runs that agree on what the pass looks up, and from its text
    onwards, agree. -/
theorem resolveKinds_cons_congr {r₁ r₂ : Resolver} {k : TagKind} {ks : List TagKind}
    {s : List Char} (hclock : r₁.clock = r₂.clock)
    (h : ∀ c ∈ (Segments.scan k s).contents, r₁.lookup k c = r₂.lookup k c)
    (hlater : ∀ t, r₁.expand k s = .ok t → r₁.resolveKinds ks t = r₂.resolveKinds ks t) :
    r₁.resolveKinds (k :: ks) s = r₂.resolveKinds (k :: ks) s := by
  have hexpand : r₁.expand k s = r₂.expand k s :=
    expand_congr (fun c hc => replacement_congr hclock (h c hc))
  rw [resolveKinds, resolveKinds, ← native?_congr h, ← hexpand]
  cases r₁.native? k s with
  | some v => rfl
  | none =>
      cases ht : r₁.expand k s with
      | error e => rfl
      | ok t => exact hlater t ht

/-- **THE PASSES TO COME**: where the lookups of a list of kinds agree at every
    key, so do the passes of these kinds over every text. -/
theorem resolveKinds_congr {r₁ r₂ : Resolver} {ks : List TagKind}
    (hclock : r₁.clock = r₂.clock)
    (h : ∀ k ∈ ks, ∀ c, r₁.lookup k c = r₂.lookup k c) (s : List Char) :
    r₁.resolveKinds ks s = r₂.resolveKinds ks s := by
  induction ks generalizing s with
  | nil => rfl
  | cons k ks ih =>
      refine resolveKinds_cons_congr hclock (fun c _ => h k (List.mem_cons_self ..) c) ?_
      intro t _
      exact ih (fun k' hk' => h k' (List.mem_cons_of_mem k hk')) t

/-- Runs that agree behind the sentinels agree on the cell. -/
theorem resolve_congr {r₁ r₂ : Resolver} {cell : String}
    (h : r₁.resolveKinds TagKind.order cell.toList
      = r₂.resolveKinds TagKind.order cell.toList) :
    r₁.resolve cell = r₂.resolve cell := by
  rw [resolve, resolve, h]

/-! ## Two environments, two stores -/

/-- The first pass cannot fail, and the store has no part in it. -/
theorem expand_conf_ok (environment : Json) (clock : Moment) (s : List Char) :
    ∃ t, ∀ scenario : Store,
      (⟨environment, scenario, clock⟩ : Resolver).expand .conf s = .ok t := by
  cases h : (⟨environment, Store.empty, clock⟩ : Resolver).expand .conf s with
  | error e =>
      obtain ⟨c, -, e', he⟩ := expand_error_iff.mp ⟨e, h⟩
      cases he
  | ok t =>
      refine ⟨t, ?_⟩
      intro scenario
      rw [← h]
      exact expand_congr (fun c _ => rfl)

/-- **CONFINEMENT**: two environments that agree on the contents of the
    configuration tags of a cell give the cell the same value, and so do two
    stores that agree on the contents of the context tags found behind the
    first pass. -/
theorem resolve_confined (cell : String) (clock : Moment) :
    (∀ (env₁ env₂ : Json) (scenario : Store),
      (∀ c ∈ (Segments.scan .conf cell.toList).contents,
        env₁.get (String.ofList c) = env₂.get (String.ofList c)) →
      (⟨env₁, scenario, clock⟩ : Resolver).resolve cell
        = (⟨env₂, scenario, clock⟩ : Resolver).resolve cell)
    ∧ ∀ environment : Json, ∃ t,
        (∀ scenario : Store,
          (⟨environment, scenario, clock⟩ : Resolver).expand .conf cell.toList = .ok t)
        ∧ ∀ scenario₁ scenario₂ : Store,
          (∀ c ∈ (Segments.scan .ctxt t).contents,
            scenario₁.get (String.ofList c) = scenario₂.get (String.ofList c)) →
          (⟨environment, scenario₁, clock⟩ : Resolver).resolve cell
            = (⟨environment, scenario₂, clock⟩ : Resolver).resolve cell := by
  constructor
  · intro env₁ env₂ scenario h
    refine resolve_congr (resolveKinds_cons_congr rfl h ?_)
    intro t _
    -- behind the first pass no kind looks into the environment
    refine resolveKinds_congr rfl ?_ t
    intro k hk c
    cases k with
    | conf => exact absurd hk (by decide)
    | ctxt | sha256 | base64 | now => rfl
  · intro environment
    obtain ⟨t, ht⟩ := expand_conf_ok environment clock cell.toList
    refine ⟨t, ht, ?_⟩
    intro scenario₁ scenario₂ h
    refine resolve_congr (resolveKinds_cons_congr rfl (fun c _ => rfl) ?_)
    intro t' ht'
    obtain rfl : t = t' := Except.ok.inj ((ht scenario₁).symm.trans ht')
    refine resolveKinds_cons_congr rfl h ?_
    intro u _
    -- behind the second pass none looks into the store
    refine resolveKinds_congr rfl ?_ u
    intro k hk c
    cases k with
    | ctxt => exact absurd hk (by decide)
    | conf | sha256 | base64 | now => rfl

/-- A captured text that names a secret of the environment does not fetch it,
    and what the store holds under other keys does not show. -/
theorem resolve_confined_captured :
    let environment (secret : String) : Json :=
      .object [("host", .string "h"), ("secret", .string secret)]
    let scenario (spare : String) : Store :=
      Store.ofList [("captured", .string "[CONF:secret]"), ("spare", .string spare)]
    let clock : Moment := ⟨0, 0, 0⟩
    let cell := "[CONF:host] [CTXT:captured]"
    (∀ c ∈ (Segments.scan .conf cell.toList).contents,
        (environment "1").get (String.ofList c) = (environment "2").get (String.ofList c))
      ∧ (⟨environment "1", scenario "x", clock⟩ : Resolver).resolve cell
        = (⟨environment "2", scenario "x", clock⟩ : Resolver).resolve cell
      ∧ (∀ c ∈ (Segments.scan .ctxt "h [CTXT:captured]".toList).contents,
        (scenario "x").get (String.ofList c) = (scenario "y").get (String.ofList c))
      ∧ (⟨environment "1", scenario "x", clock⟩ : Resolver).resolve cell
        = (⟨environment "1", scenario "y", clock⟩ : Resolver).resolve cell := by
  intro environment scenario clock cell
  have hconf : ∀ c ∈ (Segments.scan .conf cell.toList).contents,
      (environment "1").get (String.ofList c)
        = (environment "2").get (String.ofList c) := by
    rw [show (Segments.scan .conf cell.toList).contents = ["host".toList] by decide +kernel]
    intro c hc
    rw [List.mem_singleton.mp hc]
    rfl
  have hctxt : ∀ c ∈ (Segments.scan .ctxt "h [CTXT:captured]".toList).contents,
      (scenario "x").get (String.ofList c) = (scenario "y").get (String.ofList c) := by
    rw [show (Segments.scan .ctxt "h [CTXT:captured]".toList).contents
      = ["captured".toList] by decide +kernel]
    intro c hc
    rw [List.mem_singleton.mp hc]
    rfl
  obtain ⟨t, ht, hstores⟩ := (resolve_confined cell clock).2 (environment "1")
  have ht' : some t = some "h [CTXT:captured]".toList := by
    have h := congrArg Except.toOption (ht (scenario "x"))
    rw [show ((⟨environment "1", scenario "x", clock⟩ : Resolver).expand .conf
      cell.toList).toOption = some "h [CTXT:captured]".toList by decide +kernel] at h
    exact h.symm
  obtain rfl := Option.some.inj ht'
  exact ⟨hconf, (resolve_confined cell clock).1 _ _ _ hconf, hctxt, hstores _ _ hctxt⟩

end Resolver

end Fixture
