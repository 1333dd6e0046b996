import WebhookOperator.Preset.Matching

/-!
# Which presets are picked

`PodPreset.matching` looks at one preset after the other and stops at the first selector that cannot
be used.  When it does not stop, what it picks is a plain filter of the list.  The presets of other
namespaces are passed over unread, so what is picked and where it stops do not depend on them.

* `filterM_eq_ok_iff`: a filter that may fail gives a list when no test fails, and then the filtered one
* `filterM_eq_error_iff`: it fails with the first test that does
* `PodPreset.mem_of_matching`: the presets that are picked are of the pod's namespace
* `PodPreset.exists_matching_eq_error_iff`: when picking fails
* `PodPreset.matching_congr`: presets of other namespaces make no difference
-/

namespace WebhookOperator

section Filter

variable {ε α : Type} {test : α → Except ε Bool}

/-- Whether an item passes a test that may fail. -/
def passes (test : α → Except ε Bool) (item : α) : Bool := (test item).toOption.getD false

theorem passes_of_eq_ok {item : α} {holds : Bool} (h : test item = .ok holds) :
    passes test item = holds := by
  rw [passes, h]
  rfl

theorem filterAuxM_eq (items before : List α) :
    List.filterAuxM test items before =
      (List.filterAuxM test items []).map (· ++ before) := by
  induction items generalizing before with
  | nil => rfl
  | cons item items ih =>
    rw [List.filterAuxM, List.filterAuxM]
    cases test item with
    | error error => rfl
    | ok holds =>
      have hleft := ih (bif holds then item :: before else before)
      have hright := ih (bif holds then [item] else [])
      refine hleft.trans (.trans ?_ (congrArg (Except.map (· ++ before)) hright.symm))
      cases List.filterAuxM test items [] with
      | error error => rfl
      | ok kept => cases holds <;> simp [Except.map]

theorem filterM_cons (item : α) (items : List α) :
    (item :: items).filterM test =
      (test item).bind fun holds =>
        (items.filterM test).map fun kept => if holds then item :: kept else kept := by
  rw [List.filterM, List.filterM, List.filterAuxM]
  cases test item with
  | error error => rfl
  | ok holds =>
    have haux : List.filterAuxM test items (bif holds then [item] else []) =
        (List.filterAuxM test items []).map (· ++ bif holds then [item] else []) :=
      filterAuxM_eq items _
    refine (congrArg (Except.map List.reverse) haux).trans ?_
    cases hrest : List.filterAuxM test items [] with
    | error error => rfl
    | ok kept => cases holds <;> simp [Except.map, Except.bind, Bind.bind, pure, Except.pure]

theorem filterM_eq_ok_iff {items kept : List α} :
    items.filterM test = .ok kept ↔
      (∀ item ∈ items, test item = .ok (passes test item)) ∧ kept = items.filter (passes test) := by
  induction items generalizing kept with
  | nil =>
    have hnil : [].filterM test = .ok [] := rfl
    rw [hnil]
    simp [eq_comm]
  | cons item items ih =>
    rw [filterM_cons, List.forall_mem_cons, List.filter_cons]
    cases htest : test item with
    | error error => simp [Except.bind]
    | ok holds =>
      rw [passes_of_eq_ok htest]
      cases hrest : items.filterM test with
      | error error =>
        have hnot : ¬∀ item ∈ items, test item = .ok (passes test item) := by
          intro hall
          rw [ih.2 ⟨hall, rfl⟩] at hrest
          cases hrest
        simp [Except.bind, Except.map, hnot]
      | ok rest =>
        obtain ⟨hall, rfl⟩ := ih.1 hrest
        have hkept : ((Except.ok holds : Except ε Bool).bind fun holds =>
            (Except.ok (items.filter (passes test)) : Except ε (List α)).map fun kept =>
              if holds then item :: kept else kept) =
            .ok (if holds then item :: items.filter (passes test) else items.filter (passes test)) :=
          rfl
        rw [hkept, Except.ok.injEq]
        exact ⟨fun h => ⟨⟨rfl, hall⟩, h.symm⟩, fun h => h.2.symm⟩

/-- The error is the one of the first test that fails. -/
theorem filterM_eq_error_iff {items : List α} {error : ε} :
    items.filterM test = .error error ↔
      ∃ before item after, items = before ++ item :: after ∧
        (∀ other ∈ before, test other = .ok (passes test other)) ∧ test item = .error error := by
  induction items with
  | nil =>
    have hnil : [].filterM test = .ok [] := rfl
    rw [hnil]
    simp
  | cons item items ih =>
    rw [filterM_cons]
    cases htest : test item with
    | error found =>
      constructor
      · intro h
        cases h
        exact ⟨[], item, items, rfl, by simp, htest⟩
      · rintro ⟨before, failed, after, hsplit, hbefore, hfailed⟩
        cases before with
        | nil =>
          obtain ⟨rfl, rfl⟩ := List.cons.inj hsplit
          rw [htest] at hfailed
          exact congrArg Except.error (Except.error.inj hfailed)
        | cons first before =>
          obtain ⟨rfl, rfl⟩ := List.cons.inj hsplit
          have hfirst := hbefore item List.mem_cons_self
          rw [htest] at hfirst
          cases hfirst
    | ok holds =>
      have hrest : ((Except.ok holds : Except ε Bool).bind fun holds =>
          (items.filterM test).map fun kept => if holds then item :: kept else kept) = .error error ↔
          items.filterM test = .error error := by
        cases items.filterM test <;> simp [Except.bind, Except.map]
      rw [hrest, ih]
      constructor
      · rintro ⟨before, failed, after, rfl, hbefore, hfailed⟩
        refine ⟨item :: before, failed, after, rfl, List.forall_mem_cons.2 ⟨?_, hbefore⟩, hfailed⟩
        rw [passes_of_eq_ok htest, htest]
      · rintro ⟨before, failed, after, hsplit, hbefore, hfailed⟩
        cases before with
        | nil =>
          obtain ⟨rfl, rfl⟩ := List.cons.inj hsplit
          rw [htest] at hfailed
          cases hfailed
        | cons first before =>
          obtain ⟨rfl, rfl⟩ := List.cons.inj hsplit
          exact ⟨before, failed, after, rfl, (List.forall_mem_cons.1 hbefore).2, hfailed⟩

/-- Items that fail the test for another reason do not matter. -/
theorem filterM_filter {mine : α → Bool} {items : List α}
    (h : ∀ item ∈ items, mine item = false → test item = .ok false) :
    (items.filter mine).filterM test = items.filterM test := by
  induction items with
  | nil => rfl
  | cons item items ih =>
    obtain ⟨hitem, hitems⟩ := List.forall_mem_cons.1 h
    have ih := ih hitems
    rw [filterM_cons, List.filter_cons]
    cases hmine : mine item with
    | true => rw [if_pos rfl, filterM_cons, ih]
    | false =>
      rw [if_neg (by decide), ih, hitem hmine]
      cases items.filterM test <;> rfl

/-- It fails when some test does. -/
theorem exists_filterM_eq_error_iff {items : List α} :
    (∃ error, items.filterM test = .error error) ↔
      ∃ item ∈ items, ∃ error, test item = .error error := by
  constructor
  · rintro ⟨error, herror⟩
    obtain ⟨before, item, after, rfl, _, hitem⟩ := filterM_eq_error_iff.1 herror
    exact ⟨item, by simp, error, hitem⟩
  · rintro ⟨item, hmem, error, hitem⟩
    cases hresult : items.filterM test with
    | error found => exact ⟨found, rfl⟩
    | ok kept =>
      have hpasses := (filterM_eq_ok_iff.1 hresult).1 item hmem
      rw [hitem] at hpasses
      cases hpasses

end Filter

namespace LabelSelector

theorem exists_selects_eq_error_iff {selector : LabelSelector} {labels : Dict String} :
    (∃ cause, selector.selects labels = .error cause) ↔
      ∃ cause, selector.requirements = .error cause := by
  rw [selects]
  cases selector.requirements with
  | error cause => exact ⟨fun _ => ⟨cause, rfl⟩, fun _ => ⟨cause, rfl⟩⟩
  | ok requirements =>
    constructor
    · rintro ⟨_, h⟩
      cases h
    · rintro ⟨_, h⟩
      cases h

end LabelSelector

namespace PodPreset

variable {presets matched : List PodPreset} {podNamespace : String} {labels : Dict String}

theorem namespaceName_of_appliesTo {preset : PodPreset}
    (h : preset.appliesTo podNamespace labels = .ok true) :
    preset.metadata.namespaceName = some podNamespace := by
  rw [appliesTo] at h
  split at h
  next hnamespace => exact hnamespace
  · cases h

/-- A preset of another namespace never applies, whatever its selector is. -/
theorem appliesTo_of_ne {preset : PodPreset}
    (h : preset.metadata.namespaceName ≠ some podNamespace) :
    preset.appliesTo podNamespace labels = .ok false := if_neg h

theorem exists_appliesTo_eq_error_iff {preset : PodPreset} :
    (∃ error, preset.appliesTo podNamespace labels = .error error) ↔
      preset.metadata.namespaceName = some podNamespace ∧
        ∃ cause, preset.spec.selector.requirements = .error cause := by
  by_cases hnamespace : preset.metadata.namespaceName = some podNamespace
  · rw [appliesTo, if_pos hnamespace, ← LabelSelector.exists_selects_eq_error_iff]
    cases preset.spec.selector.selects labels with
    | error cause => exact iff_of_true ⟨_, rfl⟩ ⟨hnamespace, cause, rfl⟩
    | ok holds =>
      refine iff_of_false ?_ ?_
      · rintro ⟨error, herror⟩
        cases herror
      · rintro ⟨-, cause, hcause⟩
        cases hcause
  · rw [appliesTo_of_ne hnamespace]
    simp [hnamespace]

theorem mem_of_matching (h : matching presets podNamespace labels = .ok matched)
    {preset : PodPreset} (hmem : preset ∈ matched) :
    preset ∈ presets ∧ preset.metadata.namespaceName = some podNamespace := by
  obtain ⟨htest, rfl⟩ := filterM_eq_ok_iff.1 h
  obtain ⟨hlisted, hholds⟩ := List.mem_filter.1 hmem
  exact ⟨hlisted, namespaceName_of_appliesTo (hholds ▸ htest preset hlisted)⟩

/-- **When picking fails**: some preset of the pod's namespace has a selector that cannot be used. -/
theorem exists_matching_eq_error_iff :
    (∃ error, matching presets podNamespace labels = .error error) ↔
      ∃ preset ∈ presets, preset.metadata.namespaceName = some podNamespace ∧
        ∃ cause, preset.spec.selector.requirements = .error cause := by
  rw [matching, exists_filterM_eq_error_iff]
  exact exists_congr fun _ => and_congr_right fun _ => exists_appliesTo_eq_error_iff

/-- **Presets of other namespaces make no difference.** -/
theorem matching_congr {others : List PodPreset}
    (h : others.filter (·.metadata.namespaceName = some podNamespace) =
      presets.filter (·.metadata.namespaceName = some podNamespace)) :
    matching others podNamespace labels = matching presets podNamespace labels := by
  have hforeign : ∀ listed : List PodPreset, ∀ preset ∈ listed,
      decide (preset.metadata.namespaceName = some podNamespace) = false →
        preset.appliesTo podNamespace labels = .ok false :=
    fun _ _ _ hne => appliesTo_of_ne (of_decide_eq_false hne)
  rw [matching, matching, ← filterM_filter (hforeign others), h, filterM_filter (hforeign presets)]

end PodPreset

end WebhookOperator
