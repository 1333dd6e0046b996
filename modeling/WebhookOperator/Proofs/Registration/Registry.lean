import Mathlib.Data.List.Nodup
import WebhookOperator.Registration.Registry

/-!
# Registries without ambiguity

A descriptor is added to a registry only if neither its name nor its path is taken.  So in a registry
that was made by additions no name and no path occurs twice, and a path leads to the one descriptor
that has it.

Descriptors may also be added in place, one call after the other, with calls that are refused among
them.  A refused call leaves no trace: what is taken is what the calls before it have put there.

* `Registry.add_eq_ok_iff`: when a descriptor is added
* `Registry.Unambiguous.add`: an addition keeps names and paths apart
* `Registry.unambiguous_of_ofList`: so they are apart in every registry
* `Registry.Unambiguous.byPath?_eq_some_iff`: the path of a descriptor leads to it, and to no other
* `Registry.refusal?_eq_iff`: what a call answers
* `Registry.called_of_refused`, `Registry.descriptors_of_accepted`: what a call leaves
* `Registry.calls_exactly`: what any calls leave, and what the next one answers
-/

namespace WebhookOperator.Registry

/-- Names and paths occur once each. -/
structure Unambiguous (registry : Registry) : Prop where
  names : (registry.descriptors.map (·.name)).Nodup
  paths : (registry.descriptors.map (·.path)).Nodup

theorem add_eq_ok_iff {registry added : Registry} {descriptor : Descriptor} :
    registry.add descriptor = .ok added ↔
      descriptor.name ∉ registry.descriptors.map (·.name) ∧
      descriptor.path ∉ registry.descriptors.map (·.path) ∧
      added = ⟨registry.descriptors ++ [descriptor]⟩ := by
  have hname : (registry.descriptors.any (·.name == descriptor.name)) = true ↔
      descriptor.name ∈ registry.descriptors.map (·.name) := by simp
  have hpath : (registry.descriptors.any (·.path == descriptor.path)) = true ↔
      descriptor.path ∈ registry.descriptors.map (·.path) := by simp
  rw [add]
  simp only [hname, hpath]
  split
  next htaken => simp [htaken]
  next hfree =>
    split
    next htaken => simp [htaken]
    next hfree' => simp [hfree, hfree', eq_comm]

theorem nodup_map_append_singleton {key : Descriptor → String} {descriptors : List Descriptor}
    {descriptor : Descriptor} (h : (descriptors.map key).Nodup)
    (hnew : key descriptor ∉ descriptors.map key) : ((descriptors ++ [descriptor]).map key).Nodup := by
  rw [List.map_append, List.map_singleton]
  exact h.append (List.nodup_singleton _) (List.disjoint_singleton.2 hnew)

theorem Unambiguous.add {registry added : Registry} (h : registry.Unambiguous)
    {descriptor : Descriptor} (hadd : registry.add descriptor = .ok added) : added.Unambiguous := by
  obtain ⟨hname, hpath, rfl⟩ := add_eq_ok_iff.1 hadd
  exact ⟨nodup_map_append_singleton h.names hname, nodup_map_append_singleton h.paths hpath⟩

theorem unambiguous_of_foldlM {descriptors : List Descriptor} {registry made : Registry}
    (hregistry : registry.Unambiguous) (h : descriptors.foldlM Registry.add registry = .ok made) :
    made.descriptors = registry.descriptors ++ descriptors ∧ made.Unambiguous := by
  induction descriptors generalizing registry with
  | nil =>
    cases h
    exact ⟨(List.append_nil _).symm, hregistry⟩
  | cons descriptor descriptors ih =>
    rw [List.foldlM_cons] at h
    cases hadd : registry.add descriptor with
    | error error =>
      rw [hadd] at h
      cases h
    | ok added =>
      rw [hadd] at h
      obtain ⟨hmade, hunambiguous⟩ := ih (hregistry.add hadd) h
      obtain ⟨_, _, rfl⟩ := add_eq_ok_iff.1 hadd
      exact ⟨by rw [hmade, List.append_assoc, List.singleton_append], hunambiguous⟩

/-- **A registry has the descriptors that were added, without ambiguity.** -/
theorem unambiguous_of_ofList {descriptors : List Descriptor} {registry : Registry}
    (h : ofList descriptors = .ok registry) :
    registry.descriptors = descriptors ∧ registry.Unambiguous := by
  have hempty : ({} : Registry).Unambiguous := ⟨List.nodup_nil, List.nodup_nil⟩
  exact unambiguous_of_foldlM hempty h

theorem Unambiguous.byPath?_path {registry : Registry} (h : registry.Unambiguous)
    {descriptor : Descriptor} (hmem : descriptor ∈ registry.descriptors) :
    registry.byPath? descriptor.path = some descriptor := by
  have hfound : (registry.byPath? descriptor.path).isSome :=
    List.find?_isSome.2 ⟨descriptor, hmem, beq_self_eq_true _⟩
  obtain ⟨found, hfound⟩ := Option.isSome_iff_exists.1 hfound
  have hpath : found.path = descriptor.path := by simpa using List.find?_some hfound
  rw [hfound, List.inj_on_of_nodup_map h.paths (List.mem_of_find?_eq_some hfound) hmem hpath]

/-- What is found under a path. -/
theorem Unambiguous.byPath?_eq_some_iff {registry : Registry} (h : registry.Unambiguous)
    {path : String} {descriptor : Descriptor} :
    registry.byPath? path = some descriptor ↔
      descriptor ∈ registry.descriptors ∧ descriptor.path = path := by
  constructor
  · intro hfound
    exact ⟨List.mem_of_find?_eq_some hfound, by simpa using List.find?_some hfound⟩
  · rintro ⟨hmem, rfl⟩
    exact h.byPath?_path hmem

theorem byPath?_eq_none_iff {registry : Registry} {path : String} :
    registry.byPath? path = none ↔ path ∉ registry.descriptors.map (·.path) := by
  simp [byPath?]

/-! ### Calls -/

/-- What a call that registers a descriptor answers: nothing, or why the descriptor is refused. -/
def refusal? (registry : Registry) (descriptor : Descriptor) : Option RegistryError :=
  match (register descriptor).run registry with
  | .ok _ _ => none
  | .error error _ => some error

/-- The registry after a call that registers a descriptor, whatever it answers. -/
def called (registry : Registry) (descriptor : Descriptor) : Registry :=
  match (register descriptor).run registry with
  | .ok _ added => added
  | .error _ kept => kept

/-- An addition in place is an addition, and a registry that refuses it is left as it is. -/
theorem run_register (registry : Registry) (descriptor : Descriptor) :
    (register descriptor).run registry =
      match registry.add descriptor with
      | .ok added => .ok () added
      | .error error => .error error registry := by
  cases hadd : registry.add descriptor with
  | ok added =>
    simp [register, hadd]
    rfl
  | error error =>
    simp [register, hadd]
    rfl

theorem call_cases (registry : Registry) (descriptor : Descriptor) :
    (∃ error, registry.add descriptor = .error error ∧
      registry.refusal? descriptor = some error ∧ registry.called descriptor = registry) ∨
    (registry.add descriptor = .ok (registry.called descriptor) ∧
      registry.refusal? descriptor = none) := by
  rw [refusal?, called, run_register]
  cases hadd : registry.add descriptor with
  | ok added => exact .inr ⟨rfl, rfl⟩
  | error error => exact .inl ⟨error, rfl, rfl, rfl⟩

/-- How a call is to be answered when some descriptors are registered already.  That the name is taken
goes before that the path is. -/
inductive Answer (registered : List Descriptor) (descriptor : Descriptor) :
    Option RegistryError → Prop
  | duplicateName (taken : descriptor.name ∈ registered.map (·.name)) :
      Answer registered descriptor (some (.duplicateName descriptor.name))
  | duplicatePath (free : descriptor.name ∉ registered.map (·.name))
      (taken : descriptor.path ∈ registered.map (·.path)) :
      Answer registered descriptor (some (.duplicatePath descriptor.path))
  | accepted (freeName : descriptor.name ∉ registered.map (·.name))
      (freePath : descriptor.path ∉ registered.map (·.path)) : Answer registered descriptor none

theorem answer_refusal? (registry : Registry) (descriptor : Descriptor) :
    Answer registry.descriptors descriptor (registry.refusal? descriptor) := by
  obtain ⟨error, hadd, hrefused, _⟩ | ⟨hadd, haccepted⟩ := call_cases registry descriptor
  · rw [hrefused]
    rw [add] at hadd
    split at hadd
    next htaken =>
      cases hadd
      exact .duplicateName (by simpa using htaken)
    next hfree =>
      split at hadd
      next htaken =>
        cases hadd
        exact .duplicatePath (by simpa using hfree) (by simpa using htaken)
      next => cases hadd
  · rw [haccepted]
    obtain ⟨hname, hpath, _⟩ := add_eq_ok_iff.1 hadd
    exact .accepted hname hpath

/-- There is one answer to a call. -/
theorem Answer.unique {registered : List Descriptor} {descriptor : Descriptor}
    {answer other : Option RegistryError} (h : Answer registered descriptor answer)
    (h' : Answer registered descriptor other) : answer = other := by
  cases h with
  | duplicateName taken =>
    cases h' with
    | duplicateName _ => rfl
    | duplicatePath free _ | accepted free _ => exact absurd taken free
  | duplicatePath free taken =>
    cases h' with
    | duplicateName taken' => exact absurd taken' free
    | duplicatePath _ _ => rfl
    | accepted _ freePath => exact absurd taken freePath
  | accepted freeName freePath =>
    cases h' with
    | duplicateName taken => exact absurd taken freeName
    | duplicatePath _ taken => exact absurd taken freePath
    | accepted _ _ => rfl

/-- **What a call answers.** -/
theorem refusal?_eq_iff {registry : Registry} {descriptor : Descriptor}
    {answer : Option RegistryError} :
    registry.refusal? descriptor = answer ↔ Answer registry.descriptors descriptor answer := by
  constructor
  · rintro rfl
    exact answer_refusal? registry descriptor
  · intro h
    exact (answer_refusal? registry descriptor).unique h

theorem called_of_refused {registry : Registry} {descriptor : Descriptor} {error : RegistryError}
    (h : registry.refusal? descriptor = some error) : registry.called descriptor = registry := by
  obtain ⟨_, _, _, hkept⟩ | ⟨_, haccepted⟩ := call_cases registry descriptor
  · exact hkept
  · cases h.symm.trans haccepted

theorem add_of_accepted {registry : Registry} {descriptor : Descriptor}
    (h : registry.refusal? descriptor = none) :
    registry.add descriptor = .ok (registry.called descriptor) := by
  obtain ⟨_, _, hrefused, _⟩ | ⟨hadd, _⟩ := call_cases registry descriptor
  · cases h.symm.trans hrefused
  · exact hadd

theorem descriptors_of_accepted {registry : Registry} {descriptor : Descriptor}
    (h : registry.refusal? descriptor = none) :
    (registry.called descriptor).descriptors = registry.descriptors ++ [descriptor] := by
  obtain ⟨_, _, hcalled⟩ := add_eq_ok_iff.1 (add_of_accepted h)
  rw [hcalled]

theorem Unambiguous.called {registry : Registry} (h : registry.Unambiguous)
    (descriptor : Descriptor) : (registry.called descriptor).Unambiguous := by
  cases hrefusal : registry.refusal? descriptor with
  | none => exact h.add (add_of_accepted hrefusal)
  | some error =>
    rw [called_of_refused hrefusal]
    exact h

/-! ### Calls one after the other -/

/-- The registry after calls, whatever they answer. -/
def calledEach (registry : Registry) (calls : List Descriptor) : Registry :=
  calls.foldl called registry

/-- Calls with their answers. -/
def answers (registry : Registry) : List Descriptor → List (Descriptor × Option RegistryError)
  | [] => []
  | descriptor :: calls =>
    (descriptor, registry.refusal? descriptor) :: answers (registry.called descriptor) calls

/-- The descriptors that calls on an empty registry have registered: those of the calls that are not
refused, in the order of the calls. -/
def accepted (calls : List Descriptor) : List Descriptor :=
  ((answers {} calls).filter (·.2.isNone)).map (·.1)

theorem Unambiguous.calledEach {registry : Registry} (h : registry.Unambiguous)
    (calls : List Descriptor) : (registry.calledEach calls).Unambiguous := by
  induction calls generalizing registry with
  | nil => exact h
  | cons descriptor calls ih => exact ih (h.called descriptor)

theorem descriptors_calledEach (registry : Registry) (calls : List Descriptor) :
    (registry.calledEach calls).descriptors =
      registry.descriptors ++ ((registry.answers calls).filter (·.2.isNone)).map (·.1) := by
  induction calls generalizing registry with
  | nil => exact (List.append_nil _).symm
  | cons descriptor calls ih =>
    have hrest := ih (registry.called descriptor)
    rw [answers]
    cases hrefusal : registry.refusal? descriptor with
    | none =>
      rw [descriptors_of_accepted hrefusal, List.append_assoc] at hrest
      exact hrest
    | some error =>
      rw [called_of_refused hrefusal] at hrest ⊢
      rw [calledEach, List.foldl_cons, called_of_refused hrefusal]
      exact hrest

theorem calledEach_append_singleton (registry : Registry) (calls : List Descriptor)
    (descriptor : Descriptor) :
    registry.calledEach (calls ++ [descriptor]) = (registry.calledEach calls).called descriptor :=
  List.foldl_append

/-- **What any calls leave.**  The registry has the descriptors of the calls that were not refused, in
their order.  Names and paths occur once each in it, so a path leads to the one descriptor that has it
and every other path to none.  The next call is refused exactly if the name or else the path is one of
an accepted descriptor; then the registry stays as it is. -/
theorem calls_exactly (calls : List Descriptor) :
    (calledEach {} calls).descriptors = accepted calls ∧
    (calledEach {} calls).Unambiguous ∧
    (∀ path descriptor, (calledEach {} calls).byPath? path = some descriptor ↔
      descriptor ∈ accepted calls ∧ descriptor.path = path) ∧
    (∀ path, (calledEach {} calls).byPath? path = none ↔ path ∉ (accepted calls).map (·.path)) ∧
    (∀ descriptor answer, (calledEach {} calls).refusal? descriptor = answer ↔
      Answer (accepted calls) descriptor answer) ∧
    ∀ descriptor error, (calledEach {} calls).refusal? descriptor = some error →
      calledEach {} (calls ++ [descriptor]) = calledEach {} calls := by
  have hempty : ({} : Registry).Unambiguous := ⟨List.nodup_nil, List.nodup_nil⟩
  have hunambiguous := hempty.calledEach calls
  have hdescriptors : (calledEach {} calls).descriptors = accepted calls :=
    descriptors_calledEach {} calls
  rw [← hdescriptors]
  refine ⟨rfl, hunambiguous, ?_, ?_, ?_, ?_⟩
  · intro path descriptor
    exact hunambiguous.byPath?_eq_some_iff
  · intro path
    exact byPath?_eq_none_iff
  · intro descriptor answer
    exact refusal?_eq_iff
  · intro descriptor error hrefused
    rw [calledEach_append_singleton]
    exact called_of_refused hrefused

/-- The path of a descriptor that was refused for its name is still free. -/
example : accepted [.podPreset, { Descriptor.podPreset with path := "/pods" },
      { Descriptor.operandRequest with path := "/pods" }] =
    [.podPreset, { Descriptor.operandRequest with path := "/pods" }] := by
  decide

end WebhookOperator.Registry
