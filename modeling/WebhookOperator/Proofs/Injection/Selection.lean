import WebhookOperator.Proofs.Injection.Matching

/-!
# What selectors mean

A selector asks for pairs of key and value, and its expressions ask for more.  This file says what each
of them asks for, apart from the conditions that a selector is turned into, and that the presets that
are picked are those whose selectors labels satisfy.  A selector with an expression that means nothing
stops the picking, also where the labels fail another of its conditions.

* `LabelRequirement.Usable`, `LabelRequirement.Holds`: which expressions mean something, and what
* `LabelSelector.Satisfied`: labels with all that a selector asks for
* `ofExpression_cases`, `selects_cases`: what becomes of expressions and of selectors
* `PodPreset.matching_exactly`: which presets are picked, and which one stops the picking
-/

namespace WebhookOperator

/-! ### Expressions -/

namespace LabelRequirement

/-- An expression means something: its operator is known, and one that compares comes with a list of
values.  The list may be empty; then it is a list in which nothing is found. -/
def Usable (expression : LabelRequirement) : Prop :=
  (expression.operator = "In" ∨ expression.operator = "NotIn") ∧ expression.values.isSome ∨
    expression.operator = "Exists" ∨ expression.operator = "DoesNotExist"

instance (expression : LabelRequirement) : Decidable expression.Usable :=
  inferInstanceAs (Decidable (_ ∧ _ ∨ _ ∨ _))

def Holds (labels : Dict String) (expression : LabelRequirement) : Prop :=
  (expression.operator = "In" ∧
      ∃ values ∈ expression.values, ∃ value ∈ labels.get? expression.key, value ∈ values) ∨
    (expression.operator = "NotIn" ∧
      ∃ values ∈ expression.values, ∀ value ∈ labels.get? expression.key, value ∉ values) ∨
    (expression.operator = "Exists" ∧ (labels.get? expression.key).isSome) ∨
    (expression.operator = "DoesNotExist" ∧ labels.get? expression.key = none)

instance (labels : Dict String) (expression : LabelRequirement) :
    Decidable (expression.Holds labels) :=
  inferInstanceAs (Decidable (_ ∧ _ ∨ _ ∧ _ ∨ _ ∧ _ ∨ _ ∧ _))

@[simp] theorem holds_in (labels : Dict String) (key : String) (values : List String) :
    Holds labels ⟨key, "In", some values⟩ ↔ ∃ value ∈ labels.get? key, value ∈ values := by
  simp [Holds]

@[simp] theorem holds_notIn (labels : Dict String) (key : String) (values : List String) :
    Holds labels ⟨key, "NotIn", some values⟩ ↔ ∀ value ∈ labels.get? key, value ∉ values := by
  simp [Holds]

@[simp] theorem holds_exists (labels : Dict String) (key : String) (values : Option (List String)) :
    Holds labels ⟨key, "Exists", values⟩ ↔ (labels.get? key).isSome := by
  simp [Holds]

@[simp] theorem holds_doesNotExist (labels : Dict String) (key : String)
    (values : Option (List String)) :
    Holds labels ⟨key, "DoesNotExist", values⟩ ↔ labels.get? key = none := by
  simp [Holds]

end LabelRequirement

/-- **What becomes of an expression**: the condition that it asks for, or an error if it means
nothing. -/
theorem Requirement.ofExpression_cases (expression : LabelRequirement) :
    (∃ requirement, ofExpression expression = .ok requirement ∧ expression.Usable ∧
      ∀ labels, requirement.holds labels = true ↔ expression.Holds labels) ∨
    (∃ cause, ofExpression expression = .error cause ∧ ¬expression.Usable) := by
  obtain ⟨key, operator, values⟩ := expression
  unfold ofExpression
  -- by the equations of the function; the last one takes what none of the others does
  split
  next listed hoperator hvalues =>
    obtain rfl : operator = "In" := hoperator
    obtain rfl : values = some listed := hvalues
    refine Or.inl ⟨_, rfl, by simp [LabelRequirement.Usable], ?_⟩
    intro labels
    rw [LabelRequirement.holds_in, holds]
    cases labels.get? key <;> simp
  next hoperator hvalues =>
    obtain rfl : operator = "In" := hoperator
    obtain rfl : values = none := hvalues
    exact Or.inr ⟨_, rfl, by simp [LabelRequirement.Usable]⟩
  next listed hoperator hvalues =>
    obtain rfl : operator = "NotIn" := hoperator
    obtain rfl : values = some listed := hvalues
    refine Or.inl ⟨_, rfl, by simp [LabelRequirement.Usable], ?_⟩
    intro labels
    rw [LabelRequirement.holds_notIn, holds]
    cases labels.get? key <;> simp
  next hoperator hvalues =>
    obtain rfl : operator = "NotIn" := hoperator
    obtain rfl : values = none := hvalues
    exact Or.inr ⟨_, rfl, by simp [LabelRequirement.Usable]⟩
  next hoperator =>
    obtain rfl : operator = "Exists" := hoperator
    refine Or.inl ⟨_, rfl, by simp [LabelRequirement.Usable], ?_⟩
    intro labels
    rw [LabelRequirement.holds_exists, holds, Dict.contains]
  next hoperator =>
    obtain rfl : operator = "DoesNotExist" := hoperator
    refine Or.inl ⟨_, rfl, by simp [LabelRequirement.Usable], ?_⟩
    intro labels
    rw [LabelRequirement.holds_doesNotExist, holds, Dict.contains]
    simp
  next hpresent hmissing hin hinNone hnotIn hnotInNone =>
    refine Or.inr ⟨_, rfl, ?_⟩
    rintro (⟨hin' | hnotIn', -⟩ | hpresent' | hmissing')
    · cases values with
      | none => exact hinNone hin' rfl
      | some listed => exact hin listed hin' rfl
    · cases values with
      | none => exact hnotInNone hnotIn' rfl
      | some listed => exact hnotIn listed hnotIn' rfl
    · exact hpresent hpresent'
    · exact hmissing hmissing'

/-! ### Selectors -/

namespace LabelSelector

/-- Every expression of the selector means something. -/
def Usable (selector : LabelSelector) : Prop :=
  ∀ expression ∈ selector.matchExpressions.getD [], expression.Usable

/-- Labels with every pair and for every expression of the selector. -/
def Satisfied (selector : LabelSelector) (labels : Dict String) : Prop :=
  (∀ pair ∈ (selector.matchLabels.getD .empty).entries, labels.get? pair.1 = some pair.2) ∧
    ∀ expression ∈ selector.matchExpressions.getD [], expression.Holds labels

def AsksNothing (selector : LabelSelector) : Prop :=
  selector.matchLabels.getD .empty = .empty ∧ selector.matchExpressions.getD [] = []

theorem AsksNothing.satisfied {selector : LabelSelector} (h : selector.AsksNothing)
    (labels : Dict String) : selector.Satisfied labels := by
  obtain ⟨hpairs, hexpressions⟩ := h
  rw [Satisfied, hpairs, hexpressions]
  constructor
  · intro pair hmem
    exact absurd hmem List.not_mem_nil
  · intro expression hmem
    exact absurd hmem List.not_mem_nil

instance (selector : LabelSelector) (labels : Dict String) :
    Decidable (selector.Satisfied labels) :=
  inferInstanceAs (Decidable ((∀ pair ∈ (selector.matchLabels.getD .empty).entries,
      labels.get? pair.1 = some pair.2) ∧
    ∀ expression ∈ selector.matchExpressions.getD [], expression.Holds labels))

/-- The conditions that the expressions of a selector ask for, or an error if one of them means
nothing. -/
theorem mapM_ofExpression_cases (expressions : List LabelRequirement) :
    (∃ requirements, expressions.mapM Requirement.ofExpression = .ok requirements ∧
      (∀ expression ∈ expressions, expression.Usable) ∧
      ∀ labels, (∀ requirement ∈ requirements, requirement.holds labels = true) ↔
        ∀ expression ∈ expressions, expression.Holds labels) ∨
    ∃ cause, expressions.mapM Requirement.ofExpression = .error cause ∧
      ¬∀ expression ∈ expressions, expression.Usable := by
  induction expressions with
  | nil => exact Or.inl ⟨[], rfl, by simp, by simp⟩
  | cons expression expressions ih =>
    rw [List.mapM_cons, List.forall_mem_cons]
    rcases Requirement.ofExpression_cases expression with
      ⟨requirement, hok, husable, hholds⟩ | ⟨cause, herror, hunusable⟩
    · rw [hok]
      rcases ih with ⟨requirements, hrest, husableRest, hholdsRest⟩ | ⟨cause, hrest, hunusable⟩
      · refine Or.inl ⟨requirement :: requirements, ?_, ⟨husable, husableRest⟩, ?_⟩
        · rw [hrest]
          rfl
        · intro labels
          rw [List.forall_mem_cons, List.forall_mem_cons, hholds, hholdsRest]
      · refine Or.inr ⟨cause, ?_, ?_⟩
        · rw [hrest]
          rfl
        · rintro ⟨-, hall⟩
          exact hunusable hall
    · refine Or.inr ⟨cause, ?_, ?_⟩
      · rw [herror]
        rfl
      · rintro ⟨hfirst, -⟩
        exact hunusable hfirst

/-- **What becomes of a selector**: whether labels satisfy it, or an error if one of its expressions
means nothing. -/
theorem selects_cases (selector : LabelSelector) (labels : Dict String) :
    (selector.selects labels = .ok (decide (selector.Satisfied labels)) ∧ selector.Usable) ∨
      ∃ cause, selector.selects labels = .error cause ∧ ¬selector.Usable := by
  rw [selects, requirements]
  rcases mapM_ofExpression_cases (selector.matchExpressions.getD []) with
    ⟨asked, hok, husable, hholds⟩ | ⟨cause, herror, hunusable⟩
  · refine Or.inl ⟨?_, husable⟩
    -- the walk asks for the expressions before the pairs
    have hsatisfied : ((asked ++ (selector.matchLabels.getD .empty).entries.map
        fun pair => Requirement.equal pair.1 pair.2).all (·.holds labels)) =
        decide (selector.Satisfied labels) := by
      rw [Bool.eq_iff_iff, decide_eq_true_iff, List.all_eq_true, List.forall_mem_append, hholds,
        List.forall_mem_map, Satisfied, and_comm]
      simp only [Requirement.holds, beq_iff_eq]
    rw [hok, ← hsatisfied]
    rfl
  · refine Or.inr ⟨cause, ?_, hunusable⟩
    rw [herror]
    rfl

end LabelSelector

/-! ### Presets -/

namespace PodPreset

/-- The preset is of the namespace and its selector cannot be used. -/
def Unusable (podNamespace : String) (preset : PodPreset) : Prop :=
  preset.metadata.namespaceName = some podNamespace ∧ ¬preset.spec.selector.Usable

/-- The preset is of the namespace and the labels satisfy its selector. -/
def Picks (podNamespace : String) (labels : Dict String) (preset : PodPreset) : Prop :=
  preset.metadata.namespaceName = some podNamespace ∧ preset.spec.selector.Satisfied labels

instance (podNamespace : String) (labels : Dict String) (preset : PodPreset) :
    Decidable (preset.Picks podNamespace labels) :=
  inferInstanceAs (Decidable (_ ∧ _))

variable {presets : List PodPreset} {podNamespace : String} {labels : Dict String}

theorem appliesTo_cases (preset : PodPreset) (podNamespace : String) (labels : Dict String) :
    (preset.appliesTo podNamespace labels = .ok (decide (preset.Picks podNamespace labels)) ∧
      ¬preset.Unusable podNamespace) ∨
    ∃ error, preset.appliesTo podNamespace labels = .error error ∧ error.preset = preset.name ∧
      preset.Unusable podNamespace := by
  by_cases hnamespace : preset.metadata.namespaceName = some podNamespace
  · rw [appliesTo, if_pos hnamespace]
    rcases preset.spec.selector.selects_cases labels with ⟨hok, husable⟩ | ⟨cause, herror, hunusable⟩
    · refine Or.inl ⟨?_, fun h => h.2 husable⟩
      have hpicks : decide (preset.spec.selector.Satisfied labels) =
          decide (preset.Picks podNamespace labels) := by
        simp [Picks, hnamespace]
      rw [hok, hpicks]
      rfl
    · refine Or.inr ⟨⟨preset.name, cause⟩, ?_, rfl, hnamespace, hunusable⟩
      rw [herror]
      rfl
  · refine Or.inl ⟨?_, fun h => hnamespace h.1⟩
    rw [appliesTo_of_ne hnamespace]
    simp [Picks, hnamespace]

theorem not_unusable_of_appliesTo {preset : PodPreset} {applies : Bool}
    (h : preset.appliesTo podNamespace labels = .ok applies) : ¬preset.Unusable podNamespace := by
  rcases preset.appliesTo_cases podNamespace labels with ⟨-, husable⟩ | ⟨error, herror, -, -⟩
  · exact husable
  · rw [h] at herror
    cases herror

theorem appliesTo_of_not_unusable {preset : PodPreset} (h : ¬preset.Unusable podNamespace) :
    preset.appliesTo podNamespace labels = .ok (decide (preset.Picks podNamespace labels)) := by
  rcases preset.appliesTo_cases podNamespace labels with ⟨hok, -⟩ | ⟨_, -, -, hunusable⟩
  · exact hok
  · exact absurd hunusable h

/-- Without an unusable selector the presets that are picked are a plain filter of the list. -/
theorem matching_eq_ok_iff {matched : List PodPreset} :
    matching presets podNamespace labels = .ok matched ↔
      (∀ preset ∈ presets, ¬preset.Unusable podNamespace) ∧
        matched = presets.filter (·.Picks podNamespace labels) := by
  rw [matching, filterM_eq_ok_iff]
  have hfilter : (∀ preset ∈ presets, ¬preset.Unusable podNamespace) →
      presets.filter (passes (·.appliesTo podNamespace labels)) =
        presets.filter (·.Picks podNamespace labels) := by
    intro husable
    apply List.filter_congr
    intro preset hmem
    exact passes_of_eq_ok (appliesTo_of_not_unusable (husable preset hmem))
  constructor
  · rintro ⟨hall, rfl⟩
    have husable : ∀ preset ∈ presets, ¬preset.Unusable podNamespace := by
      intro preset hmem
      exact not_unusable_of_appliesTo (hall preset hmem)
    exact ⟨husable, hfilter husable⟩
  · rintro ⟨husable, rfl⟩
    refine ⟨?_, (hfilter husable).symm⟩
    intro preset hmem
    have hok : preset.appliesTo podNamespace labels =
        .ok (decide (preset.Picks podNamespace labels)) :=
      appliesTo_of_not_unusable (husable preset hmem)
    rw [hok]
    exact congrArg Except.ok (passes_of_eq_ok hok).symm

/-- The error names the first preset with an unusable selector. -/
theorem exists_of_matching_eq_error {error : SelectorError}
    (h : matching presets podNamespace labels = .error error) :
    ∃ before preset after, presets = before ++ preset :: after ∧
      preset.Unusable podNamespace ∧ (∀ other ∈ before, ¬other.Unusable podNamespace) ∧
      error.preset = preset.name := by
  obtain ⟨before, preset, after, hsplit, hbefore, hpreset⟩ := filterM_eq_error_iff.1 h
  refine ⟨before, preset, after, hsplit, ?_⟩
  have husable : ∀ other ∈ before, ¬other.Unusable podNamespace := by
    intro other hmem
    exact not_unusable_of_appliesTo (hbefore other hmem)
  rcases preset.appliesTo_cases podNamespace labels with ⟨hok, -⟩ | ⟨found, herror, hname, hunusable⟩
  · rw [hpreset] at hok
    cases hok
  · rw [hpreset] at herror
    cases herror
    exact ⟨hunusable, husable, hname⟩

/-- **Exactly which presets are picked.**  Picking fails if and only if a preset of the pod's namespace
has an unusable selector, and the error names the first of these.  Otherwise the presets that are picked
are those of the namespace whose selectors the labels satisfy, in their order.  Among them are all
presets of the namespace whose selectors ask for nothing. -/
theorem matching_exactly (presets : List PodPreset) (podNamespace : String) (labels : Dict String) :
    ((∃ error, matching presets podNamespace labels = .error error) ↔
      ∃ preset ∈ presets, preset.Unusable podNamespace) ∧
    (∀ error, matching presets podNamespace labels = .error error →
      ∃ before preset after, presets = before ++ preset :: after ∧
        preset.Unusable podNamespace ∧ (∀ other ∈ before, ¬other.Unusable podNamespace) ∧
        error.preset = preset.name) ∧
    (∀ matched, matching presets podNamespace labels = .ok matched ↔
      (∀ preset ∈ presets, ¬preset.Unusable podNamespace) ∧
        matched = presets.filter (·.Picks podNamespace labels)) ∧
    ∀ matched, matching presets podNamespace labels = .ok matched →
      ∀ preset ∈ presets, preset.metadata.namespaceName = some podNamespace →
        preset.spec.selector.AsksNothing → preset ∈ matched := by
  refine ⟨?_, ?_, ?_, ?_⟩
  · constructor
    · rintro ⟨error, herror⟩
      obtain ⟨before, preset, after, rfl, hunusable, -, -⟩ := exists_of_matching_eq_error herror
      exact ⟨preset, List.mem_append_right _ List.mem_cons_self, hunusable⟩
    · rintro ⟨preset, hmem, hunusable⟩
      cases hresult : matching presets podNamespace labels with
      | error error => exact ⟨error, rfl⟩
      | ok matched => exact absurd hunusable ((matching_eq_ok_iff.1 hresult).1 preset hmem)
  · intro error h
    exact exists_of_matching_eq_error h
  · intro matched
    exact matching_eq_ok_iff
  · intro matched h preset hmem hnamespace hnothing
    obtain ⟨-, rfl⟩ := matching_eq_ok_iff.1 h
    exact List.mem_filter.2 ⟨hmem, decide_eq_true ⟨hnamespace, hnothing.satisfied labels⟩⟩

end PodPreset

end WebhookOperator
