import WebhookOperator.Preset.Basic

/-!
# Which presets apply to a pod

A selector is turned into requirements before it is used, and a selector with an expression that
means nothing is refused. Labels satisfy a selector when they satisfy each of its requirements.
Presets apply only in their own namespace, and keep the order in which they were listed.
-/

namespace WebhookOperator

inductive Requirement where
  | equal (key value : String)
  | oneOf (key : String) (values : List String)
  | noneOf (key : String) (values : List String)
  | present (key : String)
  | missing (key : String)
deriving DecidableEq, Inhabited

/-- Why an expression of a selector means nothing. -/
inductive ExpressionError where
  | valuesExpected
  | unknownOperator
  /-- Another reason, in words. -/
  | other (detail : String)
deriving DecidableEq, Inhabited

structure SelectorError where
  preset : String
  cause : ExpressionError
deriving DecidableEq, Inhabited

namespace ExpressionError

def detail : ExpressionError → String
  | valuesExpected => "Expected values for In operator, got none"
  | unknownOperator => "Invalid expression operator"
  | other detail => detail

def message (error : ExpressionError) : String :=
  "failed to parse value as expression: " ++ error.detail

end ExpressionError

namespace SelectorError

def message (error : SelectorError) : String :=
  "label selector conversion failed for PodPreset " ++ error.preset ++ ": " ++ error.cause.message

end SelectorError

namespace Requirement

def holds (labels : Dict String) : Requirement → Bool
  | equal key value => labels.get? key == some value
  | oneOf key values => (labels.get? key).any (values.contains ·)
  | noneOf key values => (labels.get? key).all (!values.contains ·)
  | present key => labels.contains key
  | missing key => !labels.contains key

/-- The condition that an expression means. -/
def ofExpression (expression : LabelRequirement) : Except ExpressionError Requirement :=
  match expression.operator, expression.values with
  | "In", some values => .ok (oneOf expression.key values)
  | "In", none => .error .valuesExpected
  | "NotIn", some values => .ok (noneOf expression.key values)
  | "NotIn", none => .error .valuesExpected
  | "Exists", _ => .ok (present expression.key)
  | "DoesNotExist", _ => .ok (missing expression.key)
  | _, _ => .error .unknownOperator

end Requirement

namespace LabelSelector

def requirements (selector : LabelSelector) : Except ExpressionError (List Requirement) := do
  let expressions ← (selector.matchExpressions.getD []).mapM Requirement.ofExpression
  let pairs := (selector.matchLabels.getD .empty).entries.map fun (key, value) => .equal key value
  return expressions ++ pairs

def selects (selector : LabelSelector) (labels : Dict String) : Except ExpressionError Bool := do
  return (← selector.requirements).all (·.holds labels)

end LabelSelector

namespace PodPreset

/-- Whether a preset applies to a pod with the labels in a namespace. The selector of a preset of
another namespace is not looked at. -/
def appliesTo (preset : PodPreset) (podNamespace : String) (labels : Dict String) :
    Except SelectorError Bool :=
  if preset.metadata.namespaceName = some podNamespace then
    (preset.spec.selector.selects labels).mapError fun cause => ⟨preset.name, cause⟩
  else .ok false

def matching (presets : List PodPreset) (podNamespace : String) (labels : Dict String) :
    Except SelectorError (List PodPreset) :=
  presets.filterM (·.appliesTo podNamespace labels)

end PodPreset

end WebhookOperator
