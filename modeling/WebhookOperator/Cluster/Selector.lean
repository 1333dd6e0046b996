import WebhookOperator.Form

/-!
# Label selectors

A label selector as it is written in an object: pairs of key and value that have to be among the
labels, and expressions on single keys. Whether an expression means anything is decided where the
selector is used.
-/

namespace WebhookOperator

structure LabelRequirement where
  key : String
  operator : String
  values : Option (List String)
deriving DecidableEq, Inhabited

structure LabelSelector where
  matchExpressions : Option (List LabelRequirement) := none
  matchLabels : Option (Dict String) := none
deriving DecidableEq, Inhabited

def LabelRequirement.form : Form LabelRequirement := .record "LabelSelectorRequirement" <|
  (Fields.of LabelRequirement.mk)
    |>.field "key" "key" .text (·.key)
    |>.field "operator" "operator" .text (·.operator)
    |>.field "values" "values" (.optional (.list .string)) (·.values)

def LabelSelector.form : Form LabelSelector := .record "LabelSelector" <|
  (Fields.of LabelSelector.mk)
    |>.field "matchExpressions" "match_expressions" (.optional (.list LabelRequirement.form))
      (·.matchExpressions)
    |>.field "matchLabels" "match_labels" (.optional (.dict .string)) (·.matchLabels)

def LabelSelector.codec : Codec LabelSelector := form.codec

end WebhookOperator
