import WebhookOperator.Cluster.Webhook

/-!
# Rules

A rule says for which operations on which resources a webhook is asked. It starts empty and is built
step by step; an operation that it already has is not put in twice.
-/

namespace WebhookOperator

inductive RuleOperation where
  | create
  | update
  | delete
  | connect
  | all
deriving DecidableEq, Inhabited

inductive RuleScope where
  | namespaced
  | cluster
  | all
deriving DecidableEq, Inhabited

/-- Which operations on which resources a webhook is asked about. -/
structure Rule where
  apiGroups : List String := []
  apiVersions : List String := []
  resources : List String := []
  operations : List RuleOperation := []
  scope : Option RuleScope := none
deriving DecidableEq, Inhabited

def RuleOperation.text : RuleOperation → String
  | create => "CREATE"
  | update => "UPDATE"
  | delete => "DELETE"
  | connect => "CONNECT"
  | all => "*"

def RuleScope.text : RuleScope → String
  | namespaced => "Namespaced"
  | cluster => "Cluster"
  | all => "*"

namespace Rule

/-- The rule about one resource of a group, in the place of the resources before. -/
def oneResource (rule : Rule) (group version resource : String) : Rule :=
  { rule with apiGroups := [group], apiVersions := [version], resources := [resource] }

/-- The rule about one operation more. -/
def forOperation (rule : Rule) (operation : RuleOperation) : Rule :=
  if operation ∈ rule.operations then rule
  else { rule with operations := rule.operations ++ [operation] }

def forCreate (rule : Rule) : Rule := rule.forOperation .create

def forUpdate (rule : Rule) : Rule := rule.forOperation .update

def withScope (rule : Rule) (scope : RuleScope) : Rule := { rule with scope := some scope }

def namespacedScope (rule : Rule) : Rule := rule.withScope .namespaced

/-- The rule in the form of a registration object. All lists are written, also empty ones. -/
def registered (rule : Rule) : RuleWithOperations where
  apiGroups := some rule.apiGroups
  apiVersions := some rule.apiVersions
  operations := some (rule.operations.map RuleOperation.text)
  resources := some rule.resources
  scope := rule.scope.map RuleScope.text

end Rule

end WebhookOperator
