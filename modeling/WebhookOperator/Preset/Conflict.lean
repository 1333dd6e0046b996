/-!
# Conflicts

Two items conflict when they have the same identity but differ. A conflict says where it was found,
which preset brought the item that was refused, and what both items look like.
-/

namespace WebhookOperator

inductive Field where
  | env
  | volumes
  | volumeMounts
deriving DecidableEq, Inhabited

inductive Axis where
  | name
  | mountPath
deriving DecidableEq, Inhabited

/-- Two different items of one identity. -/
structure Conflict where
  field : Field
  axis : Axis
  /-- The preset whose item was refused. -/
  preset : String
  /-- The identity that both items have. -/
  key : String
  incoming : String
  existing : String
deriving DecidableEq, Inhabited

def Field.text : Field → String
  | env => "env"
  | volumes => "volumes"
  | volumeMounts => "volume mounts"

/-- What is said before the key; a name needs no introduction. -/
def Axis.text : Axis → String
  | name => ""
  | mountPath => "mount path "

namespace Conflict

def message (conflict : Conflict) : String :=
  "merging " ++ conflict.field.text ++ " for " ++ conflict.preset ++ " has a conflict on " ++
    conflict.axis.text ++ conflict.key ++ ": " ++ conflict.incoming ++ " does not match " ++
    conflict.existing

def summary (conflicts : List Conflict) : String := "; ".intercalate (conflicts.map message)

end Conflict

end WebhookOperator
