import WebhookOperator.Decimal
import WebhookOperator.Dict

/-!
# JSON documents

`Json` is the type of documents. The members of an object stand in increasing order of their keys
in every document that the library builds; `Json.Sorted` says so of a document as a whole, and
`Json.ofMembers` is the way to build an object.

Whole numbers and numbers written with a point or an exponent are different values: a whole number
never decodes from the latter.
-/

namespace WebhookOperator

/-- A number as it was written: whole, or with a point or an exponent. -/
inductive Number where
  | int (value : Int)
  | decimal (value : Decimal)
deriving DecidableEq, Inhabited

inductive Json where
  | null
  | bool (value : Bool)
  | num (value : Number)
  | str (value : String)
  | arr (items : List Json)
  | obj (members : List (String × Json))
deriving Inhabited

namespace Json

mutual

def same : Json → Json → Bool
  | null, null => true
  | bool a, bool b => a == b
  | num a, num b => a == b
  | str a, str b => a == b
  | arr a, arr b => sameItems a b
  | obj a, obj b => sameMembers a b
  | _, _ => false

def sameItems : List Json → List Json → Bool
  | [], [] => true
  | a :: as, b :: bs => same a b && sameItems as bs
  | _, _ => false

def sameMembers : List (String × Json) → List (String × Json) → Bool
  | [], [] => true
  | (k, a) :: as, (l, b) :: bs => k == l && same a b && sameMembers as bs
  | _, _ => false

end

mutual

theorem same_iff : ∀ a b : Json, same a b = true ↔ a = b
  | null, b => by cases b <;> simp [same]
  | bool a, b => by cases b <;> simp [same]
  | num a, b => by cases b <;> simp [same]
  | str a, b => by cases b <;> simp [same]
  | arr a, b => by
    cases b with
    | arr b => simpa [same] using sameItems_iff a b
    | _ => simp [same]
  | obj a, b => by
    cases b with
    | obj b => simpa [same] using sameMembers_iff a b
    | _ => simp [same]

theorem sameItems_iff : ∀ a b : List Json, sameItems a b = true ↔ a = b
  | [], b => by cases b <;> simp [sameItems]
  | a :: as, [] => by simp [sameItems]
  | a :: as, b :: bs => by simp [sameItems, same_iff a b, sameItems_iff as bs]

theorem sameMembers_iff : ∀ a b : List (String × Json), sameMembers a b = true ↔ a = b
  | [], b => by cases b <;> simp [sameMembers]
  | (k, a) :: as, [] => by simp [sameMembers]
  | (k, a) :: as, (l, b) :: bs => by
    simp [sameMembers, same_iff a b, sameMembers_iff as bs, and_assoc]

end

instance : DecidableEq Json := fun a b => decidable_of_iff (same a b = true) (same_iff a b)

/-- An object with the given members; of equal keys the last one stays. -/
def ofMembers (members : List (String × Json)) : Json := obj (Entries.ofList members)

def string? : Json → Option String
  | str value => some value
  | _ => none

def bool? : Json → Option Bool
  | bool value => some value
  | _ => none

def int? : Json → Option Int
  | num (.int value) => some value
  | _ => none

def items? : Json → Option (List Json)
  | arr items => some items
  | _ => none

def members? : Json → Option (Entries Json)
  | obj members => some members
  | _ => none

def member? (document : Json) (key : String) : Option Json :=
  document.members?.bind (·.lookup key)

/-- The member of an object; a missing one and `null` are both absent. -/
def present? (document : Json) (key : String) : Option Json :=
  (document.member? key).filter (· ≠ null)

mutual

/-- Every object of the document has its keys in strictly increasing order. -/
def Sorted : Json → Prop
  | arr items => SortedItems items
  | obj members => Entries.Sorted members ∧ SortedMembers members
  | _ => True

def SortedItems : List Json → Prop
  | [] => True
  | item :: items => Sorted item ∧ SortedItems items

def SortedMembers : List (String × Json) → Prop
  | [] => True
  | (_, value) :: members => Sorted value ∧ SortedMembers members

end

end Json

end WebhookOperator
