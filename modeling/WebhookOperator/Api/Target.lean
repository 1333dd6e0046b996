/-!
# Request targets

The target of a request is a path, and a query behind a question mark. A number sign ends it. Blank
and control characters stand in no target, nor do angle brackets; a grave accent stands in the query
only, and a double quote in the path only.
-/

namespace WebhookOperator.Api

/-- Whether a character may stand in the path, if it does not end it. -/
def isPathChar (c : Char) : Bool := c.toNat > 0x20 && c ∉ ['<', '>', '\x60']

/-- Whether a character may stand in the query, if it does not end it. -/
def isQueryChar (c : Char) : Bool := c.toNat > 0x20 && c ∉ ['<', '>', '"']

def query? : List Char → Option (List Char)
  | [] | '#' :: _ => some []
  | c :: rest => if isQueryChar c then (query? rest).map (c :: ·) else none

def pathAndQuery? : List Char → Option (List Char)
  | [] | '#' :: _ => some []
  | '?' :: rest => (query? rest).map ('?' :: ·)
  | c :: rest => if isPathChar c then (pathAndQuery? rest).map (c :: ·) else none

def target? (address : String) : Option String :=
  (pathAndQuery? address.toList).map String.ofList

/-- What a request to an address comes with, if it is sent. -/
def sent (address : String) : String := String.ofList (address.toList.takeWhile (· ≠ '#'))

def pathOf (address : String) : String :=
  String.ofList (address.toList.takeWhile fun c => c ≠ '#' ∧ c ≠ '?')

end WebhookOperator.Api
