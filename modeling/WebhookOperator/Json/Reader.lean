import WebhookOperator.Json.Token

/-!
# Reading JSON text

`Json.read` tells four cases apart: the text is a document, it starts with a document and goes on,
it starts as an array and is no document, or it is no document in any other way. A caller that
expects a certain shape can so tell JSON of another shape from text that is no JSON at all.

A document nests at most 127 arrays and objects. Of equal keys in one object the last one stays.
-/

namespace WebhookOperator.Json

def maxDepth : Nat := 127

mutual

def readValue (fuel depth : Nat) (tokens : List Token) : Option (Json × List Token) :=
  match fuel with
  | 0 => none
  | fuel + 1 =>
    match tokens, depth with
    | .literal value :: rest, _ => some (value, rest)
    | .text value :: rest, _ => some (.str value, rest)
    | .openArray :: .closeArray :: rest, _ + 1 => some (.arr [], rest)
    | .openArray :: rest, depth + 1 =>
      (readItems fuel depth rest).map fun (items, rest) => (.arr items, rest)
    | .openObject :: .closeObject :: rest, _ + 1 => some (.obj [], rest)
    | .openObject :: rest, depth + 1 =>
      (readMembers fuel depth rest).map fun (members, rest) => (.ofMembers members, rest)
    | _, _ => none

def readItems (fuel depth : Nat) (tokens : List Token) : Option (List Json × List Token) :=
  match fuel with
  | 0 => none
  | fuel + 1 => do
    let (item, rest) ← readValue fuel depth tokens
    match rest with
    | .closeArray :: rest => return ([item], rest)
    | .comma :: rest =>
      let (items, rest) ← readItems fuel depth rest
      return (item :: items, rest)
    | _ => none

def readMembers (fuel depth : Nat) (tokens : List Token) :
    Option (List (String × Json) × List Token) :=
  match fuel with
  | 0 => none
  | fuel + 1 =>
    match tokens with
    | .text key :: .colon :: rest => do
      let (value, rest) ← readValue fuel depth rest
      match rest with
      | .closeObject :: rest => return ([(key, value)], rest)
      | .comma :: rest =>
        let (members, rest) ← readMembers fuel depth rest
        return ((key, value) :: members, rest)
      | _ => none
    | _ => none

end

/-- What a text turns out to be. -/
inductive Reading where
  /-- A document, and nothing after it. -/
  | document (value : Json)
  /-- A document, and something after it. -/
  | leading (value : Json)
  /-- The start of an array that is no document. -/
  | brokenArray
  /-- No document. -/
  | malformed

def read (content : String) : Reading :=
  let tokens := Token.scan content
  match readValue (2 * tokens.length + 1) maxDepth tokens, tokens with
  | some (value, []), _ => .document value
  | some (value, _ :: _), _ => .leading value
  | none, .openArray :: _ => .brokenArray
  | none, _ => .malformed

def ofText? (content : String) : Option Json :=
  match read content with
  | .document value => some value
  | _ => none

end WebhookOperator.Json
