/-!
# Media types

The type of a request's body: two words with a slash between them, and parameters behind
semicolons. JSON has a type of its own, and a suffix in the types of documents that are written in
it; words are compared without regard to case. The text of a type is printable ASCII, and tabs.
-/

namespace WebhookOperator.MediaType

def isTokenChar (c : Char) : Bool := c.isAlphanum || "!#$%&'*+-.^_\x60|~".toList.contains c

def isPrintable (c : Char) : Bool := (0x20 ≤ c.toNat && c.toNat < 0x7f) || c == '\t'

/-- The rest behind a value in quotes, which is not empty and holds no control character. The first
character is part of the value even if it is a quote. -/
def behindQuoted? : List Char → Option (List Char)
  | first :: rest =>
    match rest.dropWhile (· ≠ '"') with
    | _ :: behind =>
      if (first :: rest.takeWhile (· ≠ '"')).all (0x20 ≤ ·.toNat) then some behind else none
    | [] => none
  | [] => none

/-- Whether a text is a list of parameters: names with values, which may stand in quotes. -/
def areParameters : Nat → List Char → Bool
  | 0, _ => false
  | _, [] => true
  | fuel + 1, ' ' :: rest => areParameters fuel rest
  | fuel + 1, text =>
    let (name, rest) := text.span isTokenChar
    match name, rest with
    | _ :: _, '=' :: '"' :: rest =>
      match (behindQuoted? rest).map (·.dropWhile (· == ' ')) with
      | some [] => true
      | some (';' :: rest) => areParameters fuel rest
      | _ => false
    | _ :: _, '=' :: rest =>
      let (value, rest) := rest.span isTokenChar
      match value, rest with
      | _, [] => true
      | _ :: _, ';' :: rest => areParameters fuel rest
      | _, _ => false
    | _, _ => false

def isJson (text : String) : Bool :=
  let (kind, rest) := (text.toList.map Char.toLower).span isTokenChar
  match rest with
  | '/' :: rest =>
    let (subtype, rest) := rest.span isTokenChar
    let parameters := match rest with
      | [] => true
      | ';' :: rest => areParameters (rest.length + 1) rest
      | _ => false
    let suffix := (subtype.reverse.takeWhile (· ≠ '+')).reverse
    let stem := subtype.take (subtype.length - suffix.length - 1)
    let json := "json".toList
    text.toList.all isPrintable && kind == "application".toList && parameters &&
      (subtype == json || (suffix.length + 1 < subtype.length && (suffix == json || stem == json)))
  | _ => false

end WebhookOperator.MediaType
