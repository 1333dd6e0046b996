import WebhookOperator.Yaml.Token.Basic
import WebhookOperator.Yaml.Token.Text

/-!
# Anchors, tags and directives

The tokens that name something: anchors and aliases of nodes, tags of nodes, and the directives
before a document that give its version and its tag handles. Each reader starts at the indicator of
its token and tells the place behind the token.
-/

namespace WebhookOperator.Yaml

/-- What may stand right behind the name of an anchor, apart from the end of a word. -/
def endsAnchor (c : Char) : Bool :=
  c == '?' || c == ':' || c == ',' || c == ']' || c == '\x7d' || c == '%' || c == '@' || c == '\x60'

def readAnchor (cursor : Cursor) : Option (String × Cursor) :=
  let (name, cursor) := (cursor.skip 1).span isNameChar
  if name.isEmpty || !(endsWord cursor.rest || cursor.seesAny endsAnchor) then none
  else some (String.ofList name, cursor)

/-- Whether a character stands for itself in a tag; commas and brackets do so only where a tag is
written out in full. -/
def isTagChar (full : Bool) (c : Char) : Bool :=
  isNameChar c || ";/?:@&=+$.!~*'()".toList.contains c || (full && (c == ',' || c == '[' || c == ']'))

/-- Bytes that are written as a percent sign and two digits each. -/
def escapedByte? : List Char → Option (Nat × List Char)
  | '%' :: a :: b :: rest => do return ((← hexDigit? a) * 16 + (← hexDigit? b), rest)
  | _ => none

/-- The trailing bytes of a character, and the code point that they lead to. -/
def trailingBytes? : Nat → Nat → List Char → Option (Nat × List Char)
  | 0, code, rest => some (code, rest)
  | count + 1, code, rest => do
    let (byte, rest) ← escapedByte? rest
    if byte / 0x40 ≠ 2 then none
    trailingBytes? count (code * 0x40 + byte % 0x40) rest

/-- A character that is written as the bytes of its encoding. -/
def escapedChar? (text : List Char) : Option (Char × List Char) := do
  let (lead, rest) ← escapedByte? text
  let (code, rest) ←
    if lead < 0x80 then some (lead, rest)
    else if lead / 0x20 = 6 then trailingBytes? 1 (lead % 0x20) rest
    else if lead / 0x10 = 14 then trailingBytes? 2 (lead % 0x10) rest
    else if lead / 0x08 = 30 then trailingBytes? 3 (lead % 0x08) rest
    else none
  return (Char.ofNat code, rest)

def tagText (full : Bool) : Nat → Cursor → Option (List Char × Cursor)
  | 0, _ => none
  | fuel + 1, cursor =>
    if cursor.sees '%' then do
      let (c, rest) ← escapedChar? cursor.rest
      let (more, behind) ← tagText full fuel (cursor.skip (cursor.rest.length - rest.length))
      return (c :: more, behind)
    else
      let (taken, behind) := cursor.span (isTagChar full)
      if taken.isEmpty then some ([], cursor)
      else do
        let (more, behind) ← tagText full fuel behind
        return (taken ++ more, behind)

def fullTagText (full : Bool) (cursor : Cursor) : Option (List Char × Cursor) := do
  let (text, behind) ← tagText full (cursor.rest.length + 1) cursor
  if text.isEmpty then none else return (text, behind)

/-- What stands at the start of a tag: an exclamation mark, a name, and another mark. The second
mark may be missing; then the name is no handle. -/
def readHandle (cursor : Cursor) : Option (List Char × Bool × Cursor) :=
  if !cursor.sees '!' then none
  else
    let (name, cursor) := (cursor.skip 1).span isNameChar
    if cursor.sees '!' then some ('!' :: name ++ ['!'], true, cursor.skip 1)
    else some ('!' :: name, false, cursor)

/-- A tag: its handle and its suffix. -/
def readTag (inFlow : Bool) (cursor : Cursor) : Option (Token × Cursor) := do
  let (token, cursor) ←
    if cursor.rest.take 2 == ['!', '<'] then do
      let (text, cursor) ← fullTagText true (cursor.skip 2)
      if !cursor.sees '>' then none
      pure (Token.tag "" (String.ofList text), cursor.skip 1)
    else do
      let (handle, closed, cursor) ← readHandle cursor
      if closed then
        let (text, cursor) ← fullTagText false cursor
        pure (Token.tag (String.ofList handle) (String.ofList text), cursor)
      else
        let (text, cursor) ← tagText false (cursor.rest.length + 1) cursor
        let suffix := handle.drop 1 ++ text
        let token :=
          if suffix.isEmpty then Token.tag "" "!" else Token.tag "!" (String.ofList suffix)
        pure (token, cursor)
  if endsWord cursor.rest || (inFlow && cursor.sees ',') then return (token, cursor) else none

def readNumber (cursor : Cursor) : Option (Nat × Cursor) :=
  let (digits, cursor) := cursor.span Char.isDigit
  if digits.isEmpty || digits.length > 9 then none
  else some (digits.foldl (fun value c => value * 10 + (c.toNat - '0'.toNat)) 0, cursor)

def readDirective (cursor : Cursor) : Option (Token × Cursor) := do
  let (name, cursor) := (cursor.skip 1).span isNameChar
  if name.isEmpty || !endsWord cursor.rest then none
  let cursor := cursor.skipWhile isBlank
  let (token, cursor) ←
    if name == "YAML".toList then do
      let (major, cursor) ← readNumber cursor
      if !cursor.sees '.' then none
      let (minor, cursor) ← readNumber (cursor.skip 1)
      pure (Token.version major minor, cursor)
    else if name == "TAG".toList then do
      let (handle, closed, cursor) ← readHandle cursor
      if !(closed || handle == ['!']) || !cursor.seesAny isBlank then none
      let (start, cursor) ← fullTagText true (cursor.skipWhile isBlank)
      if !endsWord cursor.rest then none
      pure (Token.tagHandle (String.ofList handle) (String.ofList start), cursor)
    else none
  let cursor := cursor.skipWhile isBlank
  let cursor := if cursor.sees '#' then cursor.skipComment else cursor
  if endsLine cursor.rest then return (token, cursor.skipLine) else none

end WebhookOperator.Yaml
