/-!
# Places in YAML text

A cursor is the text that is still to be read and the line and column where it starts. Columns
decide about indentation, and the distance between two places decides whether a key may still be
one, so a cursor counts characters as well.

A line ends with a line feed, a carriage return, both together, a next line character, or one of the
two Unicode separators. The first four are all read as a line feed.
-/

namespace WebhookOperator.Yaml

/-- The text from some place on, and where that place is. -/
structure Cursor where
  rest : List Char
  index : Nat := 0
  line : Nat := 0
  column : Nat := 0
deriving Inhabited

/-- Whether a character ends a line. -/
def isBreak (c : Char) : Bool :=
  c == '\n' || c == '\r' || c == '\x85' || c == '\u2028' || c == '\u2029'

/-- Whether a character is a space or a tab. -/
def isBlank (c : Char) : Bool := c == ' ' || c == '\t'

/-- Whether a character may stand in the name of an anchor, a handle or a directive. -/
def isNameChar (c : Char) : Bool := c.isAlphanum || c == '_' || c == '-'

/-- Whether a character may stand in a text at all. -/
def isAllowed (c : Char) : Bool :=
  let code := c.toNat
  code == 0x09 || code == 0x0a || code == 0x0d || (0x20 ≤ code && code ≤ 0x7e) || code == 0x85 ||
    (0xa0 ≤ code && code ≤ 0xfffd && code != 0xfeff) || 0x10000 ≤ code

/-- Whether a text is at its end, or a blank or the end of a line comes next. -/
def endsWord : List Char → Bool
  | [] => true
  | c :: _ => isBlank c || isBreak c

/-- Whether a text is at its end, or the end of a line comes next. -/
def endsLine : List Char → Bool
  | [] => true
  | c :: _ => isBreak c

namespace Cursor

def atEnd (cursor : Cursor) : Bool := cursor.rest.isEmpty

/-- Whether a character comes next. -/
def sees (cursor : Cursor) (c : Char) : Bool := cursor.rest.head? == some c

/-- Whether a character for which `p` holds comes next. -/
def seesAny (cursor : Cursor) (p : Char → Bool) : Bool := cursor.rest.head?.any p

/-- Goes on by some characters of one line. -/
def skip (cursor : Cursor) (count : Nat) : Cursor :=
  { cursor with
    rest := cursor.rest.drop count
    index := cursor.index + count
    column := cursor.column + count }

/-- Goes on by the characters of one line for which `p` holds, and tells them. -/
def span (cursor : Cursor) (p : Char → Bool) : List Char × Cursor :=
  let taken := cursor.rest.takeWhile p
  (taken, cursor.skip taken.length)

/-- Goes on by the characters of one line for which `p` holds. -/
def skipWhile (cursor : Cursor) (p : Char → Bool) : Cursor := (cursor.span p).2

/-- The end of a line that comes next, as the character that is read for it. -/
def lineEnd (cursor : Cursor) : List Char × Cursor :=
  let next (rest : List Char) (count : Nat) : Cursor :=
    { rest := rest, index := cursor.index + count, line := cursor.line + 1, column := 0 }
  match cursor.rest with
  | '\r' :: '\n' :: rest => (['\n'], next rest 2)
  | c :: rest =>
    if c == '\u2028' || c == '\u2029' then ([c], next rest 1)
    else if isBreak c then (['\n'], next rest 1)
    else ([], cursor)
  | [] => ([], cursor)

/-- Goes on to the next line when a line ends here. -/
def skipLine (cursor : Cursor) : Cursor := cursor.lineEnd.2

def skipComment (cursor : Cursor) : Cursor := cursor.skipWhile (!isBreak ·)

/-- Whether a document marker stands here: three equal characters alone at the start of a line. -/
def atMarker (cursor : Cursor) (c : Char) : Bool :=
  cursor.column == 0 && cursor.rest.take 3 == [c, c, c] && endsWord (cursor.rest.drop 3)

/-- Whether the start or the end of a document is marked here. -/
def atDocumentMarker (cursor : Cursor) : Bool := cursor.atMarker '-' || cursor.atMarker '.'

end Cursor

end WebhookOperator.Yaml
