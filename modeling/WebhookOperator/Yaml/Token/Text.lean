import WebhookOperator.Yaml.Cursor

/-!
# The texts of scalars

A scalar may go over many lines. What stands between two words of it is a gap: blanks in a line, or
line ends with the blanks around them. A gap within a line is kept as it is. Of a gap with line ends
the first one is folded: it becomes a space when it is alone, and is left out when others follow.

A block scalar keeps its lines, or folds the ones that start with no blank, and its header says what
becomes of the line ends behind the last line.
-/

namespace WebhookOperator.Yaml

/-- What stands between two words of a scalar. -/
structure Gap where
  /-- The blanks, as long as the gap is within a line. -/
  blanks : List Char := []
  /-- Whether the gap has left its first line. -/
  broken : Bool := false
  /-- The first line end; nothing when it was escaped. -/
  first : List Char := []
  /-- The further line ends. -/
  further : List Char := []

namespace Gap

def text (gap : Gap) : List Char :=
  if !gap.broken then gap.blanks
  else if gap.first == ['\n'] then
    if gap.further.isEmpty then [' '] else gap.further
  else gap.first ++ gap.further

/-- Reads blanks and line ends. Past the first line a tab before the column `indent` is refused. -/
def read (indent : Nat) : Nat → Gap → Cursor → Option (Gap × Cursor)
  | 0, gap, cursor => some (gap, cursor)
  | fuel + 1, gap, cursor =>
    if cursor.seesAny isBlank then
      if gap.broken && cursor.column < indent && cursor.sees '\t' then none
      else
        let gap := if gap.broken then gap
          else { gap with blanks := gap.blanks ++ cursor.rest.take 1 }
        read indent fuel gap (cursor.skip 1)
    else if cursor.seesAny isBreak then
      let (ended, next) := cursor.lineEnd
      let gap := if gap.broken then { gap with further := gap.further ++ ended }
        else { blanks := [], broken := true, first := ended, further := [] }
      read indent fuel gap next
    else some (gap, cursor)

end Gap

/-! ### Plain scalars -/

/-- The brackets and the comma, which mean something within brackets. -/
def isFlowIndicator (c : Char) : Bool :=
  c == ',' || c == '[' || c == ']' || c == '\x7b' || c == '\x7d'

/-- The word of a plain scalar up to a blank, a line end or what ends the scalar. Within brackets a
colon before an indicator is refused. -/
def plainWord (inFlow : Bool) : List Char → Option (List Char)
  | [] => some []
  | c :: rest =>
    if isBlank c || isBreak c then some []
    else if inFlow && c == ':' && rest.head?.any (fun d => isFlowIndicator d || d == '?') then none
    else if (c == ':' && endsWord rest) || (inFlow && isFlowIndicator c) then some []
    else (plainWord inFlow rest).map (c :: ·)

/-- A plain scalar, whose further lines start at the column `indent` or after it: its text, the
place behind it, and whether that is on a line on which nothing stands yet. -/
def readPlain (inFlow : Bool) (indent : Nat) :
    Nat → Gap → List Char → Cursor → Option (List Char × Cursor × Bool)
  | 0, _, _, _ => none
  | fuel + 1, gap, text, cursor =>
    if cursor.atDocumentMarker || cursor.sees '#' then some (text, cursor, gap.broken)
    else do
      let word ← plainWord inFlow cursor.rest
      let cursor := cursor.skip word.length
      let (text, gap) := if word.isEmpty then (text, gap) else (text ++ gap.text ++ word, {})
      if !(cursor.seesAny isBlank || cursor.seesAny isBreak) then return (text, cursor, gap.broken)
      let (gap, cursor) ← gap.read indent (cursor.rest.length + 1) cursor
      if !inFlow && cursor.column < indent then return (text, cursor, gap.broken)
      readPlain inFlow indent fuel gap text cursor

/-! ### Quoted scalars -/

def escaped? : Char → Option Char
  | '0' => some '\x00'
  | 'a' => some '\x07'
  | 'b' => some '\x08'
  | 't' | '\t' => some '\t'
  | 'n' => some '\n'
  | 'v' => some '\x0b'
  | 'f' => some '\x0c'
  | 'r' => some '\r'
  | 'e' => some '\x1b'
  | ' ' => some ' '
  | '"' => some '"'
  | '/' => some '/'
  | '\\' => some '\\'
  | 'N' => some '\u0085'
  | '_' => some '\u00a0'
  | 'L' => some '\u2028'
  | 'P' => some '\u2029'
  | _ => none

def escapeDigits? : Char → Option Nat
  | 'x' => some 2
  | 'u' => some 4
  | 'U' => some 8
  | _ => none

def hexDigit? (c : Char) : Option Nat :=
  if '0' ≤ c ∧ c ≤ '9' then some (c.toNat - '0'.toNat)
  else if 'a' ≤ c ∧ c ≤ 'f' then some (c.toNat - 'a'.toNat + 10)
  else if 'A' ≤ c ∧ c ≤ 'F' then some (c.toNat - 'A'.toNat + 10)
  else none

def codePoint? (digits : List Char) : Option Char := do
  let code ← digits.foldlM (fun value c => (hexDigit? c).map (value * 16 + ·)) 0
  if code > 0x10ffff || (0xd800 ≤ code && code ≤ 0xdfff) then none else some (Char.ofNat code)

/-- The word of a quoted scalar up to a blank, a line end or the closing quote, the place behind it,
and whether an escaped line end closes the word. -/
def quotedWord (single : Bool) : Nat → Cursor → Option (List Char × Cursor × Bool)
  | 0, _ => none
  | fuel + 1, cursor =>
    let more (c : Char) (count : Nat) : Option (List Char × Cursor × Bool) := do
      let (word, behind) ← quotedWord single fuel (cursor.skip count)
      return (c :: word, behind)
    match single, cursor.rest with
    | _, [] => some ([], cursor, false)
    | true, '\'' :: '\'' :: _ => more '\'' 2
    | true, '\'' :: _ => some ([], cursor, false)
    | false, '"' :: _ => some ([], cursor, false)
    | false, '\\' :: c :: rest =>
      if isBreak c then some ([], (cursor.skip 1).skipLine, true)
      else match escaped? c, escapeDigits? c with
        | some value, _ => more value 2
        | none, some count => do
          let digits := rest.take count
          if digits.length < count then none
          more (← codePoint? digits) (2 + count)
        | none, none => none
    | false, ['\\'] => none
    | _, c :: _ => if isBlank c || isBreak c then some ([], cursor, false) else more c 1

/-- The rest of a quoted scalar up to its closing quote, and the place behind that. -/
def readQuoted (single : Bool) : Nat → List Char → Cursor → Option (List Char × Cursor)
  | 0, _, _ => none
  | fuel + 1, text, cursor =>
    if cursor.atDocumentMarker || cursor.atEnd then none
    else do
      let (word, cursor, escapedEnd) ← quotedWord single (cursor.rest.length + 1) cursor
      if cursor.sees (if single then '\'' else '"') then return (text ++ word, cursor.skip 1)
      let (gap, cursor) ← Gap.read 0 (cursor.rest.length + 1) { broken := escapedEnd } cursor
      readQuoted single fuel (text ++ word ++ gap.text) cursor

/-! ### Block scalars -/

/-- What becomes of the line ends behind the last line of a block scalar. -/
inductive Chomping where
  | strip
  | clip
  | keep
deriving DecidableEq

/-- The header of a block scalar: its chomping and its indentation, where they are given. -/
def blockHeader (cursor : Cursor) : Option (Chomping × Option Nat × Cursor) :=
  let chomping (c : Char) : Option Chomping :=
    if c == '+' then some .keep else if c == '-' then some .strip else none
  let width (c : Char) : Option Nat := if c.isDigit then some (c.toNat - '0'.toNat) else none
  let given (chomped : Option Chomping) (indent : Option Nat) (count : Nat) :=
    if indent = some 0 then none else some (chomped.getD .clip, indent, cursor.skip count)
  match cursor.rest with
  | a :: b :: _ =>
    match chomping a, width a, chomping b, width b with
    | some chomped, _, _, some indent => given (some chomped) (some indent) 2
    | some chomped, _, _, none => given (some chomped) none 1
    | none, some indent, some chomped, _ => given (some chomped) (some indent) 2
    | none, some indent, none, _ => given none (some indent) 1
    | none, none, _, _ => given none none 0
  | [a] => given (chomping a) (width a) (if (chomping a).isSome || (width a).isSome then 1 else 0)
  | [] => given none none 0

/-- Line ends, with the spaces of the indentation before them: the line ends, the largest column
that the spaces reach, and the place behind them. Without a known indentation all spaces belong to
it. A tab in its place is refused. -/
def blockBreaks (indent : Option Nat) :
    Nat → Nat → List Char → Cursor → Option (List Char × Nat × Cursor)
  | 0, _, _, _ => none
  | fuel + 1, reached, ends, cursor =>
    let spaces := (cursor.rest.takeWhile (· == ' ')).length
    let cursor := cursor.skip <| match indent with
      | none => spaces
      | some indent => min spaces (indent - cursor.column)
    let reached := max reached cursor.column
    if cursor.sees '\t' && indent.all (cursor.column < ·) then none
    else if cursor.seesAny isBreak then
      let (ended, next) := cursor.lineEnd
      blockBreaks indent fuel reached (ends ++ ended) next
    else some (ends, reached, cursor)

/-- What the lines of a block scalar have come to. -/
structure BlockLines where
  text : List Char := []
  /-- The end of the last line. -/
  lastEnd : List Char := []
  /-- The ends of the empty lines behind it. -/
  emptyEnds : List Char := []
  /-- Whether the last line starts with a blank. -/
  afterBlank : Bool := false

/-- The lines of a block scalar at a known indentation. -/
def blockLines (literal : Bool) (indent : Nat) :
    Nat → BlockLines → Cursor → Option (BlockLines × Cursor)
  | 0, _, _ => none
  | fuel + 1, lines, cursor =>
    if cursor.column == indent && !cursor.atEnd then do
      let blank := cursor.seesAny isBlank
      let folded := !literal && lines.lastEnd == ['\n'] && !lines.afterBlank && !blank
      let joint := if !folded then lines.lastEnd ++ lines.emptyEnds
        else if lines.emptyEnds.isEmpty then [' '] else lines.emptyEnds
      let (content, cursor) := cursor.span (!isBreak ·)
      let (ended, cursor) := cursor.lineEnd
      let (empties, _, cursor) ← blockBreaks (some indent) (cursor.rest.length + 1) 0 [] cursor
      blockLines literal indent fuel
        { text := lines.text ++ joint ++ content
          lastEnd := ended
          emptyEnds := empties
          afterBlank := blank } cursor
    else some (lines, cursor)

/-- A block scalar behind its indicator. A given indentation counts from `parent`, the column of the
collection around it. -/
def readBlock (literal : Bool) (parent : Option Nat) (cursor : Cursor) :
    Option (List Char × Cursor) := do
  let (chomping, given, cursor) ← blockHeader cursor
  let cursor := cursor.skipWhile isBlank
  let cursor := if cursor.sees '#' then cursor.skipComment else cursor
  if !endsLine cursor.rest then none
  let cursor := cursor.skipLine
  let known := given.map (parent.getD 0 + ·)
  let (empties, reached, cursor) ← blockBreaks known (cursor.rest.length + 1) 0 [] cursor
  let least := parent.elim 1 (· + 1)
  let indent := known.getD (max reached least)
  let (lines, cursor) ←
    blockLines literal indent (cursor.rest.length + 1) { emptyEnds := empties } cursor
  let tail := match chomping with
    | .strip => []
    | .clip => lines.lastEnd
    | .keep => lines.lastEnd ++ lines.emptyEnds
  return (lines.text ++ tail, cursor)

end WebhookOperator.Yaml
