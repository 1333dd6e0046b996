import WebhookOperator.Yaml.Token.Name

/-!
# Splitting YAML text into tokens

Indentation is turned into tokens here: a block collection starts where an entry stands further to
the right than the collections around it, and ends where something stands further to the left.

Whether a node is a key shows only at the colon behind it. So every place where a key may start is
remembered as a candidate, one for each open bracket, and a colon turns the innermost candidate into
a key by putting a token before it. A candidate ends with its line, or after 1024 characters; one at
the indentation of its collection has to become a key.
-/

namespace WebhookOperator.Yaml

/-- A place where a key may start. -/
structure KeyCandidate where
  /-- Whether the text is wrong unless this becomes a key. -/
  required : Bool
  /-- How many tokens stand before the place. -/
  position : Nat
  index : Nat
  line : Nat
  column : Nat

/-- What is known in the middle of a text. -/
structure Lexer where
  cursor : Cursor
  tokens : Array Token := #[]
  /-- The columns of the open block collections, the innermost first. -/
  indents : List Nat := []
  /-- Whether a key may start here. -/
  keyAllowed : Bool := true
  /-- The candidate within each open bracket, the innermost first, and the one outside of all. -/
  candidates : List (Option KeyCandidate) := [none]

namespace Lexer

/-- Whether a bracket is open. -/
def inFlow (lexer : Lexer) : Bool := lexer.candidates.length > 1

/-- The column of the innermost open block collection. -/
def indent? (lexer : Lexer) : Option Nat := lexer.indents.head?

/-- The column from which on a text belongs to the innermost block collection. -/
def contentColumn (lexer : Lexer) : Nat := lexer.indent?.elim 0 (· + 1)

def push (lexer : Lexer) (token : Token) : Lexer := { lexer with tokens := lexer.tokens.push token }

def take (lexer : Lexer) (token : Token) (count : Nat) : Lexer :=
  { lexer.push token with cursor := lexer.cursor.skip count }

/-! ### Indentation -/

/-- Opens a block collection at a column, unless one is open there or further to the right. Its
token goes to a position among the tokens. -/
def openBlock (lexer : Lexer) (token : Token) (column position : Nat) : Lexer :=
  if !lexer.inFlow && lexer.indent?.all (· < column) then
    { lexer with
      indents := column :: lexer.indents
      tokens := lexer.tokens.insertIdxIfInBounds position token }
  else lexer

/-- Closes the block collections for which `closed` holds of their column. -/
def closeBlocks (lexer : Lexer) (closed : Nat → Bool) : Lexer :=
  if lexer.inFlow then lexer
  else
    let ended := lexer.indents.takeWhile closed
    { lexer with
      indents := lexer.indents.drop ended.length
      tokens := lexer.tokens ++ Array.replicate ended.length Token.blockEnd }

/-! ### Candidates for keys -/

def dropCandidate (lexer : Lexer) : Option Lexer :=
  match lexer.candidates with
  | some candidate :: rest =>
    if candidate.required then none else some { lexer with candidates := none :: rest }
  | _ => some lexer

def saveCandidate (lexer : Lexer) : Option Lexer :=
  if lexer.keyAllowed then do
    let lexer ← lexer.dropCandidate
    let cursor := lexer.cursor
    let candidate : KeyCandidate :=
      { required := !lexer.inFlow && lexer.indent? == some cursor.column
        position := lexer.tokens.size
        index := cursor.index
        line := cursor.line
        column := cursor.column }
    return { lexer with candidates := some candidate :: lexer.candidates.drop 1 }
  else some lexer

/-- Gives up the candidates that are too far away. -/
def dropOldCandidates (lexer : Lexer) : Option Lexer := do
  let candidates ← lexer.candidates.mapM fun candidate? =>
    match candidate? with
    | none => some none
    | some candidate =>
      if candidate.line < lexer.cursor.line || candidate.index + 1024 < lexer.cursor.index then
        if candidate.required then none else some none
      else some (some candidate)
  return { lexer with candidates := candidates }

/-! ### Tokens -/

/-- Goes on to the next token. Tabs count as blanks where no key may start. -/
def toNextToken : Nat → Lexer → Lexer
  | 0, lexer => lexer
  | fuel + 1, lexer =>
    let isSpace (c : Char) : Bool := c == ' ' || (c == '\t' && (lexer.inFlow || !lexer.keyAllowed))
    let cursor := lexer.cursor.skipWhile isSpace
    let cursor := if cursor.sees '#' then cursor.skipComment else cursor
    if cursor.seesAny isBreak then
      toNextToken fuel
        { lexer with
          cursor := cursor.skipLine
          keyAllowed := lexer.keyAllowed || !lexer.inFlow }
    else { lexer with cursor := cursor }

def openFlow (lexer : Lexer) (token : Token) : Option Lexer := do
  let lexer ← lexer.saveCandidate
  return { lexer.take token 1 with keyAllowed := true, candidates := none :: lexer.candidates }

def closeFlow (lexer : Lexer) (token : Token) : Option Lexer := do
  let lexer ← lexer.dropCandidate
  return { lexer.take token 1 with
    keyAllowed := false
    candidates := if lexer.inFlow then lexer.candidates.drop 1 else lexer.candidates }

def flowEntry (lexer : Lexer) : Option Lexer := do
  let lexer ← lexer.dropCandidate
  return { lexer.take .flowEntry 1 with keyAllowed := true }

/-- Opens a block collection here, which is refused where no key may start. -/
def openBlockHere (lexer : Lexer) (token : Token) : Option Lexer :=
  if lexer.inFlow then some lexer
  else if !lexer.keyAllowed then none
  else some (lexer.openBlock token lexer.cursor.column lexer.tokens.size)

def blockEntry (lexer : Lexer) : Option Lexer := do
  let lexer ← (← lexer.openBlockHere .blockSequenceStart).dropCandidate
  return { lexer.take .blockEntry 1 with keyAllowed := true }

def explicitKey (lexer : Lexer) : Option Lexer := do
  let lexer ← (← lexer.openBlockHere .blockMappingStart).dropCandidate
  return { lexer.take .key 1 with keyAllowed := !lexer.inFlow }

def value (lexer : Lexer) : Option Lexer :=
  match lexer.candidates with
  | some candidate :: rest =>
    let lexer := { lexer with
      tokens := lexer.tokens.insertIdxIfInBounds candidate.position .key
      candidates := none :: rest }
    let lexer := lexer.openBlock .blockMappingStart candidate.column candidate.position
    some { lexer.take .value 1 with keyAllowed := false }
  | _ => do
    let lexer ← lexer.openBlockHere .blockMappingStart
    return { lexer.take .value 1 with keyAllowed := !lexer.inFlow }

/-- Takes a token that ends all open collections and stands outside of them. -/
def outermost (lexer : Lexer) : Option Lexer := do
  let lexer ← (lexer.closeBlocks fun _ => true).dropCandidate
  return { lexer with keyAllowed := false }

/-- Takes a token that may start a key. -/
def nodePart (lexer : Lexer) (token : Cursor → Option (Token × Cursor)) : Option Lexer := do
  let lexer ← lexer.saveCandidate
  let (token, cursor) ← token lexer.cursor
  return { lexer.push token with cursor := cursor, keyAllowed := false }

def quoted (lexer : Lexer) (single : Bool) : Option Lexer :=
  lexer.nodePart fun cursor => do
    let (text, cursor) ← readQuoted single (cursor.rest.length + 1) [] (cursor.skip 1)
    return (.scalar false (String.ofList text), cursor)

def block (lexer : Lexer) (literal : Bool) : Option Lexer := do
  let lexer ← lexer.dropCandidate
  let (text, cursor) ← readBlock literal lexer.indent? (lexer.cursor.skip 1)
  return { lexer.push (.scalar false (String.ofList text)) with
    cursor := cursor
    keyAllowed := true }

/-- Takes a plain scalar. A key may follow it when it has left its last line. -/
def plain (lexer : Lexer) : Option Lexer := do
  let lexer ← lexer.saveCandidate
  let cursor := lexer.cursor
  let (text, cursor, broken) ←
    readPlain lexer.inFlow lexer.contentColumn (cursor.rest.length + 1) {} [] cursor
  return { lexer.push (.scalar true (String.ofList text)) with
    cursor := cursor
    keyAllowed := broken }

/-- The characters that no plain scalar starts with. -/
def isIndicator (c : Char) : Bool := "-?:,[]\x7b\x7d#&*!|>'\"%@\x60".toList.contains c

def next (lexer : Lexer) : Option Lexer :=
  let cursor := lexer.cursor
  if cursor.column == 0 && cursor.sees '%' then do
    let lexer ← lexer.outermost
    let (token, cursor) ← readDirective cursor
    return { lexer.push token with cursor := cursor }
  else if cursor.atMarker '-' then lexer.outermost.map (·.take .documentStart 3)
  else if cursor.atMarker '.' then lexer.outermost.map (·.take .documentEnd 3)
  else match cursor.rest with
    | '[' :: _ => lexer.openFlow .flowSequenceStart
    | '\x7b' :: _ => lexer.openFlow .flowMappingStart
    | ']' :: _ => lexer.closeFlow .flowSequenceEnd
    | '\x7d' :: _ => lexer.closeFlow .flowMappingEnd
    | ',' :: _ => lexer.flowEntry
    | '*' :: _ => lexer.nodePart fun cursor => do
      let (name, cursor) ← readAnchor cursor
      return (.alias name, cursor)
    | '&' :: _ => lexer.nodePart fun cursor => do
      let (name, cursor) ← readAnchor cursor
      return (.anchor name, cursor)
    | '!' :: _ => lexer.nodePart (readTag lexer.inFlow)
    | '\'' :: _ => lexer.quoted true
    | '"' :: _ => lexer.quoted false
    | c :: rest =>
      if c == '-' && endsWord rest then lexer.blockEntry
      else if c == '?' && (lexer.inFlow || endsWord rest) then lexer.explicitKey
      else if c == ':' && (lexer.inFlow || endsWord rest) then lexer.value
      else if c == '|' && !lexer.inFlow then lexer.block true
      else if c == '>' && !lexer.inFlow then lexer.block false
      else if !(isBlank c || isIndicator c) || c == '-' || c == '?' || c == ':' then lexer.plain
      else none
    | [] => none

def run : Nat → Lexer → Option (List Token)
  | 0, _ => none
  | fuel + 1, lexer => do
    let lexer ← (lexer.toNextToken (lexer.cursor.rest.length + 1)).dropOldCandidates
    let lexer := lexer.closeBlocks (lexer.cursor.column < ·)
    if lexer.cursor.atEnd then return (← lexer.outermost).tokens.toList
    else run fuel (← lexer.next)

end Lexer

/-- The tokens of a text, unless it is none. A byte order mark at the start is passed over. -/
def Token.scan (text : String) : Option (List Token) :=
  let chars := match text.toList with
    | '\ufeff' :: rest => rest
    | chars => chars
  if chars.all isAllowed then Lexer.run (chars.length + 1) { cursor := { rest := chars } } else none

end WebhookOperator.Yaml
