import WebhookOperator.Yaml.Token.Lexer

/-!
# The nodes of a YAML document

A document is a tree of scalars, sequences and mappings. Each node may carry a tag and an anchor,
and an alias stands for the node that carries its anchor. A text holds at most one document here:
what follows it must be the end of the text.

Where a key, a value or an entry is missing, an empty plain scalar stands in its place.
-/

namespace WebhookOperator.Yaml

/-- The anchor and the tag of a node. -/
structure Properties where
  anchor : Option String := none
  tag : Option String := none
deriving DecidableEq, Inhabited

inductive Node where
  | alias (name : String)
  | scalar (properties : Properties) (plain : Bool) (text : String)
  | sequence (properties : Properties) (items : List Node)
  | mapping (properties : Properties) (entries : List (Node × Node))
deriving Inhabited

namespace Node

def missing : Node := .scalar {} true ""

/-- What the handles of tags stand for. -/
abbrev Handles := List (String × String)

/-- The handles that every document knows. -/
def defaultHandles : Handles := [("!", "!"), ("!!", "tag:yaml.org,2002:")]

/-- The tag that a handle and a suffix make. -/
def tagOf? (handles : Handles) (handle suffix : String) : Option String :=
  if handle.isEmpty then some suffix else (handles.lookup handle).map (· ++ suffix)

/-- The anchor and the tag before a node, in any order. -/
def readProperties (handles : Handles) : List Token → Option (Properties × List Token)
  | .anchor name :: .tag handle suffix :: rest => do
    return ({ anchor := some name, tag := some (← tagOf? handles handle suffix) }, rest)
  | .tag handle suffix :: .anchor name :: rest => do
    return ({ anchor := some name, tag := some (← tagOf? handles handle suffix) }, rest)
  | .anchor name :: rest => some ({ anchor := some name }, rest)
  | .tag handle suffix :: rest => do
    return ({ tag := some (← tagOf? handles handle suffix) }, rest)
  | rest => some ({}, rest)

/-- A scalar. A tag that is a mark alone says nothing. -/
def ofScalar (properties : Properties) (plain : Bool) (text : String) : Node :=
  if properties.tag = some "!" then .scalar { properties with tag := none } plain text
  else .scalar properties plain text

/-- Where a node may end without having begun. -/
structure Place where
  /-- Whether block collections may start here. -/
  block : Bool
  /-- Whether a sequence may start here without being indented. -/
  indentless : Bool := false

/-- Whether a missing node is followed by the next token in an indented sequence. -/
def endsEntry : Option Token → Bool
  | some .blockEntry | some .blockEnd => true
  | _ => false

def endsPlainEntry : Option Token → Bool
  | some .blockEntry | some .key | some .value | some .blockEnd => true
  | _ => false

def endsPair : Option Token → Bool
  | some .key | some .value | some .blockEnd => true
  | _ => false

/-- Whether a missing node is followed by the next token between brackets that `close` ends. -/
def endsFlow (close : Token) (token : Option Token) : Bool :=
  token == some .flowEntry || token == some close

mutual

def read (handles : Handles) (fuel : Nat) (place : Place) (tokens : List Token) :
    Option (Node × List Token) :=
  match fuel with
  | 0 => none
  | fuel + 1 =>
    match tokens with
    | .alias name :: rest => some (.alias name, rest)
    | tokens => do
      let (properties, rest) ← readProperties handles tokens
      match rest with
      | .scalar plain text :: rest => return (ofScalar properties plain text, rest)
      | .flowSequenceStart :: rest => do
        let (items, rest) ← readFlowItems handles fuel true rest
        return (.sequence properties items, rest)
      | .flowMappingStart :: rest => do
        let (entries, rest) ← readFlowEntries handles fuel true rest
        return (.mapping properties entries, rest)
      | .blockEntry :: _ =>
        if place.indentless then
          let (items, rest) ← readPlainItems handles fuel rest
          return (.sequence properties items, rest)
        else if properties == {} then none
        else return (.scalar properties true "", rest)
      | token :: behind =>
        if place.block && token == .blockSequenceStart then
          let (items, rest) ← readItems handles fuel behind
          return (.sequence properties items, rest)
        else if place.block && token == .blockMappingStart then
          let (entries, rest) ← readEntries handles fuel behind
          return (.mapping properties entries, rest)
        else if properties == {} then none
        else return (.scalar properties true "", rest)
      | [] => if properties == {} then none else return (.scalar properties true "", rest)

def readUnless (handles : Handles) (fuel : Nat) (place : Place) (ended : Option Token → Bool)
    (tokens : List Token) : Option (Node × List Token) :=
  match fuel with
  | 0 => none
  | fuel + 1 =>
    if ended tokens.head? then some (missing, tokens) else read handles fuel place tokens

/-- The items of an indented sequence up to its end. -/
def readItems (handles : Handles) (fuel : Nat) (tokens : List Token) :
    Option (List Node × List Token) :=
  match fuel with
  | 0 => none
  | fuel + 1 =>
    match tokens with
    | .blockEntry :: rest => do
      let (item, rest) ← readUnless handles fuel { block := true } endsEntry rest
      let (items, rest) ← readItems handles fuel rest
      return (item :: items, rest)
    | .blockEnd :: rest => some ([], rest)
    | _ => none

/-- The items of a sequence that is not indented, which ends where no further one starts. -/
def readPlainItems (handles : Handles) (fuel : Nat) (tokens : List Token) :
    Option (List Node × List Token) :=
  match fuel with
  | 0 => none
  | fuel + 1 =>
    match tokens with
    | .blockEntry :: rest => do
      let (item, rest) ← readUnless handles fuel { block := true } endsPlainEntry rest
      let (items, rest) ← readPlainItems handles fuel rest
      return (item :: items, rest)
    | _ => some ([], tokens)

def readEntries (handles : Handles) (fuel : Nat) (tokens : List Token) :
    Option (List (Node × Node) × List Token) :=
  match fuel with
  | 0 => none
  | fuel + 1 =>
    match tokens with
    | .key :: rest => do
      let place : Place := { block := true, indentless := true }
      let (key, rest) ← readUnless handles fuel place endsPair rest
      let (value, rest) ← match rest with
        | .value :: rest => readUnless handles fuel place endsPair rest
        | rest => some (missing, rest)
      let (entries, rest) ← readEntries handles fuel rest
      return ((key, value) :: entries, rest)
    | .blockEnd :: rest => some ([], rest)
    | _ => none

/-- The items between square brackets. A key among them makes a mapping of one entry. Where nothing
follows the mark of such a key, the token behind the mark is passed over. -/
def readFlowItems (handles : Handles) (fuel : Nat) (first : Bool) (tokens : List Token) :
    Option (List Node × List Token) :=
  match fuel with
  | 0 => none
  | fuel + 1 =>
    match tokens with
    | .flowSequenceEnd :: rest => some ([], rest)
    | tokens => do
      let tokens ← match first, tokens with
        | true, tokens => some tokens
        | false, .flowEntry :: rest => some rest
        | false, _ => none
      match tokens with
      | .flowSequenceEnd :: rest => return ([], rest)
      | .key :: rest => do
        let (key, rest) ←
          if endsFlow .flowSequenceEnd rest.head? || rest.head? == some .value then
            some (missing, rest.drop 1)
          else read handles fuel { block := false } rest
        let (value, rest) ← match rest with
          | .value :: rest =>
            readUnless handles fuel { block := false } (endsFlow .flowSequenceEnd) rest
          | rest => some (missing, rest)
        let (items, rest) ← readFlowItems handles fuel false rest
        return (.mapping {} [(key, value)] :: items, rest)
      | tokens => do
        let (item, rest) ← read handles fuel { block := false } tokens
        let (items, rest) ← readFlowItems handles fuel false rest
        return (item :: items, rest)

def readFlowEntries (handles : Handles) (fuel : Nat) (first : Bool) (tokens : List Token) :
    Option (List (Node × Node) × List Token) :=
  match fuel with
  | 0 => none
  | fuel + 1 =>
    match tokens with
    | .flowMappingEnd :: rest => some ([], rest)
    | tokens => do
      let tokens ← match first, tokens with
        | true, tokens => some tokens
        | false, .flowEntry :: rest => some rest
        | false, _ => none
      match tokens with
      | .flowMappingEnd :: rest => return ([], rest)
      | .key :: rest => do
        let ended (token : Option Token) : Bool :=
          endsFlow .flowMappingEnd token || token == some .value
        let (key, rest) ← readUnless handles fuel { block := false } ended rest
        let (value, rest) ← match rest with
          | .value :: rest =>
            readUnless handles fuel { block := false } (endsFlow .flowMappingEnd) rest
          | rest => some (missing, rest)
        let (entries, rest) ← readFlowEntries handles fuel false rest
        return ((key, value) :: entries, rest)
      | tokens => do
        let (key, rest) ← read handles fuel { block := false } tokens
        let (entries, rest) ← readFlowEntries handles fuel false rest
        return ((key, missing) :: entries, rest)

end

/-! ### The document of a text -/

/-- The directives before a document: a version that is 1.1 or 1.2 and given once, and handles that
are each given once. -/
def readDirectives (versioned : Bool) (handles : Handles) :
    List Token → Option (Handles × List Token)
  | .version major minor :: rest =>
    if versioned || major != 1 || !(minor == 1 || minor == 2) then none
    else readDirectives true handles rest
  | .tagHandle handle start :: rest =>
    if (handles.lookup handle).isSome then none
    else readDirectives versioned ((handle, start) :: handles) rest
  | rest => some (handles, rest)

/-- Whether nothing of a document stands before the next token. -/
def endsDocument : Option Token → Bool
  | some (.version ..) | some (.tagHandle ..) | some .documentStart | some .documentEnd => true
  | some _ => false
  | none => true

/-- The document that tokens make; a text without any has none. -/
def ofTokens? (tokens : List Token) : Option (Option Node) := do
  if tokens.isEmpty then return none
  let fuel := 4 * tokens.length + 4
  let marked := match tokens.head? with
    | some (.version ..) | some (.tagHandle ..) | some .documentStart => true
    | _ => false
  let (root, rest) ←
    if marked then do
      let (handles, rest) ← readDirectives false [] tokens
      match rest with
      | .documentStart :: rest =>
        readUnless (handles ++ defaultHandles) fuel { block := true } endsDocument rest
      | _ => none
    else read defaultHandles fuel { block := true } tokens
  if rest.all (· == .documentEnd) then return some root else none

def ofText? (text : String) : Option (Option Node) := do ofTokens? (← Token.scan text)

end Node

end WebhookOperator.Yaml
