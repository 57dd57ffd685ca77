import SocksProxy.Yaml.Scalar

/-!
A text cut into tokens. Indentation becomes the starts and ends of block collections, which have
tokens of their own. A node that may turn out to be a key is remembered, and once the colon comes,
the key's token is put before it.
-/

namespace SocksProxy.Yaml

structure Tag where
  handle : String
  suffix : String
  deriving DecidableEq, Repr

inductive Token where
  | streamEnd
  | directive
  | documentStart
  | documentEnd
  | blockSequenceStart
  | blockMappingStart
  | blockEnd
  | flowSequenceStart
  | flowSequenceEnd
  | flowMappingStart
  | flowMappingEnd
  | blockEntry
  | flowEntry
  | key
  | value
  | alias (name : String)
  | anchor (name : String)
  | tag (tag : Tag)
  | scalar (plain : Bool) (text : String)
  deriving DecidableEq, Repr

/-- A handle: an exclamation mark, a name, and perhaps another mark. -/
def readHandle (inDirective : Bool) (c : Cursor) : Option (List Char × Cursor) :=
  if c.char == '!' then
    let (name, after) := c.next.run isNameChar
    if after.char == '!' then some ('!' :: name ++ ['!'], after.next)
    else if inDirective && !name.isEmpty then none
    else some ('!' :: name, after)
  else none

/-- What may stand in the rest of a tag as it is. -/
def isUriChar (c : Char) : Bool :=
  isNameChar c || [';', '/', '?', ':', '@', '&', '=', '+', '$', ',', '.', '!', '~', '*', '\'', '(',
    ')', '[', ']'].contains c

def readOctet (c : Cursor) : Option (Nat × Cursor) :=
  if c.char == '%' then do
    let high ← hexDigit? (c.peek 1)
    let low ← hexDigit? (c.peek 2)
    pure (high * 16 + low, c.skip 3)
  else none

def octetCount? (first : Nat) : Option Nat :=
  if first < 0x80 then some 1
  else if first < 0xC0 then none
  else if first < 0xE0 then some 2
  else if first < 0xF0 then some 3
  else if first < 0xF8 then some 4
  else none

/-- Octets that continue an escaped character, put behind one another. -/
def readTrailing : Nat → Nat → Cursor → Option (Nat × Cursor)
  | 0, code, c => some (code, c)
  | n + 1, code, c => do
      let (octet, after) ← readOctet c
      if octet < 0x80 || 0xC0 ≤ octet then none
      else readTrailing n (code * 256 + octet) after

def readUriEscape (c : Cursor) : Option (Char × Cursor) := do
  let (first, after) ← readOctet c
  let count ← octetCount? first
  let (code, behind) ← readTrailing (count - 1) first after
  let written ← charOfCode? code
  pure (written, behind)

def readUriFrom : Nat → List Char → Cursor → Option (List Char × Cursor)
  | 0, text, c => some (text, c)
  | fuel + 1, text, c =>
      if c.char == '%' then do
        let (written, behind) ← readUriEscape c
        readUriFrom fuel (text ++ [written]) behind
      else if isUriChar c.char then readUriFrom fuel (text ++ [c.char]) c.next
      else some (text, c)

/-- The rest of a tag, behind what has been read of it; together they are not empty. -/
def readUri (head : List Char) (c : Cursor) : Option (List Char × Cursor) := do
  let (text, after) ← readUriFrom (c.rest.length + 1) [] c
  if head.isEmpty && text.isEmpty then none else pure (head.drop 1 ++ text, after)

/-- A tag in full, with a handle, or with a mark alone. -/
def readTag (c : Cursor) : Option (Tag × Cursor) := do
  let (tag, after) ←
    if c.peek 1 == '<' then do
      let (suffix, after) ← readUri [] (c.skip 2)
      if after.char == '>' then pure (Tag.mk "" (String.ofList suffix), after.next) else none
    else do
      let (handle, after) ← readHandle false c
      if 2 ≤ handle.length && handle.getLast? == some '!' then do
        let (suffix, after) ← readUri [] after
        pure (Tag.mk (String.ofList handle) (String.ofList suffix), after)
      else do
        let (suffix, after) ← readUri handle after
        if suffix.isEmpty then pure (Tag.mk "" "!", after)
        else pure (Tag.mk "!" (String.ofList suffix), after)
  if isSpace after.char then pure (tag, after) else none

/-- The name of an anchor or an alias, behind its mark. -/
def readName (c : Cursor) : Option (String × Cursor) :=
  let (name, after) := c.next.run isNameChar
  let ends := ['?', ':', ',', ']', '\x7d', '%', '@', '\x60']
  if name.isEmpty then none
  else if isSpace after.char || ends.contains after.char then some (String.ofList name, after)
  else none

def skipNumber (c : Cursor) : Option Cursor :=
  let (digits, after) := c.run isDigit
  if digits.isEmpty || 9 < digits.length then none else some after

def skipVersion (c : Cursor) : Option Cursor := do
  let major ← skipNumber c.skipBlanks
  if major.char == '.' then skipNumber major.next else none

def skipTagRule (c : Cursor) : Option Cursor := do
  let (_, after) ← readHandle true c.skipBlanks
  let (_, behind) ← readUri [] after.skipBlanks
  if isSpace behind.char then pure behind else none

/-- A directive has no effect, but a known one is written as it should be. -/
def skipDirective (c : Cursor) : Option Cursor := do
  let (name, after) := c.next.run isNameChar
  if name.isEmpty || !isSpace after.char then none
  else do
    let behind ←
      if name = "YAML".toList then skipVersion after
      else if name = "TAG".toList then skipTagRule after
      else pure after.skipLine
    let last := behind.skipBlanks.skipComment
    if isBreakOrEnd last.char then pure last.skipBreak else none

structure KeyPlace where
  possible : Bool
  -- Nothing else than a key may stand there.
  required : Bool
  -- How many tokens come before.
  before : Nat
  index : Nat
  line : Nat
  column : Nat
  deriving Repr

def KeyPlace.none : KeyPlace := ⟨false, false, 0, 0, 0, 0⟩

structure Lexer where
  cursor : Cursor
  tokens : Array Token
  -- The column of the innermost block collection, plus one; zero outside of any.
  indent : Nat
  indents : List Nat
  -- A place for each open flow collection, and one for the block around them.
  key : KeyPlace
  outerKeys : List KeyPlace
  keyAllowed : Bool
  -- How many flow collections are open.
  flow : Nat
  -- Where a colon may follow a quoted key directly.
  adjacent : Option Nat
  ended : Bool

namespace Lexer

def ofText (text : String) : Lexer :=
  { cursor := Cursor.ofText text, tokens := #[], indent := 0, indents := [], key := .none
    outerKeys := [], keyAllowed := true, flow := 0, adjacent := none, ended := false }

def inFlow (l : Lexer) : Bool := l.flow != 0

def push (token : Token) (l : Lexer) : Lexer := { l with tokens := l.tokens.push token }

def insert (place : Nat) (token : Token) (l : Lexer) : Lexer :=
  { l with
    tokens := (l.tokens.extract 0 place).push token ++ l.tokens.extract place l.tokens.size }

def moveTo (cursor : Cursor) (l : Lexer) : Lexer := { l with cursor := cursor }

def allowKey (allowed : Bool) (l : Lexer) : Lexer := { l with keyAllowed := allowed }

def deepestFlow : Nat := 255

/-- A key that has to be one and is given up makes the text malformed. -/
def dropKey (l : Lexer) : Option Lexer :=
  if l.key.possible && l.key.required then none
  else some { l with key := { l.key with possible := false } }

/-- A key does not go on in the next line, nor for more than 1024 characters. -/
def expire (c : Cursor) (k : KeyPlace) : Option KeyPlace :=
  if k.possible && (k.line < c.line || k.index + 1024 < c.index) then
    if k.required then none else some { k with possible := false }
  else some k

def expireKeys (l : Lexer) : Option Lexer := do
  let outerKeys ← l.outerKeys.mapM (expire l.cursor)
  let key ← expire l.cursor l.key
  pure { l with key, outerKeys }

/-- What begins here may turn out to be a key. -/
def saveKey (l : Lexer) : Option Lexer :=
  if l.keyAllowed then do
    let dropped ← l.dropKey
    let c := l.cursor
    let required := l.inFlow && l.indent == c.column + 1
    pure { dropped with key := ⟨true, required, l.tokens.size, c.index, c.line, c.column⟩ }
  else some l

/-- Begin a block collection if this column is further in. -/
def roll (column : Nat) (place : Nat) (token : Token) (l : Lexer) : Lexer :=
  if l.inFlow || column + 1 ≤ l.indent then l
  else { (l.insert place token) with indent := column + 1, indents := l.indent :: l.indents }

/-- End the block collections that are further in than this. -/
def unrollTo (column : Nat) : List Nat → Lexer → Lexer
  | [], l => l
  | outer :: rest, l =>
      if column < l.indent then
        unrollTo column rest { (l.push .blockEnd) with indent := outer, indents := rest }
      else l

/-- The column is counted from one; zero ends every block collection. -/
def unroll (column : Nat) (l : Lexer) : Lexer :=
  if l.inFlow then l else unrollTo column l.indents l

/-- Over blanks, line breaks and comments. A tab does not indent. -/
def skipSpace : Nat → Lexer → Lexer
  | 0, l => l
  | fuel + 1, l =>
      let c := l.cursor.char
      if c == ' ' || (c == '\t' && (l.inFlow || !l.keyAllowed)) then
        skipSpace fuel (l.moveTo l.cursor.next)
      else if isBreak c then
        let next := l.moveTo l.cursor.skipBreak
        skipSpace fuel (if l.inFlow then next else next.allowKey true)
      else if c == '#' then skipSpace fuel (l.moveTo l.cursor.skipLine)
      else l

def endStream (l : Lexer) : Option Lexer := do
  let dropped ← (l.unroll 0).dropKey
  pure { (dropped.push .streamEnd) with ended := true }

def directive (l : Lexer) : Option Lexer := do
  let dropped ← (l.unroll 0).dropKey
  let behind ← skipDirective l.cursor
  pure (((dropped.allowKey false).moveTo behind).push .directive)

def documentMarker (token : Token) (l : Lexer) : Option Lexer := do
  let dropped ← (l.unroll 0).dropKey
  pure (((dropped.allowKey false).moveTo (l.cursor.skip 3)).push token)

def flowStart (token : Token) (l : Lexer) : Option Lexer := do
  let saved ← l.saveKey
  if saved.flow = deepestFlow then none
  else
    pure (({ saved with
      key := .none
      outerKeys := saved.key :: saved.outerKeys
      flow := saved.flow + 1
      keyAllowed := true
      cursor := l.cursor.next }).push token)

def flowEnd (token : Token) (l : Lexer) : Option Lexer := do
  let dropped ← l.dropKey
  let closed : Lexer :=
    match dropped.outerKeys with
    | [] => dropped
    | outer :: rest => { dropped with key := outer, outerKeys := rest, flow := dropped.flow - 1 }
  pure (((closed.allowKey false).moveTo l.cursor.next).push token)

def flowEntry (l : Lexer) : Option Lexer := do
  let dropped ← l.dropKey
  pure (((dropped.allowKey true).moveTo l.cursor.next).push .flowEntry)

def blockEntry (l : Lexer) : Option Lexer :=
  if l.inFlow || !l.keyAllowed then none
  else do
    let dropped ← (l.roll l.cursor.column l.tokens.size .blockSequenceStart).dropKey
    pure (((dropped.allowKey true).moveTo l.cursor.next).push .blockEntry)

def markedKey (l : Lexer) : Option Lexer :=
  if !l.inFlow && !l.keyAllowed then none
  else do
    let dropped ← (l.roll l.cursor.column l.tokens.size .blockMappingStart).dropKey
    pure (((dropped.allowKey (!l.inFlow)).moveTo l.cursor.next).push .key)

/-- A colon: what was remembered is a key, or a marked key ends. -/
def value (l : Lexer) : Option Lexer :=
  if l.key.possible then
    let keyed := l.insert l.key.before .key
    let rolled := keyed.roll l.key.column l.key.before .blockMappingStart
    let used := { rolled with key := { l.key with possible := false }, keyAllowed := false }
    some ((used.moveTo l.cursor.next).push .value)
  else if !l.inFlow && !l.keyAllowed then none
  else
    let rolled := l.roll l.cursor.column l.tokens.size .blockMappingStart
    some (((rolled.allowKey (!l.inFlow)).moveTo l.cursor.next).push .value)

def node (token : Token) (behind : Cursor) (l : Lexer) : Option Lexer := do
  let saved ← l.saveKey
  pure (((saved.allowKey false).moveTo behind).push token)

def name (token : String → Token) (l : Lexer) : Option Lexer := do
  let (text, behind) ← readName l.cursor
  l.node (token text) behind

def tag (l : Lexer) : Option Lexer := do
  let (tag, behind) ← readTag l.cursor
  l.node (.tag tag) behind

def plain (l : Lexer) : Option Lexer := do
  let read ← Scalar.plain l.inFlow l.indent l.cursor
  let done ← l.node (.scalar true (String.ofList read.text)) read.cursor
  pure (if read.broken then done.allowKey true else done)

/-- A quoted key in a flow collection may have its colon right behind it. -/
def quoted (single : Bool) (l : Lexer) : Option Lexer := do
  let (text, behind) ← Scalar.quoted single l.cursor
  let done ← l.node (.scalar false (String.ofList text)) behind
  pure { done with adjacent := some behind.index }

def block (literal : Bool) (l : Lexer) : Option Lexer := do
  let (text, behind) ← Scalar.block literal l.indent l.cursor
  let done ← l.node (.scalar false (String.ofList text)) behind
  pure (done.allowKey true)

def token (l : Lexer) : Option Lexer :=
  let c := l.cursor.char
  let after := l.cursor.peek 1
  if isEnd c then l.endStream
  else if l.cursor.column == 0 && c == '%' then l.directive
  else if l.cursor.atMarker '-' then l.documentMarker .documentStart
  else if l.cursor.atMarker '.' then l.documentMarker .documentEnd
  else if c == '[' then l.flowStart .flowSequenceStart
  else if c == '\x7b' then l.flowStart .flowMappingStart
  else if c == ']' then l.flowEnd .flowSequenceEnd
  else if c == '\x7d' then l.flowEnd .flowMappingEnd
  else if c == ',' then l.flowEntry
  else if c == '-' && isSpace after then l.blockEntry
  else if c == '?' && isSpace after then l.markedKey
  else if c == ':' && (isSpace after ||
      (l.inFlow && (isFlowMark after || l.adjacent == some l.cursor.index))) then l.value
  else if c == '*' then l.name .alias
  else if c == '&' then l.name .anchor
  else if c == '!' then l.tag
  else if c == '|' && !l.inFlow then l.block true
  else if c == '>' && !l.inFlow then l.block false
  else if c == '\'' then l.quoted true
  else if c == '"' then l.quoted false
  else if c == '%' || c == '@' || c == '\x60' then none
  else l.plain

/-- Over what separates tokens, and the next token. -/
def step (l : Lexer) : Option Lexer := do
  let fresh ← (l.skipSpace (l.cursor.rest.length + 1)).expireKeys
  (fresh.unroll (fresh.cursor.column + 1)).token

def run : Nat → Lexer → Option Lexer
  | 0, _ => none
  | fuel + 1, l => if l.ended then some l else (l.step).bind (run fuel)

end Lexer

def Token.scan (text : String) : Option (List Token) :=
  let start := Lexer.ofText text
  (start.run (start.cursor.rest.length + 2)).map fun l => l.tokens.toList

end SocksProxy.Yaml
