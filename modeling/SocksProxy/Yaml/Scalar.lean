/-!
Scalars, read from where they begin: plain, in single or double quotes, and in blocks. Line breaks
between words are folded: one becomes a space, and more become one less. A place in a text has its
line and column; both kinds of line break end a line of text, but only a line feed begins a new line
in the count, and past the end there are only zero characters, which no text holds.
-/

namespace SocksProxy.Yaml

def isBreak (c : Char) : Bool := c == '\n' || c == '\r'

def isEnd (c : Char) : Bool := c == '\x00'

def isBlank (c : Char) : Bool := c == ' ' || c == '\t'

def isBreakOrEnd (c : Char) : Bool := isBreak c || isEnd c

/-- Nothing that could belong to a word. -/
def isSpace (c : Char) : Bool := isBlank c || isBreakOrEnd c

def isFlowMark (c : Char) : Bool :=
  c == ',' || c == '[' || c == ']' || c == '\x7b' || c == '\x7d'

def isNameChar (c : Char) : Bool :=
  ('0' ≤ c && c ≤ '9') || ('a' ≤ c && c ≤ 'z') || ('A' ≤ c && c ≤ 'Z') || c == '_' || c == '-'

def isDigit (c : Char) : Bool := '0' ≤ c && c ≤ '9'

def hexDigit? (c : Char) : Option Nat :=
  if '0' ≤ c && c ≤ '9' then some (c.toNat - 48)
  else if 'a' ≤ c && c ≤ 'f' then some (c.toNat - 87)
  else if 'A' ≤ c && c ≤ 'F' then some (c.toNat - 55)
  else none

def charOfCode? (code : Nat) : Option Char :=
  if code < 0xD800 || (0xDFFF < code && code ≤ 0x10FFFF) then some (Char.ofNat code) else none

structure Cursor where
  rest : List Char
  index : Nat
  line : Nat
  column : Nat
  deriving DecidableEq, Repr

namespace Cursor

/-- A text ends at its first zero character. -/
def ofText (text : String) : Cursor :=
  ⟨text.toList.takeWhile fun c => !isEnd c, 0, 0, 0⟩

/-- The character so many places ahead. -/
def peek (c : Cursor) (ahead : Nat) : Char := c.rest[ahead]?.getD '\x00'

def char (c : Cursor) : Char := c.peek 0

def next (c : Cursor) : Cursor :=
  match c.rest with
  | [] => c
  | '\n' :: rest => ⟨rest, c.index + 1, c.line + 1, 0⟩
  | _ :: rest => ⟨rest, c.index + 1, c.line, c.column + 1⟩

def skip : Nat → Cursor → Cursor
  | 0, c => c
  | n + 1, c => skip n c.next

/-- Over one line break of either kind, or both kinds together. -/
def skipBreak (c : Cursor) : Cursor :=
  if c.char == '\r' && c.peek 1 == '\n' then c.skip 2
  else if isBreak c.char then c.next
  else c

/-- The longest run of characters of a kind, and the place behind it. -/
def run (kind : Char → Bool) (c : Cursor) : List Char × Cursor :=
  let taken := c.rest.takeWhile kind
  (taken, c.skip taken.length)

def skipBlanks (c : Cursor) : Cursor := (c.run isBlank).2

def skipLine (c : Cursor) : Cursor := (c.run fun x => !isBreakOrEnd x).2

def skipComment (c : Cursor) : Cursor := if c.char == '#' then c.skipLine else c

/-- At the start of a line, three dashes or three dots that stand alone. -/
def atMarker (mark : Char) (c : Cursor) : Bool :=
  c.column == 0 && c.peek 0 == mark && c.peek 1 == mark && c.peek 2 == mark && isSpace (c.peek 3)

def atDocumentMarker (c : Cursor) : Bool := c.atMarker '-' || c.atMarker '.'

end Cursor

end SocksProxy.Yaml

namespace SocksProxy.Yaml.Scalar

structure Gap where
  -- Blanks, as long as there is no line break.
  blanks : List Char
  broken : Bool
  -- The first line break counts as a space if it is the only one.
  folded : Bool
  -- Line breaks after the first.
  extra : Nat
  deriving DecidableEq, Repr

namespace Gap

def empty : Gap := ⟨[], false, false, 0⟩

/-- After a line break that is taken back. -/
def escaped : Gap := ⟨[], true, false, 0⟩

def text (g : Gap) : List Char :=
  if g.broken then
    if g.folded && g.extra == 0 then [' '] else List.replicate g.extra '\n'
  else g.blanks

def addBreak (g : Gap) : Gap :=
  if g.broken then { g with extra := g.extra + 1 } else ⟨[], true, true, 0⟩

def addBlank (c : Char) (g : Gap) : Gap :=
  if g.broken then g else { g with blanks := g.blanks ++ [c] }

/-- Read blanks and line breaks. A tab that indents a line less than this is refused. -/
def read (least : Nat) : Nat → Gap → Cursor → Option (Gap × Cursor)
  | 0, g, c => some (g, c)
  | fuel + 1, g, c =>
      if isBlank c.char then
        if g.broken && c.column < least && c.char == '\t' then none
        else read least fuel (g.addBlank c.char) c.next
      else if isBreak c.char then read least fuel g.addBreak c.skipBreak
      else some (g, c)

end Gap

/-- The length of a plain word: it ends before a blank, and before what would be a token. -/
def wordLength (inFlow : Bool) : List Char → Nat
  | [] => 0
  | c :: rest =>
      let after := rest.headD '\x00'
      if isSpace c then 0
      else if c == ':' && (isSpace after || (inFlow && isFlowMark after)) then 0
      else if inFlow && isFlowMark c then 0
      else wordLength inFlow rest + 1

/-- A plain scalar that has been read: its text, whether a line break follows its last word, and the
place behind. -/
structure Plain where
  text : List Char
  broken : Bool
  cursor : Cursor

/-- Words and gaps in turn. A line that is indented less than this, a comment and a document marker
end the scalar. -/
def plainFrom (inFlow : Bool) (least : Nat) : Nat → List Char → Gap → Cursor → Option Plain
  | 0, text, gap, c => some ⟨text, gap.broken, c⟩
  | fuel + 1, text, gap, c =>
      if c.atDocumentMarker || c.char == '#' then some ⟨text, gap.broken, c⟩
      else
        let length := wordLength inFlow c.rest
        let after := c.skip length
        let text := if length == 0 then text else text ++ gap.text ++ c.rest.take length
        let gap := if length == 0 then gap else Gap.empty
        if isBlank after.char || isBreak after.char then do
          let (gap, behind) ← gap.read least after.rest.length after
          if !inFlow && behind.column < least then pure ⟨text, gap.broken, behind⟩
          else plainFrom inFlow least fuel text gap behind
        else some ⟨text, gap.broken, after⟩

def plain (inFlow : Bool) (least : Nat) (c : Cursor) : Option Plain :=
  plainFrom inFlow least (c.rest.length + 1) [] Gap.empty c

/-- The character that an escape of one letter stands for. -/
def escape? (c : Char) : Option Char :=
  match c with
  | '0' => some '\x00'
  | 'a' => some '\x07'
  | 'b' => some '\x08'
  | 't' | '\t' => some '\t'
  | 'n' => some '\n'
  | 'v' => some '\x0b'
  | 'f' => some '\x0c'
  | 'r' => some '\r'
  | 'e' => some '\x1b'
  | ' ' => some ' '
  | '"' => some '"'
  | '\'' => some '\''
  | '\\' => some '\\'
  | 'N' => some '\u0085'
  | '_' => some '\u00a0'
  | 'L' => some '\u2028'
  | 'P' => some '\u2029'
  | _ => none

/-- How many digits follow an escape that gives a code. -/
def codeLength? (c : Char) : Option Nat :=
  match c with
  | 'x' => some 2
  | 'u' => some 4
  | 'U' => some 8
  | _ => none

def hexValue? (digits : List Char) : Option Nat :=
  digits.foldlM (fun value d => (hexDigit? d).map (value * 16 + ·)) 0

def readEscape (c : Cursor) : Option (Char × Cursor) :=
  match codeLength? (c.peek 1) with
  | none => (escape? (c.peek 1)).map fun written => (written, c.skip 2)
  | some length => do
      let digits := (c.rest.drop 2).take length
      let code ← if digits.length = length then hexValue? digits else none
      let written ← charOfCode? code
      pure (written, c.skip (2 + length))

/-- A word between quotes, and whether a line break that is taken back ends it. -/
def quotedWord (single : Bool) : Nat → List Char → Cursor → Option (List Char × Bool × Cursor)
  | 0, text, c => some (text, false, c)
  | fuel + 1, text, c =>
      if isSpace c.char then some (text, false, c)
      else if single then
        if c.char == '\'' then
          if c.peek 1 == '\'' then quotedWord single fuel (text ++ ['\'']) (c.skip 2)
          else some (text, false, c)
        else quotedWord single fuel (text ++ [c.char]) c.next
      else if c.char == '"' then some (text, false, c)
      else if c.char == '\\' then
        if isBreak (c.peek 1) then some (text, true, c.next.skipBreak)
        else do
          let (written, behind) ← readEscape c
          quotedWord single fuel (text ++ [written]) behind
      else quotedWord single fuel (text ++ [c.char]) c.next

/-- Words and gaps in turn, up to the closing quote. -/
def quotedFrom (single : Bool) : Nat → List Char → Cursor → Option (List Char × Cursor)
  | 0, _, _ => none
  | fuel + 1, text, c =>
      if c.atDocumentMarker || isEnd c.char then none
      else do
        let (text, escaped, after) ← quotedWord single (c.rest.length + 1) text c
        if after.char == (if single then '\'' else '"') then pure (text, after.next)
        else do
          let begun := if escaped then Gap.escaped else Gap.empty
          let (gap, behind) ← begun.read 0 after.rest.length after
          quotedFrom single fuel (text ++ gap.text) behind

def quoted (single : Bool) (c : Cursor) : Option (List Char × Cursor) :=
  quotedFrom single (c.rest.length + 1) [] c.next

/-- What becomes of the line breaks at the end of a block. -/
inductive Chomping where
  | strip
  | clip
  | keep
  deriving DecidableEq, Repr

def chomping? (c : Char) : Option Chomping :=
  if c == '+' then some .keep else if c == '-' then some .strip else none

def increment? (c : Cursor) : Option (Option Nat × Cursor) :=
  if isDigit c.char then
    if c.char == '0' then none else some (some (c.char.toNat - 48), c.next)
  else some (none, c)

/-- Chomping and indentation in either order, both optional. -/
def blockHeader (c : Cursor) : Option (Chomping × Option Nat × Cursor) :=
  match chomping? c.char with
  | some chomping => (increment? c.next).map fun r => (chomping, r.1, r.2)
  | none => do
      let (increment, behind) ← increment? c
      match increment, chomping? behind.char with
      | some _, some chomping => pure (chomping, increment, behind.next)
      | _, _ => pure (.clip, increment, behind)

/-- Empty lines before a line of a block, and the indentation if it is not known yet. -/
structure Lead where
  indent : Nat
  breaks : Nat
  cursor : Cursor

/-- While the indentation is not known it is zero, and the deepest line so far counts. -/
def leadFrom (indent parent : Nat) : Nat → Nat → Nat → Cursor → Option Lead
  | 0, _, breaks, c => some ⟨indent, breaks, c⟩
  | fuel + 1, deepest, breaks, c =>
      let spaces := (c.rest.takeWhile (· == ' ')).length
      let wanted := if indent == 0 then spaces else min spaces (indent - c.column)
      let c := c.skip wanted
      let deepest := max deepest c.column
      if (indent == 0 || c.column < indent) && c.char == '\t' then none
      else if isBreak c.char then leadFrom indent parent fuel deepest (breaks + 1) c.skipBreak
      else some ⟨if indent == 0 then max (max deepest parent) 1 else indent, breaks, c⟩

def lead (indent parent : Nat) (c : Cursor) : Option Lead :=
  leadFrom indent parent (c.rest.length + 1) 0 0 c

/-- What has been read of a block: its text, whether a line break is still held back, and the empty
lines after it. -/
structure Block where
  text : List Char
  held : Bool
  breaks : Nat
  cursor : Cursor

/-- Lines of a block. Between two lines of a folded one that do not begin with a blank, the line
break becomes a space if no empty line follows it. -/
def blockFrom (literal : Bool) (parent : Nat) :
    Nat → Bool → Nat → Block → Option Block
  | 0, _, _, b => some b
  | fuel + 1, leadingBlank, indent, b =>
      let c := b.cursor
      if c.column == indent && !isEnd c.char then
        let blank := isBlank c.char
        let joint : List Char :=
          if !literal && b.held && !leadingBlank && !blank then
            if b.breaks == 0 then [' '] else []
          else if b.held then ['\n'] else []
        let line := c.rest.takeWhile fun x => !isBreakOrEnd x
        let text := b.text ++ joint ++ List.replicate b.breaks '\n' ++ line
        let after := c.skip line.length
        if isEnd after.char then some ⟨text, false, 0, after⟩
        else do
          let next ← lead indent parent after.skipBreak
          blockFrom literal parent fuel blank next.indent ⟨text, true, next.breaks, next.cursor⟩
      else some b

/-- A block scalar, from its indicator on. The parent is where its collection is indented, plus
one. -/
def block (literal : Bool) (parent : Nat) (c : Cursor) : Option (List Char × Cursor) := do
  let (chomping, increment, behind) ← blockHeader c.next
  let header := behind.skipBlanks.skipComment
  if !isBreakOrEnd header.char then none
  else do
    let indent := match increment with | some n => parent - 1 + n | none => 0
    let first ← lead indent parent header.skipBreak
    let b ← blockFrom literal parent (c.rest.length + 1) false first.indent
      ⟨[], false, first.breaks, first.cursor⟩
    let last : List Char := if chomping != .strip && b.held then ['\n'] else []
    let tail : List Char := if chomping == .keep then List.replicate b.breaks '\n' else []
    pure (b.text ++ last ++ tail, b.cursor)

end SocksProxy.Yaml.Scalar
