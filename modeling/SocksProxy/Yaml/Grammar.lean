import SocksProxy.Yaml.Lexer

/-!
Tokens put together into one document, a tree of values. Values may be missing almost everywhere,
and then stand as absent; an anchor or a tag without a value stands as an empty text. An alias
stands as the node it refers to; one that refers to a collection around itself stands as
unfinished.
-/

namespace SocksProxy.Yaml

inductive Node where
  | scalar (plain : Bool) (tag : Option Tag) (text : String)
  | sequence (items : List Node)
  | mapping (entries : List (Node × Node))
  | unfinished

namespace Node

/-- Where nothing is written. -/
def absent : Node := .scalar true none "~"

end Node

/-- What is left to read, and the anchors so far, the latest first. An anchor has no node until its
collection is complete. -/
structure Reader where
  tokens : List Token
  anchors : List (String × Nat)
  nodes : List (Nat × Node)
  fresh : Nat

namespace Reader

def ofTokens (tokens : List Token) : Reader := ⟨tokens, [], [], 0⟩

def head (r : Reader) : Token := r.tokens.headD .streamEnd

def skip (r : Reader) : Reader := { r with tokens := r.tokens.tail }

def expect (token : Token) (r : Reader) : Option Reader :=
  if r.head = token then some r.skip else none

def isAt (r : Reader) (tokens : List Token) : Bool := tokens.contains r.head

def register (name : String) (r : Reader) : Nat × Reader :=
  (r.fresh, { r with anchors := (name, r.fresh) :: r.anchors, fresh := r.fresh + 1 })

def bind (anchor : Option Nat) (node : Node) (r : Reader) : Reader :=
  match anchor with
  | some id => { r with nodes := (id, node) :: r.nodes }
  | none => r

/-- The node of the latest anchor of that name. -/
def resolve (name : String) (r : Reader) : Option Node :=
  (r.anchors.lookup name).map fun id => (r.nodes.lookup id).getD .unfinished

/-- What may come before a node: an anchor, a tag, or both in either order. -/
structure Properties where
  anchor : Option Nat
  tag : Option Tag

def properties (r : Reader) : Properties × Reader :=
  match r.tokens with
  | .anchor name :: .tag tag :: _ =>
      let (id, r) := r.register name
      (⟨some id, some tag⟩, r.skip.skip)
  | .tag tag :: .anchor name :: _ =>
      let (id, r) := r.register name
      (⟨some id, some tag⟩, r.skip.skip)
  | .anchor name :: _ =>
      let (id, r) := r.register name
      (⟨some id, none⟩, r.skip)
  | .tag tag :: _ => (⟨none, some tag⟩, r.skip)
  | _ => (⟨none, none⟩, r)

structure Place where
  -- Block collections are allowed.
  block : Bool
  -- So are the entries of a sequence that is not indented.
  indentless : Bool

def Place.entry : Place := ⟨true, false⟩
def Place.ofMapping : Place := ⟨true, true⟩
def Place.flow : Place := ⟨false, false⟩

mutual

def node (place : Place) : Nat → Reader → Option (Node × Reader)
  | 0, _ => none
  | fuel + 1, r =>
      match r.head with
      | .alias name => (r.resolve name).map fun found => (found, r.skip)
      | _ =>
          let (given, r) := r.properties
          (content place given fuel r).map fun (found, r) => (found, r.bind given.anchor found)

def content (place : Place) (given : Properties) : Nat → Reader → Option (Node × Reader)
  | 0, _ => none
  | fuel + 1, r =>
      match r.head, place.block, place.indentless with
      | .blockEntry, _, true => (indentlessItems fuel r).map fun (items, r) => (.sequence items, r)
      | .scalar plain text, _, _ => some (.scalar plain given.tag text, r.skip)
      | .flowSequenceStart, _, _ =>
          (flowItems fuel true r.skip).map fun (items, r) => (.sequence items, r)
      | .flowMappingStart, _, _ =>
          (flowEntries fuel true r.skip).map fun (entries, r) => (.mapping entries, r)
      | .blockSequenceStart, true, _ =>
          (blockItems fuel r.skip).map fun (items, r) => (.sequence items, r)
      | .blockMappingStart, true, _ =>
          (blockEntries fuel r.skip).map fun (entries, r) => (.mapping entries, r)
      | _, _, _ =>
          if given.anchor.isSome || given.tag.isSome then some (.scalar true given.tag "", r)
          else none

/-- A node, or an absent one if one of these tokens is next. -/
def nodeUnless (ends : List Token) (place : Place) : Nat → Reader → Option (Node × Reader)
  | 0, _ => none
  | fuel + 1, r => if r.isAt ends then some (.absent, r) else node place fuel r

def blockItems : Nat → Reader → Option (List Node × Reader)
  | 0, _ => none
  | fuel + 1, r =>
      match r.head with
      | .blockEnd => some ([], r.skip)
      | .blockEntry => do
          let (item, r) ← nodeUnless [.blockEntry, .blockEnd] .entry fuel r.skip
          let (items, r) ← blockItems fuel r
          pure (item :: items, r)
      | _ => none

def indentlessItems : Nat → Reader → Option (List Node × Reader)
  | 0, _ => none
  | fuel + 1, r =>
      match r.head with
      | .blockEntry => do
          let (item, r) ← nodeUnless [.blockEntry, .key, .value, .blockEnd] .entry fuel r.skip
          let (items, r) ← indentlessItems fuel r
          pure (item :: items, r)
      | _ => some ([], r)

def blockEntries : Nat → Reader → Option (List (Node × Node) × Reader)
  | 0, _ => none
  | fuel + 1, r =>
      match r.head with
      | .blockEnd => some ([], r.skip)
      | .key => do
          let (key, r) ← nodeUnless [.key, .value, .blockEnd] .ofMapping fuel r.skip
          let (value, r) ← blockValue fuel r
          let (entries, r) ← blockEntries fuel r
          pure ((key, value) :: entries, r)
      | .value => do
          let (value, r) ← blockValue fuel r
          let (entries, r) ← blockEntries fuel r
          pure ((.absent, value) :: entries, r)
      | _ => none

def blockValue : Nat → Reader → Option (Node × Reader)
  | 0, _ => none
  | fuel + 1, r =>
      match r.head with
      | .value => nodeUnless [.key, .value, .blockEnd] .ofMapping fuel r.skip
      | _ => some (.absent, r)

/-- After the first item there is a comma before each, and there may be one behind the last. -/
def flowItems : Nat → Bool → Reader → Option (List Node × Reader)
  | 0, _, _ => none
  | fuel + 1, first, r =>
      if r.head = .flowSequenceEnd then some ([], r.skip)
      else do
        let r ← if first then some r else r.expect .flowEntry
        match r.head with
        | .flowSequenceEnd => pure ([], r.skip)
        | .key => do
            let (entry, r) ← flowPair fuel r.skip
            let (items, r) ← flowItems fuel false r
            pure (.mapping [entry] :: items, r)
        | _ => do
            let (item, r) ← node .flow fuel r
            let (items, r) ← flowItems fuel false r
            pure (item :: items, r)

/-- A mapping of one entry that stands in a sequence without braces. The token after an absent key
is used up. -/
def flowPair : Nat → Reader → Option ((Node × Node) × Reader)
  | 0, _ => none
  | fuel + 1, r => do
      let (key, r) ←
        if r.isAt [.value, .flowEntry, .flowSequenceEnd] then some (.absent, r.skip)
        else node .flow fuel r
      match r.head with
      | .value => do
          let (value, r) ← nodeUnless [.flowEntry, .flowSequenceEnd] .flow fuel r.skip
          pure ((key, value), r)
      | _ => pure ((key, .absent), r)

def flowEntries : Nat → Bool → Reader → Option (List (Node × Node) × Reader)
  | 0, _, _ => none
  | fuel + 1, first, r =>
      if r.head = .flowMappingEnd then some ([], r.skip)
      else do
        let r ← if first then some r else r.expect .flowEntry
        match r.head with
        | .flowMappingEnd => pure ([], r.skip)
        | .key => do
            let (key, r) ← nodeUnless [.value, .flowEntry, .flowMappingEnd] .flow fuel r.skip
            let (value, r) ← flowValue fuel r
            let (entries, r) ← flowEntries fuel false r
            pure ((key, value) :: entries, r)
        | .value => do
            let (value, r) ← flowValue fuel r
            let (entries, r) ← flowEntries fuel false r
            pure ((.absent, value) :: entries, r)
        | _ => do
            let (key, r) ← node .flow fuel r
            let (entries, r) ← flowEntries fuel false r
            pure ((key, .absent) :: entries, r)

def flowValue : Nat → Reader → Option (Node × Reader)
  | 0, _ => none
  | fuel + 1, r =>
      match r.head with
      | .value => nodeUnless [.flowEntry, .flowMappingEnd] .flow fuel r.skip
      | _ => some (.absent, r)

end

def skipWhile (token : Token) (r : Reader) : Reader :=
  { r with tokens := r.tokens.dropWhile (· = token) }

/-- The start of the document. Only the first document may do without a marker, and directives need
one. -/
def document (fuel : Nat) (r : Reader) : Option (Node × Reader) :=
  match r.head with
  | .streamEnd => none
  | .directive | .documentStart => do
      let r ← (r.skipWhile .directive).expect .documentStart
      nodeUnless [.directive, .documentStart, .documentEnd, .streamEnd] .entry fuel r
  | _ => node .entry fuel r

end Reader

def Node.ofText? (text : String) : Option Node := do
  let tokens ← Token.scan text
  let (node, rest) ← (Reader.ofTokens tokens).document (4 * tokens.length + 8)
  if (rest.skipWhile .documentEnd).head = .streamEnd then pure node else none

end SocksProxy.Yaml
