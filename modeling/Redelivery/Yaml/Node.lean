import Redelivery.Text.Affix
import Redelivery.Yaml.Token

/-!
# Yaml — Node

Documents as trees of texts, lists and maps.  An alias stands for the node that its anchor names.
-/

namespace Redelivery.Yaml

/-- A part of a document with all that belongs to it. -/
inductive Node where
  | scalar (isPlain : Bool) (text : String)
  | list (items : List Node)
  | map (entries : List (Node × Node))
  /-- A node under a tag that says what it means. -/
  | tagged (tag : String) (n : Node)
  deriving Inhabited

/-- The name of a tag that every document knows, which is written with two marks. -/
def coreName? (tag : String) : Option String := Text.dropPrefix? tag "!!"

/-- The name of a tag that one document gives a meaning. -/
def localName? (tag : String) : Option String :=
  if (coreName? tag).isSome then none else Text.dropPrefix? tag "!"

/-- A node without its tag. -/
def Node.bare : Node → Node
  | .tagged _ n => n
  | n => n

/-- What stands where nothing is written. -/
def Node.blank : Node := .scalar true ""

/-- The tokens that are left, and the nodes that have names. -/
structure Reading where
  tokens : List Token
  anchors : List (String × Node) := []

/-- A reader of nodes. -/
abbrev Reader (α : Type) := StateT Reading (Except Flaw) α

namespace Reader

/-- The next token. -/
def peek : Reader (Option Token) := do return (← get).tokens.head?

/-- Goes on to the token after the next. -/
def skip : Reader Unit := modify fun r => { r with tokens := r.tokens.drop 1 }

/-- Whether the next token is one of those given. -/
def sees (ts : List Token) : Reader Bool := do return (← peek).any ts.contains

/-- Goes on after a token, which has to be the next. -/
def expect (t : Token) : Reader Unit := do
  if ← sees [t] then skip else throw .unexpectedToken

/-- What stands in front of a node. -/
structure Properties where
  anchor : Option String := none
  tag : Option String := none

/-- The anchor and the tag in front of a node, in either order. -/
def properties (p : Properties) : Nat → Reader Properties
  | 0 => return p
  | n + 1 => do
      match ← peek, p with
      | some (.anchor name), { anchor := none, tag } =>
          skip
          properties { anchor := some name, tag } n
      | some (.tag name), { anchor, tag := none } =>
          skip
          properties { anchor, tag := some name } n
      | _, _ => return p

/-- A node with its tag, of which note is taken under its anchor.  A lone exclamation mark is no
tag. -/
def record (p : Properties) (node : Node) : Reader Node := do
  let node := match p.tag with
    | none | some "!" => node
    | some tag => .tagged tag node
  match p.anchor with
  | some name => modify fun r => { r with anchors := (name, node) :: r.anchors }
  | none => pure ()
  return node

mutual

/-- A node, in a block or in a flow collection, and with or without lists that are not deeper than
what surrounds them. -/
def node (fuel : Nat) (inBlock looseLists : Bool) : Reader Node :=
  match fuel with
  | 0 => throw .unexpectedToken
  | fuel + 1 => do
      if let some (.alias name) ← peek then
        skip
        match (← get).anchors.lookup name with
        | some n => return n
        | none => throw (.unknownAlias name)
      let p ← properties {} 2
      match ← peek, inBlock, looseLists with
      | some (.scalar isPlain text), _, _ => skip; record p (.scalar isPlain text)
      | some .flowList, _, _ => skip; record p (.list (← flowItems fuel true))
      | some .flowMap, _, _ => skip; record p (.map (← flowEntries fuel true))
      | some .blockList, true, _ => skip; record p (.list (← blockItems fuel))
      | some .blockMap, true, _ => skip; record p (.map (← blockEntries fuel))
      | some .entry, _, true => record p (.list (← looseItems fuel))
      | _, _, _ =>
          if p.anchor.isSome || p.tag.isSome then record p .blank else throw .unexpectedToken

/-- A node, or nothing before one of the tokens given. -/
def nodeUnless (fuel : Nat) (stops : List Token) (inBlock looseLists : Bool) : Reader Node :=
  match fuel with
  | 0 => throw .unexpectedToken
  | fuel + 1 => do
      if ← sees stops then return .blank
      node fuel inBlock looseLists

/-- The items of a block list up to its end. -/
def blockItems (fuel : Nat) : Reader (List Node) :=
  match fuel with
  | 0 => throw .unexpectedToken
  | fuel + 1 => do
      if ← sees [.blockEnd] then
        skip
        return []
      expect .entry
      let item ← nodeUnless fuel [.entry, .blockEnd] true false
      return item :: (← blockItems fuel)

/-- The items of a list that is not deeper than what surrounds it. -/
def looseItems (fuel : Nat) : Reader (List Node) :=
  match fuel with
  | 0 => throw .unexpectedToken
  | fuel + 1 => do
      if !(← sees [.entry]) then return []
      skip
      let item ← nodeUnless fuel [.entry, .key, .value, .blockEnd] true false
      return item :: (← looseItems fuel)

/-- The entries of a block map up to its end. -/
def blockEntries (fuel : Nat) : Reader (List (Node × Node)) :=
  match fuel with
  | 0 => throw .unexpectedToken
  | fuel + 1 => do
      if ← sees [.blockEnd] then
        skip
        return []
      expect .key
      let stops := [.key, .value, .blockEnd]
      let key ← nodeUnless fuel stops true true
      let hasValue ← sees [.value]
      if hasValue then skip
      let value ← if hasValue then nodeUnless fuel stops true true else pure .blank
      return (key, value) :: (← blockEntries fuel)

/-- The value of an entry in a flow collection, if a colon comes next. -/
def flowValue (fuel : Nat) (stops : List Token) : Reader Node :=
  match fuel with
  | 0 => throw .unexpectedToken
  | fuel + 1 => do
      if !(← sees [.value]) then return .blank
      skip
      nodeUnless fuel stops false false

/-- The items of a flow list up to its end; commas stand between them. -/
def flowItems (fuel : Nat) (isFirst : Bool) : Reader (List Node) :=
  match fuel with
  | 0 => throw .unexpectedToken
  | fuel + 1 => do
      if !isFirst && !(← sees [.flowListEnd]) then expect .comma
      if ← sees [.flowListEnd] then
        skip
        return []
      let stops := [.comma, .flowListEnd]
      if ← sees [.key] then
        skip
        let key ← nodeUnless fuel (.value :: stops) false false
        let value ← flowValue fuel stops
        return .map [(key, value)] :: (← flowItems fuel false)
      let item ← node fuel false false
      return item :: (← flowItems fuel false)

/-- The entries of a flow map up to its end; commas stand between them. -/
def flowEntries (fuel : Nat) (isFirst : Bool) : Reader (List (Node × Node)) :=
  match fuel with
  | 0 => throw .unexpectedToken
  | fuel + 1 => do
      if !isFirst && !(← sees [.flowMapEnd]) then expect .comma
      if ← sees [.flowMapEnd] then
        skip
        return []
      let stops := [.comma, .flowMapEnd]
      if ← sees [.key] then
        skip
        let key ← nodeUnless fuel (.value :: stops) false false
        let value ← flowValue fuel stops
        return (key, value) :: (← flowEntries fuel false)
      let key ← node fuel false false
      return (key, .blank) :: (← flowEntries fuel false)

end

/-- The directives in front of a document: whether there are any. -/
def directives : Nat → Reader Bool
  | 0 => return false
  | n + 1 => do
      if !(← sees [.directive]) then return false
      skip
      let _ ← directives n
      return true

/-- The node of the only document, if there is a document. -/
def document (fuel : Nat) : Reader (Option Node) := do
  if (← peek).isNone then return none
  let hasDirectives ← directives fuel
  let isExplicit ← sees [.documentStart]
  if isExplicit then skip
  else if hasDirectives then throw .unexpectedToken
  let isOver := (← peek).isNone || (← sees [.directive, .documentStart, .documentEnd])
  let n ← if isExplicit && isOver then pure .blank else node fuel true false
  modify fun r => { r with tokens := r.tokens.dropWhile (· == .documentEnd) }
  if (← peek).isSome then throw .severalDocuments
  return some n

end Reader

/-- The node of the only document in a text, if there is a document. -/
def read (text : String) : Except Flaw (Option Node) := do
  let ts ← tokens text
  let (n, _) ← (Reader.document (3 * ts.length + 3)).run { tokens := ts }
  return n

end Redelivery.Yaml
