import SourceAtlas.Yaml.Token

/-!
# YAML documents

A document is a node: a scalar, a sequence of nodes, or a mapping with its entries in order. A
scalar remembers whether it was written without quotes, because only then may it stand for
something else than a text. Tags are read, but change nothing.
-/

namespace SourceAtlas.Yaml

inductive Node where
  | scalar (isPlain : Bool) (text : Text)
  | sequence (items : List Node)
  | mapping (entries : List (Node × Node))
  deriving BEq, Repr, Inhabited

namespace Node

/-- What stands where a node is left out. -/
def empty : Node := scalar true []

/-- A node that was read: the tokens behind it, and the nodes that aliases may stand for. -/
structure Reading (α : Type) where
  result : α
  tokens : List Token
  anchors : List (Text × Node)

/-- Whether a tag has a handle that is known without being declared. -/
def isKnownHandle (handle : Text) : Bool :=
  handle.isEmpty || handle == ['!'] || handle == ['!', '!']

/-- The anchor and the tag in front of a node, in either order. -/
structure Properties where
  anchor : Option Text
  hasTag : Bool

def takeProperties (tokens : List Token) : Option (Properties × List Token) :=
  match tokens with
  | .anchor name :: .tag handle _ :: tokens | .tag handle _ :: .anchor name :: tokens =>
    if isKnownHandle handle then some (⟨some name, true⟩, tokens) else none
  | .anchor name :: tokens => some (⟨some name, false⟩, tokens)
  | .tag handle _ :: tokens =>
    if isKnownHandle handle then some (⟨none, true⟩, tokens) else none
  | tokens => some (⟨none, false⟩, tokens)

/-- Whether an entry of a block is left out before some tokens. -/
def endsBlockEntry : List Token → Bool
  | .blockEntry :: _ | .blockEnd :: _ | [] => true
  | _ => false

/-- Whether an entry of a sequence that is not indented is left out before some tokens. -/
def endsIndentlessEntry : List Token → Bool
  | .blockEntry :: _ | .key :: _ | .value :: _ | .blockEnd :: _ | [] => true
  | _ => false

/-- Whether a key or a value in a block is left out before some tokens. -/
def endsBlockPart : List Token → Bool
  | .key :: _ | .value :: _ | .blockEnd :: _ | [] => true
  | _ => false

/-- Whether a key between brackets is left out before some tokens. -/
def endsFlowKey : List Token → Bool
  | .value :: _ | .flowEntry :: _ | .flowMappingEnd :: _ | .flowSequenceEnd :: _ | [] => true
  | _ => false

/-- Whether a value between brackets is left out before some tokens. -/
def endsFlowValue : List Token → Bool
  | .flowEntry :: _ | .flowMappingEnd :: _ | .flowSequenceEnd :: _ | [] => true
  | _ => false

/-- The tokens behind a comma between brackets; there is none before the first item. -/
def takeComma (isFirst : Bool) : List Token → Option (List Token)
  | .flowEntry :: tokens => if isFirst then some (.flowEntry :: tokens) else some tokens
  | tokens => if isFirst then some tokens else none

mutual

/-- Reads a node. Blocks are allowed outside of brackets only, and a sequence that is not indented
only within a mapping. -/
def read (fuel : Nat) (inBlock mayBeIndentless : Bool) (tokens : List Token)
    (anchors : List (Text × Node)) : Option (Reading Node) :=
  match fuel with
  | 0 => none
  | fuel + 1 =>
    match tokens with
    | .alias name :: tokens => (anchors.lookup name).map (⟨·, tokens, anchors⟩)
    | tokens => do
      let (properties, tokens) ← takeProperties tokens
      let r ← readContent fuel inBlock mayBeIndentless properties tokens anchors
      match properties.anchor with
      | some name => return { r with anchors := (name, r.result) :: r.anchors }
      | none => return r

/-- Reads a node behind its properties. -/
def readContent (fuel : Nat) (inBlock mayBeIndentless : Bool) (properties : Properties)
    (tokens : List Token) (anchors : List (Text × Node)) : Option (Reading Node) :=
  match fuel with
  | 0 => none
  | fuel + 1 =>
    match tokens with
    | .scalar isPlain text :: tokens => some ⟨.scalar isPlain text, tokens, anchors⟩
    | .flowSequenceStart :: tokens => do
      let r ← readFlowItems fuel true tokens anchors
      return ⟨.sequence r.result, r.tokens, r.anchors⟩
    | .flowMappingStart :: tokens => do
      let r ← readFlowEntries fuel true tokens anchors
      return ⟨.mapping r.result, r.tokens, r.anchors⟩
    | .blockEntry :: tokens =>
      if mayBeIndentless then do
        let r ← readIndentlessItems fuel (.blockEntry :: tokens) anchors
        return ⟨.sequence r.result, r.tokens, r.anchors⟩
      else if properties.anchor.isSome || properties.hasTag then
        some ⟨empty, .blockEntry :: tokens, anchors⟩
      else none
    | .blockSequenceStart :: tokens =>
      if inBlock then do
        let r ← readBlockItems fuel tokens anchors
        return ⟨.sequence r.result, r.tokens, r.anchors⟩
      else none
    | .blockMappingStart :: tokens =>
      if inBlock then do
        let r ← readBlockEntries fuel tokens anchors
        return ⟨.mapping r.result, r.tokens, r.anchors⟩
      else none
    | tokens =>
      if properties.anchor.isSome || properties.hasTag then some ⟨empty, tokens, anchors⟩ else none

/-- Reads a node, unless it is left out. -/
def readPart (fuel : Nat) (inBlock mayBeIndentless : Bool) (isLeftOut : List Token → Bool)
    (tokens : List Token) (anchors : List (Text × Node)) : Option (Reading Node) :=
  match fuel with
  | 0 => none
  | fuel + 1 =>
    if isLeftOut tokens then some ⟨empty, tokens, anchors⟩
    else read fuel inBlock mayBeIndentless tokens anchors

/-- Reads a value behind its colon; without a colon it is left out. -/
def readValue (fuel : Nat) (inBlock : Bool) (isLeftOut : List Token → Bool) (tokens : List Token)
    (anchors : List (Text × Node)) : Option (Reading Node) :=
  match fuel with
  | 0 => none
  | fuel + 1 =>
    match tokens with
    | .value :: tokens => readPart fuel inBlock inBlock isLeftOut tokens anchors
    | tokens => some ⟨empty, tokens, anchors⟩

/-- Reads the items of an indented sequence up to the end of its block. -/
def readBlockItems (fuel : Nat) (tokens : List Token) (anchors : List (Text × Node)) :
    Option (Reading (List Node)) :=
  match fuel with
  | 0 => none
  | fuel + 1 =>
    match tokens with
    | .blockEntry :: tokens => do
      let item ← readPart fuel true false endsBlockEntry tokens anchors
      let r ← readBlockItems fuel item.tokens item.anchors
      return { r with result := item.result :: r.result }
    | .blockEnd :: tokens => some ⟨[], tokens, anchors⟩
    | _ => none

/-- Reads the items of a sequence that is not indented. -/
def readIndentlessItems (fuel : Nat) (tokens : List Token) (anchors : List (Text × Node)) :
    Option (Reading (List Node)) :=
  match fuel with
  | 0 => none
  | fuel + 1 =>
    match tokens with
    | .blockEntry :: tokens => do
      let item ← readPart fuel true false endsIndentlessEntry tokens anchors
      let r ← readIndentlessItems fuel item.tokens item.anchors
      return { r with result := item.result :: r.result }
    | tokens => some ⟨[], tokens, anchors⟩

/-- Reads the entries of a mapping up to the end of its block. -/
def readBlockEntries (fuel : Nat) (tokens : List Token) (anchors : List (Text × Node)) :
    Option (Reading (List (Node × Node))) :=
  match fuel with
  | 0 => none
  | fuel + 1 =>
    match tokens with
    | .key :: tokens => do
      let key ← readPart fuel true true endsBlockPart tokens anchors
      let value ← readValue fuel true endsBlockPart key.tokens key.anchors
      let r ← readBlockEntries fuel value.tokens value.anchors
      return { r with result := (key.result, value.result) :: r.result }
    | .blockEnd :: tokens => some ⟨[], tokens, anchors⟩
    | _ => none

/-- Reads the items of a sequence up to its closing bracket. An item may be a mapping with a single
entry, which needs no braces. -/
def readFlowItems (fuel : Nat) (isFirst : Bool) (tokens : List Token)
    (anchors : List (Text × Node)) : Option (Reading (List Node)) :=
  match fuel with
  | 0 => none
  | fuel + 1 =>
    match tokens with
    | .flowSequenceEnd :: tokens => some ⟨[], tokens, anchors⟩
    | tokens => do
      match ← takeComma isFirst tokens with
      | .flowSequenceEnd :: tokens => return ⟨[], tokens, anchors⟩
      | .key :: tokens =>
        let key ← readPart fuel false false endsFlowKey tokens anchors
        -- A comma or bracket that stands for a key that is left out is taken with it.
        let behind := if endsFlowKey tokens then tokens.tail else key.tokens
        let value ← readValue fuel false endsFlowValue behind key.anchors
        let r ← readFlowItems fuel false value.tokens value.anchors
        return { r with result := .mapping [(key.result, value.result)] :: r.result }
      | tokens =>
        let item ← read fuel false false tokens anchors
        let r ← readFlowItems fuel false item.tokens item.anchors
        return { r with result := item.result :: r.result }

/-- Reads the entries of a mapping up to its closing brace. An entry may be a key alone. -/
def readFlowEntries (fuel : Nat) (isFirst : Bool) (tokens : List Token)
    (anchors : List (Text × Node)) : Option (Reading (List (Node × Node))) :=
  match fuel with
  | 0 => none
  | fuel + 1 =>
    match tokens with
    | .flowMappingEnd :: tokens => some ⟨[], tokens, anchors⟩
    | tokens => do
      match ← takeComma isFirst tokens with
      | .flowMappingEnd :: tokens => return ⟨[], tokens, anchors⟩
      | .key :: tokens =>
        let key ← readPart fuel false false endsFlowKey tokens anchors
        let value ← readValue fuel false endsFlowValue key.tokens key.anchors
        let r ← readFlowEntries fuel false value.tokens value.anchors
        return { r with result := (key.result, value.result) :: r.result }
      | tokens =>
        let key ← read fuel false false tokens anchors
        let r ← readFlowEntries fuel false key.tokens key.anchors
        return { r with result := (key.result, empty) :: r.result }

end

/-- Reads the node of a document. No node takes more than four readings for each of its tokens. -/
def readDocument (tokens : List Token) : Option (Reading Node) :=
  read (4 * tokens.length + 4) true false tokens []

/-- Reads the node of a document behind its mark; it may be left out. -/
def readMarked (tokens : List Token) : Option (Reading Node) :=
  match tokens with
  | [] | .version _ _ :: _ | .documentStart :: _ | .documentEnd :: _ => some ⟨empty, tokens, []⟩
  | tokens => readDocument tokens

/-- The node of a stream of tokens, which must hold one document at most. -/
def ofTokens? (tokens : List Token) : Option (Option Node) := do
  let first ←
    match tokens with
    | [] => return none
    | .version major minor :: .documentStart :: tokens =>
      if major == 1 && (minor == 1 || minor == 2) then readMarked tokens else none
    | .version _ _ :: _ => none
    | .documentStart :: tokens => readMarked tokens
    | tokens => readDocument tokens
  if first.tokens.all (· == .documentEnd) then return some first.result else none

/-- The node that a text holds, if it holds any. The outer value is missing if the text is
malformed. -/
def parse? (t : Text) : Option (Option Node) := (tokens? t).bind ofTokens?

end Node

end SourceAtlas.Yaml
