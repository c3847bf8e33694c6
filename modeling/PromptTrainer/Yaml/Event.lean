import PromptTrainer.Yaml.Scanner
/-!
# YAML events

The parser turns the tokens of a YAML stream into events: the stream's and each document's
start and end, scalars, aliases, and the starts and ends of sequences and mappings, with
the anchor and the resolved tag of each node.  It follows the grammar of YAML streams as a
state machine with a stack of states to return to:

* a stream is a sequence of documents; the first may start without `---`, and a document
  may end with `...`; directives (`%YAML 1.1` or `1.2`, `%TAG`) stand before an explicit
  `---`;
* a node is an alias, or an optional anchor and tag (in either order) followed by a scalar,
  a flow or block collection, or nothing (the empty scalar);
* a block mapping is a sequence of `key`/`value` pairs whose parts may be missing (the
  empty scalar); the value of a block mapping may be a sequence written at the mapping's
  own indentation;
* a flow sequence may hold single pairs `k: v`, and a flow mapping may hold keys without
  values.

A tag `!handle!suffix` is resolved by the handle's prefix: `!` stands for `!` and `!!` for
`tag:yaml.org,2002:` unless a `%TAG` directive of the document says otherwise; a handle
without a prefix is refused.
-/

namespace PromptTrainer
namespace Yaml

/-- An event of a YAML stream. -/
inductive Event where
  | streamStart
  | streamEnd
  | documentStart
  | documentEnd
  | alias (name : String)
  | scalar (anchor : Option String) (tag : Option TagBytes) (value : String) (style : ScalarStyle)
  | sequenceStart (anchor : Option String) (tag : Option TagBytes)
  | sequenceEnd
  | mappingStart (anchor : Option String) (tag : Option TagBytes)
  | mappingEnd
deriving Inhabited

/-- The empty plain scalar, which stands for a missing node. -/
def Event.empty : Event := .scalar none none "" .plain

/-- Where the parser is in the grammar. -/
inductive ParseState where
  | streamStart
  | implicitDocumentStart
  | documentStart
  | documentContent
  | documentEnd
  | blockNode
  | blockNodeOrIndentlessSequence
  | flowNode
  | blockSequenceFirstEntry
  | blockSequenceEntry
  | indentlessSequenceEntry
  | blockMappingFirstKey
  | blockMappingKey
  | blockMappingValue
  | flowSequenceFirstEntry
  | flowSequenceEntry
  | flowSequenceEntryMappingKey
  | flowSequenceEntryMappingValue
  | flowSequenceEntryMappingEnd
  | flowMappingFirstKey
  | flowMappingKey
  | flowMappingValue
  | flowMappingEmptyValue
  | finished

/-- The state of the parser: the tokens, the position of the next one, the state, the
states to return to (innermost first) and the tag handles of the document. -/
structure Parser where
  tokens : Array Token
  pos : Nat := 0
  state : ParseState := .streamStart
  states : List ParseState := []
  handles : List (String × TagBytes) := []

/-- A result of parsing. -/
abbrev Parsing (α : Type) := Except YamlError α

namespace Parser

/-- The next token. -/
def peek (p : Parser) : Token := p.tokens.getD p.pos .streamEnd

/-- Moves past the next token. -/
def next (p : Parser) : Parser := { p with pos := p.pos + 1 }

/-- Returns to the state on top of the stack. -/
def back (p : Parser) : Parser :=
  match p.states with
  | s :: rest => { p with state := s, states := rest }
  | [] => { p with state := .finished }

/-- Goes to a state. -/
def goto (p : Parser) (s : ParseState) : Parser := { p with state := s }

/-- Records a state to return to. -/
def expect (p : Parser) (s : ParseState) : Parser := { p with states := s :: p.states }

/-- An event and the parser after it. -/
def emit (p : Parser) (e : Event) : Parsing (Parser × Event) := .ok (p, e)

/-- Adds a tag handle; a handle given twice is refused unless `quiet`, which keeps the
first. -/
def addHandle (p : Parser) (quiet : Bool) (handle : String) (pfx : TagBytes) : Parsing Parser :=
  if (p.handles.lookup handle).isSome then
    if quiet then .ok p else .error ⟨"found duplicate %TAG directive"⟩
  else .ok { p with handles := p.handles ++ [(handle, pfx)] }

/-- Reads the directives before a document and adds the default handles. -/
def directives (p : Parser) : Parsing Parser :=
  go (p.tokens.size + 1) false p
where
  /-- The loop over directive tokens, with whether a `%YAML` directive was seen. -/
  go : Nat → Bool → Parser → Parsing Parser
    | 0, _, p => .ok p
    | n + 1, seen, p =>
      match p.peek with
      | .versionDirective major minor =>
        if seen then .error ⟨"found duplicate %YAML directive"⟩
        else if major != 1 || (minor != 1 && minor != 2) then
          .error ⟨"found incompatible YAML document"⟩
        else go n true p.next
      | .tagDirective handle pfx => do
        let p ← p.addHandle false handle pfx
        go n seen p.next
      | _ => do
        let p ← p.addHandle true "!" (TagBytes.ofString "!")
        p.addHandle true "!!" (TagBytes.ofString "tag:yaml.org,2002:")

/-- Whether a token is a directive or a document start. -/
def startsDocument : Token → Bool
  | .versionDirective _ _ | .tagDirective _ _ | .documentStart => true
  | _ => false

/-- Moves past extra document end markers. -/
def skipDocumentEnds : Nat → Parser → Parser
  | 0, p => p
  | n + 1, p =>
    match p.peek with
    | .documentEnd => skipDocumentEnds n p.next
    | _ => p

/-- Starts a document, or ends the stream.  The first document may start without `---`. -/
def documentStart (p : Parser) (implicit : Bool) : Parsing (Parser × Event) := do
  let p := if implicit then p else skipDocumentEnds (p.tokens.size + 1) p
  match p.peek with
  | .streamEnd => (p.next.goto .finished).emit .streamEnd
  | t =>
    if implicit && !startsDocument t then
      let p ← p.directives
      ((p.expect .documentEnd).goto .blockNode).emit .documentStart
    else
      let p ← p.directives
      match p.peek with
      | .documentStart => ((p.next.expect .documentEnd).goto .documentContent).emit .documentStart
      | _ => .error ⟨"did not find expected <document start>"⟩

/-- Ends a document; its tag handles are forgotten. -/
def documentEnd (p : Parser) : Parsing (Parser × Event) :=
  let p := match p.peek with
    | .documentEnd => p.next
    | _ => p
  ({ p with handles := [] }.goto .documentStart).emit .documentEnd

/-- The full tag of a handle and a suffix. -/
def resolveTag (p : Parser) : Option (String × TagBytes) → Parsing (Option TagBytes)
  | none => .ok none
  | some ("", suffix) => .ok (some suffix)
  | some (handle, suffix) =>
    match p.handles.lookup handle with
    | some pfx => .ok (some (pfx ++ suffix))
    | none => .error ⟨"found undefined tag handle"⟩

/-- Reads the properties of a node: an anchor and a tag, in either order, each optional. -/
def properties (p : Parser) : Parser × Option String × Option (String × TagBytes) :=
  match p.peek with
  | .anchor a =>
    let p := p.next
    match p.peek with
    | .tag h s => (p.next, some a, some (h, s))
    | _ => (p, some a, none)
  | .tag h s =>
    let p := p.next
    match p.peek with
    | .anchor a => (p.next, some a, some (h, s))
    | _ => (p, none, some (h, s))
  | _ => (p, none, none)

/-- Reads a node: in a block or a flow context, and, as the value of a block mapping, a
sequence at the mapping's indentation. -/
def node (p : Parser) (block indentless : Bool) : Parsing (Parser × Event) :=
  match p.peek with
  | .alias name => p.next.back.emit (.alias name)
  | _ => do
    let (p, anchor, written) := p.properties
    let tag ← p.resolveTag written
    let fallback : Parsing (Parser × Event) :=
      if anchor.isSome || tag.isSome then p.back.emit (.scalar anchor tag "" .plain)
      else .error ⟨"did not find expected node content"⟩
    match p.peek with
    | .blockEntry =>
      if indentless then (p.goto .indentlessSequenceEntry).emit (.sequenceStart anchor tag)
      else fallback
    | .scalar value style => p.next.back.emit (.scalar anchor tag value style)
    | .flowSequenceStart => (p.goto .flowSequenceFirstEntry).emit (.sequenceStart anchor tag)
    | .flowMappingStart => (p.goto .flowMappingFirstKey).emit (.mappingStart anchor tag)
    | .blockSequenceStart =>
      if block then (p.goto .blockSequenceFirstEntry).emit (.sequenceStart anchor tag)
      else fallback
    | .blockMappingStart =>
      if block then (p.goto .blockMappingFirstKey).emit (.mappingStart anchor tag)
      else fallback
    | _ => fallback

/-- The content of an explicit document: empty when a directive, a marker or the end
follows. -/
def documentContent (p : Parser) : Parsing (Parser × Event) :=
  match p.peek with
  | .versionDirective _ _ | .tagDirective _ _ | .documentStart | .documentEnd | .streamEnd =>
    p.back.emit .empty
  | _ => p.node true false

/-- An entry of a block sequence. -/
def blockSequenceEntry (p : Parser) (first : Bool) : Parsing (Parser × Event) :=
  let p := if first then p.next else p
  match p.peek with
  | .blockEntry =>
    let p := p.next
    match p.peek with
    | .blockEntry | .blockEnd => (p.goto .blockSequenceEntry).emit .empty
    | _ => (p.expect .blockSequenceEntry).node true false
  | .blockEnd => p.next.back.emit .sequenceEnd
  | _ => .error ⟨"did not find expected '-' indicator"⟩

/-- An entry of a sequence written at the indentation of its mapping. -/
def indentlessSequenceEntry (p : Parser) : Parsing (Parser × Event) :=
  match p.peek with
  | .blockEntry =>
    let p := p.next
    match p.peek with
    | .blockEntry | .key | .value | .blockEnd => (p.goto .indentlessSequenceEntry).emit .empty
    | _ => (p.expect .indentlessSequenceEntry).node true false
  | _ => p.back.emit .sequenceEnd

/-- A key of a block mapping. -/
def blockMappingKey (p : Parser) (first : Bool) : Parsing (Parser × Event) :=
  let p := if first then p.next else p
  match p.peek with
  | .key =>
    let p := p.next
    match p.peek with
    | .key | .value | .blockEnd => (p.goto .blockMappingValue).emit .empty
    | _ => (p.expect .blockMappingValue).node true true
  | .blockEnd => p.next.back.emit .mappingEnd
  | _ => .error ⟨"did not find expected key"⟩

/-- A value of a block mapping, empty when missing. -/
def blockMappingValue (p : Parser) : Parsing (Parser × Event) :=
  match p.peek with
  | .value =>
    let p := p.next
    match p.peek with
    | .key | .value | .blockEnd => (p.goto .blockMappingKey).emit .empty
    | _ => (p.expect .blockMappingKey).node true true
  | _ => (p.goto .blockMappingKey).emit .empty

/-- An entry of a flow sequence; a key there starts a mapping of one pair. -/
def flowSequenceEntry (p : Parser) (first : Bool) : Parsing (Parser × Event) := do
  let p := if first then p.next else p
  match p.peek with
  | .flowSequenceEnd => p.next.back.emit .sequenceEnd
  | t =>
    let p ←
      if first then pure p
      else match t with
        | .flowEntry => pure p.next
        | _ => .error ⟨"did not find expected ',' or ']'"⟩
    match p.peek with
    | .key => (p.next.goto .flowSequenceEntryMappingKey).emit (.mappingStart none none)
    | .flowSequenceEnd => p.next.back.emit .sequenceEnd
    | _ => (p.expect .flowSequenceEntry).node false false

/-- The key of a pair in a flow sequence. -/
def flowSequenceEntryMappingKey (p : Parser) : Parsing (Parser × Event) :=
  match p.peek with
  | .value | .flowEntry | .flowSequenceEnd => (p.goto .flowSequenceEntryMappingValue).emit .empty
  | _ => (p.expect .flowSequenceEntryMappingValue).node false false

/-- The value of a pair in a flow sequence. -/
def flowSequenceEntryMappingValue (p : Parser) : Parsing (Parser × Event) :=
  match p.peek with
  | .value =>
    let p := p.next
    match p.peek with
    | .flowEntry | .flowSequenceEnd => (p.goto .flowSequenceEntryMappingEnd).emit .empty
    | _ => (p.expect .flowSequenceEntryMappingEnd).node false false
  | _ => (p.goto .flowSequenceEntryMappingEnd).emit .empty

/-- A key of a flow mapping; a node without a key indicator is a key without a value. -/
def flowMappingKey (p : Parser) (first : Bool) : Parsing (Parser × Event) := do
  let p := if first then p.next else p
  match p.peek with
  | .flowMappingEnd => p.next.back.emit .mappingEnd
  | t =>
    let p ←
      if first then pure p
      else match t with
        | .flowEntry => pure p.next
        | _ => .error ⟨"did not find expected ',' or '\x7d'"⟩
    match p.peek with
    | .key =>
      let p := p.next
      match p.peek with
      | .value | .flowEntry | .flowMappingEnd => (p.goto .flowMappingValue).emit .empty
      | _ => (p.expect .flowMappingValue).node false false
    | .flowMappingEnd => p.next.back.emit .mappingEnd
    | _ => (p.expect .flowMappingEmptyValue).node false false

/-- A value of a flow mapping, empty when missing. -/
def flowMappingValue (p : Parser) (empty : Bool) : Parsing (Parser × Event) :=
  if empty then (p.goto .flowMappingKey).emit .empty
  else
    match p.peek with
    | .value =>
      let p := p.next
      match p.peek with
      | .flowEntry | .flowMappingEnd => (p.goto .flowMappingKey).emit .empty
      | _ => (p.expect .flowMappingKey).node false false
    | _ => (p.goto .flowMappingKey).emit .empty

/-- The next event. -/
def step (p : Parser) : Parsing (Parser × Event) :=
  match p.state with
  | .streamStart =>
    match p.peek with
    | .streamStart => (p.next.goto .implicitDocumentStart).emit .streamStart
    | _ => .error ⟨"did not find expected <stream-start>"⟩
  | .implicitDocumentStart => p.documentStart true
  | .documentStart => p.documentStart false
  | .documentContent => p.documentContent
  | .documentEnd => p.documentEnd
  | .blockNode => p.node true false
  | .blockNodeOrIndentlessSequence => p.node true true
  | .flowNode => p.node false false
  | .blockSequenceFirstEntry => p.blockSequenceEntry true
  | .blockSequenceEntry => p.blockSequenceEntry false
  | .indentlessSequenceEntry => p.indentlessSequenceEntry
  | .blockMappingFirstKey => p.blockMappingKey true
  | .blockMappingKey => p.blockMappingKey false
  | .blockMappingValue => p.blockMappingValue
  | .flowSequenceFirstEntry => p.flowSequenceEntry true
  | .flowSequenceEntry => p.flowSequenceEntry false
  | .flowSequenceEntryMappingKey => p.flowSequenceEntryMappingKey
  | .flowSequenceEntryMappingValue => p.flowSequenceEntryMappingValue
  | .flowSequenceEntryMappingEnd => (p.goto .flowSequenceEntry).emit .mappingEnd
  | .flowMappingFirstKey => p.flowMappingKey true
  | .flowMappingKey => p.flowMappingKey false
  | .flowMappingValue => p.flowMappingValue false
  | .flowMappingEmptyValue => p.flowMappingValue true
  | .finished => .error ⟨"the stream has ended"⟩

/-- Produces events until the stream ends, adding them to `acc` (last first). -/
def run : Nat → Parser → List Event → Parsing (List Event)
  | 0, _, _ => .error ⟨"too many events"⟩
  | n + 1, p, acc =>
    match p.state with
    | .finished => .ok acc.reverse
    | _ => do
      let (p, e) ← p.step
      run n p (e :: acc)

end Parser

/-- The events of a YAML text, from the stream start to the stream end. -/
def events (source : String) : Parsing (List Event) := do
  let ts ← tokens source
  Parser.run (4 * ts.size + 16) { tokens := ts } []

end Yaml
end PromptTrainer
