import SqlLineage.Yaml.Tokenize

/-!
# Documents as events

A document is the list of events that a walk over it meets: scalars, aliases, and the starts and ends
of collections. If the text fails in the middle of the document, the events up to there still count,
because what they say may be wrong by itself.
-/

namespace SqlLineage

namespace Yaml

/-- What a walk over a document meets. -/
inductive Event
  /-- Nothing: the text holds no document. -/
  | void
  /-- A part that stands elsewhere, by the number of its anchor. -/
  | alias (anchor : Nat)
  /-- A scalar with its tag. -/
  | scalar (value : String) (style : Style) (tag : Option String)
  /-- A sequence starts. -/
  | sequenceStart
  /-- A sequence ends. -/
  | sequenceEnd
  /-- A mapping starts. -/
  | mappingStart
  /-- A mapping ends. -/
  | mappingEnd
deriving DecidableEq, Repr

/-- The state of reading a document. -/
structure Reading where
  /-- The tokens that have not been read. -/
  tokens : List Token
  /-- Why there are no more tokens behind them. -/
  failure : Error
  /-- The events, the last one first. -/
  events : List (Event × Mark)
  /-- The meanings of tag handles. -/
  handles : List (String × String)
  /-- The numbers of anchors, where the first one of a name counts. -/
  anchors : List (String × Nat)
  /-- How many names anchors have. -/
  anchorCount : Nat
  /-- How many events come before the part of each anchor, where the first one counts. -/
  targets : List (Nat × Nat)

/-- A step of reading a document, which keeps what was read when it fails. -/
abbrev Composing := ExceptT Error (StateM Reading)

namespace Composing

/-- The next token. -/
def peek : Composing Token := do
  let reading ← get
  match reading.tokens with
  | token :: _ => return token
  | [] => throw reading.failure

/-- Goes past the next token. -/
def skip : Composing Unit :=
  modify fun reading => { reading with tokens := reading.tokens.tail }

/-- The token behind the next one, which is gone past. -/
def advance : Composing Token := do
  skip
  peek

/-- Adds an event at a place. -/
def emit (event : Event) (mark : Mark) : Composing Unit :=
  modify fun reading => { reading with events := (event, mark) :: reading.events }

/-- Adds an empty scalar at a place. -/
def emitEmpty (mark : Mark) : Composing Unit :=
  emit (.scalar "" .plain none) mark

/-- Fails in a construct that starts at a place, because of a token. -/
def fail {α : Type} (construct : String) (start : Mark) (reason : String) (mark : Mark) :
    Composing α :=
  throw (.malformed reason mark (some (construct, start)))

/-- Gives the part that comes next a name. -/
def anchor (name : String) : Composing Unit :=
  modify fun reading =>
    let number := reading.anchorCount
    { reading with
      anchors := (name, number) :: reading.anchors
      anchorCount := number + if (reading.anchors.lookup name).isSome then 0 else 1
      targets := (number, reading.events.length) :: reading.targets }

/-- The tag with a handle and a suffix, in a part that starts at a place. -/
def resolveTag (handle uri : String) (start mark : Mark) : Composing String := do
  if handle.isEmpty then return uri
  match (← get).handles.lookup handle with
  | some meaning => return meaning ++ uri
  | none => fail "while parsing a node" start "found undefined tag handle" mark

/-- The name and the tag of the part that comes next, in either order. -/
def properties : Composing (Option String × Option (String × String × Mark)) := do
  let token ← peek
  match token.kind with
  | .anchor name =>
    let following ← advance
    match following.kind with
    | .tag handle uri =>
      skip
      return (some name, some (handle, uri, following.start))
    | _ => return (some name, none)
  | .tag handle uri =>
    let following ← advance
    match following.kind with
    | .anchor name =>
      skip
      return (some name, some (handle, uri, token.start))
    | _ => return (none, some (handle, uri, token.start))
  | _ => return (none, none)

/-- Whether a token is of one of some kinds. -/
def isOneOf (kinds : List TokenKind) (token : Token) : Bool :=
  kinds.contains token.kind

/-- Adds the event of a part that has a name or not. -/
def emitPart (name : Option String) (event : Event) (mark : Mark) : Composing Unit := do
  if let some name := name then anchor name
  emit event mark

/-- A part of which only the name or the tag is there. -/
def emptyNode (block : Bool) (name tag : Option String) (token : Token) (start : Mark) :
    Composing Unit := do
  if name.isSome || tag.isSome then emitPart name (.scalar "" .plain tag) start
  else
    fail (if block then "while parsing a block node" else "while parsing a flow node") start
      "did not find expected node content" token.start

mutual

/-- A part of the document. Block collections count only where `block` is set, and a sequence
without indentation of its own only where `flat` is set too. -/
def node (block flat : Bool) : Nat → Composing Unit
  | 0 => throw .endOfDocument
  | fuel + 1 => do
    let first ← peek
    let start := first.start
    match first.kind with
    | .alias name =>
      skip
      match (← get).anchors.lookup name with
      | some number => emit (.alias number) start
      | none => throw (.unknownAnchor start)
    | _ =>
      let (name, tagged) ← properties
      let token ← peek
      let tag ← match tagged with
        | some (handle, uri, mark) => some <$> resolveTag handle uri start mark
        | none => pure none
      if flat && token.kind == .blockEntry then
        emitPart name .sequenceStart start
        flatSequence fuel
      else
        match token.kind with
        | .scalar value style =>
          skip
          emitPart name (.scalar value style (if tag == some "!" then none else tag)) start
        | .flowSequenceStart =>
          emitPart name .sequenceStart start
          skip
          flowSequence token.start true fuel
        | .flowMappingStart =>
          emitPart name .mappingStart start
          skip
          flowMapping token.start true fuel
        | .blockSequenceStart =>
          if block then
            emitPart name .sequenceStart start
            skip
            blockSequence token.start fuel
          else emptyNode block name tag token start
        | .blockMappingStart =>
          if block then
            emitPart name .mappingStart start
            skip
            blockMapping token.start fuel
          else emptyNode block name tag token start
        | _ => emptyNode block name tag token start

/-- The entries of a block sequence that starts at a place, and its end. -/
def blockSequence (start : Mark) : Nat → Composing Unit
  | 0 => throw .endOfDocument
  | fuel + 1 => do
    let token ← peek
    match token.kind with
    | .blockEntry =>
      let following ← advance
      if isOneOf [.blockEntry, .blockEnd] following then emitEmpty token.stop
      else node true false fuel
      blockSequence start fuel
    | .blockEnd =>
      emit .sequenceEnd token.start
      skip
    | _ =>
      fail "while parsing a block collection" start "did not find expected '-' indicator"
        token.start

/-- The entries of a sequence without indentation of its own, and its end. -/
def flatSequence : Nat → Composing Unit
  | 0 => throw .endOfDocument
  | fuel + 1 => do
    let token ← peek
    match token.kind with
    | .blockEntry =>
      let following ← advance
      if isOneOf [.blockEntry, .key, .value, .blockEnd] following then emitEmpty token.stop
      else node true false fuel
      flatSequence fuel
    | _ => emit .sequenceEnd token.start

/-- The entries of a block mapping that starts at a place, and its end. -/
def blockMapping (start : Mark) : Nat → Composing Unit
  | 0 => throw .endOfDocument
  | fuel + 1 => do
    let token ← peek
    match token.kind with
    | .key =>
      let following ← advance
      if isOneOf [.key, .value, .blockEnd] following then emitEmpty token.stop
      else node true true fuel
      let token ← peek
      match token.kind with
      | .value =>
        let following ← advance
        if isOneOf [.key, .value, .blockEnd] following then emitEmpty token.stop
        else node true true fuel
      | _ => emitEmpty token.start
      blockMapping start fuel
    | .blockEnd =>
      emit .mappingEnd token.start
      skip
    | _ => fail "while parsing a block mapping" start "did not find expected key" token.start

/-- The entries of a flow sequence that starts at a place, and its end. -/
def flowSequence (start : Mark) (first : Bool) : Nat → Composing Unit
  | 0 => throw .endOfDocument
  | fuel + 1 => do
    let token ← peek
    let token ←
      if token.kind == .flowSequenceEnd || first then pure token
      else if token.kind == .flowEntry then advance
      else
        fail "while parsing a flow sequence" start "did not find expected ',' or ']'" token.start
    match token.kind with
    | .flowSequenceEnd =>
      emit .sequenceEnd token.start
      skip
    | .key =>
      emit .mappingStart token.start
      skip
      flowPair fuel
      flowSequence start false fuel
    | _ =>
      node false false fuel
      flowSequence start false fuel

/-- A mapping of one entry in a flow sequence, behind its start. -/
def flowPair : Nat → Composing Unit
  | 0 => throw .endOfDocument
  | fuel + 1 => do
    let token ← peek
    if isOneOf [.value, .flowEntry, .flowSequenceEnd] token then
      skip
      emitEmpty token.stop
    else node false false fuel
    let token ← peek
    if token.kind == .value then
      let following ← advance
      if isOneOf [.flowEntry, .flowSequenceEnd] following then emitEmpty following.start
      else node false false fuel
    else emitEmpty token.start
    emit .mappingEnd (← peek).start

/-- The entries of a flow mapping that starts at a place, and its end. -/
def flowMapping (start : Mark) (first : Bool) : Nat → Composing Unit
  | 0 => throw .endOfDocument
  | fuel + 1 => do
    let token ← peek
    let token ←
      if token.kind == .flowMappingEnd || first then pure token
      else if token.kind == .flowEntry then advance
      else
        fail "while parsing a flow mapping" start "did not find expected ',' or '\x7d'"
          token.start
    match token.kind with
    | .flowMappingEnd =>
      emit .mappingEnd token.start
      skip
    | .key =>
      let following ← advance
      if isOneOf [.value, .flowEntry, .flowMappingEnd] following then emitEmpty following.start
      else node false false fuel
      let token ← peek
      if token.kind == .value then
        let following ← advance
        if isOneOf [.flowEntry, .flowMappingEnd] following then emitEmpty following.start
        else node false false fuel
      else emitEmpty token.start
      flowMapping start false fuel
    | _ =>
      node false false fuel
      emitEmpty (← peek).start
      flowMapping start false fuel

end

/-- Whether a token starts a directive. -/
def isDirective (token : Token) : Bool :=
  match token.kind with
  | .version .. => true
  | .tagDirective .. => true
  | _ => false

/-- Directives; `versioned` tells whether there was one that gives the version. -/
def directives (versioned : Bool) : Nat → Composing Unit
  | 0 => return
  | fuel + 1 => do
    let token ← peek
    match token.kind with
    | .version major minor =>
      if versioned then throw (.malformed "found duplicate %YAML directive" token.start none)
      if major != 1 || !(minor == 1 || minor == 2) then
        throw (.malformed "found incompatible YAML document" token.start none)
      skip
      directives true fuel
    | .tagDirective handle meaning =>
      if ((← get).handles.lookup handle).isSome then
        throw (.malformed "found duplicate %TAG directive" token.start none)
      modify fun reading => { reading with handles := (handle, meaning) :: reading.handles }
      skip
      directives versioned fuel
    | _ => return

/-- Gives the handles that no directive gave a meaning their standard meaning. -/
def standardHandles : Composing Unit :=
  modify fun reading =>
    { reading with handles := reading.handles ++ [("!", "!"), ("!!", "tag:yaml.org,2002:")] }

/-- The first document of a text. -/
def document (fuel : Nat) : Composing Unit := do
  let token ← advance
  if token.kind == .streamEnd then emit .void token.start
  else
    if isDirective token || token.kind == .documentStart then
      directives false fuel
      standardHandles
      let token ← peek
      if token.kind != .documentStart then
        throw (.malformed "did not find expected <document start>" token.start none)
      let following ← advance
      if isDirective following ||
          isOneOf [.documentStart, .documentEnd, .streamEnd] following then
        emitEmpty following.start
      else node true false fuel
    else
      standardHandles
      node true false fuel
    let token ← peek
    if token.kind == .documentEnd then skip

/-- Whether the text ends behind the first document. -/
def atStreamEnd : Nat → Composing Bool
  | 0 => return false
  | fuel + 1 => do
    let token ← peek
    if token.kind == .documentEnd then
      skip
      atStreamEnd fuel
    else return token.kind == .streamEnd

end Composing

/-- A document. -/
structure Document where
  /-- The events. -/
  events : List (Event × Mark)
  /-- How many events come before the part of each anchor. -/
  targets : List (Nat × Nat)
  /-- Why there are no more events. -/
  failure : Option Error
  /-- Whether other documents come behind it. -/
  followed : Bool

namespace Document

/-- The first document of a text. -/
def ofText (text : String) : Document :=
  let (tokens, failure) := tokens text
  let fuel := 4 * tokens.length + 16
  let start : Reading :=
    ⟨tokens, failure.getD .endOfDocument, [], [], [], 0, []⟩
  let (outcome, reading) := (Composing.document fuel).run.run start
  match outcome with
  | .error error => ⟨reading.events.reverse, reading.targets, some error, false⟩
  | .ok () =>
    let (ended, _) := (Composing.atStreamEnd fuel).run.run reading
    let followed := match ended with
      | .ok ended => !ended
      | .error _ => true
    ⟨reading.events.reverse, reading.targets, none, followed⟩

end Document

end Yaml

end SqlLineage
