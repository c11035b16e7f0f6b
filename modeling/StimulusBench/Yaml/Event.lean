import StimulusBench.Yaml.Token

/-!
# `StimulusBench.Yaml.Event` — the nodes of a YAML document, opened and closed

The tokens of a document are read into events: a scalar, an alias, or the start or end of a list or
a mapping. The reader keeps a stack of goals, what it expects next and after that; every step takes
the topmost goal, looks at the next token, and replaces the goal.

## Contents
- **Events.** `Event`, each with the mark of its node, its anchor and tag included.
- **Goals.** `Goal`, `Step`; one function per family of goals says what a goal turns into.
- **Documents.** `DocumentEvents.ofTokens` reads the first document of a text.
-/

namespace StimulusBench.Yaml

/-! ## Events -/

/-- The full name of a tag, as bytes. -/
abbrev Tag := List UInt8

/-- What is said about a node in front of it. -/
structure Properties where
  anchor : Option (List Char)
  tag : Option Tag
  deriving Repr, DecidableEq

/-- A node without properties. -/
def Properties.none : Properties := ⟨Option.none, Option.none⟩

/-- The start or end of a node. -/
inductive Event
  | alias (name : List Char)
  | scalar (properties : Properties) (text : List Char) (style : ScalarStyle)
  | listStart (properties : Properties)
  | listEnd
  | mappingStart (properties : Properties)
  | mappingEnd
  deriving Repr, DecidableEq

/-- An event and the mark of its node. -/
abbrev MarkedEvent := Event × Mark

/-- The scalar that an absent node stands for. -/
def Event.empty : Event := .scalar .none [] .plain

/-! ## Goals -/

/-- What the reader expects next. -/
inductive Goal
  /-- The content of a document behind its start indicator. -/
  | content
  /-- A node; inside brackets no block may start, and only a mapping value may be a list whose
      dashes are not indented. -/
  | node (block unindented : Bool)
  | blockItems (first : Bool)
  | unindentedItems
  | blockKeys (first : Bool)
  | blockValue
  | flowItems (first : Bool)
  | pairKey
  | pairValue
  | pairEnd
  | flowKeys (first : Bool)
  | flowValue (absent : Bool)
  deriving Repr, DecidableEq

/-- What tag handles stand for in a document. -/
abbrev Handles := List (List Char × Tag)

/-- The outcome of a step: the goals in place of the topmost one, the event if there is one, and the
    tokens behind the step. -/
structure Step where
  goals : List Goal
  event : Option MarkedEvent
  tokens : List Token
  deriving Repr

/-- Why a step is not possible: a fault, or no token to look at. -/
inductive Halt
  | fault (fault : Fault)
  | noToken
  deriving Repr

/-- A fault at a token. -/
def Token.halt {α : Type} (t : Token) (problem : Problem) : Except Halt α :=
  .error (.fault ⟨problem, t.mark⟩)

namespace Step

/-- A step without an event. -/
def silent (goals : List Goal) (tokens : List Token) : Except Halt Step :=
  .ok ⟨goals, none, tokens⟩

/-- A step with an event. -/
def emit (goals : List Goal) (event : Event) (mark : Mark) (tokens : List Token) :
    Except Halt Step :=
  .ok ⟨goals, some (event, mark), tokens⟩

end Step

/-- The topmost of some tokens, and all of them behind it. -/
def peek : List Token → Except Halt (Token × List Token)
  | [] => .error .noToken
  | t :: ts => .ok (t, ts)

/-! ### Nodes -/

/-- The full name of a written tag. -/
def Handles.resolve (handles : Handles) (text : TagText) (mark : Mark) : Except Halt Tag :=
  if text.handle.isEmpty then .ok text.suffix
  else match handles.lookup text.handle with
    | some expansion => .ok (expansion ++ text.suffix)
    | none => .error (.fault ⟨.undefinedHandle, mark⟩)

/-- The anchor and the tag in front of a node, in either order, and the tokens behind them. -/
def properties (ts : List Token) :
    Except Halt (Option (List Char) × Option TagText × List Token) := do
  let (t, rest) ← peek ts
  match t.kind with
  | .anchor name =>
    let (t', rest') ← peek rest
    match t'.kind with
    | .tag text => return (some name, some text, rest')
    | _ => return (some name, none, rest)
  | .tag text =>
    let (t', rest') ← peek rest
    match t'.kind with
    | .anchor name => return (some name, some text, rest')
    | _ => return (none, some text, rest)
  | _ => return (none, none, ts)

/-- Reads a node behind its properties. The tag `!` alone is a tag like any other, on a scalar too. -/
def nodeBody (block unindented : Bool) (props : Properties) (mark : Mark) (ts : List Token) :
    Except Halt Step := do
  let (t, rest) ← peek ts
  let isBare := props.anchor.isNone && props.tag.isNone
  match t.kind with
  | .scalar text style => Step.emit [] (.scalar props text style) mark rest
  | .flowListStart => Step.emit [.flowItems true] (.listStart props) mark ts
  | .flowMappingStart => Step.emit [.flowKeys true] (.mappingStart props) mark ts
  | .blockEntry =>
    if unindented then Step.emit [.unindentedItems] (.listStart props) mark ts
    else if isBare then t.halt .expectedContent
    else Step.emit [] (.scalar props [] .plain) mark ts
  | .blockListStart =>
    if block then Step.emit [.blockItems true] (.listStart props) mark ts
    else if isBare then t.halt .expectedContent
    else Step.emit [] (.scalar props [] .plain) mark ts
  | .blockMappingStart =>
    if block then Step.emit [.blockKeys true] (.mappingStart props) mark ts
    else if isBare then t.halt .expectedContent
    else Step.emit [] (.scalar props [] .plain) mark ts
  | _ =>
    if isBare then t.halt .expectedContent
    else Step.emit [] (.scalar props [] .plain) mark ts

/-- Reads a node: an alias, or its properties and then the node itself. -/
def nodeStep (handles : Handles) (block unindented : Bool) (ts : List Token) :
    Except Halt Step := do
  let (t, rest) ← peek ts
  match t.kind with
  | .alias name => Step.emit [] (.alias name) t.mark rest
  | _ =>
    let (anchor, text, behind) ← properties ts
    let (_, _) ← peek behind
    let tag ← match text with
      | none => Except.ok none
      | some text => (handles.resolve text t.mark).map some
    nodeBody block unindented ⟨anchor, tag⟩ t.mark behind

/-! ### Blocks -/

/-- The items of a block list. -/
def blockItemsStep (first : Bool) (ts : List Token) : Except Halt Step := do
  let (t, rest) ← peek ts
  if first then Step.silent [.blockItems false] rest
  else match t.kind with
    | .blockEntry =>
      let (t', _) ← peek rest
      match t'.kind with
      | .blockEntry => Step.emit [.blockItems false] .empty t'.mark rest
      | .blockEnd => Step.emit [.blockItems false] .empty t'.mark rest
      | _ => Step.silent [.node true false, .blockItems false] rest
    | .blockEnd => Step.emit [] .listEnd t.mark rest
    | _ => t.halt .expectedDash

/-- The items of a list whose dashes are not indented. -/
def unindentedItemsStep (ts : List Token) : Except Halt Step := do
  let (t, rest) ← peek ts
  match t.kind with
  | .blockEntry =>
    let (t', _) ← peek rest
    match t'.kind with
    | .blockEntry => Step.emit [.unindentedItems] .empty t'.mark rest
    | .key => Step.emit [.unindentedItems] .empty t'.mark rest
    | .value => Step.emit [.unindentedItems] .empty t'.mark rest
    | .blockEnd => Step.emit [.unindentedItems] .empty t'.mark rest
    | _ => Step.silent [.node true false, .unindentedItems] rest
  | _ => Step.emit [] .listEnd t.mark ts

/-- The keys of a block mapping. -/
def blockKeysStep (first : Bool) (ts : List Token) : Except Halt Step := do
  let (t, rest) ← peek ts
  if first then Step.silent [.blockKeys false] rest
  else match t.kind with
    | .key =>
      let (t', _) ← peek rest
      match t'.kind with
      | .key => Step.emit [.blockValue] .empty t'.mark rest
      | .value => Step.emit [.blockValue] .empty t'.mark rest
      | .blockEnd => Step.emit [.blockValue] .empty t'.mark rest
      | _ => Step.silent [.node true true, .blockValue] rest
    | .blockEnd => Step.emit [] .mappingEnd t.mark rest
    | _ => t.halt .expectedKey

/-- The value behind a key of a block mapping. -/
def blockValueStep (ts : List Token) : Except Halt Step := do
  let (t, rest) ← peek ts
  match t.kind with
  | .value =>
    let (t', _) ← peek rest
    match t'.kind with
    | .key => Step.emit [.blockKeys false] .empty t'.mark rest
    | .value => Step.emit [.blockKeys false] .empty t'.mark rest
    | .blockEnd => Step.emit [.blockKeys false] .empty t'.mark rest
    | _ => Step.silent [.node true true, .blockKeys false] rest
  | _ => Step.emit [.blockKeys false] .empty t.mark ts

/-! ### Brackets -/

/-- An item of a list in brackets: a node, or a mapping of one pair. -/
def flowItem (ts : List Token) : Except Halt Step := do
  let (t, rest) ← peek ts
  match t.kind with
  | .key => Step.emit [.pairKey, .flowItems false] (.mappingStart .none) t.mark rest
  | .flowListEnd => Step.emit [] .listEnd t.mark rest
  | _ => Step.silent [.node false false, .flowItems false] ts

/-- The items of a list in brackets. -/
def flowItemsStep (first : Bool) (ts : List Token) : Except Halt Step := do
  let (t, rest) ← peek ts
  if first then flowItem rest
  else match t.kind with
    | .flowListEnd => Step.emit [] .listEnd t.mark rest
    | .flowEntry => flowItem rest
    | _ => t.halt .expectedListEnd

/-- The key of a pair in a list in brackets. An absent key takes the token behind it along. -/
def pairKeyStep (ts : List Token) : Except Halt Step := do
  let (t, rest) ← peek ts
  match t.kind with
  | .value => Step.emit [.pairValue] .empty t.mark rest
  | .flowEntry => Step.emit [.pairValue] .empty t.mark rest
  | .flowListEnd => Step.emit [.pairValue] .empty t.mark rest
  | _ => Step.silent [.node false false, .pairValue] ts

/-- The value of a pair in a list in brackets. -/
def pairValueStep (ts : List Token) : Except Halt Step := do
  let (t, rest) ← peek ts
  match t.kind with
  | .value =>
    let (t', _) ← peek rest
    match t'.kind with
    | .flowEntry => Step.emit [.pairEnd] .empty t'.mark rest
    | .flowListEnd => Step.emit [.pairEnd] .empty t'.mark rest
    | _ => Step.silent [.node false false, .pairEnd] rest
  | _ => Step.emit [.pairEnd] .empty t.mark ts

/-- The end of a pair in a list in brackets. -/
def pairEndStep (ts : List Token) : Except Halt Step := do
  let (t, _) ← peek ts
  Step.emit [] .mappingEnd t.mark ts

/-- A pair of a mapping in braces. -/
def flowPair (ts : List Token) : Except Halt Step := do
  let (t, rest) ← peek ts
  match t.kind with
  | .key =>
    let (t', _) ← peek rest
    match t'.kind with
    | .value => Step.emit [.flowValue false] .empty t'.mark rest
    | .flowEntry => Step.emit [.flowValue false] .empty t'.mark rest
    | .flowMappingEnd => Step.emit [.flowValue false] .empty t'.mark rest
    | _ => Step.silent [.node false false, .flowValue false] rest
  | .flowMappingEnd => Step.emit [] .mappingEnd t.mark rest
  | _ => Step.silent [.node false false, .flowValue true] ts

/-- The pairs of a mapping in braces. -/
def flowKeysStep (first : Bool) (ts : List Token) : Except Halt Step := do
  let (t, rest) ← peek ts
  if first then flowPair rest
  else match t.kind with
    | .flowMappingEnd => Step.emit [] .mappingEnd t.mark rest
    | .flowEntry => flowPair rest
    | _ => t.halt .expectedMappingEnd

/-- The value behind a key of a mapping in braces. -/
def flowValueStep (absent : Bool) (ts : List Token) : Except Halt Step := do
  let (t, rest) ← peek ts
  if absent then Step.emit [.flowKeys false] .empty t.mark ts
  else match t.kind with
    | .value =>
      let (t', _) ← peek rest
      match t'.kind with
      | .flowEntry => Step.emit [.flowKeys false] .empty t'.mark rest
      | .flowMappingEnd => Step.emit [.flowKeys false] .empty t'.mark rest
      | _ => Step.silent [.node false false, .flowKeys false] rest
    | _ => Step.emit [.flowKeys false] .empty t.mark ts

/-! ### All goals -/

/-- The content of a document behind its start indicator; it may be absent. -/
def contentStep (ts : List Token) : Except Halt Step := do
  let (t, _) ← peek ts
  match t.kind with
  | .directive _ => Step.emit [] .empty t.mark ts
  | .documentStart => Step.emit [] .empty t.mark ts
  | .documentEnd => Step.emit [] .empty t.mark ts
  | .streamEnd => Step.emit [] .empty t.mark ts
  | _ => Step.silent [.node true false] ts

/-- The step that a goal asks for. -/
def Goal.step (handles : Handles) (goal : Goal) (ts : List Token) : Except Halt Step :=
  match goal with
  | .content => contentStep ts
  | .node block unindented => nodeStep handles block unindented ts
  | .blockItems first => blockItemsStep first ts
  | .unindentedItems => unindentedItemsStep ts
  | .blockKeys first => blockKeysStep first ts
  | .blockValue => blockValueStep ts
  | .flowItems first => flowItemsStep first ts
  | .pairKey => pairKeyStep ts
  | .pairValue => pairValueStep ts
  | .pairEnd => pairEndStep ts
  | .flowKeys first => flowKeysStep first ts
  | .flowValue absent => flowValueStep absent ts

/-! ## Documents -/

/-- The events read so far, and the tokens behind them or the reason why there are no more. -/
structure Progress where
  events : List MarkedEvent
  outcome : Except Halt (List Token)

/-- Follows the goals to the last one. The events so far stand in reverse order. -/
def follow (handles : Handles) : Nat → List Goal → List MarkedEvent → List Token → Progress
  | _, [], acc, ts => ⟨acc.reverse, .ok ts⟩
  | 0, _ :: _, acc, _ => ⟨acc.reverse, .error .noToken⟩
  | fuel + 1, goal :: goals, acc, ts =>
    match goal.step handles ts with
    | .error halt => ⟨acc.reverse, .error halt⟩
    | .ok step =>
      follow handles fuel (step.goals ++ goals) (step.event.toList ++ acc) step.tokens

/-- Steps enough for any list of tokens: a token is taken at least every sixth step. -/
def stepBound (ts : List Token) : Nat := 8 * ts.length + 16

/-- The handles that every document knows. -/
def defaultHandles : Handles :=
  [(['!'], asciiBytes ['!']),
    (['!', '!'], asciiBytes "tag:yaml.org,2002:".toList)]

/-- The directives in front of a document: whether one gave a version, the handles, and the tokens
    behind them. -/
def directives : (versioned : Bool) → Handles → List Token → Except Halt (Handles × List Token)
  | _, _, [] => .error .noToken
  | versioned, handles, t :: ts =>
    match t.kind with
    | .directive (.version major minor) =>
      if versioned then t.halt .duplicateVersion
      else if major ≠ 1 ∨ (minor ≠ 1 ∧ minor ≠ 2) then t.halt .incompatibleVersion
      else directives true handles ts
    | .directive (.tagHandle handle expansion) =>
      if (handles.lookup handle).isSome then t.halt .duplicateHandle
      else directives versioned ((handle, expansion) :: handles) ts
    | _ => .ok (handles, t :: ts)

/-- Whether a document starts without a start indicator at a token. -/
def startsBare (t : Token) : Bool :=
  match t.kind with
  | .directive _ => false
  | .documentStart => false
  | _ => true

/-- Whether nothing but the end of the text follows a document. -/
def endFollows : List Token → Bool
  | [] => false
  | t :: ts =>
    match t.kind with
    | .documentEnd => endFollows ts
    | .streamEnd => true
    | _ => false

/-- The events of the first document of a text. -/
structure DocumentEvents where
  events : List MarkedEvent
  /-- The first fault of the document. -/
  fault : Option Fault
  /-- Whether nothing but the end of the text follows. -/
  alone : Bool
  deriving Repr

namespace DocumentEvents

/-- The fault that ends the events: one of the form, or the fault of the tokens. -/
def faultOf (tokens : Tokens) : Halt → Fault
  | .fault f => f
  | .noToken => tokens.fault.getD ⟨.truncated, .start⟩

/-- No events but a fault. -/
def faulty (tokens : Tokens) (halt : Halt) : DocumentEvents :=
  ⟨[], some (faultOf tokens halt), false⟩

/-- The document whose goals are followed from some tokens on. -/
def following (tokens : Tokens) (handles : Handles) (goal : Goal) (ts : List Token) :
    DocumentEvents :=
  let progress := follow handles (stepBound ts) [goal] [] ts
  match progress.outcome with
  | .error halt => ⟨progress.events, some (faultOf tokens halt), false⟩
  | .ok [] => ⟨progress.events, some (faultOf tokens .noToken), false⟩
  | .ok rest => ⟨progress.events, none, endFollows rest⟩

/-- The first document of a text, from its tokens. A text without a document has no events and no
    fault. -/
def ofTokens (tokens : Tokens) : DocumentEvents :=
  match tokens.list with
  | [] => faulty tokens .noToken
  | t :: ts =>
    if t.kind = .streamEnd then ⟨[], none, true⟩
    else if startsBare t then following tokens defaultHandles (.node true false) (t :: ts)
    else
      match directives false [] (t :: ts) with
      | .error halt => faulty tokens halt
      | .ok (handles, rest) =>
        match rest with
        | [] => faulty tokens .noToken
        | t' :: rest =>
          if t'.kind = .documentStart then
            following tokens (handles ++ defaultHandles) .content rest
          else faulty tokens (.fault ⟨.expectedDocumentStart, t'.mark⟩)

end DocumentEvents

end StimulusBench.Yaml
