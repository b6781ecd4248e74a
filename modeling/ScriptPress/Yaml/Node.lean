import ScriptPress.Yaml.Token

/-!
# The first document of a YAML text

The tree of the first document, read as far as it goes: where the text goes wrong, the collections
that are still open are marked so and the node that could not be read is `lost`. Whoever walks the
tree meets what was written before a fault before the fault itself.
-/
namespace ScriptPress.Yaml

/-- A node and the mark where it starts. A node with an anchor has a label, by which an alias refers
to it. -/
inductive Node where
  | scalar (mark : Mark) (label : Option Nat) (tag : Option (List UInt8)) (text : List Char)
      (style : Style)
  | alias (mark : Mark) (label : Nat)
  | sequence (mark : Mark) (label : Option Nat) (items : List Node) (closed : Bool)
  | mapping (mark : Mark) (label : Option Nat) (entries : List (Node × Node)) (closed : Bool)
  | lost
  deriving Repr

def Node.empty (mark : Mark) : Node := .scalar mark none none [] .plain

/-- The tokens still to come, the fault that ends them, the anchors and the tag handles so far. -/
structure Feed where
  tokens : List Placed
  fault : Option Fault
  anchors : List (List Char × Nat)
  handles : List (List Char × List UInt8)
  deriving Repr

/-- Something that was read, and what comes after it or the fault that stops the reading. -/
structure Part (α : Type) where
  value : α
  next : Except Fault Feed

namespace Feed

def peek (f : Feed) : Except Fault Placed :=
  match f.tokens with
  | p :: _ => .ok p
  | [] => .error (f.fault.getD (.plain .noContent Mark.zero))

def skip (f : Feed) : Feed := { f with tokens := f.tokens.tail }

def skipped (f : Feed) : Except Fault (Placed × Feed) := f.skip.peek.map fun p => (p, f.skip)

/-! ### Anchors -/

/-- Notes an anchor. Its label is the number of the names noted before; a name that is noted again
gets a new label. -/
def note (f : Feed) (name : List Char) : Nat × Feed :=
  let label := f.anchors.length
  (label, { f with
    anchors :=
      if f.anchors.any fun a => a.1 == name then
        f.anchors.map fun a => if a.1 == name then (name, label) else a
      else f.anchors ++ [(name, label)] })

def note? (f : Feed) : Option (List Char) → Option Nat × Feed
  | none => (none, f)
  | some name => ((f.note name).1, (f.note name).2)

/-! ### Tags -/

def standardHandles : List (List Char × List UInt8) :=
  [("!".toList, [0x21]), ("!!".toList, "tag:yaml.org,2002:".toUTF8.data.toList)]

def resolve? (f : Feed) (t : Tag) : Option (List UInt8) :=
  if t.handle.isEmpty then some t.suffix
  else
    ((f.handles ++ standardHandles).find? fun h => h.1 == t.handle).map fun h => h.2 ++ t.suffix

end Feed

structure Properties where
  anchor : Option (List Char)
  tag : Option (Tag × Mark)
  start : Mark
  deriving Repr

def properties (f : Feed) : Except Fault (Properties × Feed) := do
  let p ← f.peek
  match p.token with
  | .anchor name =>
    let (q, f) ← f.skipped
    match q.token with
    | .tag t => return (⟨some name, some (t, q.start), p.start⟩, f.skip)
    | _ => return (⟨some name, none, p.start⟩, f)
  | .tag t =>
    let (q, f) ← f.skipped
    match q.token with
    | .anchor name => return (⟨some name, some (t, p.start), p.start⟩, f.skip)
    | _ => return (⟨none, some (t, p.start), p.start⟩, f)
  | _ => return (⟨none, none, p.start⟩, f)

def Properties.resolved (props : Properties) (f : Feed) : Except Fault (Option (List UInt8)) :=
  match props.tag with
  | none => .ok none
  | some (t, mark) =>
    match f.resolve? t with
    | some bytes => .ok (some bytes)
    | none => .error (.during .node props.start .unknownHandle mark)

/-! ### The grammar -/

/-- Where a node stands: in a block collection, in a block mapping (where a sequence need not be
moved in), or in a flow collection. -/
inductive Place where
  | block
  | blockMapping
  | flow
  deriving DecidableEq, Repr

def Token.endsBlockPart : Token → Bool
  | .key | .value | .blockEnd => true
  | _ => false

def Token.endsFlowPart : Token → Bool
  | .flowEntry | .flowMappingEnd => true
  | _ => false

def Token.endsFlowItem : Token → Bool
  | .flowEntry | .flowSequenceEnd => true
  | _ => false

/-- The members that were read, whether the collection is closed, and what comes after it. -/
abbrev Members (α : Type) := Part (List α × Bool)

namespace Members

def stopped {α : Type} (fault : Fault) : Members α := ⟨([], false), .error fault⟩

def ended {α : Type} (f : Feed) : Members α := ⟨([], true), .ok f⟩

def after {α : Type} (first : Part α) (more : Feed → Members α) : Members α :=
  match first.next with
  | .error fault => ⟨([first.value], false), .error fault⟩
  | .ok f =>
    let rest := more f
    ⟨(first.value :: rest.value.1, rest.value.2), rest.next⟩

def node {α : Type} (m : Members α) (make : List α → Bool → Node) : Part Node :=
  ⟨make m.value.1 m.value.2, m.next⟩

end Members

def Part.entry (key : Part Node) (value : Feed → Part Node) : Part (Node × Node) :=
  match key.next with
  | .error fault => ⟨(key.value, .lost), .error fault⟩
  | .ok f => ⟨(key.value, (value f).value), (value f).next⟩

def Part.lost (fault : Fault) : Part Node := ⟨.lost, .error fault⟩

mutual

def node : Nat → Place → Feed → Part Node
  | 0, _, _ => .lost (.plain .tooDeep Mark.zero)
  | n + 1, place, f =>
    match f.peek with
    | .error fault => .lost fault
    | .ok ⟨.alias name, start, _⟩ =>
      match f.anchors.find? fun a => a.1 == name with
      | some (_, label) => ⟨.alias start label, .ok f.skip⟩
      | none => .lost (.plain .unknownAnchor start)
    | .ok _ =>
      match properties f with
      | .error fault => .lost fault
      | .ok (props, f) =>
        match f.peek, props.resolved f with
        | .error fault, _ => .lost fault
        | .ok _, .error fault => .lost fault
        | .ok p, .ok tag =>
          let mark := props.start
          let (label, noted) := f.note? props.anchor
          match p.token, place with
          | .blockEntry, .blockMapping =>
            (indentlessItems n noted).node (.sequence mark label)
          | .scalar text style, _ =>
            ⟨.scalar mark label (if tag = some [0x21] then none else tag) text style,
              .ok noted.skip⟩
          | .flowSequenceStart, _ =>
            (flowItems n p.start true noted.skip).node (.sequence mark label)
          | .flowMappingStart, _ =>
            (flowEntries n p.start true noted.skip).node (.mapping mark label)
          | .blockSequenceStart, .block | .blockSequenceStart, .blockMapping =>
            (blockItems n p.start noted.skip).node (.sequence mark label)
          | .blockMappingStart, .block | .blockMappingStart, .blockMapping =>
            (blockEntries n p.start noted.skip).node (.mapping mark label)
          | _, _ =>
            if props.anchor.isSome || tag.isSome then
              ⟨.scalar mark label tag [] .plain, .ok noted⟩
            else
              .lost (.during (if place = .flow then .flowNode else .blockNode) mark .noContent
                p.start)

def blockItems : Nat → Mark → Feed → Members Node
  | 0, _, _ => .stopped (.plain .tooDeep Mark.zero)
  | n + 1, began, f =>
    match f.peek with
    | .error fault => .stopped fault
    | .ok ⟨.blockEntry, _, stop⟩ =>
      match f.skipped with
      | .error fault => .stopped fault
      | .ok (p, f) =>
        if p.token = .blockEntry ∨ p.token = .blockEnd then
          .after ⟨.empty stop, .ok f⟩ (blockItems n began)
        else .after (node n .block f) (blockItems n began)
    | .ok ⟨.blockEnd, _, _⟩ => .ended f.skip
    | .ok p => .stopped (.during .blockSequence began .noDash p.start)

def indentlessItems : Nat → Feed → Members Node
  | 0, _ => .stopped (.plain .tooDeep Mark.zero)
  | n + 1, f =>
    match f.peek with
    | .error fault => .stopped fault
    | .ok ⟨.blockEntry, _, stop⟩ =>
      match f.skipped with
      | .error fault => .stopped fault
      | .ok (p, f) =>
        if p.token = .blockEntry || p.token.endsBlockPart then
          .after ⟨.empty stop, .ok f⟩ (indentlessItems n)
        else .after (node n .block f) (indentlessItems n)
    | .ok _ => .ended f

def blockEntries : Nat → Mark → Feed → Members (Node × Node)
  | 0, _, _ => .stopped (.plain .tooDeep Mark.zero)
  | n + 1, began, f =>
    match f.peek with
    | .error fault => .stopped fault
    | .ok ⟨.key, _, stop⟩ =>
      match f.skipped with
      | .error fault => .stopped fault
      | .ok (p, f) =>
        let key : Part Node :=
          if p.token.endsBlockPart then ⟨.empty stop, .ok f⟩ else node n .blockMapping f
        .after (key.entry (blockValue n)) (blockEntries n began)
    | .ok ⟨.blockEnd, _, _⟩ => .ended f.skip
    | .ok p => .stopped (.during .blockMapping began .noKey p.start)

def blockValue : Nat → Feed → Part Node
  | 0, _ => .lost (.plain .tooDeep Mark.zero)
  | n + 1, f =>
    match f.peek with
    | .error fault => .lost fault
    | .ok ⟨.value, _, stop⟩ =>
      match f.skipped with
      | .error fault => .lost fault
      | .ok (p, f) =>
        if p.token.endsBlockPart then ⟨.empty stop, .ok f⟩ else node n .blockMapping f
    | .ok p => ⟨.empty p.start, .ok f⟩

def flowItems : Nat → Mark → Bool → Feed → Members Node
  | 0, _, _, _ => .stopped (.plain .tooDeep Mark.zero)
  | n + 1, began, first, f =>
    match f.peek with
    | .error fault => .stopped fault
    | .ok p =>
      if p.token = .flowSequenceEnd then .ended f.skip
      else if !first && p.token ≠ .flowEntry then
        .stopped (.during .flowSequence began .noCommaOrBracket p.start)
      else
        match (if first then .ok (p, f) else f.skipped) with
        | .error fault => .stopped fault
        | .ok (p, f) =>
          if p.token = .flowSequenceEnd then .ended f.skip
          else if p.token = .key then
            .after (flowPair n p.start f.skip) (flowItems n began false)
          else .after (node n .flow f) (flowItems n began false)

def flowPair : Nat → Mark → Feed → Part Node
  | 0, _, _ => .lost (.plain .tooDeep Mark.zero)
  | n + 1, mark, f =>
    match f.peek with
    | .error fault => ⟨.mapping mark none [] false, .error fault⟩
    | .ok p =>
      let key : Part Node :=
        if p.token = .value || p.token.endsFlowItem then ⟨.empty p.stop, .ok f.skip⟩
        else node n .flow f
      let entry := key.entry (flowItemValue n)
      match entry.next with
      | .error fault => ⟨.mapping mark none [entry.value] false, .error fault⟩
      | .ok f =>
        match f.peek with
        | .error fault => ⟨.mapping mark none [entry.value] false, .error fault⟩
        | .ok _ => ⟨.mapping mark none [entry.value] true, .ok f⟩

def flowItemValue : Nat → Feed → Part Node
  | 0, _ => .lost (.plain .tooDeep Mark.zero)
  | n + 1, f =>
    match f.peek with
    | .error fault => .lost fault
    | .ok p =>
      if p.token = .value then
        match f.skipped with
        | .error fault => .lost fault
        | .ok (p, f) =>
          if p.token.endsFlowItem then ⟨.empty p.start, .ok f⟩ else node n .flow f
      else ⟨.empty p.start, .ok f⟩

/-- Reads the entries of a flow mapping; before all but the first stands a comma. -/
def flowEntries : Nat → Mark → Bool → Feed → Members (Node × Node)
  | 0, _, _, _ => .stopped (.plain .tooDeep Mark.zero)
  | n + 1, began, first, f =>
    match f.peek with
    | .error fault => .stopped fault
    | .ok p =>
      if p.token = .flowMappingEnd then .ended f.skip
      else if !first && p.token ≠ .flowEntry then
        .stopped (.during .flowMapping began .noCommaOrBrace p.start)
      else
        match (if first then .ok (p, f) else f.skipped) with
        | .error fault => .stopped fault
        | .ok (p, f) =>
          if p.token = .flowMappingEnd then .ended f.skip
          else if p.token = .key then
            match f.skipped with
            | .error fault => .stopped fault
            | .ok (p, f) =>
              let key : Part Node :=
                if p.token = .value || p.token.endsFlowPart then ⟨.empty p.start, .ok f⟩
                else node n .flow f
              .after (key.entry (flowValue n)) (flowEntries n began false)
          else
            .after ((node n .flow f).entry noValue) (flowEntries n began false)

def flowValue : Nat → Feed → Part Node
  | 0, _ => .lost (.plain .tooDeep Mark.zero)
  | n + 1, f =>
    match f.peek with
    | .error fault => .lost fault
    | .ok p =>
      if p.token = .value then
        match f.skipped with
        | .error fault => .lost fault
        | .ok (p, f) =>
          if p.token.endsFlowPart then ⟨.empty p.start, .ok f⟩ else node n .flow f
      else ⟨.empty p.start, .ok f⟩

def noValue (f : Feed) : Part Node :=
  match f.peek with
  | .error fault => .lost fault
  | .ok p => ⟨.empty p.start, .ok f⟩

end

/-! ### Documents -/

/-- The first document of a text: its root, an empty scalar if the text holds nothing; the fault that
stops its reading; whether anything follows it. -/
structure Document where
  root : Node
  fault : Option Fault
  more : Bool
  deriving Repr

def directives : Nat → Bool → Feed → Except Fault Feed
  | 0, _, f => .ok f
  | n + 1, versionSeen, f => do
    let p ← f.peek
    match p.token with
    | .directive (.version major minor) =>
      if versionSeen then throw (.plain .secondVersion p.start)
      if major ≠ 1 ∨ (minor ≠ 1 ∧ minor ≠ 2) then throw (.plain .otherVersion p.start)
      directives n true f.skip
    | .directive (.tag handle uri) =>
      if f.handles.any fun h => h.1 == handle then throw (.plain .secondHandle p.start)
      directives n versionSeen { f.skip with handles := f.handles ++ [(handle, uri)] }
    | _ => return f

def atStreamEnd (f : Feed) : Bool :=
  match f.tokens.dropWhile fun p => p.token == .documentEnd with
  | p :: _ => p.token == .streamEnd
  | [] => false

namespace Document

def close (root : Part Node) : Document :=
  match root.next with
  | .error fault => ⟨root.value, some fault, false⟩
  | .ok f =>
    match f.peek with
    | .error fault => ⟨root.value, some fault, false⟩
    | .ok _ => ⟨root.value, none, !atStreamEnd f⟩

/-- The tokens that cannot start the content of a document. -/
def isSeparator : Token → Bool
  | .directive _ | .documentStart | .documentEnd | .streamEnd => true
  | _ => false

def ofFeed (f : Feed) : Document :=
  let depth := 4 * f.tokens.length + 4
  match f.peek with
  | .error fault => ⟨.lost, some fault, false⟩
  | .ok p =>
    if p.token = .streamEnd then ⟨.empty p.start, none, false⟩
    else if p.token ≠ .documentEnd ∧ isSeparator p.token then
      match directives f.tokens.length false f with
      | .error fault => ⟨.lost, some fault, false⟩
      | .ok f =>
        match f.peek with
        | .error fault => ⟨.lost, some fault, false⟩
        | .ok p =>
          if p.token ≠ .documentStart then
            ⟨.lost, some (.plain .noDocumentStart p.start), false⟩
          else
            match f.skipped with
            | .error fault => ⟨.lost, some fault, false⟩
            | .ok (p, f) =>
              if isSeparator p.token then close ⟨.empty p.start, .ok f⟩
              else close (node depth .block f)
    else close (node depth .block f)

def ofText (text : List Char) : Document :=
  let (tokens, fault) := tokens text
  ofFeed ⟨tokens, fault, [], []⟩

end Document
end ScriptPress.Yaml
