-- SUMMARY: The events of a YAML document: scalars, aliases, and the ends of collections.
import TaskGraph.Yaml.Token

/-!
# From tokens to events

The grammar is a machine with a stack of expectations. Each step looks at the next
token, answers the innermost expectation with one event, and puts new expectations
in its place. Where a node may be left out, an empty plain scalar stands for it.
-/
namespace TaskGraph.Yaml

inductive Event where
  | alias (name : String)
  | scalar (anchor tag : Option String) (text : String) (plain : Bool)
  | sequenceStart (anchor : Option String)
  | sequenceEnd
  | mappingStart (anchor : Option String)
  | mappingEnd
  deriving DecidableEq, Repr

namespace Event

/-- The scalar that stands for a node left out. -/
def empty : Event := .scalar none none "" true

/-! ## Tags -/

/-- What the tag handles of a document stand for. -/
abbrev Handles := List (String × String)

/-- The handles that need no directive. -/
def defaultHandles : Handles := [("!", "!"), ("!!", "tag:yaml.org,2002:")]

/-- The full form of a tag, if its handle is known. -/
def fullTag? (handles : Handles) (t : TagName) : Option String :=
  if t.handle.isEmpty then some t.suffix
  else (handles.lookup t.handle).map (· ++ t.suffix)

/-! ## The grammar -/

inductive Expects where
  /-- A node in block context; `indentless` allows a sequence in the column of its key. -/
  | blockNode (indentless : Bool)
  | flowNode
  | blockEntry
  | indentlessEntry
  | blockKey
  | blockValue
  | flowEntry (first : Bool)
  /-- The key, the value and the end of a mapping of one pair inside a flow sequence. -/
  | pairKey
  | pairValue
  | pairEnd
  | flowKey (first : Bool)
  /-- A value in a flow mapping; `omitted` for a key that stands alone. -/
  | flowValue (omitted : Bool)
  deriving DecidableEq, Repr

structure Parser where
  tokens : List Token
  /-- The expectations, innermost first. -/
  stack : List Expects

/-- Answers with an event, with tokens and expectations for what follows. -/
abbrev Answer := Option (Event × Parser)

/-- The anchor and the tag in front of a node, in either order. -/
def properties : List Token → Option String × Option TagName × List Token
  | .anchor a :: .tag t :: ts => (some a, some t, ts)
  | .tag t :: .anchor a :: ts => (some a, some t, ts)
  | .anchor a :: ts => (some a, none, ts)
  | .tag t :: ts => (none, some t, ts)
  | ts => (none, none, ts)

/-- A node. Without content there must be an anchor or a tag. -/
def node (handles : Handles) (block indentless : Bool) (stack : List Expects) :
    List Token → Answer
  | .alias name :: ts => some (.alias name, ⟨ts, stack⟩)
  | ts => do
    let (anchor, name, ts) := properties ts
    let tag ← match name with
      | none => some none
      | some t => (fullTag? handles t).map some
    match ts with
    | .scalar text plain :: ts => some (.scalar anchor tag text plain, ⟨ts, stack⟩)
    | .flowSequenceStart :: ts => some (.sequenceStart anchor, ⟨ts, .flowEntry true :: stack⟩)
    | .flowMappingStart :: ts => some (.mappingStart anchor, ⟨ts, .flowKey true :: stack⟩)
    | ts =>
      match ts, block, indentless with
      | .blockEntry :: _, _, true => some (.sequenceStart anchor, ⟨ts, .indentlessEntry :: stack⟩)
      | .blockSequenceStart :: ts, true, _ =>
        some (.sequenceStart anchor, ⟨ts, .blockEntry :: stack⟩)
      | .blockMappingStart :: ts, true, _ => some (.mappingStart anchor, ⟨ts, .blockKey :: stack⟩)
      | _, _, _ =>
        if anchor.isSome || tag.isSome then some (.scalar anchor tag "" true, ⟨ts, stack⟩)
        else none

/-- A node, unless one of the given tokens or the end shows that it was left out. -/
def nodeOr (handles : Handles) (block indentless : Bool) (ends : List Token)
    (stack : List Expects) (ts : List Token) : Answer :=
  if ts.head?.any (ends.contains ·) then some (empty, ⟨ts, stack⟩)
  else node handles block indentless stack ts

/-- Tokens that end a key or a value of a block mapping. -/
def blockPairEnds : List Token := [.key, .value, .blockEnd]

/-- An entry of a flow sequence: a mapping of one pair, a node, or the end. -/
def flowEntryAnswer (handles : Handles) (stack : List Expects) : List Token → Answer
  | .key :: ts => some (.mappingStart none, ⟨ts, .pairKey :: .flowEntry false :: stack⟩)
  | .flowSequenceEnd :: ts => some (.sequenceEnd, ⟨ts, stack⟩)
  | ts => node handles false false (.flowEntry false :: stack) ts

/-- A key of a flow mapping, or the end. -/
def flowKeyAnswer (handles : Handles) (stack : List Expects) : List Token → Answer
  | .key :: ts =>
    nodeOr handles false false [.value, .flowEntry, .flowMappingEnd]
      (.flowValue false :: stack) ts
  | .flowMappingEnd :: ts => some (.mappingEnd, ⟨ts, stack⟩)
  | ts => node handles false false (.flowValue true :: stack) ts

/-- Answers one expectation. -/
def answer (handles : Handles) (stack : List Expects) (ts : List Token) : Expects → Answer
  | .blockNode indentless => node handles true indentless stack ts
  | .flowNode => node handles false false stack ts
  | .blockEntry =>
    match ts with
    | .blockEntry :: ts =>
      nodeOr handles true false [.blockEntry, .blockEnd] (.blockEntry :: stack) ts
    | .blockEnd :: ts => some (.sequenceEnd, ⟨ts, stack⟩)
    | _ => none
  | .indentlessEntry =>
    match ts with
    | .blockEntry :: ts =>
      nodeOr handles true false (.blockEntry :: blockPairEnds) (.indentlessEntry :: stack) ts
    | ts => some (.sequenceEnd, ⟨ts, stack⟩)
  | .blockKey =>
    match ts with
    | .key :: ts => nodeOr handles true true blockPairEnds (.blockValue :: stack) ts
    | .blockEnd :: ts => some (.mappingEnd, ⟨ts, stack⟩)
    | _ => none
  | .blockValue =>
    match ts with
    | .value :: ts => nodeOr handles true true blockPairEnds (.blockKey :: stack) ts
    | ts => some (empty, ⟨ts, .blockKey :: stack⟩)
  | .flowEntry first =>
    match first, ts with
    | true, ts => flowEntryAnswer handles stack ts
    | false, .flowEntry :: ts => flowEntryAnswer handles stack ts
    | false, .flowSequenceEnd :: ts => some (.sequenceEnd, ⟨ts, stack⟩)
    | false, _ => none
  | .pairKey =>
    match ts with
    -- The token that shows that the key is missing is passed over.
    | .value :: ts => some (empty, ⟨ts, .pairValue :: stack⟩)
    | .flowEntry :: ts => some (empty, ⟨ts, .pairValue :: stack⟩)
    | .flowSequenceEnd :: ts => some (empty, ⟨ts, .pairValue :: stack⟩)
    | ts => node handles false false (.pairValue :: stack) ts
  | .pairValue =>
    match ts with
    | .value :: ts =>
      nodeOr handles false false [.flowEntry, .flowSequenceEnd] (.pairEnd :: stack) ts
    | ts => some (empty, ⟨ts, .pairEnd :: stack⟩)
  | .pairEnd => some (.mappingEnd, ⟨ts, stack⟩)
  | .flowKey first =>
    match first, ts with
    | true, ts => flowKeyAnswer handles stack ts
    | false, .flowEntry :: ts => flowKeyAnswer handles stack ts
    | false, .flowMappingEnd :: ts => some (.mappingEnd, ⟨ts, stack⟩)
    | false, _ => none
  | .flowValue omitted =>
    match omitted, ts with
    | true, ts => some (empty, ⟨ts, .flowKey false :: stack⟩)
    | false, .value :: ts =>
      nodeOr handles false false [.flowEntry, .flowMappingEnd] (.flowKey false :: stack) ts
    | false, ts => some (empty, ⟨ts, .flowKey false :: stack⟩)

/-- Answers expectations until none is left. Gives the events and the unused tokens. -/
def parse? (handles : Handles) (found : List Event) (p : Parser) :
    Nat → Option (List Event × List Token)
  | 0 => none
  | fuel + 1 =>
    match p.stack with
    | [] => some (found.reverse, p.tokens)
    | e :: stack => do
      let (event, p) ← answer handles stack p.tokens e
      parse? handles (event :: found) p fuel

/-! ## Documents -/

/-- The handles that directives define. A version may be given once and must be 1.1 or 1.2;
a handle may be defined once. -/
def handlesOf? (version : Bool) (handles : Handles) : List Directive → Option Handles
  | [] => some (handles ++ defaultHandles)
  | .version major minor :: ds =>
    if version || major ≠ 1 || (minor ≠ 1 && minor ≠ 2) then none
    else handlesOf? true handles ds
  | .handle name expansion :: ds =>
    if (handles.lookup name).isSome then none
    else handlesOf? version (handles ++ [(name, expansion)]) ds

/-- Takes the directives from the front. -/
def takeDirectives : List Token → List Directive × List Token
  | .directive d :: ts => let (ds, ts) := takeDirectives ts; (d :: ds, ts)
  | ts => ([], ts)

/-- Whether the content of a document was left out behind its start. -/
def noContent : List Token → Bool
  | [] => true
  | t :: _ => match t with
    | .directive _ | .documentStart | .documentEnd => true
    | _ => false

/-- The events of a document whose content comes next, in a text that holds no other. -/
def ofContent? (handles : Handles) (ts : List Token) : Option (List Event) := do
  let (events, rest) ← parse? handles [] ⟨ts, [.blockNode false]⟩ (8 * (ts.length + 1))
  if rest.all (· = .documentEnd) then some events else none

/-- The events of the one document in a text; none at all for a text without one. -/
def ofTokens? (ts : List Token) : Option (List Event) :=
  let (directives, rest) := takeDirectives ts
  match directives, rest with
  | [], [] => some []
  | _, .documentStart :: rest => do
    let handles ← handlesOf? false [] directives
    if noContent rest then
      if rest.all (· = .documentEnd) then some [empty] else none
    else ofContent? handles rest
  | [], ts => ofContent? defaultHandles ts
  | _, _ => none

end Event
end TaskGraph.Yaml
