-- SUMMARY: The tokens of a YAML text, with block structure found from columns.
import TaskGraph.Yaml.Scalar
import TaskGraph.Yaml.Tag

/-!
# Finding tokens

Block collections begin and end where the column of a line changes, so the lexer
keeps the columns of the open ones. Whether a word is a key is only known at the
colon behind it. For each level of brackets the place of a possible key is kept,
and the tokens that open it are put in there once the colon is found. Such a key
stays on one line and is not much longer than a thousand octets.
-/
namespace TaskGraph.Yaml

/-- A place where a key may turn out to have begun. -/
structure PossibleKey where
  /-- A line of a block mapping begins here, so a colon must follow. -/
  required : Bool
  /-- How many tokens precede it. -/
  position : Nat
  /-- Where it begins, by what is left of the text from there on. -/
  left : Nat
  line : Nat
  column : Nat

/-- The longest text of a key, in octets of UTF-8. -/
def maxKeyLength : Nat := 1024

/-- Whether a colon at the cursor still belongs to the key. -/
def PossibleKey.reaches (k : PossibleKey) (p : Cursor) : Bool :=
  k.line == p.line && k.left - p.left ≤ maxKeyLength

structure Lexer where
  cursor : Cursor
  /-- The number of open brackets. -/
  flow : Nat := 0
  /-- The column of the innermost block collection; -1 outside of all. -/
  indent : Int := -1
  /-- The columns of the collections around it. -/
  outer : List Int := []
  /-- A key without a question mark may begin here. -/
  keyAllowed : Bool := true
  /-- One place for each level of brackets, innermost first. -/
  keys : List (Option PossibleKey) := [none]
  tokens : Array Token := #[]

namespace Lexer

def emit (l : Lexer) (t : Token) : Lexer := { l with tokens := l.tokens.push t }

/-- Puts out a token of `width` characters. -/
def take (l : Lexer) (t : Token) (width : Nat) : Lexer :=
  { l with tokens := l.tokens.push t, cursor := l.cursor.advance width }

def inFlow (l : Lexer) : Bool := l.flow != 0

def column (l : Lexer) : Int := l.cursor.column

/-! ## Possible keys -/

/-- Gives up the place on the innermost level; fails if it had to be a key. -/
def dropKey? (l : Lexer) : Option Lexer :=
  match l.keys with
  | some k :: keys => if k.required then none else some { l with keys := none :: keys }
  | _ => some l

/-- Notes that a key may begin here. -/
def noteKey? (l : Lexer) : Option Lexer :=
  if l.keyAllowed then do
    let l ← l.dropKey?
    let k : PossibleKey := {
      required := !l.inFlow && l.indent == l.column
      position := l.tokens.size
      left := l.cursor.left
      line := l.cursor.line
      column := l.cursor.column }
    return { l with keys := some k :: l.keys.drop 1 }
  else some l

/-! ## Block collections -/

/-- Opens a block collection at a column, with its first token at a position, unless one is
open there or in a bracket. -/
def openBlock (l : Lexer) (column : Int) (position : Nat) (t : Token) : Lexer :=
  if !l.inFlow && l.indent < column then
    { l with
      indent := column
      outer := l.indent :: l.outer
      tokens := l.tokens.insertIdxIfInBounds position t }
  else l

/-- Opens a block collection at the cursor. -/
def openBlockHere (l : Lexer) (t : Token) : Lexer := l.openBlock l.column l.tokens.size t

/-- Closes the block collections to the right of a column. -/
def closeBlocks (l : Lexer) (column : Int) : Lexer :=
  if l.inFlow then l else go l.tokens l.indent l.outer
where
  go (tokens : Array Token) (indent : Int) : List Int → Lexer
    | [] => { l with tokens, indent, outer := [] }
    | o :: outer =>
      if column < indent then go (tokens.push .blockEnd) o outer
      else { l with tokens, indent, outer := o :: outer }

/-- Closes all block collections, as at the end of a document. -/
def closeAll? (l : Lexer) : Option Lexer := do
  let l ← (l.closeBlocks (-1)).dropKey?
  return { l with keyAllowed := false }

/-! ## Single tokens -/

def openFlow? (l : Lexer) (t : Token) : Option Lexer := do
  let l ← l.noteKey?
  return { l.take t 1 with keys := none :: l.keys, flow := l.flow + 1, keyAllowed := true }

def closeFlow? (l : Lexer) (t : Token) : Option Lexer := do
  let l ← l.dropKey?
  let l := if l.inFlow then { l with flow := l.flow - 1, keys := l.keys.drop 1 } else l
  return { l.take t 1 with keyAllowed := false }

def flowEntry? (l : Lexer) : Option Lexer := do
  let l ← l.dropKey?
  return { l.take .flowEntry 1 with keyAllowed := true }

/-- In block context, a collection's indicator needs a place where a key is allowed, and
opens the collection. -/
def enterBlock? (l : Lexer) (t : Token) : Option Lexer :=
  if l.inFlow then some l
  else if l.keyAllowed then some (l.openBlockHere t)
  else none

def blockEntry? (l : Lexer) : Option Lexer := do
  let l ← (← l.enterBlock? .blockSequenceStart).dropKey?
  return { l.take .blockEntry 1 with keyAllowed := true }

def key? (l : Lexer) : Option Lexer := do
  let l ← (← l.enterBlock? .blockMappingStart).dropKey?
  return { l.take .key 1 with keyAllowed := !l.inFlow }

/-- At a colon, the possible key becomes one if it is near enough. -/
def value? (l : Lexer) : Option Lexer :=
  match l.keys.head?.join.filter (·.reaches l.cursor) with
  | some k =>
    let l := { l with tokens := l.tokens.insertIdxIfInBounds k.position .key }
    let l := l.openBlock k.column k.position .blockMappingStart
    some { l.take .value 1 with keys := none :: l.keys.drop 1, keyAllowed := false }
  | none => do
    let l ← (← l.dropKey?).enterBlock? .blockMappingStart
    return { l.take .value 1 with keyAllowed := !l.inFlow }

/-- A token at which a key may begin. -/
def content? (l : Lexer) (read? : Cursor → Option (Token × Cursor)) : Option Lexer := do
  let l ← l.noteKey?
  let (t, cursor) ← read? l.cursor
  return { l.emit t with cursor, keyAllowed := false }

def plain? (l : Lexer) : Option Lexer := do
  let l ← l.noteKey?
  let s ← plainScalar? l.inFlow (l.indent + 1) l.cursor
  return { l.emit (.scalar s.text true) with cursor := s.cursor, keyAllowed := s.endsLine }

def block? (l : Lexer) : Option Lexer := do
  let l ← l.dropKey?
  let s ← blockScalar? l.indent l.cursor
  return { l.emit (.scalar s.text false) with cursor := s.cursor, keyAllowed := true }

def directiveLine? (l : Lexer) : Option Lexer := do
  let l ← l.closeAll?
  let (d, cursor) ← directive? l.cursor
  return { l.emit (.directive d) with cursor }

def documentMarker? (l : Lexer) (t : Token) : Option Lexer := do
  return (← l.closeAll?).take t 3

/-- Whether a plain scalar may begin with the character at the cursor. -/
def startsPlain (l : Lexer) (c : Char) : Bool :=
  if c = '-' then !(l.cursor.peekAt? 1).any isSpacing
  else if c = '?' || c = ':' then !l.inFlow && !l.cursor.gapAt 1
  else !(isSpacing c || isBreak c || isFlowMark c ||
    c = '#' || c = '&' || c = '*' || c = '!' || c = '|' || c = '>' || c = '\x27' || c = '"' ||
    c = '%' || c = '@' || c = '\x60')

/-- The token that begins with the character at the cursor. -/
def token? (l : Lexer) (c : Char) : Option Lexer :=
  let p := l.cursor
  let indicates := l.inFlow || p.gapAt 1
  if p.column == 0 && c = '%' then l.directiveLine?
  else if p.atMarker '-' then l.documentMarker? .documentStart
  else if p.atMarker '.' then l.documentMarker? .documentEnd
  else if c = '[' then l.openFlow? .flowSequenceStart
  else if c = '\x7b' then l.openFlow? .flowMappingStart
  else if c = ']' then l.closeFlow? .flowSequenceEnd
  else if c = '\x7d' then l.closeFlow? .flowMappingEnd
  else if c = ',' then l.flowEntry?
  else if c = '-' && p.gapAt 1 then l.blockEntry?
  else if c = '?' && indicates then l.key?
  else if c = ':' && indicates then l.value?
  else if c = '*' then
    l.content? fun p => (anchorName? p).map fun (name, p) => (.alias name, p)
  else if c = '&' then
    l.content? fun p => (anchorName? p).map fun (name, p) => (.anchor name, p)
  else if c = '!' then
    l.content? fun p => (tagName? l.inFlow p).map fun (tag, p) => (.tag tag, p)
  else if (c = '|' || c = '>') && !l.inFlow then l.block?
  else if c = '\x27' || c = '"' then
    l.content? fun p => (quotedScalar? p).map fun s => (.scalar s.text false, s.cursor)
  else if l.startsPlain c then l.plain?
  else none

/-! ## The whole text -/

/-- Passes over blanks, comments and breaks. Tabs count as blanks where no key is allowed.
A byte order mark may begin a line. -/
def skipToToken (l : Lexer) : Lexer :=
  go l.keyAllowed l.cursor (l.cursor.left + 1)
where
  go (keyAllowed : Bool) (p : Cursor) : Nat → Lexer
    | 0 => { l with keyAllowed, cursor := p }
    | fuel + 1 =>
      let p := if p.column == 0 && p.sees (· = '\ufeff') then p.next else p
      let p := p.skipWhile fun c => c = ' ' || ((l.inFlow || !keyAllowed) && c = '\t')
      let p := p.skipComment
      if p.sees isBreak then go (keyAllowed || !l.inFlow) p.next fuel
      else { l with keyAllowed, cursor := p }

/-- All tokens from here on. -/
def run? (l : Lexer) : Nat → Option (List Token)
  | 0 => none
  | fuel + 1 => do
    let l := l.skipToToken
    let l := l.closeBlocks l.column
    match l.cursor.peek? with
    | none => return (← l.closeAll?).tokens.toList
    | some c => (← l.token? c).run? fuel

end Lexer

/-- The tokens of a text. -/
def Token.scan? (cs : List Char) : Option (List Token) :=
  let l : Lexer := { cursor := .ofChars cs }
  l.run? (cs.length + 1)

end TaskGraph.Yaml
