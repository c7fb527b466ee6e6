-- SUMMARY: The scalars of YAML: plain, quoted, literal and folded.
import TaskGraph.Yaml.Cursor

/-!
# Scalars

Each reader starts at the first character of a scalar and gives its text and the
place behind it, or nothing if the scalar is malformed. Texts are collected in
reverse. Lines are folded: a single break becomes a space, and of several the
first one is dropped; line and paragraph separators are never folded.
-/
namespace TaskGraph.Yaml

/-! ## Blanks and breaks inside a scalar -/

/-- What stands between two words of a scalar. Characters are kept in reverse. -/
inductive Gap where
  | blanks (read : List Char)
  /-- A line break, which may be hidden by an escape, and further ones. -/
  | lines (first : Option Char) (more : List Char)

namespace Gap

def crossesLine : Gap → Bool
  | .blanks _ => false
  | .lines .. => true

/-- Adds what the gap stands for to a reversed text. -/
def onto (text : List Char) : Gap → List Char
  | .blanks read => read ++ text
  | .lines (some '\n') [] => ' ' :: text
  | .lines (some '\n') more => more ++ text
  | .lines first more => more ++ (first.toList ++ text)

/-- Passes over blanks and breaks. Tabs at the beginning of a line are refused in
columns below `tabsFrom`. -/
def pass? (tabsFrom : Int) (gap : Gap) (p : Cursor) : Option (Gap × Cursor) :=
  go gap p p.left
where
  go (gap : Gap) (p : Cursor) : Nat → Option (Gap × Cursor)
    | 0 => some (gap, p)
    | fuel + 1 =>
      match p.peek? with
      | none => some (gap, p)
      | some c =>
        if isSpacing c then
          match gap with
          | .blanks read => go (.blanks (c :: read)) p.next fuel
          | .lines .. =>
            if c = '\t' && (p.column : Int) < tabsFrom then none else go gap p.next fuel
        else if isBreak c then
          match gap with
          | .blanks _ => go (.lines (some c) []) p.next fuel
          | .lines first more => go (.lines first (c :: more)) p.next fuel
        else some (gap, p)

end Gap

/-! ## Plain scalars -/

/-- A scalar as read. -/
structure Scalar where
  text : String
  /-- A line break was passed after the last word. -/
  endsLine : Bool := false
  cursor : Cursor

/-- The characters that end a plain scalar inside brackets. -/
def isFlowMark (c : Char) : Bool :=
  c = ',' || c = '[' || c = ']' || c = '\x7b' || c = '\x7d'

/-- Passes over the characters of a plain scalar up to the next gap. A colon in front of a
bracket is refused inside brackets. -/
def plainWord? (flow : Bool) (read : List Char) (p : Cursor) : Option (List Char × Cursor) :=
  go read p p.left
where
  go (read : List Char) (p : Cursor) : Nat → Option (List Char × Cursor)
    | 0 => some (read, p)
    | fuel + 1 =>
      match p.peek? with
      | none => some (read, p)
      | some c =>
        if isSpacing c || isBreak c then some (read, p)
        else if flow && c = ':' && (p.peekAt? 1).any (fun d => isFlowMark d || d = '?') then none
        else if (c = ':' && p.gapAt 1) || (flow && isFlowMark c) then some (read, p)
        else go (c :: read) p.next fuel

/-- A plain scalar, whose lines are in columns from `indent` on unless it is inside brackets. -/
def plainScalar? (flow : Bool) (indent : Int) (p : Cursor) : Option Scalar :=
  go [] (.blanks []) p (p.left + 1)
where
  finish (text : List Char) (gap : Gap) (p : Cursor) : Scalar :=
    { text := String.ofList text.reverse, endsLine := gap.crossesLine, cursor := p }
  go (text : List Char) (gap : Gap) (p : Cursor) : Nat → Option Scalar
    | 0 => none
    | fuel + 1 => do
      if p.atDocumentMarker || p.sees (· = '#') then return finish text gap p
      let (word, p) ← plainWord? flow [] p
      let (text, gap) :=
        if word.isEmpty then (text, gap) else (word ++ gap.onto text, .blanks [])
      if !(p.sees fun c => isSpacing c || isBreak c) then return finish text gap p
      let (gap, p) ← Gap.pass? indent (.blanks []) p
      if !flow && (p.column : Int) < indent then return finish text gap p
      go text gap p fuel

/-! ## Quoted scalars -/

/-- The value of a number of hexadecimal digits at the front of a text. -/
def hexValue? (count : Nat) (cs : List Char) : Option Nat :=
  if cs.length < count then none
  else (cs.take count).foldlM (fun n c => do
    let k := c.toNat
    let d ← if 48 ≤ k ∧ k ≤ 57 then some (k - 48)
      else if 65 ≤ k ∧ k ≤ 70 then some (k - 55)
      else if 97 ≤ k ∧ k ≤ 102 then some (k - 87)
      else none
    return 16 * n + d) 0

/-- The character of an escape of one letter. -/
def escapedChar? : Char → Option Char
  | '0' => some '\x00'
  | 'a' => some '\x07'
  | 'b' => some '\x08'
  | 't' => some '\t'
  | '\t' => some '\t'
  | 'n' => some '\n'
  | 'v' => some '\x0b'
  | 'f' => some '\x0c'
  | 'r' => some '\r'
  | 'e' => some '\x1b'
  | ' ' => some ' '
  | '"' => some '"'
  | '/' => some '/'
  | '\\' => some '\\'
  | 'N' => some '\u0085'
  | '_' => some '\u00a0'
  | 'L' => some '\u2028'
  | 'P' => some '\u2029'
  | _ => none

/-- The number of digits of an escape by code point. -/
def escapedDigits? : Char → Option Nat
  | 'x' => some 2
  | 'u' => some 4
  | 'U' => some 8
  | _ => none

/-- The character of the escape whose letter is at the cursor, and the place behind it. -/
def escape? (p : Cursor) : Option (Char × Cursor) := do
  let letter ← p.peek?
  match escapedDigits? letter with
  | some count =>
    let n ← hexValue? count (p.rest.drop 1 |>.take count)
    if (0xD800 ≤ n ∧ n ≤ 0xDFFF) ∨ 0x10FFFF < n then none
    else return (Char.ofNat n, p.advance (count + 1))
  | none => return (← escapedChar? letter, p.next)

/-- Passes over the characters of a quoted scalar up to the next gap or the closing quote.
The flag tells that the word ended with an escaped line break. -/
def quotedWord? (quote : Char) (read : List Char) (p : Cursor) :
    Option (List Char × Bool × Cursor) :=
  go read p p.left
where
  go (read : List Char) (p : Cursor) : Nat → Option (List Char × Bool × Cursor)
    | 0 => some (read, false, p)
    | fuel + 1 =>
      match p.peek? with
      | none => some (read, false, p)
      | some c =>
        if isSpacing c || isBreak c then some (read, false, p)
        else if c = quote then
          if quote = '\x27' && p.peekAt? 1 == some quote then go (quote :: read) (p.advance 2) fuel
          else some (read, false, p)
        else if quote = '"' && c = '\\' then
          if (p.peekAt? 1).any isBreak then some (read, true, p.advance 2)
          else match escape? p.next with
            | none => none
            | some (e, p) => go (e :: read) p fuel
        else go (c :: read) p.next fuel

/-- A scalar in the quotes that the cursor is at. -/
def quotedScalar? (p : Cursor) : Option Scalar := do
  let quote ← p.peek?
  go quote [] p.next (p.left + 1)
where
  go (quote : Char) (text : List Char) (p : Cursor) : Nat → Option Scalar
    | 0 => none
    | fuel + 1 => do
      if p.atDocumentMarker || p.atEnd then none
      let (text, hidden, p) ← quotedWord? quote text p
      if p.sees (· = quote) then
        return { text := String.ofList text.reverse, cursor := p.next }
      let (gap, p) ← Gap.pass? 0 (if hidden then .lines none [] else .blanks []) p
      go quote (gap.onto text) p fuel

/-! ## Literal and folded scalars -/

/-- What becomes of the line breaks at the end of a block. -/
inductive Chomping where
  | strip
  | clip
  | keep
  deriving DecidableEq

def Chomping.ofChar? : Char → Option Chomping
  | '-' => some .strip
  | '+' => some .keep
  | _ => none

/-- An indentation of one to nine columns; zero is refused. -/
def indentation? (c : Char) : Option (Option Nat) :=
  if c.isDigit then (if c = '0' then none else some (some (c.toNat - 48))) else some none

/-- Reads a block's header, chomping and indentation in either order. -/
def blockHeader? (p : Cursor) : Option (Chomping × Option Nat × Cursor) := do
  match p.peek?.bind Chomping.ofChar? with
  | some chomping =>
    let p := p.next
    match ← (p.peek?.elim (some none) indentation?) with
    | some n => return (chomping, some n, ← p.next.finishLine?)
    | none => return (chomping, none, ← p.finishLine?)
  | none =>
    match ← (p.peek?.elim (some none) indentation?) with
    | some n =>
      let p := p.next
      match p.peek?.bind Chomping.ofChar? with
      | some chomping => return (chomping, some n, ← p.next.finishLine?)
      | none => return (.clip, some n, ← p.finishLine?)
    | none => return (.clip, none, ← p.finishLine?)

/-- Passes over empty lines and the indentation of the next line. Gives the indentation,
the line breaks in reverse, and the place behind them. With an indentation still to be found,
the deepest column that spaces reach is taken, but at least `least`. A tab in the
indentation is refused. -/
def blockBreaks? (indent : Option Nat) (least : Nat) (p : Cursor) :
    Option (Nat × List Char × Cursor) :=
  go 0 [] p (2 * p.left + 1)
where
  within (p : Cursor) : Bool := indent.all (p.column < ·)
  go (deepest : Nat) (breaks : List Char) (p : Cursor) : Nat → Option (Nat × List Char × Cursor)
    | 0 => none
    | fuel + 1 =>
      if within p && p.sees (· = ' ') then go deepest breaks p.next fuel
      else
        let deepest := max deepest p.column
        if within p && p.sees (· = '\t') then none
        else match p.peek?.filter isBreak with
          | some c => go deepest (c :: breaks) p.next fuel
          | none => some (indent.getD (max deepest least), breaks, p)

/-- The lines of a block. `lead` is the break at the end of the line before, `moreIndented`
tells that this line began with a blank, and `breaks` are the empty lines after it. -/
def blockLines? (folded : Bool) (chomping : Chomping) (indent : Nat) :
    (text : List Char) → (lead : Option Char) → (moreIndented : Bool) → (breaks : List Char) →
    Cursor → Nat → Option Scalar
  | _, _, _, _, _, 0 => none
  | text, lead, moreIndented, breaks, p, fuel + 1 =>
    if p.column = indent && !p.atEnd then do
      let blank := p.sees isSpacing
      let text :=
        if folded && lead == some '\n' && !moreIndented && !blank then
          (if breaks.isEmpty then ' ' :: text else text)
        else lead.toList ++ text
      let (text, p) := p.takeOnto (breaks ++ text) fun c => !isBreak c
      let lead := p.peek?
      let (_, breaks, p) ← blockBreaks? (some indent) 0 p.next
      blockLines? folded chomping indent text lead blank breaks p fuel
    else
      let text := if chomping = .strip then text else lead.toList ++ text
      let text := if chomping = .keep then breaks ++ text else text
      some { text := String.ofList text.reverse, cursor := p }

/-- A block scalar whose indicator the cursor is at, inside a block of column `indent`. -/
def blockScalar? (indent : Int) (p : Cursor) : Option Scalar := do
  let folded := p.sees (· = '>')
  let (chomping, written, p) ← blockHeader? p.next
  let base := (max indent 0).toNat
  let (column, breaks, p) ←
    blockBreaks? (written.map (base + ·)) (max (indent + 1).toNat 1) p
  blockLines? folded chomping column [] none false breaks p (p.left + 1)

end TaskGraph.Yaml
