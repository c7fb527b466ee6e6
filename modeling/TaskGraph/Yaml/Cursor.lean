-- SUMMARY: A place in a YAML text, and the ways to move on from it.
import TaskGraph.Yaml.Source

/-! # Cursors -/
namespace TaskGraph.Yaml

/-- A place in a text: the characters from there on, and where they stand. -/
structure Cursor where
  rest : List Char
  /-- How many octets of UTF-8 are left, which bounds every walk from here. -/
  left : Nat
  line : Nat := 0
  column : Nat := 0
  deriving Repr

namespace Cursor

def ofChars (cs : List Char) : Cursor where
  rest := cs
  left := cs.foldl (fun n c => n + c.utf8Size) 0

def peek? (p : Cursor) : Option Char := p.rest.head?

/-- The character `n` places further on. -/
def peekAt? (p : Cursor) (n : Nat) : Option Char := p.rest[n]?

def atEnd (p : Cursor) : Bool := p.rest.isEmpty

/-- The place behind the next character. -/
def next (p : Cursor) : Cursor :=
  match p.rest with
  | [] => p
  | c :: cs =>
    let left := p.left - c.utf8Size
    if isBreak c then { rest := cs, left, line := p.line + 1, column := 0 }
    else { rest := cs, left, line := p.line, column := p.column + 1 }

def advance (p : Cursor) : Nat → Cursor
  | 0 => p
  | n + 1 => p.next.advance n

/-- Whether the character is there and has a property. -/
def sees (p : Cursor) (test : Char → Bool) : Bool := p.peek?.any test

/-- A space, a tab, a break or the end, `n` places further on. -/
def gapAt (p : Cursor) (n : Nat) : Bool :=
  match p.peekAt? n with
  | none => true
  | some c => isSpacing c || isBreak c

/-- A line that begins with the marker, three characters long and then a gap. -/
def atMarker (p : Cursor) (marker : Char) : Bool :=
  p.column == 0 && p.rest.take 3 == [marker, marker, marker] && p.gapAt 3

/-- The start or the end of a document. -/
def atDocumentMarker (p : Cursor) : Bool := p.atMarker '-' || p.atMarker '.'

/-- Passes over characters for as long as they have a property; the passed characters are
added to a reversed text. -/
def takeOnto (read : List Char) (test : Char → Bool) (p : Cursor) : List Char × Cursor :=
  go read p p.left
where
  go (read : List Char) (p : Cursor) : Nat → List Char × Cursor
    | 0 => (read, p)
    | fuel + 1 =>
      match p.peek? with
      | some c => if test c then go (c :: read) p.next fuel else (read, p)
      | none => (read, p)

/-- Passes over characters for as long as they have a property. -/
def takeWhile (p : Cursor) (test : Char → Bool) : List Char × Cursor :=
  let (read, p) := takeOnto [] test p
  (read.reverse, p)

def skipWhile (p : Cursor) (test : Char → Bool) : Cursor := (takeOnto [] test p).2

def skipSpacing (p : Cursor) : Cursor := p.skipWhile isSpacing

/-- Passes over a comment, if there is one. -/
def skipComment (p : Cursor) : Cursor :=
  if p.sees (· = '#') then p.skipWhile fun c => !isBreak c else p

/-- Passes over the rest of a line that may only hold a comment. -/
def finishLine? (p : Cursor) : Option Cursor :=
  let p := p.skipSpacing.skipComment
  if p.atEnd then some p else if p.sees isBreak then some p.next else none

end Cursor
end TaskGraph.Yaml
