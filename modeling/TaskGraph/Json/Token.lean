-- SUMMARY: JSON tokens, and the machine that reads them from a text one character at a time.
import TaskGraph.Json.Value

/-!
# JSON tokens

The machine stands between tokens, in a word (a numeral or `null`, `true`,
`false`), or in a string literal. A word ends where a character comes that
cannot be part of one. Since a run over `a ++ b` is a run over `a` followed by one
over `b`, the tokens of a written value are found piece by piece.
-/
namespace TaskGraph.Json

open Decimal (Numeral)

inductive Token where
  | openArray
  | closeArray
  | openObject
  | closeObject
  | comma
  | colon
  | null
  | bool (b : Bool)
  | number (n : Numeral)
  | string (s : Literal)
  deriving DecidableEq, Repr

namespace Token

/-- The characters that may stand between tokens. -/
def isSpace (c : Char) : Bool := c = ' ' || c = '\t' || c = '\n' || c = '\r'

/-- Tokens of one character. -/
def ofPunctuation? : Char → Option Token
  | '[' => some .openArray
  | ']' => some .closeArray
  | '\x7b' => some .openObject
  | '\x7d' => some .closeObject
  | ',' => some .comma
  | ':' => some .colon
  | _ => none

/-- The token of a word. -/
def ofWord? (cs : List Char) : Option Token :=
  if cs = "null".toList then some .null
  else if cs = "true".toList then some (.bool true)
  else if cs = "false".toList then some (.bool false)
  else (Numeral.ofChars? cs).map .number

/-! ## String literals

Inside a literal the machine collects code points. A surrogate can only come from an
escape of four hexadecimal digits. -/

def isHighSurrogate (n : Nat) : Bool := 0xD800 ≤ n && n ≤ 0xDBFF
def isLowSurrogate (n : Nat) : Bool := 0xDC00 ≤ n && n ≤ 0xDFFF

/-- Joins each high surrogate with the low one after it; none if one of either kind is
left over. -/
def joinSurrogates : List Nat → Option (List Char)
  | [] => some []
  | [n] => if isHighSurrogate n || isLowSurrogate n then none else some [Char.ofNat n]
  | n :: m :: rest =>
    if isHighSurrogate n then
      if isLowSurrogate m then
        (joinSurrogates rest).map
          (Char.ofNat (0x10000 + (n - 0xD800) * 0x400 + (m - 0xDC00)) :: ·)
      else none
    else if isLowSurrogate n then none
    else (joinSurrogates (m :: rest)).map (Char.ofNat n :: ·)

/-- The content of a literal from its code points, last one first. -/
def literal (reversed : List Nat) : Literal :=
  (joinSurrogates reversed.reverse).map String.ofList

/-- The character that an escape of one letter stands for. -/
def escaped? : Char → Option Char
  | '"' => some '"'
  | '\\' => some '\\'
  | '/' => some '/'
  | 'b' => some '\x08'
  | 'f' => some '\x0c'
  | 'n' => some '\n'
  | 'r' => some '\r'
  | 't' => some '\t'
  | _ => none

def hexDigit? (c : Char) : Option Nat :=
  let n := c.toNat
  if 48 ≤ n ∧ n ≤ 57 then some (n - 48)
  else if 97 ≤ n ∧ n ≤ 102 then some (n - 87)
  else if 65 ≤ n ∧ n ≤ 70 then some (n - 55)
  else none

/-! ## The machine -/

/-- Where the machine stands. What was read of the current token is kept in reverse. -/
inductive Mode where
  | between
  | word (read : List Char)
  | literal (read : List Nat)
  | escape (read : List Nat)
  /-- In an escape by number, with `left` hexadecimal digits to come. -/
  | hex (read : List Nat) (value left : Nat)
  deriving DecidableEq, Repr

structure Machine where
  mode : Mode
  /-- The tokens so far, last one first. -/
  found : List Token
  deriving DecidableEq, Repr

namespace Machine

def start : Machine := ⟨.between, []⟩

/-- A character where a token may begin. -/
def begin? (found : List Token) (c : Char) : Option Machine :=
  if isSpace c then some ⟨.between, found⟩
  else if c = '"' then some ⟨.literal [], found⟩
  else match ofPunctuation? c with
    | some t => some ⟨.between, t :: found⟩
    | none => some ⟨.word [c], found⟩

/-- Whether a word ends before the character. -/
def endsWord (c : Char) : Bool := isSpace c || c = '"' || (ofPunctuation? c).isSome

/-- Takes in one character. -/
def step? (m : Machine) (c : Char) : Option Machine :=
  match m.mode with
  | .between => begin? m.found c
  | .word read =>
    if endsWord c then do
      let t ← ofWord? read.reverse
      begin? (t :: m.found) c
    else some { m with mode := .word (c :: read) }
  | .literal read =>
    if c = '"' then some ⟨.between, .string (literal read) :: m.found⟩
    else if c = '\\' then some { m with mode := .escape read }
    else if c.toNat < 0x20 then none
    else some { m with mode := .literal (c.toNat :: read) }
  | .escape read =>
    if c = 'u' then some { m with mode := .hex read 0 4 }
    else (escaped? c).map fun e => { m with mode := .literal (e.toNat :: read) }
  | .hex read value left =>
    (hexDigit? c).map fun d =>
      let value := 16 * value + d
      { m with mode := if left ≤ 1 then .literal (value :: read) else .hex read value (left - 1) }

/-- All tokens, once the text has ended. -/
def finish? (m : Machine) : Option (List Token) :=
  match m.mode with
  | .between => some m.found.reverse
  | .word read => (ofWord? read.reverse).map fun t => (t :: m.found).reverse
  | _ => none

def run? (m : Machine) (cs : List Char) : Option Machine := cs.foldlM step? m

theorem run?_append (m : Machine) (as bs : List Char) :
    m.run? (as ++ bs) = (m.run? as).bind fun m => m.run? bs := by
  simp only [run?, List.foldlM_append]; rfl

end Machine

/-- The tokens of a text. -/
def scan? (cs : List Char) : Option (List Token) := do
  (← Machine.start.run? cs).finish?

end Token
end TaskGraph.Json
