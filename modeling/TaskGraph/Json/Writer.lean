-- SUMMARY: The text of a JSON value, compact or indented.
import TaskGraph.Json.Value

/-!
# Writing JSON values

A compact text has no blanks. An indented one puts every item and member on a
line of its own, two spaces deeper than its array or object; an empty array or
object stays on one line. In strings only the quote, the backslash and control
characters are escaped.
-/
namespace TaskGraph.Json

/-- How a text is laid out. -/
inductive Style where
  | compact
  | indented
  deriving DecidableEq, Repr

/-- The digit of a number below sixteen. -/
def hexChar (n : Nat) : Char := Nat.digitChar n

/-- One character inside a string literal. -/
def escapeChar (c : Char) : List Char :=
  if c = '"' then ['\\', '"']
  else if c = '\\' then ['\\', '\\']
  else if c = '\x08' then ['\\', 'b']
  else if c = '\t' then ['\\', 't']
  else if c = '\n' then ['\\', 'n']
  else if c = '\x0c' then ['\\', 'f']
  else if c = '\r' then ['\\', 'r']
  else if c.toNat < 0x20 then
    ['\\', 'u', '0', '0', hexChar (c.toNat / 16), hexChar (c.toNat % 16)]
  else [c]

/-- A string literal. A literal without a text is written as the replacement character. -/
def quoted (s : Literal) : List Char :=
  '"' :: ((s.getD "\ufffd").toList.flatMap escapeChar ++ ['"'])

/-- The break in front of an item at a depth. -/
def Style.lineBreak (style : Style) (depth : Nat) : List Char :=
  match style with
  | .compact => []
  | .indented => '\n' :: List.replicate (2 * depth) ' '

/-- What stands between a key and its value. -/
def Style.colon : Style → List Char
  | .compact => [':']
  | .indented => [':', ' ']

mutual

/-- The text of a value inside `depth` arrays and objects. -/
def Value.write (style : Style) (depth : Nat) : Value → List Char
  | .null => "null".toList
  | .bool true => "true".toList
  | .bool false => "false".toList
  | .number n => n.toChars
  | .string s => quoted s
  | .array [] => ['[', ']']
  | .array (v :: vs) =>
    '[' :: (style.lineBreak (depth + 1) ++ v.write style (depth + 1) ++
      writeItems style (depth + 1) vs ++ style.lineBreak depth ++ [']'])
  | .object [] => ['\x7b', '\x7d']
  | .object ((k, v) :: ms) =>
    '\x7b' :: (style.lineBreak (depth + 1) ++ quoted k ++ style.colon ++
      v.write style (depth + 1) ++ writeMembers style (depth + 1) ms ++
      style.lineBreak depth ++ ['\x7d'])

/-- The items behind the first one. -/
def writeItems (style : Style) (depth : Nat) : List Value → List Char
  | [] => []
  | v :: vs => ',' :: (style.lineBreak depth ++ v.write style depth ++ writeItems style depth vs)

/-- The members behind the first one. -/
def writeMembers (style : Style) (depth : Nat) : List (Literal × Value) → List Char
  | [] => []
  | (k, v) :: ms =>
    ',' :: (style.lineBreak depth ++ quoted k ++ style.colon ++ v.write style depth ++
      writeMembers style depth ms)

end

/-- The text of a value. -/
def Value.render (style : Style) (v : Value) : String := String.ofList (v.write style 0)

end TaskGraph.Json
