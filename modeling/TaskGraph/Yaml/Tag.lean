-- SUMMARY: Anchors, tags and directives as written in a YAML text.
import TaskGraph.Yaml.Cursor
import TaskGraph.Yaml.Token

/-!
# Names, tags and directives

A tag is a handle (`!`, `!!` or `!name!`) with a suffix, or a full tag in angle
brackets. Escaped octets in a suffix must form UTF-8 sequences by their leading
bits; they are kept one character per octet. A null octet ends the suffix: what
follows it has to be well-formed but is dropped.
-/
namespace TaskGraph.Yaml

/-- A character that may follow the name of an anchor or alias. -/
def endsName (p : Cursor) : Bool :=
  p.gapAt 0 || p.sees fun c =>
    c = '?' || c = ':' || c = ',' || c = ']' || c = '\x7d' || c = '%' || c = '@' || c = '\x60'

/-- The name of an anchor or alias, whose indicator the cursor is at. -/
def anchorName? (p : Cursor) : Option (String × Cursor) :=
  let (name, p) := p.next.takeWhile isNameChar
  if name.isEmpty || !endsName p then none else some (String.ofList name, p)

/-! ## Tags -/

/-- The characters of a tag's suffix, escapes apart. Inside angle brackets, and in
directives, a few more are allowed. -/
def isTagChar (more : Bool) (c : Char) : Bool :=
  isNameChar c || (";/?:@&=+$.!~*()".toList.contains c) || c = '\x27' ||
    (more && (c = ',' || c = '[' || c = ']'))

def hexOf? (c : Char) : Option Nat :=
  let n := c.toNat
  if 48 ≤ n ∧ n ≤ 57 then some (n - 48)
  else if 65 ≤ n ∧ n ≤ 70 then some (n - 55)
  else if 97 ≤ n ∧ n ≤ 102 then some (n - 87)
  else none

/-- An octet written as a percent sign and two hexadecimal digits. -/
def octet? (p : Cursor) : Option (Nat × Cursor) := do
  if !p.sees (· = '%') then none
  let high ← (← p.peekAt? 1) |> hexOf?
  let low ← (← p.peekAt? 2) |> hexOf?
  return (16 * high + low, p.advance 3)

/-- The number of octets that follow a leading one. -/
def trailingOctets? (n : Nat) : Option Nat :=
  if n < 0x80 then some 0
  else if n / 0x20 = 6 then some 1
  else if n / 0x10 = 14 then some 2
  else if n / 8 = 30 then some 3
  else none

/-- The octets behind a leading one. -/
def octets? (read : List Char) (p : Cursor) : Nat → Option (List Char × Cursor)
  | 0 => some (read, p)
  | n + 1 => do
    let (octet, p) ← octet? p
    if octet / 0x40 = 2 then octets? (Char.ofNat octet :: read) p n else none

/-- Tag characters and escapes, added to a reversed text. -/
def tagText? (more : Bool) (read : List Char) (p : Cursor) : Option (List Char × Cursor) :=
  go read p (p.left + 1)
where
  go (read : List Char) (p : Cursor) : Nat → Option (List Char × Cursor)
    | 0 => some (read, p)
    | fuel + 1 =>
      if p.sees (· = '%') then do
        let (octet, p) ← octet? p
        let (read, p) ← octets? (Char.ofNat octet :: read) p (← trailingOctets? octet)
        go read p fuel
      else match p.peek?.filter (isTagChar more) with
        | some c => go (c :: read) p.next fuel
        | none => some (read, p)

/-- The part of a suffix in front of the first null octet. -/
def untilNull (text : List Char) : List Char := text.takeWhile (· ≠ '\x00')

/-- A suffix that must not be empty, behind the characters of `head`. -/
def tagSuffix? (more : Bool) (head : List Char) (p : Cursor) : Option (String × Cursor) := do
  let (text, p) ← tagText? more (head.drop 1).reverse p
  if head.isEmpty && text.isEmpty then none
  return (String.ofList (untilNull text.reverse), p)

/-- An exclamation mark, name characters, and perhaps a second mark. -/
def tagHandle? (p : Cursor) : Option (List Char × Cursor) :=
  if p.sees (· = '!') then
    let (name, p) := p.next.takeWhile isNameChar
    if p.sees (· = '!') then some ('!' :: name ++ ['!'], p.next) else some ('!' :: name, p)
  else none

/-- Whether a handle is closed by a second exclamation mark. -/
def isClosedHandle (handle : List Char) : Bool :=
  1 < handle.length && handle.getLast? == some '!'

/-- The tag whose exclamation mark the cursor is at. -/
def tagName? (flow : Bool) (p : Cursor) : Option (TagName × Cursor) := do
  let (tag, p) ←
    if p.peekAt? 1 == some '<' then do
      let (suffix, p) ← tagSuffix? true [] (p.advance 2)
      if p.sees (· = '>') then some (TagName.mk "" suffix, p.next) else none
    else do
      let (handle, p) ← tagHandle? p
      if isClosedHandle handle then
        let (suffix, p) ← tagSuffix? false [] p
        some (TagName.mk (String.ofList handle) suffix, p)
      else
        let (suffix, p) ← tagSuffix? false handle p
        some (if suffix.isEmpty then TagName.mk "" "!" else TagName.mk "!" suffix, p)
  if p.gapAt 0 || (flow && p.sees (· = ',')) then return (tag, p) else none

/-! ## Directives -/

/-- A part of a version number, of at most nine digits. -/
def versionPart? (p : Cursor) : Option (Nat × Cursor) :=
  let (digits, p) := p.takeWhile Char.isDigit
  if digits.isEmpty || 9 < digits.length then none
  else some (digits.foldl (fun n c => 10 * n + (c.toNat - 48)) 0, p)

def versionDirective? (p : Cursor) : Option (Directive × Cursor) := do
  let (major, p) ← versionPart? p.skipSpacing
  if !p.sees (· = '.') then none
  let (minor, p) ← versionPart? p.next
  return (.version major minor, p)

def handleDirective? (p : Cursor) : Option (Directive × Cursor) := do
  let (handle, p) ← tagHandle? p.skipSpacing
  if !isClosedHandle handle && handle != ['!'] then none
  if !p.sees isSpacing then none
  let (expansion, p) ← tagSuffix? true [] p.skipSpacing
  if !p.gapAt 0 then none
  return (.handle (String.ofList handle) expansion, p)

/-- The directive whose percent sign the cursor is at, and the place behind its line. -/
def directive? (p : Cursor) : Option (Directive × Cursor) := do
  let (name, p) := p.next.takeWhile isNameChar
  if name.isEmpty || !p.gapAt 0 then none
  let (d, p) ←
    if name = "YAML".toList then versionDirective? p
    else if name = "TAG".toList then handleDirective? p
    else none
  return (d, ← p.finishLine?)

end TaskGraph.Yaml
