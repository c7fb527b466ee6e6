-- SUMMARY: The characters of a YAML text, with one kind of ordinary line break.

/-!
# YAML source text

A text may hold printable characters, tabs and line breaks only. Line breaks of
all ordinary kinds become a newline; the line and paragraph separators are breaks
too, but keep their identity.
-/
namespace TaskGraph.Yaml

/-- The characters that a text may hold. -/
def isPrintable (c : Char) : Bool :=
  let n := c.toNat
  n == 0x9 || n == 0xA || n == 0xD || (0x20 ≤ n && n ≤ 0x7E) || n == 0x85 ||
    (0xA0 ≤ n && n ≤ 0xD7FF) || (0xE000 ≤ n && n ≤ 0xFFFD) || 0x10000 ≤ n

/-- Puts a newline for each line break, adding to a reversed text. -/
def uniformBreaks (reversed : List Char) : List Char → List Char
  | [] => reversed.reverse
  | '\r' :: '\n' :: cs => uniformBreaks ('\n' :: reversed) cs
  | '\r' :: cs => uniformBreaks ('\n' :: reversed) cs
  | '\u0085' :: cs => uniformBreaks ('\n' :: reversed) cs
  | c :: cs => uniformBreaks (c :: reversed) cs

/-- The characters of a text, if it may hold them all. -/
def sourceOf? (s : String) : Option (List Char) :=
  if s.toList.all isPrintable then some (uniformBreaks [] s.toList) else none

def isBreak (c : Char) : Bool := c = '\n' || c = '\u2028' || c = '\u2029'

/-- Spaces and tabs. -/
def isSpacing (c : Char) : Bool := c = ' ' || c = '\t'

/-- The characters of names: ASCII letters and digits, underscore and hyphen. -/
def isNameChar (c : Char) : Bool := c.isAlphanum || c = '_' || c = '-'

end TaskGraph.Yaml
