-- SUMMARY: The lower case of a text under the full Unicode mapping.
import TaskGraph.Text.CaseTable

/-!
# Lower case

Every character is mapped on its own, with two exceptions: the dotted capital I
becomes two characters, and a capital sigma at the end of a word becomes a final
sigma. A sigma ends a word when a cased character precedes it and none follows,
case-ignorable characters left out on both sides.
-/
namespace TaskGraph.Text

/-- The lower case of one character, taken on its own. -/
def lowerChar (c : Char) : List Char :=
  let n := c.toNat
  if n < 0x80 then [c.toLower]
  else if n = 0x130 then ['i', Char.ofNat 0x307]
  else match lowerRuns.findSome? (·.lower? n) with
    | some l => [Char.ofNat l]
    | none => [c]

/-- Membership in a list of ranges, ends included. -/
def inRanges (ranges : List (Nat × Nat)) (c : Char) : Bool :=
  ranges.any fun (lo, hi) => lo ≤ c.toNat && c.toNat ≤ hi

/-- Whether the first character that is not case-ignorable is cased. -/
def meetsCased (cs : List Char) : Bool :=
  match cs.dropWhile (inRanges caseIgnorableRanges) with
  | c :: _ => inRanges casedRanges c
  | [] => false

/-- The lower case of the rest of a text, where `before` is what precedes it, last
character first. -/
def lowerFrom (before : List Char) : List Char → List Char
  | [] => []
  | c :: after =>
    let lower :=
      if c = 'Σ' then (if meetsCased before && !meetsCased after then ['ς'] else ['σ'])
      else lowerChar c
    lower ++ lowerFrom (c :: before) after

/-- The lower case of a text. -/
def lowercase (s : String) : String :=
  String.ofList (lowerFrom [] s.toList)

end TaskGraph.Text
