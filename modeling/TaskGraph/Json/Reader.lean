-- SUMMARY: JSON values from tokens, with the open arrays and objects on a stack.
import TaskGraph.Json.Token

/-!
# Reading JSON values

The reader goes through the tokens once. Arrays and objects that are still open
stand on a stack, innermost first, so nesting is bounded by nothing but the text.
-/
namespace TaskGraph.Json

/-- An open array or object that waits for a value. Earlier items are kept in reverse. -/
inductive Frame where
  | item (before : List Value)
  | member (before : List (Literal × Value)) (key : Literal)

/-- What the reader expects next; `above` are the frames around it. -/
inductive Reader where
  | value (above : List Frame)
  /-- Behind an opening bracket: a value or the closing one. -/
  | firstItem (above : List Frame)
  /-- Behind an item: a comma or the closing bracket. -/
  | afterItem (items : List Value) (above : List Frame)
  /-- Behind an opening brace: a key or the closing one. -/
  | firstKey (above : List Frame)
  | key (members : List (Literal × Value)) (above : List Frame)
  | colon (members : List (Literal × Value)) (key : Literal) (above : List Frame)
  /-- Behind a member: a comma or the closing brace. -/
  | afterMember (members : List (Literal × Value)) (above : List Frame)
  | done (v : Value)

namespace Reader

/-- Hands a finished value to the innermost frame. -/
def put (v : Value) : List Frame → Reader
  | [] => .done v
  | .item before :: above => .afterItem (v :: before) above
  | .member before k :: above => .afterMember ((k, v) :: before) above

/-- A token where a value must begin. -/
def beginValue? (above : List Frame) : Token → Option Reader
  | .openArray => some (.firstItem above)
  | .openObject => some (.firstKey above)
  | .null => some (put .null above)
  | .bool b => some (put (.bool b) above)
  | .number n => some (put (.number n) above)
  | .string s => some (put (.string s) above)
  | _ => none

/-- Takes in one token. -/
def step? : Reader → Token → Option Reader
  | .value above, t => beginValue? above t
  | .firstItem above, .closeArray => some (put (.array []) above)
  | .firstItem above, t => beginValue? (.item [] :: above) t
  | .afterItem items above, .comma => some (.value (.item items :: above))
  | .afterItem items above, .closeArray => some (put (.array items.reverse) above)
  | .firstKey above, .closeObject => some (put (.object []) above)
  | .firstKey above, .string k => some (.colon [] k above)
  | .key members above, .string k => some (.colon members k above)
  | .colon members k above, .colon => some (.value (.member members k :: above))
  | .afterMember members above, .comma => some (.key members above)
  | .afterMember members above, .closeObject => some (put (.object members.reverse) above)
  | _, _ => none

def run? (r : Reader) (ts : List Token) : Option Reader := ts.foldlM step? r

theorem run?_append (r : Reader) (as bs : List Token) :
    r.run? (as ++ bs) = (r.run? as).bind fun r => r.run? bs := by
  simp only [run?, List.foldlM_append]; rfl

/-- The value, if it is complete. -/
def result? : Reader → Option Value
  | .done v => some v
  | _ => none

end Reader

/-- The value that a sequence of tokens writes. -/
def Value.ofTokens? (ts : List Token) : Option Value := do
  (← (Reader.value []).run? ts).result?

/-- The value that a text writes. -/
def Value.parse? (s : String) : Option Value := do
  Value.ofTokens? (← Token.scan? s.toList)

end TaskGraph.Json
