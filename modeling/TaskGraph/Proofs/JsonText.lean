-- SUMMARY: A JSON value is read back from its text, compact or indented.
import TaskGraph.Json.Reader
import TaskGraph.Json.Writer

/-!
# Reading back a written value

Between the text of a value and the value stand its tokens. A piece of text spells tokens if the
scanner finds them in it; only the word at its end may be left open, and a piece that closes
tokens ends it. The text of an array or an object is closed piece by piece, item by item. From
the tokens the reader finds the value again, whatever frames are open around it.
-/
namespace TaskGraph.Json

open Decimal (Numeral)

/-! ## Tokens of a value -/

mutual

/-- The tokens that write a value. -/
def Value.tokens : Value → List Token
  | .null => [.null]
  | .bool b => [.bool b]
  | .number n => [.number n]
  | .string s => [.string s]
  | .array [] => [.openArray, .closeArray]
  | .array (v :: vs) => .openArray :: (v.tokens ++ (itemTokens vs ++ [.closeArray]))
  | .object [] => [.openObject, .closeObject]
  | .object ((k, v) :: ms) =>
    .openObject :: .string k :: .colon :: (v.tokens ++ (memberTokens ms ++ [.closeObject]))

/-- The tokens of the items behind the first one. -/
def itemTokens : List Value → List Token
  | [] => []
  | v :: vs => .comma :: (v.tokens ++ itemTokens vs)

/-- The tokens of the members behind the first one. -/
def memberTokens : List (Literal × Value) → List Token
  | [] => []
  | (k, v) :: ms => .comma :: .string k :: .colon :: (v.tokens ++ memberTokens ms)

end

/-- A value whose strings are texts and whose numbers are numerals of the grammar. -/
inductive Value.Writable : Value → Prop where
  | null : Writable .null
  | bool (b : Bool) : Writable (.bool b)
  | number (n : Numeral) (h : Numeral.ofChars? n.toChars = some n) : Writable (.number n)
  | text (s : String) : Writable (.text s)
  | array (vs : List Value) (h : ∀ v ∈ vs, Writable v) : Writable (.array vs)
  | record (fields : List (String × Value)) (h : ∀ f ∈ fields, Writable f.2) :
    Writable (.record fields)

namespace Token

/-! ## String literals -/

theorem hexDigit?_hexChar {n : Nat} (h : n < 16) : hexDigit? (hexChar n) = some n := by
  revert n
  decide

namespace Machine

theorem run?_cons {m n : Machine} {c : Char} (h : m.step? c = some n) (cs : List Char) :
    m.run? (c :: cs) = n.run? cs := by
  simp only [run?, List.foldlM_cons, h, Option.bind_eq_bind, Option.bind_some]

variable (read : List Nat) (found : List Token)

/-- An escaped character is read as its code point. -/
theorem run?_escapeChar (c : Char) :
    run? ⟨.literal read, found⟩ (escapeChar c) = some ⟨.literal (c.toNat :: read), found⟩ := by
  unfold escapeChar
  -- The escapes of one letter, the control characters without one, and all other characters.
  split
  · subst_vars; rfl
  split
  · subst_vars; rfl
  split
  · subst_vars; rfl
  split
  · subst_vars; rfl
  split
  · subst_vars; rfl
  split
  · subst_vars; rfl
  split
  · subst_vars; rfl
  split
  · next hcontrol =>
    have hhigh := hexDigit?_hexChar (n := c.toNat / 16) (by omega)
    have hlow := hexDigit?_hexChar (n := c.toNat % 16) (Nat.mod_lt _ (by decide))
    have hzero : hexDigit? '0' = some 0 := rfl
    have hvalue : 16 * (c.toNat / 16) + c.toNat % 16 = c.toNat := Nat.div_add_mod _ _
    simp [run?, step?, hhigh, hlow, hzero, hvalue]
  · next hquote hback _ _ _ _ _ hplain =>
    simp [run?, step?, hquote, hback, hplain]

theorem run?_escaped (cs : List Char) :
    run? ⟨.literal read, found⟩ (cs.flatMap escapeChar) =
      some ⟨.literal ((cs.map Char.toNat).reverse ++ read), found⟩ := by
  induction cs generalizing read with
  | nil => rfl
  | cons c cs ih =>
    rw [List.flatMap_cons, run?_append, run?_escapeChar, Option.bind_some, ih,
      List.map_cons, List.reverse_cons, List.append_assoc, List.singleton_append]

end Machine

/-- Characters are no surrogates, so nothing is joined. -/
theorem joinSurrogates_toNat (cs : List Char) : joinSurrogates (cs.map Char.toNat) = some cs := by
  have hplain (c : Char) : isHighSurrogate c.toNat = false ∧ isLowSurrogate c.toNat = false := by
    have hvalid := c.valid
    simp only [isHighSurrogate, isLowSurrogate, Bool.and_eq_false_iff, decide_eq_false_iff_not]
    unfold UInt32.isValidChar Nat.isValidChar at hvalid
    unfold Char.toNat
    omega
  induction cs with
  | nil => rfl
  | cons c cs ih =>
    obtain ⟨hhigh, hlow⟩ := hplain c
    cases cs with
    | nil => simp [joinSurrogates, hhigh, hlow]
    | cons d ds =>
      rw [List.map_cons] at ih ⊢
      simp [joinSurrogates, hhigh, hlow, ih]

theorem literal_toNat (s : String) : literal (s.toList.map Char.toNat).reverse = some s := by
  rw [literal, List.reverse_reverse, joinSurrogates_toNat, Option.map_some, String.ofList_toList]

/-! ## Pieces of text -/

/-- The tokens that were found and the one that is ended by whatever comes next, last one first. -/
def Machine.close? (m : Machine) : Option (List Token) :=
  match m.mode with
  | .between => some m.found
  | .word read => (ofWord? read.reverse).map (· :: m.found)
  | _ => none

theorem Machine.finish?_eq (m : Machine) : m.finish? = m.close?.map List.reverse := by
  unfold finish? close?
  cases m.mode with
  | word read => simp only [Option.map_map]; rfl
  | _ => rfl

/-- A character that ends words does so. -/
theorem Machine.step?_of_close {m : Machine} {found : List Token} (h : m.close? = some found)
    {c : Char} (hc : endsWord c) : m.step? c = begin? found c := by
  obtain ⟨mode, before⟩ := m
  cases mode with
  | between => rw [← Option.some.inj h]; rfl
  | word read =>
    obtain ⟨t, ht, rfl⟩ := Option.map_eq_some_iff.mp h
    simp [step?, hc, ht]
  | _ => cases h

theorem Machine.begin?_word (found : List Token) {c : Char} (hc : endsWord c = false) :
    begin? found c = some ⟨.word [c], found⟩ := by
  simp only [endsWord, Bool.or_eq_false_iff, decide_eq_false_iff_not, Option.isSome_eq_false_iff,
    Option.isNone_iff_eq_none] at hc
  simp [begin?, hc]

theorem Machine.run?_word {cs : List Char} (hcs : ∀ c ∈ cs, endsWord c = false) (read : List Char)
    (found : List Token) :
    run? ⟨.word read, found⟩ cs = some ⟨.word (cs.reverse ++ read), found⟩ := by
  induction cs generalizing read with
  | nil => rfl
  | cons c cs ih =>
    rw [List.forall_mem_cons] at hcs
    have hstep : step? ⟨.word read, found⟩ c = some ⟨.word (c :: read), found⟩ := by
      simp [step?, hcs.1]
    rw [run?_cons hstep, ih hcs.2, List.reverse_cons, List.append_assoc, List.singleton_append]

/-- From between two tokens, the characters spell the given ones. The last of them may be a
word that is still open. -/
def Spells (cs : List Char) (ts : List Token) : Prop :=
  ∀ found, ∃ m, Machine.run? ⟨.between, found⟩ cs = some m ∧ m.close? = some (ts.reverse ++ found)

/-- The characters end a word that is still open and spell the given tokens, leaving none open. -/
def Closes (cs : List Char) (ts : List Token) : Prop :=
  ∀ m found, Machine.close? m = some found → m.run? cs = some ⟨.between, ts.reverse ++ found⟩

theorem scan?_of_spells {cs : List Char} {ts : List Token} (h : Spells cs ts) :
    scan? cs = some ts := by
  obtain ⟨m, hrun, hclose⟩ := h []
  rw [List.append_nil] at hclose
  simp only [scan?, Machine.start, hrun, bind, Option.bind, Machine.finish?_eq, hclose,
    Option.map_some, List.reverse_reverse]

namespace Closes

variable {as bs cs : List Char} {ss ts us : List Token}

theorem spells (h : Closes as ss) : Spells as ss :=
  fun found => ⟨_, h ⟨.between, found⟩ found rfl, rfl⟩

theorem append (ha : Closes as ss) (hb : Closes bs ts) : Closes (as ++ bs) (ss ++ ts) := by
  intro m found hm
  rw [Machine.run?_append, ha m found hm, Option.bind_some, hb _ _ rfl, List.reverse_append,
    List.append_assoc]

/-- A piece that may be left open, between one that ends and one that closes it. -/
theorem append_spells (ha : Closes as ss) (hb : Spells bs ts) (hc : Closes cs us) :
    Closes (as ++ (bs ++ cs)) (ss ++ (ts ++ us)) := by
  intro m found hm
  obtain ⟨n, hn, hclose⟩ := hb (ss.reverse ++ found)
  rw [Machine.run?_append, ha m found hm, Option.bind_some, Machine.run?_append, hn,
    Option.bind_some, hc n _ hclose, List.reverse_append, List.reverse_append]
  simp only [List.append_assoc]

theorem space {c : Char} (hc : isSpace c) : Closes [c] [] := by
  intro m found hm
  have hends : Machine.endsWord c := by simp [Machine.endsWord, hc]
  simp [Machine.run?, Machine.step?_of_close hm hends, Machine.begin?, hc]

theorem punctuation {c : Char} {t : Token} (hc : ofPunctuation? c = some t)
    (hspace : isSpace c = false) (hquote : c ≠ '"') : Closes [c] [t] := by
  intro m found hm
  have hends : Machine.endsWord c := by simp [Machine.endsWord, hc]
  simp [Machine.run?, Machine.step?_of_close hm hends, Machine.begin?, hc, hspace, hquote]

theorem comma : Closes [','] [.comma] := punctuation rfl rfl (by decide)
theorem openArray : Closes ['['] [.openArray] := punctuation rfl rfl (by decide)
theorem closeArray : Closes [']'] [.closeArray] := punctuation rfl rfl (by decide)
theorem openObject : Closes ['\x7b'] [.openObject] := punctuation rfl rfl (by decide)
theorem closeObject : Closes ['\x7d'] [.closeObject] := punctuation rfl rfl (by decide)

theorem colon (style : Style) : Closes style.colon [.colon] := by
  have hcolon : Closes [':'] [.colon] := punctuation rfl rfl (by decide)
  cases style with
  | compact => exact hcolon
  | indented => exact hcolon.append (space rfl)

theorem blanks (n : Nat) : Closes ('\n' :: List.replicate n ' ') [] := by
  induction n with
  | zero => exact space rfl
  | succ n ih =>
    rw [List.replicate_succ', ← List.cons_append]
    exact ih.append (space rfl)

/-- Line breaks may stand in front of a piece that closes. -/
theorem lineBreak (style : Style) (depth : Nat) (h : Closes as ss) :
    Closes (style.lineBreak depth ++ as) ss := by
  cases style with
  | compact => exact h
  | indented => exact (blanks _).append h

theorem quoted (s : String) : Closes (quoted (some s)) [.string (some s)] := by
  intro m found hm
  have hquote : m.step? '"' = some ⟨.literal [], found⟩ := Machine.step?_of_close hm rfl
  have hbody := Machine.run?_escaped [] found s.toList
  rw [List.append_nil] at hbody
  rw [Json.quoted, Machine.run?_cons hquote, Machine.run?_append, Option.getD_some, hbody,
    Option.bind_some]
  simp [Machine.run?, Machine.step?, literal_toNat]

end Closes

namespace Spells

variable {cs : List Char} {ts : List Token}

theorem lineBreak (style : Style) (depth : Nat) (h : Spells cs ts) :
    Spells (style.lineBreak depth ++ cs) ts := by
  cases style with
  | compact => exact h
  | indented =>
    intro found
    obtain ⟨m, hm, hclose⟩ := h found
    have hblanks : Machine.run? ⟨.between, found⟩ (Style.indented.lineBreak depth) =
        some ⟨.between, found⟩ :=
      Closes.blanks (2 * depth) ⟨.between, found⟩ found rfl
    exact ⟨m, by rw [Machine.run?_append, hblanks, Option.bind_some, hm], hclose⟩

/-- A word is left open. -/
theorem word {t : Token} (hcs : ∀ c ∈ cs, Machine.endsWord c = false) (ht : ofWord? cs = some t) :
    Spells cs [t] := by
  intro found
  cases cs with
  | nil => cases ht
  | cons c cs =>
    rw [List.forall_mem_cons] at hcs
    have hbegin : Machine.step? ⟨.between, found⟩ c = some ⟨.word [c], found⟩ :=
      Machine.begin?_word found hcs.1
    refine ⟨⟨.word (c :: cs).reverse, found⟩, ?_, by simp [Machine.close?, ht]⟩
    rw [Machine.run?_cons hbegin, Machine.run?_word hcs.2, List.reverse_cons]

end Spells

/-! ## The text of a value -/

theorem endsWord_toChars (n : Numeral) : ∀ c ∈ n.toChars, Machine.endsWord c = false := by
  have hdigit : ∀ d : Decimal.Digit, Machine.endsWord d.toChar = false := by decide
  have hdigits (ds : List Decimal.Digit) :
      ∀ c ∈ ds.map Decimal.Digit.toChar, Machine.endsWord c = false := by
    simpa using fun d _ => hdigit d
  have hsign (p : Prop) [Decidable p] :
      ∀ c ∈ if p then ['-'] else [], Machine.endsWord c = false := by
    split
    · rw [List.forall_mem_singleton]
      decide
    · simp
  simp only [Numeral.toChars, List.forall_mem_append]
  refine ⟨⟨⟨hsign _, hdigits _⟩, ?_⟩, ?_⟩
  · split
    · simp
    · exact List.forall_mem_cons.mpr ⟨by decide, hdigits _⟩
  · cases n.exponent with
    | none => simp
    | some e =>
      exact List.forall_mem_append.mpr
        ⟨List.forall_mem_cons.mpr ⟨by decide, hsign _⟩, hdigits _⟩

theorem Spells.null : Spells "null".toList [.null] :=
  word (by simp [Machine.endsWord, isSpace, ofPunctuation?]) rfl

theorem Spells.true : Spells "true".toList [.bool .true] :=
  word (by simp [Machine.endsWord, isSpace, ofPunctuation?]) rfl

theorem Spells.false : Spells "false".toList [.bool .false] :=
  word (by simp [Machine.endsWord, isSpace, ofPunctuation?]) rfl

theorem Spells.number {n : Numeral} (h : Numeral.ofChars? n.toChars = some n) :
    Spells n.toChars [.number n] := by
  have hother (w : List Char) (hw : Numeral.ofChars? w = none) : n.toChars ≠ w := by
    rintro rfl
    rw [hw] at h
    cases h
  refine .word (endsWord_toChars n) ?_
  rw [ofWord?, if_neg (hother _ rfl), if_neg (hother _ rfl), if_neg (hother _ rfl), h]
  rfl

section
variable {style : Style} {depth : Nat} {cs : List Char} {ts : List Token}

theorem Closes.items {vs : List Value} (hvs : ∀ v ∈ vs, Spells (v.write style depth) v.tokens)
    (h : Closes cs ts) : Closes (writeItems style depth vs ++ cs) (itemTokens vs ++ ts) := by
  induction vs with
  | nil => exact h
  | cons v vs ih =>
    rw [List.forall_mem_cons] at hvs
    have hitem := Closes.comma.append_spells (hvs.1.lineBreak style depth) (ih hvs.2)
    simpa only [writeItems, itemTokens, List.cons_append, List.nil_append, List.append_assoc]
      using hitem

/-- A member from its key on, with what follows it. -/
theorem Closes.member {as : List Char} {ss : List Token} (has : Closes as ss) (k : String)
    {v : Value} (hv : Spells (v.write style depth) v.tokens) (h : Closes cs ts) :
    Closes (as ++ (style.lineBreak depth ++ Json.quoted (some k) ++ style.colon ++
        v.write style depth ++ cs))
      (ss ++ (.string (some k) :: .colon :: (v.tokens ++ ts))) := by
  have hkey := has.append (((Closes.quoted k).append (.colon style)).lineBreak style depth)
  have hmember := hkey.append_spells hv h
  simpa only [List.cons_append, List.nil_append, List.append_assoc] using hmember

theorem Closes.members {fields : List (String × Value)}
    (hfields : ∀ f ∈ fields, Spells (f.2.write style depth) f.2.tokens) (h : Closes cs ts) :
    Closes (writeMembers style depth (fields.map fun (k, v) => (some k, v)) ++ cs)
      (memberTokens (fields.map fun (k, v) => (some k, v)) ++ ts) := by
  induction fields with
  | nil => exact h
  | cons f fields ih =>
    rw [List.forall_mem_cons] at hfields
    have hmember := Closes.comma.member f.1 hfields.1 (ih hfields.2)
    simpa only [List.map_cons, writeMembers, memberTokens, List.cons_append, List.nil_append,
      List.append_assoc] using hmember

end

/-- The text of a value spells its tokens. -/
theorem Spells.write {v : Value} (h : v.Writable) (style : Style) (depth : Nat) :
    Spells (v.write style depth) v.tokens := by
  induction h generalizing depth with
  | null => exact .null
  | bool b =>
    cases b with
    | true => exact .true
    | false => exact .false
  | number n h => exact .number h
  | text s => exact (Closes.quoted s).spells
  | array vs _ ih =>
    cases vs with
    | nil => exact (Closes.openArray.append .closeArray).spells
    | cons v vs =>
      have hrest := Closes.items (fun w hw => ih w (.tail _ hw) (depth + 1))
        (Closes.closeArray.lineBreak style depth)
      have harray := Closes.openArray.append_spells
        ((ih v (.head _) (depth + 1)).lineBreak style (depth + 1)) hrest
      simpa only [Value.write, Value.tokens, List.cons_append, List.nil_append,
        List.append_assoc] using harray.spells
  | record fields _ ih =>
    cases fields with
    | nil => exact (Closes.openObject.append .closeObject).spells
    | cons f fields =>
      have hrest := Closes.members (fun g hg => ih g (.tail _ hg) (depth + 1))
        (Closes.closeObject.lineBreak style depth)
      have hobject := Closes.openObject.member f.1 (ih f (.head _) (depth + 1)) hrest
      simpa only [Value.record, List.map_cons, Value.write, Value.tokens, List.cons_append,
        List.nil_append, List.append_assoc] using hobject.spells

end Token

/-! ## Values from tokens -/

namespace Reader

theorem run?_cons {r r' : Reader} {t : Token} (h : r.step? t = some r') (ts : List Token) :
    r.run? (t :: ts) = r'.run? ts := by
  simp only [run?, List.foldlM_cons, h, Option.bind_eq_bind, Option.bind_some]

/-- The first item of an array is read as any other. -/
theorem run?_firstItem (v : Value) (above : List Frame) :
    (firstItem above).run? v.tokens = (value (.item [] :: above)).run? v.tokens := by
  cases v with
  | array vs => cases vs <;> rfl
  | object ms => cases ms <;> rfl
  | _ => rfl

mutual

/-- The tokens of a value are read as the value, which is handed to the innermost frame. -/
theorem run?_tokens (v : Value) (above : List Frame) :
    (value above).run? v.tokens = some (put v above) := by
  match v with
  | .null | .bool _ | .number _ | .string _ | .array [] | .object [] => rfl
  | .array (v :: vs) =>
    have hopen : (value above).step? .openArray = some (firstItem above) := rfl
    rw [Value.tokens, run?_cons hopen, run?_append, run?_firstItem, run?_tokens v,
      Option.bind_some, run?_append, put, run?_itemTokens vs, Option.bind_some]
    simp [run?, step?]
  | .object ((k, v) :: ms) =>
    have hopen : (value above).step? .openObject = some (firstKey above) := rfl
    have hkey : (firstKey above).step? (.string k) = some (colon [] k above) := rfl
    have hcolon : (colon [] k above).step? .colon = some (value (.member [] k :: above)) := rfl
    rw [Value.tokens, run?_cons hopen, run?_cons hkey, run?_cons hcolon, run?_append,
      run?_tokens v, Option.bind_some, run?_append, put, run?_memberTokens ms, Option.bind_some]
    simp [run?, step?]

theorem run?_itemTokens (vs before : List Value) (above : List Frame) :
    (afterItem before above).run? (itemTokens vs) =
      some (afterItem (vs.reverse ++ before) above) := by
  match vs with
  | [] => rfl
  | v :: vs =>
    have hcomma : (afterItem before above).step? .comma =
        some (value (.item before :: above)) := rfl
    rw [itemTokens, run?_cons hcomma, run?_append, run?_tokens v, Option.bind_some, put,
      run?_itemTokens vs, List.reverse_cons, List.append_assoc, List.singleton_append]

theorem run?_memberTokens (ms before : List (Literal × Value)) (above : List Frame) :
    (afterMember before above).run? (memberTokens ms) =
      some (afterMember (ms.reverse ++ before) above) := by
  match ms with
  | [] => rfl
  | (k, v) :: ms =>
    have hcomma : (afterMember before above).step? .comma = some (key before above) := rfl
    have hkey : (key before above).step? (.string k) = some (colon before k above) := rfl
    have hcolon : (colon before k above).step? .colon =
        some (value (.member before k :: above)) := rfl
    rw [memberTokens, run?_cons hcomma, run?_cons hkey, run?_cons hcolon, run?_append,
      run?_tokens v, Option.bind_some, put, run?_memberTokens ms, List.reverse_cons,
      List.append_assoc, List.singleton_append]

end
end Reader

theorem Value.ofTokens?_tokens (v : Value) : Value.ofTokens? v.tokens = some v := by
  rw [ofTokens?, Reader.run?_tokens]
  rfl

/-- A value is read back from its text, however it is laid out. -/
theorem Value.parse?_render {v : Value} (h : v.Writable) (style : Style) :
    Value.parse? (v.render style) = some v := by
  rw [parse?, render, String.toList_ofList, Token.scan?_of_spells (.write h style 0)]
  exact v.ofTokens?_tokens

end TaskGraph.Json
