import Automation.Proofs.Condition.Meaning
import Automation.Proofs.Json.RoundTrip

/-!
# Comparing values written as JSON

Two values that are written as JSON on either side of an `==` are compared as the values that they
are, whatever operators, parentheses and other quotes their strings hold, as long as no string and
no name in them has a double quote (`Condition.condition_texts`). A double quote is escaped in the
text, and there ends the string for a scan, so that operators after it count
(`Condition.condition_texts_quote`).
-/

namespace Automation

open Text

namespace Json

mutual

/-- No string and no name in the value has a double quote. -/
def Unquoted : Json → Prop
  | .string s => '"' ∉ s.toList
  | .array items => UnquotedItems items
  | .object fields => UnquotedFields fields
  | _ => True

/-- No string and no name in the items of an array has a double quote. -/
def UnquotedItems : List Json → Prop
  | [] => True
  | item :: rest => Unquoted item ∧ UnquotedItems rest

/-- No string and no name in the fields of an object has a double quote. -/
def UnquotedFields : List (String × Json) → Prop
  | [] => True
  | (name, value) :: rest => '"' ∉ name.toList ∧ Unquoted value ∧ UnquotedFields rest

end

end Json

namespace Condition

open Json

/-! ## Texts without escaped quotes -/

/-- What is written for a character other than a quote escapes none. -/
theorem escapesQuote_escapeChar {c : Char} (hc : c ≠ '"') (v : List Char) :
    escapesQuote (escapeChar c ++ v) = escapesQuote v := by
  unfold escapeChar
  split
  · next hquote => exact absurd hquote hc
  split
  · rfl
  split
  · rfl
  split
  · rfl
  split
  · rfl
  split
  · rfl
  split
  · rfl
  split
  · next hcontrol =>
    have hdigits : '\\' ∉ ['0', '0', hexDigit (c.toNat / 16), hexDigit (c.toNat % 16)] := by
      have hall : ∀ n < 32, '\\' ∉ ['0', '0', hexDigit (n / 16), hexDigit (n % 16)] := by decide
      exact hall c.toNat hcontrol
    exact escapesQuote_append hdigits v
  · next hbackslash _ _ _ _ _ _ =>
    exact escapesQuote_append (by simpa using Ne.symm hbackslash) v

/-- The text of a string without double quotes escapes none. -/
theorem escapesQuote_quote {s : String} (h : '"' ∉ s.toList) (v : List Char) :
    escapesQuote (quote s ++ v) = escapesQuote v := by
  have hchars (cs : List Char) (hcs : '"' ∉ cs) (v : List Char) :
      escapesQuote (cs.flatMap escapeChar ++ v) = escapesQuote v := by
    induction cs with
    | nil => rfl
    | cons c cs ih =>
      rw [List.flatMap_cons, List.append_assoc,
        escapesQuote_escapeChar fun heq => hcs (heq ▸ List.mem_cons_self ..)]
      exact ih fun hmem => hcs (List.mem_cons_of_mem _ hmem)
  rw [quote_append, escapesQuote_cons (by decide), hchars _ h, escapesQuote_cons (by decide)]

/-- The digits of a number escape no quote. -/
theorem escapesQuote_integer (n : Int) (v : List Char) :
    escapesQuote (integer n ++ v) = escapesQuote v := by
  have hdigits (n : Nat) : '\\' ∉ digits n := fun hmem =>
    absurd (isDigit_of_mem_digits n _ hmem) (by decide)
  cases n with
  | ofNat n => exact escapesQuote_append (hdigits n) v
  | negSucc n =>
    rw [integer, List.cons_append, escapesQuote_cons (by decide)]
    exact escapesQuote_append (hdigits (n + 1)) v

mutual

/-- The text of a value that fits and has no double quotes escapes none. -/
theorem escapesQuote_write : ∀ (v : Json) (depth : Nat) (rest : List Char), Fits depth v →
    Unquoted v → escapesQuote (write v ++ rest) = escapesQuote rest
  | .null, _, _, _, _ | .bool true, _, _, _, _ | .bool false, _, _, _, _ => rfl
  | .number (.double d), _, _, h, _ => h.elim
  | .number (.int n), _, rest, _, _ => escapesQuote_integer n rest
  | .string s, _, rest, _, hs => escapesQuote_quote hs rest
  | .array items, depth, rest, h, hs => by
    rw [write, List.cons_append, List.append_assoc, escapesQuote_cons (by decide),
      escapesQuote_writeItems items (depth - 1) _ h.2 hs]
    rfl
  | .object fields, depth, rest, h, hs => by
    rw [write, List.cons_append, List.append_assoc, escapesQuote_cons (by decide),
      escapesQuote_writeFields fields (depth - 1) _ h.2.2 hs]
    rfl

/-- Items without double quotes are written without escaping any. -/
theorem escapesQuote_writeItems : ∀ (items : List Json) (depth : Nat) (rest : List Char),
    FitsItems depth items → UnquotedItems items →
    escapesQuote (writeItems items ++ rest) = escapesQuote rest
  | [], _, _, _, _ => rfl
  | [item], depth, rest, h, hs => escapesQuote_write item depth rest h.1 hs.1
  | item :: next :: more, depth, rest, h, hs => by
    rw [write_items_cons, List.append_assoc, List.cons_append,
      escapesQuote_write item depth _ h.1 hs.1, escapesQuote_cons (by decide),
      escapesQuote_writeItems (next :: more) depth rest h.2 hs.2]

/-- Fields without double quotes are written without escaping any. -/
theorem escapesQuote_writeFields : ∀ (fields : List (String × Json)) (depth : Nat)
    (rest : List Char), FitsFields depth fields → UnquotedFields fields →
    escapesQuote (writeFields fields ++ rest) = escapesQuote rest
  | [], _, _, _, _ => rfl
  | [(name, value)], depth, rest, h, hs => by
    rw [writeFields, List.append_assoc, List.cons_append, escapesQuote_quote hs.1,
      escapesQuote_cons (by decide), escapesQuote_write value depth rest h.1 hs.2.1]
  | (name, value) :: next :: more, depth, rest, h, hs => by
    rw [write_fields_cons, List.append_assoc, List.cons_append, List.append_assoc,
      List.cons_append, escapesQuote_quote hs.1, escapesQuote_cons (by decide),
      escapesQuote_write value depth _ h.1 hs.2.1, escapesQuote_cons (by decide),
      escapesQuote_writeFields (next :: more) depth rest h.2 hs.2.2]

end

/-! ## Comparisons -/

/-- A value as an operand. -/
def Operand.ofJson (v : Json) (h : Fits maxDepth v) (hs : v.Unquoted) : Operand :=
  .literal (write v) v (ofChars?_write h) (solid_write h).trim_eq <| by
    have hescapes := escapesQuote_write v maxDepth [] h hs
    rwa [List.append_nil] at hescapes

/-- A comparison as a condition. -/
def AnyOf.ofTest (t : Test) : AnyOf :=
  ⟨⟨⟨[], t⟩, []⟩, []⟩

/-- A condition of one comparison is printed as the comparison. -/
theorem AnyOf.print_ofTest (t : Test) : (AnyOf.ofTest t).print = t.print := by
  simp [AnyOf.print, Joined.print, Joined.printRest, AllOf.print, Atom.print, negated, ofTest]

/-- A condition of one comparison has its meaning. -/
theorem AnyOf.holds_ofTest (ctx : Context) (t : Test) :
    (AnyOf.ofTest t).holds ctx = t.holds ctx := by
  simp [AnyOf.holds, AllOf.holds, Atom.holds, Joined.items, ofTest]

/-- One blank. -/
def Space.one : Space :=
  ⟨[' '], by simp [Blanks, isBlank]⟩

/-- Values without double quotes are compared as they are if their texts are. -/
theorem condition_texts (r : Resolver) (ctx : Context) {v w : Json} (hv : Fits maxDepth v)
    (hw : Fits maxDepth w) (hv' : v.Unquoted) (hw' : w.Unquoted) :
    r.condition ctx (v.text ++ " == " ++ w.text) = .ok (v.alike w) := by
  let test : Test := .equal (.ofJson v hv hv') Space.one Space.one (.ofJson w hw hw')
  have hraw : v.text ++ " == " ++ w.text = String.ofList (AnyOf.ofTest test).print := by
    have hmark : " == " = String.ofList ([' '] ++ (equalMark ++ [' '])) := rfl
    rw [AnyOf.print_ofTest, Json.text, Json.text, hmark, ← String.ofList_append,
      ← String.ofList_append]
    simp only [List.append_assoc]
    rfl
  have hnormal : normalize (v.text ++ " == " ++ w.text) =
      String.ofList (AnyOf.ofTest test).print := by
    have hbare := (AnyOf.ofTest test).unwrap_print (.bare ⟨[], blanks_nil⟩ ⟨[], blanks_nil⟩)
    rw [Wrapping.print, List.nil_append, List.append_nil] at hbare
    rw [normalize, hraw, String.toList_ofList, hbare]
  rw [(AnyOf.ofTest test).condition_of_normalize r ctx hnormal, AnyOf.holds_ofTest]
  rfl

/-- Two values that look like operators, and a comparison with a string of quotes and brackets. -/
theorem condition_texts_operators :
    let v : Json := .object [("a || (", .string "' == \\"), ("b", .array [.int (-7), .bool true])]
    let w : Json := .string "!= ) && .includes('"
    let ctx : Context := { tenant := ⟨"t"⟩, trigger := .null }
    Fits maxDepth v ∧ Fits maxDepth w ∧ v.Unquoted ∧ w.Unquoted ∧
      ({} : Resolver).condition ctx (v.text ++ " == " ++ w.text) = .ok (v.alike w) ∧
      ({} : Resolver).condition ctx (v.text ++ " == " ++ v.text) = .ok (v.alike v) := by
  intro v w ctx
  have hv : Fits maxDepth v :=
    ⟨by decide, by simp [Fields.Ordered, before, charsBefore], trivial,
      ⟨by decide, ⟨by decide, by decide⟩, trivial, trivial⟩, trivial⟩
  have hw : Fits maxDepth w := trivial
  have hplain : '"' ∉ "' == \\".toList := by decide
  have hv' : v.Unquoted := ⟨by decide, hplain, by decide, ⟨trivial, trivial, trivial⟩, trivial⟩
  have hplain' : '"' ∉ "!= ) && .includes('".toList := by decide
  have hw' : w.Unquoted := hplain'
  exact ⟨hv, hw, hv', hw', condition_texts _ ctx hv hw hv' hw', condition_texts _ ctx hv hv hv' hv'⟩

/-- A string that starts with a double quote and goes on with an operator is taken apart there. -/
theorem condition_texts_quote :
    let v : Json := .string "\"=="
    let w : Json := .int 1
    let ctx : Context := { tenant := ⟨"t"⟩, trigger := .null }
    Fits maxDepth v ∧ Fits maxDepth w ∧ v.alike w = false ∧
      ({} : Resolver).condition ctx (v.text ++ " == " ++ w.text) = .ok true := by
  intro v w ctx
  have hholds : (({} : Resolver).condition ctx (v.text ++ " == " ++ w.text)).toOption =
      some true := by
    decide +kernel
  refine ⟨trivial, ⟨by decide, by decide⟩, by decide +kernel, ?_⟩
  cases h : ({} : Resolver).condition ctx (v.text ++ " == " ++ w.text) with
  | error fault =>
    rw [h] at hholds
    cases hholds
  | ok holds =>
    rw [h] at hholds
    exact congrArg Except.ok (Option.some.inj hholds)

end Condition

end Automation
