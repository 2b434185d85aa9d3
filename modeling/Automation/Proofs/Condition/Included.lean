import Automation.Proofs.Condition.Opaque
import Automation.Proofs.Text.Search

/-!
# Texts that include texts

A condition asks with `.includes` whether the text that a path leads to has another text in it. If
the text at the path is that of an array, its items are compared with the other one, and else the
other one has to be a part of it. But a text that opens with a bracket and is no array has nothing
in it (`Json.includes_of_none`), and so the condition is not true of the part of such a text
(`Condition.condition_includes`, `Condition.condition_includes_bracketed`).
-/

namespace Automation

open Text

namespace Tree

/-- What has names is no array. -/
theorem toJson?_ofNamed_ne (depth : Nat) (entries : List (Option String × Tree))
    (items : List Json) : (within depth (ofNamed entries)).toJson? ≠ some (.array items) := by
  intro h
  unfold within at h
  split at h
  · cases h
  · unfold ofNamed orUnusable at h
    dsimp only at h
    cases hnamed : entries.mapM fun e => e.1.map fun name => (name, e.2) with
    | none =>
      rw [hnamed] at h
      cases h
    | some named =>
      rw [hnamed] at h
      obtain ⟨fields, -, heq⟩ := Option.map_eq_some_iff.1 h
      cases heq

end Tree

namespace Json

/-! ## Texts of arrays -/

/-- The text opens with a bracket, blanks aside. -/
def OpensArray (s : String) : Prop :=
  (trimStart s.toList).head? = some '['

/-- What is read as an array starts with an opening bracket. -/
theorem exists_bracket {depth fuel : Nat} {cs rest : List Char} {t : Tree} {items : List Json}
    (h : readValue depth (fuel + 1) cs = some (t, rest)) (ht : t.toJson? = some (.array items)) :
    ∃ more, skipSpace cs = '[' :: more := by
  rw [readValue] at h
  split at h
  · cases h
    cases ht
  · cases h
    cases ht
  · cases h
    cases ht
  · obtain ⟨⟨units, rest'⟩, -, heq⟩ := Option.map_eq_some_iff.1 h
    cases heq
    cases hunits : unitsText? units with
    | none =>
      rw [hunits] at ht
      cases ht
    | some s =>
      rw [hunits] at ht
      cases ht
  · next more heq => exact ⟨more, heq⟩
  · split at h
    · cases h
      exact absurd ht (Tree.toJson?_ofNamed_ne depth [] items)
    · obtain ⟨⟨entries, rest'⟩, -, heq⟩ := Option.map_eq_some_iff.1 h
      cases heq
      exact absurd ht (Tree.toJson?_ofNamed_ne depth entries items)
  · obtain ⟨⟨n, rest'⟩, -, heq⟩ := Option.map_eq_some_iff.1 h
    cases heq
    cases n <;> cases ht

/-- The blanks of JSON are blanks. -/
theorem trimStart_of_skipSpace {c : Char} (hc : isBlank c = false) {cs more : List Char}
    (h : skipSpace cs = c :: more) : trimStart cs = c :: more := by
  have hcs : cs = cs.takeWhile isSpace ++ c :: more := by
    rw [← h]
    exact List.takeWhile_append_dropWhile.symm
  have hblanks : Blanks (cs.takeWhile isSpace) := fun d hd =>
    Condition.isBlank_of_space (List.all_eq_true.1 List.all_takeWhile d hd)
  rw [hcs]
  exact trimStart_append hblanks fun d hd => by
    cases hd
    exact hc

/-- The text of an array opens with a bracket. -/
theorem opensArray_of_items {s : String} {items : List Json} (h : itemsOfText? s = some items) :
    OpensArray s := by
  unfold itemsOfText? at h
  split at h
  · next items' hread =>
    obtain ⟨t, ht, harray⟩ := Option.bind_eq_some_iff.1 hread
    unfold readTree? at ht
    split at ht
    · next t' rest hvalue =>
      split at ht
      · cases ht
        obtain ⟨more, hskip⟩ := exists_bracket hvalue harray
        rw [OpensArray, trimStart_of_skipSpace (by decide) hskip]
        rfl
      · cases ht
    · cases ht
  · cases h

/-! ## Membership -/

variable {h : String}

/-- The text of an array includes what one of its items is equal to. -/
theorem includes_of_items {items : List Json} (hitems : itemsOfText? h = some items)
    (needle : Json) :
    includes (.string h) needle = true ↔ ∃ item ∈ items, item.alike needle = true := by
  have hopens : (trimStart h.toList).head? = some '[' := opensArray_of_items hitems
  rw [includes, if_pos hopens, hitems]
  exact List.any_eq_true

/-- A text that is no array includes its parts, unless it opens with a bracket. -/
theorem includes_of_none (hitems : itemsOfText? h = none) (n : String) :
    includes (.string h) (.string n) = true ↔ n.toList <:+: h.toList ∧ ¬OpensArray h := by
  rw [includes, OpensArray]
  split
  · next hopens =>
    rw [hitems]
    exact ⟨fun hfalse => (by cases hfalse), fun hpart => absurd hopens hpart.2⟩
  · next hopens =>
    rw [display, occurs_iff]
    constructor
    · rintro ⟨before, after, heq⟩
      exact ⟨⟨before, after, by rw [heq, List.append_assoc]⟩, hopens⟩
    · rintro ⟨⟨before, after, heq⟩, -⟩
      exact ⟨before, after, by rw [← heq, List.append_assoc]⟩

/-! ## Texts that stand for themselves -/

/-- No character of the text is written differently in JSON: there are no double quotes, no
backslashes and no control characters below the space. -/
def IsVerbatim (s : String) : Prop :=
  ∀ c ∈ s.toList, c ≠ '"' ∧ c ≠ '\\' ∧ 32 ≤ c.toNat

instance (s : String) : Decidable (IsVerbatim s) :=
  List.decidableBAll _ s.toList

/-- A character that is neither a quote nor a backslash nor a control stands for itself. -/
theorem escapeChar_verbatim {c : Char} (hquote : c ≠ '"') (hbackslash : c ≠ '\\')
    (hcontrol : 32 ≤ c.toNat) : escapeChar c = [c] := by
  have hne {d : Char} (hd : d.toNat < 32) : c ≠ d := by
    rintro rfl
    exact absurd hcontrol (Nat.not_le.2 hd)
  rw [escapeChar, if_neg hquote, if_neg hbackslash, if_neg (by omega), if_neg (by omega),
    if_neg (hne (by decide)), if_neg (hne (by decide)), if_neg (hne (by decide)),
    if_neg (Nat.not_lt.2 hcontrol)]

/-- A text that stands for itself is written between quotes as it is. -/
theorem quote_verbatim {s : String} (hs : IsVerbatim s) : quote s = '"' :: (s.toList ++ ['"']) := by
  have hchars (cs : List Char) (hcs : ∀ c ∈ cs, c ≠ '"' ∧ c ≠ '\\' ∧ 32 ≤ c.toNat) :
      cs.flatMap escapeChar = cs := by
    induction cs with
    | nil => rfl
    | cons c cs ih =>
      obtain ⟨hquote, hbackslash, hcontrol⟩ := hcs c (List.mem_cons_self ..)
      rw [List.flatMap_cons, escapeChar_verbatim hquote hbackslash hcontrol,
        ih fun d hd => hcs d (List.mem_cons_of_mem _ hd)]
      rfl
  rw [quote, hchars s.toList hs]

end Json

namespace Condition

open Json

/-- No blanks. -/
def Space.none : Space :=
  ⟨[], blanks_nil⟩

/-- Asked whether the text at a path includes a text between double quotes, a condition has an
answer. Of the text of an array it is true if and only if an item is equal to the text, and of any
other text if and only if this is a part of it and it does not open with a bracket. -/
theorem condition_includes (r : Resolver) (ctx : Context) {path h n : String}
    (hpath : isPath path.toList = true) (hlookup : ctx.lookup? path = some (.string h))
    (hn : IsVerbatim n) :
    ∃ holds, r.condition ctx (path ++ ".includes(\"" ++ n ++ "\")") = .ok holds ∧
      (∀ items, itemsOfText? h = some items →
        (holds = true ↔ ∃ item ∈ items, item.alike (.string n) = true)) ∧
      (itemsOfText? h = none → (holds = true ↔ n.toList <:+: h.toList ∧ ¬OpensArray h)) := by
  have hquote : '"' ∉ n.toList := fun hmem => (hn _ hmem).1 rfl
  let left : Operand := .path path.toList hpath
  let right : Operand := .ofJson (.string n) trivial hquote
  let test : Test := .includes left .none .none right .none
  have hright : right.text = '"' :: (n.toList ++ ['"']) := quote_verbatim hn
  have hraw : path ++ ".includes(\"" ++ n ++ "\")" = String.ofList (AnyOf.ofTest test).print := by
    have hopen : ".includes(\"".toList = includesMarker ++ ['"'] := rfl
    have hclose : "\")".toList = ['"', ')'] := rfl
    have hprint : test.print = path.toList ++ (includesMarker ++ (right.text ++ [')'])) := rfl
    refine String.toList_inj.1 ?_
    rw [String.toList_ofList, AnyOf.print_ofTest, hprint, hright]
    simp only [String.toList_append, hopen, hclose, List.append_assoc, List.cons_append,
      List.nil_append]
  have hnormal : normalize (path ++ ".includes(\"" ++ n ++ "\")") =
      String.ofList (AnyOf.ofTest test).print := by
    rw [hraw]
    exact normalize_ofList (AnyOf.ofTest test).solid
      ((AnyOf.ofTest test).begins.avoids.mono (by simp))
  have hholds : (AnyOf.ofTest test).holds ctx = includes (.string h) (.string n) := by
    have hleft : left.value ctx = .string h := by
      rw [Operand.value, String.ofList_toList, hlookup]
      rfl
    rw [AnyOf.holds_ofTest, Test.holds, hleft]
    rfl
  refine ⟨includes (.string h) (.string n), ?_, ?_, ?_⟩
  · rw [(AnyOf.ofTest test).condition_of_normalize r ctx hnormal, hholds]
  · exact fun items hitems => includes_of_items hitems (.string n)
  · exact fun hitems => includes_of_none hitems n

/-- A text with operators and parentheses in it, asked for some of these. -/
theorem condition_includes_operators :
    let ctx : Context := { tenant := ⟨"t"⟩, trigger := .object [("a", .string "a || (b")] }
    isPath "trigger.a".toList = true ∧ ctx.lookup? "trigger.a" = some (.string "a || (b") ∧
      IsVerbatim "|| (" ∧
      ({} : Resolver).condition ctx ("trigger.a" ++ ".includes(\"" ++ "|| (" ++ "\")") =
        .ok true := by
  intro ctx
  have hpath : isPath "trigger.a".toList = true := by decide +kernel
  have hlookup : ctx.lookup? "trigger.a" = some (.string "a || (b") := by rfl
  have hn : IsVerbatim "|| (" := by decide
  obtain ⟨holds, hcondition, -, hnone⟩ := condition_includes {} ctx hpath hlookup hn
  have hpart : "|| (".toList <:+: "a || (b".toList := ⟨['a', ' '], ['b'], rfl⟩
  have hholds : holds = true :=
    (hnone (by rfl)).2 ⟨hpart, by unfold OpensArray; decide⟩
  exact ⟨hpath, hlookup, hn, by rw [hcondition, hholds]⟩

/-- A text that opens with a bracket and is no array does not include its parts. -/
theorem condition_includes_bracketed :
    let ctx : Context := { tenant := ⟨"t"⟩, trigger := .object [("a", .string "[draft] note")] }
    isPath "trigger.a".toList = true ∧ ctx.lookup? "trigger.a" = some (.string "[draft] note") ∧
      IsVerbatim "draft" ∧ "draft".toList <:+: "[draft] note".toList ∧
      (itemsOfText? "[draft] note").isNone = true ∧
      (({} : Resolver).condition ctx ("trigger.a" ++ ".includes(\"" ++ "draft" ++ "\")")).toOption =
        some false := by
  intro ctx
  have hpart : "draft".toList <:+: "[draft] note".toList := ⟨['['], "] note".toList, rfl⟩
  exact ⟨by decide +kernel, by rfl, by decide, hpart, by decide +kernel, by decide +kernel⟩

end Condition

end Automation
