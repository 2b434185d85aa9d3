import Automation.Proofs.Condition.Operand

/-!
# The grammar of conditions

The syntax trees of conditions, together with the blanks with which they are written: alternatives
(`Condition.AnyOf`) of parts that all have to hold (`Condition.AllOf`), each of which is a
comparison below negations (`Condition.Atom`). Each has a text (`print`) and a meaning in a context
(`holds`), and the meaning does not depend on the blanks. A condition may be written as a template
(`Condition.Wrapping`).
-/

namespace Automation.Condition

open Text

/-- Any number of blanks. -/
structure Space where
  chars : List Char
  blank : Blanks chars

/-- A comparison of operands, or an operand alone, with the blanks around its operator. -/
inductive Test where
  | includes (left : Operand) (before inside : Space) (right : Operand) (after : Space)
  | unequal (left : Operand) (before after : Space) (right : Operand)
  | equal (left : Operand) (before after : Space) (right : Operand)
  | operand (operand : Operand)

/-- A comparison below negations, each of which has blanks after it. -/
structure Atom where
  negations : List Space
  test : Test

/-- Items with a mark between each and the next, and blanks before and after the mark. -/
structure Joined (α : Type) where
  first : α
  rest : List (Space × Space × α)

/-- Comparisons joined by `&&`. -/
abbrev AllOf : Type := Joined Atom

/-- Conditions without `||`, joined by `||`. -/
abbrev AnyOf : Type := Joined AllOf

/-- What stands around a condition: blanks, or a template and blanks. -/
inductive Wrapping where
  | bare (before after : Space)
  | template (before inside behind after : Space)

/-! ## Texts -/

/-- Two texts with a mark between them. -/
def sidesOf (mark left : List Char) (before after : Space) (right : List Char) : List Char :=
  left ++ (before.chars ++ (mark ++ (after.chars ++ right)))

/-- The text of two operands with a mark between them. -/
def sides (mark : List Char) (left : Operand) (before after : Space) (right : Operand) :
    List Char :=
  left.text ++ (before.chars ++ (mark ++ (after.chars ++ right.text)))

/-- The text of a comparison. -/
def Test.print : Test → List Char
  | includes left before inside right after =>
    left.text ++ (before.chars ++
      (includesMarker ++ (inside.chars ++ (right.text ++ (after.chars ++ [')'])))))
  | unequal left before after right => sides unequalMark left before after right
  | equal left before after right => sides equalMark left before after right
  | operand o => o.text

/-- A text below negations. -/
def negated : List Space → List Char → List Char
  | [], text => text
  | space :: rest, text => '!' :: (space.chars ++ negated rest text)

/-- The text of a comparison below negations. -/
def Atom.print (a : Atom) : List Char :=
  negated a.negations a.test.print

namespace Joined

variable {α : Type}

/-- All items in order. -/
def items (j : Joined α) : List α :=
  j.first :: j.rest.map (·.2.2)

/-- The text of the items after the first, each with the mark before it. -/
def printRest (mark : List Char) (print : α → List Char) : List (Space × Space × α) → List Char
  | [] => []
  | (before, after, item) :: rest =>
    before.chars ++ (mark ++ (after.chars ++ (print item ++ printRest mark print rest)))

/-- The text of the items. -/
def print (mark : List Char) (print : α → List Char) (j : Joined α) : List Char :=
  print j.first ++ printRest mark print j.rest

end Joined

/-- The text of comparisons joined by `&&`. -/
def AllOf.print : AllOf → List Char :=
  Joined.print andMark Atom.print

/-- The text of a condition. -/
def AnyOf.print : AnyOf → List Char :=
  Joined.print orMark AllOf.print

/-- The text of a condition and what stands around it. -/
def Wrapping.print : Wrapping → List Char → List Char
  | bare before after, text => before.chars ++ (text ++ after.chars)
  | template before inside behind after, text =>
    before.chars ++ ((Template.opener ++ ((inside.chars ++ (text ++ behind.chars)) ++
      Template.closer)) ++ after.chars)

/-! ## Meanings -/

/-- A comparison is true in a context. -/
def Test.holds (ctx : Context) : Test → Bool
  | includes left _ _ right _ => Json.includes (left.value ctx) (right.value ctx)
  | unequal left _ _ right => !Json.alike (left.value ctx) (right.value ctx)
  | equal left _ _ right => Json.alike (left.value ctx) (right.value ctx)
  | operand o => (o.value ctx).isTruthy

/-- Each negation turns the truth of the whole comparison around. -/
def Atom.holds (ctx : Context) (a : Atom) : Bool :=
  a.negations.foldr (fun _ holds => !holds) (a.test.holds ctx)

/-- All comparisons are true in a context. -/
def AllOf.holds (ctx : Context) (j : AllOf) : Bool :=
  j.items.all (Atom.holds ctx)

/-- One of the alternatives is true in a context. -/
def AnyOf.holds (ctx : Context) (j : AnyOf) : Bool :=
  j.items.any (AllOf.holds ctx)

/-! ## How texts start -/

/-- Another first character is avoided by what starts with this one. -/
theorem Avoids.cons {bad : List Char} {c : Char} (h : c ∉ bad) (u : List Char) :
    Avoids bad (c :: u) := by
  intro d hd
  cases hd
  exact h

/-- Whoever avoids some characters avoids fewer of them. -/
theorem Avoids.mono {bad bad' u : List Char} (h : Avoids bad u) (hsub : ∀ c ∈ bad', c ∈ bad) :
    Avoids bad' u :=
  fun c hc hmem => h c hc (hsub c hmem)

/-- A text with blanks in front does not start with any characters but blanks and those that it
starts with. -/
theorem Avoids.blanks {bad u : List Char} (hbad : bad.any isBlank = false) (b : Space)
    (hu : Avoids bad u) : Avoids bad (b.chars ++ u) := by
  obtain ⟨b, hb⟩ := b
  cases b with
  | nil => exact hu
  | cons c b =>
    refine .cons (fun hmem => ?_) (b ++ u)
    exact List.any_eq_false.1 hbad c hmem (hb c (List.mem_cons_self ..))

/-- What comes after a comparison: it goes on neither with an equality nor with the marker of an
inclusion. -/
def Follows (v : List Char) : Prop :=
  Avoids ('=' :: includesMarker.tail) v

/-- What may come after a comparison may come after its last operand. -/
theorem Follows.ends {v : List Char} (h : Follows v) : Ends v :=
  h.mono fun _ hc => List.mem_cons_of_mem _ hc

/-- Blanks before what may come after a comparison may come there too. -/
theorem Space.follows (b : Space) {u : List Char} (hu : Follows u) : Follows (b.chars ++ u) :=
  .blanks (by decide) b hu

/-- Blanks before what may come after an operand may come there too. -/
theorem Space.ends (b : Space) {u : List Char} (hu : Ends u) : Ends (b.chars ++ u) :=
  .blanks (by decide) b hu

/-- Blanks do not go on with an equality if what comes after them does not. -/
theorem Space.avoids_equals (b : Space) {u : List Char} (hu : Avoids ['='] u) :
    Avoids ['='] (b.chars ++ u) :=
  .blanks (by decide) b hu

/-- An operand does not start like an equality. -/
theorem Sealed.avoids_equals {text : List Char} (h : Sealed text) (v : List Char) :
    Avoids ['='] (text ++ v) :=
  (h.avoids v).mono (by simp)

/-- The text starts with a negation or an operand. -/
def Begins (u : List Char) : Prop :=
  (∃ v, u = '!' :: v) ∨ ∃ (o : Operand) (v : List Char), u = o.text ++ v

namespace Begins

/-- What starts with a text that begins a condition begins one. -/
theorem append {u : List Char} (h : Begins u) (w : List Char) : Begins (u ++ w) := by
  rcases h with ⟨v, rfl⟩ | ⟨o, v, rfl⟩
  · exact .inl ⟨v ++ w, rfl⟩
  · exact .inr ⟨o, v ++ w, List.append_assoc ..⟩

/-- What begins a condition starts neither like an equality nor like an inclusion or a template. -/
theorem avoids {u : List Char} (h : Begins u) : Avoids ['=', '.', '$'] u := by
  rcases h with ⟨v, rfl⟩ | ⟨o, v, rfl⟩
  · exact .cons (by decide) v
  · exact (o.avoids v).mono (by simp)

/-- What begins a condition does not start like an equality. -/
theorem avoids_equals {u : List Char} (h : Begins u) : Avoids ['='] u :=
  h.avoids.mono (by simp)

/-- What starts with a negation or an operand is no script. -/
theorem not_script {u : List Char} (h : Begins u) :
    stripStart? Template.scriptMarker u = none := by
  rcases h with ⟨v, rfl⟩ | ⟨o, v, rfl⟩
  · rfl
  · exact o.not_script v

end Begins

/-- A comparison starts with an operand. -/
theorem Test.starts (t : Test) : ∃ (o : Operand) (v : List Char), t.print = o.text ++ v := by
  cases t with
  | includes left | unequal left | equal left => exact ⟨left, _, rfl⟩
  | operand o => exact ⟨o, [], (List.append_nil _).symm⟩

/-- A comparison below negations begins a condition. -/
theorem Atom.begins (a : Atom) : Begins a.print := by
  obtain ⟨negations, test⟩ := a
  cases negations with
  | nil => exact .inr test.starts
  | cons space rest => exact .inl ⟨_, rfl⟩

/-- Comparisons that all have to hold begin a condition. -/
theorem AllOf.begins (j : AllOf) : Begins j.print :=
  j.first.begins.append _

/-- Alternatives begin a condition. -/
theorem AnyOf.begins (j : AnyOf) : Begins j.print :=
  (AllOf.begins j.first).append _

/-! ## How texts end -/

/-- Two solid operands with a mark between them are solid. -/
theorem solid_sidesOf (mark : List Char) {left right : List Char} (hleft : Solid left)
    (before after : Space) (hright : Solid right) :
    Solid (sidesOf mark left before after right) := by
  have hsolid := hleft.append (before.chars ++ (mark ++ after.chars)) hright
  simpa [sidesOf] using hsolid

/-- A comparison is solid. -/
theorem Test.solid (t : Test) : Solid t.print := by
  cases t with
  | includes left before inside right after =>
    have hclose : Solid [')'] := solid_of_any (by simp) (by decide)
    have hsolid := left.solid.append
      (before.chars ++ (includesMarker ++ (inside.chars ++ (right.text ++ after.chars)))) hclose
    simpa [Test.print] using hsolid
  | unequal left before after right =>
    exact solid_sidesOf unequalMark left.solid before after right.solid
  | equal left before after right =>
    exact solid_sidesOf equalMark left.solid before after right.solid
  | operand o => exact o.solid

/-- A solid text is solid below negations. -/
theorem negated_solid (spaces : List Space) {text : List Char} (h : Solid text) :
    Solid (negated spaces text) := by
  have hmark : Solid ['!'] := solid_of_any (by simp) (by decide)
  induction spaces with
  | nil => exact h
  | cons space rest ih => exact hmark.append space.chars ih

/-- A comparison below negations is solid. -/
theorem Atom.solid (a : Atom) : Solid a.print :=
  negated_solid a.negations a.test.solid

namespace Joined

variable {α : Type} {mark : List Char} {print : α → List Char}

/-- Joined texts are solid if each of them is. -/
theorem solid (hprint : ∀ x, Solid (print x)) (j : Joined α) : Solid (j.print mark print) := by
  obtain ⟨first, rest⟩ := j
  unfold Joined.print
  dsimp only
  induction rest generalizing first with
  | nil =>
    rw [printRest, List.append_nil]
    exact hprint first
  | cons e rest ih =>
    obtain ⟨before, after, item⟩ := e
    have hsolid := (hprint first).append (before.chars ++ (mark ++ after.chars)) (ih item)
    simpa [printRest] using hsolid

end Joined

/-- Comparisons that all have to hold are solid. -/
theorem AllOf.solid (j : AllOf) : Solid j.print :=
  Joined.solid Atom.solid j

/-- Alternatives are solid. -/
theorem AnyOf.solid (j : AnyOf) : Solid j.print :=
  Joined.solid AllOf.solid j

end Automation.Condition
