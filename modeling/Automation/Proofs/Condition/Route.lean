import Automation.Proofs.Condition.Resolved
import Automation.Proofs.Context.Written
import Automation.Proofs.Text.Pieces

/-!
# Routes

A path that conditions may use is a route: a root, and names and numbers below it
(`Condition.Route`). Each name is written after a dot and each number in brackets. The check accepts
exactly the texts of routes (`Condition.isPath_iff`). It reads them with a test for each segment
between dots, while a lookup goes through the characters one by one, drops blanks and quotes in
brackets and leaves empty segments out. On the text of a route both come to the same: its segments
are the root, the names and the numbers, as they are written and in that order
(`Condition.isPath_segments`).
-/

namespace Automation.Condition

open Text

/-! ## Routes -/

/-- A name in a path. -/
structure Name where
  chars : List Char
  ne_nil : chars ≠ []
  named : ∀ c ∈ chars, isNameChar c = true

/-- A number in a path. It may have any number of digits, and zeros at its start. -/
structure Numeral where
  chars : List Char
  ne_nil : chars ≠ []
  digits : ∀ c ∈ chars, isDigit c = true

/-- What stands below the root of a path. -/
inductive Stop where
  | name (name : Name)
  | number (numeral : Numeral)

/-- The characters of a name or a number. -/
def Stop.chars : Stop → List Char
  | name n => n.chars
  | number n => n.chars

/-- A name after a dot, or a number in brackets. -/
def Stop.written : Stop → List Char
  | name n => '.' :: n.chars
  | number n => '[' :: (n.chars ++ [']'])

/-- A path that conditions may use: the trigger or the loop as a whole, a variable of the
environment, or a name and more below the trigger, the steps or the loop. -/
inductive Route where
  | whole (root : List Char) (h : root ∈ ["trigger".toList, "loop".toList])
  | env (name : Name)
  | below (root : List Char) (h : root ∈ ["trigger".toList, "steps".toList, "loop".toList])
      (first : Name) (rest : List Stop)

namespace Route

/-- The word that a route starts with. -/
def root : Route → List Char
  | whole root _ => root
  | env _ => "env".toList
  | below root .. => root

/-- What stands below the root. -/
def stops : Route → List Stop
  | whole .. => []
  | env name => [.name name]
  | below _ _ first rest => .name first :: rest

/-- The text of a route. -/
def text (r : Route) : List Char :=
  r.root ++ r.stops.flatMap Stop.written

/-- The root, and the names and numbers below it. -/
def segments (r : Route) : List String :=
  String.ofList r.root :: r.stops.map fun stop => String.ofList stop.chars

/-- A variable of the environment is written as its name below the root. -/
theorem text_env (name : Name) : (env name).text = "env".toList ++ '.' :: name.chars :=
  congrArg ("env".toList ++ ·) (List.append_nil _)

/-- The root of a route is one of the roots. -/
theorem root_mem (r : Route) : r.root ∈ roots := by
  have hroots : ∀ root ∈ ["trigger".toList, "steps".toList, "loop".toList], root ∈ roots := by
    decide
  have hwholes : ∀ root ∈ ["trigger".toList, "loop".toList], root ∈ roots := by decide
  cases r with
  | whole root h => exact hwholes root h
  | env name => exact List.mem_cons_self ..
  | below root h => exact hroots root h

/-- A root is not empty. -/
theorem root_ne_nil (r : Route) : r.root ≠ [] := by
  have hroots : ∀ root ∈ roots, root ≠ [] := by decide
  exact hroots r.root r.root_mem

end Route

/-! ## Grammar -/

namespace Form

/-- Bracketed numbers may be followed by more of them. -/
theorem Indexes.append {u v : List Char} (hu : Indexes u) (hv : Indexes v) : Indexes (u ++ v) := by
  induction hu with
  | nil => exact hv
  | @cons digits rest hne h _ ih =>
    have hjoin : '[' :: (digits ++ ']' :: rest) ++ v = '[' :: (digits ++ ']' :: (rest ++ v)) := by
      simp
    rw [hjoin]
    exact .cons hne h ih

/-- A name alone is a segment. -/
theorem Segment.of_name (n : Name) : Segment n.chars := by
  rw [← List.append_nil n.chars]
  exact .mk n.ne_nil n.named .nil

/-- A segment goes on with a bracketed number. -/
theorem Segment.number {u : List Char} (hu : Segment u) (n : Numeral) :
    Segment (u ++ (Stop.number n).written) := by
  cases hu with
  | mk hne h hindexes =>
    rw [List.append_assoc]
    exact .mk hne h (hindexes.append (.cons n.ne_nil n.digits .nil))

/-- A segment and what stands below it are segments between dots. -/
theorem listed_stops {u : List Char} (hu : Segment u) (stops : List Stop) :
    Listed ['.'] Segment (u ++ stops.flatMap Stop.written) := by
  induction stops generalizing u with
  | nil =>
    rw [List.flatMap_nil, List.append_nil]
    exact .one hu
  | cons stop rest ih =>
    rw [List.flatMap_cons]
    cases stop with
    | name n => exact .cons hu (ih (.of_name n))
    | number n =>
      rw [← List.append_assoc]
      exact ih (hu.number n)

/-- The text of a route is of the form of paths. -/
theorem Path.of_route (r : Route) : Path r.text := by
  cases r with
  | whole root h =>
    rw [Route.text, Route.root, Route.stops, List.flatMap_nil, List.append_nil]
    simp only [List.mem_cons, List.not_mem_nil, or_false] at h
    rcases h with rfl | rfl
    · exact .trigger
    · exact .loop
  | env name =>
    rw [Route.text_env]
    exact .env name.ne_nil name.named
  | below root h first rest => exact .below h (listed_stops (.of_name first) rest)

/-- Bracketed numbers stand below something. -/
theorem Indexes.exists_stops {cs : List Char} (h : Indexes cs) :
    ∃ stops : List Stop, cs = stops.flatMap Stop.written := by
  induction h with
  | nil => exact ⟨[], rfl⟩
  | @cons digits rest hne hdigits _ ih =>
    obtain ⟨stops, rfl⟩ := ih
    exact ⟨.number ⟨digits, hne, hdigits⟩ :: stops, by simp [Stop.written]⟩

/-- Segments between dots are a name and what stands below it. -/
theorem exists_stops {cs : List Char} (h : Listed ['.'] Segment cs) :
    ∃ (first : Name) (rest : List Stop), cs = first.chars ++ rest.flatMap Stop.written := by
  induction h with
  | one hsegment =>
    cases hsegment with
    | mk hne hname hindexes =>
      obtain ⟨stops, rfl⟩ := hindexes.exists_stops
      exact ⟨⟨_, hne, hname⟩, stops, rfl⟩
  | cons hsegment _ ih =>
    obtain ⟨next, others, rfl⟩ := ih
    cases hsegment with
    | mk hne hname hindexes =>
      obtain ⟨stops, rfl⟩ := hindexes.exists_stops
      exact ⟨⟨_, hne, hname⟩, stops ++ .name next :: others, by simp [Stop.written]⟩

/-- What is of the form of paths is the text of a route. -/
theorem Path.exists_route {cs : List Char} (h : Path cs) : ∃ r : Route, r.text = cs := by
  cases h with
  | trigger => exact ⟨.whole _ (List.mem_cons_self ..), rfl⟩
  | loop => exact ⟨.whole "loop".toList (by decide), rfl⟩
  | env hne hname => exact ⟨.env ⟨_, hne, hname⟩, Route.text_env _⟩
  | below hroot hrest =>
    obtain ⟨first, rest, rfl⟩ := exists_stops hrest
    exact ⟨.below _ hroot first rest, rfl⟩

end Form

/-! ## The check -/

/-- No letter is blank. -/
theorem isBlank_of_isLetter {c : Char} (h : isLetter c = true) : isBlank c = false := by
  have hbounds : 65 ≤ c.toNat ∧ c.toNat ≤ 122 := by
    simp only [isLetter, Bool.or_eq_true, Bool.and_eq_true, decide_eq_true_eq] at h
    rcases h with ⟨hlow, hhigh⟩ | ⟨hlow, hhigh⟩
    · exact ⟨Nat.le_trans (by decide) hlow, hhigh⟩
    · exact ⟨hlow, Nat.le_trans hhigh (by decide)⟩
  simp only [isBlank, Bool.or_eq_false_iff, Bool.and_eq_false_iff, decide_eq_false_iff_not,
    beq_eq_false_iff_ne]
  omega

/-- No character of a path is blank. -/
theorem isBlank_of_pathChar {c : Char} (h : isPathChar c = true) : isBlank c = false := by
  simp only [isPathChar, isNameChar, Bool.or_eq_true, beq_iff_eq] at h
  rcases h with (((((hletter | hdigit) | rfl) | rfl) | rfl) | rfl) | rfl
  · exact isBlank_of_isLetter hletter
  · exact isBlank_of_isDigit hdigit
  all_goals decide

namespace Form

/-- Bracketed numbers have no dots. -/
theorem Indexes.not_dot {cs : List Char} (h : Indexes cs) : '.' ∉ cs := by
  induction h with
  | nil => exact List.not_mem_nil
  | cons _ hdigits _ ih =>
    have hdot : '.' ∉ _ := fun hmem => absurd (hdigits '.' hmem) (by decide)
    simp [hdot, ih]

/-- Segments have no dots. -/
theorem Segment.not_dot {cs : List Char} (h : Segment cs) : '.' ∉ cs := by
  cases h with
  | mk _ hname hindexes =>
    rw [List.mem_append, not_or]
    exact ⟨fun hmem => absurd rfl (isNameChar_plain (hname _ hmem)).1, hindexes.not_dot⟩

/-- The pieces of a text between places of a character are what it joins. -/
theorem Listed.pieces {mark : Char} {cs : List Char} {P : List Char → Prop}
    (hP : ∀ cs, P cs → mark ∉ cs) (h : Listed [mark] P cs) :
    ∀ piece ∈ Text.pieces [mark] cs, P piece := by
  rw [pieces_singleton]
  induction h with
  | one h =>
    rw [List.splitOn_eq_singleton (hP _ h)]
    exact List.forall_mem_singleton.2 h
  | cons h _ ih =>
    rw [List.singleton_append, List.splitOn_append_cons_self_of_not_mem (hP _ h)]
    exact List.forall_mem_cons.2 ⟨h, ih⟩

/-- Texts that are joined are not empty if none of them is. -/
theorem Listed.ne_nil {mark cs : List Char} {P : List Char → Prop} (hP : ∀ cs, P cs → cs ≠ [])
    (h : Listed mark P cs) : cs ≠ [] := by
  cases h with
  | one h => exact hP _ h
  | cons h => exact List.append_ne_nil_of_left_ne_nil (hP _ h) _

/-- A segment is not empty. -/
theorem Segment.ne_nil {cs : List Char} (h : Segment cs) : cs ≠ [] := by
  obtain ⟨c, rest, rfl, -⟩ := h.head
  exact List.cons_ne_nil c rest

/-- A number in brackets is accepted if it has a digit and what comes after it is accepted. -/
theorem isIndexed_digits {digits : List Char} (h : ∀ c ∈ digits, isDigit c = true) (saw : Bool)
    (rest : List Char) : isIndexed (some saw) (digits ++ ']' :: rest) =
      ((saw || !digits.isEmpty) && isIndexed none rest) := by
  induction digits generalizing saw with
  | nil => simp [isIndexed]
  | cons c digits ih =>
    obtain ⟨hc, hdigits⟩ := List.forall_mem_cons.1 h
    have hne : c ≠ ']' := by
      rintro rfl
      cases hc
    rw [List.cons_append, isIndexed, if_neg hne, hc, ih hdigits]
    simp

/-- What is of the form of bracketed numbers is accepted as such. -/
theorem Indexes.isIndexed {cs : List Char} (h : Indexes cs) : isIndexed none cs = true := by
  induction h with
  | nil => rfl
  | cons hne hdigits _ ih =>
    rw [Condition.isIndexed, isIndexed_digits hdigits, ih]
    simpa using hne

/-- What is of the form of a segment is accepted as one. -/
theorem Segment.isSegment {cs : List Char} (h : Segment cs) : isSegment cs = true := by
  cases h with
  | @mk name indexes hne hname hindexes =>
    have hplain : ∀ c ∈ name, (c != '[') = true := fun c hc => by
      simpa using (isNameChar_plain (hname c hc)).2
    have htake : indexes.takeWhile (· != '[') = [] := by cases hindexes <;> simp
    have hdrop : indexes.dropWhile (· != '[') = indexes := by cases hindexes <;> simp
    have hall : name.all isNameChar = true := List.all_eq_true.2 hname
    rw [Condition.isSegment, List.takeWhile_append_of_pos hplain,
      List.dropWhile_append_of_pos hplain, htake, hdrop, List.append_nil, hall, hindexes.isIndexed]
    simpa using hne

end Form

/-- The check of a path with a dot after its root. -/
theorem isPath_dot {root rest : List Char} (hroot : '.' ∉ root)
    (hblank : (root ++ '.' :: rest).any isBlank = false) :
    isPath (root ++ '.' :: rest) =
      if String.ofList root == "env" then !rest.isEmpty && rest.all isNameChar
      else if String.ofList root == "trigger" || String.ofList root == "steps" ||
          String.ofList root == "loop" then
        !rest.isEmpty && (Text.pieces ['.'] rest).all isSegment
      else false := by
  have hcut : cut? ['.'] (root ++ '.' :: rest) = some (root, rest) := cut?_append hroot rest
  have hdotted (s : String) (hs : '.' ∉ s.toList) :
      (String.ofList (root ++ '.' :: rest) == s) = false := by
    rw [beq_eq_false_iff_ne]
    intro heq
    rw [← eq_of_ofList heq] at hs
    simp at hs
  unfold isPath
  rw [hblank, hdotted "trigger" (by decide), hdotted "loop" (by decide), hcut]
  rfl

/-- What is a path is accepted. -/
theorem isPath_of_path {cs : List Char} (h : Form.Path cs) : isPath cs = true := by
  have hblank : cs.any isBlank = false := by
    rw [List.any_eq_false]
    intro c hc
    simp [isBlank_of_pathChar (h.chars c hc)]
  cases h with
  | trigger | loop => decide
  | @env name hne hname =>
    rw [isPath_dot (by decide) hblank, if_pos (by decide)]
    simpa [hne] using hname
  | @below root rest hroot hrest =>
    have hne : rest ≠ [] := hrest.ne_nil fun _ => Form.Segment.ne_nil
    have hpieces := List.all_eq_true.2 fun piece hp =>
      (hrest.pieces (fun _ => Form.Segment.not_dot) piece hp).isSegment
    simp only [List.mem_cons, List.not_mem_nil, or_false] at hroot
    rcases hroot with rfl | rfl | rfl
    all_goals
      rw [isPath_dot (by decide) hblank, if_neg (by decide), if_pos (by decide), hpieces]
      simpa using hne

/-- A path that conditions may use is the text of a route. -/
theorem isPath_iff {cs : List Char} : isPath cs = true ↔ ∃ r : Route, r.text = cs := by
  refine ⟨fun h => (Form.path_of_isPath h).exists_route, ?_⟩
  rintro ⟨r, rfl⟩
  exact isPath_of_path (.of_route r)

/-! ## Segments -/

/-- A name after a dot and a number in brackets are each read as one segment. -/
theorem Stop.readAs (stop : Stop) : Path.ReadAs stop.written stop.chars := by
  cases stop with
  | name n => exact .dotted n.ne_nil fun c hc => Form.isNameChar_plain (n.named c hc)
  | number n =>
    have hclosed : ']' ∉ n.chars := fun hmem => absurd (n.digits _ hmem) (by decide)
    exact .bracketed n.ne_nil hclosed (Path.bracketed_of_digits n.ne_nil n.digits)

/-- The segments of the text of a route are its root and what stands below it. -/
theorem Route.segments_text (r : Route) : Path.segments r.text = r.segments := by
  have hroots : ∀ root ∈ roots, root.all isNameChar = true := by decide
  have hplain : ∀ c ∈ r.root, c ≠ '.' ∧ c ≠ '[' := fun c hc =>
    Form.isNameChar_plain (List.all_eq_true.1 (hroots r.root r.root_mem) c hc)
  rw [Path.segments, text, Path.segmentsFrom_append hplain, List.nil_append,
    Path.segmentsFrom_flatMap Stop.readAs, Path.push_of_ne_nil r.root_ne_nil, List.map_cons,
    List.map_map]
  rfl

/-- A name and a number have characters. -/
theorem Stop.chars_ne_nil (stop : Stop) : stop.chars ≠ [] := by
  cases stop with
  | name n => exact n.ne_nil
  | number n => exact n.ne_nil

/-- No segment of a route is empty. -/
theorem Route.ne_of_mem_segments {r : Route} {segment : String} (h : segment ∈ r.segments) :
    segment ≠ "" := by
  have hne {cs : List Char} (h : cs ≠ []) : String.ofList cs ≠ "" := by simpa using h
  rcases List.mem_cons.1 h with rfl | hstop
  · exact hne r.root_ne_nil
  · obtain ⟨stop, -, rfl⟩ := List.mem_map.1 hstop
    exact hne stop.chars_ne_nil

/-- The check of conditions accepts a path if and only if it is the text of a route. The segments of
such a text are the root of the route, its names and its numbers in order, none of which is empty,
and a lookup of the text follows just these. -/
theorem isPath_segments (cs : List Char) :
    (isPath cs = true ↔ ∃ r : Route, r.text = cs) ∧
    ∀ r : Route, r.text = cs →
      Path.segments cs = r.segments ∧ (∀ segment ∈ r.segments, segment ≠ "") ∧
        ∀ ctx : Context, ctx.lookup? (String.ofList cs) = ctx.lookupSegments? r.segments := by
  refine ⟨isPath_iff, ?_⟩
  rintro r rfl
  refine ⟨r.segments_text, fun _ => Route.ne_of_mem_segments, fun ctx => ?_⟩
  have hsolid : Solid r.text := (Operand.path r.text (isPath_iff.2 ⟨r, rfl⟩)).solid
  rw [Context.lookup?, String.toList_ofList, hsolid.trim_eq, r.segments_text]

/-- A name of a digit, a dash and a digit, with two numbers after it, the first of which starts with
zeros. -/
theorem isPath_segments_numbers :
    let path := "steps.0-1[007][12]._".toList
    isPath path = true ∧
      ∃ r : Route, r.text = path ∧ r.segments = ["steps", "0-1", "007", "12", "_"] ∧
        Path.segments path = ["steps", "0-1", "007", "12", "_"] := by
  intro path
  let first : Name := ⟨"0-1".toList, by decide, List.all_eq_true.1 (by decide)⟩
  let last : Name := ⟨"_".toList, by decide, List.all_eq_true.1 (by decide)⟩
  let padded : Numeral := ⟨"007".toList, by decide, List.all_eq_true.1 (by decide)⟩
  let twelve : Numeral := ⟨"12".toList, by decide, List.all_eq_true.1 (by decide)⟩
  let r : Route :=
    .below "steps".toList (by decide) first [.number padded, .number twelve, .name last]
  have htext : r.text = path := by decide
  have hsegments : r.segments = ["steps", "0-1", "007", "12", "_"] := by decide
  obtain ⟨hpath, hread⟩ := isPath_segments path
  exact ⟨hpath.2 ⟨r, htext⟩, r, htext, hsegments, (hread r htext).1.trans hsegments⟩

end Automation.Condition
