import Automation.Proofs.Context.History
import Automation.Proofs.Context.Lookup
import Automation.Proofs.Json.Numeral

/-!
# What scripts see of a context

Expressions look paths up in a context, and scripts get the context as one value. The value has the
outputs of a step under its name and, unless another step has that for its name, under its position,
in whatever order the steps have finished; so it has under a reference what `Context.step?` finds
there (`Context.lookup_steps`). A path that both can spell leads to the same value in either
(`Resolver.resolve_view`).

Three things only an expression can do, and `Context.Common` leaves them out: it may spell a
position with a plus sign or with zeros in front, it may put an `output` after the reference that
the outputs do not have, and it may not ask for all steps or for the whole environment at once.
-/

namespace Automation

open Text

namespace Context

/-- The outputs at the position that a text writes, among those of steps the first of which has a
position. -/
def atPosition? (key : String) : Nat → List (String × Json) → Option Json
  | _, [] => none
  | position, (_, outputs) :: rest =>
    if key = String.ofList (digits position) then some outputs
    else atPosition? key (position + 1) rest

/-- The digits of a number lead to the step with that number. -/
theorem atPosition?_digits (n position : Nat) (steps : List (String × Json)) :
    atPosition? (String.ofList (digits n)) position steps =
      if position ≤ n then steps[n - position]?.map (·.2) else none := by
  induction steps generalizing position with
  | nil => simp [atPosition?]
  | cons step rest ih =>
    obtain ⟨name, outputs⟩ := step
    rw [atPosition?]
    by_cases hhere : n = position
    · subst hhere
      simp
    · have hdigits : String.ofList (digits n) ≠ String.ofList (digits position) :=
        fun heq => hhere (digits_inj (String.ofList_injective heq))
      rw [if_neg hdigits, ih]
      by_cases hle : position ≤ n
      · obtain ⟨k, rfl⟩ : ∃ k, n = position + 1 + k := ⟨n - (position + 1), by omega⟩
        have hhead : position + 1 + k - position = k + 1 := by omega
        rw [if_pos hle, if_pos (by omega), hhead, List.getElem?_cons_succ, Nat.add_sub_cancel_left]
      · rw [if_neg hle, if_neg (by omega)]

/-- What stands under a key in the value of the steps: the outputs of the step of that name, else
what stood there before, else the outputs at that position. -/
theorem lookup_stepFields {steps : List (String × Json)} (h : (steps.map (·.1)).Nodup)
    (key : String) (position : Nat) (fields : List (String × Json)) :
    (stepFields position steps fields).lookup key =
      ((steps.lookup key).or (fields.lookup key)).or (atPosition? key position steps) := by
  induction steps generalizing position fields with
  | nil => simp [stepFields, atPosition?]
  | cons step rest ih =>
    obtain ⟨name, outputs⟩ := step
    obtain ⟨hname, hrest⟩ := List.nodup_cons.1 h
    rw [stepFields, ih hrest, Fields.lookup_insertNew, List.lookup_cons, atPosition?]
    by_cases hkey : key = name
    · -- The name stands for the outputs of this step, and no later step takes it away.
      subst hkey
      rw [Fields.lookup_insert_self, Fields.lookup_eq_none_iff.2 hname, beq_self_eq_true]
      rfl
    · rw [Fields.lookup_insert_ne hkey, beq_eq_false_iff_ne.2 hkey]
      by_cases hhere : key = String.ofList (digits position)
      · rw [if_pos hhere, if_pos hhere]
        cases rest.lookup key <;> cases fields.lookup key <;> rfl
      · rw [if_neg hhere, if_neg hhere, Option.or_none]

/-- The value of the steps has under a name, or under a number that is not too large for a position,
the outputs that the reference finds. -/
theorem lookup_steps {ctx : Context} (h : ctx.Reachable) (hcount : ctx.outputs.length ≤ maxWord64)
    {reference : String}
    (href : reference ∈ ctx.outputs.map (·.1) ∨ ∃ n, reference = String.ofList (digits n)) :
    (stepFields 1 ctx.outputs []).lookup reference = ctx.step? reference := by
  rw [lookup_stepFields h.names_nodup.1, step?]
  cases hname : ctx.outputs.lookup reference with
  | some outputs => rfl
  | none =>
    rcases href with hmem | ⟨n, rfl⟩
    · exact absurd hmem (Fields.lookup_eq_none_iff.1 hname)
    · have hindex : Path.index? (String.ofList (digits n)) =
          if n ≤ maxWord64 then some n else none := by
        rw [Path.index?, String.toList_ofList, readWord?_digits]
      rw [atPosition?_digits, hindex]
      cases n with
      | zero => rfl
      | succ n =>
        by_cases hlarge : n + 1 ≤ maxWord64
        · rw [if_pos hlarge]
          simp
        · -- There is no output at a position that is too large for a word.
          have hnone : ctx.outputs[n]? = none := List.getElem?_eq_none (by omega)
          rw [if_neg hlarge]
          simp [hnone]

/-- The paths that an expression and a script can both follow. Below the trigger and the loop these
are all paths. Below the environment the path goes on with a name. Below the steps it goes on with
the name of a step that has outputs, or with a number without sign and leading zeros, and then not
with `output`. -/
inductive Common (ctx : Context) : List String → Prop
  | trigger (path : List String) : Common ctx ("trigger" :: path)
  | env (name : String) (path : List String) : Common ctx ("env" :: name :: path)
  | loop (path : List String) : Common ctx ("loop" :: path)
  | steps (reference : String) (path : List String)
      (href : reference ∈ ctx.outputs.map (·.1) ∨ ∃ n, reference = String.ofList (digits n))
      (hpath : path.head? ≠ some "output") : Common ctx ("steps" :: reference :: path)

/-- A common path starts at one of the roots. -/
theorem Common.root_mem {ctx : Context} {path : List String} (h : ctx.Common path) :
    ∃ root rest, path = root :: rest ∧ root ∈ roots := by
  cases h with
  | trigger path | env name path | loop path | steps reference path =>
    exact ⟨_, _, rfl, by simp [roots]⟩

/-- A path that does not go through the outputs leads into them directly. -/
theorem outputPath_of_head? {path : List String} (h : path.head? ≠ some "output")
    (outputs : Json) : outputPath outputs path = path := by
  unfold outputPath
  split
  · exact absurd rfl h
  · rfl

/-- The environment as a value has the text of a variable under its name. -/
theorem lookup_env {environment : List (String × String)}
    (h : (environment.map (·.1)).Nodup) (name : String) :
    (Fields.ofList (environment.map fun (k, v) => (k, Json.string v))).lookup name =
      (environment.lookup name).map .string := by
  have hnames : (environment.map fun (k, v) => (k, Json.string v)).map (·.1) =
      environment.map (·.1) := by
    rw [List.map_map]
    rfl
  rw [Fields.lookup_ofList (hnames ▸ h), Fields.lookup_map]

/-- Every path through null leads to null. -/
theorem follow?_null (path : List String) :
    (Path.follow? .null path).getD .null = .null := by
  cases path <;> rfl

/-- A common path leads to the same in a context and in its value, null standing for nothing. -/
theorem lookupSegments?_toJson {ctx : Context} (h : ctx.Reachable)
    (hcount : ctx.outputs.length ≤ maxWord64) {path : List String} (hpath : ctx.Common path) :
    (ctx.lookupSegments? path).getD .null = (Path.follow? ctx.toJson path).getD .null := by
  cases hpath with
  | trigger path => rfl
  | loop path =>
    have hview : Path.follow? ctx.toJson ("loop" :: path) =
        Path.follow? ((ctx.frame.map LoopFrame.toJson).getD .null) path := rfl
    rw [hview, lookupSegments?]
    cases ctx.frame with
    | none => exact (follow?_null path).symm
    | some frame => rfl
  | env name path =>
    have hview : Path.follow? ctx.toJson ("env" :: name :: path) =
        ((Fields.ofList (ctx.environment.map fun (k, v) => (k, Json.string v))).lookup name).bind
          fun value => Path.follow? value path := rfl
    rw [hview, lookup_env h.names_nodup.2]
    cases path with
    | nil =>
      rw [lookupSegments?]
      cases ctx.environment.lookup name <;> rfl
    | cons segment rest =>
      have hnone : ctx.lookupSegments? ("env" :: name :: segment :: rest) = none := rfl
      rw [hnone]
      cases ctx.environment.lookup name <;> rfl
  | steps reference path href hhead =>
    have hview : Path.follow? ctx.toJson ("steps" :: reference :: path) =
        ((stepFields 1 ctx.outputs []).lookup reference).bind
          fun value => Path.follow? value path := rfl
    rw [hview, lookup_steps h hcount href, lookupSegments?]
    cases ctx.step? reference with
    | none => rfl
    | some outputs =>
      dsimp only [Option.bind_some]
      rw [outputPath_of_head? hhead]

end Context

/-- In every context that can be built, a common path resolves to what scripts find at the end of
it, null standing for nothing on both sides. The number of outputs is a word of 64 bits, as their
positions are: a list here may be longer, but no machine holds one that is. -/
theorem Resolver.resolve_view (r : Resolver) {ctx : Context} (h : ctx.Reachable)
    (hcount : ctx.outputs.length ≤ maxWord64) {e : String}
    (hpath : ctx.Common (Path.segments (trim e.toList))) :
    r.resolve ctx e =
      .ok ((Path.follow? ctx.toJson (Path.segments (trim e.toList))).getD .null) := by
  obtain ⟨root, rest, hsegments, hroot⟩ := hpath.root_mem
  rw [r.resolve_of_segments ctx hsegments hroot, ← hsegments,
    Context.lookupSegments?_toJson h hcount hpath]

/-- Inside a loop, after two steps: the number two is the name of the first one and the position of
the second. -/
theorem Resolver.resolve_view_clash :
    let ctx : Context :=
      { tenant := ⟨"t"⟩, trigger := .null, environment := [("REGION", "eu")]
        outputs := [("2", .object [("value", .int 1)]), ("b", .object [("value", .int 2)])]
        frame := some ⟨.null, 0, [], .null⟩ }
    let path := ["steps", "2", "value"]
    ctx.Reachable ∧ ctx.outputs.length ≤ maxWord64 ∧
      Path.segments (trim "steps.2.value".toList) = path ∧ ctx.Common path ∧
      ({} : Resolver).resolve ctx "steps.2.value" = .ok (.int 1) ∧
      (Path.follow? ctx.toJson path).getD .null = .int 1 := by
  intro ctx path
  have hreachable : ctx.Reachable := by
    let start : Context := { ctx with outputs := [], frame := none }
    have hstart : start.Reachable := .fresh ⟨"t"⟩ .null [("REGION", "eu")] (by simp)
    have hrecorded : start.recordAll? ctx.outputs = some { ctx with frame := none } := rfl
    exact (hstart.recordAll? hrecorded).withFrame ctx.frame
  have hcount : ctx.outputs.length ≤ maxWord64 := by decide
  have hsegments : Path.segments (trim "steps.2.value".toList) = path := by decide
  have hcommon : ctx.Common path :=
    .steps "2" ["value"] (.inl (by decide)) (by decide)
  have hresolve : ({} : Resolver).resolve ctx "steps.2.value" = .ok (.int 1) := rfl
  have hview := Resolver.resolve_view {} hreachable hcount (e := "steps.2.value")
    (hsegments ▸ hcommon)
  rw [hresolve, hsegments] at hview
  exact ⟨hreachable, hcount, hsegments, hcommon, hresolve, (Except.ok.inj hview).symm⟩

end Automation
