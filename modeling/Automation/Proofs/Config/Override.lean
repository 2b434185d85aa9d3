import Automation.Config.Load
import Automation.Proofs.Json.Numeral
import Automation.Proofs.Text.Trim
import Automation.Proofs.Tree.Once

/-!
# Settings in files and in variables

Four settings may be given in the file or in a variable (`Config.Setting`). A value in its variable
is as good as the value in the configuration (`Config.override_cons`), and a setting that is changed
in the file is changed in the configuration and nowhere else (`Config.Reads.put`). So it makes no
difference in which of the two ways a setting is given (`Config.load_override`). There is one
exception: a zero in the variable of the step timeout is no timeout, which is null in a file, and
not the timeout of zero that a zero in a file is (`Config.load_override_zero`).
-/

namespace Automation

open Text Record

/-! ## Scalars -/

namespace Plain

/-- The digits of a number spell it. -/
theorem int?_digits (n : Nat) : int? (String.ofList (digits n)) = some n := by
  rw [int?, String.toList_ofList]
  rcases Nat.eq_zero_or_pos n with rfl | hpos
  · rw [digits_of_lt (by omega)]
    rfl
  · obtain ⟨d, cs, hdigits, hdpos, hdlt⟩ := exists_digits_eq_cons hpos
    have hread := readDigits?_digits n
    rw [hdigits] at hread ⊢
    obtain ⟨hzero, hminus⟩ := Json.digitChar_ne hdpos hdlt
    have hplus : digitChar d ≠ '+' := by
      intro hplus
      have hdigit := isDigit_digitChar hdlt
      rw [hplus] at hdigit
      cases hdigit
    have hled : isZeroLed (digitChar d :: cs) = false := by
      simp [isZeroLed, hzero, hminus, hplus]
    have hmagnitude : magnitude? (digitChar d :: cs) = some n := by
      simp [magnitude?, hzero, hread]
    rw [hled, hmagnitude]
    simp [hminus, hplus]

/-- A number does not spell null. -/
theorem isNull_digits (n : Nat) : isNull (String.ofList (digits n)) = false := by
  have hne {s : String} (hs : s.toList.all isDigit = false) : String.ofList (digits n) ≠ s := by
    rintro rfl
    rw [String.toList_ofList, List.all_eq_false] at hs
    obtain ⟨c, hc, hdigit⟩ := hs
    exact hdigit (isDigit_of_mem_digits n c hc)
  have hempty : String.ofList (digits n) ≠ "" := fun h =>
    digits_ne_nil n (by simpa using congrArg String.toList h)
  have htilde : String.ofList (digits n) ≠ "~" := hne (by decide)
  have hlower : String.ofList (digits n) ≠ "null" := hne (by decide)
  have htitle : String.ofList (digits n) ≠ "Null" := hne (by decide)
  have hupper : String.ofList (digits n) ≠ "NULL" := hne (by decide)
  simp [isNull, hempty, htilde, hlower, htitle, hupper]

end Plain

/-- The digits of a number up to a limit are read as a word. -/
theorem Tree.asWord_digits {limit n : Nat} (h : n ≤ limit) (name : String) :
    asWord limit name (.plain (String.ofList (digits n))) = .ok n := by
  have hrange : (0 : Int) ≤ n ∧ (n : Int) ≤ limit := ⟨Int.natCast_nonneg n, Int.ofNat_le.2 h⟩
  rw [asWord, Plain.int?_digits]
  exact if_pos hrange

namespace Config

/-! ## Settings -/

/-- A value of one of the settings that variables override. -/
inductive Setting where
  | scriptMillis (limit : UInt64)
  | defaultIterations (count : UInt32)
  | stepMillis (limit : Option UInt64)
  | persistsRunLogs (persists : Bool)
  deriving DecidableEq

namespace Setting

/-- The name of the setting in a file. -/
def field : Setting → String
  | scriptMillis _ => "script_timeout_ms"
  | defaultIterations _ => "default_max_iterations"
  | stepMillis _ => "step_timeout_ms"
  | persistsRunLogs _ => "persist_run_logs"

/-- The name of the variable that overrides the setting. -/
def overrideName : Setting → String
  | scriptMillis _ => "STEPWISE_SCRIPT_TIMEOUT_MS"
  | defaultIterations _ => "STEPWISE_DEFAULT_MAX_ITERATIONS"
  | stepMillis _ => "STEPWISE_STEP_TIMEOUT_MS"
  | persistsRunLogs _ => "STEPWISE_PERSIST_RUN_LOGS"

/-- The text of the value in a file: digits, a boolean, or null for no step timeout. -/
def fileText : Setting → String
  | scriptMillis limit => String.ofList (digits limit.toNat)
  | defaultIterations count => String.ofList (digits count.toNat)
  | stepMillis none => "null"
  | stepMillis (some limit) => String.ofList (digits limit.toNat)
  | persistsRunLogs true => "true"
  | persistsRunLogs false => "false"

/-- The text of the value in a variable: that in a file, but zero for no step timeout. -/
def overrideText : Setting → String
  | stepMillis none => "0"
  | s => s.fileText

/-- The configuration with the value. -/
def put : Setting → Config → Config
  | scriptMillis limit, c => { c with scriptMillis := limit.toNat }
  | defaultIterations count, c => { c with defaultIterations := count.toNat }
  | stepMillis limit, c => { c with stepMillis := limit.map (·.toNat) }
  | persistsRunLogs persists, c => { c with persistsRunLogs := persists }

end Setting

/-! ## Variables -/

/-- What a variable says, or a value of its own if the variable is not set. -/
def overridden {α : Type} (env : Variables) (name : String)
    (read : String → String → Except Fault α) (unset : α) : Except Fault α :=
  match override? env name with
  | none => .ok unset
  | some value => read name value

/-- The limit that the value of a variable spells, where zero stands for none. -/
def overrideLimit (name value : String) : Except Fault (Option Nat) :=
  (overrideWord maxWord64 name value).map fun n => if n = 0 then none else some n

section
variable {α : Type} {env : Variables} {name other value : String}
  {read : String → String → Except Fault α} {unset : α}

/-- Variables of other names do not override a setting. -/
theorem overridden_cons_ne (h : name ≠ other) :
    overridden ((other, value) :: env) name read unset = overridden env name read unset := by
  rw [overridden, overridden, override?, override?, List.lookup_cons, beq_eq_false_iff_ne.2 h]

/-- A value that a variable gives may be there anyway instead. -/
theorem overridden_cons_self {a : α} (hblank : trim value.toList ≠ [])
    (hread : read name value = .ok a) (h : override? env name = none) :
    overridden ((name, value) :: env) name read unset = overridden env name read a := by
  have hset : override? ((name, value) :: env) name = some value := by
    rw [override?, List.lookup_cons_self, Option.filter_some, if_pos (by simpa using hblank)]
  rw [overridden, overridden, hset, h]
  exact hread

/-- Overriding a setting is changing it, or leaving it if its variable is unset. -/
theorem overrideWith_eq {β : Type} {c : Config} {read' : String → String → Except Fault β}
    {set : Config → β → Config} {change : α → Config} (unset : α)
    (hread : ∀ value, set c <$> read' name value = change <$> read name value)
    (hunset : change unset = c) :
    overrideWith env name read' set c = change <$> overridden env name read unset := by
  unfold overrideWith overridden
  cases override? env name with
  | none => exact congrArg Except.ok hunset.symm
  | some value => exact hread value

end

/-- Each variable says something about one setting. -/
theorem override_eq (env : Variables) (c : Config) :
    override env c = (do
      let script ← overridden env "STEPWISE_SCRIPT_TIMEOUT_MS" (overrideWord maxWord64)
        c.scriptMillis
      let iterations ← overridden env "STEPWISE_DEFAULT_MAX_ITERATIONS" (overrideWord maxWord32)
        c.defaultIterations
      let step ← overridden env "STEPWISE_STEP_TIMEOUT_MS" overrideLimit c.stepMillis
      let persists ← overridden env "STEPWISE_PERSIST_RUN_LOGS" overrideBool c.persistsRunLogs
      return { c with
        scriptMillis := script
        defaultIterations := iterations
        stepMillis := step
        persistsRunLogs := persists }) := by
  have hscript (c : Config) : overrideWith env "STEPWISE_SCRIPT_TIMEOUT_MS"
      (overrideWord maxWord64) (fun c n => { c with scriptMillis := n }) c = _ :=
    overrideWith_eq c.scriptMillis (fun _ => rfl) rfl
  have hiterations (c : Config) : overrideWith env "STEPWISE_DEFAULT_MAX_ITERATIONS"
      (overrideWord maxWord32) (fun c n => { c with defaultIterations := n }) c = _ :=
    overrideWith_eq c.defaultIterations (fun _ => rfl) rfl
  have hlimit (c : Config) (value : String) :
      (fun n => { c with stepMillis := if n = 0 then none else some n }) <$>
        overrideWord maxWord64 "STEPWISE_STEP_TIMEOUT_MS" value =
      (fun limit => { c with stepMillis := limit }) <$>
        overrideLimit "STEPWISE_STEP_TIMEOUT_MS" value := by
    rw [overrideLimit]
    cases overrideWord maxWord64 "STEPWISE_STEP_TIMEOUT_MS" value <;> rfl
  have hstep (c : Config) : overrideWith env "STEPWISE_STEP_TIMEOUT_MS" (overrideWord maxWord64)
      (fun c n => { c with stepMillis := if n = 0 then none else some n }) c = _ :=
    overrideWith_eq c.stepMillis (hlimit c) rfl
  have hpersists (c : Config) : overrideWith env "STEPWISE_PERSIST_RUN_LOGS" overrideBool
      (fun c b => { c with persistsRunLogs := b }) c = _ :=
    overrideWith_eq c.persistsRunLogs (fun _ => rfl) rfl
  simp only [override, hscript, hiterations, hstep, hpersists, bind_map_left, bind_pure_comp]

/-- A number has no blanks around it. -/
theorem trim_digits (n : Nat) : trim (digits n) = digits n := by
  refine (solid_of_any (digits_ne_nil n) (List.any_eq_false.2 fun c hc => ?_)).trim_eq
  exact Bool.eq_false_iff.1 (isBlank_of_isDigit (isDigit_of_mem_digits n c hc))

/-- The digits of a number up to a limit override a setting with the number. -/
theorem overrideWord_digits {limit n : Nat} (h : n ≤ limit) (name : String) :
    overrideWord limit name (String.ofList (digits n)) = .ok n := by
  rw [overrideWord, String.toList_ofList, trim_digits, readWord?_digits, if_pos h]

/-- The text of a limit overrides a setting with the limit, unless it is zero. -/
theorem overrideLimit_text {limit : Option UInt64} (h : limit ≠ some 0) (name : String) :
    overrideLimit name (Setting.stepMillis limit).overrideText = .ok (limit.map (·.toNat)) := by
  cases limit with
  | none => rfl
  | some limit =>
    have hpos : limit.toNat ≠ 0 := fun hzero => h (congrArg some (UInt64.toNat_inj.1 hzero))
    have hread : overrideWord maxWord64 name (Setting.stepMillis (some limit)).overrideText =
        .ok limit.toNat := overrideWord_digits (Nat.le_sub_one_of_lt limit.toNat_lt) name
    rw [overrideLimit, hread, Except.map, if_neg hpos]
    rfl

/-- The text of a setting is not blank. -/
theorem Setting.trim_overrideText (s : Setting) : trim s.overrideText.toList ≠ [] := by
  have hdigits (n : Nat) : trim (String.ofList (digits n)).toList ≠ [] := by
    rw [String.toList_ofList, trim_digits]
    exact digits_ne_nil n
  cases s with
  | scriptMillis limit => exact hdigits limit.toNat
  | defaultIterations count => exact hdigits count.toNat
  | stepMillis limit =>
    cases limit with
    | none => decide
    | some limit => exact hdigits limit.toNat
  | persistsRunLogs persists => cases persists <;> decide

/-- A value in its variable is as good as the value in the configuration, unless it is a step
timeout of zero. -/
theorem override_cons {env : Variables} {s : Setting} (h : override? env s.overrideName = none)
    (hs : s ≠ .stepMillis (some 0)) (c : Config) :
    override ((s.overrideName, s.overrideText) :: env) c = override env (s.put c) := by
  have hblank := s.trim_overrideText
  have hscript : overridden ((s.overrideName, s.overrideText) :: env) "STEPWISE_SCRIPT_TIMEOUT_MS"
      (overrideWord maxWord64) c.scriptMillis = overridden env "STEPWISE_SCRIPT_TIMEOUT_MS"
      (overrideWord maxWord64) (s.put c).scriptMillis := by
    cases s with
    | scriptMillis limit =>
      have hle : limit.toNat ≤ maxWord64 := Nat.le_sub_one_of_lt limit.toNat_lt
      exact overridden_cons_self hblank (overrideWord_digits hle _) h
    | _ => exact overridden_cons_ne (by simp [Setting.overrideName])
  have hiterations : overridden ((s.overrideName, s.overrideText) :: env)
      "STEPWISE_DEFAULT_MAX_ITERATIONS" (overrideWord maxWord32) c.defaultIterations =
      overridden env "STEPWISE_DEFAULT_MAX_ITERATIONS" (overrideWord maxWord32)
      (s.put c).defaultIterations := by
    cases s with
    | defaultIterations count =>
      have hle : count.toNat ≤ maxWord32 := Nat.le_sub_one_of_lt count.toNat_lt
      exact overridden_cons_self hblank (overrideWord_digits hle _) h
    | _ => exact overridden_cons_ne (by simp [Setting.overrideName])
  have hstep : overridden ((s.overrideName, s.overrideText) :: env) "STEPWISE_STEP_TIMEOUT_MS"
      overrideLimit c.stepMillis = overridden env "STEPWISE_STEP_TIMEOUT_MS" overrideLimit
      (s.put c).stepMillis := by
    cases s with
    | stepMillis limit =>
      have hne : limit ≠ some 0 := fun hzero => hs (congrArg Setting.stepMillis hzero)
      exact overridden_cons_self hblank (overrideLimit_text hne _) h
    | _ => exact overridden_cons_ne (by simp [Setting.overrideName])
  have hpersists : overridden ((s.overrideName, s.overrideText) :: env) "STEPWISE_PERSIST_RUN_LOGS"
      overrideBool c.persistsRunLogs = overridden env "STEPWISE_PERSIST_RUN_LOGS" overrideBool
      (s.put c).persistsRunLogs := by
    cases s with
    | persistsRunLogs persists =>
      have hread : overrideBool "STEPWISE_PERSIST_RUN_LOGS"
          (Setting.persistsRunLogs persists).overrideText = .ok persists := by
        cases persists <;> rfl
      exact overridden_cons_self hblank hread h
    | _ => exact overridden_cons_ne (by simp [Setting.overrideName])
  rw [override_eq, override_eq, hscript, hiterations, hstep, hpersists]
  cases s <;> rfl

/-! ## Files -/

/-- The names of all settings in a file. -/
def fields : List String :=
  ["script_timeout_ms", "script_limits", "default_max_iterations", "max_iterations_ceiling",
    "loop_separator", "step_timeout_ms", "max_delay_ms", "persist_run_logs"]

section
variable {entries changed : List (String × Tree)} {c : Config}

/-- The entries of a file are those of a configuration: no setting is there twice, and those that
are there have their values. -/
structure Reads (entries : List (String × Tree)) (c : Config) : Prop where
  once : Once fields entries
  scriptMillis : HoldsD entries "script_timeout_ms" Tree.asWord64 1000 c.scriptMillis
  scriptLimits : HoldsD entries "script_limits" Script.Limits.ofTree {} c.scriptLimits
  defaultIterations : HoldsD entries "default_max_iterations" Tree.asWord32 200 c.defaultIterations
  iterationCeiling : HoldsD entries "max_iterations_ceiling" Tree.asWord32 1000 c.iterationCeiling
  loopSeparator : HoldsD entries "loop_separator" Tree.asString "," c.loopSeparator
  stepMillis :
    HoldsD entries "step_timeout_ms" (Tree.asOption Tree.asWord64) (some 60000) c.stepMillis
  maxDelayMillis : HoldsD entries "max_delay_ms" Tree.asWord64 60000 c.maxDelayMillis
  persistsRunLogs : HoldsD entries "persist_run_logs" Tree.asBool false c.persistsRunLogs

/-- A configuration is read field by field. -/
theorem ofTree_eq_ok_iff : ofTree (.mapping entries) = .ok c ↔ Reads entries c := by
  rw [ofTree, record_bind_eq_ok_iff_once (by decide)]
  · simp only [bind_eq_ok_iff, getD_eq_ok_iff, pure_eq_ok_iff]
    constructor
    · rintro ⟨honce, script, hscript, limits, hlimits, iterations, hiterations, ceiling, hceiling,
        separator, hseparator, step, hstep, delay, hdelay, persists, hpersists, rfl⟩
      exact ⟨honce, hscript, hlimits, hiterations, hceiling, hseparator, hstep, hdelay, hpersists⟩
    · intro h
      exact ⟨h.once, _, h.scriptMillis, _, h.scriptLimits, _, h.defaultIterations, _,
        h.iterationCeiling, _, h.loopSeparator, _, h.stepMillis, _, h.maxDelayMillis, _,
        h.persistsRunLogs, rfl⟩
  · intro r hr
    have hfields : ∀ name ∈ fields, r.lookup name = entries.lookup name := hr
    simp only [Record.getD, hfields "script_timeout_ms" (by decide),
      hfields "script_limits" (by decide), hfields "default_max_iterations" (by decide),
      hfields "max_iterations_ceiling" (by decide), hfields "loop_separator" (by decide),
      hfields "step_timeout_ms" (by decide), hfields "max_delay_ms" (by decide),
      hfields "persist_run_logs" (by decide)]
  · simp only [bind_eq_ok_iff, getD_eq_ok_iff]
    rintro ⟨script, hscript, limits, hlimits, iterations, hiterations, ceiling, hceiling,
      separator, hseparator, step, hstep, delay, hdelay, persists, hpersists, -⟩
    exact .optional hscript (.optional hlimits (.optional hiterations (.optional hceiling
      (.optional hseparator (.optional hstep (.optional hdelay (.optional hpersists .nil)))))))

/-- The entries of a file; one that is not there and an empty one have none. -/
def fileEntries? : Option String → Option (List (String × Tree))
  | none => some []
  | some text =>
    match Yaml.readTree? text with
    | some (.mapping entries) => some entries
    | some (.plain "") => some []
    | _ => none

/-- The names and texts of entries that are all plain scalars. -/
def plainTexts? : List (String × Tree) → Option (List (String × String))
  | [] => some []
  | (name, .plain text) :: rest => (plainTexts? rest).map ((name, text) :: ·)
  | _ => none

/-- Entries with texts without quotes only are what these texts make. -/
theorem eq_of_plainTexts? {texts : List (String × String)} (h : plainTexts? entries = some texts) :
    entries = texts.map fun e => (e.1, .plain e.2) := by
  induction entries generalizing texts with
  | nil =>
    cases h
    rfl
  | cons entry rest ih =>
    obtain ⟨name, t⟩ := entry
    cases t <;> try cases h
    obtain ⟨texts', htexts, rfl⟩ := Option.map_eq_some_iff.1 h
    rw [ih htexts, List.map_cons]

/-- What a file holds, read off the texts of its entries. -/
theorem fileEntries?_of_plain {file : Option String} (texts : List (String × String))
    (h : (fileEntries? file).bind plainTexts? = some texts) :
    fileEntries? file = some (texts.map fun e => (e.1, .plain e.2)) := by
  obtain ⟨entries, hentries, htexts⟩ := Option.bind_eq_some_iff.1 h
  rw [hentries, eq_of_plainTexts? htexts]

/-- Loading settles what the entries of the file are read as. -/
theorem load_eq {env : Variables} {path : String} {file : Option String}
    (hfile : fileEntries? file = some entries) :
    load env path file =
      match ofTree (.mapping entries) with
      | .ok c => settle env c
      | .error _ => .error (.unreadable path) := by
  cases file with
  | none =>
    cases hfile
    rfl
  | some text =>
    have htree : ∃ t, Yaml.readTree? text = some t ∧ ofTree t = ofTree (.mapping entries) := by
      unfold fileEntries? at hfile
      dsimp only at hfile
      split at hfile
      · next hread =>
        cases hfile
        exact ⟨_, hread, rfl⟩
      · next hread =>
        cases hfile
        exact ⟨_, hread, rfl⟩
      · cases hfile
    obtain ⟨t, hread, hsame⟩ := htree
    rw [load, ofFile, hread, Option.map_some, hsame]
    cases ofTree (.mapping entries) <;> rfl

/-! ## Settings in files -/

namespace Setting

/-- What a file says about the setting is the value, which is the default where it says nothing. -/
def Holds (entries : List (String × Tree)) : Setting → Prop
  | scriptMillis limit => HoldsD entries "script_timeout_ms" Tree.asWord64 1000 limit.toNat
  | defaultIterations count =>
    HoldsD entries "default_max_iterations" Tree.asWord32 200 count.toNat
  | stepMillis limit =>
    HoldsD entries "step_timeout_ms" (Tree.asOption Tree.asWord64) (some 60000)
      (limit.map (·.toNat))
  | persistsRunLogs persists => HoldsD entries "persist_run_logs" Tree.asBool false persists

/-- The file gives the setting the value, and gives it no more than once. -/
structure HeldBy (s : Setting) (entries : List (String × Tree)) : Prop where
  once : (named s.field entries).length ≤ 1
  holds : s.Holds entries

/-- A setting that is written once has the value that is written. -/
theorem heldBy_of_named {s : Setting}
    (h : named s.field entries = [(s.field, .plain s.fileText)]) : s.HeldBy entries := by
  have hlookup : entries.lookup s.field = some (.plain s.fileText) := by
    rw [lookup_eq_named, h]
    rfl
  refine ⟨by rw [h]; exact Nat.le_refl 1, ?_⟩
  have hwritten {α : Type} {decode : Tree → Except DecodeFault α} {absent a : α}
      (hdecode : decode (.plain s.fileText) = .ok a) : HoldsD entries s.field decode absent a := by
    rw [HoldsD, hlookup]
    exact hdecode
  cases s with
  | scriptMillis limit =>
    exact hwritten (Tree.asWord_digits (Nat.le_sub_one_of_lt limit.toNat_lt) _)
  | defaultIterations count =>
    exact hwritten (Tree.asWord_digits (Nat.le_sub_one_of_lt count.toNat_lt) _)
  | stepMillis limit =>
    cases limit with
    | none => exact hwritten rfl
    | some limit =>
      have hword : Tree.asWord64 (.plain (String.ofList (digits limit.toNat))) = .ok limit.toNat :=
        Tree.asWord_digits (Nat.le_sub_one_of_lt limit.toNat_lt) _
      refine hwritten ?_
      rw [fileText, Tree.asOption, Plain.isNull_digits, if_neg (by decide), hword]
      rfl
  | persistsRunLogs persists => cases persists <;> exact hwritten rfl

end Setting

/-- A change of a setting in a file changes it in the configuration. -/
theorem Reads.put {s : Setting} (h : Reads entries c) (hs : s.HeldBy changed)
    (hothers : ∀ name ≠ s.field, named name changed = named name entries) :
    Reads changed (s.put c) := by
  have hkeep {α : Type} {name : String} {decode : Tree → Except DecodeFault α} {absent a : α}
      (hne : name ≠ s.field) (h : HoldsD entries name decode absent a) :
      HoldsD changed name decode absent a := by
    rwa [HoldsD, lookup_eq_named, hothers name hne, ← lookup_eq_named]
  constructor
  case once =>
    intro name hname
    by_cases hfield : name = s.field
    · rw [hfield]
      exact hs.once
    · rw [hothers name hfield]
      exact h.once name hname
  case scriptMillis =>
    cases s with
    | scriptMillis => exact hs.holds
    | _ => exact hkeep (by simp [Setting.field]) h.scriptMillis
  case defaultIterations =>
    cases s with
    | defaultIterations => exact hs.holds
    | _ => exact hkeep (by simp [Setting.field]) h.defaultIterations
  case stepMillis =>
    cases s with
    | stepMillis => exact hs.holds
    | _ => exact hkeep (by simp [Setting.field]) h.stepMillis
  case persistsRunLogs =>
    cases s with
    | persistsRunLogs => exact hs.holds
    | _ => exact hkeep (by simp [Setting.field]) h.persistsRunLogs
  case scriptLimits => cases s <;> exact hkeep (by simp [Setting.field]) h.scriptLimits
  case iterationCeiling => cases s <;> exact hkeep (by simp [Setting.field]) h.iterationCeiling
  case loopSeparator => cases s <;> exact hkeep (by simp [Setting.field]) h.loopSeparator
  case maxDelayMillis => cases s <;> exact hkeep (by simp [Setting.field]) h.maxDelayMillis

/-- Two files that differ in one setting only, which has some value of its own in the first: with
the second file alone and with the first file and a variable for the value in the second, there is
the same configuration or the same fault, unless the value is a step timeout of zero. -/
theorem load_override {env : Variables} {path : String} {base written : Option String}
    {s before : Setting} (hbase : fileEntries? base = some entries)
    (hwritten : fileEntries? written = some changed) (hfield : before.field = s.field)
    (hbefore : before.HeldBy entries) (hs : s.HeldBy changed)
    (hothers : ∀ name ≠ s.field, named name changed = named name entries)
    (hunset : override? env s.overrideName = none) (hne : s ≠ .stepMillis (some 0)) :
    load env path written = load ((s.overrideName, s.overrideText) :: env) path base := by
  rw [load_eq hbase, load_eq hwritten]
  cases hread : ofTree (.mapping entries) with
  | ok c =>
    have hput := ofTree_eq_ok_iff.2 ((ofTree_eq_ok_iff.1 hread).put hs hothers)
    rw [hput]
    dsimp only
    rw [settle, settle, override_cons hunset hne]
  | error fault =>
    -- What the second file is read as can be changed back to the first.
    cases hread' : ofTree (.mapping changed) with
    | error fault' => rfl
    | ok c =>
      have hback := (ofTree_eq_ok_iff.1 hread').put hbefore
        fun name hname => (hothers name (hfield ▸ hname)).symm
      rw [ofTree_eq_ok_iff.2 hback] at hread
      cases hread

end

/-- No step timeout: null in the file, zero in the variable. -/
theorem load_override_null :
    let s : Setting := .stepMillis none
    let base := "loop_separator: ;\n"
    let written := "step_timeout_ms: null\nloop_separator: ;\n"
    fileEntries? (some base) = some [("loop_separator", .plain ";")] ∧
      fileEntries? (some written) =
        some [(s.field, .plain s.fileText), ("loop_separator", .plain ";")] ∧
      override? [] s.overrideName = none ∧ s ≠ .stepMillis (some 0) ∧
      load [] "engine.yaml" (some written) =
        load [(s.overrideName, "0")] "engine.yaml" (some base) := by
  intro s base written
  have hbase : fileEntries? (some base) = some [("loop_separator", .plain ";")] :=
    fileEntries?_of_plain [("loop_separator", ";")] (by decide +kernel)
  have hwritten : fileEntries? (some written) =
      some [(s.field, .plain s.fileText), ("loop_separator", .plain ";")] :=
    fileEntries?_of_plain [("step_timeout_ms", "null"), ("loop_separator", ";")] (by decide +kernel)
  have hbefore : (Setting.stepMillis (some 60000)).HeldBy [("loop_separator", .plain ";")] :=
    ⟨by decide, rfl⟩
  have hs : s.HeldBy [(s.field, .plain s.fileText), ("loop_separator", .plain ";")] :=
    s.heldBy_of_named rfl
  have hothers : ∀ name ≠ s.field,
      named name [(s.field, .plain s.fileText), ("loop_separator", .plain ";")] =
        named name [("loop_separator", .plain ";")] :=
    fun name hname => List.filter_cons_of_neg (by simpa using Ne.symm hname)
  have hfield : (Setting.stepMillis (some 60000)).field = s.field := rfl
  have hne : s ≠ .stepMillis (some 0) := by decide
  exact ⟨hbase, hwritten, rfl, hne,
    load_override hbase hwritten hfield hbefore hs hothers rfl hne⟩

/-- A step timeout of zero is one in the file, and none in the variable. -/
theorem load_override_zero :
    let s : Setting := .stepMillis (some 0)
    let written := "step_timeout_ms: 0\n"
    fileEntries? none = some [] ∧
      fileEntries? (some written) = some [(s.field, .plain s.fileText)] ∧
      (load [] "engine.yaml" (some written)).toOption.map (·.stepMillis) = some (some 0) ∧
      (load [(s.overrideName, s.overrideText)] "engine.yaml" none).toOption.map (·.stepMillis) =
        some none := by
  intro s written
  have htext : s.fileText = "0" :=
    congrArg String.ofList (digits_of_lt (by decide : 0 < 10))
  have hfile : fileEntries? (some written) = some [("step_timeout_ms", .plain "0")] :=
    fileEntries?_of_plain [("step_timeout_ms", "0")] (by decide +kernel)
  refine ⟨rfl, by rw [htext]; exact hfile, by decide +kernel, ?_⟩
  have hvariable : s.overrideText = "0" := htext
  rw [hvariable]
  decide +kernel

end Config

end Automation
