import Automation.Proofs.Run.Outcome

/-!
# The quota over many runs

Runs are called one after the other, for any tenants and definitions. A run that is admitted is
counted once for its tenant, and no other run is counted at all (`Runner.answer_quota`). So,
starting from a quota that has counted nothing, what is counted for a tenant after any number of
calls is how many of its runs have been admitted (`Runner.Metered`); that is never more than its
limit, and the next one is rejected exactly when it has reached the limit (`Runner.quota_metered`).
A count ends at the largest word, which only a tenant without a limit could reach.
-/

namespace Automation

open Text

namespace Runner

/-! ## Calls -/

/-- What a run is called with. -/
structure Call where
  definition : Definition
  payload : Json
  tenant : Tenant

variable (r : Runner)

/-- What a call comes to, and the services afterwards. -/
def answer (call : Call) (s : Services) : Finished :=
  r.execute call.definition call.payload call.tenant s

/-- The services after some calls, one after the other. -/
def afterCalls (calls : List Call) (s : Services) : Services :=
  calls.foldl (fun s call => (r.answer call s).2) s

/-- A call is admitted. -/
def Call.IsAdmitted (call : Call) (s : Services) : Prop :=
  r.Admits call.definition call.payload call.tenant s

/-- A run is admitted if its owner, its payload, the quota and its definition allow it. -/
theorem admits_iff {d : Definition} {payload : Json} {tenant : Tenant} {s : Services} :
    r.Admits d payload tenant s ↔ d.tenant = tenant ∧ (payload? payload).isSome = true ∧
      quotaObjection? tenant s.freshRunId.2 = none ∧ (d.check r.registry).isOk = true := by
  constructor
  · rintro ⟨howner, hpayload, hquota, warnings, hd⟩
    exact ⟨howner, hpayload, quotaObjection?_eq_none_iff.2 hquota, by rw [hd]; rfl⟩
  · rintro ⟨howner, hpayload, hquota, hd⟩
    refine ⟨howner, hpayload, quotaObjection?_eq_none_iff.1 hquota, ?_⟩
    cases h : d.check r.registry with
    | ok warnings => exact ⟨warnings, rfl⟩
    | error fault => rw [h] at hd; cases hd

instance (call : Call) (s : Services) : Decidable (call.IsAdmitted r s) :=
  decidable_of_iff' _ r.admits_iff

/-- How many of some calls, one after the other, are admitted for a tenant. -/
def admissions (t : Tenant) : List Call → Services → Nat
  | [], _ => 0
  | call :: rest, s =>
    (if call.tenant = t ∧ call.IsAdmitted r s then 1 else 0) +
      admissions t rest (r.answer call s).2

/-- A run is rejected because its tenant has no runs left. -/
def RejectedForQuota (tenant : Tenant) (answer : Except RunFault RunResult) : Prop :=
  ∃ run, answer = .ok run ∧ run.tenant = tenant ∧ run.status = .failed ∧ run.steps = [] ∧
    run.error = some (quotaReason tenant)

/-- There are no more admissions than calls. -/
theorem admissions_le_length (t : Tenant) (calls : List Call) (s : Services) :
    r.admissions t calls s ≤ calls.length := by
  induction calls generalizing s with
  | nil => exact Nat.le_refl 0
  | cons call rest ih =>
    rw [admissions, List.length_cons]
    have hrest := ih (r.answer call s).2
    split <;> omega

/-! ## One call -/

section
variable {r} {call : Call} {s : Services}

/-- The runs that were admitted are those that end with success or stopped. -/
theorem isAdmitted_iff : call.IsAdmitted r s ↔ ∃ run, (r.answer call s).1 = .ok run ∧
    (run.status = .success ∨ run.status = .stopped) := by
  constructor
  · intro h
    obtain ⟨run, σ, hrun⟩ := Admits.completed h
    exact ⟨run, congrArg Prod.fst hrun.execute, hrun.ending⟩
  · rintro ⟨run, hrun, hending⟩
    refine Decidable.byContradiction fun h => ?_
    rcases r.execute_of_not_admits h with ⟨payload, fault, heq⟩ | ⟨payload, reason, heq⟩
    · rw [answer, heq] at hrun
      cases hrun
    · rw [answer, heq, reject_eq] at hrun
      cases hrun
      simp at hending

/-- A call that is not admitted leaves the quota alone. -/
theorem answer_sameGates (h : ¬ call.IsAdmitted r s) : s.SameGates (r.answer call s).2 := by
  rcases r.execute_of_not_admits h with ⟨payload, fault, heq⟩ | ⟨payload, reason, heq⟩
  · rw [answer, heq]
    exact s.freshRunId_sameGates
  · rw [answer, heq, reject_eq]
    exact s.freshRunId_sameGates.trans (Services.publish_sameGates _ _)

/-- A call that is admitted is counted. -/
theorem answer_counted (h : call.IsAdmitted r s) (hserved : s.quotaOutages = []) :
    (r.answer call s).2.quota = s.quota.record call.tenant 1 ∧
      (r.answer call s).2.quotaOutages = [] := by
  obtain ⟨run, σ, hrun⟩ := Admits.completed h
  have hgates := hrun.sameGates
  have hquota := r.finish_quota run (hgates.quotaOutages.trans hserved)
  rw [hgates.quota, hrun.tenant] at hquota
  rw [answer, hrun.execute]
  exact hquota

/-- What a call does to the quota: it counts the run if that is admitted. -/
theorem answer_quota (call : Call) (hserved : s.quotaOutages = []) :
    (r.answer call s).2.quota =
        (if call.IsAdmitted r s then s.quota.record call.tenant 1 else s.quota) ∧
      (r.answer call s).2.quotaOutages = [] := by
  by_cases h : call.IsAdmitted r s
  · rw [if_pos h]
    exact answer_counted h hserved
  · rw [if_neg h]
    have hgates := answer_sameGates h
    exact ⟨hgates.quota, hgates.quotaOutages.trans hserved⟩

/-- The quota answers what it allows while it is in service. -/
theorem checkQuota_of_served (t : Tenant) (hserved : s.quotaOutages = []) :
    s.checkQuota t = .ok (s.quota.allows t) := by
  rw [Services.checkQuota, hserved]
  rfl

/-- The quota allows a run if the usage is below the limit, should there be one. -/
theorem allows_iff {q : Quota} {t : Tenant} :
    q.allows t = true ↔ ∀ limit, q.limit? t = some limit → q.usage t < limit := by
  unfold Quota.allows
  cases q.limit? t <;> simp

/-- A call is rejected for its quota exactly if the quota does not allow it, provided that the
tenant owns the definition and the payload is an object or null. -/
theorem rejectedForQuota_iff (howner : call.definition.tenant = call.tenant)
    (hpayload : (payload? call.payload).isSome) (hserved : s.quotaOutages = []) :
    RejectedForQuota call.tenant (r.answer call s).1 ↔ s.quota.allows call.tenant = false := by
  obtain ⟨trigger, hp⟩ := Option.isSome_iff_exists.1 hpayload
  have hcheck := checkQuota_of_served call.tenant hserved
  cases hallows : s.quota.allows call.tenant with
  | false =>
    rw [hallows] at hcheck
    have hcheck' : s.freshRunId.2.checkQuota call.tenant = .ok false := hcheck
    have hreason : quotaObjection? call.tenant s.freshRunId.2 = some (quotaReason call.tenant) := by
      rw [quotaObjection?, hcheck']
    rw [answer, r.execute_quota howner hp hreason, reject_eq]
    exact iff_of_true ⟨_, rfl, rfl, rfl, rfl, rfl⟩ rfl
  | true =>
    rw [hallows] at hcheck
    refine iff_of_false ?_ Bool.noConfusion
    rintro ⟨run, hrun, -, hfailed, -, -⟩
    cases hd : call.definition.check r.registry with
    | error fault =>
      rw [answer, r.execute_invalid howner hp (quotaObjection?_eq_none_iff.2 hcheck) hd] at hrun
      cases hrun
    | ok warnings =>
      obtain ⟨run', σ, hrun'⟩ := Admits.completed ⟨howner, hpayload, hcheck, warnings, hd⟩
      rw [answer, hrun'.execute] at hrun
      cases hrun
      rcases hrun'.ending with hend | hend
      · rw [hend] at hfailed
        cases hfailed
      · rw [hend] at hfailed
        cases hfailed

end

/-! ## Many calls -/

/-- The quota is in service and has the limits of `q`, and it has counted `n` runs of a tenant,
which are not more than the limit of the tenant. -/
structure Metered (q : Quota) (t : Tenant) (n : Nat) (s : Services) : Prop where
  served : s.quotaOutages = []
  limits : ∀ u, s.quota.limit? u = q.limit? u
  usage : s.quota.usage t = min n maxWord64
  within : ∀ limit, q.limit? t = some limit → n ≤ limit

section
variable {r} {q : Quota} {t : Tenant} {n : Nat} {s : Services}

/-- The next call counts once if it is admitted for the tenant, and not at all otherwise. -/
theorem Metered.answer (h : Metered q t n s)
    (hword : ∀ limit, q.limit? t = some limit → limit ≤ maxWord64) (call : Call) :
    Metered q t (n + if call.tenant = t ∧ call.IsAdmitted r s then 1 else 0)
      (r.answer call s).2 := by
  obtain ⟨hquota, hserved⟩ := answer_quota (r := r) call h.served
  by_cases hadmitted : call.IsAdmitted r s
  · rw [if_pos hadmitted] at hquota
    by_cases htenant : call.tenant = t
    · have hallows := hadmitted.quota
      rw [checkQuota_of_served _ h.served, Except.ok.injEq, allows_iff, htenant] at hallows
      rw [if_pos ⟨htenant, hadmitted⟩]
      refine ⟨hserved, ?_, ?_, fun limit hlimit => ?_⟩
      · rw [hquota]
        exact h.limits
      · rw [hquota, htenant, Quota.usage_record_self, h.usage]
        omega
      · have hless := hallows limit ((h.limits t).trans hlimit)
        have hle := hword limit hlimit
        rw [h.usage] at hless
        omega
    · rw [if_neg fun hboth => htenant hboth.1]
      refine ⟨hserved, ?_, ?_, h.within⟩
      · rw [hquota]
        exact h.limits
      · rw [hquota, Quota.usage_record_other _ _ (Ne.symm htenant)]
        exact h.usage
  · rw [if_neg hadmitted] at hquota
    rw [if_neg fun hboth => hadmitted hboth.2]
    refine ⟨hserved, ?_, ?_, h.within⟩
    · rw [hquota]
      exact h.limits
    · rw [hquota]
      exact h.usage

/-- After some calls those among them that were admitted for the tenant have been counted. -/
theorem Metered.calls (h : Metered q t n s)
    (hword : ∀ limit, q.limit? t = some limit → limit ≤ maxWord64) (calls : List Call) :
    Metered q t (n + r.admissions t calls s) (r.afterCalls calls s) := by
  induction calls generalizing n s with
  | nil => exact h
  | cons call rest ih =>
    rw [admissions, ← Nat.add_assoc]
    exact ih (h.answer hword call)

/-- The quota has the limit of the tenant as its count exactly if it does not allow it more runs. -/
theorem Metered.allows_iff (h : Metered q t n s)
    (hword : ∀ limit, q.limit? t = some limit → limit ≤ maxWord64) :
    s.quota.allows t = false ↔ q.limit? t = some n := by
  rw [← Bool.not_eq_true, Runner.allows_iff, h.limits, h.usage]
  cases hlimit : q.limit? t with
  | none => simp
  | some limit =>
    have hle := hword limit hlimit
    have hwithin := h.within limit hlimit
    simp only [Option.some.injEq, forall_eq']
    omega

end

/-- Null and objects are payloads. -/
theorem isSome_payload? {payload : Json}
    (h : payload = .null ∨ ∃ fields, payload = .object fields) : (payload? payload).isSome := by
  rcases h with rfl | ⟨fields, rfl⟩
  · rfl
  · rfl

/-- Runs are counted exactly, from a quota in service that has counted nothing and whose limits are
words. After any calls what is counted for a tenant is the number of its runs that were admitted, up
to the largest word; for a tenant with a limit that is the number itself, and it is not above the
limit. The next call of a tenant for a definition of its own, with an object or null as its payload,
is rejected for the quota exactly if as many runs of the tenant have been admitted as its limit
says. It counts for no other tenant, and for none if it is not admitted. -/
theorem quota_metered (calls : List Call) (s : Services) (hfresh : s.quota.counts = .empty)
    (hserved : s.quotaOutages = [])
    (hword : ∀ t limit, s.quota.limit? t = some limit → limit ≤ maxWord64) :
    let s' := r.afterCalls calls s
    (∀ t, s'.quota.usage t = min (r.admissions t calls s) maxWord64) ∧
    (calls.length ≤ maxWord64 → ∀ t, s'.quota.usage t = r.admissions t calls s) ∧
    (∀ t limit, s.quota.limit? t = some limit →
      s'.quota.usage t = r.admissions t calls s ∧ s'.quota.usage t ≤ limit) ∧
    (∀ call : Call, call.definition.tenant = call.tenant →
      (call.payload = .null ∨ ∃ fields, call.payload = .object fields) →
      (RejectedForQuota call.tenant (r.answer call s').1 ↔
        s.quota.limit? call.tenant = some (r.admissions call.tenant calls s))) ∧
    ∀ call : Call,
      (∀ t, t ≠ call.tenant → (r.answer call s').2.quota.usage t = s'.quota.usage t) ∧
      (¬ call.IsAdmitted r s' → (r.answer call s').2.quota = s'.quota) := by
  intro s'
  have hmetered (t : Tenant) : Metered s.quota t (r.admissions t calls s) s' := by
    have hnone : s.quota.usage t = 0 := by
      rw [Quota.usage, hfresh]
      rfl
    have hstart : Metered s.quota t 0 s :=
      ⟨hserved, fun _ => rfl, by simp [hnone], fun limit _ => Nat.zero_le limit⟩
    have hend := hstart.calls (r := r) (hword t) calls
    rwa [Nat.zero_add] at hend
  refine ⟨fun t => (hmetered t).usage, fun hlength t => ?_, fun t limit hlimit => ?_,
    fun call howner hpayload => ?_, fun call => ⟨fun t ht => ?_, fun h => ?_⟩⟩
  · rw [(hmetered t).usage]
    exact Nat.min_eq_left (Nat.le_trans (r.admissions_le_length t calls s) hlength)
  · have hwithin := (hmetered t).within limit hlimit
    have hcount : s'.quota.usage t = r.admissions t calls s := by
      rw [(hmetered t).usage]
      exact Nat.min_eq_left (Nat.le_trans hwithin (hword t limit hlimit))
    exact ⟨hcount, hcount ▸ hwithin⟩
  · rw [rejectedForQuota_iff howner (isSome_payload? hpayload) (hmetered call.tenant).served]
    exact (hmetered call.tenant).allows_iff (hword call.tenant)
  · rw [(answer_quota call (hmetered t).served).1]
    split
    · exact Quota.usage_record_other _ _ ht
    · rfl
  · exact (answer_sameGates h).quota

/-- Of two calls of a tenant that may have one run the first is admitted and the second is rejected;
a tenant without a limit still has its run then. -/
theorem quota_metered_one :
    let call (name : String) : Call :=
      ⟨{ id := "a", tenant := ⟨name⟩, trigger := { event := .cron } }, .null, ⟨name⟩⟩
    let r : Runner := {}
    let s : Services := { clock := default, quota := { limits := [(⟨"t"⟩, 1)] } }
    s.quota.counts = .empty ∧ s.quotaOutages = [] ∧
      (∀ t limit, s.quota.limit? t = some limit → limit ≤ maxWord64) ∧
      RejectedForQuota ⟨"t"⟩ (r.answer (call "t") (r.afterCalls [call "t"] s)).1 ∧
      ¬ RejectedForQuota ⟨"u"⟩ (r.answer (call "u") (r.afterCalls [call "t"] s)).1 ∧
      (r.afterCalls [call "t"] s).quota.usage ⟨"t"⟩ = 1 := by
  intro call r s
  have hword : ∀ t limit, s.quota.limit? t = some limit → limit ≤ maxWord64 := by
    intro t limit hlimit
    by_cases ht : t = ⟨"t"⟩
    · subst ht
      obtain rfl : 1 = limit := Option.some.inj hlimit
      decide
    · have hnone : s.quota.limit? t = none := by
        simp [s, Quota.limit?, List.lookup_cons, beq_eq_false_iff_ne.2 ht]
      rw [hnone] at hlimit
      cases hlimit
  obtain ⟨-, -, hlimited, hrejected, -⟩ := r.quota_metered [call "t"] s rfl rfl hword
  have hcount : r.admissions ⟨"t"⟩ [call "t"] s = 1 := by decide +kernel
  refine ⟨rfl, rfl, hword, ?_, ?_, ?_⟩
  · rw [hrejected (call "t") rfl (.inl rfl)]
    decide +kernel
  · rw [hrejected (call "u") rfl (.inl rfl)]
    decide +kernel
  · rw [(hlimited ⟨"t"⟩ 1 rfl).1, hcount]

end Runner

end Automation
