import Automation.Proofs.Run.Usage

/-!
# The quota over runs that overlap

A run asks the quota before it starts and is counted when it is over. Between these two requests
other runs of the tenant may make theirs, and the quota does not know of the runs that are under
way. `Runner.Overlapping` lets any number of runs of a tenant make their requests in any order. Each
of the runs that are under way while another one is admitted may be admitted beyond the limit, and
no more than these (`Runner.admitted_le`); they all may be (`Runner.exists_overlapping`).
-/

namespace Automation

open Text

namespace Runner

/-! ## Requests to the quota -/

/-- How far a run is: it has not asked the quota yet, it has been allowed to start and has not been
counted yet, it has been counted, or it has not been allowed to start. -/
inductive RunStage where
  | waiting
  | underWay
  | counted
  | refused
  deriving DecidableEq, Repr

/-- How far the runs of a tenant are, and the services. -/
structure Runs where
  stages : List RunStage
  services : Services

/-- How many runs are under way. -/
def Runs.underWay (u : Runs) : Nat :=
  u.stages.count .underWay

/-- How many runs have been allowed to start. -/
def Runs.admitted (u : Runs) : Nat :=
  u.stages.count .underWay + u.stages.count .counted

/-- The limit of a tenant and what has been counted for it are the same, and so are the kinds of
requests that are out of service. -/
structure SameCount (t : Tenant) (s s' : Services) : Prop where
  limit : s'.quota.limit? t = s.quota.limit? t
  usage : s'.quota.usage t = s.quota.usage t
  outages : s'.quotaOutages = s.quotaOutages

/-- Runs of a tenant have made some requests to the quota, in any order, and whatever else has gone
on has counted no run of the tenant. `most` is the largest number of runs that were under way when
another one was admitted. -/
inductive Overlapping (t : Tenant) (start : Runs) : Nat → Runs → Prop
  | start : Overlapping t start 0 start
  | allow {most : Nat} {u : Runs} (i : Nat) (h : Overlapping t start most u)
      (hi : u.stages[i]? = some .waiting) (hquota : u.services.checkQuota t = .ok true) :
      Overlapping t start (max most u.underWay) ⟨u.stages.set i .underWay, u.services⟩
  | refuse {most : Nat} {u : Runs} (i : Nat) (h : Overlapping t start most u)
      (hi : u.stages[i]? = some .waiting) (hquota : u.services.checkQuota t ≠ .ok true) :
      Overlapping t start most ⟨u.stages.set i .refused, u.services⟩
  | count {most : Nat} {u : Runs} (i : Nat) (h : Overlapping t start most u)
      (hi : u.stages[i]? = some .underWay) :
      Overlapping t start most ⟨u.stages.set i .counted, u.services.countRun t⟩
  | elsewhere {most : Nat} {u : Runs} {s : Services} (h : Overlapping t start most u)
      (hsame : SameCount t u.services s) : Overlapping t start most ⟨u.stages, s⟩

section
variable {r : Runner} {t : Tenant} {start u : Runs} {most i : Nat} {call : Call}

/-- A run from its start to its end with no other request to the quota in between. -/
theorem Overlapping.answer (h : Overlapping t start most u) (hi : u.stages[i]? = some .waiting)
    (hserved : u.services.quotaOutages = []) (htenant : call.tenant = t)
    (hadmitted : call.IsAdmitted r u.services) :
    Overlapping t start (max most u.underWay)
      ⟨u.stages.set i .counted, (r.answer call u.services).2⟩ := by
  obtain ⟨hquota, houtages⟩ := answer_counted hadmitted hserved
  have hcount := Services.countRun_of_served t hserved
  have hcheck : u.services.checkQuota t = .ok true := htenant ▸ hadmitted.quota
  have hless : i < u.stages.length := (List.getElem?_eq_some_iff.1 hi).1
  have hover := (h.allow i hi hcheck).count i (List.getElem?_set_self hless)
  rw [List.set_set] at hover
  refine hover.elsewhere ⟨?_, ?_, ?_⟩
  · rw [hquota, hcount, htenant]
  · rw [hquota, hcount, htenant]
  · rw [houtages, hcount, hserved]

/-! ## The number of runs -/

/-- A stage that is put in place of another one counts in its place. -/
theorem count_set_of_getElem? {stages : List RunStage} {old : RunStage} (new stage : RunStage)
    (hi : stages[i]? = some old) :
    (stages.set i new).count stage + (if old = stage then 1 else 0) =
      stages.count stage + if new = stage then 1 else 0 := by
  obtain ⟨hless, hget⟩ := List.getElem?_eq_some_iff.1 hi
  have hfound : (if old = stage then 1 else 0) ≤ stages.count stage := by
    split
    · next heq => exact List.one_le_count_iff.2 (heq ▸ List.mem_of_getElem? hi)
    · exact Nat.zero_le _
  rw [List.count_set hless, hget]
  simp only [beq_iff_eq]
  omega

/-- What is known of a quota with a limit of `n` that had counted `k` runs at first: it counts each
run, at least until it reaches the limit, and the runs beyond the limit are not more than those that
were under way when another one was admitted. -/
structure Bounded (t : Tenant) (n k most : Nat) (u : Runs) : Prop where
  served : u.services.quotaOutages = []
  limit : u.services.quota.limit? t = some n
  usage : k + u.stages.count .counted ≤ u.services.quota.usage t ∨
    n ≤ u.services.quota.usage t
  admitted : u.admitted ≤ n - k + most

variable {n k : Nat}

/-- A run that is let in before the limit is reached is one more under way, at most. -/
theorem Bounded.allow (h : Bounded t n k most u) (hi : u.stages[i]? = some .waiting)
    (hquota : u.services.checkQuota t = .ok true) :
    Bounded t n k (max most u.underWay) ⟨u.stages.set i .underWay, u.services⟩ := by
  have hunder := count_set_of_getElem? .underWay .underWay hi
  have hcounted := count_set_of_getElem? .underWay .counted hi
  simp only [reduceCtorEq, ↓reduceIte, Nat.add_zero] at hunder hcounted
  rw [checkQuota_of_served t h.served, Except.ok.injEq, allows_iff] at hquota
  have hless := hquota n h.limit
  have hadmitted := h.admitted
  have husage := h.usage
  refine ⟨h.served, h.limit, ?_, ?_⟩
  · rw [hcounted]
    exact h.usage
  · unfold Runs.admitted Runs.underWay at *
    dsimp only
    omega

/-- A run that is refused does not count. -/
theorem Bounded.refuse (h : Bounded t n k most u) (hi : u.stages[i]? = some .waiting) :
    Bounded t n k most ⟨u.stages.set i .refused, u.services⟩ := by
  have hunder := count_set_of_getElem? .refused .underWay hi
  have hcounted := count_set_of_getElem? .refused .counted hi
  simp only [reduceCtorEq, ↓reduceIte, Nat.add_zero] at hunder hcounted
  have hadmitted := h.admitted
  refine ⟨h.served, h.limit, ?_, ?_⟩
  · rw [hcounted]
    exact h.usage
  · unfold Runs.admitted at *
    rwa [hunder, hcounted]

/-- A run that is counted was under way before, and is not any more. -/
theorem Bounded.count (hword : n ≤ maxWord64) (h : Bounded t n k most u)
    (hi : u.stages[i]? = some .underWay) :
    Bounded t n k most ⟨u.stages.set i .counted, u.services.countRun t⟩ := by
  have hunder := count_set_of_getElem? .counted .underWay hi
  have hcounted := count_set_of_getElem? .counted .counted hi
  simp only [reduceCtorEq, ↓reduceIte, Nat.add_zero] at hunder hcounted
  have hadmitted := h.admitted
  have husage := h.usage
  rw [Services.countRun_of_served t h.served]
  refine ⟨h.served, h.limit, ?_, ?_⟩
  · dsimp only
    rw [Quota.usage_record_self]
    -- A count that stays at the largest word is not below the limit, which is a word.
    generalize maxWord64 = word at hword ⊢
    omega
  · unfold Runs.admitted at *
    dsimp only
    omega

/-- What does not touch the count of the tenant keeps the bound. -/
theorem Bounded.elsewhere {s : Services} (h : Bounded t n k most u)
    (hsame : SameCount t u.services s) : Bounded t n k most ⟨u.stages, s⟩ := by
  refine ⟨hsame.outages.trans h.served, hsame.limit.trans h.limit, ?_, h.admitted⟩
  rw [hsame.usage]
  exact h.usage

/-- Runs that overlap keep the bound, by induction on what they do. -/
theorem Overlapping.bounded (hword : n ≤ maxWord64) (hstart : Bounded t n k 0 start)
    (h : Overlapping t start most u) : Bounded t n k most u := by
  induction h with
  | start => exact hstart
  | allow i _ hi hquota ih => exact ih.allow hi hquota
  | refuse i _ hi _ ih => exact ih.refuse hi
  | count i _ hi ih => exact ih.count hword hi
  | elsewhere _ hsame ih => exact ih.elsewhere hsame

/-- The runs of a tenant that are admitted, in whatever order they make their requests, are not more
than the limit leaves them and the most runs that were under way when another one was admitted. -/
theorem admitted_le {stages : List RunStage} {s : Services} (hserved : s.quotaOutages = [])
    (hlimit : s.quota.limit? t = some n) (hword : n ≤ maxWord64)
    (hstages : ∀ stage ∈ stages, stage = .waiting)
    (hrun : Overlapping t ⟨stages, s⟩ most u) :
    u.admitted ≤ n - s.quota.usage t + most := by
  have hnone (stage : RunStage) (hstage : stage ≠ .waiting) : stages.count stage = 0 :=
    List.count_eq_zero.2 fun hmem => hstage (hstages stage hmem)
  have hunder := hnone .underWay (by decide)
  have hcounted := hnone .counted (by decide)
  have hstart : Bounded t n (s.quota.usage t) 0 ⟨stages, s⟩ := by
    refine ⟨hserved, hlimit, .inl ?_, ?_⟩
    · rw [hcounted]
      exact Nat.le_refl _
    · rw [Runs.admitted, hunder, hcounted]
      exact Nat.zero_le _
  exact (hrun.bounded hword hstart).admitted

/-- Of two runs of a tenant that may have one, the second asks when the first has been counted. -/
theorem admitted_le_serial :
    let s : Services := { clock := default, quota := { common := some 1 } }
    let u : Runs := ⟨[.counted, .refused], s.countRun ⟨"t"⟩⟩
    s.quotaOutages = [] ∧ s.quota.limit? ⟨"t"⟩ = some 1 ∧
      Overlapping ⟨"t"⟩ ⟨[.waiting, .waiting], s⟩ 0 u ∧ u.admitted ≤ 1 := by
  intro s u
  have hquota : (s.countRun ⟨"t"⟩).checkQuota ⟨"t"⟩ ≠ .ok true := by
    have hfalse : (s.countRun ⟨"t"⟩).checkQuota ⟨"t"⟩ = .ok false := rfl
    rw [hfalse]
    exact fun h => by cases h
  have hrun : Overlapping ⟨"t"⟩ ⟨[.waiting, .waiting], s⟩ 0 u :=
    .refuse 1 (.count 0 (.allow 0 .start rfl rfl) rfl) rfl hquota
  have hstages : ∀ stage ∈ [RunStage.waiting, .waiting], stage = .waiting := by decide
  exact ⟨rfl, rfl, hrun, admitted_le rfl rfl (by decide) hstages hrun⟩

/-- Of two runs of a tenant that may have one, both ask before one of them is counted, and both are
allowed to start. -/
theorem admitted_le_overlapping :
    let s : Services := { clock := default, quota := { common := some 1 } }
    ∃ u, Overlapping ⟨"t"⟩ ⟨[.waiting, .waiting], s⟩ 1 u ∧ s.quota.limit? ⟨"t"⟩ = some 1 ∧
      s.quota.usage ⟨"t"⟩ = 0 ∧ u.stages = [.counted, .counted] ∧ u.admitted = 2 := by
  intro s
  exact ⟨_, .count 1 (.count 0 (.allow 1 (.allow 0 .start rfl rfl) rfl rfl) rfl) rfl, rfl, rfl, rfl,
    rfl⟩

/-! ## As many runs as may be admitted -/

section
variable {s : Services} {pre rest : List RunStage}

/-- A run is let in while the usage is below the limit. -/
theorem checkQuota_of_usage_lt (hserved : s.quotaOutages = []) (hlimit : s.quota.limit? t = some n)
    (husage : s.quota.usage t < n) : s.checkQuota t = .ok true := by
  rw [checkQuota_of_served t hserved, Except.ok.injEq, allows_iff, hlimit]
  rintro limit ⟨⟩
  exact husage

/-- No run is under way if all are in another stage. -/
theorem underWay_replicate {stage : RunStage} (h : stage ≠ .underWay) (w : Nat) :
    (List.replicate w stage).count .underWay = 0 :=
  List.count_eq_zero.2 fun hmem => h (List.eq_of_mem_replicate hmem).symm

/-- The next run is admitted. -/
theorem Overlapping.next (h : Overlapping t start most ⟨pre ++ .waiting :: rest, s⟩)
    (hquota : s.checkQuota t = .ok true) :
    Overlapping t start (max most (pre.count .underWay + rest.count .underWay))
      ⟨pre ++ .underWay :: rest, s⟩ := by
  have hover := h.allow pre.length (by simp) hquota
  have hunder : (pre ++ .waiting :: rest).count RunStage.underWay =
      pre.count .underWay + rest.count .underWay := by
    rw [List.count_append, List.count_cons_of_ne (by decide)]
  rw [Runs.underWay, hunder] at hover
  rwa [List.set_append_right _ _ (Nat.le_refl _), Nat.sub_self] at hover

/-- The runs that come next are all admitted before one of them is counted. -/
theorem Overlapping.allowAll (w : Nat) (hquota : s.checkQuota t = .ok true)
    (hpre : pre.count .underWay = 0) (hrest : rest.count .underWay = 0)
    (h : Overlapping t start 0 ⟨pre ++ (List.replicate w .waiting ++ rest), s⟩) :
    Overlapping t start (w - 1) ⟨pre ++ (List.replicate w .underWay ++ rest), s⟩ := by
  induction w generalizing rest with
  | zero => exact h
  | succ w ih =>
    rw [List.replicate_succ', List.append_assoc] at h
    have hcons : (RunStage.waiting :: rest).count .underWay = 0 := by
      rwa [List.count_cons_of_ne (by decide)]
    have hover := ih hcons h
    rw [← List.append_assoc] at hover
    have hnext := hover.next hquota
    have hunder : (pre ++ List.replicate w RunStage.underWay).count .underWay = w := by
      rw [List.count_append, hpre, List.count_replicate_self, Nat.zero_add]
    have hmost : max (w - 1) (w + 0) = w := by omega
    have hstages : (pre ++ List.replicate w .underWay) ++ .underWay :: rest =
        pre ++ (List.replicate (w + 1) RunStage.underWay ++ rest) := by
      rw [List.replicate_succ', List.append_assoc, List.append_assoc]
      rfl
    rwa [hunder, hrest, hmost, hstages] at hnext

/-- The runs that come next are all admitted, each after the one before it has been counted. -/
theorem Overlapping.countAll (w : Nat) (hserved : s.quotaOutages = [])
    (hlimit : s.quota.limit? t = some n) (hword : n ≤ maxWord64)
    (hleft : s.quota.usage t + w ≤ n) (hrest : rest.count .underWay = 0)
    (h : Overlapping t start 0 ⟨List.replicate w .waiting ++ rest, s⟩) :
    ∃ s', Overlapping t start 0 ⟨List.replicate w .counted ++ rest, s'⟩ ∧ s'.quotaOutages = [] ∧
      s'.quota.limit? t = some n ∧ s'.quota.usage t = s.quota.usage t + w := by
  induction w generalizing rest with
  | zero => exact ⟨s, h, hserved, hlimit, rfl⟩
  | succ w ih =>
    rw [List.replicate_succ', List.append_assoc] at h
    have hcons : (RunStage.waiting :: rest).count .underWay = 0 := by
      rwa [List.count_cons_of_ne (by decide)]
    obtain ⟨s', hover, hserved', hlimit', husage'⟩ := ih (by omega) hcons h
    have hnext := hover.next (checkQuota_of_usage_lt hserved' hlimit' (by omega))
    rw [underWay_replicate (by decide), hrest] at hnext
    have hcount := hnext.count w (by simp)
    have hstages : (List.replicate w RunStage.counted ++ RunStage.underWay :: rest).set w .counted =
        List.replicate (w + 1) .counted ++ rest := by
      rw [List.set_append_right _ _ (Nat.le_of_eq List.length_replicate), List.length_replicate,
        Nat.sub_self, List.replicate_succ', List.append_assoc]
      rfl
    rw [hstages, Services.countRun_of_served t hserved'] at hcount
    refine ⟨_, hcount, hserved', hlimit', ?_⟩
    dsimp only
    rw [Quota.usage_record_self, husage']
    exact Nat.min_eq_left (Nat.le_trans hleft hword)

end

/-- As many runs more than the limit says are admitted as are under way together. -/
theorem exists_overlapping (t : Tenant) (hpos : 0 < n) (hword : n ≤ maxWord64) (m : Nat) :
    ∃ stages s u, (∀ stage ∈ stages, stage = RunStage.waiting) ∧ s.quotaOutages = [] ∧
      s.quota.limit? t = some n ∧ s.quota.usage t = 0 ∧ Overlapping t ⟨stages, s⟩ m u ∧
      u.admitted = n + m := by
  let stages := List.replicate (n - 1) RunStage.waiting ++ (List.replicate (m + 1) .waiting ++ [])
  let s : Services := { clock := default, quota := { common := some n } }
  have hwaiting : ∀ stage ∈ stages, stage = .waiting := by
    simp only [stages, List.append_nil, List.mem_append]
    rintro stage (hmem | hmem)
    · exact List.eq_of_mem_replicate hmem
    · exact List.eq_of_mem_replicate hmem
  have hnone : (List.replicate (m + 1) RunStage.waiting ++ []).count RunStage.underWay = 0 := by
    rw [List.append_nil, underWay_replicate (by decide)]
  have hstart : Overlapping t ⟨stages, s⟩ 0 ⟨stages, s⟩ := .start
  have hleft : s.quota.usage t + (n - 1) ≤ n :=
    Nat.le_trans (Nat.le_of_eq (Nat.zero_add _)) (Nat.sub_le n 1)
  obtain ⟨s', hserial, hserved, hlimit, husage⟩ :=
    hstart.countAll (n - 1) rfl rfl hword hleft hnone
  have hzero : s.quota.usage t = 0 := rfl
  have hall := hserial.allowAll (m + 1) (checkQuota_of_usage_lt hserved hlimit (by omega))
    (underWay_replicate (by decide) _) rfl
  refine ⟨stages, s, _, hwaiting, rfl, rfl, rfl, hall, ?_⟩
  simp [Runs.admitted, List.count_replicate]
  omega

end

end Runner

end Automation
