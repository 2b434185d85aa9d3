import Automation.Proofs.Row.History
import Automation.Proofs.Store
import Automation.Step.Task

/-!
# Two updates of a row

An update looks its row up, and later writes it with its patch over what it has found. Between these
two requests (`Row.UpdateStage`) others may be made. `Row.Interleaved` says how two updates of one
row go on, one request at a time, while the other services go on as they like, and `Row.Reached`
which rows there can be on the way.

The row is written twice, whatever the order. Its fields are those of both patches if one update
looks the row up after the other one has written it; else those of the patch that is written last,
over the fields that the row had at first (`Row.interleaved_updates`). Nothing in a request to write
says which revision was found, so the store has no way to refuse the second one.
-/

namespace Automation

namespace Row

/-! ## Requests of an update -/

/-- How far an update has come: it has made no request, it has found the row, or it is over. -/
inductive UpdateStage where
  | ready
  | found (d : Document)
  | over (result : Except StepFault Json)

namespace UpdateStage

/-- The next request to the store, if there is one. -/
def request? : UpdateStage → Option StoreRequest
  | .ready => some .get
  | .found _ => some .put
  | .over _ => none

/-- Goes on to the next request of an update, and makes it. -/
def next (t : Tenant) (id : String) (patch : RowFields) (stage : UpdateStage) (s : Services) :
    UpdateStage × Services :=
  match stage with
  | .ready =>
    if !isId id then (.over (.error (.notARow id)), s)
    else
      match s.getDocument t id with
      | .error fault => (.over (.error (.store fault)), s)
      | .ok none => (.over (.error (.store (.notFound id))), s)
      | .ok (some d) => (.found d, s)
  | .found d =>
    let (result, s) := Task.rowResult (s.putDocument t (patchedDocument d patch))
    (.over result, s)
  | .over result => (.over result, s)

/-- An update is its requests, one after the other. -/
theorem next_next (x : Task.Setting) (id : String) (patch : RowFields) (s : Services) :
    let (stage, s') := next x.tenant id patch .ready s
    next x.tenant id patch stage s' =
      (.over (Task.performUpdate x id patch s).1, (Task.performUpdate x id patch s).2) := by
  unfold Task.performUpdate
  dsimp only [next]
  cases isId id with
  | false => rfl
  | true =>
    cases s.getDocument x.tenant id with
    | error fault => rfl
    | ok found =>
      cases found with
      | none => rfl
      | some d => rfl

end UpdateStage

/-! ## Interleavings -/

/-- One of two updates. -/
inductive Side where
  | first
  | second
  deriving DecidableEq, Repr

/-- The update that is not this one. -/
def Side.other : Side → Side
  | .first => .second
  | .second => .first

/-- The stages with another one for one of the updates. -/
def setStage (stage : Side → UpdateStage) (side : Side) (new : UpdateStage) : Side → UpdateStage :=
  fun s => if s = side then new else stage s

/-- How far two updates have come, and the services. -/
structure Updates where
  stage : Side → UpdateStage
  services : Services

/-- One of two updates goes on. -/
def Updates.advance (t : Tenant) (id : String) (patch : Side → RowFields) (u : Updates)
    (side : Side) : Updates :=
  let (stage, services) := (u.stage side).next t id (patch side) u.services
  ⟨setStage u.stage side stage, services⟩

/-- The row is the same, and so are the kinds of requests that are out of service. -/
structure SameRow (t : Tenant) (id : String) (s s' : Services) : Prop where
  row : s'.store.get? t id = s.store.get? t id
  outages : s'.storeOutages = s.storeOutages

/-- Two updates of a row have made some requests, in this order, and whatever else has gone on has
left the row alone. -/
inductive Interleaved (t : Tenant) (id : String) (patch : Side → RowFields) (start : Updates) :
    List (Side × StoreRequest) → Updates → Prop
  | start : Interleaved t id patch start [] start
  | advance {calls : List (Side × StoreRequest)} {u : Updates} {request : StoreRequest}
      (side : Side) (h : Interleaved t id patch start calls u)
      (hrequest : (u.stage side).request? = some request) :
      Interleaved t id patch start (calls ++ [(side, request)]) (u.advance t id patch side)
  | elsewhere {calls : List (Side × StoreRequest)} {u : Updates} {s : Services}
      (h : Interleaved t id patch start calls u) (hsame : SameRow t id u.services s) :
      Interleaved t id patch start calls { u with services := s }

/-- Both updates look the row up before one of them writes it. -/
def Together (calls : List (Side × StoreRequest)) : Prop :=
  ∀ call ∈ calls.take 2, call.2 = .get

/-! ## One request -/

/-- Rows can be looked up and written. -/
structure Served (s : Services) : Prop where
  get : s.storeOutages.lookup .get = none
  put : s.storeOutages.lookup .put = none

/-- The row `current` after an update that has found `seen`. -/
def overwritten (current seen : Document) (patch : RowFields) : Document :=
  ⟨current.id, current.revision + 1, .object (patched (fieldsOf seen.body) patch)⟩

section
variable {t : Tenant} {id : String} {patch : RowFields} {s : Services} {d seen : Document}

/-- The document that is found under an id has it. -/
theorem id_of_get? (h : s.store.get? t id = some d) : d.id = id := by
  obtain ⟨revision, -, rfl⟩ := Option.map_eq_some_iff.1 h
  rfl

/-- The document that is found has the revision of its id. -/
theorem revision_of_get? (h : s.store.get? t id = some d) : s.store.revision t id = d.revision := by
  obtain ⟨revision, hrevision, rfl⟩ := Option.map_eq_some_iff.1 h
  exact s.store.revision_of_found t hrevision

/-- An update finds the row as it is. -/
theorem next_ready (hid : isId id = true) (hserved : Served s) (hrow : s.store.get? t id = some d) :
    UpdateStage.next t id patch .ready s = (.found d, s) := by
  rw [UpdateStage.next, hid, s.getDocument_of_served t id hserved.get, hrow]
  rfl

/-- What is written is the next revision of what there is. -/
theorem put_patchedDocument (hrow : s.store.get? t id = some d) (hseen : seen.id = id) :
    (s.store.put t (patchedDocument seen patch)).1 = overwritten d seen patch := by
  rw [overwritten, ← revision_of_get? hrow, id_of_get? hrow, ← hseen]
  rfl

/-- An update writes its patch over what it has found, with the next revision of what there is. -/
theorem next_found (hserved : Served s) (hrow : s.store.get? t id = some d)
    (hseen : seen.id = id) :
    ∃ s', UpdateStage.next t id patch (.found seen) s =
        (.over (.ok (Task.rowOutputs (overwritten d seen patch))), s') ∧
      s'.store.get? t id = some (overwritten d seen patch) ∧ Served s' := by
  have hput := s.putDocument_of_served t (patchedDocument seen patch) hserved.put
  have hself := s.store.get?_put_self t (patchedDocument seen patch)
  have hid : (patchedDocument seen patch).id = id := hseen
  rw [put_patchedDocument hrow hseen] at hput hself
  rw [hid] at hself
  refine ⟨{ s with store := (s.store.put t (patchedDocument seen patch)).2 }, ?_, hself,
    ⟨hserved.get, hserved.put⟩⟩
  rw [UpdateStage.next, hput]
  rfl

end

/-! ## The rows on the way -/

/-- The stage of an update that has written the row. -/
def UpdateStage.Done (stage : UpdateStage) : Prop :=
  ∃ outputs, stage = .over (.ok outputs)

/-- What two updates of a row that was `d` have come to, after which requests: how far they are and
what the row is. -/
inductive Reached (d : Document) (patch : Side → RowFields) :
    List (Side × StoreRequest) → (Side → UpdateStage) → Document → Prop
  | neither {stage : Side → UpdateStage} (h : ∀ side, stage side = .ready) :
      Reached d patch [] stage d
  | found {stage : Side → UpdateStage} (a : Side) (ha : stage a = .found d)
      (hb : stage a.other = .ready) : Reached d patch [(a, .get)] stage d
  | wrote {stage : Side → UpdateStage} (a : Side) (ha : (stage a).Done)
      (hb : stage a.other = .ready) :
      Reached d patch [(a, .get), (a, .put)] stage (overwritten d d (patch a))
  | foundNew {stage : Side → UpdateStage} (a : Side) (ha : (stage a).Done)
      (hb : stage a.other = .found (overwritten d d (patch a))) :
      Reached d patch [(a, .get), (a, .put), (a.other, .get)] stage (overwritten d d (patch a))
  | serial {stage : Side → UpdateStage} (a : Side) (h : ∀ side, (stage side).Done) :
      Reached d patch [(a, .get), (a, .put), (a.other, .get), (a.other, .put)] stage
        (overwritten (overwritten d d (patch a)) (overwritten d d (patch a)) (patch a.other))
  | foundBoth {stage : Side → UpdateStage} (a : Side) (h : ∀ side, stage side = .found d) :
      Reached d patch [(a, .get), (a.other, .get)] stage d
  | wroteOne {stage : Side → UpdateStage} (a b : Side) (hb : (stage b).Done)
      (hother : stage b.other = .found d) :
      Reached d patch [(a, .get), (a.other, .get), (b, .put)] stage (overwritten d d (patch b))
  | together {stage : Side → UpdateStage} (a b : Side) (h : ∀ side, (stage side).Done) :
      Reached d patch [(a, .get), (a.other, .get), (b, .put), (b.other, .put)] stage
        (overwritten (overwritten d d (patch b)) d (patch b.other))

/-- There are two sides. -/
theorem Side.eq_or_other (a b : Side) : b = a ∨ b = a.other := by
  cases a <;> cases b <;> simp [other]

/-- The other side is another one. -/
theorem Side.other_ne (a : Side) : a.other ≠ a := by
  cases a <;> decide

/-- What holds of a side and of the other one holds of both. -/
theorem Side.forall_iff (a : Side) {p : Side → Prop} : (∀ side, p side) ↔ p a ∧ p a.other := by
  constructor
  · exact fun h => ⟨h a, h a.other⟩
  · rintro ⟨ha, hother⟩ side
    rcases a.eq_or_other side with rfl | rfl
    · exact ha
    · exact hother

section
variable {stage : Side → UpdateStage} {a : Side} {new : UpdateStage}

/-- The side that goes on has its new stage. -/
theorem setStage_self : setStage stage a new a = new :=
  if_pos rfl

/-- The side that does not go on keeps its stage. -/
theorem setStage_at_other : setStage stage a new a.other = stage a.other :=
  if_neg a.other_ne

/-- A side keeps its stage when the other one goes on. -/
theorem setStage_of_other : setStage stage a.other new a = stage a :=
  if_neg a.other_ne.symm

end

section
variable {t : Tenant} {id : String} {patch : Side → RowFields} {d row : Document} {u : Updates}
  {calls : List (Side × StoreRequest)} {side : Side} {request : StoreRequest}

/-- What two updates have come to, with a store that has the row and is in service. -/
structure Standing (t : Tenant) (id : String) (patch : Side → RowFields) (d : Document)
    (calls : List (Side × StoreRequest)) (u : Updates) (row : Document) : Prop where
  reached : Reached d patch calls u.stage row
  found : u.services.store.get? t id = some row
  served : Served u.services

namespace Standing

/-- An update finds the row. -/
theorem find (h : Standing t id patch d calls u row) (hid : isId id = true)
    (hready : u.stage side = .ready)
    (hreached :
      Reached d patch (calls ++ [(side, .get)]) (setStage u.stage side (.found row)) row) :
    Standing t id patch d (calls ++ [(side, .get)]) (u.advance t id patch side) row := by
  have hadvance : u.advance t id patch side =
      ⟨setStage u.stage side (.found row), u.services⟩ := by
    rw [Updates.advance, hready, next_ready hid h.served h.found]
  rw [hadvance]
  exact ⟨hreached, h.found, h.served⟩

/-- An update writes the row. -/
theorem write {seen : Document} (h : Standing t id patch d calls u row) (hseen : seen.id = id)
    (hfound : u.stage side = .found seen)
    (hreached : ∀ stage : UpdateStage, stage.Done →
      Reached d patch (calls ++ [(side, .put)]) (setStage u.stage side stage)
        (overwritten row seen (patch side))) :
    Standing t id patch d (calls ++ [(side, .put)]) (u.advance t id patch side)
      (overwritten row seen (patch side)) := by
  obtain ⟨s', hnext, hrow, hserved⟩ := next_found h.served h.found hseen
  have hadvance : u.advance t id patch side = ⟨setStage u.stage side
      (.over (.ok (Task.rowOutputs (overwritten row seen (patch side))))), s'⟩ := by
    rw [Updates.advance, hfound, hnext]
  rw [hadvance]
  exact ⟨hreached _ ⟨_, rfl⟩, hrow, hserved⟩

end Standing

/-- An update that is done makes no more requests. -/
theorem request?_done {stage : UpdateStage} (h : stage.Done) : stage.request? = none := by
  obtain ⟨outputs, rfl⟩ := h
  rfl

/-- One request takes two updates from one situation to the next. -/
theorem Standing.advance (h : Standing t id patch d calls u row) (hid : isId id = true)
    (hd : d.id = id) (hrequest : (u.stage side).request? = some request) :
    ∃ row, Standing t id patch d (calls ++ [(side, request)]) (u.advance t id patch side) row := by
  -- An update that is over makes no request.
  have hnot (hdone : (u.stage side).Done) : False := by
    rw [request?_done hdone] at hrequest
    cases hrequest
  have hreached := h.reached
  cases hreached with
  | neither hready =>
    rw [hready side] at hrequest
    cases hrequest
    refine ⟨d, h.find hid (hready side) (.found side setStage_self ?_)⟩
    rw [setStage_at_other, hready]
  | found a ha hb =>
    rcases a.eq_or_other side with rfl | rfl
    · rw [ha] at hrequest
      cases hrequest
      exact ⟨_, h.write hd ha fun stage hdone =>
        .wrote side (by rwa [setStage_self]) (by rwa [setStage_at_other])⟩
    · rw [hb] at hrequest
      cases hrequest
      refine ⟨d, h.find hid hb (.foundBoth a (a.forall_iff.2 ⟨?_, setStage_self⟩))⟩
      rwa [setStage_of_other]
  | wrote a ha hb =>
    rcases a.eq_or_other side with rfl | rfl
    · exact (hnot ha).elim
    · rw [hb] at hrequest
      cases hrequest
      exact ⟨_, h.find hid hb (.foundNew a (by rwa [setStage_of_other]) setStage_self)⟩
  | foundNew a ha hb =>
    rcases a.eq_or_other side with rfl | rfl
    · exact (hnot ha).elim
    · rw [hb] at hrequest
      cases hrequest
      have hseen : (overwritten d d (patch a)).id = id := hd
      exact ⟨_, h.write hseen hb fun stage hdone =>
        .serial a (a.forall_iff.2 ⟨by rwa [setStage_of_other], by rwa [setStage_self]⟩)⟩
  | serial a hdone => exact (hnot (hdone side)).elim
  | foundBoth a hfound =>
    rw [hfound side] at hrequest
    cases hrequest
    exact ⟨_, h.write hd (hfound side) fun stage hdone =>
      .wroteOne a side (by rwa [setStage_self]) (by rw [setStage_at_other, hfound])⟩
  | wroteOne a b hb hother =>
    rcases b.eq_or_other side with rfl | rfl
    · exact (hnot hb).elim
    · rw [hother] at hrequest
      cases hrequest
      exact ⟨_, h.write hd hother fun stage hdone =>
        .together a b (b.forall_iff.2 ⟨by rwa [setStage_of_other], by rwa [setStage_self]⟩)⟩
  | together a b hdone => exact (hnot (hdone side)).elim

/-- Every run of two updates takes them through these situations. -/
theorem Interleaved.standing {s : Services} (hid : isId id = true)
    (hrow : s.store.get? t id = some d) (hserved : Served s)
    (hrun : Interleaved t id patch ⟨fun _ => .ready, s⟩ calls u) :
    ∃ row, Standing t id patch d calls u row := by
  induction hrun with
  | start => exact ⟨d, .neither fun _ => rfl, hrow, hserved⟩
  | advance side _ hrequest ih =>
    obtain ⟨row, hstanding⟩ := ih
    exact hstanding.advance hid (id_of_get? hrow) hrequest
  | elsewhere _ hsame ih =>
    obtain ⟨row, hreached, hfound, hserved⟩ := ih
    refine ⟨row, hreached, hsame.row.trans hfound, ?_, ?_⟩
    · rw [hsame.outages]
      exact hserved.get
    · rw [hsame.outages]
      exact hserved.put

/-- Two updates that are both over have come one after the other, or they have both found the row as
it was at first. -/
theorem Reached.over {stage : Side → UpdateStage} (h : Reached d patch calls stage row)
    (hover : ∀ side, (stage side).request? = none) :
    (∀ side, (stage side).Done) ∧
      ((∃ a, calls = [(a, .get), (a, .put), (a.other, .get), (a.other, .put)] ∧
          row = overwritten (overwritten d d (patch a)) (overwritten d d (patch a))
            (patch a.other)) ∨
        ∃ a b, calls = [(a, .get), (a.other, .get), (b, .put), (b.other, .put)] ∧
          row = overwritten (overwritten d d (patch b)) d (patch b.other)) := by
  have hnever {side : Side} {next : UpdateStage} {request : StoreRequest}
      (hstage : stage side = next) (hnext : next.request? = some request) : False := by
    rw [← hstage, hover side] at hnext
    cases hnext
  cases h with
  | neither h => exact (hnever (h .first) rfl).elim
  | found a ha _ => exact (hnever ha rfl).elim
  | wrote a _ hb => exact (hnever hb rfl).elim
  | foundNew a _ hb => exact (hnever hb rfl).elim
  | serial a h => exact ⟨h, .inl ⟨a, rfl, rfl⟩⟩
  | foundBoth a h => exact (hnever (h .first) rfl).elim
  | wroteOne a b _ hother => exact (hnever hother rfl).elim
  | together a b h => exact ⟨h, .inr ⟨a, b, rfl, rfl⟩⟩

/-- The fields of a row that has been written over others. -/
theorem lookup_overwritten {current seen : Document} {fields : RowFields} {name : String}
    (h : Fields.Ordered fields) :
    (fieldsOf (overwritten current seen fields).body).lookup name =
      if isReserved name then (fieldsOf seen.body).lookup name
      else (fields.lookup name).or ((fieldsOf seen.body).lookup name) :=
  lookup_patched h

/-- Of two values one of which is missing, it does not matter which comes first. -/
theorem or_left_comm_of_none {α : Type} {x y z : Option α} (h : x = none ∨ y = none) :
    x.or (y.or z) = y.or (x.or z) := by
  rcases h with rfl | rfl
  · rfl
  · rfl

/-- Two updates of a row whose patches have no field in common both succeed, in whatever order their
requests are made, and the revision of the row grows by two. If both look the row up before one of
them writes it, the row has the fields of the patch that is written last, and no other field has
changed; else it has the fields of both. -/
theorem interleaved_updates {s : Services} (hid : isId id = true)
    (hrow : s.store.get? t id = some d) (hserved : Served s)
    (hpatch : ∀ side, Fields.Ordered (patch side))
    (hdisjoint : ∀ name, (patch .first).lookup name = none ∨ (patch .second).lookup name = none)
    (hrun : Interleaved t id patch ⟨fun _ => .ready, s⟩ calls u)
    (hover : ∀ side, (u.stage side).request? = none) :
    (∀ side, (u.stage side).Done) ∧
      ∃ d', u.services.store.get? t id = some d' ∧ d'.revision = d.revision + 2 ∧
        (∀ name, isReserved name = true →
          (fieldsOf d'.body).lookup name = (fieldsOf d.body).lookup name) ∧
        (¬Together calls → ∀ name, isReserved name = false →
          (fieldsOf d'.body).lookup name =
            ((patch .first).lookup name).or
              (((patch .second).lookup name).or ((fieldsOf d.body).lookup name))) ∧
        (Together calls → ∃ side, calls.getLast? = some (side, .put) ∧
          ∀ name, isReserved name = false →
            (fieldsOf d'.body).lookup name =
              ((patch side).lookup name).or ((fieldsOf d.body).lookup name)) := by
  obtain ⟨row, hstanding⟩ := hrun.standing hid hrow hserved
  obtain ⟨hdone, ⟨a, rfl, rfl⟩ | ⟨a, b, rfl, rfl⟩⟩ := hstanding.reached.over hover
  -- One update has found what the other one has written.
  · refine ⟨hdone, _, hstanding.found, rfl, fun name hname => ?_, fun _ name hname => ?_,
      fun htogether => ?_⟩
    · rw [lookup_overwritten (hpatch _), if_pos hname, lookup_overwritten (hpatch _), if_pos hname]
    · rw [lookup_overwritten (hpatch _), hname, lookup_overwritten (hpatch _), hname]
      cases a with
      | first => exact or_left_comm_of_none (hdisjoint name).symm
      | second => rfl
    · cases htogether (a, .put) (by simp)
  -- Both have found the row as it was at first, and what `b` has written over it is not seen again.
  · refine ⟨hdone, _, hstanding.found, rfl, fun name hname => ?_, fun hserial => ?_,
      fun _ => ⟨b.other, rfl, fun name hname => ?_⟩⟩
    · rw [lookup_overwritten (hpatch _), if_pos hname]
    · exact (hserial (by simp [Together])).elim
    · rw [lookup_overwritten (hpatch _), hname]
      rfl

end

/-- The second update finds the row that the first one has written. -/
theorem interleaved_updates_serial :
    let patch : Side → RowFields := fun
      | .first => [("a", .int 1)]
      | .second => [("b", .int 2)]
    let s : Services :=
      { clock := default
        store := ⟨PerTenant.empty.set ⟨"t"⟩ [("ro_t_1", ⟨1, .object [("c", .int 3)]⟩)]⟩ }
    let calls : List (Side × StoreRequest) :=
      [(.first, .get), (.first, .put), (.second, .get), (.second, .put)]
    let u := calls.foldl (fun u call => u.advance ⟨"t"⟩ "ro_t_1" patch call.1)
      ⟨fun _ => .ready, s⟩
    Interleaved ⟨"t"⟩ "ro_t_1" patch ⟨fun _ => .ready, s⟩ calls u ∧ ¬Together calls ∧
      (∀ side, (u.stage side).Done) ∧
      ∃ d', u.services.store.get? ⟨"t"⟩ "ro_t_1" = some d' ∧ d'.revision = 3 ∧
        (fieldsOf d'.body).lookup "a" = some (.int 1) ∧
        (fieldsOf d'.body).lookup "b" = some (.int 2) := by
  intro patch s calls u
  have hrun : Interleaved ⟨"t"⟩ "ro_t_1" patch ⟨fun _ => .ready, s⟩ calls u :=
    .advance .second (.advance .second (.advance .first (.advance .first .start rfl) rfl) rfl) rfl
  have hserial : ¬Together calls := fun h => by cases h (.first, .put) (by simp [calls])
  have hpatch : ∀ side, Fields.Ordered (patch side) := by
    intro side
    cases side <;> exact List.pairwise_singleton _ _
  have hdisjoint : ∀ name,
      (patch .first).lookup name = none ∨ (patch .second).lookup name = none := by
    intro name
    by_cases hname : name = "a"
    · rw [hname]
      exact .inr rfl
    · exact .inl (by simp [patch, hname])
  have hover : ∀ side, (u.stage side).request? = none := by
    intro side
    cases side <;> rfl
  obtain ⟨hdone, d', hrow, hrevision, -, hboth, -⟩ :=
    interleaved_updates (by decide +kernel) rfl ⟨rfl, rfl⟩ hpatch hdisjoint hrun hover
  exact ⟨hrun, hserial, hdone, d', hrow, hrevision, hboth hserial "a" (by decide +kernel),
    hboth hserial "b" (by decide +kernel)⟩

/-- Both updates find the row as it was at first, and the patch that is written first is lost. -/
theorem interleaved_updates_lost :
    let patch : Side → RowFields := fun
      | .first => [("a", .int 1)]
      | .second => [("b", .int 2)]
    let s : Services :=
      { clock := default
        store := ⟨PerTenant.empty.set ⟨"t"⟩ [("ro_t_1", ⟨1, .object [("c", .int 3)]⟩)]⟩ }
    let calls : List (Side × StoreRequest) :=
      [(.first, .get), (.second, .get), (.first, .put), (.second, .put)]
    ∃ u d', Interleaved ⟨"t"⟩ "ro_t_1" patch ⟨fun _ => .ready, s⟩ calls u ∧
      (∀ side, (u.stage side).Done) ∧
      u.services.store.get? ⟨"t"⟩ "ro_t_1" = some d' ∧
      (fieldsOf d'.body).lookup "a" = none ∧
      (fieldsOf d'.body).lookup "b" = some (.int 2) := by
  intro patch s calls
  refine ⟨_, ⟨"ro_t_1", 3, .object [("b", .int 2), ("c", .int 3)]⟩,
    .advance .second (.advance .first (.advance .second (.advance .first .start rfl) rfl) rfl) rfl,
    ?_, rfl, rfl, rfl⟩
  intro side
  cases side
  · exact ⟨_, rfl⟩
  · exact ⟨_, rfl⟩

end Row

end Automation
