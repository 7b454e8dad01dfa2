import Mathlib.Data.List.Nodup
import Mathlib.Data.List.Pairwise
import RecordMapper.Proofs.Session.History

/-!
# Safety of connections

Over a whole history, an adapter is closed at most once, exactly when its handle leaves the table, and is
sent nothing after that; the handles that are not in the table are of no more use (`reached_safe`). All of
this holds for any answers, also when opening or closing fails, as long as no adapter is opened twice.

The log is tied to the session by numbers: the handle of number `n` is on the `n`-th adapter that was
opened, and the numbers of the closed handles are in step with the adapters that were closed
(`Recorded`). That adapters are opened only once turns what is known of the numbers into what is said of
the adapters.
-/

namespace RecordMapper.History

variable {h h' : History} {action : Action}

/-! ## The log and the handles -/

/-- The tie between the log and the numbers of the handles. -/
structure Recorded (h : History) : Prop where
  opened : (openings h.log).length = h.session.opened
  adapter : ∀ c ∈ h.handles, (openings h.log)[c.serial]? = some c.adapter
  owner : ∀ a ∈ openings h.log, ∃ c ∈ h.handles, c.adapter = a
  closed : (closings h.log).reverse.map some =
    h.session.closed.map fun n => (openings h.log)[n]?
  nodup : h.session.closed.Nodup

/-- Nothing was opened or closed, and no handle is new. -/
theorem Recorded.transfer (hrecorded : h.Recorded) {s : Session} {handles : List Connection}
    {log : List Exchange} (hopened : s.opened = h.session.opened)
    (hclosed : s.closed = h.session.closed) (hhandles : ∀ c, c ∈ handles ↔ c ∈ h.handles)
    (hopenings : openings log = openings h.log) (hclosings : closings log = closings h.log) :
    Recorded ⟨s, handles, log⟩ where
  opened := by
    rw [hopenings, hopened]
    exact hrecorded.opened
  adapter := by
    intro c hc
    rw [hopenings]
    exact hrecorded.adapter c ((hhandles c).mp hc)
  owner := by
    intro a ha
    rw [hopenings] at ha
    obtain ⟨c, hc, hca⟩ := hrecorded.owner a ha
    exact ⟨c, (hhandles c).mpr hc, hca⟩
  closed := by
    rw [hopenings, hclosings, hclosed]
    exact hrecorded.closed
  nodup := by
    rw [hclosed]
    exact hrecorded.nodup

theorem Recorded.register (hrecorded : h.Recorded) (hsound : h.Sound) (name : String)
    {adapter : Adapter} {log : List Exchange}
    (hopenings : openings log = openings h.log ++ [adapter])
    (hclosings : closings log = closings h.log) :
    Recorded ⟨h.session.register name adapter, h.handles ++ [h.session.nextHandle name adapter],
      log⟩ where
  opened := by
    rw [hopenings, List.length_append, hrecorded.opened]
    rfl
  adapter := by
    intro c hc
    rw [hopenings]
    rcases List.mem_append.mp hc with hc | hc
    · rw [List.getElem?_append_left]
      · exact hrecorded.adapter c hc
      · rw [hrecorded.opened]
        exact hsound.serial_lt c hc
    · rw [List.mem_singleton.mp hc]
      show (openings h.log ++ [adapter])[h.session.opened]? = some adapter
      rw [← hrecorded.opened, List.getElem?_concat_length]
  owner := by
    intro a ha
    rw [hopenings] at ha
    rcases List.mem_append.mp ha with ha | ha
    · obtain ⟨c, hc, hca⟩ := hrecorded.owner a ha
      exact ⟨c, List.mem_append_left _ hc, hca⟩
    · rw [List.mem_singleton.mp ha]
      exact ⟨_, List.mem_append_right _ (List.mem_singleton_self _), rfl⟩
  closed := by
    rw [hopenings, hclosings, hrecorded.closed]
    refine List.map_congr_left fun n hn => (List.getElem?_append_left ?_).symm
    rw [hrecorded.opened]
    exact hsound.closed_lt n hn
  nodup := hrecorded.nodup

theorem Recorded.retire (hrecorded : h.Recorded) (hsound : h.Sound) {name : String}
    {old : Connection} (hold : h.session.connections.get? name = some old) {log : List Exchange}
    (hopenings : openings log = openings h.log)
    (hclosings : closings log = closings h.log ++ [old.adapter]) :
    Recorded ⟨(h.session.unregister name).retire old, h.handles, log⟩ where
  opened := by
    rw [hopenings]
    exact hrecorded.opened
  adapter := by
    rw [hopenings]
    exact hrecorded.adapter
  owner := by
    rw [hopenings]
    exact hrecorded.owner
  closed := by
    obtain ⟨hmem, _⟩ := hsound.registered name old hold
    rw [hopenings, hclosings, List.reverse_append]
    show some old.adapter :: (closings h.log).reverse.map some =
      (openings h.log)[old.serial]? :: h.session.closed.map fun n => (openings h.log)[n]?
    rw [hrecorded.adapter old hmem, hrecorded.closed]
  nodup := by
    have hopen := hsound.isClosed_of_get? hold
    exact List.nodup_cons.mpr ⟨Session.isClosed_eq_false.mp hopen, hrecorded.nodup⟩

theorem Effect.recorded (effect : h.Effect action h') (hsound : h.Sound)
    (hrecorded : h.Recorded) : h'.Recorded := by
  cases effect with
  | @quiet s given log _ hopened hclosed hgiven hlog =>
    have hopenings : openings log = [] :=
      List.filterMap_eq_nil_iff.mpr fun x hx => (hlog x hx).opened
    have hclosings : closings log = [] :=
      List.filterMap_eq_nil_iff.mpr fun x hx => (hlog x hx).closed
    refine hrecorded.transfer hopened hclosed (fun c => ?_) ?_ ?_
    · rw [List.mem_append]
      exact or_iff_left_of_imp (hgiven c)
    · rw [openings_append, hopenings, List.append_nil]
    · rw [closings_append, hclosings, List.append_nil]
  | opened =>
    refine hrecorded.register hsound _ (openings_append _ _) ?_
    rw [closings_append]
    exact List.append_nil _
  | @replaced name adapter driver config old reply _ hold =>
    have hretired : Recorded ⟨(h.session.unregister name).retire old, h.handles,
        h.log ++ [⟨.close old.adapter, reply⟩]⟩ := by
      refine hrecorded.retire hsound hold ?_ (closings_append _ _)
      rw [openings_append]
      exact List.append_nil _
    have hregistered : Recorded ⟨((h.session.unregister name).retire old).register name adapter,
        h.handles ++ [h.session.nextHandle name adapter],
        h.log ++ [⟨.close old.adapter, reply⟩] ++ [⟨.connect driver config, .ok adapter⟩]⟩ := by
      refine hretired.register (hsound.removed hold _) name (openings_append _ _) ?_
      rw [closings_append _ [_]]
      exact List.append_nil _
    refine hregistered.transfer rfl rfl (fun c => Iff.rfl) ?_ ?_
    · rw [openings_append, openings_append, openings_append, List.append_assoc]
      rfl
    · rw [closings_append, closings_append, closings_append, List.append_assoc]
      rfl
  | removed _ hold =>
    refine hrecorded.retire hsound hold ?_ (closings_append _ _)
    rw [openings_append]
    exact List.append_nil _

theorem recorded_start (drivers : List (String × Driver)) : (start drivers).Recorded where
  opened := rfl
  adapter := by
    intro c hc
    cases hc
  owner := by
    intro a ha
    cases ha
  closed := rfl
  nodup := .nil

theorem Reached.recorded {drivers : List (String × Driver)} (reached : h.Reached drivers) :
    h.Recorded := by
  induction reached with
  | start => exact recorded_start drivers
  | step reached step hrecorded => exact (step.effect reached.sound).recorded reached.sound hrecorded

/-! ## Adapters that are opened only once -/

section Fresh

variable (hsound : h.Sound) (hrecorded : h.Recorded) (fresh : (openings h.log).Nodup)

include hsound hrecorded fresh

/-- An adapter is closed together with its handle. -/
theorem mem_closings_iff {c : Connection} (hc : c ∈ h.handles) :
    c.adapter ∈ closings h.log ↔ h.session.isClosed c = true := by
  have hlt : c.serial < (openings h.log).length := by
    rw [hrecorded.opened]
    exact hsound.serial_lt c hc
  have hmem : c.adapter ∈ closings h.log ↔
      some c.adapter ∈ h.session.closed.map fun n => (openings h.log)[n]? := by
    rw [← hrecorded.closed, List.mem_map_of_injective fun _ _ => Option.some.inj, List.mem_reverse]
  rw [hmem, Session.isClosed_eq_true, List.mem_map, ← hrecorded.adapter c hc]
  constructor
  · rintro ⟨n, hn, heq⟩
    rwa [(List.getElem?_inj hlt fresh).mp heq.symm]
  · intro hserial
    exact ⟨c.serial, hserial, rfl⟩

theorem nodup_closings : (closings h.log).Nodup := by
  have hnodup : ((closings h.log).reverse.map some).Nodup := by
    rw [hrecorded.closed]
    refine List.Nodup.map_on (fun n hn n' _ heq => ?_) hrecorded.nodup
    refine (List.getElem?_inj ?_ fresh).mp heq
    rw [hrecorded.opened]
    exact hsound.closed_lt n hn
  exact List.nodup_reverse.mp (List.Nodup.of_map some hnodup)

end Fresh

/-- No adapter is sent a statement after it was closed. -/
def NoCallAfterClose (log : List Exchange) : Prop :=
  log.Pairwise fun before after =>
    ∀ a, before.closed? = some a → after.request.callee? ≠ some a

theorem noCallAfterClose_append {log log' : List Exchange} (hlog : NoCallAfterClose log)
    (hlog' : ∀ x ∈ log', x.request.callee? = none) : NoCallAfterClose (log ++ log') := by
  refine List.pairwise_append.mpr ⟨hlog, ?_, ?_⟩
  · refine List.pairwise_of_forall_mem_list fun before _ after hafter a _ => ?_
    rw [hlog' after hafter]
    simp
  · intro before _ after hafter a _
    rw [hlog' after hafter]
    simp

theorem Effect.noCallAfterClose (effect : h.Effect action h') (hsound : h.Sound)
    (hrecorded : h.Recorded) (fresh : (openings h.log).Nodup) (hlog : NoCallAfterClose h.log) :
    NoCallAfterClose h'.log := by
  cases effect with
  | quiet _ _ _ _ hquiet =>
    refine List.pairwise_append.mpr ⟨hlog, ?_, ?_⟩
    · refine List.pairwise_of_forall_mem_list fun before hbefore after _ a hclosed => ?_
      rw [(hquiet before hbefore).closed] at hclosed
      cases hclosed
    · intro before hbefore after hafter a hclosed hcallee
      obtain ⟨c, hc, hopen, rfl⟩ := (hquiet after hafter).callee a hcallee
      have hmem : c.adapter ∈ closings h.log := List.mem_filterMap.mpr ⟨before, hbefore, hclosed⟩
      rw [mem_closings_iff hsound hrecorded fresh hc, hopen] at hmem
      cases hmem
  | opened => exact noCallAfterClose_append hlog (List.forall_mem_singleton.mpr rfl)
  | replaced =>
    refine noCallAfterClose_append hlog (List.forall_mem_cons.mpr ⟨rfl, ?_⟩)
    exact List.forall_mem_singleton.mpr rfl
  | removed => exact noCallAfterClose_append hlog (List.forall_mem_singleton.mpr rfl)

/-- What is opened only once in the end was opened only once before. -/
theorem Step.nodup_openings (step : h.Step action h') (fresh : (openings h'.log).Nodup) :
    (openings h.log).Nodup := by
  obtain ⟨_, _⟩ := step
  rw [openings_append] at fresh
  exact fresh.of_append_left

theorem Reached.noCallAfterClose {drivers : List (String × Driver)} (reached : h.Reached drivers)
    (fresh : (openings h.log).Nodup) : NoCallAfterClose h.log := by
  induction reached with
  | start => exact .nil
  | step reached step hlog =>
    have hfresh := step.nodup_openings fresh
    exact (step.effect reached.sound).noCallAfterClose reached.sound reached.recorded hfresh
      (hlog hfresh)

/-! ## Other names -/

theorem Effect.get?_of_ne (effect : h.Effect action h') {name : String}
    (hname : action.name? ≠ some name) :
    h'.session.connections.get? name = h.session.connections.get? name := by
  have hne : ∀ {other}, action.name? = some other → name ≠ other := by
    rintro other hother rfl
    exact hname hother
  cases effect with
  | quiet hconnections => rw [hconnections]
  | opened hother =>
    exact (OrderedMap.get?_insert _ _ _ _).trans (if_neg (hne hother))
  | replaced hother =>
    exact (OrderedMap.get?_insert _ _ _ _).trans (if_neg (hne hother))
  | removed hother =>
    exact (OrderedMap.get?_erase _ _ _).trans (if_neg (hne hother))

theorem Effect.isClosed_of_ne (effect : h.Effect action h') (hsound : h.Sound) {c : Connection}
    (hc : c ∈ h.handles) (hname : action.name? ≠ some c.name) :
    h'.session.isClosed c = h.session.isClosed c := by
  have hc' : c ∈ h'.handles := by
    cases effect with
    | quiet => exact List.mem_append_left _ hc
    | opened => exact List.mem_append_left _ hc
    | replaced => exact List.mem_append_left _ hc
    | removed => exact hc
  have hiff : h'.session.isClosed c = false ↔ h.session.isClosed c = false := by
    rw [(effect.sound hsound).open_iff c hc', hsound.open_iff c hc, effect.get?_of_ne hname]
  rw [Bool.eq_iff_iff, ← not_iff_not, Bool.not_eq_true, Bool.not_eq_true]
  exact hiff

/-! ## Safety -/

/-- What holds of the connections at any time. -/
structure Safe (h : History) : Prop where
  /-- Every adapter is behind a handle that was given out. -/
  owned : ∀ a ∈ openings h.log, ∃ c ∈ h.handles, c.adapter = a
  open_iff : ∀ c ∈ h.handles,
    h.session.isClosed c = false ↔ h.session.connections.get? c.name = some c
  closed_once : (closings h.log).Nodup
  closed_opened : ∀ a ∈ closings h.log, a ∈ openings h.log
  closed_iff : ∀ c ∈ h.handles,
    c.adapter ∈ closings h.log ↔ h.session.connections.get? c.name ≠ some c
  noCallAfterClose : NoCallAfterClose h.log
  /-- A handle that has left the table is of no more use. -/
  stale : ∀ c ∈ h.handles, h.session.connections.get? c.name ≠ some c → ∀ cx sql params,
    h.session.execOn c cx sql params = .done (.error (.of (.unknownConnection c.name))) ∧
      h.session.queryOn c cx sql params = .done (.error (.of (.unknownConnection c.name)))
  /-- A handle in the table is of use, and so is its name. -/
  usable : ∀ c name, h.session.connections.get? name = some c → c ∈ h.handles ∧ c.name = name ∧
    h.session.connection name = .ok c ∧ ∀ cx sql params,
      h.session.execOn c cx sql params = Dialogue.request (.exec c.adapter cx sql params) ∧
        h.session.queryOn c cx sql params = Dialogue.request (.query c.adapter cx sql params)

/-- An action changes nothing about the connections of other names. -/
structure Spares (h : History) (action : Action) (h' : History) : Prop where
  table : ∀ name, action.name? ≠ some name →
    h'.session.connections.get? name = h.session.connections.get? name
  handles : ∀ c ∈ h.handles, action.name? ≠ some c.name →
    h'.session.isClosed c = h.session.isClosed c

/-- Opening a connection either works or leaves the session as it is, with nothing opened or closed:
there is no driver or it could not connect. -/
def FailsHarmlessly (s : Session) : Prop :=
  ∀ name config log s' e, (s.establish name config).Runs log (s', .error e) →
    s' = s ∧ openings log = [] ∧ closings log = [] ∧
      ((s.drivers.get? config.adapter = none ∧ e = .of (.adapterUnknown config.adapter) ∧
          log = []) ∨
        ∃ driver, s.drivers.get? config.adapter = some driver ∧
          log = [⟨.connect driver config, .error e⟩])

theorem failsHarmlessly (s : Session) : FailsHarmlessly s := by
  intro name config log s' e runs
  rcases Session.establish_runs runs with ⟨e', rfl, heq, hlog⟩ | ⟨_, _, heq, _⟩
  · cases heq
    rcases hlog with ⟨hdriver, rfl, rfl⟩ | ⟨driver, hdriver, rfl⟩
    · exact ⟨rfl, rfl, rfl, .inl ⟨hdriver, rfl, rfl⟩⟩
    · exact ⟨rfl, rfl, rfl, .inr ⟨driver, hdriver, rfl⟩⟩
  · cases heq

theorem safe_of_recorded (hsound : h.Sound) (hrecorded : h.Recorded)
    (fresh : (openings h.log).Nodup) (hlog : NoCallAfterClose h.log) : h.Safe where
  owned := hrecorded.owner
  open_iff := hsound.open_iff
  closed_once := nodup_closings hsound hrecorded fresh
  closed_opened := by
    intro a ha
    have hmem : some a ∈ h.session.closed.map fun n => (openings h.log)[n]? := by
      rw [← hrecorded.closed]
      exact List.mem_map_of_mem (List.mem_reverse.mpr ha)
    obtain ⟨n, _, hn⟩ := List.mem_map.mp hmem
    exact List.mem_of_getElem? hn
  closed_iff := by
    intro c hc
    rw [mem_closings_iff hsound hrecorded fresh hc, ne_eq, ← hsound.open_iff c hc,
      Bool.not_eq_false]
  noCallAfterClose := hlog
  stale := by
    intro c hc hleft cx sql params
    have hclosed : h.session.isClosed c = true := by
      rwa [ne_eq, ← hsound.open_iff c hc, Bool.not_eq_false] at hleft
    exact ⟨if_pos hclosed, if_pos hclosed⟩
  usable := by
    intro c name hget
    obtain ⟨hc, hname⟩ := hsound.registered name c hget
    have hopen : ¬h.session.isClosed c = true :=
      Bool.not_eq_true _ ▸ hsound.isClosed_of_get? hget
    exact ⟨hc, hname, Session.connection_eq_ok.mpr hget,
      fun cx sql params => ⟨if_neg hopen, if_neg hopen⟩⟩

/-- However a session was used and whatever was answered, as long as no adapter was opened twice, its
connections are safe, and whatever is done next spares those of other names and fails harmlessly. -/
theorem reached_safe {drivers : List (String × Driver)} (reached : h.Reached drivers)
    (fresh : (openings h.log).Nodup) :
    h.Safe ∧ (∀ action h', h.Step action h' → h.Spares action h') ∧ FailsHarmlessly h.session := by
  have hsound := reached.sound
  refine ⟨?_, ?_, failsHarmlessly h.session⟩
  · exact safe_of_recorded hsound reached.recorded fresh (reached.noCallAfterClose fresh)
  · intro action h' step
    have effect := step.effect hsound
    exact ⟨fun name hname => effect.get?_of_ne hname,
      fun c hc hname => effect.isClosed_of_ne hsound hc hname⟩

end RecordMapper.History

namespace RecordMapper.Bookshop

theorem reopened_safe : reopened.Reached drivers ∧ (openings reopened.log).Nodup ∧ reopened.Safe ∧
    (∀ action h', reopened.Step action h' → reopened.Spares action h') ∧
    History.FailsHarmlessly reopened.session :=
  ⟨reached_reopened, by decide, History.reached_safe reached_reopened (by decide)⟩

end RecordMapper.Bookshop
