import SelfPlugins.Gateway.Handshake
import SelfPlugins.Gateway.Logs

/-!
# Stopping and restarting the robot gateway

`RobotGateway::Start` ends its wait loop when both flags are set and starts the
heartbeat timer; `Stop` drops two of the three timers.  It neither drops the
heartbeat timer nor clears the flags, and a registration that is answered
after it starts the configuration timer again.

Every request is marked with the `Start` that led to it, so that one can tell
what the current `Start` has been told.  `restartable_iff` says that all is
well precisely as long as no gateway is stopped that has been started;
`returns_at_once` says what the flags do to a second `Start`.
-/

namespace SelfPlugins.Gateway

open Runs
open Json (Value)

/-- `Start` has not been called or `Stop` has; `Start` is in its wait loop;
`Start` has returned true. -/
inductive Phase where
  | stopped
  | starting
  | running
deriving DecidableEq

/-- What the current `Start` has been told: whether its registration has been
answered, and if so, by something else than null; whether its services and its
parent have been settled. -/
structure Progress where
  registered : Option Bool
  services : Bool
  parent : Bool

def Progress.none : Progress := ⟨Option.none, false, false⟩

/-- The registration has been answered by null, or by something else and then
the services and the parent are settled, too. -/
def Progress.Settled (p : Progress) : Prop :=
  p.registered = some false ∨
    p.registered = some true ∧ p.services = true ∧ p.parent = true

/-- The gateway as a service; `starts` counts the calls of `Start` that have
registered, `owners` are the numbers of those the outstanding requests belong
to, and `timerOwner` the one whose registration set the configuration
timer. -/
structure GatewayService (F : Type) where
  gateway : RobotGateway
  logs : GatewayLogs F
  heartbeatTimer : Bool
  phase : Phase
  starts : ℕ
  owners : List ℕ
  timerOwner : ℕ
  progress : Progress

namespace GatewayService

variable {F : Type}

def new (gateway : RobotGateway) (logs : GatewayLogs F) : GatewayService F where
  gateway := gateway
  logs := logs
  heartbeatTimer := false
  phase := .stopped
  starts := 0
  owners := []
  timerOwner := 0
  progress := .none

/-! ## Steps -/

/-- What a response tells the `Start` it belongs to; `g` is the gateway before
the callback of the request. -/
def advance (f : Framework) (r : Request) (response : Response)
    (g : RobotGateway) (p : Progress) : Progress :=
  match r, response with
  | .registerEmbodiment _, .json v => { p with registered := some !v.isNull }
  | .getServices, .services _ => { p with services := true }
  | .getOrganization, .json v =>
      let decided := (g.onOrganization v).any fun t =>
        decide (t.outstanding.length = g.outstanding.length)
      { p with parent := p.parent || decided }
  | .getParent _, .json v =>
      { p with parent := p.parent || (g.onParent f v).isSome }
  | _, _ => p

section Steps

variable [LinearOrder F] [Zero F] (f : Framework) (levelText : ℕ → String)

/-- `Start` up to its wait loop, or to the end if it returns false. -/
def start (baseStarted : Bool) (pInstance : SelfInstance)
    (s : GatewayService F) : GatewayService F :=
  match s.gateway.start baseStarted pInstance with
  | none =>
      if baseStarted then
        -- there is no token, but the identity has been read
        let g := s.gateway.configure pInstance
        { s with
          gateway := g
          logs := s.logs.start g.macId g.organizationId g.groupId false }
      else s
  | some g =>
      { s with
        gateway := g
        logs := s.logs.start g.macId g.organizationId g.groupId true
        phase := .starting
        starts := s.starts + 1
        owners := s.owners ++ [s.starts + 1]
        progress := .none }

/-- The end of `Start`. -/
def returns (s : GatewayService F) : GatewayService F :=
  { s with heartbeatTimer := true, phase := .running }

def stop (s : GatewayService F) : GatewayService F :=
  { s with
    gateway := { s.gateway with configTimer := false }
    logs := s.logs.stop
    phase := .stopped }

/-- The gateway after a callback or a timer of it; new requests belong to the
given `Start`. -/
def proceed (owner : ℕ) (owners : List ℕ) (g : RobotGateway)
    (s : GatewayService F) : GatewayService F :=
  { s with
    gateway := g
    owners := owners ++ List.replicate (g.outstanding.length - owners.length)
      owner
    timerOwner :=
      if g.configTimer && !s.gateway.configTimer then owner else s.timerOwner }

/-- `Start` is called, its wait loop ends, `Stop` is called; a request is
answered; one of the timers expires; the log hands over a record. -/
inductive Event (F : Type) where
  | start (baseStarted : Bool) (pInstance : SelfInstance)
  | returns
  | stop
  | answer (n : ℕ) (response : Response)
  | configTimer
  | heartbeatTimer
  | persistLogTimer
  | process (r : LogRecord F)

def step (s : GatewayService F) : Event F → Option (GatewayService F)
  | .start baseStarted pInstance =>
      if s.phase = .stopped then some (start baseStarted pInstance s) else none
  | .returns =>
      if s.phase = .starting && s.gateway.configsFetched &&
          s.gateway.parentFetched then some (returns s)
      else none
  | .stop => if s.phase = .starting then none else some (stop s)
  | .answer n response =>
      match s.gateway.outstanding[n]?, s.owners[n]? with
      | some r, some owner =>
          (RobotGateway.step f s.gateway (.answer n response)).map fun g =>
            let s' := { s with
              progress := if owner = s.starts then
                advance f r response { s.gateway with
                  outstanding := s.gateway.outstanding.eraseIdx n } s.progress
                else s.progress }
            proceed owner (s.owners.eraseIdx n) g s'
      | _, _ => none
  | .configTimer =>
      (RobotGateway.step f s.gateway .configTimer).map fun g =>
        proceed s.timerOwner s.owners g s
  | .heartbeatTimer => if s.heartbeatTimer then some s else none
  | .persistLogTimer =>
      (GatewayLogs.step levelText s.logs .persistLogTimer).map fun logs =>
        { s with logs := logs }
  | .process r =>
      (GatewayLogs.step levelText s.logs (.process r)).map fun logs =>
        { s with logs := logs }

end Steps

/-! ## What a gateway promises -/

/-- One of the periodic activities is armed. -/
def Armed (s : GatewayService F) : Prop :=
  s.gateway.configTimer = true ∨ s.logs.persistLogTimer = true ∨
    s.heartbeatTimer = true

/-- While the gateway is stopped nothing is armed, and a `Start` that has
returned true has been told all it waits for. -/
def Restartable (s : GatewayService F) : Prop :=
  (s.phase = .stopped → ¬s.Armed) ∧ (s.phase = .running → s.progress.Settled)

/-- `Stop` is not called after `Start` has returned true. -/
def NeverStopped (s : GatewayService F) (e : Event F) : Prop :=
  e = .stop → s.phase ≠ .running

/-- The registrations among the requests. -/
def Registers : Request → Prop
  | .registerEmbodiment _ => True
  | _ => False

/-- Before the first `Start` that registers. -/
structure Idle (s : GatewayService F) : Prop where
  phase : s.phase = .stopped
  outstanding : s.gateway.outstanding = []
  owners : s.owners = []
  configsFetched : s.gateway.configsFetched = false
  parentFetched : s.gateway.parentFetched = false
  reactor : s.logs.reactor = false
  unarmed : ¬s.Armed

/-- From the first `Start` that registers on: all requests belong to it, and
the flags are set by what it has been told. -/
structure Busy (s : GatewayService F) : Prop where
  phase : s.phase ≠ .stopped
  owners : s.owners = List.replicate s.gateway.outstanding.length s.starts
  timerOwner : s.gateway.configTimer = true → s.timerOwner = s.starts
  unregistered : s.progress.registered = none →
    (∃ r, s.gateway.outstanding = [r] ∧ Registers r) ∧
      s.gateway.configTimer = false ∧ s.gateway.configsFetched = false ∧
      s.gateway.parentFetched = false
  registered : s.progress.registered ≠ none →
    ∀ r ∈ s.gateway.outstanding, ¬Registers r
  configsFetched : s.progress.registered = some true →
    s.gateway.configsFetched = true → s.progress.services = true
  parentFetched : s.progress.registered = some true →
    s.gateway.parentFetched = true → s.progress.parent = true
  running : s.phase = .running →
    s.heartbeatTimer = true ∧ s.progress.Settled

/-! ## Callbacks -/

/-- What a callback other than that of the registration does: it sets a flag
only together with what it tells, and registers nothing. -/
structure Told (g t : RobotGateway) (p q : Progress) : Prop where
  registered : q.registered = p.registered
  services : p.services = true → q.services = true
  parent : p.parent = true → q.parent = true
  configsFetched : t.configsFetched = true →
    g.configsFetched = true ∨ q.services = true
  parentFetched : t.parentFetched = true →
    g.parentFetched = true ∨ q.parent = true
  requests : ∃ rs, t.outstanding = g.outstanding ++ rs ∧
    ∀ r ∈ rs, ¬Registers r

variable {f : Framework}

theorem Told.of_sameProgress {g t : RobotGateway}
    (h : RobotGateway.SameProgress g t) (p : Progress) : Told g t p p where
  registered := rfl
  services h := h
  parent h := h
  configsFetched hc := Or.inl (h.configsFetched ▸ hc)
  parentFetched hp := Or.inl (h.parentFetched ▸ hp)
  requests := ⟨[], by rw [h.outstanding, List.append_nil], by simp⟩

theorem told_onOrganization (v : Value) (g : RobotGateway) (p : Progress) :
    Told g ((g.onOrganization v).getD g) p
      (advance f .getOrganization (.json v) g p) := by
  by_cases h : RobotGateway.Settles g.applyParentHost .getOrganization (.json v)
  · obtain ⟨t, ht, hconfigs, hcases⟩ := RobotGateway.onOrganization_of_settles h
    rw [advance, ht, Option.getD_some]
    rcases hcases with ⟨hout, hparent⟩ | ⟨parentId, hout, hparent⟩
    · refine ⟨rfl, fun h => h, fun h => by simp [h],
        fun h => Or.inl (hconfigs ▸ h), fun _ => Or.inr ?_, [], ?_, ?_⟩
      · simp [hout]
      · rw [hout, List.append_nil]
      · simp
    · refine ⟨rfl, fun h => h, fun h => by simp [h],
        fun h => Or.inl (hconfigs ▸ h), fun h => Or.inl (hparent ▸ h), _, hout,
        ?_⟩
      intro r hr
      rw [List.mem_singleton.mp hr]
      exact fun h => h
  · rw [RobotGateway.onOrganization_of_not_settles h, advance]
    exact ⟨rfl, fun h => h, fun h => by simp [h], Or.inl, Or.inl, [],
      (List.append_nil _).symm, by simp⟩

theorem told_onParent (parentId : String) (v : Value) (g : RobotGateway)
    (p : Progress) :
    Told g ((g.onParent f v).getD g) p
      (advance f (.getParent parentId) (.json v) g p) := by
  cases hv : v.members? with
  | none =>
      rw [advance, RobotGateway.onParent_none hv, Option.getD_none]
      exact ⟨rfl, fun h => h, fun h => by simp [h], Or.inl, Or.inl, [],
        (List.append_nil _).symm, by simp⟩
  | some ms =>
      obtain ⟨t, ht, hout, -, hconfigs⟩ := RobotGateway.onParent_some (f := f) hv g
      rw [advance, ht, Option.getD_some]
      exact ⟨rfl, fun h => h, fun h => by simp [h],
        fun h => Or.inl (hconfigs ▸ h), fun _ => Or.inr (by simp), [],
        by rw [hout, List.append_nil], by simp⟩

theorem told_callback {r : Request} {response : Response}
    (hr : ¬Registers r) (htakes : RobotGateway.takes r response = true)
    (g : RobotGateway) (p : Progress) :
    Told g ((g.callback f r response).getD g) p (advance f r response g p) := by
  cases r with
  | registerEmbodiment body => exact absurd trivial hr
  | getOrganization =>
      cases response with
      | json v => exact told_onOrganization v g p
      | services list => cases htakes
  | getOrgAdminList =>
      cases response with
      | json v =>
          exact Told.of_sameProgress
            (RobotGateway.sameProgress_onOrgAdminList v g) p
      | services list => cases htakes
  | getServices =>
      cases response with
      | json v => cases htakes
      | services list =>
          obtain ⟨hout, hparent, -⟩ := RobotGateway.onConfigured_progress list g
          exact ⟨rfl, fun _ => rfl, fun h => h, fun _ => Or.inr rfl,
            fun h => Or.inl (hparent ▸ h), [],
            hout.trans (List.append_nil _).symm, by simp⟩
  | getParent parentId =>
      cases response with
      | json v => exact told_onParent parentId v g p
      | services list => cases htakes

/-- The callback of a registration, when no other request is outstanding. -/
theorem registered_callback {v : Value} {g : RobotGateway}
    (hout : g.outstanding = []) :
    let t := (g.onRegisteredEmbodiment v).getD g
    (∀ r ∈ t.outstanding, ¬Registers r) ∧
      (v.isNull = false → t.configsFetched = g.configsFetched ∧
        t.parentFetched = g.parentFetched) := by
  cases hnull : v.isNull with
  | true =>
      simp [RobotGateway.onRegisteredEmbodiment, hnull, hout]
  | false =>
      cases hv : v.members? with
      | none =>
          rw [RobotGateway.onRegisteredEmbodiment_none hv, Option.getD_none]
          exact ⟨by simp [hout], fun _ => ⟨rfl, rfl⟩⟩
      | some ms =>
          obtain ⟨t, ht, hrequests, hparent, hconfigs⟩ :=
            RobotGateway.onRegisteredEmbodiment_object hnull hv g
          rw [ht, Option.getD_some]
          refine ⟨?_, fun _ => ⟨hconfigs, hparent⟩⟩
          rw [hrequests, hout]
          simp [Registers]

/-! ## The first start -/

/-- A start that registers has one request outstanding. -/
theorem start_cases {baseStarted : Bool} {pInstance : SelfInstance}
    {g t : RobotGateway} (h : g.start baseStarted pInstance = some t) :
    (∃ r, t.outstanding = g.outstanding ++ [r] ∧ Registers r) ∧
      t.configTimer = g.configTimer ∧ t.configsFetched = g.configsFetched ∧
      t.parentFetched = g.parentFetched := by
  rw [RobotGateway.start] at h
  split at h
  · cases h
  · dsimp only at h
    split at h
    · cases h
    · cases h
      exact ⟨⟨_, rfl, trivial⟩, rfl, rfl, rfl⟩

theorem replicate_append_sub (a : ℕ) {k m : ℕ} (h : k ≤ m) :
    List.replicate k a ++ List.replicate (m - k) a = List.replicate m a := by
  rw [List.replicate_append_replicate, Nat.add_sub_cancel' h]

/-- After a callback of a busy gateway the requests still belong to its
`Start`. -/
theorem proceed_owners {g : RobotGateway} {s : GatewayService F} {k : ℕ}
    {p : Progress} (hk : k ≤ g.outstanding.length)
    (htimer : s.gateway.configTimer = true → s.timerOwner = s.starts) :
    let t := proceed s.starts (List.replicate k s.starts) g
      { s with progress := p }
    t.owners = List.replicate g.outstanding.length s.starts ∧
      (g.configTimer = true → t.timerOwner = s.starts) := by
  refine ⟨?_, fun hg => ?_⟩
  · simp only [proceed, List.length_replicate]
    exact replicate_append_sub _ hk
  · cases hold : s.gateway.configTimer with
    | false => simp [proceed, hg, hold]
    | true => simp [proceed, hold, htimer hold]

theorem Told.settled {g t : RobotGateway} {p q : Progress} (h : Told g t p q)
    (hp : p.Settled) : q.Settled := by
  rcases hp with hp | ⟨hp, hservices, hparent⟩
  · exact Or.inl (h.registered.trans hp)
  · exact Or.inr ⟨h.registered.trans hp, h.services hservices,
      h.parent hparent⟩

/-- The registration of a busy gateway is answered. -/
theorem Busy.registered_answer {s : GatewayService F} (hs : Busy s)
    (hnone : s.progress.registered = none) (v : Value) :
    let g := { s.gateway with outstanding := [] }
    Busy (proceed s.starts [] ((g.onRegisteredEmbodiment v).getD g) { s with
      progress := { s.progress with registered := some !v.isNull } }) := by
  intro g
  obtain ⟨-, -, hconfigs, hparent⟩ := hs.unregistered hnone
  obtain ⟨hrequests, hflags⟩ := registered_callback (v := v) (g := g) rfl
  obtain ⟨howners, htimer⟩ := proceed_owners (k := 0)
    (p := { s.progress with registered := some !v.isNull })
    (Nat.zero_le ((g.onRegisteredEmbodiment v).getD g).outstanding.length)
    hs.timerOwner
  have hobject : some (!v.isNull) = some true → v.isNull = false := by
    intro h
    simpa using h
  refine ⟨hs.phase, howners, htimer, fun h => ?_, fun _ => hrequests,
    fun h hc => ?_, fun h hp => ?_, fun h => ?_⟩
  · cases h
  · rw [proceed, (hflags (hobject h)).1] at hc
    exact absurd hc (by simp [g, hconfigs])
  · rw [proceed, (hflags (hobject h)).2] at hp
    exact absurd hp (by simp [g, hparent])
  · obtain ⟨-, hsettled⟩ := hs.running h
    rcases hsettled with hsettled | ⟨hsettled, -⟩
    · cases hnone.symm.trans hsettled
    · cases hnone.symm.trans hsettled

/-- A response to a busy gateway. -/
theorem Busy.told {s : GatewayService F} (hs : Busy s) {r : Request} {n : ℕ}
    (hr : s.gateway.outstanding[n]? = some r) (hregisters : ¬Registers r)
    {g : RobotGateway} {q : Progress}
    (htold : Told { s.gateway with
      outstanding := s.gateway.outstanding.eraseIdx n } g s.progress q) :
    Busy (proceed s.starts (s.owners.eraseIdx n) g
      { s with progress := q }) := by
  have hmem : r ∈ s.gateway.outstanding := List.mem_of_getElem? hr
  have hregistered : s.progress.registered ≠ none := by
    intro hnone
    obtain ⟨⟨r', hout, hr'⟩, -⟩ := hs.unregistered hnone
    rw [hout] at hmem
    exact hregisters (List.mem_singleton.mp hmem ▸ hr')
  obtain ⟨rs, hout, hrs⟩ := htold.requests
  have hlen : (s.owners.eraseIdx n) =
      List.replicate (s.gateway.outstanding.eraseIdx n).length s.starts := by
    rw [hs.owners, List.eraseIdx_replicate, List.length_eraseIdx]
    split <;> rfl
  have hle : (s.gateway.outstanding.eraseIdx n).length ≤
      g.outstanding.length := by
    rw [hout]
    simp
  rw [hlen]
  obtain ⟨howners, htimer⟩ := proceed_owners (p := q) hle hs.timerOwner
  refine ⟨hs.phase, howners, htimer, fun h => ?_, fun _ x hx => ?_,
    fun h hconfigs => ?_, fun h hparent => ?_, fun h => ?_⟩
  · exact absurd (htold.registered.symm.trans h) hregistered
  · have hx' : x ∈ s.gateway.outstanding.eraseIdx n ++ rs := hout ▸ hx
    rcases List.mem_append.mp hx' with hx | hx
    · exact hs.registered hregistered x (List.mem_of_mem_eraseIdx hx)
    · exact hrs x hx
  · rcases htold.configsFetched hconfigs with h' | h'
    · exact htold.services (hs.configsFetched (htold.registered.symm.trans h) h')
    · exact h'
  · rcases htold.parentFetched hparent with h' | h'
    · exact htold.parent (hs.parentFetched (htold.registered.symm.trans h) h')
    · exact h'
  · exact ⟨(hs.running h).1, htold.settled (hs.running h).2⟩

/-- The first `Start` registers, or returns false. -/
theorem Idle.start {s : GatewayService F} (hs : Idle s) (baseStarted : Bool)
    (pInstance : SelfInstance) :
    Idle (start baseStarted pInstance s) ∨
      Busy (start baseStarted pInstance s) := by
  rw [GatewayService.start]
  split
  · left
    split
    · exact ⟨hs.phase, hs.outstanding, hs.owners, hs.configsFetched,
        hs.parentFetched, (Bool.or_false _).trans hs.reactor, hs.unarmed⟩
    · exact hs
  · rename_i g hg
    obtain ⟨⟨r, hout, hr⟩, htimer, hconfigs, hparent⟩ := start_cases hg
    rw [hs.outstanding, List.nil_append] at hout
    have hunarmed : s.gateway.configTimer = false := by
      by_contra h
      exact hs.unarmed (Or.inl (Bool.not_eq_false _ ▸ h))
    right
    refine ⟨nofun, ?_, ?_, fun _ => ⟨⟨r, hout, hr⟩, htimer.trans hunarmed,
      hconfigs.trans hs.configsFetched, hparent.trans hs.parentFetched⟩,
      fun h => absurd rfl h, nofun, nofun, nofun⟩
    · simp [hs.owners, hout]
    · intro h
      rw [htimer, hunarmed] at h
      cases h

/-- `Start` returns true when both flags have been set. -/
theorem Busy.returned {s : GatewayService F} (hs : Busy s)
    (hconfigs : s.gateway.configsFetched = true)
    (hparent : s.gateway.parentFetched = true) : Busy (returns s) := by
  refine ⟨nofun, hs.owners, hs.timerOwner, hs.unregistered,
    hs.registered, hs.configsFetched, hs.parentFetched,
    fun _ => ⟨rfl, ?_⟩⟩
  cases hregistered : s.progress.registered with
  | none =>
      obtain ⟨-, -, hfalse, -⟩ := hs.unregistered hregistered
      cases hfalse.symm.trans hconfigs
  | some object =>
      cases object with
      | false => exact Or.inl hregistered
      | true =>
          exact Or.inr ⟨hregistered,
            hs.configsFetched hregistered hconfigs,
            hs.parentFetched hregistered hparent⟩

/-- The configuration timer of a busy gateway expires. -/
theorem Busy.configTimer {s : GatewayService F} (hs : Busy s)
    (hset : s.gateway.configTimer = true) :
    Busy (proceed s.timerOwner s.owners s.gateway.updateConfig s) := by
  have hregistered : s.progress.registered ≠ none := by
    intro hnone
    obtain ⟨-, hunset, -⟩ := hs.unregistered hnone
    cases hunset.symm.trans hset
  have hout : s.gateway.updateConfig.outstanding =
      s.gateway.outstanding ++ [.getServices] := rfl
  rw [hs.owners, hs.timerOwner hset]
  obtain ⟨howners, htimer⟩ := proceed_owners (p := s.progress)
    (g := s.gateway.updateConfig) (k := s.gateway.outstanding.length)
    (by simp [hout]) hs.timerOwner
  refine ⟨hs.phase, howners, htimer,
    fun h => absurd h hregistered, fun _ r hr => ?_,
    hs.configsFetched, hs.parentFetched, hs.running⟩
  rcases List.mem_append.mp hr with hr | hr
  · exact hs.registered hregistered r hr
  · rw [List.mem_singleton.mp hr]
    exact fun h => h

section FirstStart

variable [LinearOrder F] [Zero F] {levelText : ℕ → String}

/-- A response to a busy gateway. -/
theorem Busy.answer {s t : GatewayService F} (hs : Busy s) {n : ℕ}
    {response : Response}
    (ht : step f levelText s (.answer n response) = some t) : Busy t := by
  rw [step] at ht
  split at ht
  · rename_i r owner hr howner
    obtain ⟨g, hg, rfl⟩ := Option.map_eq_some_iff.mp ht
    obtain rfl : owner = s.starts := by
      rw [hs.owners] at howner
      exact List.eq_of_mem_replicate (List.mem_of_getElem? howner)
    rw [RobotGateway.step, hr] at hg
    dsimp only at hg
    split at hg
    · rename_i htakes
      rw [Option.some.injEq] at hg
      by_cases hregisters : Registers r
      · have hmem := List.mem_of_getElem? hr
        have hnone : s.progress.registered = none := by
          by_contra hne
          exact hs.registered hne r hmem hregisters
        obtain ⟨⟨r', hout, -⟩, -⟩ := hs.unregistered hnone
        have hn : n = 0 := by
          have hlt := (List.getElem?_eq_some_iff.mp hr).1
          rw [hout, List.length_singleton] at hlt
          omega
        subst hn
        cases r with
        | registerEmbodiment body =>
            cases response with
            | json v =>
                have herase : s.gateway.outstanding.eraseIdx 0 = [] := by
                  rw [hout]
                  rfl
                have howners : s.owners.eraseIdx 0 = [] := by
                  rw [hs.owners, hout]
                  rfl
                rw [herase] at hg
                dsimp only
                rw [if_pos rfl, howners, ← hg]
                exact hs.registered_answer hnone v
            | services list => cases htakes
        | getOrganization => cases hregisters
        | getOrgAdminList => cases hregisters
        | getServices => cases hregisters
        | getParent parentId => cases hregisters
      · have htold := told_callback (f := f) hregisters htakes
          { s.gateway with outstanding := s.gateway.outstanding.eraseIdx n }
          s.progress
        rw [hg] at htold
        dsimp only
        rw [if_pos rfl]
        exact hs.told hr hregisters htold
    · cases hg
  · cases ht

/-- A step of a gateway that has not been started. -/
theorem Idle.next {s t : GatewayService F} (hs : Idle s) {e : Event F}
    (ht : step f levelText s e = some t) : Idle t ∨ Busy t := by
  cases e with
  | start baseStarted pInstance =>
      rw [step, if_pos hs.phase, Option.some.injEq] at ht
      subst ht
      exact hs.start baseStarted pInstance
  | returns =>
      simp [step, hs.phase] at ht
  | stop =>
      rw [step, if_neg (by simp [hs.phase]), Option.some.injEq] at ht
      subst ht
      left
      refine ⟨rfl, hs.outstanding, hs.owners, hs.configsFetched,
        hs.parentFetched, rfl, ?_⟩
      rintro (h | h | h)
      · cases h
      · cases h
      · exact hs.unarmed (Or.inr (Or.inr h))
  | answer n response =>
      simp [step, hs.outstanding] at ht
  | configTimer =>
      obtain ⟨g, hg, -⟩ := Option.map_eq_some_iff.mp ht
      rw [RobotGateway.step] at hg
      split at hg
      · rename_i h
        exact absurd (Or.inl h) hs.unarmed
      · cases hg
  | heartbeatTimer =>
      rw [step] at ht
      split at ht
      · rename_i h
        exact absurd (Or.inr (Or.inr h)) hs.unarmed
      · cases ht
  | persistLogTimer =>
      obtain ⟨logs, hlogs, -⟩ := Option.map_eq_some_iff.mp ht
      rw [GatewayLogs.step] at hlogs
      split at hlogs
      · rename_i h
        exact absurd (Or.inr (Or.inl h)) hs.unarmed
      · cases hlogs
  | process r =>
      obtain ⟨logs, hlogs, -⟩ := Option.map_eq_some_iff.mp ht
      rw [GatewayLogs.step, hs.reactor] at hlogs
      cases hlogs

/-- A step of a started gateway that does not stop it while it runs. -/
theorem Busy.next {s t : GatewayService F} (hs : Busy s) {e : Event F}
    (he : NeverStopped s e) (ht : step f levelText s e = some t) : Busy t := by
  cases e with
  | start baseStarted pInstance =>
      rw [step, if_neg hs.phase] at ht
      cases ht
  | returns =>
      rw [step] at ht
      split at ht
      · rename_i hflags
        cases ht
        simp only [Bool.and_eq_true, decide_eq_true_eq] at hflags
        obtain ⟨⟨-, hconfigs⟩, hparent⟩ := hflags
        exact hs.returned hconfigs hparent
      · cases ht
  | stop =>
      rw [step] at ht
      split at ht
      · cases ht
      · rename_i hphase
        cases hp : s.phase with
        | stopped => exact absurd hp hs.phase
        | starting => exact absurd hp hphase
        | running => exact absurd hp (he rfl)
  | answer n response => exact hs.answer ht
  | configTimer =>
      obtain ⟨g, hg, rfl⟩ := Option.map_eq_some_iff.mp ht
      rw [RobotGateway.step] at hg
      split at hg
      · rename_i hset
        cases hg
        exact hs.configTimer hset
      · cases hg
  | heartbeatTimer =>
      rw [step] at ht
      split at ht
      · cases ht
        exact hs
      · cases ht
  | persistLogTimer =>
      obtain ⟨logs, -, rfl⟩ := Option.map_eq_some_iff.mp ht
      exact ⟨hs.phase, hs.owners, hs.timerOwner, hs.unregistered,
        hs.registered, hs.configsFetched, hs.parentFetched, hs.running⟩
  | process r =>
      obtain ⟨logs, -, rfl⟩ := Option.map_eq_some_iff.mp ht
      exact ⟨hs.phase, hs.owners, hs.timerOwner, hs.unregistered,
        hs.registered, hs.configsFetched, hs.parentFetched, hs.running⟩

/-! ## When a gateway can be restarted -/

/-- In every run of a new gateway nothing is armed while it is stopped, and
`Start` returns true only when it has been told all it waits for, precisely if
`Stop` is not called after a `Start` that has returned true. -/
theorem restartable_iff (f : Framework) (levelText : ℕ → String)
    (remote parent : Bool) (level : ℕ) (filter : List String)
    (oldest newest : Option F) (es : List (Event F)) :
    Throughout (step f levelText) Restartable
        (new (RobotGateway.new remote parent)
          (GatewayLogs.new level filter oldest newest)) es ↔
      EachStep (step f levelText) NeverStopped
        (new (RobotGateway.new remote parent)
          (GatewayLogs.new level filter oldest newest)) es := by
  refine throughout_iff_eachStep (I := fun s => Idle s ∨ Busy s) ?_ ?_ ?_ ?_
    (eachStep_true _ _)
  · rintro s (hs | hs)
    · exact ⟨fun _ => hs.unarmed, fun h => by cases hs.phase.symm.trans h⟩
    · exact ⟨fun h => absurd h hs.phase, fun h => (hs.running h).2⟩
  · rintro s e t (hs | hs) _ he ht
    · exact hs.next ht
    · exact Or.inr (hs.next he ht)
  · rintro s e t hs - he ht hrestartable
    rw [NeverStopped, Classical.not_imp, not_not] at he
    obtain ⟨rfl, hrunning⟩ := he
    rw [step, if_neg (by simp [hrunning]), Option.some.injEq] at ht
    subst ht
    rcases hs with hs | hs
    · cases hs.phase.symm.trans hrunning
    · exact hrestartable.1 rfl (Or.inr (Or.inr (hs.running hrunning).1))
  · refine Or.inl ⟨rfl, rfl, rfl, rfl, rfl, rfl, ?_⟩
    rintro (h | h | h) <;> cases h

/-- The registration fails, `Start` returns true, and the heartbeat goes on
after `Stop`. -/
theorem not_restartable_stop :
    let pInstance : SelfInstance := ⟨⟨"token", "", "", "", "", ""⟩, "nao"⟩
    ¬Throughout (step ⟨id, fun _ => ""⟩ fun _ => "Status")
      (Restartable (F := ℤ))
      (new (RobotGateway.new true true) (GatewayLogs.new 0 [] none none))
      [.start true pInstance, .answer 0 (.json .null), .returns, .stop] := by
  intro pInstance h
  have hrun : (run (step ⟨id, fun _ => ""⟩ fun _ => "Status")
      (new (F := ℤ) (RobotGateway.new true true)
        (GatewayLogs.new 0 [] none none))
      [.start true pInstance, .answer 0 (.json .null), .returns, .stop]).map
        (fun s => (s.phase, s.heartbeatTimer)) =
      some (.stopped, true) := by decide
  obtain ⟨t, hend, hobs⟩ := h.last hrun
  obtain ⟨hphase, hheartbeat⟩ := Prod.mk.inj hobs
  exact hend.1 hphase (Or.inr (Or.inr hheartbeat))

/-- With flags that are still set from an earlier `Start` the next one returns
true before anything has been answered. -/
theorem returns_at_once {s : GatewayService F} (hphase : s.phase = .stopped)
    (hconfigs : s.gateway.configsFetched = true)
    (hparent : s.gateway.parentFetched = true) {baseStarted : Bool}
    {pInstance : SelfInstance} {g : RobotGateway}
    (hg : s.gateway.start baseStarted pInstance = some g) :
    ∃ t, run (step f levelText) s [.start baseStarted pInstance, .returns] =
        some t ∧ t.phase = .running ∧ ¬t.progress.Settled := by
  obtain ⟨-, -, hconfigs', hparent'⟩ := start_cases hg
  refine ⟨returns (start baseStarted pInstance s), ?_, rfl, ?_⟩
  · have hflags : (start baseStarted pInstance s).phase = .starting ∧
        (start baseStarted pInstance s).gateway.configsFetched = true ∧
        (start baseStarted pInstance s).gateway.parentFetched = true := by
      rw [start, hg]
      exact ⟨rfl, hconfigs'.trans hconfigs, hparent'.trans hparent⟩
    simp [run, step, hphase, hflags]
  · rw [start, hg]
    rintro (h | ⟨h, -⟩) <;> cases h

end FirstStart

end GatewayService

end SelfPlugins.Gateway
