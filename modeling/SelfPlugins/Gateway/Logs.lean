import Mathlib.Algebra.Order.Ring.Int
import SelfPlugins.Library.Extremum
import SelfPlugins.Library.Runs

/-!
# The logs of the robot gateway

`RobotGateway` is a reactor of the log: `Process` collects the records that
pass its level and its filter, and a one-shot timer sends them in one
`persistLog` request together with the time window they span.

`Stop` drops the timer but not the records.  `batched_iff` says that nothing is
lost and that a timer is armed whenever there is something to send, precisely
if no `Stop` comes in between.  The constructor leaves the window
uninitialised; `windows_iff` says for which values the first request has the
right window all the same.

`F` are the doubles that are numbers; a member that holds an arbitrary double
is an `Option F`, where `none` is not a number.
-/

namespace SelfPlugins.Gateway

open Runs

structure LogRecord (F : Type) where
  time : String
  timeEpoch : F
  level : ℕ
  subSystem : String
  message : String

/-- The JSON object made of a record. -/
structure LogEntry (F : Type) where
  time : String
  timeEpoch : F
  level : String
  subsystem : String
  message : String
deriving DecidableEq

/-- The body of a `persistLog` request. -/
structure PersistLog (F : Type) where
  macId : String
  orgId : String
  groupId : String
  startTime : Option F
  endTime : Option F
  logs : List (LogEntry F)

/-- The members of the gateway that have to do with logs; `reactor` tells
whether it is registered with the log, `sent` are the requests, and `accepted`
the records that passed the level and the filter. -/
structure GatewayLogs (F : Type) where
  macId : String
  orgId : String
  groupId : String
  persistLogLevel : ℕ
  persistLogFilter : List String
  persistLogs : List (LogEntry F)
  oldestLogTime : Option F
  newestLogTime : Option F
  persistLogTimer : Bool
  reactor : Bool
  sent : List (PersistLog F)
  accepted : List (LogRecord F)

namespace GatewayLogs

variable {F : Type}

/-- The constructor; it does not initialise the times. -/
def new (persistLogLevel : ℕ) (persistLogFilter : List String)
    (oldest newest : Option F) : GatewayLogs F where
  macId := ""
  orgId := ""
  groupId := ""
  persistLogLevel := persistLogLevel
  persistLogFilter := persistLogFilter
  persistLogs := []
  oldestLogTime := oldest
  newestLogTime := newest
  persistLogTimer := false
  reactor := false
  sent := []
  accepted := []

/-! ## Records -/

/-- The loop of `Process`: `bFiltered` stays true unless the subsystem is
listed. -/
def unlisted (subSystem : String) : List String → Bool
  | [] => true
  | f :: fs => if f = subSystem then false else unlisted subSystem fs

def filtered (persistLogFilter : List String) (subSystem : String) : Bool :=
  persistLogFilter.length > 0 && unlisted subSystem persistLogFilter

/-- A record passes the level test and the subsystem filter. -/
def Passes (s : GatewayLogs F) (r : LogRecord F) : Prop :=
  s.persistLogLevel ≤ r.level ∧
    (s.persistLogFilter = [] ∨ r.subSystem ∈ s.persistLogFilter)

instance (s : GatewayLogs F) (r : LogRecord F) : Decidable (s.Passes r) :=
  inferInstanceAs (Decidable (_ ∧ _))

theorem unlisted_eq_false_iff (subSystem : String) (fs : List String) :
    unlisted subSystem fs = false ↔ subSystem ∈ fs := by
  induction fs with
  | nil => simp [unlisted]
  | cons f fs ih =>
      rw [unlisted, List.mem_cons]
      split
      · rename_i heq
        simp [heq]
      · rename_i hne
        rw [ih]
        simp [Ne.symm hne]

theorem filtered_eq_false_iff (fs : List String) (subSystem : String) :
    filtered fs subSystem = false ↔ fs = [] ∨ subSystem ∈ fs := by
  cases fs with
  | nil => simp [filtered]
  | cons f fs => simp [filtered, unlisted_eq_false_iff]

/-! ## Steps -/

section Steps

variable [LinearOrder F] [Zero F] (levelText : ℕ → String)

def entry (r : LogRecord F) : LogEntry F :=
  ⟨r.time, r.timeEpoch, levelText r.level, r.subSystem, r.message⟩

/-- `m_NewestLogTime` after a time; a zero stands for no time. -/
def newer : Option F → F → Option F := running (· > ·) 0

/-- `m_OldestLogTime` after a time. -/
def older : Option F → F → Option F := running (· < ·) 0

def process (r : LogRecord F) (s : GatewayLogs F) : GatewayLogs F :=
  if s.persistLogLevel ≤ r.level then
    if filtered s.persistLogFilter r.subSystem then s
    else
      { s with
        newestLogTime := newer s.newestLogTime r.timeEpoch
        oldestLogTime := older s.oldestLogTime r.timeEpoch
        persistLogs := s.persistLogs ++ [entry levelText r]
        persistLogTimer := true }
  else s

def onPersistLogs (s : GatewayLogs F) : GatewayLogs F :=
  { s with
    persistLogTimer := false
    sent := s.sent ++ [⟨s.macId, s.orgId, s.groupId, s.oldestLogTime,
      s.newestLogTime, s.persistLogs⟩]
    persistLogs := []
    oldestLogTime := some 0
    newestLogTime := some 0 }

/-- What `Stop` does to the logs. -/
def stop (s : GatewayLogs F) : GatewayLogs F :=
  { s with persistLogTimer := false, reactor := false }

/-- What `Start` does to the logs. -/
def start (macId orgId groupId : String) (registers : Bool)
    (s : GatewayLogs F) : GatewayLogs F :=
  { s with
    macId := macId
    orgId := orgId
    groupId := groupId
    reactor := s.reactor || registers }

/-- The log hands a record to its reactors; the level is changed; the timer
expires; the gateway stops; it starts, reads its identity, and gets as far as
its registration with the log or not. -/
inductive Event (F : Type) where
  | process (r : LogRecord F)
  | setLogLevel (level : ℕ)
  | persistLogTimer
  | stop
  | start (macId orgId groupId : String) (registers : Bool)

def step (s : GatewayLogs F) : Event F → Option (GatewayLogs F)
  | .process r =>
      if s.reactor then
        some { process levelText r s with
          accepted := if s.Passes r then s.accepted ++ [r] else s.accepted }
      else none
  | .setLogLevel level => some { s with persistLogLevel := level }
  | .persistLogTimer =>
      if s.persistLogTimer then some (onPersistLogs s) else none
  | .stop => some (stop s)
  | .start macId orgId groupId registers =>
      some (start macId orgId groupId registers s)

/-- What `Process` does with a record. -/
theorem process_cases (r : LogRecord F) (s : GatewayLogs F) :
    (s.Passes r ∧ process levelText r s =
      { s with
        newestLogTime := newer s.newestLogTime r.timeEpoch
        oldestLogTime := older s.oldestLogTime r.timeEpoch
        persistLogs := s.persistLogs ++ [entry levelText r]
        persistLogTimer := true }) ∨
    (¬s.Passes r ∧ process levelText r s = s) := by
  rw [process, Passes, ← filtered_eq_false_iff]
  by_cases hlevel : s.persistLogLevel ≤ r.level
  · cases hfilter : filtered s.persistLogFilter r.subSystem with
    | false => exact Or.inl ⟨⟨hlevel, rfl⟩, by simp [hlevel]⟩
    | true => exact Or.inr ⟨fun h => absurd h.2 (by simp), by simp⟩
  · exact Or.inr ⟨fun h => hlevel h.1, if_neg hlevel⟩

/-! ## Nothing is lost -/

/-- The requests and the collected records are the accepted records in the
order of their arrival, and a timer is armed if there is something to send. -/
structure Batched (s : GatewayLogs F) : Prop where
  conserved : s.sent.flatMap PersistLog.logs ++ s.persistLogs =
    s.accepted.map (entry levelText)
  armed : s.persistLogs ≠ [] → s.persistLogTimer = true

/-- `Stop` finds nothing to send. -/
def StopsEmpty (s : GatewayLogs F) (e : Event F) : Prop :=
  e = .stop → s.persistLogs = []

variable {levelText}

theorem Batched.next {s t : GatewayLogs F} (hs : Batched levelText s)
    {e : Event F} (ht : step levelText s e = some t) (he : StopsEmpty s e) :
    Batched levelText t := by
  obtain ⟨hconserved, harmed⟩ := hs
  cases e with
  | process r =>
      rw [step] at ht
      split at ht
      · cases ht
        rcases process_cases levelText r s with ⟨hpass, heq⟩ | ⟨hpass, heq⟩
        · rw [heq, if_pos hpass]
          refine ⟨?_, fun _ => rfl⟩
          simp [← hconserved]
        · rw [heq, if_neg hpass]
          exact ⟨hconserved, harmed⟩
      · cases ht
  | setLogLevel level =>
      cases ht
      exact ⟨hconserved, harmed⟩
  | persistLogTimer =>
      rw [step] at ht
      split at ht
      · cases ht
        refine ⟨?_, fun h => absurd rfl h⟩
        simp [onPersistLogs, ← hconserved]
      · cases ht
  | stop =>
      cases ht
      exact ⟨hconserved, fun h => absurd (he rfl) h⟩
  | start macId orgId groupId registers =>
      cases ht
      exact ⟨hconserved, harmed⟩

/-- In every run the records that pass are sent or collected, each once and in
order, and a timer is armed whenever some are collected, precisely if every
`Stop` finds nothing to send. -/
theorem batched_iff (levelText : ℕ → String) (persistLogLevel : ℕ)
    (persistLogFilter : List String) (oldest newest : Option F)
    (es : List (Event F)) :
    Throughout (step levelText) (Batched levelText)
        (new persistLogLevel persistLogFilter oldest newest) es ↔
      EachStep (step levelText) StopsEmpty
        (new persistLogLevel persistLogFilter oldest newest) es := by
  refine throughout_iff_eachStep (I := Batched levelText) (fun _ hs => hs)
    (fun s e t hs _ he ht => hs.next ht he) ?_
    ⟨rfl, fun h => absurd rfl h⟩ (eachStep_true _ _)
  intro s e t _ _ he ht hbatched
  rw [StopsEmpty, Classical.not_imp] at he
  obtain ⟨rfl, hlogs⟩ := he
  cases ht
  exact absurd (hbatched.armed hlogs) Bool.false_ne_true

/-- A gateway that stops while a record is waiting to be sent. -/
theorem not_batched_stop :
    let r : LogRecord ℤ := ⟨"12:00", 1464327800, 2, "Wex", "No answer."⟩
    ¬Throughout (step fun _ => "Status") (Batched fun _ => "Status")
      (new 0 [] (some 0) (some 0))
      [.start "mac" "org" "group" true, .process r, .stop] := by
  intro r h
  have hrun : (run (step fun _ => "Status") (new 0 [] (some 0) (some 0))
      [.start "mac" "org" "group" true, .process r, .stop]).map
        (fun s => (s.persistLogs, s.persistLogTimer)) =
      some ([entry (fun _ => "Status") r], false) := rfl
  obtain ⟨t, hend, hobs⟩ := h.last hrun
  obtain ⟨hlogs, htimer⟩ := Prod.mk.inj hobs
  have harmed := hend.armed (by rw [hlogs]; exact List.cons_ne_nil _ _)
  rw [htimer] at harmed
  cases harmed

/-! ## The time window -/

def times (logs : List (LogEntry F)) : List F := logs.map LogEntry.timeEpoch

/-- `startTime` and `endTime` are the least and the greatest time of the
records of a request. -/
def Window (p : PersistLog F) : Prop :=
  (∃ m, p.startTime = some m ∧ m ∈ times p.logs ∧ ∀ t ∈ times p.logs, m ≤ t) ∧
  ∃ m, p.endTime = some m ∧ m ∈ times p.logs ∧ ∀ t ∈ times p.logs, t ≤ m

/-- The records the log hands over are from after 1970. -/
def Dated (_ : GatewayLogs F) (e : Event F) : Prop :=
  ∀ r, e = .process r → 0 < r.timeEpoch

/-- The values the times had before the first record do no harm to the window
of the first request: each is zero or lies on the right side of one of its
records. -/
def Harmless (oldest newest : Option F) (s : GatewayLogs F) (e : Event F) :
    Prop :=
  e = .persistLogTimer → s.sent = [] →
    (oldest = some 0 ∨
      ∃ v, oldest = some v ∧ ∃ t ∈ times s.persistLogs, t ≤ v) ∧
    (newest = some 0 ∨
      ∃ v, newest = some v ∧ ∃ t ∈ times s.persistLogs, v ≤ t)

/-- What the times stand for between two requests. -/
structure Windowed (oldest newest : Option F) (s : GatewayLogs F) : Prop where
  timer : s.persistLogTimer = true → s.persistLogs ≠ []
  dated : ∀ t ∈ times s.persistLogs, 0 < t
  oldest : s.oldestLogTime = (times s.persistLogs).foldl older
    (if s.sent = [] then oldest else some 0)
  newest : s.newestLogTime = (times s.persistLogs).foldl newer
    (if s.sent = [] then newest else some 0)
  windows : ∀ p ∈ s.sent, Window p

theorem foldl_older_iff {l : List F} (hl : ∀ t ∈ l, 0 < t) (hne : l ≠ [])
    (start : Option F) :
    (∃ m, l.foldl older start = some m ∧ m ∈ l ∧ ∀ t ∈ l, m ≤ t) ↔
      start = some 0 ∨ ∃ v, start = some v ∧ ∃ t ∈ l, t ≤ v := by
  have h := running_isFirst_iff (r := (· < · : F → F → Prop))
    (fun t ht => (hl t ht).ne') hne start
  simp only [IsFirst, not_lt] at h
  exact h

theorem foldl_newer_iff {l : List F} (hl : ∀ t ∈ l, 0 < t) (hne : l ≠ [])
    (start : Option F) :
    (∃ m, l.foldl newer start = some m ∧ m ∈ l ∧ ∀ t ∈ l, t ≤ m) ↔
      start = some 0 ∨ ∃ v, start = some v ∧ ∃ t ∈ l, v ≤ t := by
  have h := running_isFirst_iff (r := (· > · : F → F → Prop))
    (fun t ht => (hl t ht).ne') hne start
  simp only [IsFirst, gt_iff_lt, not_lt] at h
  exact h

/-- The request that is sent when the timer expires has the right window iff
the values before its first record do no harm. -/
theorem window_onPersistLogs_iff {oldest newest : Option F}
    {s : GatewayLogs F} (hs : Windowed oldest newest s)
    (htimer : s.persistLogTimer = true) :
    (∀ p ∈ (onPersistLogs s).sent, Window p) ↔
      Harmless oldest newest s .persistLogTimer := by
  have hne : times s.persistLogs ≠ [] := by
    simpa [times] using hs.timer htimer
  have hlast : (∀ p ∈ (onPersistLogs s).sent, Window p) ↔
      Window ⟨s.macId, s.orgId, s.groupId, s.oldestLogTime, s.newestLogTime,
        s.persistLogs⟩ := by
    constructor
    · intro h
      exact h _ (List.mem_append_right _ List.mem_cons_self)
    · intro h p hp
      rcases List.mem_append.mp hp with hp | hp
      · exact hs.windows p hp
      · rw [List.mem_singleton.mp hp]
        exact h
  rw [hlast, Window, hs.oldest, hs.newest, foldl_older_iff hs.dated hne,
    foldl_newer_iff hs.dated hne, Harmless]
  by_cases hsent : s.sent = []
  · simp [hsent]
  · simp [hsent]

theorem Windowed.next {oldest newest : Option F} {s t : GatewayLogs F}
    (hs : Windowed oldest newest s) {e : Event F}
    (ht : step levelText s e = some t) (hdated : Dated s e)
    (he : Harmless oldest newest s e) : Windowed oldest newest t := by
  have hs' := hs
  obtain ⟨htimer, hpos, holdest, hnewest, hwindows⟩ := hs
  cases e with
  | process r =>
      rw [step] at ht
      split at ht
      · cases ht
        rcases process_cases levelText r s with ⟨-, heq⟩ | ⟨-, heq⟩
        · rw [heq]
          refine ⟨fun _ => by simp, ?_, ?_, ?_, hwindows⟩
          · intro t ht
            simp only [times, List.map_append, List.mem_append] at ht
            rcases ht with ht | ht
            · exact hpos t ht
            · rw [List.mem_singleton.mp ht]
              exact hdated r rfl
          · simp [times, holdest, entry]
          · simp [times, hnewest, entry]
        · rw [heq]
          exact ⟨htimer, hpos, holdest, hnewest, hwindows⟩
      · cases ht
  | setLogLevel level =>
      cases ht
      exact ⟨htimer, hpos, holdest, hnewest, hwindows⟩
  | persistLogTimer =>
      rw [step] at ht
      split at ht
      · rename_i harmed
        cases ht
        refine ⟨fun h => absurd h Bool.false_ne_true, by simp [times,
          onPersistLogs], ?_, ?_, (window_onPersistLogs_iff hs' harmed).mpr he⟩
        · simp [times, onPersistLogs]
        · simp [times, onPersistLogs]
      · cases ht
  | stop =>
      cases ht
      exact ⟨fun h => absurd h Bool.false_ne_true, hpos, holdest, hnewest,
        hwindows⟩
  | start macId orgId groupId registers =>
      cases ht
      exact ⟨htimer, hpos, holdest, hnewest, hwindows⟩

/-- In every run of a new gateway, with records from after 1970, all requests
have the right window precisely if the values the constructor leaves in the
times do no harm to the first of them. -/
theorem windows_iff (levelText : ℕ → String) (persistLogLevel : ℕ)
    (persistLogFilter : List String) (oldest newest : Option F)
    {es : List (Event F)}
    (hdated : EachStep (step levelText) Dated
      (new persistLogLevel persistLogFilter oldest newest) es) :
    Throughout (step levelText) (fun s => ∀ p ∈ s.sent, Window p)
        (new persistLogLevel persistLogFilter oldest newest) es ↔
      EachStep (step levelText) (Harmless oldest newest)
        (new persistLogLevel persistLogFilter oldest newest) es := by
  refine throughout_iff_eachStep (I := Windowed oldest newest)
    (fun _ hs => hs.windows)
    (fun s e t hs hdated he ht => hs.next ht hdated he) ?_ ?_ hdated
  · intro s e t hs _ he ht hwindows
    have hexpires : e = .persistLogTimer := by
      by_contra hne
      exact he fun h => absurd h hne
    subst hexpires
    rw [step] at ht
    split at ht
    · rename_i harmed
      cases ht
      exact he ((window_onPersistLogs_iff hs harmed).mp hwindows)
    · cases ht
  · exact ⟨fun h => absurd h Bool.false_ne_true, by simp [times, new], rfl, rfl,
      by simp [new]⟩

/-- The constructor happens to leave 7 in the older time: the window of the
first request begins long before its only record. -/
theorem not_windows_uninitialised :
    let r : LogRecord ℤ := ⟨"12:00", 1464327800, 2, "Wex", "No answer."⟩
    ¬Throughout (step fun _ => "Status") (fun s => ∀ p ∈ s.sent, Window p)
      (new 0 [] (some 7) (some 0))
      [.start "mac" "org" "group" true, .process r, .persistLogTimer] := by
  intro r h
  have hrun : (run (step fun _ => "Status") (new 0 [] (some 7) (some 0))
      [.start "mac" "org" "group" true, .process r, .persistLogTimer]).map
        (fun s => s.sent.map fun p => (p.startTime, times p.logs)) =
      some [(some 7, [1464327800])] := by decide
  obtain ⟨t, hend, hsent⟩ := h.last hrun
  obtain ⟨p, hp, hwindow⟩ : ∃ p ∈ t.sent,
      (p.startTime, times p.logs) = (some 7, [1464327800]) := by
    rw [← List.mem_map, hsent]
    exact List.mem_cons_self
  obtain ⟨hstart, htimes⟩ := Prod.mk.inj hwindow
  obtain ⟨⟨m, hm, hmem, -⟩, -⟩ := hend p hp
  rw [htimes, List.mem_singleton] at hmem
  rw [hstart, hmem] at hm
  revert hm
  decide

/-- A gateway that happens to be all zeros. -/
theorem windows_iff_zero :
    let r : LogRecord ℤ := ⟨"12:00", 1464327800, 2, "Wex", "No answer."⟩
    Throughout (step fun _ => "Status") (fun s => ∀ p ∈ s.sent, Window p)
      (new 0 [] (some 0) (some 0))
      [.start "mac" "org" "group" true, .process r, .persistLogTimer] := by
  intro r
  have hdated : EachStep (step fun _ => "Status") Dated
      (new 0 [] (some 0) (some 0))
      [.start "mac" "org" "group" true, .process r, .persistLogTimer] := by
    refine fun t _ => ⟨fun r hr => ?_, fun u _ => ⟨fun r hr => ?_, fun v _ =>
      ⟨fun r hr => ?_, trivial⟩⟩⟩
    · cases hr
    · cases hr
      decide
    · cases hr
  refine (windows_iff (fun _ => "Status") 0 [] (some 0) (some 0) hdated).mpr ?_
  exact fun t _ => ⟨fun _ _ => ⟨Or.inl rfl, Or.inl rfl⟩, fun u _ =>
    ⟨fun _ _ => ⟨Or.inl rfl, Or.inl rfl⟩, fun v _ =>
      ⟨fun _ _ => ⟨Or.inl rfl, Or.inl rfl⟩, trivial⟩⟩⟩

end Steps

end GatewayLogs

end SelfPlugins.Gateway
