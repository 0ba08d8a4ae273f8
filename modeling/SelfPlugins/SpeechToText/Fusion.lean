import Mathlib.Algebra.Order.Ring.Rat
import Mathlib.Data.List.Perm.Subperm
import SelfPlugins.SpeechToText.Results

/-!
# Speech to text: does a finalisation compare all models?

A finalisation is due when `m_ResultList` has as many entries as there are
models, or when `m_fResultDelay` seconds have passed since the last result.  In
the first case the number of the entries is taken to mean that every connection
has answered.  This is so precisely when the entries come from different
connections of the present session.
-/

namespace SelfPlugins.Stt

open Runs

/-- A list as long as a set covers it precisely when it has no entry twice and
none from outside. -/
theorem covers_iff_nodup {α : Type} {l m : List α} (hm : m.Nodup)
    (hlength : l.length = m.length) :
    (∀ x ∈ m, x ∈ l) ↔ l.Nodup ∧ ∀ x ∈ l, x ∈ m := by
  constructor
  · intro h
    have hperm : m.Perm l :=
      (hm.subperm h).perm_of_length_le (Nat.le_of_eq hlength)
    exact ⟨hperm.nodup_iff.mp hm, fun x => hperm.mem_iff.mpr⟩
  · rintro ⟨hl, h⟩ x hx
    have hperm : l.Perm m :=
      (hl.subperm h).perm_of_length_le (Nat.le_of_eq hlength.symm)
    exact hperm.mem_iff.mpr hx

/-- The connections that `StartListening` has still to add. -/
def Loop.remaining : Loop → ℕ
  | .starting _ models => models.length + 1
  | .idle | .refreshing _ => 0

namespace SpeechToText

/-! ## The number of the connections -/

/-- There is a connection for each model. -/
def Counted (core : Recognition × List ConnId × Loop) : Prop :=
  core.1.listening = true →
    core.2.1.length + core.2.2.remaining = core.1.models

theorem Counted.connections {s : SpeechToText} (h : Counted s.core)
    (hidle : s.Idle) (hlistening : s.isListening = true) :
    s.connections.length = s.settings.models.length := by
  have hcount : s.connections.length + s.loop.remaining =
      s.settings.models.length := h hlistening
  rwa [hidle.2, Loop.remaining, Nat.add_zero] at hcount

theorem counted_startNext {s : SpeechToText} {models : List String}
    (h : s.isListening = true →
      s.connections.length + models.length = s.settings.models.length) :
    Counted (startNext models s).core := by
  cases models with
  | nil => exact h
  | cons model rest =>
      rw [startNext, core_createListenConnector]
      exact h

theorem counted_refreshNext {s : SpeechToText} {cs : List ConnId}
    (h : s.isListening = true →
      s.connections.length = s.settings.models.length) :
    Counted (refreshNext cs s).core := by
  cases cs with
  | nil => exact h
  | cons c rest =>
      rw [refreshNext, core_refresh]
      exact h

theorem counted_resume {s : SpeechToText} (h : Counted s.core) :
    Counted (resume s).core := by
  rw [resume]
  split
  · cases hloop : s.loop with
    | idle => exact h
    | starting c models =>
        apply counted_startNext
        intro hlistening
        have hcount : s.connections.length + s.loop.remaining =
            s.settings.models.length := h hlistening
        rw [hloop, Loop.remaining] at hcount
        simp only [List.length_append, List.length_singleton]
        omega
    | refreshing cs =>
        apply counted_refreshNext
        intro hlistening
        have hcount : s.connections.length + s.loop.remaining =
            s.settings.models.length := h hlistening
        rwa [hloop, Loop.remaining, Nat.add_zero] at hcount
  · exact h

theorem counted_stopped {core : Recognition × List ConnId × Loop}
    (h : Counted core) : Counted (stopped core) := by
  by_cases hlistening : core.1.listening = true
  · intro hstopped
    simp [stopped, Recognition.stop, hlistening] at hstopped
  · simpa [stopped, Recognition.stop, hlistening] using h

theorem Steady.counted {s t : SpeechToText} (hst : Steady s t)
    (h : Counted s.core) : Counted t.core := by
  rcases hst with hst | hst
  · rw [hst]
    exact h
  · rw [hst]
    exact counted_stopped h

/-- A function that is quiet, or stops the service. -/
theorem counted_of_cases {s t : SpeechToText} (h : Counted s.core)
    (hmodels : t.recognition.models = s.recognition.models)
    (hcases : Quiet s t ∨ ∃ u, Quiet s u ∧ Quiet (stopListening u) t) :
    Counted t.core := by
  intro hlistening
  have hlistening' : t.isListening = true := hlistening
  rcases hcases with hst | ⟨u, -, hut⟩
  · rw [hst.isListening] at hlistening'
    have hcount := h hlistening'
    simp only [core, hst.connections, hst.loop, hmodels] at hcount ⊢
    exact hcount
  · rw [hut.isListening, stopListening] at hlistening'
    split at hlistening'
    · cases hlistening'
    · rename_i hsilent
      exact absurd hlistening' hsilent

theorem counted_startListening {s : SpeechToText} (h : Counted s.core)
    (hsilent : s.isListening = false → s.connections = [])
    (callback : Option CallbackId) :
    Counted (startListening callback s).core := by
  cases callback with
  | none => exact h
  | some callback =>
      rw [startListening]
      split
      · exact h
      · rename_i hnot
        apply counted_startNext
        intro _
        rw [hsilent (Bool.eq_false_iff.mpr hnot)]
        exact Nat.zero_add _

theorem counted_step {s t : SpeechToText} {e : Event} (hinv : Inv False s)
    (h : Counted s.core) (ht : step s e = some t) : Counted t.core := by
  have hmodels := models_step ht
  cases e with
  | startListening callback =>
      obtain ⟨hidle, rfl⟩ := whenIdle_eq_some ht
      exact counted_startListening h (hinv.resting_of_idle hidle).silent callback
  | stopListening =>
      obtain ⟨-, rfl⟩ := whenIdle_eq_some ht
      rw [core_stopListening]
      exact counted_stopped h
  | setLearningOptOut flag =>
      obtain ⟨hidle, rfl⟩ := whenIdle_eq_some ht
      rw [setLearningOptOut]
      split
      · exact h
      · have hquiet : Quiet s { s with learningOptOut := flag } :=
          { Quiet.refl s with }
        have hstopped := inv_stopListening (hinv.quiet hquiet)
          (hidle.quiet hquiet)
        apply counted_startListening
        · rw [core_stopListening]
          exact counted_stopped h
        · exact (hstopped.resting_of_idle
            (idle_stopListening (hidle.quiet hquiet))).silent
  | refreshConnections =>
      obtain ⟨hidle, rfl⟩ := whenIdle_eq_some ht
      rw [refreshConnections]
      split
      · apply counted_refreshNext
        intro hlistening
        exact Counted.connections h hidle hlistening
      · exact h
  | disconnected =>
      obtain ⟨-, rfl⟩ := whenIdle_eq_some ht
      rw [core_disconnectAll]
      exact h
  | onListen clip =>
      obtain ⟨-, rfl⟩ := whenIdle_eq_some ht
      rw [core_onListen]
      exact h
  | frame k frame =>
      obtain ⟨-, -, rfl⟩ := of_step_frame ht
      exact counted_of_cases h hmodels (onListenMessage_cases _ frame s)
  | socket k st =>
      obtain ⟨-, rfl⟩ := of_socketChanges ht
      exact h
  | notify k => exact (steady_notify ht).counted h
  | sendNotifies st => exact (steady_sendNotifies ht).counted h
  | sendReturns ok st =>
      obtain ⟨u, hu, rfl⟩ := steady_sendReturns ht
      exact counted_resume (hu.counted h)
  | reconnectTimer c => exact (steady_reconnectTimer ht).counted h
  | resultTimer =>
      obtain ⟨-, -, rfl⟩ := of_step_resultTimer ht
      exact counted_of_cases h hmodels (onFinalizeResult_cases s)
  | elapse seconds =>
      obtain rfl := of_step_elapse ht
      exact h
  | invalidate =>
      cases ht
      exact h

/-! ## Early finalisations -/

/-- The service and the time at which it received the last result. -/
structure Timed where
  service : SpeechToText
  last : ℚ

namespace Timed

/-- The time of the last result, with the one that an event brings. -/
def lastResult (p : Timed) (e : Event) : ℚ :=
  if received p.service e = [] then p.last else p.service.now

/-- The timer pool does not let the result timer expire before its delay is
over. -/
def next (delay : ℚ) (p : Timed) (e : Event) : Option Timed :=
  if e = .resultTimer ∧ p.service.now < p.last + delay then none
  else (step p.service e).map fun t => ⟨t, p.lastResult e⟩

def new (settings : Settings) : Timed := ⟨SpeechToText.new settings, 0⟩

/-- A finalisation before the delay is over has a result of each connection,
and delivers one that none of them exceeds. -/
def Fuses (delay : ℚ) (p : Timed) (e : Event) : Prop :=
  ∀ t l, p.next delay e = some t → finalized p.service e = some l →
    p.service.now < p.lastResult e + delay →
    (∀ c ∈ p.service.connections, ∃ r ∈ l, r.conn = c) ∧
      ∀ callback, p.service.listenCallback = some callback → ∃ best,
        t.service.delivered = p.service.delivered ++ [(callback, some best)] ∧
          ∀ r ∈ l, r.confidence ≤ best.confidence

/-- When a frame completes the number of results, all of them come from
different connections of the present session. -/
def Separate (delay : ℚ) (p : Timed) (e : Event) : Prop :=
  ∀ k confidence final, e = .frame k (.results confidence final) → 0 < delay →
    p.service.settings.models.length ≤ p.service.resultList.length + 1 →
    (p.service.resultList.map RecognizeResults.conn ++
        [(p.service.sockets k).owner]).Nodup ∧
      ∀ r ∈ p.service.resultList, r.conn ∈ p.service.connections

structure Sound (p : Timed) : Prop where
  inv : Inv False p.service
  counted : Counted p.service.core
  results : p.service.recognition.Sound

theorem sound_new (settings : Settings) : Sound (new settings) where
  inv := inv_new settings
  counted := fun h => by cases h
  results := SpeechToText.sound_new settings

theorem step_of_next {delay : ℚ} {p q : Timed} {e : Event}
    (h : p.next delay e = some q) : step p.service e = some q.service := by
  rw [next] at h
  split at h
  · cases h
  · obtain ⟨t, ht, rfl⟩ := Option.map_eq_some_iff.mp h
    exact ht

theorem Sound.next {delay : ℚ} {p q : Timed} {e : Event} (h : p.Sound)
    (hq : p.next delay e = some q) : q.Sound := by
  have ht := step_of_next hq
  exact ⟨inv_step h.inv False.elim ht, counted_step h.inv h.counted ht,
    sound_step h.results ht⟩

theorem lastResult_results (p : Timed) (k : SocketId) (confidence : ℚ)
    (final : Bool) :
    p.lastResult (.frame k (.results confidence final)) = p.service.now :=
  if_neg (List.cons_ne_nil _ _)

/-- Only a frame that completes the number of results leads to an early
finalisation. -/
theorem early_cases {delay : ℚ} {p q : Timed} {e : Event}
    (hq : p.next delay e = some q) {l : List RecognizeResults}
    (hl : finalized p.service e = some l)
    (hearly : p.service.now < p.lastResult e + delay) :
    ∃ k confidence final, e = .frame k (.results confidence final) ∧
      0 < delay ∧
      p.service.settings.models.length ≤ p.service.resultList.length + 1 ∧
      l = p.service.resultList ++
        [newResult k confidence final p.service] := by
  obtain ⟨i, hi, hdue⟩ := Option.bind_eq_some_iff.mp hl
  rcases Recognition.next_cases p.service.recognition i with
    ⟨x, rfl⟩ | rfl | ⟨-, hnone, -⟩
  · obtain ⟨k, confidence, final, rfl, rfl⟩ := eq_results hi
    rw [lastResult_results, lt_add_iff_pos_right] at hearly
    simp only [Recognition.due] at hdue
    split at hdue
    · rename_i hfull
      rw [List.length_append, List.length_singleton] at hfull
      exact ⟨k, confidence, final, rfl, hearly, hfull,
        (Option.some.inj hdue).symm⟩
    · cases hdue
  · obtain rfl := eq_resultTimer hi
    have hlast : p.lastResult .resultTimer = p.last := if_pos rfl
    rw [hlast] at hearly
    rw [next, if_pos ⟨rfl, hearly⟩] at hq
    cases hq
  · rw [hnone] at hdue
    cases hdue

theorem finalized_of_full {s : SpeechToText} (k : SocketId) (confidence : ℚ)
    (final : Bool) (hfull : s.settings.models.length ≤ s.resultList.length + 1) :
    finalized s (.frame k (.results confidence final)) =
      some (s.resultList ++ [newResult k confidence final s]) := by
  have hfull' : s.recognition.models ≤ (s.recognition.pending ++
      [newResult k confidence final s]).length := by
    rw [List.length_append]
    exact hfull
  exact if_pos hfull'

/-- At the end of a round there are as many results as connections. -/
theorem Sound.length_eq {p : Timed} (h : p.Sound) (hidle : p.service.Idle)
    {c : ConnId} (hc : c ∈ p.service.connections)
    (hfull : p.service.settings.models.length ≤
      p.service.resultList.length + 1) :
    p.service.resultList.length + 1 = p.service.connections.length := by
  have hlistening : p.service.isListening = true := by
    by_contra hsilent
    rw [(h.inv.resting_of_idle hidle).silent (Bool.eq_false_iff.mpr hsilent)]
      at hc
    cases hc
  have hcount := h.counted.connections hidle hlistening
  have hpos := List.length_pos_of_mem hc
  by_cases hempty : p.service.resultList = []
  · rw [hempty, List.length_nil] at hfull ⊢
    omega
  · have hshort : p.service.resultList.length <
        p.service.settings.models.length := h.results.short hempty
    omega

/-- The results cover the connections precisely when they are separate. -/
theorem Sound.covers_iff {p q : Timed} {delay : ℚ} (h : p.Sound)
    {k : SocketId} {confidence : ℚ} {final : Bool}
    (hq : p.next delay (.frame k (.results confidence final)) = some q)
    (hfull : p.service.settings.models.length ≤
      p.service.resultList.length + 1) :
    (∀ c ∈ p.service.connections, ∃ r ∈ p.service.resultList ++
        [newResult k confidence final p.service], r.conn = c) ↔
      (p.service.resultList.map RecognizeResults.conn ++
          [(p.service.sockets k).owner]).Nodup ∧
        ∀ r ∈ p.service.resultList, r.conn ∈ p.service.connections := by
  obtain ⟨hidle, hk, -⟩ := of_step_frame (step_of_next hq)
  have hnodup := (h.inv.resting_of_idle hidle).nodup
  have hlength := h.length_eq hidle hk hfull
  have hconns : (p.service.resultList ++
      [newResult k confidence final p.service]).map RecognizeResults.conn =
      p.service.resultList.map RecognizeResults.conn ++
        [(p.service.sockets k).owner] := List.map_append
  have hcovers := covers_iff_nodup (l := p.service.resultList.map
    RecognizeResults.conn ++ [(p.service.sockets k).owner]) hnodup
    (by simpa using hlength)
  rw [← hconns] at hcovers ⊢
  simp only [List.mem_map] at hcovers
  rw [hcovers]
  apply and_congr_right
  intro _
  constructor
  · exact fun hall r hr => hall _ ⟨r, List.mem_append_left _ hr, rfl⟩
  · rintro hall c ⟨r, hr, rfl⟩
    rcases List.mem_append.mp hr with hr | hr
    · exact hall r hr
    · rw [List.mem_singleton.mp hr]
      exact hk

theorem Sound.fuses_iff {p q : Timed} {delay : ℚ} (h : p.Sound) {e : Event}
    (hq : p.next delay e = some q) :
    p.Fuses delay e ↔ p.Separate delay e := by
  constructor
  · rintro hfuses k confidence final rfl hdelay hfull
    have hearly : p.service.now < p.lastResult
        (.frame k (.results confidence final)) + delay := by
      rw [lastResult_results, lt_add_iff_pos_right]
      exact hdelay
    exact (h.covers_iff hq hfull).mp
      (hfuses q _ hq (finalized_of_full k confidence final hfull) hearly).1
  · intro hseparate t l ht hl hearly
    obtain ⟨k, confidence, final, rfl, hdelay, hfull, rfl⟩ :=
      early_cases ht hl hearly
    refine ⟨(h.covers_iff hq hfull).mpr
      (hseparate k confidence final rfl hdelay hfull), ?_⟩
    intro callback hcallback
    have hdelivers := delivers_step h.results (step_of_next ht)
    rw [hl, hcallback] at hdelivers
    obtain ⟨best, hbest, hdelivered⟩ := hdelivers
    exact ⟨best, hdelivered, fun r hr => hbest.le hr⟩

end Timed

/-- In every run, the early finalisations are those of all models precisely in
the steps whose results are separate. -/
theorem fuses_iff_separate (settings : Settings) (delay : ℚ)
    (es : List Event) :
    EachStep (Timed.next delay) (Timed.Fuses delay) (Timed.new settings) es ↔
      EachStep (Timed.next delay) (Timed.Separate delay)
        (Timed.new settings) es := by
  apply eachStep_congr (I := Timed.Sound) (L := fun _ => True)
  · exact fun p e q h _ hq => h.next hq
  · exact fun p e q h _ hq => h.fuses_iff hq
  · exact Timed.sound_new settings
  · exact fun _ _ => trivial

/-- Both connections are established, and the first one sends a result. -/
def answeredOnce : List Event :=
  [.startListening (some 0), .sendReturns true .connected,
    .sendReturns true .connected, .frame 0 (.results (1 / 2) false)]

/-- A second result of the first connection is taken for the result of the
other one. -/
theorem not_fuses_second_result :
    ¬EachStep (Timed.next 1) (Timed.Fuses 1) (Timed.new twoModels)
      (answeredOnce ++ [.frame 0 (.results (3 / 4) true)]) := by
  intro h
  have hstate : (run (Timed.next 1) (Timed.new twoModels) answeredOnce).map
      (fun p => (p.service.settings.models.length, p.service.connections,
        p.service.resultList.map RecognizeResults.conn,
        (p.service.sockets 0).owner,
        (p.next 1 (.frame 0 (.results (3 / 4) true))).isSome)) =
      some (2, [0, 1], [0], 0, true) := rfl
  obtain ⟨p, hrun, hp⟩ := Option.map_eq_some_iff.mp hstate
  simp only [Prod.mk.injEq] at hp
  obtain ⟨hmodels, hconnections, hresults, howner, hnext⟩ := hp
  obtain ⟨q, hq⟩ := Option.isSome_iff_exists.mp hnext
  have hlength : p.service.resultList.length = 1 := by
    rw [← List.length_map, hresults, List.length_singleton]
  have hfull : p.service.settings.models.length ≤
      p.service.resultList.length + 1 := by omega
  have hearly : p.service.now < p.lastResult
      (.frame 0 (.results (3 / 4) true)) + 1 := by
    rw [Timed.lastResult_results, lt_add_iff_pos_right]
    exact zero_lt_one
  have hfuses := (h.after hrun q hq).1
  have hone : 1 ∈ p.service.connections := by
    rw [hconnections]
    decide
  obtain ⟨r, hr, hconn⟩ := (hfuses q _ hq
    (Timed.finalized_of_full 0 _ _ hfull) hearly).1 1 hone
  have hmem : r.conn ∈ p.service.resultList.map RecognizeResults.conn ++
      [(p.service.sockets 0).owner] := by
    have hmap := List.mem_map_of_mem (f := RecognizeResults.conn) hr
    rw [List.map_append] at hmap
    exact hmap
  rw [hconn, hresults, howner] at hmem
  exact absurd hmem (by decide)

end SpeechToText

end SelfPlugins.Stt
