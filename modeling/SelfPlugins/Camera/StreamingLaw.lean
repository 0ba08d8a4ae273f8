import SelfPlugins.Camera.Streaming

/-!
# Which runs of the streaming cameras are lawful

While the runs are lawful, a camera has one thread at most.  The cameras of the
NAO are then lawful as long as `OnStop` is not called on a thread when
`m_ThreadStopped` is still set from an earlier one; the other two as long as
`OnStop` is not called on a thread that has not been entered, and no thread of
a later cycle gets to look at `m_StopThread`, which is still set.
-/

namespace SelfPlugins.Streaming

open Runs Streaming.Camera

namespace Camera

variable {s s' : Camera} {t : StreamingThread} {n : ℕ} {resets fails : Bool}

/-! ## One thread at a time -/

/-- What holds of every class while its runs are lawful. -/
structure Tracked (s : Camera) : Prop extends Lawful s where
  one : s.threads = [] ∨ ∃ t, s.threads = [t]
  idle : s.call = .idle → s.threads = []
  stopping : s.call = .stopping → s.m_StopThread = true
  marked : s.call = .stopping → ∀ t ∈ s.threads, t.stopped = true

/-- The thread that takes a step is the only one. -/
theorem Tracked.sole (h : Tracked s) (hn : s.threads[n]? = some t) :
    s.threads = [t] ∧ n = 0 := by
  rcases h.one with hnil | ⟨t', hsingle⟩
  · simp [hnil] at hn
  · rw [hsingle] at hn ⊢
    have hlt := (List.getElem?_eq_some_iff.mp hn).1
    obtain rfl : n = 0 := Nat.lt_one_iff.mp hlt
    obtain rfl := Option.some.inj hn
    exact ⟨rfl, rfl⟩

/-- A thread that goes on is the only one still. -/
theorem Tracked.set {t' : StreamingThread} (h : Tracked s)
    (hsingle : s.threads = [t]) (hset : s'.threads = s.threads.set 0 t')
    (hcall : s'.call = s.call) (hstop : s'.m_StopThread = s.m_StopThread)
    (hflag : s'.m_ThreadStopped = true → s.m_ThreadStopped = true)
    (hmark : t.stopped = true → t'.stopped = true)
    (hpoll : t'.phase = .leaving → t'.stopped = true ∨ t'.failed = true) :
    Tracked s' := by
  have hthreads : s'.threads = [t'] := by rw [hset, hsingle]; rfl
  have hmem : ∀ u ∈ s'.threads, u = t' := by
    rw [hthreads]
    exact fun u hu => List.mem_singleton.mp hu
  have hne : s.threads ≠ [] := by rw [hsingle]; exact List.cons_ne_nil t []
  refine ⟨⟨fun u hu => hmem u hu ▸ hpoll, fun hstopping htrue => ?_⟩,
    Or.inr ⟨t', hthreads⟩, fun hidle => ?_, fun hstopping => ?_,
    fun hstopping u hu => ?_⟩
  · exact absurd (h.stops (hcall ▸ hstopping) (hflag htrue)) hne
  · exact absurd (h.idle (hcall ▸ hidle)) hne
  · exact hstop.trans (h.stopping (hcall ▸ hstopping))
  · rw [hmem u hu]
    refine hmark (h.marked (hcall ▸ hstopping) t ?_)
    rw [hsingle]
    exact List.mem_singleton_self t

/-- Without threads there is little to hold. -/
theorem tracked_of_nil (hthreads : s.threads = [])
    (hstopping : s.call = .stopping → s.m_StopThread = true) : Tracked s where
  polls := fun t ht => by rw [hthreads] at ht; cases ht
  stops := fun _ _ => hthreads
  one := Or.inl hthreads
  idle := fun _ => hthreads
  stopping := hstopping
  marked := fun _ t ht => by rw [hthreads] at ht; cases ht

theorem Tracked.advance (h : Tracked s) (hn : s.threads[n]? = some t)
    (hpoll : t.phase = .checking → s.m_StopThread = true →
      t.stopped = true ∨ t.failed = true) :
    Tracked (advance resets n t fails s) := by
  obtain ⟨hsingle, rfl⟩ := h.sole hn
  unfold Camera.advance
  split
  · refine h.set hsingle rfl rfl rfl
      (fun htrue => (Bool.and_eq_true_iff.mp htrue).1) ?_ ?_
    · cases fails <;> exact id
    · cases fails with
      | true => exact fun _ => Or.inr rfl
      | false => nofun
  · rename_i hphase
    refine h.set hsingle rfl rfl rfl id id fun hleaving => ?_
    cases hstop : s.m_StopThread with
    | true => exact hpoll hphase hstop
    | false => simp [hstop] at hleaving
  · refine h.set hsingle rfl rfl rfl id ?_ ?_
    · cases fails <;> exact id
    · cases fails with
      | true => exact fun _ => Or.inr rfl
      | false => nofun
  · exact tracked_of_nil (by rw [hsingle]; rfl) h.stopping

theorem Tracked.onStop (h : Tracked s)
    (hlaw : s.m_ThreadStopped = true → s.threads = []) :
    Tracked (onStop s) where
  polls := fun t ht _ => by
    obtain ⟨t', -, rfl⟩ := List.mem_map.mp ht
    exact Or.inl rfl
  stops := fun _ htrue => by rw [Camera.onStop, hlaw htrue]; rfl
  one := by
    rcases h.one with hnil | ⟨t, hsingle⟩
    · exact Or.inl (by rw [Camera.onStop, hnil]; rfl)
    · exact Or.inr ⟨_, by rw [Camera.onStop, hsingle]; rfl⟩
  idle := nofun
  stopping := fun _ => rfl
  marked := fun _ t ht => by
    obtain ⟨t', -, rfl⟩ := List.mem_map.mp ht
    rfl

theorem not_lawful_onStop (hflag : s.m_ThreadStopped = true)
    (hne : s.threads ≠ []) : ¬Lawful (onStop s) := fun h =>
  hne (List.map_eq_nil_iff.mp (h.stops rfl hflag))

theorem Tracked.returns (h : Tracked s) (ht : returns s = some s') :
    Tracked s' := by
  obtain ⟨⟨hcall, hflag⟩, ht⟩ := Option.ite_none_right_eq_some.mp ht
  obtain rfl := Option.some.inj ht
  exact tracked_of_nil (h.stops hcall hflag) nofun

theorem Tracked.start {onStart : Camera → Camera} (h : Tracked s)
    (hone : s.threads = [] → (onStart s).threads = [] ∨
      (onStart s).threads = [{ cycle := s.stops }])
    (ht : start onStart s = some s') : Tracked s' := by
  obtain ⟨hidle, ht⟩ := Option.ite_none_right_eq_some.mp ht
  obtain rfl := Option.some.inj ht
  rcases hone (h.idle hidle) with hnil | hsingle
  · exact tracked_of_nil hnil nofun
  · refine ⟨⟨fun t ht => ?_, nofun⟩, Or.inr ⟨_, hsingle⟩, nofun, nofun, nofun⟩
    change t ∈ (onStart s).threads at ht
    rw [hsingle, List.mem_singleton] at ht
    rw [ht]
    exact nofun

end Camera

/-! ## The cameras of the NAO -/

namespace NaoCamera

/-- `OnStop` is called when the thread has ended, or in the first cycle on an
object whose `m_ThreadStopped` happens not to be set. -/
def Clean (undefined : Bool) (s : Camera) : CameraEvent Unit → Prop
  | .stop => s.threads = [] ∨ (undefined = false ∧ s.ended = 0)
  | _ => True

/-- The invariant of lawful runs. -/
structure Tended (undefined : Bool) (s : Camera) : Prop
    extends Tracked s where
  running : s.call = .started → s.m_StopThread = false
  flag : s.m_ThreadStopped = true ↔ undefined = true ∨ 0 < s.ended

variable {undefined : Bool} {s s' : Camera} {e : CameraEvent Unit}

theorem tended_new (undefined : Bool) : Tended undefined (new undefined) where
  toTracked := tracked_of_nil rfl nofun
  running := nofun
  flag := (or_iff_left (Nat.lt_irrefl 0)).symm

/-- A thread that looks at `m_StopThread` has been stopped if it is set. -/
theorem Tended.poll {t : StreamingThread} (h : Tended undefined s)
    (ht : t ∈ s.threads) (hstop : s.m_StopThread = true) :
    t.stopped = true := by
  cases hcall : s.call with
  | idle =>
      rw [h.idle hcall] at ht
      cases ht
  | started =>
      rw [h.running hcall] at hstop
      cases hstop
  | stopping => exact h.marked hcall t ht

theorem advance_flag {n : ℕ} {t : StreamingThread} {fails : Bool}
    (hflag : s.m_ThreadStopped = true ↔ undefined = true ∨ 0 < s.ended) :
    (advance false n t fails s).m_ThreadStopped = true ↔
      undefined = true ∨ 0 < (advance false n t fails s).ended := by
  unfold advance
  split
  · simpa using hflag
  · exact hflag
  · exact hflag
  · exact iff_of_true rfl (Or.inr (Nat.succ_pos _))

theorem advance_stopThread {resets : Bool} {n : ℕ} {t : StreamingThread}
    {fails : Bool} :
    (advance resets n t fails s).m_StopThread = s.m_StopThread := by
  unfold advance
  split <;> rfl

theorem Tended.step (h : Tended undefined s) (hC : Clean undefined s e)
    (ht : NaoCamera.step s e = some s') : Tended undefined s' := by
  cases e with
  | start found =>
      have htracked : Tracked s' := h.start
        (fun hnil => Or.inr (congrArg (· ++ _) hnil)) ht
      obtain ⟨-, ht⟩ := Option.ite_none_right_eq_some.mp ht
      obtain rfl := Option.some.inj ht
      exact ⟨htracked, fun _ => rfl, h.flag⟩
  | stop =>
      obtain ⟨-, ht⟩ := Option.ite_none_right_eq_some.mp ht
      obtain rfl := Option.some.inj ht
      refine ⟨h.onStop fun htrue => hC.resolve_right ?_, nofun, h.flag⟩
      rintro ⟨rfl, hended⟩
      rcases h.flag.mp htrue with hundefined | hpos
      · cases hundefined
      · exact Nat.ne_of_gt hpos hended
  | returns =>
      have htracked : Tracked s' := h.returns ht
      obtain ⟨-, ht⟩ := Option.ite_none_right_eq_some.mp ht
      obtain rfl := Option.some.inj ht
      exact ⟨htracked, nofun, h.flag⟩
  | thread n paused fails =>
      obtain ⟨t, hn, rfl⟩ := Option.map_eq_some_iff.mp ht
      refine ⟨h.advance hn fun _ hstop =>
        Or.inl (h.poll (List.mem_of_getElem? hn) hstop), fun hstarted => ?_,
        advance_flag h.flag⟩
      rw [advance_call] at hstarted
      rw [advance_stopThread]
      exact h.running hstarted
  | image k empty => cases ht

theorem not_lawful (h : Tended undefined s) (hC : ¬Clean undefined s e)
    (ht : NaoCamera.step s e = some s') : ¬Lawful s' := by
  cases e with
  | stop =>
      obtain ⟨-, ht⟩ := Option.ite_none_right_eq_some.mp ht
      obtain rfl := Option.some.inj ht
      unfold Clean at hC
      push Not at hC
      obtain ⟨hne, hflag⟩ := hC
      refine not_lawful_onStop (h.flag.mpr ?_) hne
      cases undefined with
      | true => exact Or.inl rfl
      | false => exact Or.inr (Nat.pos_of_ne_zero (hflag rfl))
  | start found => exact absurd trivial hC
  | returns => exact absurd trivial hC
  | thread n paused fails => exact absurd trivial hC
  | image k empty => exact absurd trivial hC

theorem lawful_iff (undefined : Bool) (es : List (CameraEvent Unit)) :
    Throughout NaoCamera.step Lawful (new undefined) es ↔
      EachStep NaoCamera.step (Clean undefined) (new undefined) es :=
  throughout_iff_eachStep (I := Tended undefined) (L := fun _ _ => True)
    (fun _ h => h.toLawful) (fun _ _ _ h _ hC ht => h.step hC ht)
    (fun _ _ _ h _ hC ht => not_lawful h hC ht) (tended_new undefined)
    (eachStep_true _ es)

theorem onStopEnds (undefined : Bool) (es : List (CameraEvent Unit)) :
    Throughout NaoCamera.step (OnStopEnds NaoCamera.step) (new undefined)
      es := by
  have hstep : ∀ s e s', Ending true s → NaoCamera.step s e = some s' →
      Ending true s' := fun s e s' h ht =>
    h.step (fun _ _ _ => List.append_ne_nil_of_right_ne_nil _
      (List.cons_ne_nil _ _)) ht
  have hnew : Ending true (new undefined) := by
    refine ⟨fun hcall => ?_, fun _ => Or.inr ⟨rfl, rfl⟩⟩
    cases hcall
  exact (throughout_of_eachStep (fun s e s' h _ ht => hstep s e s' h ht) hnew
    (eachStep_true _ es)).mono fun s h => h.onStopEnds hstep
      fun _ _ _ hcall hs he ht => step_stopping hcall hs he ht

end NaoCamera

/-! ## The other cameras -/

namespace Camera

/-- `OnStop` is not called while a thread waits to be entered, and a thread that
looks at `m_StopThread` is of the first cycle, stopped, or failed. -/
def Clean {β : Type} (s : Camera) : CameraEvent β → Prop
  | .stop => ∀ t ∈ s.threads, t.phase ≠ .waiting
  | .thread n _ _ => ∀ t, s.threads[n]? = some t → t.phase = .checking →
      s.stops = 0 ∨ t.stopped = true ∨ t.failed = true
  | _ => True

/-- The invariant of lawful runs. -/
structure Tended (s : Camera) : Prop extends Tracked s where
  flag : s.m_ThreadStopped = false ↔ ∃ t ∈ s.threads, t.phase ≠ .waiting
  late : 0 < s.stops → s.m_StopThread = true
  first : s.stops = 0 → s.m_StopThread = true →
    ∀ t ∈ s.threads, t.failed = true
  cycles : ∀ t ∈ s.threads, t.cycle ≤ s.stops
  pending : ∀ c ∈ s.pending, c ≤ s.stops
  counted : s.call = .stopping → 0 < s.stops
  fresh : s.call = .idle → s.stops = 0 →
    s.m_StopThread = false ∧ s.pending = []

variable {β : Type} {s s' : Camera} {t : StreamingThread} {n : ℕ}
  {fails : Bool} {onStart : β → Camera → Camera} {e : CameraEvent β}

theorem tended_new : Tended { m_ThreadStopped := true } where
  toTracked := tracked_of_nil rfl nofun
  flag := iff_of_false nofun fun ⟨_, ht, _⟩ => nomatch ht
  late := nofun
  first := nofun
  cycles := nofun
  pending := nofun
  counted := nofun
  fresh := fun _ _ => ⟨rfl, rfl⟩

/-- `OnStart` starts a thread or does nothing. -/
theorem Tended.start {onStart : Camera → Camera} (h : Tended s)
    (honStart : onStart s = s ∨ onStart s = invokeOnThread s)
    (ht : Camera.start onStart s = some s') : Tended s' := by
  have htracked : Tracked s' := by
    refine h.toTracked.start (fun hnil => ?_) ht
    rcases honStart with heq | heq
    · exact Or.inl (by rw [heq, hnil])
    · exact Or.inr (by rw [heq, invokeOnThread, hnil]; rfl)
  obtain ⟨hidle, ht⟩ := Option.ite_none_right_eq_some.mp ht
  obtain rfl := Option.some.inj ht
  have hnil := h.idle hidle
  rcases honStart with heq | heq
  · rw [heq] at htracked ⊢
    exact ⟨htracked, h.flag, h.late, h.first, h.cycles, h.pending, nofun,
      nofun⟩
  · rw [heq] at htracked ⊢
    have hmem : ∀ t ∈ (invokeOnThread s).threads,
        t = { cycle := s.stops } := by
      rw [invokeOnThread, hnil]
      exact fun t ht => List.mem_singleton.mp ht
    refine ⟨htracked, ?_, h.late, fun hzero hstop => ?_, fun t ht => ?_,
      h.pending, nofun, nofun⟩
    · refine iff_of_false (fun hflag => ?_) ?_
      · obtain ⟨t, ht, -⟩ := h.flag.mp hflag
        rw [hnil] at ht
        cases ht
      · rintro ⟨t, ht, hphase⟩
        exact hphase (by rw [hmem t ht])
    · have hfalse := (h.fresh hidle hzero).1
      exact absurd (hfalse.symm.trans hstop) Bool.false_ne_true
    · rw [hmem t ht]
      exact Nat.le_refl _

theorem Tended.onStop (h : Tended s)
    (hC : ∀ t ∈ s.threads, t.phase ≠ .waiting) : Tended (onStop s) := by
  refine ⟨h.toTracked.onStop fun htrue => ?_, h.flag.trans ?_, fun _ => rfl,
    nofun, fun t ht => ?_, fun c hc => ?_, fun _ => Nat.succ_pos _, nofun⟩
  · rcases h.one with hnil | ⟨t, hsingle⟩
    · exact hnil
    · have ht : t ∈ s.threads := hsingle ▸ List.mem_singleton_self t
      rw [h.flag.mpr ⟨t, ht, hC t ht⟩] at htrue
      cases htrue
  · constructor
    · rintro ⟨t, ht, hphase⟩
      exact ⟨_, List.mem_map_of_mem ht, hphase⟩
    · rintro ⟨t, ht, hphase⟩
      obtain ⟨t', ht', rfl⟩ := List.mem_map.mp ht
      exact ⟨t', ht', hphase⟩
  · obtain ⟨t', ht', rfl⟩ := List.mem_map.mp ht
    exact Nat.le_succ_of_le (h.cycles t' ht')
  · exact Nat.le_succ_of_le (h.pending c hc)

theorem Tended.returns (h : Tended s) (ht : returns s = some s') :
    Tended s' := by
  have htracked : Tracked s' := h.toTracked.returns ht
  obtain ⟨⟨hcall, -⟩, ht⟩ := Option.ite_none_right_eq_some.mp ht
  obtain rfl := Option.some.inj ht
  have hpos := h.counted hcall
  exact ⟨htracked, h.flag, h.late, h.first, h.cycles, h.pending, nofun,
    fun _ hzero => absurd hzero (Nat.ne_of_gt hpos)⟩

/-- The thread goes on. -/
theorem Tended.set {t' : StreamingThread} (h : Tended s)
    (hsingle : s.threads = [t]) (htracked : Tracked s')
    (hset : s'.threads = s.threads.set 0 t') (hcall : s'.call = s.call)
    (hstop : s'.m_StopThread = s.m_StopThread) (hstops : s'.stops = s.stops)
    (hpending : s'.pending = s.pending) (hflag : s'.m_ThreadStopped = false)
    (hphase : t'.phase ≠ .waiting) (hcycle : t'.cycle = t.cycle)
    (hfailed : t.failed = true → t'.failed = true) : Tended s' := by
  have hthreads : s'.threads = [t'] := by rw [hset, hsingle]; rfl
  have hmem : t ∈ s.threads := hsingle ▸ List.mem_singleton_self t
  have hsame : ∀ u ∈ s'.threads, u = t' := by
    rw [hthreads]
    exact fun u hu => List.mem_singleton.mp hu
  refine ⟨htracked, iff_of_true hflag ⟨t', ?_, hphase⟩, ?_, ?_, ?_, ?_, ?_,
    fun hidle => ?_⟩
  · rw [hthreads]
    exact List.mem_singleton_self t'
  · rw [hstops, hstop]
    exact h.late
  · rw [hstops, hstop]
    intro hzero htrue u hu
    rw [hsame u hu]
    exact hfailed (h.first hzero htrue t hmem)
  · intro u hu
    rw [hsame u hu, hcycle, hstops]
    exact h.cycles t hmem
  · rw [hpending, hstops]
    exact h.pending
  · rw [hcall, hstops]
    exact h.counted
  · rw [h.idle (hcall ▸ hidle)] at hsingle
    cases hsingle

/-- A step of the thread, which is the only one. -/
theorem Tended.advance (h : Tended s) (hn : s.threads[n]? = some t)
    (hC : t.phase = .checking →
      s.stops = 0 ∨ t.stopped = true ∨ t.failed = true) :
    Tended (advance true n t fails s) := by
  have hmem : t ∈ s.threads := List.mem_of_getElem? hn
  have htracked : Tracked (Camera.advance true n t fails s) :=
    h.toTracked.advance hn fun hphase hstop => by
      rcases hC hphase with hzero | hexcused
      · exact Or.inr (h.first hzero hstop t hmem)
      · exact hexcused
  obtain ⟨hsingle, rfl⟩ := h.sole hn
  have hentered : t.phase ≠ .waiting → s.m_ThreadStopped = false :=
    fun hphase => h.flag.mpr ⟨t, hmem, hphase⟩
  unfold Camera.advance at htracked ⊢
  cases hphase : t.phase with
  | waiting =>
      rw [hphase] at htracked
      refine h.set hsingle htracked rfl rfl rfl rfl rfl (Bool.and_false _) ?_
        ?_ ?_
      · cases fails <;> nofun
      · cases fails <;> rfl
      · cases fails with
        | true => exact fun _ => rfl
        | false => exact id
  | checking =>
      rw [hphase] at htracked
      refine h.set hsingle htracked rfl rfl rfl rfl rfl
        (hentered (by rw [hphase]; nofun)) ?_ rfl id
      change (if s.m_StopThread then Phase.leaving else Phase.polling) ≠ _
      split <;> nofun
  | polling =>
      rw [hphase] at htracked
      refine h.set hsingle htracked rfl rfl rfl rfl rfl
        (hentered (by rw [hphase]; nofun)) ?_ ?_ ?_
      · cases fails <;> nofun
      · cases fails <;> rfl
      · cases fails with
        | true => exact fun _ => rfl
        | false => exact id
  | leaving =>
      rw [hphase] at htracked
      have hnil : s.threads.eraseIdx 0 = [] := by rw [hsingle]; rfl
      refine ⟨htracked, ?_, h.late, ?_, ?_, h.pending, h.counted,
        fun hidle => ?_⟩
      · refine iff_of_false nofun ?_
        rintro ⟨u, hu, -⟩
        change u ∈ s.threads.eraseIdx 0 at hu
        rw [hnil] at hu
        cases hu
      · intro _ _ u hu
        exact (List.not_mem_nil (hnil ▸ hu)).elim
      · intro u hu
        exact (List.not_mem_nil (hnil ▸ hu)).elim
      · rw [h.idle hidle] at hmem
        cases hmem

/-- A thread that looks at `m_StopThread` in a later cycle leaves its loop. -/
theorem not_lawful_advance {resets : Bool} (hn : s.threads[n]? = some t)
    (hphase : t.phase = .checking) (hstop : s.m_StopThread = true)
    (hexcused : ¬(t.stopped = true ∨ t.failed = true)) :
    ¬Lawful (Camera.advance resets n t fails s) := by
  intro hlaw
  refine hexcused (hlaw.polls { t with phase := .leaving } ?_ rfl)
  unfold Camera.advance
  rw [hphase, hstop]
  exact List.mem_set (List.getElem?_eq_some_iff.mp hn).1 _

theorem Tended.step (h : Tended s)
    (honStart : ∀ found,
      onStart found s = s ∨ onStart found s = invokeOnThread s)
    (hC : Clean s e) (ht : Camera.step onStart true s e = some s') :
    Tended s' := by
  cases e with
  | start found => exact h.start (honStart found) ht
  | stop =>
      obtain ⟨-, ht⟩ := Option.ite_none_right_eq_some.mp ht
      obtain rfl := Option.some.inj ht
      exact h.onStop hC
  | returns => exact h.returns ht
  | thread n paused fails =>
      obtain ⟨t, hn, rfl⟩ := Option.map_eq_some_iff.mp ht
      exact h.advance hn (hC t hn)
  | image k empty => cases ht

/-- `OnStop` returns at once when the thread has not been entered. -/
theorem Tended.not_lawful_onStop (h : Tended s) (hmem : t ∈ s.threads)
    (hphase : t.phase = .waiting) : ¬Lawful (Camera.onStop s) := by
  rcases h.one with hnil | ⟨t', hsingle⟩
  · rw [hnil] at hmem
    cases hmem
  · rw [hsingle, List.mem_singleton] at hmem
    subst hmem
    refine Camera.not_lawful_onStop ?_ (hsingle ▸ List.cons_ne_nil t [])
    by_contra hflag
    obtain ⟨u, hu, hentered⟩ := h.flag.mp (Bool.not_eq_true _ ▸ hflag)
    rw [hsingle, List.mem_singleton] at hu
    exact hentered (hu ▸ hphase)

theorem Tended.not_lawful (h : Tended s) (hC : ¬Clean s e)
    (ht : Camera.step onStart true s e = some s') : ¬Lawful s' := by
  cases e with
  | stop =>
      obtain ⟨-, ht⟩ := Option.ite_none_right_eq_some.mp ht
      obtain rfl := Option.some.inj ht
      unfold Clean at hC
      push Not at hC
      obtain ⟨t, hmem, hphase⟩ := hC
      exact h.not_lawful_onStop hmem hphase
  | thread n paused fails =>
      obtain ⟨t, hn, rfl⟩ := Option.map_eq_some_iff.mp ht
      unfold Clean at hC
      push Not at hC
      obtain ⟨u, hu, hphase, hstops, hexcused⟩ := hC
      obtain rfl : t = u := Option.some.inj (hn.symm.trans hu)
      exact not_lawful_advance hn hphase
        (h.late (Nat.pos_of_ne_zero hstops)) fun hor =>
          hor.elim hexcused.1 hexcused.2
  | start found => exact absurd trivial hC
  | returns => exact absurd trivial hC
  | image k empty => exact absurd trivial hC

end Camera

namespace PointGreyCamera

theorem onStart_cases (bus : Bus) (s : Camera) :
    (onStart bus s).2 = s ∨ (onStart bus s).2 = invokeOnThread s := by
  unfold onStart
  split
  · exact Or.inl rfl
  · exact Or.inl rfl
  · split
    · exact Or.inr rfl
    · exact Or.inl rfl

theorem lawful_iff (es : List (CameraEvent Bus)) :
    Throughout PointGreyCamera.step Lawful new es ↔
      EachStep PointGreyCamera.step Clean new es :=
  throughout_iff_eachStep (I := Tended) (L := fun _ _ => True)
    (fun _ h => h.toLawful)
    (fun s _ _ h _ hC ht => h.step (fun bus => onStart_cases bus s) hC ht)
    (fun _ _ _ h _ hC ht => h.not_lawful hC ht) tended_new (eachStep_true _ es)

/-- `OnStop` of the Point Grey camera comes to an end. -/
theorem onStopEnds (es : List (CameraEvent Bus)) :
    Throughout PointGreyCamera.step (OnStopEnds PointGreyCamera.step) new
      es := by
  have hstep : ∀ s e s', Ending false s → PointGreyCamera.step s e = some s' →
      Ending false s' := fun s e s' h ht =>
    h.step (fun bus _ => h.onStart (onStart_cases bus s)) ht
  exact (throughout_of_eachStep (fun s e s' h _ ht => hstep s e s' h ht)
    ending_new (eachStep_true _ es)).mono fun s h => h.onStopEnds hstep
      fun _ _ _ hcall hs he ht => step_stopping hcall hs he ht

end PointGreyCamera

namespace RemoteCamera

variable {s s' : Camera} {e : CameraEvent Bool}

theorem onStart_cases (found : Bool) (s : Camera) :
    onStart found s = s ∨ onStart found s = invokeOnThread s := by
  unfold onStart
  split
  · exact Or.inr rfl
  · exact Or.inl rfl

/-- A thread takes a step, an image comes, or the camera does what the other
classes do. -/
theorem step_cases (ht : RemoteCamera.step s e = some s') :
    (∃ n paused fails t, e = .thread n paused fails ∧
        s.threads[n]? = some t ∧
        s' = advance true n t false (getImage t paused s)) ∨
      (∃ k empty cycle, e = .image k empty ∧ s.pending[k]? = some cycle ∧
        s' = onGetImage cycle empty
          { s with pending := s.pending.eraseIdx k }) ∨
      Camera.step onStart true s e = some s' := by
  cases e with
  | thread n paused fails =>
      obtain ⟨t, hn, rfl⟩ := Option.map_eq_some_iff.mp ht
      exact Or.inl ⟨n, paused, fails, t, rfl, hn, rfl⟩
  | image k empty =>
      obtain ⟨cycle, hk, rfl⟩ := Option.map_eq_some_iff.mp ht
      exact Or.inr (Or.inl ⟨k, empty, cycle, rfl, hk, rfl⟩)
  | start found => exact Or.inr (Or.inr ht)
  | stop => exact Or.inr (Or.inr ht)
  | returns => exact Or.inr (Or.inr ht)

theorem getImage_tended {t : StreamingThread} (h : Tended s)
    (ht : t ∈ s.threads) (paused : Bool) : Tended (getImage t paused s) := by
  unfold getImage
  split
  · refine ⟨⟨⟨h.polls, h.stops⟩, h.one, h.idle, h.stopping, h.marked⟩, h.flag,
      h.late, h.first, h.cycles, fun c hc => ?_, h.counted, fun hidle _ => ?_⟩
    · rcases List.mem_append.mp hc with hc | hc
      · exact h.pending c hc
      · rw [List.mem_singleton.mp hc]
        exact h.cycles t ht
    · rw [h.idle hidle] at ht
      cases ht
  · exact h

theorem getImage_frame (t : StreamingThread) (paused : Bool) (s : Camera) :
    (getImage t paused s).threads = s.threads ∧
      (getImage t paused s).stops = s.stops ∧
        (getImage t paused s).call = s.call ∧
          (getImage t paused s).m_StopThread = s.m_StopThread ∧
            (getImage t paused s).m_ThreadStopped = s.m_ThreadStopped := by
  unfold getImage
  split <;> exact ⟨rfl, rfl, rfl, rfl, rfl⟩

theorem fail_frame (cycle : ℕ) (t : StreamingThread) :
    (fail cycle t).phase = t.phase ∧ (fail cycle t).cycle = t.cycle ∧
      (fail cycle t).stopped = t.stopped ∧
        (t.failed = true → (fail cycle t).failed = true) := by
  unfold fail
  split
  · exact ⟨rfl, rfl, rfl, fun _ => rfl⟩
  · exact ⟨rfl, rfl, rfl, id⟩

/-- An image comes; an empty one fails the thread of its cycle. -/
theorem onGetImage_tended {k cycle : ℕ} (empty : Bool) (h : Tended s)
    (hk : s.pending[k]? = some cycle) :
    Tended (onGetImage cycle empty
      { s with pending := s.pending.eraseIdx k }) := by
  have hcycle : cycle ≤ s.stops := h.pending cycle (List.mem_of_getElem? hk)
  have hpending : ∀ c ∈ s.pending.eraseIdx k, c ≤ s.stops :=
    fun c hc => h.pending c (List.mem_of_mem_eraseIdx hc)
  have hbusy : ¬(s.call = .idle ∧ s.stops = 0) := fun ⟨hidle, hzero⟩ => by
    rw [(h.fresh hidle hzero).2] at hk
    cases hk
  unfold onGetImage
  split
  · have hfail : ∀ t ∈ s.threads.map (fail cycle), ∃ t' ∈ s.threads,
        t = fail cycle t' ∧ t.phase = t'.phase ∧ t.cycle = t'.cycle ∧
          t.stopped = t'.stopped ∧ (t'.failed = true → t.failed = true) := by
      intro t ht
      obtain ⟨t', ht', rfl⟩ := List.mem_map.mp ht
      exact ⟨t', ht', rfl, fail_frame cycle t'⟩
    refine ⟨⟨⟨fun t ht hleaving => ?_, fun hstopping htrue => ?_⟩, ?_,
      fun hidle => ?_, fun _ => rfl, fun hstopping t ht => ?_⟩,
      h.flag.trans ⟨?_, ?_⟩, fun _ => rfl, fun hzero _ t ht => ?_,
      fun t ht => ?_, hpending, h.counted,
      fun hidle hzero => absurd ⟨hidle, hzero⟩ hbusy⟩
    · obtain ⟨t', ht', -, hphase, -, hstopped, hfailed⟩ := hfail t ht
      rw [hstopped]
      exact (h.polls t' ht' (hphase ▸ hleaving)).imp id hfailed
    · exact List.map_eq_nil_iff.mpr (h.stops hstopping htrue)
    · rcases h.one with hnil | ⟨t, hsingle⟩
      · exact Or.inl (List.map_eq_nil_iff.mpr hnil)
      · exact Or.inr ⟨fail cycle t, congrArg (List.map (fail cycle)) hsingle⟩
    · exact List.map_eq_nil_iff.mpr (h.idle hidle)
    · obtain ⟨t', ht', -, -, -, hstopped, -⟩ := hfail t ht
      rw [hstopped]
      exact h.marked hstopping t' ht'
    · rintro ⟨t, ht, hentered⟩
      refine ⟨fail cycle t, List.mem_map_of_mem ht, ?_⟩
      rw [(fail_frame cycle t).1]
      exact hentered
    · rintro ⟨t, ht, hentered⟩
      obtain ⟨t', ht', -, hphase, -⟩ := hfail t ht
      exact ⟨t', ht', hphase ▸ hentered⟩
    · -- in the first cycle there is no thread but the one that has asked
      obtain ⟨t', ht', rfl, -⟩ := hfail t ht
      have hold := h.cycles t' ht'
      rw [hzero, Nat.le_zero] at hold hcycle
      rw [fail, if_pos (hold.trans hcycle.symm)]
    · obtain ⟨t', ht', -, -, hsame, -⟩ := hfail t ht
      rw [hsame]
      exact h.cycles t' ht'
  · exact ⟨⟨⟨h.polls, h.stops⟩, h.one, h.idle, h.stopping, h.marked⟩, h.flag,
      h.late, h.first, h.cycles, hpending, h.counted,
      fun hidle hzero => absurd ⟨hidle, hzero⟩ hbusy⟩

theorem tended_step (h : Tended s) (hC : Clean s e)
    (ht : RemoteCamera.step s e = some s') : Tended s' := by
  rcases step_cases ht with
    ⟨n, paused, fails, t, rfl, hn, rfl⟩ | ⟨k, empty, cycle, -, hk, rfl⟩ | ht
  · obtain ⟨hthreads, hstops, -⟩ := getImage_frame t paused s
    refine (getImage_tended h (List.mem_of_getElem? hn) paused).advance
      (hthreads ▸ hn) ?_
    rw [hstops]
    exact hC t hn
  · exact onGetImage_tended empty h hk
  · exact h.step (fun found => onStart_cases found s) hC ht

theorem not_lawful (h : Tended s) (hC : ¬Clean s e)
    (ht : RemoteCamera.step s e = some s') : ¬Lawful s' := by
  rcases step_cases ht with
    ⟨n, paused, fails, t, rfl, hn, rfl⟩ | ⟨k, empty, cycle, rfl, -, -⟩ | ht
  · obtain ⟨hthreads, hstops, -⟩ := getImage_frame t paused s
    have hasked := getImage_tended h (List.mem_of_getElem? hn) paused
    have hstep : Camera.step onStart true (getImage t paused s)
        (.thread n paused false) =
        some (advance true n t false (getImage t paused s)) :=
      Option.map_eq_some_iff.mpr ⟨t, hthreads ▸ hn, rfl⟩
    refine hasked.not_lawful ?_ hstep
    unfold Clean at hC ⊢
    rwa [hthreads, hstops]
  · exact absurd trivial hC
  · exact h.not_lawful hC ht

theorem lawful_iff (es : List (CameraEvent Bool)) :
    Throughout RemoteCamera.step Lawful new es ↔
      EachStep RemoteCamera.step Clean new es :=
  throughout_iff_eachStep (I := Tended) (L := fun _ _ => True)
    (fun _ h => h.toLawful) (fun _ _ _ h _ hC ht => tended_step h hC ht)
    (fun _ _ _ h _ hC ht => not_lawful h hC ht) tended_new (eachStep_true _ es)

theorem ending_step (h : Ending false s)
    (ht : RemoteCamera.step s e = some s') : Ending false s' := by
  rcases step_cases ht with
    ⟨n, paused, fails, t, -, hn, rfl⟩ | ⟨k, empty, cycle, -, -, rfl⟩ | ht
  · obtain ⟨hthreads, -, hcall, hstop, hflag⟩ := getImage_frame t paused s
    have hasked : Ending false (getImage t paused s) := by
      refine ⟨?_, ?_⟩
      · rw [hcall, hstop]
        exact h.stopping
      · rw [hflag, hthreads, hcall]
        exact h.stopped
    exact hasked.advance (hthreads ▸ hn)
  · unfold onGetImage
    split
    · refine ⟨fun _ => rfl, fun hflag => (h.stopped hflag).imp ?_ id⟩
      exact fun hne hnil => hne (List.map_eq_nil_iff.mp hnil)
    · exact ⟨h.stopping, h.stopped⟩
  · exact h.step (fun found _ => h.onStart (onStart_cases found s)) ht

/-- A failure of a capture leaves the threads as much to do as before. -/
theorem work_map_fail (cycle : ℕ) (ts : List StreamingThread) :
    ((ts.map (fail cycle)).map StreamingThread.work).sum =
      (ts.map StreamingThread.work).sum := by
  have hsame : StreamingThread.work ∘ fail cycle = StreamingThread.work := by
    funext t
    rw [Function.comp_apply, StreamingThread.work, (fail_frame cycle t).1,
      StreamingThread.work]
  rw [List.map_map, hsame]

theorem step_stopping (hcall : s.call = .stopping)
    (hs : s.m_StopThread = true) (he : e ≠ .returns)
    (ht : RemoteCamera.step s e = some s') :
    s'.call = .stopping ∧ s'.work + (if e.isThread then 1 else 0) ≤ s.work := by
  rcases step_cases ht with
    ⟨n, paused, fails, t, rfl, hn, rfl⟩ | ⟨k, empty, cycle, rfl, -, rfl⟩ | ht
  · obtain ⟨hthreads, -, hsame, hstop, -⟩ := getImage_frame t paused s
    have hwork : (getImage t paused s).work = s.work := by
      rw [work, hthreads, work]
    refine ⟨advance_call.trans (hsame.trans hcall), ?_⟩
    rw [← hwork]
    exact work_advance (hstop.trans hs) (hthreads ▸ hn)
  · unfold onGetImage
    split
    · exact ⟨hcall, Nat.le_of_eq (work_map_fail cycle s.threads)⟩
    · exact ⟨hcall, Nat.le_refl _⟩
  · exact Camera.step_stopping hcall hs he ht

theorem onStopEnds (es : List (CameraEvent Bool)) :
    Throughout RemoteCamera.step (OnStopEnds RemoteCamera.step) new es :=
  (throughout_of_eachStep (fun _ _ _ h _ ht => ending_step h ht) ending_new
    (eachStep_true _ es)).mono fun _ h => h.onStopEnds
      (fun _ _ _ h ht => ending_step h ht)
      fun _ _ _ hcall hs he ht => step_stopping hcall hs he ht

end RemoteCamera

/-! ## All four -/

/-- The classes are lawful throughout their clean runs, and only those, and in
every run `OnStop` comes to an end. -/
theorem streaming_iff (undefined : Bool) (es : List (CameraEvent Unit))
    (fs : List (CameraEvent Bool)) (gs : List (CameraEvent PointGreyCamera.Bus)) :
    (Throughout NaoCamera.step Lawful (NaoCamera.new undefined) es ↔
        EachStep NaoCamera.step (NaoCamera.Clean undefined)
          (NaoCamera.new undefined) es) ∧
      (Throughout NaoDepthCamera.step Lawful (NaoDepthCamera.new undefined)
          es ↔
        EachStep NaoDepthCamera.step (NaoCamera.Clean undefined)
          (NaoDepthCamera.new undefined) es) ∧
      (Throughout RemoteCamera.step Lawful RemoteCamera.new fs ↔
        EachStep RemoteCamera.step Clean RemoteCamera.new fs) ∧
      (Throughout PointGreyCamera.step Lawful PointGreyCamera.new gs ↔
        EachStep PointGreyCamera.step Clean PointGreyCamera.new gs) ∧
      Throughout NaoCamera.step (OnStopEnds NaoCamera.step)
        (NaoCamera.new undefined) es ∧
      Throughout NaoDepthCamera.step (OnStopEnds NaoDepthCamera.step)
        (NaoDepthCamera.new undefined) es ∧
      Throughout RemoteCamera.step (OnStopEnds RemoteCamera.step)
        RemoteCamera.new fs ∧
      Throughout PointGreyCamera.step (OnStopEnds PointGreyCamera.step)
        PointGreyCamera.new gs :=
  ⟨NaoCamera.lawful_iff undefined es, NaoCamera.lawful_iff undefined es,
    RemoteCamera.lawful_iff fs, PointGreyCamera.lawful_iff gs,
    NaoCamera.onStopEnds undefined es, NaoCamera.onStopEnds undefined es,
    RemoteCamera.onStopEnds fs, PointGreyCamera.onStopEnds gs⟩

/-- In the second cycle of the NAO's camera `OnStop` finds `m_ThreadStopped`
set while the thread waits to run. -/
theorem not_streaming :
    ¬((∀ undefined es,
        Throughout NaoCamera.step Lawful (NaoCamera.new undefined) es) ∧
      (∀ undefined es, Throughout NaoDepthCamera.step Lawful
        (NaoDepthCamera.new undefined) es) ∧
      (∀ es, Throughout RemoteCamera.step Lawful RemoteCamera.new es) ∧
      ∀ es, Throughout PointGreyCamera.step Lawful PointGreyCamera.new es) := by
  rintro ⟨h, -⟩
  have hrun : (run NaoCamera.step (NaoCamera.new false)
      [.start (), .thread 0 false false, .stop, .thread 0 false false,
        .thread 0 false false, .returns, .start (), .stop]).map
      (fun s => (s.call, s.m_ThreadStopped, s.threads.length)) =
      some (.stopping, true, 1) := by decide
  obtain ⟨s, hs, hobs⟩ := (h false _).last hrun
  simp only [Prod.mk.injEq] at hobs
  obtain ⟨hcall, hflag, hone⟩ := hobs
  rw [hs.stops hcall hflag] at hone
  cases hone

end SelfPlugins.Streaming
