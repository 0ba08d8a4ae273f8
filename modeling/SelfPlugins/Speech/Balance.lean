import SelfPlugins.Speech.Gesture

/-!
# Pausing and resuming the audio sensors

A sound that arrives pauses the sensors and will resume them once it has been
played, so each speech under way stands for one `ResumeSensorType` to come.
`OnSpeechDone` and `Abort` also resume without such a speech: for a failed
response, for a missing service, and for an aborted queue.  `step_accounting`
states the account of one step; it is balanced iff the step is `Matched`.
-/

namespace SelfPlugins.Speech

open Runs

namespace SpeechGesture

/-- The speeches under way: those being played, and those whose completion is
queued. -/
def underWay (s : SpeechGesture) : ℕ := s.playing.length + s.queued.length

/-- The sensors are never resumed more often than paused, and equally often
when the gesture is silent. -/
structure Balanced (s : SpeechGesture) : Prop where
  resumes_le : s.resumes ≤ s.pauses
  silent : s.toSounds = [] → s.playing = [] → s.queued = [] →
    s.resumes = s.pauses

/-- Starting a speech finds the service; without voices the third class starts
none. -/
def Finds (p : Platform) (voices : Option (List Voice))
    (service : ℕ → Bool) : Prop :=
  ¬(p = .sota ∧ voices = none) → service 0 = true

/-- The step resumes the sensors for a speech that has been played, if at all:
nothing is aborted, the response is a sound, and where a speech is started the
service is there. -/
def Matched (p : Platform) (s : SpeechGesture) : Event → Prop
  | .execute _ service => s.requests = [] → Finds p s.voices service
  | .abort => s.requests = []
  | .voices voices service =>
      p = .sota → s.requests ≠ [] → Finds p voices service
  | .speechData _ sound _ => sound = true
  | .played _ => True
  | .speechDone _ service =>
      2 ≤ s.requests.length → Finds p s.voices service

/-- From `s` to `t` only speeches are started, and `extra` resumptions are
made. -/
structure Resumed (extra : ℕ) (s t : SpeechGesture) : Prop where
  resumes : t.resumes = s.resumes + extra
  pauses : t.pauses = s.pauses
  playing : t.playing = s.playing
  queued : t.queued = s.queued

theorem Resumed.refl (s : SpeechGesture) : Resumed 0 s s :=
  ⟨rfl, rfl, rfl, rfl⟩

/-! ## Starting speeches -/

theorem startSpeech_waiting {p : Platform} {s : SpeechGesture}
    (h : p = .sota ∧ s.voices = none) (service : ℕ → Bool) :
    startSpeech p service s = s := by
  rw [startSpeech, if_pos h]

theorem startSpeech_found {p : Platform} {s : SpeechGesture}
    (h : ¬(p = .sota ∧ s.voices = none)) {req : Request} {rest : List Request}
    (hs : s.requests = req :: rest) {service : ℕ → Bool}
    (hservice : service 0 = true) :
    startSpeech p service s = toSound req s := by
  rw [startSpeech, if_neg h, hs]
  exact if_pos hservice

theorem startSpeech_missing {p : Platform} {s : SpeechGesture}
    (h : ¬(p = .sota ∧ s.voices = none)) {req : Request} {rest : List Request}
    (hs : s.requests = req :: rest) {service : ℕ → Bool}
    (hservice : service 0 = false) :
    startSpeech p service s =
      onSpeechDone p (fun k => service (k + 1)) s := by
  rw [startSpeech, if_neg h, hs]
  exact if_neg (by rw [hservice]; exact Bool.false_ne_true)

theorem onSpeechDone_cons_cons {p : Platform} {s : SpeechGesture}
    {done req : Request} {rest : List Request}
    (hs : s.requests = done :: req :: rest) (service : ℕ → Bool) :
    onSpeechDone p service s =
      startSpeech p service { resumeSensor s with requests := req :: rest } := by
  rw [onSpeechDone]
  split
  · rename_i hs'
    rw [hs] at hs'
    cases hs'
    rfl
  · rename_i hs'
    exact absurd hs (hs' done req rest)

theorem onSpeechDone_last {p : Platform} {s : SpeechGesture}
    (hs : s.requests.length < 2) (service : ℕ → Bool) :
    onSpeechDone p service s = { resumeSensor s with requests := [] } := by
  rw [onSpeechDone]
  split
  · rename_i hs'
    rw [hs'] at hs
    simp only [List.length_cons] at hs
    omega
  · rfl

theorem Resumed.speechDone {extra : ℕ} {s t : SpeechGesture}
    {requests : List Request}
    (h : Resumed extra { resumeSensor s with requests := requests } t) :
    Resumed (extra + 1) s t where
  resumes := by
    rw [h.resumes]
    change s.resumes + 1 + extra = s.resumes + (extra + 1)
    omega
  pauses := h.pauses
  playing := h.playing
  queued := h.queued

/-- `StartSpeech` makes further resumptions iff it misses the service, given
that `OnSpeechDone` makes some. -/
theorem resumed_startSpeech_of_speechDone {p : Platform} {s : SpeechGesture}
    {req : Request} {rest : List Request} (hs : s.requests = req :: rest)
    (hdone : ∀ service, ∃ extra,
      Resumed (extra + 1) s (onSpeechDone p service s))
    (service : ℕ → Bool) :
    ∃ extra, Resumed extra s (startSpeech p service s) ∧
      (extra = 0 ↔ Finds p s.voices service) := by
  by_cases hwaiting : p = .sota ∧ s.voices = none
  · rw [startSpeech_waiting hwaiting]
    have hfinds : Finds p s.voices service := fun hnot => absurd hwaiting hnot
    exact ⟨0, Resumed.refl s, by simp [hfinds]⟩
  · cases hservice : service 0 with
    | true =>
        rw [startSpeech_found hwaiting hs hservice]
        have hfinds : Finds p s.voices service := fun _ => hservice
        exact ⟨0, ⟨rfl, rfl, rfl, rfl⟩, by simp [hfinds]⟩
    | false =>
        rw [startSpeech_missing hwaiting hs hservice]
        obtain ⟨extra, hresumed⟩ := hdone fun k => service (k + 1)
        refine ⟨extra + 1, hresumed, ?_⟩
        have hnot : ¬Finds p s.voices service := by
          intro hfinds
          have htrue := hfinds hwaiting
          rw [hservice] at htrue
          cases htrue
        simp [hnot]

theorem exists_cons_cons {s : SpeechGesture} (hs : 2 ≤ s.requests.length) :
    ∃ done req rest, s.requests = done :: req :: rest := by
  obtain ⟨done, tail, hdone⟩ :=
    List.exists_cons_of_length_pos (l := s.requests) (by omega)
  have htail : 0 < tail.length := by
    rw [hdone, List.length_cons] at hs
    omega
  obtain ⟨req, rest, rfl⟩ := List.exists_cons_of_length_pos htail
  exact ⟨done, req, rest, hdone⟩

/-- `OnSpeechDone` resumes the sensors, and once more whenever a speech that
it starts misses the service. -/
theorem resumed_onSpeechDone (p : Platform) (n : ℕ) (s : SpeechGesture)
    (hn : s.requests.length = n) (service : ℕ → Bool) :
    ∃ extra, Resumed (extra + 1) s (onSpeechDone p service s) ∧
      (extra = 0 ↔ (2 ≤ s.requests.length → Finds p s.voices service)) := by
  induction n generalizing s service with
  | zero =>
      have htwo : ¬2 ≤ s.requests.length := by omega
      rw [onSpeechDone_last (by omega)]
      exact ⟨0, ⟨rfl, rfl, rfl, rfl⟩, by simp [htwo]⟩
  | succ n ih =>
      by_cases htwo : 2 ≤ s.requests.length
      · obtain ⟨done, req, rest, hs⟩ := exists_cons_cons htwo
        have hlength : (req :: rest).length = n := by
          rw [hs, List.length_cons] at hn
          omega
        rw [onSpeechDone_cons_cons hs]
        have hdone := fun service =>
          ih { resumeSensor s with requests := req :: rest } hlength service
        obtain ⟨extra, hresumed, hextra⟩ :=
          resumed_startSpeech_of_speechDone rfl
            (fun service => (hdone service).imp fun _ h => h.1) service
        refine ⟨extra, hresumed.speechDone, ?_⟩
        simp only [htwo, forall_const]
        exact hextra
      · rw [onSpeechDone_last (by omega)]
        exact ⟨0, ⟨rfl, rfl, rfl, rfl⟩, by simp [htwo]⟩

theorem resumed_startSpeech {p : Platform} {s : SpeechGesture}
    (hs : s.requests ≠ []) (service : ℕ → Bool) :
    ∃ extra, Resumed extra s (startSpeech p service s) ∧
      (extra = 0 ↔ Finds p s.voices service) := by
  obtain ⟨req, rest, hcons⟩ := List.exists_cons_of_ne_nil hs
  apply resumed_startSpeech_of_speechDone hcons
  intro service
  exact (resumed_onSpeechDone p _ s rfl service).imp fun _ h => h.1

/-! ## The account of a step -/

/-- How a step changes the account; `extra` counts the resumptions without a
speech that has been played. -/
def Accounts (extra : ℕ) (s t : SpeechGesture) : Prop :=
  t.resumes + underWay t + s.pauses =
    s.resumes + underWay s + t.pauses + extra

theorem Resumed.accounts {extra : ℕ} {s t : SpeechGesture}
    (h : Resumed extra s t) : Accounts extra s t := by
  rw [Accounts, underWay, underWay, h.resumes, h.pauses, h.playing, h.queued]
  omega

theorem length_eraseIdx {α : Type} {l : List α} {n : ℕ} {x : α}
    (hx : l[n]? = some x) : (l.eraseIdx n).length + 1 = l.length := by
  obtain ⟨hn, -⟩ := List.getElem?_eq_some_iff.mp hx
  rw [List.length_eraseIdx_of_lt hn]
  omega

theorem accounts_execute (p : Platform) (params : Params)
    (service : ℕ → Bool) (s : SpeechGesture) :
    ∃ extra, Accounts extra s (execute p params service s) ∧
      (extra = 0 ↔ Matched p s (.execute params service)) := by
  rw [execute]
  by_cases hfirst : s.requests = []
  · obtain ⟨extra, hresumed, hextra⟩ := resumed_startSpeech (p := p)
      (s := { s with
        requests := s.requests ++ [⟨s.executed, params⟩]
        executed := s.executed + 1 }) (by simp) service
    rw [if_pos hfirst]
    refine ⟨extra, hresumed.accounts, ?_⟩
    simpa [Matched, hfirst] using hextra
  · rw [if_neg hfirst]
    exact ⟨0, rfl, by simp [Matched, hfirst]⟩

theorem accounts_abort (p : Platform) (s : SpeechGesture) :
    ∃ extra, Accounts extra s (abort s) ∧
      (extra = 0 ↔ Matched p s .abort) := by
  rw [abort]
  by_cases hs : s.requests = []
  · rw [if_pos hs]
    exact ⟨0, rfl, by simp [Matched, hs]⟩
  · rw [if_neg hs]
    refine ⟨1, ?_, by simp [Matched, hs]⟩
    simp only [Accounts, underWay, resumeSensor]
    omega

theorem accounts_onVoices (p : Platform) (voices : Option (List Voice))
    (service : ℕ → Bool) (s : SpeechGesture) :
    ∃ extra, Accounts extra s (onVoices p voices service s) ∧
      (extra = 0 ↔ Matched p s (.voices voices service)) := by
  rw [onVoices]
  by_cases hstart : p = .sota ∧ s.requests ≠ []
  · obtain ⟨extra, hresumed, hextra⟩ := resumed_startSpeech (p := p)
      (s := { s with voices := voices }) hstart.2 service
    rw [if_pos hstart]
    refine ⟨extra, hresumed.accounts, ?_⟩
    simpa [Matched, hstart.1, hstart.2] using hextra
  · rw [if_neg hstart]
    refine ⟨0, rfl, ?_⟩
    simp only [Matched, true_iff]
    intro hsota hne
    exact absurd ⟨hsota, hne⟩ hstart

/-- The account of one step is balanced iff the step is matched. -/
theorem step_accounting {p : Platform} {s t : SpeechGesture} {e : Event}
    (ht : step p s e = some t) :
    ∃ extra, Accounts extra s t ∧ (extra = 0 ↔ Matched p s e) := by
  cases e with
  | execute params service =>
      cases ht
      exact accounts_execute p params service s
  | abort =>
      cases ht
      exact accounts_abort p s
  | voices voices service =>
      cases ht
      exact accounts_onVoices p voices service s
  | speechData n sound service =>
      obtain ⟨call, -, rfl⟩ := Option.map_eq_some_iff.mp ht
      cases sound with
      | true =>
          refine ⟨0, ?_, by simp [Matched]⟩
          simp [Accounts, underWay, onSpeechData, pauseSensor]
          omega
      | false =>
          obtain ⟨extra, hresumed, -⟩ := resumed_onSpeechDone p _
            { s with toSounds := s.toSounds.eraseIdx n } rfl service
          refine ⟨extra + 1, ?_, by simp [Matched]⟩
          exact hresumed.accounts
  | played n =>
      obtain ⟨req, hreq, rfl⟩ := Option.map_eq_some_iff.mp ht
      refine ⟨0, ?_, by simp [Matched]⟩
      have hlength := length_eraseIdx hreq
      simp only [Accounts, underWay, List.length_append,
        List.length_singleton]
      omega
  | speechDone n service =>
      obtain ⟨req, hreq, rfl⟩ := Option.map_eq_some_iff.mp ht
      obtain ⟨extra, hresumed, hextra⟩ := resumed_onSpeechDone p _
        { s with queued := s.queued.eraseIdx n } rfl service
      refine ⟨extra, ?_, hextra⟩
      have hlength := length_eraseIdx hreq
      have haccounts := hresumed.accounts
      simp only [Accounts, underWay] at haccounts ⊢
      omega

/-! ## The account of a run -/

/-- Every pause is resumed already or by a speech under way. -/
def Even (s : SpeechGesture) : Prop := s.resumes + underWay s = s.pauses

/-- More resumptions are made or to come than pauses. -/
def Excess (s : SpeechGesture) : Prop := s.pauses < s.resumes + underWay s

theorem Even.balanced {s : SpeechGesture} (h : Even s) : Balanced s := by
  refine ⟨?_, ?_⟩
  · rw [Even] at h
    omega
  · intro _ hplaying hqueued
    simpa [Even, underWay, hplaying, hqueued] using h

theorem Even.next {p : Platform} {s t : SpeechGesture} {e : Event}
    (h : Even s) (hmatched : Matched p s e) (ht : step p s e = some t) :
    Even t := by
  obtain ⟨extra, haccounts, hextra⟩ := step_accounting ht
  have hzero : extra = 0 := hextra.mpr hmatched
  simp only [Accounts, Even] at haccounts h ⊢
  omega

theorem Even.excess {p : Platform} {s t : SpeechGesture} {e : Event}
    (h : Even s) (hmatched : ¬Matched p s e) (ht : step p s e = some t) :
    Excess t := by
  obtain ⟨extra, haccounts, hextra⟩ := step_accounting ht
  have hpos : 0 < extra := by
    apply Nat.pos_of_ne_zero
    intro hzero
    exact hmatched (hextra.mp hzero)
  simp only [Accounts, Even, Excess] at haccounts h ⊢
  omega

/-- What has been resumed too often is never made up for. -/
theorem Excess.next {p : Platform} {s t : SpeechGesture} {e : Event}
    (h : Excess s) (ht : step p s e = some t) : Excess t := by
  obtain ⟨extra, haccounts, -⟩ := step_accounting ht
  simp only [Accounts, Excess] at haccounts h ⊢
  omega

theorem even_new : Even new := rfl

/-- Matched steps keep the sensors balanced throughout a run; and when the
gesture ends with no speech under way, only they do. -/
theorem balanced_of_matched (p : Platform) (es : List Event) :
    (EachStep (step p) (Matched p) new es →
      Throughout (step p) Balanced new es) ∧
    ∀ t, run (step p) new es = some t → t.playing = [] → t.queued = [] →
      Throughout (step p) Balanced new es →
      EachStep (step p) (Matched p) new es := by
  constructor
  · intro hmatched
    refine Throughout.mono (fun s => Even.balanced) ?_
    exact throughout_of_eachStep (fun s e t h hm ht => h.next hm ht) even_new
      hmatched
  · intro t hrun hplaying hqueued hbalanced
    rcases eachStep_dichotomy (I := Even) (J := Excess)
      (fun s e t h hm ht => h.next hm ht)
      (fun s e t h hm ht => h.excess hm ht)
      (fun s e t h ht => h.next ht) even_new hrun with ⟨hes, -⟩ | ⟨-, hexcess⟩
    · exact hes
    · have hle := (throughout_iff_run.mp hbalanced es (List.prefix_refl _) t
        hrun).resumes_le
      simp only [Excess, underWay, hplaying, hqueued, List.length_nil] at hexcess
      omega

/-- A failed response resumes sensors that were not paused, and so does an
abort before the sound arrives. -/
theorem not_balanced_failed_response :
    let found := fun _ : ℕ => true
    let say := Event.execute ⟨"hello", "male", "en-US"⟩ found
    ¬Throughout (step .linux) Balanced new [say, .speechData 0 false found] ∧
      ¬Throughout (step .linux) Balanced new [say, .abort] := by
  intro found say
  have hsay : step .linux new say = some
      { new with
        requests := [⟨0, ⟨"hello", "male", "en-US"⟩⟩]
        toSounds := [⟨⟨0, ⟨"hello", "male", "en-US"⟩⟩, "en-US_MichaelVoice",
          "hello"⟩]
        executed := 1 } := by
    simp only [step, execute, say]
    rw [if_pos (show new.requests = [] from rfl),
      startSpeech_found (by simp) rfl rfl]
    rfl
  constructor
  · intro h
    have hle := ((h.2 _ hsay).2 _ rfl).resumes_le
    simp [onSpeechData, onSpeechDone_last, resumeSensor, new] at hle
  · intro h
    have hle := ((h.2 _ hsay).2 _ rfl).resumes_le
    exact absurd hle (by decide)

end SpeechGesture

end SelfPlugins.Speech
