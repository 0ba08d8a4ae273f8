import SelfPlugins.SpeechToText.Results

/-!
# Speech to text: the sessions are isolated

A listening session is what happens from a `StartListening` to the next
`StopListening`.  Its results, the expiries of its timer and the invalidation of
its callback should determine all that it delivers.  `History` records them
beside the service, and `History.current` replays them from an empty list.

`StopListening` cuts the connections and the callback, but neither
`m_ResultList` nor its timer; the sessions of a run are isolated precisely when
each of them finds the list empty.
-/

namespace SelfPlugins.Stt

open Runs

namespace Recognition

/-- The inputs a session is made of. -/
def Input.inSession : Input → Bool
  | .result _ | .expired | .invalidated => true
  | .started _ | .stopped | .restarted => false

/-- A session that has just begun. -/
def begun (models : ℕ) (callback : Option CallbackId) : Recognition where
  models := models
  listening := true
  callback := callback
  received := 0
  pending := []
  timer := false
  delivered := []
  deleted := []

/-- `r` is in the state `r'` of its present session, before which it has made
`n` deliveries. -/
structure Follows (n : ℕ) (r r' : Recognition) : Prop where
  models : r.models = r'.models
  listening : r.listening = r'.listening
  callback : r.callback = r'.callback
  pending : r.pending = r'.pending
  timer : r.timer = r'.timer
  before : n ≤ r.delivered.length
  delivered : r.delivered.drop n = r'.delivered

theorem Follows.finalize {n : ℕ} {r r' : Recognition} (h : Follows n r r') :
    Follows n r.finalize r'.finalize := by
  cases hcallback : r.callback with
  | none =>
      rw [finalize_invalid hcallback,
        finalize_invalid (h.callback.symm.trans hcallback)]
      exact ⟨h.models, rfl, h.callback, rfl, rfl, h.before, h.delivered⟩
  | some callback =>
      rw [finalize_valid hcallback,
        finalize_valid (h.callback.symm.trans hcallback)]
      refine ⟨h.models, h.listening, h.callback, rfl, rfl, ?_, ?_⟩
      · rw [List.length_append]
        exact Nat.le_add_right_of_le h.before
      · rw [List.drop_append_of_le_length h.before, h.delivered, h.pending]

/-- The inputs of a session do with `r` what they do with the session. -/
theorem Follows.next {n : ℕ} {r r' : Recognition} (h : Follows n r r')
    {i : Input} (hi : i.inSession = true) : Follows n (r.next i) (r'.next i) := by
  cases i with
  | result x =>
      have hpushed : Follows n
          { r with received := r.received + 1, pending := r.pending ++ [x] }
          { r' with
            received := r'.received + 1
            pending := r'.pending ++ [x] } :=
        ⟨h.models, h.listening, h.callback, congrArg (· ++ [x]) h.pending,
          h.timer, h.before, h.delivered⟩
      by_cases hfull : r.models ≤ (r.pending ++ [x]).length
      · have hfull' : r'.models ≤ (r'.pending ++ [x]).length := by
          rw [← h.models, ← h.pending]
          exact hfull
        simp only [Recognition.next, collect, if_pos hfull, if_pos hfull']
        exact hpushed.finalize
      · have hfull' : ¬r'.models ≤ (r'.pending ++ [x]).length := by
          rw [← h.models, ← h.pending]
          exact hfull
        simp only [Recognition.next, collect, if_neg hfull, if_neg hfull']
        exact { hpushed with timer := rfl }
  | expired => exact h.finalize
  | invalidated => exact { h with callback := rfl }
  | started callback => cases hi
  | stopped => cases hi
  | restarted => cases hi

/-- What is waiting and what has been delivered comes from the inputs. -/
structure Own (callback : Option CallbackId) (inputs : List Input)
    (r : Recognition) : Prop where
  valid : ∀ k, r.callback = some k → callback = some k
  pending : ∀ x ∈ r.pending, .result x ∈ inputs
  delivered : ∀ d ∈ r.delivered, callback = some d.1 ∧
    ∀ x, d.2 = some x → .result x ∈ inputs

theorem own_begun (models : ℕ) (callback : Option CallbackId) :
    Own callback [] (begun models callback) where
  valid _ h := h
  pending _ h := absurd h List.not_mem_nil
  delivered _ h := absurd h List.not_mem_nil

theorem Own.finalize {callback : Option CallbackId} {inputs : List Input}
    {r : Recognition} (h : Own callback inputs r) :
    Own callback inputs r.finalize := by
  cases hcallback : r.callback with
  | none =>
      rw [finalize_invalid hcallback]
      exact ⟨h.valid, fun _ h => absurd h List.not_mem_nil, h.delivered⟩
  | some k =>
      rw [finalize_valid hcallback]
      refine ⟨h.valid, fun _ h => absurd h List.not_mem_nil, fun d hd => ?_⟩
      rcases List.mem_append.mp hd with hd | hd
      · exact h.delivered d hd
      · rw [List.mem_singleton.mp hd]
        refine ⟨h.valid k hcallback, fun x hx => h.pending x ?_⟩
        by_cases hempty : r.pending = []
        · rw [hempty] at hx
          cases hx
        · obtain ⟨best, hbest, hfirst⟩ := SpeechToText.exists_best hempty
          rw [hbest, Option.some.injEq] at hx
          exact hx ▸ hfirst.mem

theorem Own.next {callback : Option CallbackId} {inputs : List Input}
    {r : Recognition} (h : Own callback inputs r) {i : Input}
    (hi : i.inSession = true) : Own callback (inputs ++ [i]) (r.next i) := by
  have hmore : Own callback (inputs ++ [i]) r :=
    ⟨h.valid, fun x hx => List.mem_append_left _ (h.pending x hx),
      fun d hd => ⟨(h.delivered d hd).1, fun x hx =>
        List.mem_append_left _ ((h.delivered d hd).2 x hx)⟩⟩
  cases i with
  | result x =>
      have hpushed : Own callback (inputs ++ [.result x])
          { r with received := r.received + 1, pending := r.pending ++ [x] } := by
        refine ⟨hmore.valid, fun y hy => ?_, hmore.delivered⟩
        rcases List.mem_append.mp hy with hy | hy
        · exact hmore.pending y hy
        · rw [List.mem_singleton.mp hy]
          exact List.mem_append_right _ List.mem_cons_self
      simp only [Recognition.next, collect]
      split
      · exact hpushed.finalize
      · exact ⟨hpushed.valid, hpushed.pending, hpushed.delivered⟩
  | expired => exact hmore.finalize
  | invalidated =>
      refine ⟨fun k hk => ?_, hmore.pending, hmore.delivered⟩
      cases hk
  | started callback => cases hi
  | stopped => cases hi
  | restarted => cases hi

/-- Without a callback, nothing is delivered. -/
theorem silent_next {r : Recognition} (hlistening : r.listening = false)
    (hcallback : r.callback = none) {i : Input} (hi : i.inSession = true) :
    (r.next i).listening = false ∧ (r.next i).callback = none ∧
      (r.next i).delivered = r.delivered := by
  have hfinalize : ∀ r : Recognition, r.callback = none →
      r.finalize.listening = false ∧ r.finalize.callback = none ∧
        r.finalize.delivered = r.delivered := by
    intro r hr
    rw [finalize_invalid hr]
    exact ⟨rfl, hr, rfl⟩
  cases i with
  | result x =>
      simp only [Recognition.next, collect]
      split
      · exact hfinalize _ hcallback
      · exact ⟨hlistening, hcallback, rfl⟩
  | expired => exact hfinalize r hcallback
  | invalidated => exact ⟨hlistening, rfl, rfl⟩
  | started callback => cases hi
  | stopped => cases hi
  | restarted => cases hi

/-- The service listens as long as its callback is valid. -/
theorem invalid_next {r : Recognition}
    (hr : r.listening = false → r.callback = none) {i : Input}
    (hi : i.inSession = true) (hlistening : (r.next i).listening = false) :
    (r.next i).callback = none := by
  have hfinalize : ∀ r : Recognition,
      (r.listening = false → r.callback = none) →
      r.finalize.listening = false → r.finalize.callback = none := by
    intro r hr hfinal
    cases hcallback : r.callback with
    | none =>
        rw [finalize_invalid hcallback]
        exact hcallback
    | some k =>
        rw [finalize_valid hcallback] at hfinal ⊢
        exact hr hfinal
  cases i with
  | result x =>
      simp only [Recognition.next, collect] at hlistening ⊢
      split at hlistening
      · rename_i hfull
        rw [if_pos hfull]
        exact hfinalize _ hr hlistening
      · rename_i hfull
        rw [if_neg hfull]
        exact hr hlistening
  | expired => exact hfinalize r hr hlistening
  | invalidated => rfl
  | started callback => cases hi
  | stopped => cases hi
  | restarted => cases hi

end Recognition

namespace SpeechToText

open Recognition

/-- The callback of the session that an event begins. -/
def begins (s : SpeechToText) : Event → Option CallbackId
  | .startListening callback => if s.isListening then none else callback
  | .setLearningOptOut flag =>
      if s.learningOptOut = flag then none else s.listenCallback
  | _ => none

theorem recognition_begins {s t : SpeechToText} {e : Event}
    {callback : CallbackId} (ht : step s e = some t)
    (hbegins : begins s e = some callback) : t.recognition =
      { s.recognition with listening := true, callback := some callback } := by
  cases e with
  | startListening callback' =>
      obtain ⟨-, rfl⟩ := whenIdle_eq_some ht
      simp only [begins] at hbegins
      split at hbegins
      · cases hbegins
      · rename_i hsilent
        have hsilent' : ¬s.recognition.listening = true := hsilent
        rw [hbegins, recognition_startListening, Recognition.start,
          if_neg hsilent']
  | setLearningOptOut flag =>
      obtain ⟨-, rfl⟩ := whenIdle_eq_some ht
      simp only [begins] at hbegins
      split at hbegins
      · cases hbegins
      · rename_i hflag
        rw [recognition_setLearningOptOut hflag, hbegins]
        by_cases hlistening : s.recognition.listening = true
        · simp [Recognition.stop, Recognition.start, hlistening]
        · simp [Recognition.stop, Recognition.start, hlistening]
  | _ => cases hbegins

/-- An input that is not of a session and begins none may stop the service. -/
theorem switch_cases {s : SpeechToText} {e : Event} {i : Input}
    (hi : input s e = some i) (hsession : ¬i.inSession = true)
    (hbegins : begins s e = none) :
    s.recognition.next i = s.recognition ∨
      s.recognition.next i = s.recognition.stop := by
  cases e with
  | startListening callback =>
      cases callback with
      | none => cases hi
      | some callback =>
          cases hi
          by_cases hlistening : s.isListening = true
          · exact Or.inl (if_pos hlistening)
          · rw [begins, if_neg hlistening] at hbegins
            cases hbegins
  | stopListening =>
      cases hi
      exact Or.inr rfl
  | setLearningOptOut flag =>
      by_cases hflag : s.learningOptOut = flag
      · rw [input, if_pos hflag] at hi
        cases hi
      · rw [input, if_neg hflag] at hi
        cases hi
        rw [begins, if_neg hflag] at hbegins
        have hcallback : s.recognition.callback = none := hbegins
        right
        rw [Recognition.next, hcallback, Recognition.start]
  | frame k frame =>
      cases frame with
      | results confidence final =>
          cases hi
          exact absurd rfl hsession
      | _ => cases hi
  | resultTimer =>
      cases hi
      exact absurd rfl hsession
  | invalidate =>
      cases hi
      exact absurd rfl hsession
  | _ => cases hi

/-- An event that begins no session brings an input of the present one, or
stops it at most. -/
theorem session_cases {s t : SpeechToText} {e : Event}
    (ht : step s e = some t) (hbegins : begins s e = none) :
    (∃ i, (input s e).filter Input.inSession = some i ∧
        i.inSession = true ∧ t.recognition = s.recognition.next i) ∨
      (input s e).filter Input.inSession = none ∧
        (t.recognition = s.recognition ∨
          t.recognition = s.recognition.stop) := by
  rcases recognition_step ht with ⟨i, hi, heq⟩ | ⟨hnone, heq⟩
  · by_cases hsession : i.inSession = true
    · left
      refine ⟨i, ?_, hsession, heq⟩
      rw [hi, Option.filter_some_pos hsession]
    · right
      refine ⟨by rw [hi, Option.filter_some_neg
        (Bool.eq_false_iff.mpr hsession)], ?_⟩
      rw [heq]
      exact switch_cases hi hsession hbegins
  · right
    exact ⟨by rw [hnone, Option.filter_none], heq⟩

/-- The service with a record of the last session: its callback, its inputs,
and the number of deliveries before it. -/
structure History where
  service : SpeechToText
  callback : Option CallbackId
  inputs : List Input
  before : ℕ

namespace History

def new (settings : Settings) : History where
  service := SpeechToText.new settings
  callback := none
  inputs := []
  before := 0

/-- An event begins a session, or adds its input to the present one. -/
def next (p : History) (e : Event) : Option History :=
  (step p.service e).map fun t =>
    match begins p.service e with
    | some callback => ⟨t, some callback, [], p.service.delivered.length⟩
    | none =>
        let input := (input p.service e).filter Input.inSession
        { p with
          service := t
          inputs := if p.service.isListening then p.inputs ++ input.toList
            else p.inputs }

/-- The last session, from its own inputs alone. -/
def current (p : History) : Recognition :=
  p.inputs.foldl Recognition.next
    (begun p.service.settings.models.length p.callback)

/-- The last session has delivered its own results only, to its own callback,
and what it has delivered and whether the result timer is armed are determined
by its own inputs. -/
structure Isolated (p : History) : Prop where
  own : ∀ d ∈ p.service.delivered.drop p.before, p.callback = some d.1 ∧
    ∀ x, d.2 = some x → .result x ∈ p.inputs
  delivered : p.service.delivered.drop p.before = p.current.delivered
  timing : p.service.isListening = true →
    p.service.resultTimer = p.current.timer

/-- A session that begins finds no result waiting. -/
def Clean (p : History) (e : Event) : Prop :=
  begins p.service e ≠ none → p.service.resultList = []

structure Kept (p : History) : Prop where
  sound : p.service.recognition.Sound
  own : Own p.callback p.inputs p.current
  delivered : p.service.delivered.drop p.before = p.current.delivered
  before : p.before ≤ p.service.delivered.length
  follows : p.service.isListening = true →
    Follows p.before p.service.recognition p.current
  silent : p.service.isListening = false → p.service.listenCallback = none

theorem Kept.isolated {p : History} (h : p.Kept) : p.Isolated where
  own d hd := h.own.delivered d (h.delivered ▸ hd)
  delivered := h.delivered
  timing hlistening := (h.follows hlistening).timer

theorem kept_new (settings : Settings) : (new settings).Kept where
  sound := sound_new settings
  own := own_begun _ none
  delivered := rfl
  before := Nat.le_refl 0
  follows h := by cases h
  silent _ := rfl

theorem current_concat (p : History) (i : Input) (t : SpeechToText)
    (ht : t.settings.models.length = p.service.settings.models.length) :
    current { p with service := t, inputs := p.inputs ++ [i] } =
      p.current.next i := by
  rw [current, current, List.foldl_append, ht]
  rfl

theorem current_service (p : History) (t : SpeechToText)
    (ht : t.settings.models.length = p.service.settings.models.length) :
    current { p with service := t } = p.current := by
  rw [current, current, ht]

theorem Kept.begun {p : History} {t : SpeechToText} {callback : CallbackId}
    (h : p.Kept) (hempty : p.service.resultList = [])
    (ht : t.recognition.Sound) (heq : t.recognition = { p.service.recognition with
      listening := true
      callback := some callback }) :
    Kept ⟨t, some callback, [], p.service.delivered.length⟩ := by
  have hdelivered : t.delivered = p.service.delivered :=
    congrArg Recognition.delivered heq
  have hlistening : t.isListening = true := congrArg Recognition.listening heq
  have hcallback : t.listenCallback = some callback :=
    congrArg Recognition.callback heq
  have htimer : p.service.resultTimer = false :=
    Bool.eq_false_iff.mpr fun harmed => h.sound.armed.mp harmed hempty
  have hdrop : t.delivered.drop p.service.delivered.length = [] := by
    rw [hdelivered, List.drop_length]
  exact {
    sound := ht
    own := own_begun _ _
    delivered := hdrop
    before := Nat.le_of_eq (congrArg List.length hdelivered).symm
    follows := fun _ => {
      models := rfl
      listening := hlistening
      callback := hcallback
      pending := (congrArg Recognition.pending heq).trans hempty
      timer := (congrArg Recognition.timer heq).trans htimer
      before := Nat.le_of_eq (congrArg List.length hdelivered).symm
      delivered := hdrop }
    silent := fun hsilent => by
      rw [hlistening] at hsilent
      cases hsilent }

theorem Kept.input {p : History} {t : SpeechToText} {i : Input} (h : p.Kept)
    (hlistening : p.service.isListening = true) (hi : i.inSession = true)
    (ht : t.recognition.Sound)
    (heq : t.recognition = p.service.recognition.next i) :
    Kept { p with service := t, inputs := p.inputs ++ [i] } := by
  have hmodels : t.settings.models.length =
      p.service.settings.models.length :=
    (congrArg Recognition.models heq).trans (models_next _ i)
  have hfollows : Follows p.before t.recognition
      (current { p with service := t, inputs := p.inputs ++ [i] }) := by
    rw [current_concat p i t hmodels, heq]
    exact (h.follows hlistening).next hi
  exact {
    sound := ht
    own := by
      rw [current_concat p i t hmodels]
      exact h.own.next hi
    delivered := hfollows.delivered
    before := hfollows.before
    follows := fun _ => hfollows
    silent := by
      intro hsilent
      have hsilent' : t.recognition.listening = false := hsilent
      have hcallback : t.recognition.callback = none := by
        rw [heq] at hsilent' ⊢
        exact invalid_next h.silent hi hsilent'
      exact hcallback }

/-- While the service is not listening, no session goes on. -/
theorem Kept.resting {p : History} {t : SpeechToText} (h : p.Kept)
    (ht : t.recognition.Sound)
    (hmodels : t.settings.models.length = p.service.settings.models.length)
    (hdelivered : t.delivered = p.service.delivered)
    (hlistening : t.isListening = false)
    (hcallback : t.listenCallback = none) : Kept { p with service := t } where
  sound := ht
  own := by
    rw [current_service p t hmodels]
    exact h.own
  delivered := by
    rw [current_service p t hmodels, hdelivered]
    exact h.delivered
  before := by
    rw [hdelivered]
    exact h.before
  follows hlistens := by
    rw [hlistening] at hlistens
    cases hlistens
  silent _ := hcallback

theorem Kept.same {p : History} {t : SpeechToText} (h : p.Kept)
    (heq : t.recognition = p.service.recognition) :
    Kept { p with service := t } := by
  have hcurrent := current_service p t (congrArg Recognition.models heq)
  have hdelivered : t.delivered = p.service.delivered :=
    congrArg Recognition.delivered heq
  have hlistening : t.isListening = p.service.isListening :=
    congrArg Recognition.listening heq
  exact {
    sound := heq ▸ h.sound
    own := hcurrent ▸ h.own
    delivered := by
      rw [hcurrent, hdelivered]
      exact h.delivered
    before := by
      rw [hdelivered]
      exact h.before
    follows := by
      intro hlistens
      rw [hcurrent, heq]
      exact h.follows (hlistening.symm.trans hlistens)
    silent := fun hsilent =>
      (congrArg Recognition.callback heq).trans
        (h.silent (hlistening.symm.trans hsilent)) }

theorem Kept.next {p q : History} {e : Event} (h : p.Kept)
    (hclean : p.Clean e) (hq : p.next e = some q) : q.Kept := by
  obtain ⟨t, ht, rfl⟩ := Option.map_eq_some_iff.mp hq
  have hmodels : t.settings.models.length =
      p.service.settings.models.length := models_step ht
  have hsound : t.recognition.Sound := sound_step h.sound ht
  cases hbegins : begins p.service e with
  | some callback =>
      have hempty : p.service.resultList = [] := by
        apply hclean
        rw [hbegins]
        exact Option.some_ne_none callback
      exact h.begun hempty hsound (recognition_begins ht hbegins)
  | none =>
      rcases session_cases ht hbegins with
        ⟨i, hinput, hi, heq⟩ | ⟨hinput, heq⟩
      · simp only [hinput, Option.toList_some]
        by_cases hlistening : p.service.isListening = true
        · rw [if_pos hlistening]
          exact h.input hlistening hi hsound heq
        · rw [if_neg hlistening]
          have hsilent : p.service.recognition.listening = false :=
            Bool.eq_false_iff.mpr hlistening
          obtain ⟨hnot, hcallback, hdelivered⟩ :=
            silent_next hsilent (h.silent hsilent) hi
          rw [← heq] at hnot hcallback hdelivered
          exact h.resting hsound hmodels hdelivered hnot hcallback
      · simp only [hinput, Option.toList_none, List.append_nil, ite_self]
        rcases heq with heq | heq
        · exact h.same heq
        · by_cases hlistening : p.service.recognition.listening = true
          · rw [Recognition.stop, if_pos hlistening] at heq
            exact h.resting hsound hmodels
              (congrArg Recognition.delivered heq)
              (congrArg Recognition.listening heq)
              (congrArg Recognition.callback heq)
          · rw [Recognition.stop, if_neg hlistening] at heq
            exact h.same heq

/-- A session that finds a result waiting has its timer armed for it. -/
theorem Kept.not_isolated {p q : History} {e : Event} (h : p.Kept)
    (hclean : ¬p.Clean e) (hq : p.next e = some q) : ¬q.Isolated := by
  obtain ⟨hbegins, hpending⟩ := Classical.not_imp.mp hclean
  obtain ⟨callback, hcallback⟩ := Option.ne_none_iff_exists'.mp hbegins
  obtain ⟨t, ht, rfl⟩ := Option.map_eq_some_iff.mp hq
  have heq := recognition_begins ht hcallback
  simp only [hcallback]
  intro hisolated
  have htimer : t.resultTimer = true :=
    (congrArg Recognition.timer heq).trans (h.sound.armed.mpr hpending)
  have hfalse := hisolated.timing (congrArg Recognition.listening heq)
  rw [htimer] at hfalse
  cases hfalse

/-- The sessions of a run are isolated precisely when each of them finds the
list of results empty. -/
theorem isolated_iff_clean (settings : Settings) (es : List Event) :
    Throughout next Isolated (new settings) es ↔
      EachStep next Clean (new settings) es := by
  apply throughout_iff_eachStep (I := Kept) (L := fun _ _ => True)
  · exact fun _ h => h.isolated
  · exact fun _ _ _ h _ hclean hq => h.next hclean hq
  · exact fun _ _ _ h _ hclean hq => h.not_isolated hclean hq
  · exact kept_new settings
  · exact eachStep_true (new settings) es

/-- A session is stopped while a result waits, and another one is started before
the timer expires. -/
def restartedWhileWaiting : List Event :=
  [.startListening (some 0), .sendReturns true .connected,
    .sendReturns true .connected, .frame 0 (.results (1 / 2) true),
    .stopListening, .startListening (some 1), .sendReturns true .connected,
    .sendReturns true .connected, .resultTimer]

/-- The second session delivers what was said in the first. -/
theorem not_isolated_after_restart :
    ¬Throughout next Isolated (new twoModels) restartedWhileWaiting := by
  intro h
  have hstate : (run next (new twoModels) restartedWhileWaiting).map
      (fun p => (p.inputs, (p.service.delivered.drop p.before).map
        fun d => (d.1, d.2.map RecognizeResults.id))) =
      some ([.expired], [(1, some 0)]) := rfl
  obtain ⟨p, hisolated, hp⟩ := h.last hstate
  obtain ⟨hinputs, hdelivered⟩ := Prod.mk.inj hp
  have hmem : (1, some 0) ∈ (p.service.delivered.drop p.before).map
      fun d => (d.1, d.2.map RecognizeResults.id) := by
    rw [hdelivered]
    exact List.mem_cons_self
  obtain ⟨d, hd, hid⟩ := List.mem_map.mp hmem
  obtain ⟨r, hr, -⟩ := Option.map_eq_some_iff.mp (Prod.mk.inj hid).2
  have hown := (hisolated.own d hd).2 r hr
  rw [hinputs, List.mem_singleton] at hown
  cases hown

end History

end SpeechToText

end SelfPlugins.Stt
