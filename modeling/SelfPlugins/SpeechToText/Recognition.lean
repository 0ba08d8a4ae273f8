import Mathlib.Algebra.Order.Ring.Unbundled.Rat
import SelfPlugins.SpeechToText.Steps

/-!
# Speech to text: the fusion of the results

The results of a listening session wait in `m_ResultList` until there are as
many of them as there are models, or until the result timer expires; the best
one goes to the listen callback and the others are deleted.  `Recognition` is
the part of the service that takes part in this, and `Recognition.next` what
each kind of input does to it.  `recognition_step` shows that the service
follows it, whatever its connections are doing.
-/

namespace SelfPlugins.Stt

/-! ## The best result -/

/-- `r` is the first result of the list with the greatest confidence. -/
def IsBest (l : List RecognizeResults) (r : RecognizeResults) : Prop :=
  ∃ before after, l = before ++ r :: after ∧
    (∀ x ∈ before, x.confidence < r.confidence) ∧
    ∀ x ∈ after, x.confidence ≤ r.confidence

theorem IsBest.mem {l : List RecognizeResults} {r : RecognizeResults}
    (h : IsBest l r) : r ∈ l := by
  obtain ⟨before, after, rfl, -, -⟩ := h
  exact List.mem_append_right _ List.mem_cons_self

theorem IsBest.le {l : List RecognizeResults} {r x : RecognizeResults}
    (h : IsBest l r) (hx : x ∈ l) : x.confidence ≤ r.confidence := by
  obtain ⟨before, after, rfl, hbefore, hafter⟩ := h
  rcases List.mem_append.mp hx with hx | hx
  · exact (hbefore x hx).le
  · rcases List.mem_cons.mp hx with rfl | hx
    · exact le_refl _
    · exact hafter x hx

theorem isBest_singleton (r : RecognizeResults) : IsBest [r] r :=
  ⟨[], [], rfl, fun _ h => absurd h List.not_mem_nil,
    fun _ h => absurd h List.not_mem_nil⟩

/-- A greater result becomes the best one. -/
theorem IsBest.concat_of_lt {l : List RecognizeResults}
    {b r : RecognizeResults} (h : IsBest l b)
    (hlt : b.confidence < r.confidence) : IsBest (l ++ [r]) r :=
  ⟨l, [], rfl, fun _ hx => (h.le hx).trans_lt hlt,
    fun _ hx => absurd hx List.not_mem_nil⟩

/-- A result that is not greater leaves the best one. -/
theorem IsBest.concat_of_le {l : List RecognizeResults}
    {b r : RecognizeResults} (h : IsBest l b)
    (hle : r.confidence ≤ b.confidence) : IsBest (l ++ [r]) b := by
  obtain ⟨before, after, rfl, hbefore, hafter⟩ := h
  refine ⟨before, after ++ [r], by simp, hbefore, fun x hx => ?_⟩
  rcases List.mem_append.mp hx with hx | hx
  · exact hafter x hx
  · rw [List.mem_singleton.mp hx]
    exact hle

namespace SpeechToText

/-- The loop of `OnFinalizeResult`, after the results `seen` with the best one
`b`. -/
theorem isBest_bestResult {seen : List RecognizeResults}
    {b : RecognizeResults} (h : IsBest seen b) (l : List RecognizeResults) :
    ∃ r, (bestResult (some b) l).1 = some r ∧ IsBest (seen ++ l) r := by
  induction l generalizing seen b with
  | nil => exact ⟨b, rfl, by rwa [List.append_nil]⟩
  | cons x l ih =>
      by_cases hlt : b.confidence < x.confidence
      · obtain ⟨r, hr, hbest⟩ := ih (h.concat_of_lt hlt)
        refine ⟨r, ?_, by simpa using hbest⟩
        rw [bestResult, if_pos hlt]
        exact hr
      · obtain ⟨r, hr, hbest⟩ := ih (h.concat_of_le (not_lt.mp hlt))
        refine ⟨r, ?_, by simpa using hbest⟩
        rw [bestResult, if_neg hlt]
        exact hr

theorem exists_best {l : List RecognizeResults} (hl : l ≠ []) :
    ∃ r, (bestResult none l).1 = some r ∧ IsBest l r := by
  obtain ⟨x, rest, rfl⟩ := List.exists_cons_of_ne_nil hl
  exact isBest_bestResult (isBest_singleton x) rest

end SpeechToText

/-! ## The fusion of the results -/

/-- The part of the service the results go through. -/
structure Recognition where
  models : ℕ
  listening : Bool
  callback : Option CallbackId
  received : ℕ
  pending : List RecognizeResults
  timer : Bool
  delivered : List (CallbackId × Option RecognizeResults)
  deleted : List RecognizeResults

namespace Recognition

inductive Input where
  | result (r : RecognizeResults)
  | expired
  | invalidated
  | started (callback : CallbackId)
  | stopped
  | restarted
deriving DecidableEq

def stop (r : Recognition) : Recognition :=
  if r.listening then { r with listening := false, callback := none } else r

def start (callback : Option CallbackId) (r : Recognition) : Recognition :=
  match callback with
  | none => r
  | some _ =>
      if r.listening then r
      else { r with listening := true, callback := callback }

def finalize (r : Recognition) : Recognition :=
  let best := SpeechToText.bestResult none r.pending
  let r := { r with
    timer := false
    pending := []
    deleted := r.deleted ++ best.2 }
  match r.callback with
  | none => { stop r with deleted := r.deleted ++ best.1.toList }
  | some callback =>
      { r with delivered := r.delivered ++ [(callback, best.1)] }

def collect (x : RecognizeResults) (r : Recognition) : Recognition :=
  let r := { r with pending := r.pending ++ [x] }
  if r.models ≤ r.pending.length then finalize r else { r with timer := true }

/-- The result an input brings. -/
def Input.results : Input → List RecognizeResults
  | .result x => [x]
  | .expired | .invalidated | .started _ | .stopped | .restarted => []

/-- The list of results that an input gives to `OnFinalizeResult`. -/
def due (r : Recognition) : Input → Option (List RecognizeResults)
  | .result x =>
      if r.models ≤ (r.pending ++ [x]).length then some (r.pending ++ [x])
      else none
  | .expired => some r.pending
  | .invalidated | .started _ | .stopped | .restarted => none

def next (r : Recognition) : Input → Recognition
  | .result x => collect x { r with received := r.received + 1 }
  | .expired => finalize r
  | .invalidated => { r with callback := none }
  | .started callback => start (some callback) r
  | .stopped => stop r
  | .restarted => start r.callback (stop r)

theorem finalize_valid {r : Recognition} {callback : CallbackId}
    (hcallback : r.callback = some callback) :
    finalize r = { r with
      timer := false
      pending := []
      delivered := r.delivered ++
        [(callback, (SpeechToText.bestResult none r.pending).1)]
      deleted := r.deleted ++ (SpeechToText.bestResult none r.pending).2 } := by
  simp [finalize, hcallback]

theorem finalize_invalid {r : Recognition} (hcallback : r.callback = none) :
    finalize r = { r with
      listening := false
      timer := false
      pending := []
      deleted := r.deleted ++ (SpeechToText.bestResult none r.pending).2 ++
        (SpeechToText.bestResult none r.pending).1.toList } := by
  simp only [finalize, hcallback, stop]
  split
  · rfl
  · rename_i hlistening
    rw [Bool.eq_false_iff.mpr hlistening]

/-- A switch of the session changes the callback, and whether the service is
listening. -/
def Switched (r r' : Recognition) : Prop :=
  ∃ listening callback,
    r' = { r with listening := listening, callback := callback }

theorem Switched.refl (r : Recognition) : Switched r r :=
  ⟨r.listening, r.callback, rfl⟩

theorem switched_stop (r : Recognition) : Switched r (stop r) := by
  rw [stop]
  split
  · exact ⟨_, _, rfl⟩
  · exact Switched.refl r

theorem Switched.start {r r' : Recognition} (h : Switched r r')
    (callback : Option CallbackId) :
    Switched r (Recognition.start callback r') := by
  obtain ⟨_, _, rfl⟩ := h
  simp only [Recognition.start]
  split
  · exact ⟨_, _, rfl⟩
  · split
    · exact ⟨_, _, rfl⟩
    · exact ⟨_, _, rfl⟩

/-- An input is a result, the expiry of the timer, or a switch. -/
theorem next_cases (r : Recognition) (i : Input) :
    (∃ x, i = .result x) ∨ i = .expired ∨
      i.results = [] ∧ r.due i = none ∧ Switched r (r.next i) := by
  cases i with
  | result x => exact Or.inl ⟨x, rfl⟩
  | expired => exact Or.inr (Or.inl rfl)
  | invalidated => exact Or.inr (Or.inr ⟨rfl, rfl, _, _, rfl⟩)
  | started callback =>
      exact Or.inr (Or.inr ⟨rfl, rfl, (Switched.refl r).start (some callback)⟩)
  | stopped => exact Or.inr (Or.inr ⟨rfl, rfl, switched_stop r⟩)
  | restarted =>
      exact Or.inr (Or.inr ⟨rfl, rfl, (switched_stop r).start r.callback⟩)

end Recognition

namespace SpeechToText

def recognition (s : SpeechToText) : Recognition where
  models := s.settings.models.length
  listening := s.isListening
  callback := s.listenCallback
  received := s.nextResult
  pending := s.resultList
  timer := s.resultTimer
  delivered := s.delivered
  deleted := s.deleted

/-- The result that a frame of the socket `k` brings. -/
def newResult (k : SocketId) (confidence : ℚ) (hasFinalResult : Bool)
    (s : SpeechToText) : RecognizeResults :=
  let c := (s.sockets k).owner
  ⟨s.nextResult, c, (s.conn c).language, confidence, hasFinalResult⟩

/-- What an event means to the fusion of the results. -/
def input (s : SpeechToText) : Event → Option Recognition.Input
  | .frame k (.results confidence hasFinalResult) =>
      some (.result (newResult k confidence hasFinalResult s))
  | .resultTimer => some .expired
  | .invalidate => some .invalidated
  | .startListening callback => callback.map .started
  | .stopListening => some .stopped
  | .setLearningOptOut flag =>
      if s.learningOptOut = flag then none else some .restarted
  | _ => none

/-! ## What the other functions leave alone -/

/-- What the functions of a connection do not touch. -/
def core (s : SpeechToText) : Recognition × List ConnId × Loop :=
  (s.recognition, s.connections, s.loop)

@[simp] theorem core_modifyConn (c : ConnId)
    (f : Connection → Connection) (s : SpeechToText) :
    (modifyConn c f s).core = s.core := rfl

@[simp] theorem core_modifySocket (k : SocketId) (f : Socket → Socket)
    (s : SpeechToText) :
    (modifySocket k f s).core = s.core := rfl

@[simp] theorem core_onListenSocket (c : ConnId) (f : Socket → Socket)
    (s : SpeechToText) :
    (onListenSocket c f s).core = s.core := by
  rw [onListenSocket]
  split
  · rfl
  · rfl

@[simp] theorem core_sendStart (c : ConnId) (s : SpeechToText) :
    (sendStart c s).core = s.core := by
  simp [sendStart]

@[simp] theorem core_sendStop (c : ConnId) (s : SpeechToText) :
    (sendStop c s).core = s.core := by
  rw [sendStop]
  split
  · simp
  · rfl

@[simp] theorem core_beginSend (c : ConnId) (site : Site)
    (s : SpeechToText) : (beginSend c site s).core = s.core := by
  rw [beginSend]
  split
  · rfl
  · rfl

@[simp] theorem core_sendAudio (c : ConnId) (clip : SpeechAudioData)
    (s : SpeechToText) : (sendAudio c clip s).core = s.core := by
  have hannounce : (announce c clip s).core = s.core := by
    rw [announce]
    split
    · simp
    · rfl
  have hclip : ∀ u, (sendClip c clip u).core = u.core := by
    intro u
    rw [sendClip]
    split
    · split
      · simp
      · rfl
    · split
      · simp
      · rfl
  have hcheck : ∀ u, (checkListening c u).core = u.core := by
    intro u
    rw [checkListening]
    split
    · exact core_onListenSocket c close _
    · rfl
  rw [sendAudio, hcheck, hclip, hannounce]

@[simp] theorem core_createListenConnector (c : ConnId)
    (s : SpeechToText) :
    (createListenConnector c s).core = s.core := by
  rw [createListenConnector]
  split
  · rfl
  · exact core_beginSend c .create _

@[simp] theorem core_refresh (c : ConnId) (s : SpeechToText) :
    (refresh c s).core = s.core := by
  simp [refresh, closeListenConnector]

@[simp] theorem core_disconnected (c : ConnId) (s : SpeechToText) :
    (disconnected c s).core = s.core := by
  rw [disconnected]
  split
  · rfl
  · simp

theorem core_foldl {f : SpeechToText → ConnId → SpeechToText}
    (hf : ∀ s c, (f s c).core = s.core) (cs : List ConnId)
    (s : SpeechToText) : (cs.foldl f s).core = s.core := by
  induction cs generalizing s with
  | nil => rfl
  | cons c cs ih => exact (ih (f s c)).trans (hf s c)

theorem core_onListen (clip : SpeechAudioData) (s : SpeechToText) :
    (onListen clip s).core = s.core := by
  rw [onListen]
  split
  · exact core_foldl (fun s c => core_sendAudio c clip s) _ s
  · rfl

theorem core_disconnectAll (s : SpeechToText) :
    (disconnectAll s).core = s.core :=
  core_foldl (fun s c => core_disconnected c s) _ s

theorem core_message {c : ConnId} {frame : Frame}
    (hframe : ∀ confidence final, frame ≠ .results confidence final)
    (s : SpeechToText) : (onListenMessage c frame s).core = s.core := by
  cases frame with
  | results confidence final => exact absurd rfl (hframe confidence final)
  | badResults => rfl
  | state text =>
      simp only [onListenMessage]
      split
      · rfl
      · rfl
  | error text => exact core_onListenSocket c close s
  | other => rfl

theorem recognition_startNext (models : List String)
    (s : SpeechToText) : (startNext models s).recognition = s.recognition := by
  cases models with
  | nil => rfl
  | cons model rest => exact congrArg Prod.fst (core_createListenConnector _ _)

theorem recognition_refreshNext (cs : List ConnId)
    (s : SpeechToText) : (refreshNext cs s).recognition = s.recognition := by
  cases cs with
  | nil => rfl
  | cons c rest => exact congrArg Prod.fst (core_refresh c _)

theorem recognition_resume (s : SpeechToText) :
    (resume s).recognition = s.recognition := by
  rw [resume]
  split
  · split
    · rfl
    · exact recognition_startNext _ _
    · exact recognition_refreshNext _ s
  · rfl

/-! ## The service follows the fusion -/

theorem recognition_stopListening (s : SpeechToText) :
    (stopListening s).recognition = s.recognition.stop := by
  by_cases hlistening : s.isListening = true
  · simp [stopListening, Recognition.stop, recognition, hlistening]
  · simp [stopListening, Recognition.stop, recognition, hlistening]

theorem recognition_startListening (callback : Option CallbackId)
    (s : SpeechToText) : (startListening callback s).recognition =
      s.recognition.start callback := by
  cases callback with
  | none => rfl
  | some callback =>
      by_cases hlistening : s.isListening = true
      · simp [startListening, Recognition.start, recognition, hlistening]
      · simp only [startListening, if_neg hlistening, recognition_startNext]
        simp [Recognition.start, recognition, hlistening]

theorem recognition_setLearningOptOut {flag : Bool} {s : SpeechToText}
    (hflag : s.learningOptOut ≠ flag) :
    (setLearningOptOut flag s).recognition =
      s.recognition.stop.start s.listenCallback := by
  rw [setLearningOptOut, if_neg hflag, recognition_startListening,
    recognition_stopListening]
  rfl

theorem recognition_onFinalizeResult (s : SpeechToText) :
    (onFinalizeResult s).recognition = s.recognition.finalize := by
  cases hcallback : s.listenCallback with
  | none =>
      have hcallback' : s.recognition.callback = none := hcallback
      simp only [onFinalizeResult, Recognition.finalize, hcallback, hcallback']
      by_cases hlistening : s.isListening = true
      · simp [stopListening, Recognition.stop, recognition, hlistening]
      · simp [stopListening, Recognition.stop, recognition, hlistening]
  | some callback =>
      have hcallback' : s.recognition.callback = some callback := hcallback
      simp only [onFinalizeResult, Recognition.finalize, hcallback, hcallback']
      simp [recognition, hcallback]

theorem recognition_onReconizeResult (x : RecognizeResults)
    (s : SpeechToText) :
    (onReconizeResult x s).recognition = s.recognition.collect x := by
  rw [onReconizeResult, Recognition.collect]
  by_cases hfull : s.settings.models.length ≤ (s.resultList ++ [x]).length
  · rw [if_pos hfull, if_pos (show s.recognition.models ≤
      (s.recognition.pending ++ [x]).length from hfull)]
    exact recognition_onFinalizeResult _
  · rw [if_neg hfull, if_neg (show ¬s.recognition.models ≤
      (s.recognition.pending ++ [x]).length from hfull)]
    rfl

theorem recognition_results (k : SocketId) (confidence : ℚ)
    (hasFinalResult : Bool) (s : SpeechToText) :
    (onListenMessage (s.sockets k).owner
      (.results confidence hasFinalResult) s).recognition =
      s.recognition.next
        (.result (newResult k confidence hasFinalResult s)) := by
  simp only [onListenMessage]
  rw [recognition_onReconizeResult]
  split
  · have hsame := core_sendStart (s.sockets k).owner
      { s with nextResult := s.nextResult + 1 }
    rw [show (sendStart _ _).recognition = _ from congrArg Prod.fst hsame]
    rfl
  · rfl

/-! ### Reconnections -/

/-- What is left of the core when the service is stopped. -/
def stopped (core : Recognition × List ConnId × Loop) :
    Recognition × List ConnId × Loop :=
  (core.1.stop, if core.1.listening then [] else core.2.1, core.2.2)

theorem core_stopListening (s : SpeechToText) :
    (stopListening s).core = stopped s.core := by
  by_cases hlistening : s.isListening = true
  · simp [stopListening, stopped, core, recognition, Recognition.stop,
      hlistening]
  · simp [stopListening, stopped, core, recognition, Recognition.stop,
      hlistening]

/-- Nothing happens to the results, the connections and the loops, unless the
service is stopped. -/
def Steady (s t : SpeechToText) : Prop :=
  t.core = s.core ∨ t.core = stopped s.core

theorem Steady.of_core {s t u : SpeechToText} (h : Steady u t)
    (hu : u.core = s.core) : Steady s t := by
  rw [Steady, ← hu]
  exact h

theorem Steady.recognition {s t : SpeechToText} (h : Steady s t) :
    t.recognition = s.recognition ∨ t.recognition = s.recognition.stop := by
  rcases h with h | h
  · exact Or.inl (congrArg Prod.fst h)
  · exact Or.inr (congrArg Prod.fst h)

theorem steady_onReconnect (c : ConnId) (s : SpeechToText) :
    Steady s (onReconnect c s) := by
  rw [onReconnect]
  split
  · split
    · exact Or.inl rfl
    · split
      · exact Or.inl (core_beginSend c .reconnect _)
      · exact Or.inr (core_stopListening _)
  · exact Or.inl rfl

theorem steady_onListenState (c : ConnId) (k : SocketId) (s : SpeechToText) :
    Steady s (onListenState c k s) := by
  rw [onListenState]
  split
  · split
    · split
      · exact (steady_onReconnect c _).of_core rfl
      · split
        · exact Or.inl rfl
        · exact Or.inl rfl
    · exact Or.inl rfl
  · exact Or.inl rfl

theorem steady_afterSend (call : Send) (ok : Bool) (s : SpeechToText) :
    Steady s (afterSend call ok s) := by
  cases ok with
  | true =>
      left
      rw [afterSend, if_pos rfl]
      split
      · rfl
      · rfl
  | false =>
      rw [afterSend, if_neg Bool.false_ne_true]
      split
      · exact (steady_onReconnect call.conn _).of_core rfl
      · exact (steady_onReconnect call.conn _).of_core rfl

theorem steady_notify {s t : SpeechToText} {k : SocketId}
    (ht : notify k s = some t) : Steady s t := by
  obtain ⟨-, u, rfl, ⟨-, rfl⟩ | ⟨-, rfl⟩⟩ := of_notify ht
  · exact (steady_onListenState _ k _).of_core rfl
  · exact Or.inl rfl

theorem steady_sendNotifies {s t : SpeechToText} {st : ClientState}
    (ht : sendNotifies st s = some t) : Steady s t := by
  obtain ⟨call, rest, -, rfl⟩ := of_sendNotifies ht
  exact (steady_onListenState call.conn call.socket _).of_core rfl

theorem steady_reconnectTimer {s t : SpeechToText} {c : ConnId}
    (ht : reconnectTimer c s = some t) : Steady s t := by
  obtain ⟨-, -, -, rfl⟩ := of_reconnectTimer ht
  exact (steady_onReconnect c _).of_core rfl

/-- When `Send()` returns, the loops go on in a state that is steady. -/
theorem steady_sendReturns {s t : SpeechToText} {ok : Bool} {st : ClientState}
    (ht : sendReturns ok st s = some t) :
    ∃ u, Steady s u ∧ t = resume u := by
  obtain ⟨call, rest, -, -, rfl⟩ := of_sendReturns ht
  refine ⟨_, ?_, rfl⟩
  exact (steady_afterSend call ok _).of_core rfl

/-! ### All events -/

/-- The service does with its results what the input says.  Any other event
changes nothing there, unless it stops the service. -/
theorem recognition_step {s t : SpeechToText} {e : Event}
    (ht : step s e = some t) :
    (∃ i, input s e = some i ∧ t.recognition = s.recognition.next i) ∨
      input s e = none ∧ (t.recognition = s.recognition ∨
        t.recognition = s.recognition.stop) := by
  cases e with
  | startListening callback =>
      obtain ⟨-, rfl⟩ := whenIdle_eq_some ht
      cases callback with
      | none => exact Or.inr ⟨rfl, Or.inl rfl⟩
      | some callback =>
          exact Or.inl ⟨_, rfl, recognition_startListening (some callback) s⟩
  | stopListening =>
      obtain ⟨-, rfl⟩ := whenIdle_eq_some ht
      exact Or.inl ⟨_, rfl, recognition_stopListening s⟩
  | setLearningOptOut flag =>
      obtain ⟨-, rfl⟩ := whenIdle_eq_some ht
      by_cases hflag : s.learningOptOut = flag
      · refine Or.inr ⟨if_pos hflag, Or.inl ?_⟩
        rw [setLearningOptOut, if_pos hflag]
      · exact Or.inl ⟨.restarted, if_neg hflag,
          recognition_setLearningOptOut hflag⟩
  | refreshConnections =>
      obtain ⟨-, rfl⟩ := whenIdle_eq_some ht
      refine Or.inr ⟨rfl, Or.inl ?_⟩
      rw [refreshConnections]
      split
      · exact recognition_refreshNext _ s
      · rfl
  | disconnected =>
      obtain ⟨-, rfl⟩ := whenIdle_eq_some ht
      exact Or.inr ⟨rfl, Or.inl (congrArg Prod.fst (core_disconnectAll s))⟩
  | onListen clip =>
      obtain ⟨-, rfl⟩ := whenIdle_eq_some ht
      exact Or.inr ⟨rfl, Or.inl (congrArg Prod.fst (core_onListen clip s))⟩
  | frame k frame =>
      obtain ⟨-, -, rfl⟩ := of_step_frame ht
      cases frame with
      | results confidence final =>
          exact Or.inl ⟨_, rfl, recognition_results k confidence final s⟩
      | _ =>
          refine Or.inr ⟨rfl, Or.inl (congrArg Prod.fst (core_message ?_ s))⟩
          intro _ _ h
          cases h
  | socket k st =>
      obtain ⟨-, rfl⟩ := of_socketChanges ht
      exact Or.inr ⟨rfl, Or.inl rfl⟩
  | notify k => exact Or.inr ⟨rfl, (steady_notify ht).recognition⟩
  | sendNotifies st => exact Or.inr ⟨rfl, (steady_sendNotifies ht).recognition⟩
  | sendReturns ok st =>
      obtain ⟨u, hu, rfl⟩ := steady_sendReturns ht
      rw [recognition_resume]
      exact Or.inr ⟨rfl, hu.recognition⟩
  | reconnectTimer c =>
      exact Or.inr ⟨rfl, (steady_reconnectTimer ht).recognition⟩
  | resultTimer =>
      obtain ⟨-, -, rfl⟩ := of_step_resultTimer ht
      exact Or.inl ⟨.expired, rfl, recognition_onFinalizeResult s⟩
  | elapse seconds =>
      obtain rfl := of_step_elapse ht
      exact Or.inr ⟨rfl, Or.inl rfl⟩
  | invalidate =>
      cases ht
      exact Or.inl ⟨.invalidated, rfl, rfl⟩

end SpeechToText

end SelfPlugins.Stt
