import Mathlib.Data.List.Nodup
import SelfPlugins.Library.Runs
import SelfPlugins.SpeechToText.Recognition

/-!
# Speech to text: every result is conserved

A result is either in `m_ResultList`, or it has been delivered once, or it has
been deleted once.  While results are waiting the result timer is armed, and
each finalisation delivers the first of the best results, if there is still a
valid callback.
-/

namespace SelfPlugins.Stt

open Runs

namespace SpeechToText

/-- The loop loses nothing: what is not the best result is deleted. -/
theorem perm_bestResult (best : Option RecognizeResults)
    (l : List RecognizeResults) :
    ((bestResult best l).1.toList ++ (bestResult best l).2).Perm
      (best.toList ++ l) := by
  induction l generalizing best with
  | nil => rw [bestResult]
  | cons x l ih =>
      cases best with
      | none => exact ih (some x)
      | some b =>
          rw [bestResult]
          split
          · have hx : ((bestResult (some x) l).1.toList ++
                (bestResult (some x) l).2).Perm (x :: l) := ih (some x)
            exact List.perm_middle.trans (hx.cons b)
          · have hb : ((bestResult (some b) l).1.toList ++
                (bestResult (some b) l).2).Perm (b :: l) := ih (some b)
            exact List.perm_middle.trans
              ((hb.cons x).trans (List.Perm.swap b x l))

end SpeechToText

namespace Recognition

/-- The results, wherever they are. -/
def placed (r : Recognition) : List RecognizeResults :=
  r.pending ++ r.delivered.filterMap Prod.snd ++ r.deleted

/-- The results are handled with care: the timer is armed precisely while some
are waiting, there are fewer of them than models, and no callback has been
called without a result. -/
structure Sound (r : Recognition) : Prop where
  armed : r.timer = true ↔ r.pending ≠ []
  short : r.pending ≠ [] → r.pending.length < r.models
  delivered : ∀ d ∈ r.delivered, d.2 ≠ none

theorem perm_finalize (r : Recognition) :
    (finalize r).placed.Perm r.placed := by
  have hbest := SpeechToText.perm_bestResult none r.pending
  apply List.perm_iff_count.mpr
  intro x
  have hcount := hbest.count_eq x
  simp only [List.count_append, Option.toList_none, List.count_nil,
    Nat.zero_add] at hcount
  cases hcallback : r.callback with
  | none =>
      rw [finalize_invalid hcallback]
      simp only [placed, List.count_append, List.count_nil]
      omega
  | some callback =>
      have hone : ∀ best : Option RecognizeResults,
          List.filterMap Prod.snd [(callback, best)] = best.toList := by
        intro best
        cases best with
        | none => rfl
        | some b => rfl
      rw [finalize_valid hcallback]
      simp only [placed, List.filterMap_append, hone, List.count_append,
        List.count_nil]
      omega

theorem perm_collect (x : RecognizeResults) (r : Recognition) :
    (collect x r).placed.Perm (r.placed ++ [x]) := by
  have hpushed : (placed { r with pending := r.pending ++ [x] }).Perm
      (r.placed ++ [x]) := by
    simp only [placed, List.append_assoc]
    apply List.Perm.append_left
    calc ([x] ++ (r.delivered.filterMap Prod.snd ++ r.deleted)).Perm
          ((r.delivered.filterMap Prod.snd ++ r.deleted) ++ [x]) :=
        List.perm_append_comm
      _ = r.delivered.filterMap Prod.snd ++ (r.deleted ++ [x]) :=
        List.append_assoc _ _ _
  rw [collect]
  split
  · exact (perm_finalize _).trans hpushed
  · exact hpushed

/-- An input adds its result to the others, and nothing is lost. -/
theorem perm_next (r : Recognition) (i : Input) :
    (r.next i).placed.Perm (r.placed ++ i.results) := by
  rcases next_cases r i with ⟨x, rfl⟩ | rfl | ⟨hresults, -, _, _, hnext⟩
  · exact perm_collect x _
  · rw [Input.results, List.append_nil]
    exact perm_finalize r
  · rw [hnext, hresults, List.append_nil]
    rfl

theorem Switched.sound {r r' : Recognition} (hr : Switched r r')
    (h : Sound r) : Sound r' := by
  obtain ⟨_, _, rfl⟩ := hr
  exact ⟨h.armed, h.short, h.delivered⟩

/-- Whatever has been collected, a result is delivered. -/
theorem sound_finalize {r : Recognition} (hpending : r.pending ≠ [])
    (hdelivered : ∀ d ∈ r.delivered, d.2 ≠ none) : Sound (finalize r) := by
  obtain ⟨best, hbest, -⟩ := SpeechToText.exists_best hpending
  cases hcallback : r.callback with
  | none =>
      rw [finalize_invalid hcallback]
      exact ⟨by simp, by simp, hdelivered⟩
  | some callback =>
      rw [finalize_valid hcallback]
      refine ⟨by simp, by simp, fun d hd => ?_⟩
      rcases List.mem_append.mp hd with hd | hd
      · exact hdelivered d hd
      · rw [List.mem_singleton.mp hd, hbest]
        exact Option.some_ne_none best

theorem sound_collect {r : Recognition} (h : Sound r)
    (x : RecognizeResults) : Sound (collect x r) := by
  have hpushed : r.pending ++ [x] ≠ [] := by simp
  rw [collect]
  split
  · exact sound_finalize hpushed h.delivered
  · rename_i hshort
    exact ⟨by simp, fun _ => Nat.lt_of_not_le hshort, h.delivered⟩

theorem sound_next {r : Recognition} (h : Sound r) {i : Input}
    (hexpired : i = .expired → r.timer = true) : Sound (r.next i) := by
  rcases next_cases r i with ⟨x, rfl⟩ | rfl | ⟨-, -, hnext⟩
  · apply sound_collect
    exact ⟨h.armed, h.short, h.delivered⟩
  · exact sound_finalize (h.armed.mp (hexpired rfl)) h.delivered
  · exact hnext.sound h

theorem finalize_constants (r : Recognition) :
    (finalize r).received = r.received ∧ (finalize r).models = r.models := by
  cases hcallback : r.callback with
  | none =>
      rw [finalize_invalid hcallback]
      exact ⟨rfl, rfl⟩
  | some callback =>
      rw [finalize_valid hcallback]
      exact ⟨rfl, rfl⟩

theorem received_next (r : Recognition) (i : Input) :
    (r.next i).received = r.received + i.results.length := by
  rcases next_cases r i with ⟨x, rfl⟩ | rfl | ⟨hresults, -, _, _, hnext⟩
  · rw [next, collect]
    split
    · exact (finalize_constants _).1
    · rfl
  · exact (finalize_constants r).1
  · rw [hnext, hresults]
    rfl

theorem models_next (r : Recognition) (i : Input) :
    (r.next i).models = r.models := by
  rcases next_cases r i with ⟨x, rfl⟩ | rfl | ⟨-, -, _, _, hnext⟩
  · rw [next, collect]
    split
    · exact (finalize_constants _).2
    · rfl
  · exact (finalize_constants r).2
  · rw [hnext]

/-- What a finalisation of the list `l` adds to the calls of the callback. -/
def Delivers (l : Option (List RecognizeResults))
    (callback : Option CallbackId)
    (before after : List (CallbackId × Option RecognizeResults)) : Prop :=
  match l, callback with
  | some l, some callback =>
      ∃ best, IsBest l best ∧ after = before ++ [(callback, some best)]
  | _, _ => after = before

theorem delivers_finalize {r : Recognition} (hpending : r.pending ≠ []) :
    Delivers (some r.pending) r.callback r.delivered
      (finalize r).delivered := by
  cases hcallback : r.callback with
  | none =>
      rw [finalize_invalid hcallback]
      rfl
  | some callback =>
      obtain ⟨best, hbest, hfirst⟩ := SpeechToText.exists_best hpending
      rw [finalize_valid hcallback, Delivers]
      exact ⟨best, hfirst, by rw [hbest]⟩

/-- A finalisation delivers the first of the best results, and nothing else
calls the callback. -/
theorem delivers_next {r : Recognition} (h : Sound r) {i : Input}
    (hexpired : i = .expired → r.timer = true) :
    Delivers (r.due i) r.callback r.delivered (r.next i).delivered := by
  rcases next_cases r i with ⟨x, rfl⟩ | rfl | ⟨-, hdue, _, _, hnext⟩
  · rw [due, next, collect]
    by_cases hfull : r.models ≤ (r.pending ++ [x]).length
    · rw [if_pos hfull, if_pos hfull]
      apply delivers_finalize (r := { r with
        received := r.received + 1
        pending := r.pending ++ [x] })
      simp
    · rw [if_neg hfull, if_neg hfull]
      rfl
  · exact delivers_finalize (h.armed.mp (hexpired rfl))
  · rw [hdue, hnext]
    rfl

end Recognition

namespace SpeechToText

/-! ## Steps and runs -/

open Recognition

/-- The list of results with which an event runs `OnFinalizeResult`. -/
def finalized (s : SpeechToText) (e : Event) :
    Option (List RecognizeResults) :=
  (input s e).bind s.recognition.due

/-- The results an event hands to `OnReconizeResult`. -/
def received (s : SpeechToText) (e : Event) : List RecognizeResults :=
  (input s e).elim [] Input.results

/-- The results that a run hands to `OnReconizeResult`. -/
def handed : SpeechToText → List Event → List RecognizeResults
  | _, [] => []
  | s, e :: es =>
      (step s e).elim [] fun t => received s e ++ handed t es

/-- Where an input comes from, if it is an expired timer or a result. -/
theorem input_cases {s : SpeechToText} {e : Event} {i : Input}
    (he : input s e = some i) :
    (i = .expired ∧ e = .resultTimer) ∨
      (∃ k confidence final, i = .result (newResult k confidence final s) ∧
        e = .frame k (.results confidence final)) ∨
      (i ≠ .expired ∧ ∀ x, i ≠ .result x) := by
  cases e with
  | resultTimer => exact Or.inl ⟨(Option.some.inj he).symm, rfl⟩
  | frame k frame =>
      cases frame with
      | results confidence final =>
          exact Or.inr (Or.inl ⟨k, confidence, final,
            (Option.some.inj he).symm, rfl⟩)
      | _ => cases he
  | startListening callback =>
      obtain ⟨callback, -, rfl⟩ := Option.map_eq_some_iff.mp he
      exact Or.inr (Or.inr ⟨nofun, nofun⟩)
  | setLearningOptOut flag =>
      obtain ⟨-, he⟩ := Option.ite_none_left_eq_some.mp he
      obtain rfl := Option.some.inj he
      exact Or.inr (Or.inr ⟨nofun, nofun⟩)
  | invalidate =>
      obtain rfl := Option.some.inj he
      exact Or.inr (Or.inr ⟨nofun, nofun⟩)
  | stopListening =>
      obtain rfl := Option.some.inj he
      exact Or.inr (Or.inr ⟨nofun, nofun⟩)
  | _ => cases he

theorem eq_resultTimer {s : SpeechToText} {e : Event}
    (he : input s e = some .expired) : e = .resultTimer := by
  rcases input_cases he with ⟨-, htimer⟩ | ⟨_, _, _, hresult, -⟩ | ⟨hne, -⟩
  · exact htimer
  · cases hresult
  · exact absurd rfl hne

theorem armed_of_expired {s t : SpeechToText} {e : Event}
    (ht : step s e = some t) (he : input s e = some .expired) :
    s.resultTimer = true := by
  rw [eq_resultTimer he] at ht
  exact (of_step_resultTimer ht).1

theorem eq_results {s : SpeechToText} {e : Event} {x : RecognizeResults}
    (he : input s e = some (.result x)) :
    ∃ k confidence final, e = .frame k (.results confidence final) ∧
      x = newResult k confidence final s := by
  rcases input_cases he with ⟨hexpired, -⟩ |
    ⟨k, confidence, final, hresult, hframe⟩ | ⟨-, hne⟩
  · cases hexpired
  · exact ⟨k, confidence, final, hframe, Input.result.inj hresult⟩
  · exact absurd rfl (hne x)

/-- An event is an input, or a switch at most. -/
theorem input_or_switched {s t : SpeechToText} {e : Event}
    (ht : step s e = some t) :
    (∃ i, input s e = some i ∧ t.recognition = s.recognition.next i) ∨
      input s e = none ∧ Switched s.recognition t.recognition := by
  rcases recognition_step ht with hi | ⟨hnone, heq | heq⟩
  · exact Or.inl hi
  · exact Or.inr ⟨hnone, heq ▸ Switched.refl s.recognition⟩
  · exact Or.inr ⟨hnone, heq ▸ switched_stop s.recognition⟩

theorem sound_step {s t : SpeechToText} {e : Event}
    (h : Sound s.recognition) (ht : step s e = some t) :
    Sound t.recognition := by
  rcases input_or_switched ht with ⟨i, hi, heq⟩ | ⟨-, hswitched⟩
  · rw [heq]
    exact sound_next h fun hexpired => armed_of_expired ht (hexpired ▸ hi)
  · exact hswitched.sound h

theorem models_step {s t : SpeechToText} {e : Event}
    (ht : step s e = some t) :
    t.recognition.models = s.recognition.models := by
  rcases input_or_switched ht with ⟨i, -, heq⟩ | ⟨-, _, _, heq⟩
  · rw [heq, models_next]
  · rw [heq]

theorem perm_step {s t : SpeechToText} {e : Event} (ht : step s e = some t) :
    t.recognition.placed.Perm (s.recognition.placed ++ received s e) := by
  rw [received]
  rcases input_or_switched ht with ⟨i, hi, heq⟩ | ⟨hnone, _, _, heq⟩
  · rw [heq, hi]
    exact perm_next s.recognition i
  · rw [heq, hnone, Option.elim_none, List.append_nil]
    rfl

theorem delivers_step {s t : SpeechToText} {e : Event}
    (h : Sound s.recognition) (ht : step s e = some t) :
    Delivers (finalized s e) s.listenCallback s.delivered t.delivered := by
  rw [finalized]
  have hdelivered : t.delivered = t.recognition.delivered := rfl
  rcases input_or_switched ht with ⟨i, hi, heq⟩ | ⟨hnone, _, _, heq⟩
  · rw [hdelivered, heq, hi]
    exact delivers_next h fun hexpired => armed_of_expired ht (hexpired ▸ hi)
  · rw [hdelivered, heq, hnone]
    rfl

theorem nextResult_step {s t : SpeechToText} {e : Event}
    (ht : step s e = some t) :
    t.nextResult = s.nextResult + (received s e).length := by
  rw [received]
  have hnext : t.nextResult = t.recognition.received := rfl
  rcases input_or_switched ht with ⟨i, hi, heq⟩ | ⟨hnone, _, _, heq⟩
  · rw [hnext, heq, hi]
    exact received_next s.recognition i
  · rw [hnext, heq, hnone]
    rfl

/-- The results of an event are numbered from `nextResult` on. -/
theorem received_ids (s : SpeechToText) (e : Event) :
    (received s e).map RecognizeResults.id =
      List.range' s.nextResult (received s e).length := by
  rw [received]
  cases he : input s e with
  | none => rfl
  | some i =>
      cases i with
      | result x =>
          obtain ⟨k, confidence, final, -, rfl⟩ := eq_results he
          rfl
      | _ => rfl

theorem perm_handed {s t : SpeechToText} {es : List Event}
    (hrun : run step s es = some t) :
    t.recognition.placed.Perm (s.recognition.placed ++ handed s es) := by
  induction es generalizing s with
  | nil =>
      rw [run_nil, Option.some.injEq] at hrun
      rw [hrun, handed, List.append_nil]
  | cons e es ih =>
      rw [run_cons] at hrun
      obtain ⟨u, hu, hut⟩ := Option.bind_eq_some_iff.mp hrun
      rw [handed, hu, Option.elim_some, ← List.append_assoc]
      exact (ih hut).trans ((perm_step hu).append_right _)

/-- Different results have different numbers. -/
theorem handed_ids (s : SpeechToText) (es : List Event) :
    (handed s es).map RecognizeResults.id =
      List.range' s.nextResult (handed s es).length := by
  induction es generalizing s with
  | nil => rfl
  | cons e es ih =>
      rw [handed]
      cases ht : step s e with
      | none => rfl
      | some t =>
          rw [Option.elim_some, List.map_append, received_ids, ih t,
            nextResult_step ht, List.length_append]
          exact List.range'_append_1

theorem sound_new (settings : Settings) :
    Sound (new settings).recognition where
  armed := by simp [recognition, new]
  short := by simp [recognition, new]
  delivered := by simp [recognition, new]

/-- After every run, the results it has received, which are all different, are
the ones in the list, those delivered, and those deleted, each once.  The timer
is armed if the list is not empty, no callback has been called without a
result, and each finalisation has delivered the first of the best results. -/
theorem results_conserved (settings : Settings) (es : List Event) :
    (∀ t, run step (new settings) es = some t →
      (t.resultList ++ t.delivered.filterMap Prod.snd ++ t.deleted).Perm
          (handed (new settings) es) ∧
        (handed (new settings) es).Nodup ∧
        (t.resultList ≠ [] → t.resultTimer = true) ∧
        ∀ d ∈ t.delivered, d.2 ≠ none) ∧
      EachStep step (fun s e => ∀ t, step s e = some t →
        Delivers (finalized s e) s.listenCallback s.delivered t.delivered)
        (new settings) es := by
  have hkept : ∀ s e t, Sound s.recognition → step s e = some t →
      Sound t.recognition := fun s e t h ht => sound_step h ht
  constructor
  · intro t hrun
    have hsound : Sound t.recognition :=
      invariant_of_reaches hkept (sound_new settings) ⟨es, hrun⟩
    refine ⟨perm_handed hrun, ?_, hsound.armed.mpr, hsound.delivered⟩
    apply List.Nodup.of_map RecognizeResults.id
    rw [handed_ids]
    exact List.nodup_range'
  · exact eachStep_of_invariant hkept
      (fun s e t h _ u hu => delivers_step h hu) (sound_new settings) es

/-- Two models: a result of one waits for the other. -/
def twoModels : Settings where
  models := ["en-US_BroadbandModel", "es-ES_BroadbandModel"]
  maxAlternatives := 3
  timestamps := false
  wordConfidence := false
  continous := true
  interium := true
  timeout := -1
  detectSilence := false
  silenceThreshold := 0

end SpeechToText

end SelfPlugins.Stt
