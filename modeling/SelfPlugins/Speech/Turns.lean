import SelfPlugins.Speech.Balance

/-!
# Which request a speech completes

The callbacks of the text-to-speech service and of the playing thread carry no
request: `OnSpeechDone` pops whatever is at the front of the queue.  A speech
completes its own request as long as at most one speech is in flight, and that
is the one of the front.

`Abort` empties the queue, but the speech goes on; the next `Execute` then
starts a second one.  `Calm` excludes this: a speech is started only when none
is in flight.
-/

namespace SelfPlugins.Speech

open Runs

namespace SpeechGesture

/-- The requests whose speech is in flight: text-to-speech has been asked for
it, it is played, or its completion is queued. -/
def inFlight (s : SpeechGesture) : List Request :=
  s.toSounds.map ToSound.request ++ (s.playing ++ s.queued)

/-- At most one speech is in flight. -/
def Alone (s : SpeechGesture) : Prop := (inFlight s).length ≤ 1

/-- The request whose speech ends by the event, so that `OnSpeechDone` pops a
request. -/
def ended (s : SpeechGesture) : Event → Option Request
  | .speechData n false _ => (s.toSounds[n]?).map ToSound.request
  | .speechDone n _ => s.queued[n]?
  | _ => none

/-- The request that the event appends to the queue. -/
def arriving (s : SpeechGesture) : Event → List Request
  | .execute params _ => [⟨s.executed, params⟩]
  | _ => []

/-- The requests from the front for which no service is found: `StartSpeech`
completes each of them, and goes on to the next. -/
def unserved (service : ℕ → Bool) : List Request → List Request
  | [] => []
  | req :: rest =>
      if service 0 then []
      else req :: unserved (fun k => service (k + 1)) rest

/-- What `StartSpeech` completes of the waiting requests; the class that waits
for voices does not ask for the service before. -/
def turnedAway (p : Platform) (voices : Option (List Voice))
    (service : ℕ → Bool) (requests : List Request) : List Request :=
  if p = .sota ∧ voices = none then [] else unserved service requests

/-- The requests that the event is to complete: all of them for `Abort`, the
request of the speech that ends, unless the queue is empty, and the requests
whose turn it then is and that find no service. -/
def completedBy (p : Platform) (s : SpeechGesture) (e : Event) :
    List Request :=
  match e with
  | .execute _ service =>
      if s.requests = [] then turnedAway p s.voices service (arriving s e)
      else []
  | .abort => s.requests
  | .voices voices service =>
      if p = .sota then turnedAway p voices service s.requests else []
  | .speechData _ _ service | .speechDone _ service =>
      match ended s e with
      | some req =>
          if s.requests = [] then []
          else req :: turnedAway p s.voices service s.requests.tail
      | none => []
  | .played _ => []

/-- The event completes just these requests, in the order of the queue. -/
def InTurn (p : Platform) (s : SpeechGesture) (e : Event) : Prop :=
  ∀ t, step p s e = some t →
    s.requests ++ arriving s e = completedBy p s e ++ t.requests

/-- No speech is started while one is in flight: `Execute` with an empty queue
finds none, unless the service is missing; and where the voices are waited for,
they arrive with none. -/
def Calm (p : Platform) (s : SpeechGesture) : Event → Prop
  | .execute _ service =>
      s.requests = [] → service 0 = true ∨ (p = .sota ∧ s.voices = none) →
        inFlight s = []
  | .voices voices _ =>
      p = .sota → voices ≠ none → s.requests ≠ [] → inFlight s = []
  | _ => True

/-- What calm steps keep. -/
structure Serving (s : SpeechGesture) : Prop where
  alone : Alone s
  own : ∀ req ∈ inFlight s, ∀ front ∈ s.requests.head?, front = req

/-! ## Starting speeches -/

/-- From `s` to `t` at most the speech of the new front is started. -/
structure Started (s t : SpeechGesture) : Prop where
  playing : t.playing = s.playing
  queued : t.queued = s.queued
  toSounds : t.toSounds = s.toSounds ∨
    ∃ call : ToSound, t.toSounds = s.toSounds ++ [call] ∧
      t.requests.head? = some call.request

theorem Started.refl (s : SpeechGesture) : Started s s where
  playing := rfl
  queued := rfl
  toSounds := Or.inl rfl

/-- `OnSpeechDone` pops the front request first. -/
theorem Started.popped {s t : SpeechGesture} {requests : List Request}
    (h : Started { resumeSensor s with requests := requests } t) :
    Started s t where
  playing := h.playing
  queued := h.queued
  toSounds := h.toSounds

theorem Started.serving {s t : SpeechGesture} (h : Started s t)
    (hnone : inFlight s = []) : Serving t := by
  have hplaying : s.playing ++ s.queued = [] :=
    (List.append_eq_nil_iff.mp hnone).2
  have hsounds : s.toSounds = [] :=
    List.map_eq_nil_iff.mp (List.append_eq_nil_iff.mp hnone).1
  rcases h.toSounds with hsame | ⟨call, hcall, hfront⟩
  · have hflight : inFlight t = [] := by
      rw [inFlight, hsame, h.playing, h.queued]
      exact hnone
    constructor
    · simp [Alone, hflight]
    · simp [hflight]
  · have hflight : inFlight t = [call.request] := by
      rw [inFlight, hcall, h.playing, h.queued, hsounds, hplaying]
      rfl
    constructor
    · simp [Alone, hflight]
    · intro req hreq front hmem
      rw [hflight, List.mem_singleton] at hreq
      rw [hfront, Option.mem_some_iff] at hmem
      rw [hreq, hmem]

theorem started_toSound {s : SpeechGesture} {req : Request}
    {rest : List Request} (hs : s.requests = req :: rest) :
    Started s (toSound req s) where
  playing := rfl
  queued := rfl
  toSounds := by
    refine Or.inr ⟨⟨req, chooseVoice s.voices req.params, req.params.text⟩,
      rfl, ?_⟩
    simp [toSound, hs]

theorem started_startSpeech_of_speechDone {p : Platform} {s : SpeechGesture}
    {req : Request} {rest : List Request} (hs : s.requests = req :: rest)
    (hdone : ∀ service, Started s (onSpeechDone p service s))
    (service : ℕ → Bool) : Started s (startSpeech p service s) := by
  by_cases hwaiting : p = .sota ∧ s.voices = none
  · rw [startSpeech_waiting hwaiting]
    exact Started.refl s
  · cases hservice : service 0 with
    | true =>
        rw [startSpeech_found hwaiting hs hservice]
        exact started_toSound hs
    | false =>
        rw [startSpeech_missing hwaiting hs hservice]
        exact hdone fun k => service (k + 1)

theorem started_onSpeechDone (p : Platform) (n : ℕ) (s : SpeechGesture)
    (hn : s.requests.length = n) (service : ℕ → Bool) :
    Started s (onSpeechDone p service s) := by
  induction n generalizing s service with
  | zero =>
      rw [onSpeechDone_last (by omega)]
      exact (Started.refl _).popped
  | succ n ih =>
      by_cases htwo : 2 ≤ s.requests.length
      · obtain ⟨done, req, rest, hs⟩ := exists_cons_cons htwo
        have hlength : (req :: rest).length = n := by
          rw [hs, List.length_cons] at hn
          omega
        rw [onSpeechDone_cons_cons hs]
        apply Started.popped
        apply started_startSpeech_of_speechDone rfl
        intro service
        exact ih { resumeSensor s with requests := req :: rest } hlength service
      · rw [onSpeechDone_last (by omega)]
        exact (Started.refl _).popped

theorem started_startSpeech {p : Platform} {s : SpeechGesture}
    (hs : s.requests ≠ []) (service : ℕ → Bool) :
    Started s (startSpeech p service s) := by
  obtain ⟨req, rest, hcons⟩ := List.exists_cons_of_ne_nil hs
  apply started_startSpeech_of_speechDone hcons
  exact started_onSpeechDone p _ s rfl

/-! ## Completing requests -/

/-- Where the waiting request finds no service, `OnSpeechDone` goes on with the
next one. -/
theorem startSpeech_requests_of_speechDone {p : Platform} {s : SpeechGesture}
    {req : Request} {rest : List Request} (hs : s.requests = req :: rest)
    (hdone : ∀ service, rest = turnedAway p s.voices service rest ++
      (onSpeechDone p service s).requests) (service : ℕ → Bool) :
    s.requests = turnedAway p s.voices service s.requests ++
      (startSpeech p service s).requests := by
  by_cases hwaiting : p = .sota ∧ s.voices = none
  · rw [startSpeech_waiting hwaiting, turnedAway, if_pos hwaiting]
    rfl
  · rw [turnedAway, if_neg hwaiting]
    cases hservice : service 0 with
    | true =>
        rw [startSpeech_found hwaiting hs hservice, hs, unserved,
          if_pos hservice]
        exact hs.symm
    | false =>
        have hrest := hdone fun k => service (k + 1)
        rw [turnedAway, if_neg hwaiting] at hrest
        rw [startSpeech_missing hwaiting hs hservice, hs, unserved,
          if_neg (by rw [hservice]; exact Bool.false_ne_true),
          List.cons_append, ← hrest]

/-- `OnSpeechDone` completes the front request, and then those that find no
service. -/
theorem onSpeechDone_requests (p : Platform) {s : SpeechGesture}
    {done : Request} {rest : List Request} (hs : s.requests = done :: rest)
    (service : ℕ → Bool) :
    rest = turnedAway p s.voices service rest ++
      (onSpeechDone p service s).requests := by
  induction rest generalizing s done service with
  | nil =>
      have hlast : s.requests.length < 2 := by simp [hs]
      rw [onSpeechDone_last hlast]
      simp [turnedAway, unserved]
  | cons req rest ih =>
      rw [onSpeechDone_cons_cons hs]
      exact startSpeech_requests_of_speechDone rfl
        (fun service => ih (s := { resumeSensor s with
          requests := req :: rest }) rfl service) service

theorem startSpeech_requests (p : Platform) {s : SpeechGesture}
    (hs : s.requests ≠ []) (service : ℕ → Bool) :
    s.requests = turnedAway p s.voices service s.requests ++
      (startSpeech p service s).requests := by
  obtain ⟨req, rest, hcons⟩ := List.exists_cons_of_ne_nil hs
  exact startSpeech_requests_of_speechDone hcons
    (onSpeechDone_requests p hcons) service

/-- The end of a speech whose request is at the front completes that request. -/
theorem onSpeechDone_own (p : Platform) {s : SpeechGesture} {req : Request}
    (hown : ∀ front ∈ s.requests.head?, front = req) (service : ℕ → Bool) :
    s.requests = (if s.requests = [] then []
      else req :: turnedAway p s.voices service s.requests.tail) ++
      (onSpeechDone p service s).requests := by
  cases hs : s.requests with
  | nil =>
      have hlast : s.requests.length < 2 := by simp [hs]
      rw [onSpeechDone_last hlast]
      rfl
  | cons front rest =>
      have hfront : front = req := hown front (by simp [hs])
      rw [if_neg (List.cons_ne_nil front rest), List.tail_cons,
        List.cons_append, ← onSpeechDone_requests p hs service, hfront]

/-! ## Steps -/

theorem eq_singleton_of_getElem? {α : Type} {l : List α} {n : ℕ} {x : α}
    (hx : l[n]? = some x) (hlength : l.length ≤ 1) : l = [x] ∧ n = 0 := by
  obtain ⟨hn, rfl⟩ := List.getElem?_eq_some_iff.mp hx
  have hzero : n = 0 := by omega
  subst hzero
  obtain ⟨y, hy⟩ := List.length_eq_one_iff.mp (show l.length = 1 by omega)
  subst hy
  exact ⟨rfl, rfl⟩

/-- The lengths of the three parts of what is in flight. -/
theorem Alone.lengths {s : SpeechGesture} (h : Alone s) :
    s.toSounds.length + (s.playing.length + s.queued.length) ≤ 1 := by
  simpa [Alone, inFlight] using h

theorem Serving.front {s : SpeechGesture} (h : Serving s) {e : Event}
    {req : Request} (hended : ended s e = some req) :
    ∀ front ∈ s.requests.head?, front = req := by
  apply h.own req
  cases e with
  | speechData n sound service =>
      cases sound with
      | true => cases hended
      | false =>
          obtain ⟨call, hcall, rfl⟩ := Option.map_eq_some_iff.mp hended
          apply List.mem_append_left
          exact List.mem_map_of_mem (List.mem_of_getElem? hcall)
  | speechDone n service =>
      apply List.mem_append_right
      apply List.mem_append_right
      exact List.mem_of_getElem? hended
  | _ => cases hended

theorem Serving.inTurn {p : Platform} {s : SpeechGesture} (h : Serving s)
    (e : Event) : InTurn p s e := by
  intro t ht
  cases e with
  | execute params service =>
      cases ht
      by_cases hfirst : s.requests = []
      · let u : SpeechGesture := { s with
          requests := s.requests ++ [⟨s.executed, params⟩]
          executed := s.executed + 1 }
        have hu : u.requests = [⟨s.executed, params⟩] := by simp [u, hfirst]
        have hstart := startSpeech_requests p (s := u) (by simp [hu]) service
        simpa [SpeechGesture.execute, completedBy, arriving, hfirst, u]
          using hstart
      · simp [SpeechGesture.execute, completedBy, arriving, hfirst]
  | abort =>
      cases ht
      by_cases hempty : s.requests = []
      · simp [SpeechGesture.abort, completedBy, arriving, hempty]
      · simp [SpeechGesture.abort, completedBy, arriving, resumeSensor,
          hempty]
  | voices voices service =>
      cases ht
      let u : SpeechGesture := { s with voices := voices }
      simp only [arriving, List.append_nil, completedBy, onVoices]
      by_cases hp : p = .sota
      · rw [if_pos hp]
        by_cases hempty : s.requests = []
        · simp [turnedAway, unserved, hempty]
        · rw [if_pos ⟨hp, hempty⟩]
          exact startSpeech_requests p (s := u) hempty service
      · simp [hp]
  | speechData n sound service =>
      obtain ⟨call, hcall, rfl⟩ := Option.map_eq_some_iff.mp ht
      simp only [arriving, List.append_nil, completedBy]
      cases sound with
      | true => rfl
      | false =>
          have hended : ended s (.speechData n false service) =
              some call.request := by simp [ended, hcall]
          rw [hended]
          exact onSpeechDone_own p
            (s := { s with toSounds := s.toSounds.eraseIdx n })
            (h.front hended) service
  | played n =>
      obtain ⟨req, -, rfl⟩ := Option.map_eq_some_iff.mp ht
      simp [arriving, completedBy]
  | speechDone n service =>
      obtain ⟨req, hreq, rfl⟩ := Option.map_eq_some_iff.mp ht
      have hended : ended s (.speechDone n service) = some req := hreq
      simp only [arriving, List.append_nil, completedBy]
      rw [hended]
      exact onSpeechDone_own p
        (s := { s with queued := s.queued.eraseIdx n })
        (h.front hended) service

theorem Serving.execute {p : Platform} {s : SpeechGesture} (h : Serving s)
    {params : Params} {service : ℕ → Bool}
    (hcalm : Calm p s (.execute params service)) :
    Serving (execute p params service s) := by
  by_cases hfirst : s.requests = []
  · let u : SpeechGesture := { s with
      requests := [⟨s.executed, params⟩]
      executed := s.executed + 1 }
    have hexecute : SpeechGesture.execute p params service s =
        startSpeech p service u := by
      simp [SpeechGesture.execute, hfirst, u]
    rw [hexecute]
    by_cases hstart : service 0 = true ∨ (p = .sota ∧ s.voices = none)
    · have hnone : inFlight u = [] := hcalm hfirst hstart
      exact (started_startSpeech (by simp [u]) service).serving hnone
    · obtain ⟨hservice, hwaiting⟩ := not_or.mp hstart
      have hmissing : service 0 = false := Bool.eq_false_iff.mpr hservice
      have hlast : u.requests.length < 2 := Nat.lt_succ_self 1
      rw [startSpeech_missing (s := u) hwaiting rfl hmissing,
        onSpeechDone_last hlast]
      exact ⟨h.alone, fun _ _ _ hmem => by cases hmem⟩
  · have hexecute : SpeechGesture.execute p params service s = { s with
        requests := s.requests ++ [⟨s.executed, params⟩]
        executed := s.executed + 1 } := by
      simp [SpeechGesture.execute, hfirst]
    rw [hexecute]
    refine ⟨h.alone, fun req hreq front hmem => h.own req hreq front ?_⟩
    obtain ⟨first, rest, hs⟩ := List.exists_cons_of_ne_nil hfirst
    rw [hs] at hmem ⊢
    exact hmem

theorem Serving.voices {p : Platform} {s : SpeechGesture} (h : Serving s)
    {voices : Option (List Voice)} {service : ℕ → Bool}
    (hcalm : Calm p s (.voices voices service)) :
    Serving (onVoices p voices service s) := by
  have hsame : Serving { s with voices := voices } := ⟨h.alone, h.own⟩
  rw [onVoices]
  split
  · rename_i hstart
    by_cases hvoices : voices = none
    · rw [startSpeech_waiting ⟨hstart.1, hvoices⟩]
      exact hsame
    · have hnone : inFlight { s with voices := voices } = [] :=
        hcalm hstart.1 hvoices hstart.2
      exact (started_startSpeech hstart.2 service).serving hnone
  · exact hsame

theorem Serving.next {p : Platform} {s t : SpeechGesture} {e : Event}
    (h : Serving s) (hcalm : Calm p s e) (ht : step p s e = some t) :
    Serving t := by
  have hlengths := h.alone.lengths
  cases e with
  | execute params service =>
      cases ht
      exact h.execute hcalm
  | abort =>
      cases ht
      rw [abort]
      split
      · exact h
      · exact ⟨h.alone, fun _ _ _ hmem => by cases hmem⟩
  | voices voices service =>
      cases ht
      exact h.voices hcalm
  | speechData n sound service =>
      obtain ⟨call, hcall, rfl⟩ := Option.map_eq_some_iff.mp ht
      obtain ⟨hsounds, rfl⟩ := eq_singleton_of_getElem? hcall (by omega)
      rw [hsounds, List.length_singleton] at hlengths
      have hplaying : s.playing = [] :=
        List.length_eq_zero_iff.mp (by omega)
      have hqueued : s.queued = [] := List.length_eq_zero_iff.mp (by omega)
      cases sound with
      | true =>
          have hflight : inFlight s = [call.request] := by
            simp [inFlight, hsounds, hplaying, hqueued]
          constructor
          · simp [Alone, inFlight, onSpeechData, pauseSensor, hsounds, hplaying,
              hqueued]
          · intro req hreq
            apply h.own req
            simpa [inFlight, onSpeechData, pauseSensor, hsounds, hplaying,
              hqueued] using hreq
      | false =>
          apply (started_onSpeechDone p _ _ rfl service).serving
          simp [inFlight, hsounds, hplaying, hqueued]
  | played n =>
      obtain ⟨req, hreq, rfl⟩ := Option.map_eq_some_iff.mp ht
      obtain ⟨hplaying, rfl⟩ := eq_singleton_of_getElem? hreq (by omega)
      rw [hplaying, List.length_singleton] at hlengths
      have hsounds : s.toSounds = [] :=
        List.length_eq_zero_iff.mp (by omega)
      have hqueued : s.queued = [] := List.length_eq_zero_iff.mp (by omega)
      constructor
      · simp [Alone, inFlight, hsounds, hplaying, hqueued]
      · intro req' hreq'
        apply h.own req'
        simpa [inFlight, hsounds, hplaying, hqueued] using hreq'
  | speechDone n service =>
      obtain ⟨req, hreq, rfl⟩ := Option.map_eq_some_iff.mp ht
      obtain ⟨hqueued, rfl⟩ := eq_singleton_of_getElem? hreq (by omega)
      rw [hqueued, List.length_singleton] at hlengths
      have hsounds : s.toSounds = [] :=
        List.length_eq_zero_iff.mp (by omega)
      have hplaying : s.playing = [] :=
        List.length_eq_zero_iff.mp (by omega)
      apply (started_onSpeechDone p _ _ rfl service).serving
      simp [inFlight, hsounds, hplaying, hqueued]

theorem serving_new : Serving new where
  alone := Nat.zero_le 1
  own := by simp [inFlight, new]

/-- The first request of an empty queue is spoken at once. -/
theorem execute_found {p : Platform} (hp : p ≠ .sota) {s : SpeechGesture}
    (hfirst : s.requests = []) (params : Params) {service : ℕ → Bool}
    (hservice : service 0 = true) :
    execute p params service s =
      toSound ⟨s.executed, params⟩ { s with
        requests := [⟨s.executed, params⟩]
        executed := s.executed + 1 } := by
  let u : SpeechGesture := { s with
    requests := [⟨s.executed, params⟩]
    executed := s.executed + 1 }
  have hwaiting : ¬(p = .sota ∧ u.voices = none) := fun h => hp h.1
  simp only [execute, hfirst, List.nil_append, if_pos]
  exact startSpeech_found hwaiting rfl hservice

/-- Outside of the class that waits for voices, a step that is not calm starts
a second speech. -/
theorem not_alone_of_not_calm {p : Platform} (hp : p ≠ .sota)
    {s t : SpeechGesture} {e : Event} (hcalm : ¬Calm p s e)
    (ht : step p s e = some t) : ¬Alone t := by
  cases e with
  | execute params service =>
      simp only [Calm, not_forall] at hcalm
      obtain ⟨hfirst, hstart, hflight⟩ := hcalm
      have hservice : service 0 = true :=
        hstart.resolve_right fun h => hp h.1
      have hpos : 0 < (inFlight s).length := List.length_pos_iff.mpr hflight
      simp only [inFlight, List.length_append, List.length_map] at hpos
      cases ht
      rw [execute_found hp hfirst params hservice]
      simp only [Alone, inFlight, toSound, List.map_append, List.length_append,
        List.length_map, List.length_singleton]
      omega
  | voices voices service => exact absurd (fun hsota => absurd hsota hp) hcalm
  | _ => exact absurd trivial hcalm

/-! ## Runs -/

/-- In a run of calm steps, at most one speech is in flight and its end
completes its own request and no other, in order; outside of the class that
waits for voices, in calm runs only. -/
theorem inTurn_of_calm (p : Platform) (es : List Event) :
    (EachStep (step p) (Calm p) new es →
      Throughout (step p) Alone new es ∧
        EachStep (step p) (InTurn p) new es) ∧
    (p ≠ .sota → Throughout (step p) Alone new es →
      EachStep (step p) (Calm p) new es) := by
  have hnext : ∀ s e t, Serving s → Calm p s e → step p s e = some t →
      Serving t := fun s e t h hcalm ht => h.next hcalm ht
  constructor
  · intro hcalm
    constructor
    · exact (throughout_of_eachStep hnext serving_new hcalm).mono
        fun s h => h.alone
    · apply eachStep_of_eachStep hnext _ serving_new hcalm
      intro s e _ h _ _
      exact h.inTurn e
  · intro hp halone
    refine (throughout_iff_eachStep (I := Serving) (L := fun _ _ => True)
      (fun s h => h.alone) (fun s e t h _ => h.next) ?_ serving_new
      (eachStep_true new es)).mp halone
    intro s e t _ _ hcalm ht
    exact not_alone_of_not_calm hp hcalm ht

/-- After an `Abort`, a second speech is started while the first is still
played, and its request is completed by the first. -/
theorem not_inTurn_after_abort :
    let found := fun _ : ℕ => true
    let say := fun text => Event.execute ⟨text, "male", "en-US"⟩ found
    let es := [say "hello", .speechData 0 true found, .abort, say "good-bye",
      .played 0, .speechDone 0 found]
    ¬Throughout (step .linux) Alone new es ∧
      ¬EachStep (step .linux) (InTurn .linux) new es := by
  intro found say es
  have hp : Platform.linux ≠ .sota := by decide
  have hsay : ∀ text s, s.requests = [] → step .linux s (say text) = some
      (toSound ⟨s.executed, ⟨text, "male", "en-US"⟩⟩ { s with
        requests := [⟨s.executed, ⟨text, "male", "en-US"⟩⟩]
        executed := s.executed + 1 }) := by
    intro text s hs
    exact congrArg some (execute_found hp hs _ rfl)
  constructor
  · intro h
    have h₁ := h.2 _ (hsay "hello" new rfl)
    have h₂ := h₁.2 _ rfl
    have h₃ := h₂.2 _ rfl
    have h₄ := h₃.2 _ (hsay "good-bye" _ rfl)
    exact absurd h₄.1.lengths (by decide)
  · intro h
    have h₁ := (h _ (hsay "hello" new rfl)).2
    have h₂ := (h₁ _ rfl).2
    have h₃ := (h₂ _ rfl).2
    have h₄ := (h₃ _ (hsay "good-bye" _ rfl)).2
    have h₅ := (h₄ _ rfl).2
    have hlast := (h₅ _ rfl).1 _ rfl
    have hown := (List.cons.inj hlast).1
    exact absurd hown (by decide)

end SpeechGesture

end SelfPlugins.Speech
