import Mathlib.Data.List.Induction
import SelfPlugins.Framework.WebClient
import SelfPlugins.Library.Runs
import SelfPlugins.SmartThings.Rest

/-!
# The polls of a device

A timer polls the device.  Each poll is an object of its own, a `DeviceRequest`:
when a web client has ended, it makes the next request, whose variables are
replaced by what has been answered before; when the last one has ended, the last
answer is sent to the subscribers of the sensor, on the main thread.  Any number
of polls may be under way.

`talk` is a poll as a program that asks one request after the other;
`polls_talk` says that each poll is a run of it, whatever the others do, and
`sent_once` what is sent.

What the sensor relies on of the web clients is `Reporting`: a client that has
ended reports nothing more, so that only the client of the latest request of a
poll does.
-/

namespace SelfPlugins.SmartThings

open Json (Value assign Ordered)
open Runs

/-- `ParamsMap::ResolveVariables`, for the answers that the map holds, the
value that `Json::Reader` makes of a text, and the text of a number. -/
structure Setting where
  resolve : List Value → Value → Value
  parse : String → Value
  realText : ℚ → String

/-- What `IWebClient::Request` is called with. -/
structure Request where
  url : String
  headers : List (String × String)
  type : String
deriving DecidableEq

/-- The request a description stands for. -/
def Rest.authorized (r : Rest) : Rest :=
  { r with
    m_Headers := assign "Authorization"
      "Bearer 1ecee119-299e-41fa-9011-3593a73a1c33" r.m_Headers }

def Rest.request (r : Rest) : Request :=
  ⟨r.m_URL ++ r.m_Params, r.authorized.m_Headers, r.m_Type⟩

/-- `m_Param["response"][i] = root`; the elements in between are null. -/
def respond (i : ℕ) (root : Value) (ps : List Value) : List Value :=
  if i < ps.length then ps.set i root
  else ps ++ List.replicate (i - ps.length) .null ++ [root]

/-- The variables of a description are replaced. -/
def Rest.resolved (σ : Setting) (ps : List Value) (r : Rest) : Option Rest := do
  let req ← r.serialize .null
  Rest.deserialize σ.realText (σ.resolve ps req) r

/-! ## A poll -/

/-- `m_Param` are the elements of `m_Param["response"]`; `asked` are the
requests that have been made. -/
structure DeviceRequest where
  m_Index : ℕ := 0
  m_Rests : List Rest
  m_Param : List Value := []
  asked : List Request := []

namespace DeviceRequest

/-- Undefined where there is no description with the index. -/
def makeRequest (d : DeviceRequest) : Option DeviceRequest :=
  (d.m_Rests[d.m_Index]?).map fun r =>
    { d with
      m_Rests := d.m_Rests.set d.m_Index r.authorized
      asked := d.asked ++ [r.request] }

def onResponse (σ : Setting) (content : String) (d : DeviceRequest) :
    DeviceRequest :=
  { d with m_Param := respond d.m_Index (σ.parse content) d.m_Param }

/-- What `OnState` does when a client has ended: the next request, an
exception, or the delivery of an answer and the end of the object. -/
inductive Outcome
  | goesOn (d : DeviceRequest)
  | throws
  | delivers (v : Value)

def onEnded (σ : Setting) (d : DeviceRequest) : Outcome :=
  if d.m_Index < d.m_Rests.length - 1 then
    match (d.m_Rests[d.m_Index + 1]?).bind (Rest.resolved σ d.m_Param) with
    | none => .throws
    | some r =>
        match makeRequest
          { d with
            m_Index := d.m_Index + 1
            m_Rests := d.m_Rests.set (d.m_Index + 1) r } with
        | none => .throws
        | some d => .goesOn d
  else .delivers (d.m_Param.getD d.m_Index .null)

end DeviceRequest

/-! ## The sensor -/

/-- What has become of a poll. -/
inductive Fate
  | underWay (d : DeviceRequest)
  | thrown
  | delivered (v : Value)

/-- A poll, with the requests it has made and the answers to each of its earlier
requests and to the latest. -/
structure Poll where
  asked : List Request := []
  earlier : List (List Value) := []
  latest : List Value := []
  fate : Fate

def Poll.answers (p : Poll) : List (List Value) := p.earlier ++ [p.latest]

/-- `queue` are the calls of `SendingData` for the main thread, `sent` what the
subscribers were sent; `done` are the polls that have delivered, in order. -/
structure ExampleSensor where
  m_Rests : List Rest
  m_Paused : ℤ := 0
  m_spWaitTimer : Bool := false
  polls : List Poll := []
  done : List ℕ := []
  queue : List Value := []
  sent : List Value := []

/-- What happens to a sensor: calls, its timer, the clients of its polls, and
the main thread. -/
inductive Event
  | onStart
  | onStop
  | onPause
  | onResume
  | timer
  | response (k : ℕ) (content : String)
  | state (k : ℕ) (st : ClientState)
  | sendingData

namespace ExampleSensor

/-- Undefined for a sensor without descriptions. -/
def streamingThread (s : ExampleSensor) : Option ExampleSensor :=
  if s.m_Paused ≤ 0 then
    (DeviceRequest.makeRequest { m_Rests := s.m_Rests }).map fun d =>
      { s with polls := s.polls ++ [{ asked := d.asked, fate := .underWay d }] }
  else some s

def onResponse (σ : Setting) (k : ℕ) (content : String) (p : Poll)
    (d : DeviceRequest) (s : ExampleSensor) : ExampleSensor :=
  { s with
    polls := s.polls.set k
      { p with
        latest := p.latest ++ [σ.parse content]
        fate := .underWay (d.onResponse σ content) } }

def onEnded (σ : Setting) (k : ℕ) (p : Poll) (d : DeviceRequest)
    (s : ExampleSensor) : ExampleSensor :=
  match d.onEnded σ with
  | .goesOn d =>
      { s with
        polls := s.polls.set k
          { asked := d.asked, earlier := p.answers, fate := .underWay d } }
  | .throws => { s with polls := s.polls.set k { p with fate := .thrown } }
  | .delivers v =>
      { s with
        polls := s.polls.set k { p with fate := .delivered v }
        done := s.done ++ [k]
        queue := s.queue ++ [v] }

/-- What is relied on of the web clients: a report to a poll is from the client
of its latest request, and the poll is under way.  Otherwise its object has been
deleted, or has thrown. -/
def Reporting (s : ExampleSensor) (k : ℕ) : Prop :=
  ∃ p d, s.polls[k]? = some p ∧ p.fate = .underWay d

/-- What a client reports to a poll, which is under way. -/
def report (k : ℕ) (f : Poll → DeviceRequest → ExampleSensor)
    (s : ExampleSensor) : Option ExampleSensor :=
  match s.polls[k]? with
  | some p =>
      match p.fate with
      | .underWay d => some (f p d)
      | _ => none
  | none => none

def step (σ : Setting) (s : ExampleSensor) : Event → Option ExampleSensor
  | .onStart => some { s with m_spWaitTimer := true }
  | .onStop => some { s with m_spWaitTimer := false }
  | .onPause => some { s with m_Paused := s.m_Paused + 1 }
  | .onResume => some { s with m_Paused := s.m_Paused - 1 }
  | .timer => if s.m_spWaitTimer then s.streamingThread else none
  | .response k content =>
      s.report k fun p d => s.onResponse σ k content p d
  | .state k st =>
      s.report k fun p d => if st.isDown then s.onEnded σ k p d else s
  | .sendingData =>
      match s.queue with
      | [] => none
      | v :: queue => some { s with queue := queue, sent := s.sent ++ [v] }

end ExampleSensor

/-! ## The program of a poll -/

/-- A conversation with the device: the requests so far, and the answers that
the map holds. -/
structure Talk where
  asked : List Request := []
  params : List Value := []

/-- The description of the next request.  That of the first one is used as it
is. -/
def described (σ : Setting) (rests : List Rest) (t : Talk) : Option Rest :=
  (rests[t.asked.length]?).bind fun r =>
    if t.asked = [] then some r else r.resolved σ t.params

/-- The next request, with the answers to it. -/
def ask (σ : Setting) (rests : List Rest) (t : Talk) (answers : List Value) :
    Option Talk :=
  (described σ rests t).map fun r =>
    ⟨t.asked ++ [r.request], answers.foldl
      (fun ps root => respond t.asked.length root ps) t.params⟩

/-- One request after the other, with the answers to each. -/
def talk (σ : Setting) (rests : List Rest) (answers : List (List Value)) :
    Option Talk :=
  answers.foldlM (ask σ rests) {}

theorem talk_concat (σ : Setting) (rests : List Rest)
    (earlier : List (List Value)) (latest : List Value) :
    talk σ rests (earlier ++ [latest]) =
      (talk σ rests earlier).bind fun t => ask σ rests t latest := by
  simp [talk, List.foldlM_append]

theorem length_ask {σ : Setting} {rests : List Rest} {t t' : Talk}
    {answers : List Value} (h : ask σ rests t answers = some t') :
    t'.asked.length = t.asked.length + 1 := by
  obtain ⟨r, -, rfl⟩ := Option.map_eq_some_iff.mp h
  rw [List.length_append, List.length_singleton]

theorem length_talk {σ : Setting} {rests : List Rest} {t : Talk}
    {answers : List (List Value)} (h : talk σ rests answers = some t) :
    t.asked.length = answers.length := by
  induction answers using List.reverseRecOn generalizing t with
  | nil =>
      obtain rfl := Option.some.inj h
      rfl
  | append_singleton earlier latest ih =>
      rw [talk_concat] at h
      obtain ⟨u, hu, ht⟩ := Option.bind_eq_some_iff.mp h
      rw [length_ask ht, ih hu, List.length_append, List.length_singleton]

/-- The last answer to the latest request, which is null if there is none. -/
def Poll.lastAnswer (p : Poll) : Value := p.latest.getLast?.getD .null

theorem length_respond {i : ℕ} {ps : List Value} (h : ps.length ≤ i + 1)
    (root : Value) : (respond i root ps).length = i + 1 := by
  unfold respond
  split
  · rw [List.length_set]
    omega
  · simp only [List.length_append, List.length_replicate,
      List.length_singleton]
    omega

theorem getD_respond (i : ℕ) (ps : List Value) (root : Value) :
    (respond i root ps).getD i .null = root := by
  unfold respond
  split
  · rename_i h
    simp [List.getD, h]
  · rename_i h
    have hlen : (ps ++ List.replicate (i - ps.length) Value.null).length =
        i := by
      rw [List.length_append, List.length_replicate]
      omega
    rw [List.getD, List.getElem?_append_right (le_of_eq hlen), hlen,
      Nat.sub_self]
    rfl

/-! ## Every poll is a run of the program -/

/-- A poll that is under way has got as far in the program as it has answers,
and the descriptions behind the latest are as they were. -/
structure Talking (σ : Setting) (rests : List Rest) (p : Poll)
    (d : DeviceRequest) : Prop where
  index : d.m_Index = p.earlier.length
  lt : d.m_Index < rests.length
  length : d.m_Rests.length = rests.length
  later : ∀ j, d.m_Index < j → d.m_Rests[j]? = rests[j]?
  said : talk σ rests p.answers = some ⟨d.asked, d.m_Param⟩
  asked : p.asked = d.asked
  params : d.m_Param.length ≤ d.m_Index + 1
  last : d.m_Param.getD d.m_Index .null = p.lastAnswer

/-- The poll has made the requests of the program, for its answers. -/
def Poll.Asked (σ : Setting) (rests : List Rest) (p : Poll) : Prop :=
  (talk σ rests p.answers).map Talk.asked = some p.asked

/-- What a poll is, as a run of the program. -/
def Poll.Faithful (σ : Setting) (rests : List Rest) (p : Poll) : Prop :=
  match p.fate with
  | .underWay d => Talking σ rests p d
  | .thrown =>
      p.answers.length < rests.length ∧ p.Asked σ rests ∧
        ∀ latest, talk σ rests (p.answers ++ [latest]) = none
  | .delivered v =>
      p.answers.length = rests.length ∧ p.Asked σ rests ∧ v = p.lastAnswer

section

variable {σ : Setting} {rests : List Rest} {p : Poll} {d : DeviceRequest}

/-- A new poll makes the first request. -/
theorem talking_new (h : DeviceRequest.makeRequest { m_Rests := rests } =
    some d) :
    Talking σ rests { asked := d.asked, fate := .underWay d } d := by
  obtain ⟨r, hr, rfl⟩ := Option.map_eq_some_iff.mp h
  have hr : rests[0]? = some r := hr
  refine ⟨rfl, (List.getElem?_eq_some_iff.mp hr).1, List.length_set, ?_, ?_,
    rfl, Nat.zero_le _, rfl⟩
  · intro j hj
    exact List.getElem?_set_ne hj.ne
  · simp [Poll.answers, talk, ask, described, hr]

theorem Talking.onResponse (h : Talking σ rests p d) (content : String) :
    Talking σ rests
      { p with
        latest := p.latest ++ [σ.parse content]
        fate := .underWay (d.onResponse σ content) }
      (d.onResponse σ content) where
  index := h.index
  lt := h.lt
  length := h.length
  later := h.later
  said := by
    have htalk := h.said
    rw [Poll.answers, talk_concat] at htalk ⊢
    obtain ⟨t, ht, hask⟩ := Option.bind_eq_some_iff.mp htalk
    obtain ⟨r, hr, heq⟩ := Option.map_eq_some_iff.mp hask
    rw [Talk.mk.injEq] at heq
    have hlen : t.asked.length = d.m_Index := by
      rw [length_talk ht, h.index]
    rw [ht, Option.bind_some, ask, hr, Option.map_some, List.foldl_append,
      heq.1, heq.2, hlen]
    rfl
  asked := h.asked
  params := (length_respond h.params _).le
  last := by
    change (respond d.m_Index _ _).getD d.m_Index .null = _
    rw [getD_respond, Poll.lastAnswer, List.getLast?_concat]
    rfl

theorem Talking.length_answers (h : Talking σ rests p d) :
    p.answers.length = d.m_Index + 1 := by
  rw [Poll.answers, List.length_append, List.length_singleton, h.index]

/-- The next description, as the poll finds it. -/
theorem Talking.described_eq (h : Talking σ rests p d) :
    described σ rests ⟨d.asked, d.m_Param⟩ =
      (rests[d.m_Index + 1]?).bind (Rest.resolved σ d.m_Param) := by
  have hlen : d.asked.length = d.m_Index + 1 := by
    rw [← h.length_answers, ← length_talk h.said]
  have hne : d.asked ≠ [] := by
    rw [← List.length_pos_iff, hlen]
    exact Nat.succ_pos _
  rw [described]
  simp only [hlen, if_neg hne]

/-- The next request of a poll. -/
theorem Talking.goesOn (h : Talking σ rests p d) {r : Rest}
    (hr : described σ rests ⟨d.asked, d.m_Param⟩ = some r)
    (hlt : d.m_Index + 1 < rests.length) :
    ∃ d', DeviceRequest.makeRequest
        { d with
          m_Index := d.m_Index + 1
          m_Rests := d.m_Rests.set (d.m_Index + 1) r } = some d' ∧
      Talking σ rests
        { asked := d'.asked, earlier := p.answers, fate := .underWay d' }
        d' := by
  have hget : (d.m_Rests.set (d.m_Index + 1) r)[d.m_Index + 1]? = some r :=
    List.getElem?_set_self (by rw [h.length]; exact hlt)
  refine ⟨_, by rw [DeviceRequest.makeRequest, hget]; rfl,
    h.length_answers.symm, hlt, ?_, ?_, ?_, rfl,
    Nat.le_succ_of_le h.params, ?_⟩
  · simp only [List.length_set, h.length]
  · intro j hj
    have hj : d.m_Index + 1 < j := hj
    simp only [List.getElem?_set_ne hj.ne]
    exact h.later j (Nat.lt_of_succ_lt hj)
  · rw [Poll.answers, talk_concat]
    change (talk σ rests p.answers).bind _ = _
    rw [h.said, Option.bind_some, ask, hr]
    rfl
  · simp [Poll.lastAnswer, List.getD, h.params]

/-- A poll whose client has ended. -/
theorem Talking.onEnded (h : Talking σ rests p d) :
    match d.onEnded σ with
    | .goesOn d' =>
        Talking σ rests
          { asked := d'.asked, earlier := p.answers, fate := .underWay d' } d'
    | .throws => ({ p with fate := .thrown } : Poll).Faithful σ rests
    | .delivers v => ({ p with fate := .delivered v } : Poll).Faithful σ rests
    := by
  have hanswers := h.length_answers
  have hlt := h.lt
  have hasked : p.Asked σ rests := by
    rw [Poll.Asked, h.said, h.asked, Option.map_some]
  unfold DeviceRequest.onEnded
  rw [h.length, h.later _ (Nat.lt_succ_self _), ← h.described_eq]
  by_cases hlast : d.m_Index < rests.length - 1
  · rw [if_pos hlast]
    cases hr : described σ rests ⟨d.asked, d.m_Param⟩ with
    | none =>
        refine ⟨by change p.answers.length < _; omega, hasked,
          fun latest => ?_⟩
        change talk σ rests (p.answers ++ [latest]) = none
        rw [talk_concat, h.said, Option.bind_some, ask, hr]
        rfl
    | some r =>
        obtain ⟨d', hd', htalking⟩ := h.goesOn hr (by omega)
        simp only [hd']
        exact htalking
  · rw [if_neg hlast]
    exact ⟨by change p.answers.length = _; omega, hasked, h.last⟩

end

/-! ## What is sent -/

def Fate.value : Fate → Option Value
  | .delivered v => some v
  | _ => none

/-- What a poll has delivered. -/
def delivered (polls : List Poll) (k : ℕ) : Option Value :=
  (polls[k]?).bind fun p => p.fate.value

/-- The values `vs` are those of the polls that have delivered, one of each, in
the order `done`. -/
structure Sent (polls : List Poll) (done : List ℕ) (vs : List Value) : Prop
    where
  nodup : done.Nodup
  mem : ∀ k, k ∈ done ↔ (delivered polls k).isSome
  values : done.map (delivered polls) = vs.map some

theorem delivered_append (polls : List Poll) {p : Poll} {d : DeviceRequest}
    (hp : p.fate = .underWay d) :
    delivered (polls ++ [p]) = delivered polls := by
  funext k
  unfold delivered
  by_cases hlt : k < polls.length
  · rw [List.getElem?_append_left hlt]
  · have hold : polls[k]? = none := List.getElem?_eq_none (not_lt.mp hlt)
    rw [hold, List.getElem?_append_right (not_lt.mp hlt)]
    cases hk : k - polls.length with
    | zero => simp [hp, Fate.value]
    | succ n => rfl

theorem delivered_set {polls : List Poll} {k : ℕ} (hk : k < polls.length)
    (p : Poll) :
    delivered (polls.set k p) =
      Function.update (delivered polls) k p.fate.value := by
  funext j
  unfold delivered
  by_cases hj : j = k
  · subst hj
    rw [List.getElem?_set_self hk, Function.update_self]
    rfl
  · rw [List.getElem?_set_ne (Ne.symm hj), Function.update_of_ne hj]

/-- A poll that is under way has delivered nothing. -/
theorem delivered_underWay {polls : List Poll} {k : ℕ} {p : Poll}
    {d : DeviceRequest} (hp : polls[k]? = some p)
    (hd : p.fate = .underWay d) : delivered polls k = none := by
  rw [delivered, hp, Option.bind_some, hd]
  rfl

theorem Sent.deliver {polls : List Poll} {done : List ℕ} {vs : List Value}
    (h : Sent polls done vs) {k : ℕ} {p q : Poll} {d : DeviceRequest}
    {v : Value} (hp : polls[k]? = some p) (hd : p.fate = .underWay d)
    (hq : q.fate = .delivered v) :
    Sent (polls.set k q) (done ++ [k]) (vs ++ [v]) := by
  have hset := delivered_set (List.getElem?_eq_some_iff.mp hp).1 q
  rw [hq, Fate.value] at hset
  have hnot : k ∉ done := by
    rw [h.mem, delivered_underWay hp hd]
    simp
  refine ⟨?_, fun j => ?_, ?_⟩
  · refine List.nodup_append.mpr ⟨h.nodup, List.pairwise_singleton _ k, ?_⟩
    rintro j hj l hl rfl
    exact hnot (List.mem_singleton.mp hl ▸ hj)
  · rw [List.mem_append, List.mem_singleton, h.mem, hset]
    by_cases hj : j = k
    · simp [hj]
    · simp [hj]
  · rw [List.map_append, List.map_append, ← h.values, hset]
    congr 1
    · refine List.map_congr_left fun j hj => ?_
      have hne : j ≠ k := by
        rintro rfl
        exact hnot hj
      rw [Function.update_of_ne hne]
    · simp

/-! ## All runs -/

/-- What is known of a sensor in all of its runs. -/
structure Polling (σ : Setting) (rests : List Rest) (s : ExampleSensor) :
    Prop where
  config : s.m_Rests = rests
  polls : ∀ p ∈ s.polls, p.Faithful σ rests
  sent : Sent s.polls s.done (s.sent ++ s.queue)

section

variable {σ : Setting} {rests : List Rest} {s t : ExampleSensor}

/-- A client reports to a poll that is under way. -/
theorem report_some {k : ℕ} {f : Poll → DeviceRequest → ExampleSensor}
    (ht : s.report k f = some t) :
    ∃ p d, s.polls[k]? = some p ∧ p.fate = .underWay d ∧ t = f p d := by
  unfold ExampleSensor.report at ht
  split at ht
  · rename_i p hp
    split at ht
    · rename_i d hd
      exact ⟨p, d, hp, hd, (Option.some.inj ht).symm⟩
    · cases ht
  · cases ht

/-- The runs are those that keep to what is relied on. -/
theorem report_isSome_iff {k : ℕ}
    {f : Poll → DeviceRequest → ExampleSensor} :
    (s.report k f).isSome = true ↔ s.Reporting k := by
  constructor
  · intro hsome
    obtain ⟨t, ht⟩ := Option.isSome_iff_exists.mp hsome
    obtain ⟨p, d, hp, hd, -⟩ := report_some ht
    exact ⟨p, d, hp, hd⟩
  · rintro ⟨p, d, hp, hd⟩
    simp only [ExampleSensor.report, hp, hd, Option.isSome_some]

/-- A poll that is under way becomes one that has not delivered. -/
theorem Polling.set (h : Polling σ rests s) {k : ℕ} {p q : Poll}
    {d : DeviceRequest} (hp : s.polls[k]? = some p)
    (hd : p.fate = .underWay d) (hq : q.Faithful σ rests)
    (hnone : q.fate.value = none) :
    Polling σ rests { s with polls := s.polls.set k q } where
  config := h.config
  polls := by
    intro r hr
    rcases List.mem_or_eq_of_mem_set hr with hr | rfl
    · exact h.polls r hr
    · exact hq
  sent := by
    have hsame : delivered (s.polls.set k q) = delivered s.polls := by
      rw [delivered_set (List.getElem?_eq_some_iff.mp hp).1, hnone,
        ← delivered_underWay hp hd, Function.update_eq_self]
    exact ⟨h.sent.nodup, by rw [hsame]; exact h.sent.mem,
      by rw [hsame]; exact h.sent.values⟩

theorem Polling.onEnded (h : Polling σ rests s) {k : ℕ} {p : Poll}
    {d : DeviceRequest} (hp : s.polls[k]? = some p)
    (hd : p.fate = .underWay d) : Polling σ rests (s.onEnded σ k p d) := by
  have hfaithful := h.polls p (List.mem_of_getElem? hp)
  rw [Poll.Faithful, hd] at hfaithful
  have hended := hfaithful.onEnded
  unfold ExampleSensor.onEnded
  cases hout : d.onEnded σ with
  | goesOn d' =>
      rw [hout] at hended
      exact h.set hp hd hended rfl
  | throws =>
      rw [hout] at hended
      exact h.set hp hd hended rfl
  | delivers v =>
      rw [hout] at hended
      refine ⟨h.config, fun r hr => ?_, ?_⟩
      · rcases List.mem_or_eq_of_mem_set hr with hr | rfl
        · exact h.polls r hr
        · exact hended
      · rw [← List.append_assoc]
        exact h.sent.deliver hp hd rfl

theorem Polling.step (h : Polling σ rests s) {e : Event}
    (ht : s.step σ e = some t) : Polling σ rests t := by
  cases e with
  | onStart | onStop | onPause | onResume =>
      obtain rfl := Option.some.inj ht
      exact ⟨h.config, h.polls, h.sent⟩
  | timer =>
      obtain ⟨-, ht⟩ := Option.ite_none_right_eq_some.mp ht
      unfold ExampleSensor.streamingThread at ht
      split at ht
      · obtain ⟨d, hd, rfl⟩ := Option.map_eq_some_iff.mp ht
        rw [h.config] at hd
        refine ⟨h.config, fun p hp => ?_, ?_⟩
        · rcases List.mem_append.mp hp with hp | hp
          · exact h.polls p hp
          · obtain rfl := List.mem_singleton.mp hp
            exact talking_new hd
        · have hsame := delivered_append s.polls
            (p := { asked := d.asked, fate := .underWay d }) rfl
          exact ⟨h.sent.nodup, by rw [hsame]; exact h.sent.mem,
            by rw [hsame]; exact h.sent.values⟩
      · obtain rfl := Option.some.inj ht
        exact h
  | response k content =>
      obtain ⟨p, d, hp, hd, rfl⟩ := report_some ht
      have hfaithful := h.polls p (List.mem_of_getElem? hp)
      rw [Poll.Faithful, hd] at hfaithful
      exact h.set hp hd (hfaithful.onResponse content) rfl
  | state k st =>
      obtain ⟨p, d, hp, hd, rfl⟩ := report_some ht
      split
      · exact h.onEnded hp hd
      · exact h
  | sendingData =>
      rw [ExampleSensor.step] at ht
      split at ht
      · cases ht
      · rename_i v queue hqueue
        obtain rfl := Option.some.inj ht
        refine ⟨h.config, h.polls, ?_⟩
        have hsent := h.sent
        rw [hqueue] at hsent
        rwa [List.append_assoc]

end

theorem polling_throughout (σ : Setting) (rests : List Rest)
    (evs : List Event) :
    Throughout (ExampleSensor.step σ) (Polling σ rests) { m_Rests := rests }
      evs :=
  throughout_of_eachStep (C := fun _ _ => True)
    (fun _ _ _ hs _ ht => hs.step ht)
    ⟨rfl, nofun, List.nodup_nil, fun k => by simp [delivered], rfl⟩
    (eachStep_true _ evs)

/-- In every run, each poll is a run of the program: its requests are those that
the program asks after the same answers, and it ends with the last answer to the
last request, unless the program cannot go on. -/
theorem polls_talk (σ : Setting) (rests : List Rest) (evs : List Event) :
    Throughout (ExampleSensor.step σ)
      (fun s => ∀ p ∈ s.polls, p.Faithful σ rests) { m_Rests := rests } evs :=
  (polling_throughout σ rests evs).mono fun _ h => h.polls

/-- In every run, the subscribers have been sent what the polls have delivered,
one value for each poll that has, in the order in which they did; the rest of
it waits for the main thread. -/
theorem sent_once (σ : Setting) (rests : List Rest) (evs : List Event) :
    Throughout (ExampleSensor.step σ)
      (fun s => Sent s.polls s.done (s.sent ++ s.queue)) { m_Rests := rests }
      evs :=
  (polling_throughout σ rests evs).mono fun _ h => h.sent

/-! ## Descriptions without variables -/

/-- `ResolveVariables` finds nothing to replace. -/
def Plain (σ : Setting) (r : Rest) : Prop :=
  Ordered r.m_Headers ∧
    ∀ ps, (r.serialize .null).map (σ.resolve ps) = r.serialize .null

theorem Plain.resolved {σ : Setting} {r : Rest} (h : Plain σ r)
    (ps : List Value) : r.resolved σ ps = some r := by
  obtain ⟨json, hjson, -⟩ := r.serialize_spec
  have hplain := h.2 ps
  have hback := Rest.deserialize_serialize σ.realText r r h.1
  rw [hjson, Option.map_some, Option.some.injEq] at hplain
  rw [hjson, Option.bind_some] at hback
  simp only [Rest.resolved, hjson, Option.bind_eq_bind, Option.bind_some,
    hplain, hback]

theorem talk_plain {σ : Setting} {rests : List Rest}
    (h : ∀ r ∈ rests, Plain σ r) {answers : List (List Value)}
    (hlen : answers.length ≤ rests.length) :
    (talk σ rests answers).map Talk.asked =
      some ((rests.take answers.length).map Rest.request) := by
  induction answers using List.reverseRecOn with
  | nil => rfl
  | append_singleton earlier latest ih =>
      rw [List.length_append, List.length_singleton] at hlen ⊢
      obtain ⟨t, ht, hasked⟩ := Option.map_eq_some_iff.mp
        (ih (Nat.le_of_succ_le hlen))
      have hlt : earlier.length < rests.length := hlen
      have hr : described σ rests t = some rests[earlier.length] := by
        rw [described, length_talk ht, List.getElem?_eq_getElem hlt,
          Option.bind_some]
        split
        · rfl
        · exact (h _ (List.getElem_mem hlt)).resolved t.params
      rw [talk_concat, ht, Option.bind_some, ask, hr, Option.map_some,
        Option.map_some, hasked, List.take_succ_eq_append_getElem hlt,
        List.map_append, List.map_singleton]

/-- Without variables, in every run each poll has made the configured requests
in order, as many as have been answered or are being answered, and none
throws. -/
theorem asked_as_configured (σ : Setting) {rests : List Rest}
    (h : ∀ r ∈ rests, Plain σ r) (evs : List Event) :
    Throughout (ExampleSensor.step σ)
      (fun s => ∀ p ∈ s.polls, p.fate ≠ .thrown ∧
        p.asked = (rests.take p.answers.length).map Rest.request)
      { m_Rests := rests } evs := by
  refine (polling_throughout σ rests evs).mono fun s hs p hp => ?_
  have hfaithful := hs.polls p hp
  unfold Poll.Faithful at hfaithful
  have hrequests : p.Asked σ rests → p.answers.length ≤ rests.length →
      p.asked = (rests.take p.answers.length).map Rest.request := by
    intro hasked hlen
    rw [Poll.Asked, talk_plain h hlen] at hasked
    exact (Option.some.inj hasked).symm
  cases hfate : p.fate with
  | underWay d =>
      rw [hfate] at hfaithful
      refine ⟨nofun, hrequests ?_ ?_⟩
      · rw [Poll.Asked, hfaithful.said, hfaithful.asked, Option.map_some]
      · rw [hfaithful.length_answers]
        exact hfaithful.lt
  | thrown =>
      rw [hfate] at hfaithful
      obtain ⟨hlt, -, hstuck⟩ := hfaithful
      have hlen : (p.answers ++ [[]]).length ≤ rests.length := by
        rw [List.length_append]
        exact hlt
      have hnext := talk_plain h hlen
      rw [hstuck, Option.map_none] at hnext
      cases hnext
  | delivered v =>
      rw [hfate] at hfaithful
      exact ⟨nofun, hrequests hfaithful.2.1 hfaithful.1.le⟩

/-! ### A setting

The only variable is `$`, the first answer. -/

def firstAnswer : Setting where
  resolve ps
    | .object ms => .object (ms.map fun m =>
        if m.2 = .string "$" then (m.1, ps.headD .null) else m)
    | v => v
  parse := .string
  realText _ := ""

/-- Two descriptions, the second of which is read again before it is used. -/
theorem asked_as_configured_twice :
    Throughout (ExampleSensor.step firstAnswer)
      (fun s => ∀ p ∈ s.polls, p.fate ≠ .thrown ∧
        p.asked =
          (([⟨"", "https://device", "GET", "/ids", []⟩,
            ⟨"", "https://device", "GET", "/state", [("Accept", "*")]⟩] :
              List Rest).take p.answers.length).map Rest.request)
      { m_Rests := [⟨"", "https://device", "GET", "/ids", []⟩,
        ⟨"", "https://device", "GET", "/state", [("Accept", "*")]⟩] }
      [.onStart, .timer, .response 0 "/7", .state 0 .closed, .timer,
        .response 0 "on", .state 1 .disconnected, .state 0 .closed,
        .sendingData] := by
  refine asked_as_configured firstAnswer (fun r hr => ?_) _
  rcases List.mem_cons.mp hr with rfl | hr
  · exact ⟨by decide, fun _ => rfl⟩
  · obtain rfl := List.mem_singleton.mp hr
    exact ⟨by decide, fun _ => rfl⟩

/-- The second request of a poll uses the answer to the first. -/
example : (run (ExampleSensor.step firstAnswer)
    { m_Rests := [⟨"", "https://device", "GET", "/ids", []⟩,
      ⟨"", "https://device", "GET", "$", []⟩] }
    [.onStart, .timer, .response 0 "/7", .state 0 .closed]).map
      (fun s => s.polls.map fun p => p.asked.map Request.url) =
    some [["https://device/ids", "https://device/7"]] := by decide

end SelfPlugins.SmartThings
