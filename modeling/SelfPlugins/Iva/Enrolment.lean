import SelfPlugins.Iva.AddFace

/-!
# The requests of an enrolment

An accepted call of `AddFace` makes three requests, one after the other: it
enrols the user, uploads the files and updates the features.  Each answer comes
to the `AddFaceReq` object of the call, which goes on if the answer is not null
and else invokes the callback with null; the callback is also invoked with the
last answer.  `AddFace` deletes the object if `Start` returns false, and nothing
deletes it later.

`deletes_iff` says in which runs all objects are deleted when they should be.
-/

namespace SelfPlugins.Iva

open Runs

/-- The three functions that send a request. -/
inductive Sender where
  | enrollUser
  | uploadFiles
  | updateFeatures
deriving DecidableEq

def Sender.number : Sender → ℕ
  | .enrollUser => 0
  | .uploadFiles => 1
  | .updateFeatures => 2

/-- A call of `AddFace`: its object, unless `Start` has returned false; the
request whose answer it waits for; the requests that it has sent and the
answers; what the callback has been invoked with; and how often the object has
been deleted. -/
structure FaceCall where
  req : Option AddFaceReq
  awaiting : Option Sender := none
  sent : List (Sender × Request) := []
  answers : List Json.Value := []
  callbacks : List Json.Value := []
  deleted : ℕ := 0
deriving DecidableEq

/-- What a request depends on when it is sent. -/
structure Moment where
  m_SessionId : String
  undefined : Undefined

/-- `AddFace` is called, or the answer to a request of the `k`-th call comes. -/
inductive FaceEvent where
  | addFace (now : Moment) (a_F256 : List Xml.Node) (p : Person)
  | answer (k : ℕ) (now : Moment) (a_Response : Json.Value)

namespace FaceCall

/-! ## Translated functions -/

def send (sender : Sender) (request : Request) (c : FaceCall) : FaceCall :=
  { c with awaiting := some sender, sent := c.sent ++ [(sender, request)] }

def callback (value : Json.Value) (c : FaceCall) : FaceCall :=
  { c with awaiting := none, callbacks := c.callbacks ++ [value] }

/-- `AddFace`, unless a text is read that is missing. -/
def addFace (u : Surroundings) (now : Moment) (a_F256 : List Xml.Node)
    (p : Person) : Option FaceCall :=
  match AddFaceReq.start u a_F256 p with
  | .refused => some { req := none, deleted := 1 }
  | .missingText => none
  | .accepted req =>
      some (send .enrollUser (req.enrollUser u now.m_SessionId)
        { req := some req })

def onEnrollUser (u : Surroundings) (now : Moment) (a_Response : Json.Value)
    (req : AddFaceReq) (c : FaceCall) : FaceCall :=
  if a_Response.isNull then c.callback .null
  else
    let (request, req) := req.uploadFiles u now.m_SessionId
    { c with req := some req }.send .uploadFiles request

def onUploadFiles (u : Surroundings) (now : Moment) (a_Response : Json.Value)
    (req : AddFaceReq) (c : FaceCall) : FaceCall :=
  if a_Response.isNull then c.callback .null
  else
    c.send .updateFeatures
      (req.updateFeatures u now.m_SessionId now.undefined)

def onUpdateFeatures (a_Response : Json.Value) (c : FaceCall) : FaceCall :=
  c.callback a_Response

/-- The answer to the request that the call waits for. -/
def answer (u : Surroundings) (now : Moment) (a_Response : Json.Value)
    (c : FaceCall) : Option FaceCall :=
  let next := { c with answers := c.answers ++ [a_Response] }
  match c.req, c.awaiting with
  | some req, some .enrollUser =>
      some (next.onEnrollUser u now a_Response req)
  | some req, some .uploadFiles =>
      some (next.onUploadFiles u now a_Response req)
  | some _, some .updateFeatures => some (next.onUpdateFeatures a_Response)
  | _, _ => none

/-- The state is the list of the calls. -/
def step (u : Surroundings) (calls : List FaceCall) :
    FaceEvent → Option (List FaceCall)
  | .addFace now a_F256 p =>
      (addFace u now a_F256 p).map fun c => calls ++ [c]
  | .answer k now a_Response =>
      (calls[k]?).bind fun c =>
        (c.answer u now a_Response).map fun c' => calls.set k c'

/-! ## The law -/

/-- An accepted call sends its requests in their order, each one at most once
and after an answer that is not null; its callback is invoked once when it is
over, with null iff an answer was null. -/
structure Ordered (c : FaceCall) : Prop where
  order : c.sent.map Prod.fst <+:
    [.enrollUser, .uploadFiles, .updateFeatures]
  after : ∀ i, i + 1 < c.sent.length →
    (c.answers[i]?).map Json.Value.isNull = some false
  callback : c.callbacks.length =
    if c.req.isSome = true ∧ c.awaiting = none then 1 else 0
  null : ∀ value ∈ c.callbacks, value.isNull = true ↔
    ∃ a_Response ∈ c.answers, a_Response.isNull = true

/-- The object is deleted once, when the call is over. -/
structure Lawful (c : FaceCall) : Prop extends Ordered c where
  deleted : c.deleted = if c.awaiting = none then 1 else 0

/-- An answer that is not the last one. -/
def GoesOn (calls : List FaceCall) : FaceEvent → Prop
  | .answer k _ a_Response => ∀ c, calls[k]? = some c →
      a_Response.isNull = false ∧ c.awaiting ≠ some .updateFeatures
  | .addFace _ _ _ => True

/-! ## One call -/

/-- While a call waits, the requests up to that one have been sent, and all
others have been answered. -/
structure Waits (sender : Sender) (c : FaceCall) : Prop where
  sent : c.sent.map Prod.fst =
    [Sender.enrollUser, .uploadFiles, .updateFeatures].take (sender.number + 1)
  answers : c.answers.map Json.Value.isNull =
    List.replicate sender.number false
  callbacks : c.callbacks = []
  req : c.req.isSome = true
  deleted : c.deleted = 0

/-- The invariant of a call. -/
structure Sound (c : FaceCall) : Prop extends Ordered c where
  waits : ∀ sender, c.awaiting = some sender → Waits sender c

variable {u : Surroundings} {now : Moment} {a_Response : Json.Value}
  {c c' : FaceCall} {calls calls' : List FaceCall}

/-- The answers before the last one are not null. -/
theorem Waits.not_null {sender : Sender} (h : Waits sender c) :
    ∀ a ∈ c.answers, a.isNull = false := by
  intro a ha
  have hmem := List.mem_map_of_mem (f := Json.Value.isNull) ha
  rw [h.answers] at hmem
  exact (List.mem_replicate.mp hmem).2

theorem Waits.ordered {sender : Sender} (h : Waits sender c)
    (hawaiting : c.awaiting = some sender) : Ordered c where
  order := by
    rw [h.sent]
    exact List.take_prefix _ _
  after := by
    intro i hi
    have hlength : c.sent.length ≤ sender.number + 1 := by
      rw [← List.length_map, h.sent]
      exact List.length_take_le _ _
    rw [← List.getElem?_map, h.answers,
      List.getElem?_replicate_of_lt (by omega)]
  callback := by
    rw [h.callbacks, hawaiting, if_neg (fun hnone => nomatch hnone.2)]
    rfl
  null := by
    rw [h.callbacks]
    exact nofun

/-- A call goes on when it waits for the answer to a request. -/
theorem Waits.sound {sender : Sender} (h : Waits sender c)
    (hawaiting : c.awaiting = some sender) : Sound c where
  toOrdered := h.ordered hawaiting
  waits := by
    intro other hother
    obtain rfl := Option.some.inj (hawaiting.symm.trans hother)
    exact h

/-- An answer is the last one, with which the callback is invoked, or the next
request is sent. -/
theorem answer_cases (ht : c.answer u now a_Response = some c') :
    ∃ sender, c.awaiting = some sender ∧
      ((a_Response.isNull = true ∨ sender = .updateFeatures) ∧
        (∃ value, value.isNull = a_Response.isNull ∧
          c' = { c with answers := c.answers ++ [a_Response] }.callback value) ∨
      (a_Response.isNull = false ∧ sender ≠ .updateFeatures) ∧
        ∃ next request req, next.number = sender.number + 1 ∧
          c' = { c with
            req := some req
            answers := c.answers ++ [a_Response] }.send next request) := by
  unfold answer at ht
  cases hreq : c.req with
  | none =>
      simp only [hreq] at ht
      cases ht
  | some req =>
      cases hawaiting : c.awaiting with
      | none =>
          simp only [hreq, hawaiting] at ht
          cases ht
      | some sender =>
          refine ⟨sender, rfl, ?_⟩
          cases hnull : a_Response.isNull with
          | true =>
              refine Or.inl ⟨Or.inl rfl, ?_⟩
              cases sender with
              | enrollUser =>
                  simp only [hreq, hawaiting, onEnrollUser, hnull, if_true,
                    Option.some.injEq] at ht
                  exact ⟨.null, rfl, ht.symm⟩
              | uploadFiles =>
                  simp only [hreq, hawaiting, onUploadFiles, hnull, if_true,
                    Option.some.injEq] at ht
                  exact ⟨.null, rfl, ht.symm⟩
              | updateFeatures =>
                  simp only [hreq, hawaiting, onUpdateFeatures,
                    Option.some.injEq] at ht
                  exact ⟨a_Response, hnull, ht.symm⟩
          | false =>
              cases sender with
              | enrollUser =>
                  simp only [hreq, hawaiting, onEnrollUser, hnull,
                    Bool.false_eq_true, if_false, Option.some.injEq] at ht
                  exact Or.inr ⟨⟨rfl, nofun⟩, .uploadFiles, _, _, rfl,
                    ht.symm⟩
              | uploadFiles =>
                  simp only [hreq, hawaiting, onUploadFiles, hnull,
                    Bool.false_eq_true, if_false, Option.some.injEq] at ht
                  exact Or.inr ⟨⟨rfl, nofun⟩, .updateFeatures, _, req, rfl,
                    ht.symm⟩
              | updateFeatures =>
                  simp only [hreq, hawaiting, onUpdateFeatures,
                    Option.some.injEq] at ht
                  exact Or.inl ⟨Or.inr rfl, a_Response, hnull, ht.symm⟩

/-- The last answer leaves a call in order. -/
theorem Sound.finish (h : Sound c) {sender : Sender}
    (hawaiting : c.awaiting = some sender) {value : Json.Value}
    (hvalue : value.isNull = a_Response.isNull) :
    Sound ({ c with
      answers := c.answers ++ [a_Response] }.callback value) := by
  have hwaits := h.waits sender hawaiting
  refine ⟨⟨h.order, fun i hi => ?_, ?_, ?_⟩, nofun⟩
  · have hafter := h.after i hi
    obtain ⟨a, ha, -⟩ := Option.map_eq_some_iff.mp hafter
    have hi' : i < c.answers.length := (List.getElem?_eq_some_iff.mp ha).1
    change (((c.answers ++ [a_Response])[i]?).map _) = some false
    rw [List.getElem?_append_left hi']
    exact hafter
  · simp [callback, hwaits.callbacks, hwaits.req]
  · intro v hv
    simp only [callback, hwaits.callbacks, List.nil_append,
      List.mem_singleton] at hv
    rw [hv, hvalue]
    constructor
    · intro hnull
      exact ⟨a_Response, List.mem_append_right _ (List.mem_singleton_self _),
        hnull⟩
    · rintro ⟨a, ha, hnull⟩
      rcases List.mem_append.mp ha with hold | hlast
      · rw [hwaits.not_null a hold] at hnull
        cases hnull
      · rwa [← List.mem_singleton.mp hlast]

/-- The next request is sent after an answer that is not null. -/
theorem Waits.goOn {sender next : Sender} (h : Waits sender c)
    (hnull : a_Response.isNull = false)
    (hnext : next.number = sender.number + 1)
    (request : Request) (req : AddFaceReq) :
    Waits next ({ c with
      req := some req
      answers := c.answers ++ [a_Response] }.send next request) where
  sent := by
    simp only [send, List.map_append, h.sent]
    cases sender with
    | enrollUser => cases next <;> first | rfl | cases hnext
    | uploadFiles => cases next <;> first | rfl | cases hnext
    | updateFeatures => cases next <;> cases hnext
  answers := by
    simp only [send, List.map_append, h.answers, hnext, List.map_singleton,
      hnull, List.replicate_succ']
  callbacks := h.callbacks
  req := rfl
  deleted := h.deleted

theorem Sound.answer (h : Sound c)
    (ht : c.answer u now a_Response = some c') : Sound c' := by
  obtain ⟨sender, hawaiting, ⟨-, value, hvalue, rfl⟩ |
    ⟨⟨hnull, -⟩, next, request, req, hnext, rfl⟩⟩ := answer_cases ht
  · exact h.finish hawaiting hvalue
  · exact ((h.waits sender hawaiting).goOn hnull hnext request req).sound rfl

/-- A call of `AddFace` is refused, and its object deleted, or it waits for its
first answer. -/
theorem addFace_cases {a_F256 : List Xml.Node} {p : Person}
    (ht : addFace u now a_F256 p = some c) :
    c = { req := none, deleted := 1 } ∨
      ∃ req request, c = send .enrollUser request { req := some req } := by
  unfold addFace at ht
  split at ht
  · exact Or.inl (Option.some.inj ht).symm
  · cases ht
  · exact Or.inr ⟨_, _, (Option.some.inj ht).symm⟩

theorem waits_enrollUser (req : AddFaceReq) (request : Request) :
    Waits .enrollUser (send .enrollUser request { req := some req }) :=
  ⟨rfl, rfl, rfl, rfl, rfl⟩

theorem lawful_refused : Lawful { req := none, deleted := 1 } :=
  ⟨⟨List.nil_prefix, nofun, rfl, nofun⟩, rfl⟩

theorem Waits.lawful {sender : Sender} (h : Waits sender c)
    (hawaiting : c.awaiting = some sender) : Lawful c :=
  ⟨h.ordered hawaiting, by
    rw [h.deleted, hawaiting, if_neg (Option.some_ne_none sender)]⟩

/-! ## Steps -/

theorem sound_step {e : FaceEvent} (h : ∀ c ∈ calls, Sound c)
    (ht : step u calls e = some calls') : ∀ c ∈ calls', Sound c := by
  cases e with
  | addFace now a_F256 p =>
      obtain ⟨c, hc, rfl⟩ := Option.map_eq_some_iff.mp ht
      refine List.forall_mem_append.mpr ⟨h, fun d hd => ?_⟩
      obtain rfl := List.mem_singleton.mp hd
      rcases addFace_cases hc with rfl | ⟨req, request, rfl⟩
      · exact ⟨lawful_refused.toOrdered, nofun⟩
      · exact (waits_enrollUser req request).sound rfl
  | answer k now a_Response =>
      obtain ⟨c, hc, ht⟩ := Option.bind_eq_some_iff.mp ht
      obtain ⟨c', hc', rfl⟩ := Option.map_eq_some_iff.mp ht
      intro d hd
      rcases List.mem_or_eq_of_mem_set hd with hd | rfl
      · exact h d hd
      · exact (h c (List.mem_of_getElem? hc)).answer hc'

theorem lawful_step {e : FaceEvent} (h : ∀ c ∈ calls, Sound c)
    (hlaw : ∀ c ∈ calls, Lawful c) (hC : GoesOn calls e)
    (ht : step u calls e = some calls') : ∀ c ∈ calls', Lawful c := by
  cases e with
  | addFace now a_F256 p =>
      obtain ⟨c, hc, rfl⟩ := Option.map_eq_some_iff.mp ht
      refine List.forall_mem_append.mpr ⟨hlaw, fun d hd => ?_⟩
      obtain rfl := List.mem_singleton.mp hd
      rcases addFace_cases hc with rfl | ⟨req, request, rfl⟩
      · exact lawful_refused
      · exact (waits_enrollUser req request).lawful rfl
  | answer k now a_Response =>
      obtain ⟨c, hc, ht⟩ := Option.bind_eq_some_iff.mp ht
      obtain ⟨c', hc', rfl⟩ := Option.map_eq_some_iff.mp ht
      obtain ⟨hnull, hlast⟩ := hC c hc
      intro d hd
      rcases List.mem_or_eq_of_mem_set hd with hd | rfl
      · exact hlaw d hd
      · have hsound := h c (List.mem_of_getElem? hc)
        obtain ⟨sender, hawaiting, ⟨hend, -⟩ |
          ⟨-, next, request, req, hnext, rfl⟩⟩ := answer_cases hc'
        · rcases hend with hnull' | rfl
          · rw [hnull] at hnull'
            cases hnull'
          · exact absurd hawaiting hlast
        · exact ((hsound.waits sender hawaiting).goOn hnull hnext request
            req).lawful rfl

/-- When the last answer has come the object is still there. -/
theorem not_lawful_step {e : FaceEvent} (h : ∀ c ∈ calls, Sound c)
    (hC : ¬GoesOn calls e) (ht : step u calls e = some calls') :
    ¬∀ c ∈ calls', Lawful c := by
  cases e with
  | addFace now a_F256 p => exact absurd trivial hC
  | answer k now a_Response =>
      obtain ⟨c, hc, ht⟩ := Option.bind_eq_some_iff.mp ht
      obtain ⟨c', hc', rfl⟩ := Option.map_eq_some_iff.mp ht
      have hsound := h c (List.mem_of_getElem? hc)
      have hk : k < calls.length := (List.getElem?_eq_some_iff.mp hc).1
      intro hlaw
      have hdeleted := (hlaw c' (List.mem_set hk c')).deleted
      obtain ⟨sender, hawaiting, ⟨-, value, -, rfl⟩ | ⟨⟨hnull, hne⟩, -⟩⟩ :=
        answer_cases hc'
      · have hzero := (hsound.waits sender hawaiting).deleted
        exact Nat.zero_ne_one (hzero.symm.trans hdeleted)
      · refine hC fun d hd => ?_
        obtain rfl := Option.some.inj (hc.symm.trans hd)
        exact ⟨hnull, fun hlast =>
          hne (Option.some.inj (hawaiting.symm.trans hlast))⟩

/-! ## Runs -/

/-- In every run the requests of each call are sent in order and its callback
is invoked once; and throughout a run all objects are deleted when they should
be, iff no answer in it is the last one of its call. -/
theorem deletes_iff (u : Surroundings) (es : List FaceEvent) :
    Throughout (step u) (fun calls => ∀ c ∈ calls, Ordered c) [] es ∧
      (Throughout (step u) (fun calls => ∀ c ∈ calls, Lawful c) [] es ↔
        EachStep (step u) GoesOn [] es) := by
  constructor
  · refine Throughout.mono (fun calls h c hc => (h c hc).toOrdered)
      (throughout_of_eachStep (I := fun calls => ∀ c ∈ calls, Sound c)
        (C := fun _ _ => True) (fun _ _ _ h _ ht => sound_step h ht) nofun
        (eachStep_true _ es))
  · exact throughout_iff_eachStep
      (I := fun calls => (∀ c ∈ calls, Sound c) ∧ ∀ c ∈ calls, Lawful c)
      (L := fun _ _ => True) (fun _ h => h.2)
      (fun _ _ _ h _ hC ht => ⟨sound_step h.1 ht, lawful_step h.1 h.2 hC ht⟩)
      (fun _ _ _ h _ hC ht => not_lawful_step h.1 hC ht) ⟨nofun, nofun⟩
      (eachStep_true _ es)

/-- The first answer to an enrolment is null. -/
theorem not_always_deletes :
    ¬∀ (u : Surroundings) (es : List FaceEvent),
      Throughout (step u) (fun calls => ∀ c ∈ calls, Lawful c) [] es := by
  intro h
  let u : Surroundings := ⟨fun _ => "2016-11-16",
    fun name => [name], "multipart/form-data", fun _ => none⟩
  let now : Moment := ⟨"-802999335", ⟨fun _ => 0, fun _ => 0⟩⟩
  let face : List Xml.Node :=
    [.element "F256" [.text "0.6165"],
      .element "LandMarks" [.element "LeftEye" [.text "52 62"]],
      .element "BBox" [.text "29.0 103.0 38.0 112.0"]]
  have hrun : (run (step u) [] [.addFace now [.element "Results"
      [.element "Status" [.text "ok"], .element "Face" face]]
      ⟨"", "id", "Ada", "F", "1815-12-10", true⟩, .answer 0 now .null]).map
      (fun calls => calls.map fun c => (c.awaiting, c.deleted)) =
        some [(none, 0)] := by decide +kernel
  obtain ⟨calls, hcalls, hobs⟩ := (h _ _).last hrun
  obtain ⟨c, rfl, hc⟩ := List.map_eq_singleton_iff.mp hobs
  obtain ⟨hawaiting, hdeleted⟩ := Prod.mk.inj hc
  have hlaw := (hcalls c (List.mem_singleton_self c)).deleted
  rw [hawaiting, hdeleted] at hlaw
  cases hlaw

end FaceCall

end SelfPlugins.Iva
