import SelfPlugins.Conversation.Proxy

/-!
# Requests complete exactly once

The flag `m_bTextClassified` of a request means that its result has been
delivered as long as the constructor runs, and that the constructor has ended
afterwards.  Whoever comes second deletes the request.  `life` reads from the
log what has happened to a request, and `Kept` tells where the requests are that
have not been completed: a callback is running for them, or the network has yet
to answer.

An exception on the way to the callback ends this: the request is released
without a result, or nothing is left that knows of it.  `Readable` excludes just
these exceptions, and `completes_iff` says that it is exact.
-/

namespace SelfPlugins.Watson

open Runs
open Json (Value)

/-- What has happened to a request.  A `CacheMiss` is `due` if `Message` has
returned before there was a result; a request is `sound` if it was not used or
deleted after its deletion. -/
structure Life where
  results : ℕ
  deletions : ℕ
  due : Bool
  misses : ℕ
  sound : Bool
deriving DecidableEq

def Life.after (r : RequestId) (l : Life) : RequestEntry → Life
  | .used q =>
      if q = r then { l with sound := l.sound && l.deletions = 0 } else l
  | .deleted q =>
      if q = r then
        { l with
          deletions := l.deletions + 1
          sound := l.sound && l.deletions = 0 }
      else l
  | .result q => if q = r then { l with results := l.results + 1 } else l
  | .returned q => if q = r then { l with due := l.results = 0 } else l
  | .cacheMiss q => if q = r then { l with misses := l.misses + 1 } else l

def life (r : RequestId) (log : List RequestEntry) : Life :=
  log.foldl (Life.after r) ⟨0, 0, false, 0, true⟩

/-- The life of a request with `results` results that has not been deleted;
`late` if `Message` returned before the first of them. -/
def Life.alive (results : ℕ) (late : Bool) : Life :=
  ⟨results, 0, late, late.toNat, true⟩

/-- The life of a request that is complete. -/
def Life.complete (late : Bool) : Life := ⟨1, 1, late, late.toNat, true⟩

def RequestEntry.request : RequestEntry → RequestId
  | .used r | .deleted r | .result r | .returned r | .cacheMiss r => r

theorem life_concat (r : RequestId) (log : List RequestEntry)
    (e : RequestEntry) : life r (log ++ [e]) = (life r log).after r e := by
  rw [life, List.foldl_append]
  rfl

/-- What happens to another request does not matter. -/
theorem Life.after_other {r : RequestId} {e : RequestEntry}
    (h : r ≠ e.request) (l : Life) : l.after r e = l := by
  cases e with
  | _ q => exact if_neg (Ne.symm h)

theorem Life.after_used {r : RequestId} {l : Life} (h : l.deletions = 0) :
    l.after r (.used r) = l := by
  have hsound : (l.sound && decide (l.deletions = 0)) = l.sound := by
    rw [decide_eq_true h, Bool.and_true]
  rw [Life.after, if_pos rfl, hsound]

variable {F Text Hash : Type}

def Frame.request : Frame F Hash → RequestId
  | .failed r => r
  | .hit m _ => m.owner
  | .answered r _ => r

/-- `Message` has returned before the result. -/
def Frame.late : Frame F Hash → Bool
  | .answered _ atOnce => !atOnce
  | .failed _ | .hit _ _ => false

namespace ConversationProxy

variable {s t : ConversationProxy F Text Hash} {q : RequestId}

/-- The requests to the network with a valid callback. -/
def waiting (inFlight : List (OwnedReq Hash)) : List RequestId :=
  (inFlight.filter fun m => m.req.callback).map OwnedReq.owner

/-- The requests that are not complete: their callbacks are running, or they
wait for the network. -/
def active (s : ConversationProxy F Text Hash) : List RequestId :=
  s.stack.map Frame.request ++ waiting s.inFlight

/-- The results of a request its callback was called with. -/
def given (r : RequestId) (s : ConversationProxy F Text Hash) : ℕ :=
  (s.delivered.map Prod.fst).count r

/-- The callback of a request was called for its results only, and for all of
them if it is valid. -/
def Matched (r : RequestId) (s : ConversationProxy F Text Hash) : Prop :=
  given r s ≤ (life r s.log).results ∧
    ((s.requests r).callback = true → given r s = (life r s.log).results)

/-- No request gives two results, is deleted twice or used after its deletion;
a `CacheMiss` is added if and only if `Message` returns before the result; and
the requests that are not active any more have given a result, to the callback
if it is valid, and have been deleted. -/
structure Completes (s : ConversationProxy F Text Hash) : Prop where
  results : ∀ r, (life r s.log).results ≤ 1
  deletions : ∀ r, (life r s.log).deletions ≤ 1
  sound : ∀ r, (life r s.log).sound = true
  misses : ∀ r, (life r s.log).misses = (life r s.log).due.toNat
  complete : ∀ r, r < s.nextRequest → r ∉ active s →
    (life r s.log).results = 1 ∧ (life r s.log).deletions = 1
  matched : ∀ r, Matched r s

/-- A request has the life `l`, and its flag is `flag`. -/
def Has (r : RequestId) (l : Life) (flag : Bool)
    (s : ConversationProxy F Text Hash) : Prop :=
  life r s.log = l ∧ (s.requests r).textClassified = flag

/-- The requests that are not complete if a function of `held` is running. -/
def unfinished (held : Option RequestId) (s : ConversationProxy F Text Hash) :
    List RequestId :=
  held.toList ++ active s

/-- The invariant while a function of the request `held` is running. -/
structure Kept (held : Option RequestId)
    (s : ConversationProxy F Text Hash) : Prop where
  nodup : (unfinished held s).Nodup
  bound : ∀ r ∈ unfinished held s, r < s.nextRequest
  running : ∀ frame ∈ s.stack,
    Has frame.request (.alive 1 frame.late) frame.late s
  waiting : ∀ m ∈ s.inFlight, m.req.callback = true →
    Has m.owner (.alive 0 true) true s
  complete : ∀ r, r < s.nextRequest → r ∉ unfinished held s →
    ∃ late, life r s.log = .complete late
  fresh : ∀ r, s.nextRequest ≤ r → life r s.log = .alive 0 false
  matched : ∀ r, Matched r s

theorem kept_new (data : ProxyData) (service : Conversation F Text Hash) :
    Kept none (new data service) where
  nodup := List.nodup_nil
  bound _ h := absurd h List.not_mem_nil
  running _ h := absurd h List.not_mem_nil
  waiting _ h := absurd h List.not_mem_nil
  complete _ h := absurd h (Nat.not_lt_zero _)
  fresh _ _ := rfl
  matched _ := ⟨Nat.le_refl 0, fun _ => rfl⟩

/-- A request is alive or complete. -/
theorem Kept.alive_or_complete (h : Kept none s) (r : RequestId) : ∃ results late,
    results ≤ 1 ∧ (life r s.log = .alive results late ∨
      life r s.log = .complete late) := by
  by_cases hr : r < s.nextRequest
  · by_cases hactive : r ∈ active s
    · rcases List.mem_append.mp hactive with hrun | hwait
      · obtain ⟨frame, hframe, rfl⟩ := List.mem_map.mp hrun
        exact ⟨1, frame.late, Nat.le_refl 1,
          Or.inl (h.running frame hframe).1⟩
      · obtain ⟨m, hm, rfl⟩ := List.mem_map.mp hwait
        obtain ⟨hm, hcallback⟩ := List.mem_filter.mp hm
        exact ⟨0, true, Nat.zero_le 1,
          Or.inl (h.waiting m hm hcallback).1⟩
    · obtain ⟨late, hlate⟩ := h.complete r hr hactive
      exact ⟨1, late, Nat.le_refl 1, Or.inr hlate⟩
  · exact ⟨0, false, Nat.zero_le 1, Or.inl (h.fresh r (Nat.le_of_not_lt hr))⟩

theorem Kept.completes (h : Kept none s) : Completes s := by
  have hlife : ∀ r, (life r s.log).results ≤ 1 ∧ (life r s.log).deletions ≤ 1 ∧
      (life r s.log).sound = true ∧
      (life r s.log).misses = (life r s.log).due.toNat := by
    intro r
    obtain ⟨results, late, hle, hlate | hlate⟩ := h.alive_or_complete r
    · exact hlate ▸ ⟨hle, Nat.zero_le 1, rfl, rfl⟩
    · exact hlate ▸ ⟨Nat.le_refl 1, Nat.le_refl 1, rfl, rfl⟩
  exact {
    results := fun r => (hlife r).1
    deletions := fun r => (hlife r).2.1
    sound := fun r => (hlife r).2.2.1
    misses := fun r => (hlife r).2.2.2
    complete := fun r hr hactive => by
      obtain ⟨late, hlate⟩ := h.complete r hr hactive
      exact hlate ▸ ⟨rfl, rfl⟩
    matched := h.matched }

/-! ## A function of a request is running -/

/-- From `s` to `t` a function of the request `q` has run. -/
structure Ran (q : RequestId) (s t : ConversationProxy F Text Hash) :
    Prop where
  stack : t.stack = s.stack
  inFlight : t.inFlight = s.inFlight
  nextRequest : t.nextRequest = s.nextRequest
  log : ∀ r, r ≠ q → life r t.log = life r s.log
  requests : ∀ r, r ≠ q → t.requests r = s.requests r
  given : ∀ r, r ≠ q → given r t = given r s
  matched : Matched q s → Matched q t

theorem Ran.trans {u : ConversationProxy F Text Hash} (hst : Ran q s t)
    (htu : Ran q t u) : Ran q s u where
  stack := htu.stack.trans hst.stack
  inFlight := htu.inFlight.trans hst.inFlight
  nextRequest := htu.nextRequest.trans hst.nextRequest
  log r hr := (htu.log r hr).trans (hst.log r hr)
  requests r hr := (htu.requests r hr).trans (hst.requests r hr)
  given r hr := (htu.given r hr).trans (hst.given r hr)
  matched h := htu.matched (hst.matched h)

theorem ran_note (e : RequestEntry) (he : e.request = q)
    (hresult : e ≠ .result q) (s : ConversationProxy F Text Hash) :
    Ran q s (note e s) where
  stack := rfl
  inFlight := rfl
  nextRequest := rfl
  log r hr := (life_concat r s.log e).trans (Life.after_other (he ▸ hr) _)
  requests _ _ := rfl
  given _ _ := rfl
  matched h := by
    have hresults : (life q (note e s).log).results =
        (life q s.log).results := by
      rw [note, life_concat]
      subst he
      cases e with
      | result r => exact absurd rfl hresult
      | _ r => simp only [Life.after, RequestEntry.request, if_pos]
    rw [Matched, hresults]
    exact h

theorem modifyRequest_requests (r : RequestId) (g : Request → Request)
    (s : ConversationProxy F Text Hash) :
    (modifyRequest q g s).requests r =
      if r = q then g (s.requests q) else s.requests r := by
  simp [modifyRequest, Function.update_apply]

theorem ran_classified (q : RequestId) (s : ConversationProxy F Text Hash) :
    Ran q s
      (modifyRequest q (fun x => { x with textClassified := true }) s) where
  stack := rfl
  inFlight := rfl
  nextRequest := rfl
  log _ _ := rfl
  requests r hr := by rw [modifyRequest_requests, if_neg hr]
  given _ _ := rfl
  matched h := by
    rw [Matched, modifyRequest_requests, if_pos rfl]
    exact h

theorem mem_active_of_frame {frame : Frame F Hash} (h : frame ∈ s.stack) :
    frame.request ∈ active s :=
  List.mem_append_left _ (List.mem_map_of_mem h)

theorem mem_active_of_waiting {m : OwnedReq Hash} (h : m ∈ s.inFlight)
    (hcallback : m.req.callback = true) : m.owner ∈ active s :=
  List.mem_append_right _ (List.mem_map_of_mem
    (List.mem_filter.mpr ⟨h, hcallback⟩))

theorem Kept.held (h : Kept (some q) s) : q ∉ active s ∧ q < s.nextRequest :=
  ⟨(List.nodup_cons.mp h.nodup).1, h.bound q List.mem_cons_self⟩

theorem Kept.ran (h : Kept (some q) s) (hst : Ran q s t) :
    Kept (some q) t := by
  have hunfinished : unfinished (some q) t = unfinished (some q) s := by
    rw [unfinished, unfinished, active, active, hst.stack, hst.inFlight]
  have hne : ∀ r ∈ active s, r ≠ q := by
    rintro r hr rfl
    exact h.held.1 hr
  have hhas : ∀ r, r ≠ q → ∀ l flag, Has r l flag s → Has r l flag t := by
    intro r hr l flag hhas
    rw [Has, hst.log r hr, hst.requests r hr]
    exact hhas
  constructor
  · rw [hunfinished]
    exact h.nodup
  · rw [hunfinished, hst.nextRequest]
    exact h.bound
  · intro frame hframe
    rw [hst.stack] at hframe
    exact hhas _ (hne _ (mem_active_of_frame hframe)) _ _
      (h.running frame hframe)
  · intro m hm hvalid
    rw [hst.inFlight] at hm
    exact hhas _ (hne _ (mem_active_of_waiting hm hvalid)) _ _
      (h.waiting m hm hvalid)
  · intro r hr hnot
    rw [hst.nextRequest] at hr
    rw [hunfinished] at hnot
    rw [hst.log r (List.ne_of_not_mem_cons hnot)]
    exact h.complete r hr hnot
  · intro r hr
    rw [hst.nextRequest] at hr
    rw [hst.log r (Nat.ne_of_gt (h.held.2.trans_le hr))]
    exact h.fresh r hr
  · intro r
    by_cases hr : r = q
    · exact hr ▸ hst.matched (h.matched q)
    · rw [Matched, hst.given r hr, hst.log r hr, hst.requests r hr]
      exact h.matched r

/-! ## Requests begin and cease to be active -/

/-- The stack and the requests to the network change, but no request is
lost. -/
theorem Kept.move {held held' : Option RequestId} (h : Kept held s)
    (hunfinished : (unfinished held s).Perm (unfinished held' t))
    (hnext : t.nextRequest = s.nextRequest) (hlog : t.log = s.log)
    (hdelivered : t.delivered = s.delivered)
    (hrequests : ∀ r,
      (t.requests r).textClassified = (s.requests r).textClassified ∧
        ((t.requests r).callback = true → (s.requests r).callback = true))
    (hstack : ∀ frame ∈ t.stack, frame ∈ s.stack ∨
      Has frame.request (.alive 1 frame.late) frame.late s)
    (hinFlight : ∀ m ∈ t.inFlight, m.req.callback = true → m ∈ s.inFlight ∨
      Has m.owner (.alive 0 true) true s) : Kept held' t := by
  have hhas : ∀ {r l flag}, Has r l flag s → Has r l flag t := by
    intro r l flag hhas
    rw [Has, hlog, (hrequests r).1]
    exact hhas
  have hgiven : ∀ r, given r t = given r s := by
    intro r
    rw [given, hdelivered]
    rfl
  constructor
  · exact hunfinished.nodup_iff.mp h.nodup
  · intro r hr
    rw [hnext]
    exact h.bound r (hunfinished.mem_iff.mpr hr)
  · intro frame hframe
    rcases hstack frame hframe with hold | hnew
    · exact hhas (h.running frame hold)
    · exact hhas hnew
  · intro m hm hvalid
    rcases hinFlight m hm hvalid with hold | hnew
    · exact hhas (h.waiting m hold hvalid)
    · exact hhas hnew
  · intro r hr hnot
    rw [hnext] at hr
    rw [hlog]
    exact h.complete r hr fun hmem => hnot (hunfinished.mem_iff.mp hmem)
  · intro r hr
    rw [hnext] at hr
    rw [hlog]
    exact h.fresh r hr
  · intro r
    rw [Matched, hgiven, hlog]
    exact ⟨(h.matched r).1, fun hvalid =>
      (h.matched r).2 ((hrequests r).2 hvalid)⟩

/-- The data of the proxy and the service do not matter. -/
theorem Kept.update {held : Option RequestId} (h : Kept held s)
    (data : ProxyData) (service : Conversation F Text Hash) :
    Kept held { s with data := data, service := service } :=
  h.move (List.Perm.refl _) rfl rfl rfl (fun _ => ⟨rfl, id⟩)
    (fun _ => Or.inl) fun _ hm _ => Or.inl hm

/-- The request is complete. -/
theorem Kept.release (h : Kept (some q) s) {late : Bool}
    (hlife : life q s.log = .complete late) : Kept none s where
  nodup := (List.nodup_cons.mp h.nodup).2
  bound r hr := h.bound r (List.mem_cons_of_mem q hr)
  running := h.running
  waiting := h.waiting
  complete r hr hnot := by
    by_cases hrq : r = q
    · exact ⟨late, hrq ▸ hlife⟩
    · exact h.complete r hr (List.not_mem_cons_of_ne_of_not_mem hrq hnot)
  fresh := h.fresh
  matched := h.matched

/-- The constructor of a request begins. -/
theorem Kept.create (h : Kept none s) (x : Request) :
    Kept (some s.nextRequest) (modifyRequest s.nextRequest (fun _ => x)
      { s with nextRequest := s.nextRequest + 1 }) := by
  have hne : ∀ r ∈ active s, r ≠ s.nextRequest :=
    fun r hr => Nat.ne_of_lt (h.bound r hr)
  have hold : ∀ {r}, r ≠ s.nextRequest → ((modifyRequest s.nextRequest
      (fun _ => x) { s with nextRequest := s.nextRequest + 1 }).requests r) =
        s.requests r := by
    intro r hr
    rw [modifyRequest_requests, if_neg hr]
  constructor
  · exact List.nodup_cons.mpr ⟨fun hmem => hne _ hmem rfl, h.nodup⟩
  · intro r hr
    rcases List.mem_cons.mp hr with rfl | hr
    · exact Nat.lt_succ_self _
    · exact Nat.lt_succ_of_lt (h.bound r hr)
  · intro frame hframe
    rw [Has, hold (hne _ (mem_active_of_frame hframe))]
    exact h.running frame hframe
  · intro m hm hvalid
    rw [Has, hold (hne _ (mem_active_of_waiting hm hvalid))]
    exact h.waiting m hm hvalid
  · intro r hr hnot
    exact h.complete r
      (Nat.lt_of_le_of_ne (Nat.le_of_lt_succ hr) (List.ne_of_not_mem_cons hnot))
      (List.not_mem_of_not_mem_cons hnot)
  · exact fun r hr => h.fresh r (Nat.le_of_succ_le hr)
  · intro r
    by_cases hr : r = s.nextRequest
    · have hnone : given r s = 0 := by
        have hle := (h.matched r).1
        rw [h.fresh r (Nat.le_of_eq hr.symm)] at hle
        exact Nat.le_zero.mp hle
      have hlife : (life r s.log).results = 0 := by
        rw [h.fresh r (Nat.le_of_eq hr.symm)]
        rfl
      exact ⟨(h.matched r).1, fun _ => hnone.trans hlife.symm⟩
    · rw [Matched, hold hr]
      exact h.matched r

theorem waiting_append (l : List (OwnedReq Hash)) (m : OwnedReq Hash) :
    waiting (l ++ [m]) =
      waiting l ++ if m.req.callback then [m.owner] else [] := by
  rw [waiting, List.filter_append, List.map_append]
  by_cases hcallback : m.req.callback = true
  · simp [waiting, hcallback]
  · simp [waiting, hcallback]

theorem waiting_eraseIdx {l : List (OwnedReq Hash)} {n : ℕ} {m : OwnedReq Hash}
    (h : l[n]? = some m) : (waiting l).Perm
      ((if m.req.callback then [m.owner] else []) ++ waiting (l.eraseIdx n)) := by
  obtain ⟨hn, rfl⟩ := List.getElem?_eq_some_iff.mp h
  have hperm : (waiting (l[n] :: l.eraseIdx n)).Perm (waiting l) :=
    ((List.getElem_cons_eraseIdx_perm hn).filter _).map _
  refine hperm.symm.trans (List.Perm.of_eq ?_)
  by_cases hcallback : l[n].req.callback = true
  · simp [waiting, hcallback]
  · simp [waiting, hcallback]

/-- A request to the network is sent. -/
theorem Kept.enqueue {m : OwnedReq Hash}
    (h : Kept (if m.req.callback then some m.owner else none) s)
    (hhas : m.req.callback = true → Has m.owner (.alive 0 true) true s) :
    Kept none { s with inFlight := s.inFlight ++ [m] } := by
  refine h.move ?_ rfl rfl rfl (fun _ => ⟨rfl, id⟩) (fun _ => Or.inl) ?_
  · rw [unfinished, unfinished, active, active, waiting_append]
    split
    · refine (List.perm_append_singleton m.owner (active s)).symm.trans ?_
      exact List.Perm.of_eq (List.append_assoc (s.stack.map Frame.request) _ _)
    · rw [List.append_nil]
  · intro m' hm' hvalid
    rcases List.mem_append.mp hm' with hold | hnew
    · exact Or.inl hold
    · obtain rfl := List.mem_singleton.mp hnew
      exact Or.inr (hhas hvalid)

/-- A request to the network is answered. -/
theorem Kept.dequeue (h : Kept none s) {n : ℕ} {m : OwnedReq Hash}
    (hm : s.inFlight[n]? = some m) :
    Kept (if m.req.callback then some m.owner else none)
      { s with inFlight := s.inFlight.eraseIdx n } := by
  refine h.move ?_ rfl rfl rfl (fun _ => ⟨rfl, id⟩) (fun _ => Or.inl)
    fun m' hm' _ => Or.inl (List.mem_of_mem_eraseIdx hm')
  have hperm := (waiting_eraseIdx hm).append_left (s.stack.map Frame.request)
  rw [unfinished, unfinished, active, active]
  refine hperm.trans ?_
  split
  · exact List.perm_middle
  · exact List.Perm.refl _

/-- The callback of a request is called. -/
theorem Kept.push (h : Kept (some q) s) {frame : Frame F Hash}
    (hframe : frame.request = q)
    (hhas : Has q (.alive 1 frame.late) frame.late s) :
    Kept none { s with stack := frame :: s.stack } := by
  subst hframe
  refine h.move (List.Perm.refl _) rfl rfl rfl (fun _ => ⟨rfl, id⟩) ?_
    fun _ hm _ => Or.inl hm
  intro frame' hframe'
  rcases List.mem_cons.mp hframe' with rfl | hold
  · exact Or.inr hhas
  · exact Or.inl hold

/-- The callback of a request returns. -/
theorem Kept.pop (h : Kept none s) {frame : Frame F Hash}
    {rest : List (Frame F Hash)} (hstack : s.stack = frame :: rest) :
    Kept (some frame.request) { s with stack := rest } ∧
      Has frame.request (.alive 1 frame.late) frame.late
        { s with stack := rest } := by
  constructor
  · refine h.move ?_ rfl rfl rfl (fun _ => ⟨rfl, id⟩) ?_
      fun _ hm _ => Or.inl hm
    · rw [unfinished, unfinished, active, active, hstack]
      exact List.Perm.refl _
    · intro frame' hframe'
      exact Or.inl (hstack ▸ List.mem_cons_of_mem frame hframe')
  · exact h.running frame (hstack ▸ List.mem_cons_self)

/-! ## The functions of a request -/

theorem Has.note {l : Life} {flag : Bool} (h : Has q l flag s)
    (e : RequestEntry) : Has q (l.after q e) flag (note e s) :=
  ⟨(life_concat q s.log e).trans (congrArg (Life.after q · e) h.1), h.2⟩

theorem Has.used {l : Life} {flag : Bool} (h : Has q l flag s)
    (halive : l.deletions = 0) :
    Has q l flag (ConversationProxy.note (.used q) s) :=
  Life.after_used (r := q) halive ▸ h.note (.used q)

theorem Has.deleted {late flag : Bool} (h : Has q (.alive 1 late) flag s) :
    life q (ConversationProxy.note (.deleted q) s).log = .complete late :=
  (h.note (.deleted q)).1.trans (if_pos rfl)

theorem Has.classified {l : Life} {flag : Bool} (h : Has q l flag s) :
    Has q l true
      (modifyRequest q (fun x => { x with textClassified := true }) s) := by
  rw [Has, modifyRequest_requests, if_pos rfl]
  exact ⟨h.1, rfl⟩

theorem ran_used (q : RequestId) (s : ConversationProxy F Text Hash) :
    Ran q s (note (.used q) s) :=
  ran_note (.used q) rfl nofun s

theorem ran_deleted (q : RequestId) (s : ConversationProxy F Text Hash) :
    Ran q s (note (.deleted q) s) :=
  ran_note (.deleted q) rfl nofun s

/-- `OnTextClassified` ends while the constructor is running. -/
theorem Kept.finishClassified_early (h : Kept (some q) s)
    (hhas : Has q (.alive 1 false) false s) :
    Kept (some q) (finishClassified q s) ∧
      Has q (.alive 1 false) true (finishClassified q s) := by
  have hflag : ((note (.used q) s).requests q).textClassified = false := hhas.2
  rw [finishClassified, hflag, if_neg Bool.false_ne_true]
  exact ⟨(h.ran (ran_used q s)).ran (ran_classified q _),
    (hhas.used rfl).classified⟩

/-- `OnTextClassified` ends after the constructor. -/
theorem Kept.finishClassified_late (h : Kept (some q) s)
    (hhas : Has q (.alive 1 true) true s) :
    Kept none (finishClassified q s) := by
  have hflag : ((note (.used q) s).requests q).textClassified = true := hhas.2
  rw [finishClassified, hflag, if_pos rfl]
  exact ((h.ran (ran_used q s)).ran (ran_deleted q _)).release
    (hhas.used rfl).deleted

/-- It does not matter when the request to the network is kept. -/
theorem messageReturns_append (q : RequestId) (m : OwnedReq Hash)
    (s : ConversationProxy F Text Hash) :
    messageReturns q { s with inFlight := s.inFlight ++ [m] } =
      { messageReturns q s with
        inFlight := (messageReturns q s).inFlight ++ [m] } := by
  have hflag : ((note (.used q) (note (.returned q)
    { s with inFlight := s.inFlight ++ [m] })).requests q).textClassified =
      ((note (.used q) (note (.returned q) s)).requests q).textClassified := rfl
  rw [messageReturns, messageReturns, hflag]
  split
  · rfl
  · rfl

/-- `Message` has returned before the result. -/
theorem Kept.messageReturns_missing (h : Kept (some q) s)
    (hhas : Has q (.alive 0 false) false s) :
    Kept (some q) (messageReturns q s) ∧
      Has q (.alive 0 true) true (messageReturns q s) := by
  have hreturned := hhas.note (.returned q)
  rw [show (Life.alive 0 false).after q (.returned q) =
    ⟨0, 0, true, 0, true⟩ from if_pos rfl] at hreturned
  have ran_returned : Ran q s (note (.returned q) s) :=
    ran_note (.returned q) rfl nofun s
  have hflag : ((note (.used q) (note (.returned q) s)).requests
      q).textClassified = false := hhas.2
  rw [messageReturns, hflag, if_pos Bool.not_false]
  have hmissed := (hreturned.used rfl).note (.cacheMiss q)
  rw [show (⟨0, 0, true, 0, true⟩ : Life).after q (.cacheMiss q) =
    .alive 0 true from if_pos rfl] at hmissed
  have hran := (ran_returned.trans (ran_used q _)).trans
    ((ran_note (.cacheMiss q) rfl nofun _).trans (ran_classified q _))
  exact ⟨h.ran hran, hmissed.classified⟩

/-- `Message` has returned after the result. -/
theorem Kept.messageReturns_done (h : Kept (some q) s)
    (hhas : Has q (.alive 1 false) true s) :
    Kept none (messageReturns q s) := by
  have hreturned := (hhas.note (.returned q))
  rw [show (Life.alive 1 false).after q (.returned q) = .alive 1 false from
    if_pos rfl] at hreturned
  have ran_returned : Ran q s (note (.returned q) s) :=
    ran_note (.returned q) rfl nofun s
  have hflag : ((note (.used q) (note (.returned q) s)).requests
      q).textClassified = true := hhas.2
  rw [messageReturns, hflag, if_neg (by decide)]
  have hran := (ran_returned.trans (ran_used q _)).trans (ran_deleted q _)
  exact (h.ran hran).release (hreturned.used rfl).deleted

/-- The callback of a request is called for a result. -/
theorem ran_result (q : RequestId) (result : ClassifyResult)
    (s : ConversationProxy F Text Hash) :
    Ran q s { note (.result q) s with
      delivered := s.delivered ++
        if (s.requests q).callback then [(q, result)] else [] } where
  stack := rfl
  inFlight := rfl
  nextRequest := rfl
  log r hr := (life_concat r s.log _).trans (Life.after_other hr _)
  requests _ _ := rfl
  given r hr := by
    have hq : ¬q = r := fun heq => hr heq.symm
    rw [ConversationProxy.given, List.map_append, List.count_append]
    split
    · simp [ConversationProxy.given, hq]
    · simp [ConversationProxy.given]
  matched h := by
    have hlife : (life q (s.log ++ [.result q])).results =
        (life q s.log).results + 1 := by
      rw [life_concat]
      exact congrArg Life.results (if_pos rfl)
    rw [Matched, ConversationProxy.given, List.map_append, List.count_append]
    change given q s + _ ≤ (life q (s.log ++ [.result q])).results ∧
      ((s.requests q).callback = true →
        given q s + _ = (life q (s.log ++ [.result q])).results)
    rw [hlife]
    by_cases hcallback : (s.requests q).callback = true
    · rw [if_pos hcallback, h.2 hcallback]
      simp
    · rw [if_neg hcallback]
      exact ⟨Nat.le_succ_of_le h.1, fun hvalid => absurd hvalid hcallback⟩

theorem Kept.deliver (h : Kept (some q) s) (frame : Frame F Hash)
    (hframe : frame.request = q)
    (hhas : Has q (.alive 0 frame.late) frame.late s)
    (result : ClassifyResult) : Kept none (deliver q result frame s) := by
  have hresult := hhas.note (.result q)
  rw [show (Life.alive 0 frame.late).after q (.result q) =
    .alive 1 frame.late from if_pos rfl] at hresult
  exact (h.ran (ran_result q result s)).push hframe hresult

/-! ## Exceptions -/

/-- Within a function of the request `q` an exception has been thrown: `q` is
what it was. -/
structure Aborted (q : RequestId) (s t : ConversationProxy F Text Hash) :
    Prop extends Ran q s t where
  has : ∀ {l : Life} {flag : Bool}, l.deletions = 0 → Has q l flag s →
    Has q l flag t

theorem Aborted.trans {u : ConversationProxy F Text Hash}
    (hst : Aborted q s t) (htu : Aborted q t u) : Aborted q s u where
  toRan := hst.toRan.trans htu.toRan
  has hl h := htu.has hl (hst.has hl h)

theorem aborted_update (q : RequestId) (data : ProxyData)
    (service : Conversation F Text Hash) (s : ConversationProxy F Text Hash) :
    Aborted q s { s with data := data, service := service } where
  stack := rfl
  inFlight := rfl
  nextRequest := rfl
  log _ _ := rfl
  requests _ _ := rfl
  given _ _ := rfl
  matched := id
  has _ := id

theorem aborted_used (q : RequestId) (s : ConversationProxy F Text Hash) :
    Aborted q s (note (.used q) s) where
  toRan := ran_used q s
  has hl h := h.used hl

/-- A request that has given no result is lost by the exception, whether its
storage is released or not. -/
theorem Aborted.not_completes (ht : Aborted q s t) (h : Kept (some q) s)
    {late flag : Bool} (hhas : Has q (.alive 0 late) flag s) :
    ¬Completes t ∧ ¬Completes (note (.deleted q) t) := by
  have hactive : q ∉ active t := by
    rw [active, ht.stack, ht.inFlight]
    exact h.held.1
  have hbound : q < t.nextRequest := ht.nextRequest ▸ h.held.2
  have hlife := ht.has rfl hhas
  constructor
  · intro hcompletes
    have hone := (hcompletes.complete q hbound hactive).1
    rw [hlife.1] at hone
    exact Nat.zero_ne_one hone
  · intro hcompletes
    have hone := (hcompletes.complete q hbound hactive).1
    rw [(hlife.note (.deleted q)).1,
      show (Life.alive 0 late).after q (.deleted q) =
        ⟨0, 1, late, late.toNat, true⟩ from if_pos rfl] at hone
    exact Nat.zero_ne_one hone

/-! ## The response is handed on -/

/-- Where the response is a failure, the configured context can be cleared. -/
def Clearable (p : ProxyData) (response : Option (ConversationResponse F)) :
    Prop :=
  failed response = true → clear? p.context ≠ none

theorem classify_eq_none_iff {f : Framework F Text Hash} {text : TextThing}
    {response : Option (ConversationResponse F)} {p : ProxyData} :
    classify f text response p = none ↔ ¬Clearable p response := by
  unfold classify
  split
  · next r intent hintent =>
    obtain ⟨r', rfl, hhead⟩ := Option.bind_eq_some_iff.mp hintent
    obtain ⟨first, hfirst, -⟩ := Option.map_eq_some_iff.mp hhead
    have hclear : Clearable p (some r') := by simp [Clearable, failed, hfirst]
    refine iff_of_false ?_ fun h => h hclear
    dsimp only
    split
    · exact Option.some_ne_none _
    · exact Option.some_ne_none _
  · next hintent =>
    have hfailed : failed response = true := by
      cases response with
      | none => rfl
      | some r => simpa [failed] using hintent
    cases hclear : clear? p.context with
    | none => exact iff_of_true rfl fun h => h hfailed hclear
    | some context =>
        refine iff_of_false (Option.some_ne_none _) fun h => h fun _ => ?_
        rw [hclear]
        exact Option.some_ne_none _

/-- `OnTextClassified` is called. -/
theorem Kept.onTextClassified {f : Framework F Text Hash}
    {response : Option (ConversationResponse F)} {frame : Frame F Hash}
    (h : Kept (some q) s) (hclear : Clearable s.data response)
    (hframe : frame.request = q)
    (hhas : Has q (.alive 0 frame.late) frame.late s) :
    ∃ t, onTextClassified f q response frame s = .returns t ∧
      Kept none t := by
  have hsome : classify f (s.requests q).text response s.data ≠ none :=
    fun hnone => classify_eq_none_iff.mp hnone hclear
  obtain ⟨⟨result, data⟩, hclassify⟩ := Option.ne_none_iff_exists'.mp hsome
  have hused := h.ran (ran_used q s)
  refine ⟨ConversationProxy.deliver q result frame
    { ConversationProxy.note (.used q) s with data := data }, ?_,
    (hused.update data s.service).deliver frame hframe (hhas.used rfl) result⟩
  have hclassify' : classify f ((note (.used q) s).requests q).text response
      (note (.used q) s).data = some (result, data) := hclassify
  simp only [ConversationProxy.onTextClassified, hclassify']

theorem onTextClassified_throws {f : Framework F Text Hash}
    {response : Option (ConversationResponse F)} (frame : Frame F Hash)
    (hclear : ¬Clearable s.data response) :
    ∃ t, onTextClassified f q response frame s = .throws t ∧
      Aborted q s t := by
  refine ⟨note (.used q) s, ?_, aborted_used q s⟩
  have hnone : classify f ((note (.used q) s).requests q).text response
      (note (.used q) s).data = none := classify_eq_none_iff.mpr hclear
  simp only [onTextClassified, hnone]

/-- No request is sent. -/
theorem Kept.fail (h : Kept (some q) s) (hhas : Has q (.alive 0 false) false s) :
    Kept none (fail q s) :=
  (h.ran (ran_used q s)).deliver (.failed q) rfl (hhas.used rfl) _

/-- The callback of a request ceases to be valid. -/
theorem Kept.invalidate (h : Kept none s) (r : RequestId) :
    Kept none (modifyRequest r (fun x => { x with callback := false }) s) := by
  refine h.move (List.Perm.refl _) rfl rfl rfl ?_ (fun _ => Or.inl)
    fun _ hm _ => Or.inl hm
  intro q
  rw [modifyRequest_requests]
  split
  · rename_i hq
    exact ⟨hq ▸ rfl, nofun⟩
  · exact ⟨rfl, id⟩

section

variable [DecidableEq Hash] {f : Framework F Text Hash} {c : Config}
  {merge : Value → Value → Value}
  {deserialize : Value → Option (Option (ConversationResponse F))}
  {m : OwnedReq Hash} {answer : Answer F} {atOnce : Bool}

/-- Nothing that is read for an answer of the network throws: it can be cached
and handed on. -/
def Answerable (f : Framework F Text Hash) (c : Config) (m : OwnedReq Hash)
    (answer : Answer F) (s : ConversationProxy F Text Hash) : Prop :=
  cacheFor f c m answer s.service ≠ none ∧ Clearable s.data answer.response

/-- What `Message` has at once can be handed on: the response that it has found
in the cache, or else the answer of the network. -/
def Deliverable (f : Framework F Text Hash) (c : Config) (m : OwnedReq Hash)
    (answer : Option (Answer F)) (s : ConversationProxy F Text Hash) :
    Option (ConversationResponse F) → Prop
  | some response => Clearable s.data (some response)
  | none => ∀ x, answer = some x → Answerable f c m x s

/-- Nothing that is read on the way to a callback throws: the contexts and the
cache in `ClassifyText`, and what an answer is cached and handed on with, if a
callback waits for it. -/
def Readable (f : Framework F Text Hash) (c : Config)
    (merge : Value → Value → Value)
    (deserialize : Value → Option (Option (ConversationResponse F)))
    (s : ConversationProxy F Text Hash) : Event F → Prop
  | .classifyText a => a.serviceThere = true →
      ∃ merged, mergeContext merge a s.data = some merged ∧
        (0 < (begun a merged s.data).workspaceId.length →
          ∃ m found, prepare f deserialize s.nextRequest a
              (begun a merged s.data) s.service = some (m, found) ∧
            Deliverable f c m a.answer s found)
  | .response n answer => ∀ m, s.inFlight[n]? = some m →
      m.req.callback = true → Answerable f c m answer s
  | .callbackReturns | .invalidate _ => True

/-! ## The network answers -/

theorem onResponse_throws (hcache : cacheFor f c m answer s.service = none) :
    onResponse f c m answer atOnce s = .throws s := by
  rw [onResponse, hcache]

theorem onResponse_eq (atOnce : Bool) {items : Option (List Value)}
    (hcache : cacheFor f c m answer s.service = some items) :
    ∃ service, onResponse f c m answer atOnce s =
      if m.req.callback then
        onTextClassified f m.owner answer.response (.answered m.owner atOnce)
          { s with service := service }
      else .returns
        (finishResponse m.owner atOnce { s with service := service }) := by
  rw [onResponse, hcache]
  exact ⟨_, rfl⟩

/-- An answer that a callback waits for is handed on. -/
theorem Kept.onResponse (atOnce : Bool) (h : Kept (some m.owner) s)
    (hanswer : Answerable f c m answer s) (hcallback : m.req.callback = true)
    (hhas : Has m.owner (.alive 0 !atOnce) (!atOnce) s) :
    ∃ t, onResponse f c m answer atOnce s = .returns t ∧ Kept none t := by
  obtain ⟨items, hitems⟩ := Option.ne_none_iff_exists'.mp hanswer.1
  obtain ⟨service, heq⟩ := onResponse_eq atOnce hitems
  rw [heq, if_pos hcallback]
  exact (h.update s.data service).onTextClassified hanswer.2 rfl hhas

/-- If something throws before, the request is lost. -/
theorem onResponse_aborted (atOnce : Bool)
    (hanswer : ¬Answerable f c m answer s) (hcallback : m.req.callback = true) :
    ∃ t, onResponse f c m answer atOnce s = .throws t ∧
      Aborted m.owner s t := by
  cases hcache : cacheFor f c m answer s.service with
  | none =>
      exact ⟨s, onResponse_throws hcache,
        aborted_update m.owner s.data s.service s⟩
  | some items =>
      have hclear : ¬Clearable s.data answer.response := fun hclear =>
        hanswer ⟨by rw [hcache]; exact Option.some_ne_none items, hclear⟩
      obtain ⟨service, heq⟩ := onResponse_eq atOnce hcache
      rw [heq, if_pos hcallback]
      obtain ⟨t, ht, haborted⟩ :=
        onTextClassified_throws (f := f) (q := m.owner)
          (s := { s with service := service }) (.answered m.owner atOnce)
          hclear
      exact ⟨t, ht, (aborted_update m.owner s.data service s).trans haborted⟩

/-- No callback waits for the answer: it is cached, or that throws. -/
theorem onResponse_silent (f : Framework F Text Hash) (c : Config)
    (answer : Answer F) (atOnce : Bool) (s : ConversationProxy F Text Hash)
    (hcallback : m.req.callback = false) :
    onResponse f c m answer atOnce s = .throws s ∨
      ∃ service, onResponse f c m answer atOnce s =
        .returns
          (finishResponse m.owner atOnce { s with service := service }) := by
  cases hcache : cacheFor f c m answer s.service with
  | none => exact Or.inl (onResponse_throws hcache)
  | some items =>
      obtain ⟨service, heq⟩ := onResponse_eq atOnce hcache
      rw [heq, hcallback, if_neg Bool.false_ne_true]
      exact Or.inr ⟨service, rfl⟩

/-! ## The network is asked -/

/-- The network answers at once, or later. -/
theorem Kept.sendRequest (h : Kept (some m.owner) s)
    (hcallback : m.req.callback = true) {answer : Option (Answer F)}
    (hanswer : ∀ x, answer = some x → Answerable f c m x s)
    (hhas : Has m.owner (.alive 0 false) false s) :
    ∃ t, sendRequest f c m answer s = .returns t ∧ Kept none t := by
  cases answer with
  | none =>
      obtain ⟨h, hhas⟩ := h.messageReturns_missing hhas
      refine ⟨_, rfl, ?_⟩
      rw [messageReturns_append]
      refine Kept.enqueue ?_ fun _ => hhas
      rw [if_pos hcallback]
      exact h
  | some x => exact h.onResponse true (hanswer x rfl) hcallback hhas

/-- The request has its result from the cache already.  An exception releases
it, as the end of its constructor does. -/
theorem Kept.sendRequest_silent (h : Kept (some m.owner) s)
    (hcallback : m.req.callback = false) (answer : Option (Answer F))
    (hhas : Has m.owner (.alive 1 false) true s) :
    Kept none
      (constructed m.owner (ConversationProxy.sendRequest f c m answer s)) := by
  cases answer with
  | none =>
      change Kept none
        (messageReturns m.owner { s with inFlight := s.inFlight ++ [m] })
      rw [messageReturns_append]
      refine Kept.enqueue ?_ fun hvalid => ?_
      · rw [hcallback, if_neg Bool.false_ne_true]
        exact h.messageReturns_done hhas
      · rw [hcallback] at hvalid
        cases hvalid
  | some x =>
      change Kept none
        (constructed m.owner (ConversationProxy.onResponse f c m x true s))
      rcases onResponse_silent f c x true s hcallback with
        heq | ⟨service, heq⟩
      · rw [heq]
        exact (h.ran (ran_deleted m.owner s)).release hhas.deleted
      · rw [heq]
        exact (h.update s.data service).messageReturns_done hhas

/-! ## A text is classified -/

omit [DecidableEq Hash] in
theorem prepare_eq_some {a : ClassifyArgs F} {p : ProxyData}
    {service : Conversation F Text Hash}
    {found : Option (ConversationResponse F)}
    (h : prepare f deserialize q a p service = some (m, found)) :
    m.owner = q ∧ m.req.callback = true := by
  obtain ⟨input, -, h⟩ := Option.bind_eq_some_iff.mp h
  obtain ⟨body, -, h⟩ := Option.bind_eq_some_iff.mp h
  obtain ⟨found', -, h⟩ := Option.bind_eq_some_iff.mp h
  obtain ⟨rfl, -⟩ := Prod.mk.inj (Option.some.inj h)
  exact ⟨rfl, rfl⟩

/-- The state in which the constructor of a request has been entered. -/
def entered (a : ClassifyArgs F) (s : ConversationProxy F Text Hash) :
    ConversationProxy F Text Hash :=
  note (.used s.nextRequest)
    (modifyRequest s.nextRequest (fun _ => ⟨a.text, a.callback, false⟩)
      { s with nextRequest := s.nextRequest + 1 })

omit [DecidableEq Hash] in
theorem Kept.entered (h : Kept none s) (a : ClassifyArgs F) :
    Kept (some s.nextRequest) (entered a s) ∧
      Has s.nextRequest (.alive 0 false) false (entered a s) := by
  have hhas : Has s.nextRequest (.alive 0 false) false
      (modifyRequest s.nextRequest (fun _ => ⟨a.text, a.callback, false⟩)
        { s with nextRequest := s.nextRequest + 1 }) := by
    rw [Has, modifyRequest_requests, if_pos rfl]
    exact ⟨h.fresh s.nextRequest (Nat.le_refl _), rfl⟩
  exact ⟨(h.create ⟨a.text, a.callback, false⟩).ran
    (ran_used s.nextRequest _), hhas.used rfl⟩

/-- What the constructor does then: it merges the contexts, and calls `Message`
if there is a workspace. -/
theorem classifyText_eq (a : ClassifyArgs F)
    (s : ConversationProxy F Text Hash) :
    classifyText f c merge deserialize a s =
      if a.serviceThere then
        match mergeContext merge a s.data with
        | none => note (.deleted s.nextRequest) { entered a s with data :=
            { s.data with mergedContext := mergeAll merge a s.data } }
        | some merged =>
            if 0 < (begun a merged s.data).workspaceId.length then
              constructed s.nextRequest (message f c deserialize s.nextRequest a
                { entered a s with data := begun a merged s.data })
            else fail s.nextRequest
              { entered a s with data := begun a merged s.data }
      else fail s.nextRequest (entered a s) := rfl

theorem Kept.classifyText {a : ClassifyArgs F} (h : Kept none s)
    (hC : Readable f c merge deserialize s (.classifyText a)) :
    Kept none (classifyText f c merge deserialize a s) := by
  obtain ⟨h, hhas⟩ := h.entered a
  rw [classifyText_eq]
  by_cases hthere : a.serviceThere = true
  · obtain ⟨merged, hmerged, hC⟩ := hC hthere
    rw [if_pos hthere, hmerged]
    dsimp only
    let u : ConversationProxy F Text Hash :=
      { ConversationProxy.entered a s with data := begun a merged s.data }
    have hbegun : Kept (some s.nextRequest) u := h.update _ s.service
    by_cases hlen : 0 < (begun a merged s.data).workspaceId.length
    · obtain ⟨m, found, hprepare, hC⟩ := hC hlen
      obtain ⟨howner, hcallback⟩ := prepare_eq_some hprepare
      rw [if_pos hlen]
      have hmessage : ∃ t, message f c deserialize s.nextRequest a
          u = .returns t ∧ Kept none t := by
        rw [message]
        have hprepare' : prepare f deserialize s.nextRequest a u.data
            u.service = some (m, found) := hprepare
        rw [hprepare']
        cases found with
        | some response =>
            exact (hbegun.update _ _).onTextClassified hC howner hhas
        | none =>
            rw [← howner] at hbegun hhas
            exact Kept.sendRequest hbegun hcallback hC hhas
      obtain ⟨t, ht, hkept⟩ := hmessage
      rw [ht]
      exact hkept
    · rw [if_neg hlen]
      exact hbegun.fail hhas
  · rw [if_neg hthere]
    exact h.fail hhas

/-- If something throws, the constructor is left without a result. -/
theorem not_completes_classifyText {a : ClassifyArgs F} (h : Kept none s)
    (hC : ¬Readable f c merge deserialize s (.classifyText a)) :
    ¬Completes (classifyText f c merge deserialize a s) := by
  obtain ⟨h, hhas⟩ := h.entered a
  obtain ⟨hthere, hC⟩ := Classical.not_imp.mp hC
  rw [classifyText_eq, if_pos hthere]
  cases hmerged : mergeContext merge a s.data with
  | none =>
      exact ((aborted_update s.nextRequest _ s.service
        (entered a s)).not_completes h hhas).2
  | some merged =>
      dsimp only
      rw [hmerged] at hC
      by_cases hlen : 0 < (begun a merged s.data).workspaceId.length
      · rw [if_pos hlen]
        let u : ConversationProxy F Text Hash :=
          { entered a s with data := begun a merged s.data }
        have hu : Aborted s.nextRequest (entered a s) u :=
          aborted_update s.nextRequest _ s.service (entered a s)
        suffices hmessage : ∃ t, message f c deserialize s.nextRequest a u =
            .throws t ∧ Aborted s.nextRequest u t by
          obtain ⟨t, ht, haborted⟩ := hmessage
          rw [ht]
          exact ((hu.trans haborted).not_completes h hhas).2
        rw [message]
        cases hprepare : prepare f deserialize s.nextRequest a u.data
            u.service with
        | none =>
            exact ⟨u, rfl, aborted_update s.nextRequest u.data u.service u⟩
        | some prepared =>
            obtain ⟨m, found⟩ := prepared
            obtain ⟨howner, hcallback⟩ := prepare_eq_some hprepare
            have hnot : ¬Deliverable f c m a.answer s found :=
              fun hfound => hC ⟨merged, rfl, fun _ => ⟨m, found, hprepare,
                hfound⟩⟩
            cases found with
            | some response =>
                obtain ⟨t, ht, haborted⟩ :=
                  onTextClassified_throws (f := f) (q := s.nextRequest)
                    (s := { u with service := { u.service with
                      fromCache := u.service.fromCache ++
                        [⟨m.req.workspaceId, m.req.input, response⟩] } })
                    (.hit m a.answer) hnot
                exact ⟨t, ht,
                  (aborted_update s.nextRequest u.data _ u).trans haborted⟩
            | none =>
                obtain ⟨answer, hanswer⟩ := not_forall.mp hnot
                obtain ⟨heq, hanswer⟩ := Classical.not_imp.mp hanswer
                have hnotAnswer : ¬Answerable f c m answer u := hanswer
                have hsend : sendRequest f c m a.answer u =
                    onResponse f c m answer true u := by
                  rw [heq]
                  rfl
                dsimp only
                rw [hsend, ← howner]
                exact onResponse_aborted true hnotAnswer hcallback
      · exact absurd ⟨merged, rfl, fun h => absurd h hlen⟩ hC

/-! ## Steps -/

theorem Kept.callbackReturns (h : Kept none s)
    (ht : callbackReturns f c s = some t) : Kept none t := by
  unfold ConversationProxy.callbackReturns at ht
  cases hstack : s.stack with
  | nil =>
      rw [hstack] at ht
      cases ht
  | cons frame rest =>
      obtain ⟨h, hhas⟩ := h.pop hstack
      rw [hstack] at ht
      cases frame with
      | failed r =>
          obtain rfl := Option.some.inj ht
          exact (h.ran (ran_deleted r _)).release hhas.deleted
      | hit m answer =>
          obtain rfl := Option.some.inj ht
          obtain ⟨h, hhas⟩ := h.finishClassified_early hhas
          exact Kept.sendRequest_silent
            (m := { m with req := { m.req with callback := false } }) h rfl
            answer hhas
      | answered r atOnce =>
          obtain rfl := Option.some.inj ht
          cases atOnce with
          | true =>
              obtain ⟨h, hhas⟩ := h.finishClassified_early hhas
              exact h.messageReturns_done hhas
          | false => exact h.finishClassified_late hhas

/-- The network answers later. -/
theorem step_response {n : ℕ}
    (ht : step f c merge deserialize s (.response n answer) = some t) :
    ∃ m, s.inFlight[n]? = some m ∧
      t = (onResponse f c m answer false
        { s with inFlight := s.inFlight.eraseIdx n }).state := by
  obtain ⟨-, ht⟩ := Option.ite_none_right_eq_some.mp ht
  obtain ⟨m, hm, rfl⟩ := Option.map_eq_some_iff.mp ht
  exact ⟨m, hm, rfl⟩

theorem Kept.step {e : Event F} (h : Kept none s)
    (hC : Readable f c merge deserialize s e)
    (ht : step f c merge deserialize s e = some t) : Kept none t := by
  cases e with
  | classifyText a =>
      obtain rfl := Option.some.inj ht
      exact h.classifyText hC
  | callbackReturns => exact h.callbackReturns ht
  | response n answer =>
      obtain ⟨m, hm, rfl⟩ := step_response ht
      have hdequeue := h.dequeue hm
      by_cases hcallback : m.req.callback = true
      · have hhas := h.waiting m (List.mem_of_getElem? hm) hcallback
        rw [if_pos hcallback] at hdequeue
        obtain ⟨t, ht, hkept⟩ :=
          hdequeue.onResponse false (hC m hm hcallback) hcallback hhas
        rw [ht]
        exact hkept
      · rw [if_neg hcallback] at hdequeue
        rcases onResponse_silent f c answer false
          { s with inFlight := s.inFlight.eraseIdx n }
          (Bool.eq_false_of_not_eq_true hcallback) with heq | ⟨service, heq⟩
        · rw [heq]
          exact hdequeue
        · rw [heq]
          exact hdequeue.update s.data service
  | invalidate r =>
      obtain rfl := Option.some.inj ht
      exact h.invalidate r

/-- A step on which something throws loses a request. -/
theorem Kept.not_completes {e : Event F} (h : Kept none s)
    (hC : ¬Readable f c merge deserialize s e)
    (ht : ConversationProxy.step f c merge deserialize s e = some t) :
    ¬Completes t := by
  cases e with
  | classifyText a =>
      obtain rfl := Option.some.inj ht
      exact not_completes_classifyText h hC
  | callbackReturns => exact absurd trivial hC
  | response n answer =>
      obtain ⟨m, hm, rfl⟩ := step_response ht
      simp only [Readable, not_forall] at hC
      obtain ⟨m', hm', hcallback, hanswer⟩ := hC
      obtain rfl := Option.some.inj (hm.symm.trans hm')
      have hdequeue := h.dequeue hm
      rw [if_pos hcallback] at hdequeue
      have hhas := h.waiting m (List.mem_of_getElem? hm) hcallback
      obtain ⟨t, ht, haborted⟩ := onResponse_aborted
        (s := { s with inFlight := s.inFlight.eraseIdx n }) false hanswer
        hcallback
      rw [ht]
      exact (haborted.not_completes hdequeue hhas).1
  | invalidate r => exact absurd trivial hC

/-! ## All runs -/

/-- Whatever the network, the cache and the callbacks do, each request gives
exactly one result and is deleted exactly once, precisely in the runs in which
nothing throws on the way to a callback. -/
theorem completes_iff (f : Framework F Text Hash) (c : Config)
    (merge : Value → Value → Value)
    (deserialize : Value → Option (Option (ConversationResponse F)))
    (data : ProxyData) (service : Conversation F Text Hash)
    (es : List (Event F)) :
    Throughout (step f c merge deserialize) Completes (new data service) es ↔
      EachStep (step f c merge deserialize) (Readable f c merge deserialize)
        (new data service) es :=
  throughout_iff_eachStep (I := Kept none) (L := fun _ _ => True)
    (fun _ h => h.completes) (fun _ _ _ h _ hC ht => h.step hC ht)
    (fun _ _ _ h _ hC ht => h.not_completes hC ht) (kept_new data service)
    (eachStep_true _ es)

/-- A tagged response whose context has a text in the place of the system object
cannot be cached: its request waits for ever. -/
theorem not_completes_tagged :
    let data : ProxyData :=
      ⟨"Self", "", .object [], .object [], true, "", false, false, []⟩
    let a : ClassifyArgs ℚ :=
      ⟨⟨"hi", .null, .null⟩, true, true, none, 0, .array [], true, 0, none⟩
    let response : ConversationResponse ℚ :=
      { Conversation.greeting "Hello! [cache]" with
        context := .object [("system", .string "none")] }
    ¬Throughout (step .exact ⟨"[cache]", 1⟩ (fun merged _ => merged)
        fun v => (ConversationResponse.ofJson .exact v).map some)
      Completes (new data Conversation.new)
      [.classifyText a, .response 0 ⟨some response, 0, true⟩] := by
  intro data a response h
  have hrun : (run (step .exact ⟨"[cache]", 1⟩ (fun merged _ => merged)
        fun v => (ConversationResponse.ofJson .exact v).map some)
      (new data Conversation.new)
      [.classifyText a, .response 0 ⟨some response, 0, true⟩]).map
        (fun s => (s.nextRequest, s.log, active s)) =
      some (1, [.used 0, .returned 0, .used 0, .cacheMiss 0], []) := by
    decide +kernel
  obtain ⟨t, ht, hobs⟩ := h.last hrun
  simp only [Prod.mk.injEq] at hobs
  obtain ⟨hnext, hlog, hactive⟩ := hobs
  have hbound : 0 < t.nextRequest := hnext ▸ Nat.one_pos
  have hone := (ht.complete 0 hbound (by simp [hactive])).1
  rw [hlog] at hone
  exact absurd hone (by decide)

end

end ConversationProxy

end SelfPlugins.Watson
