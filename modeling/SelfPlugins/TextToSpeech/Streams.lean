import SelfPlugins.Framework.Json
import SelfPlugins.Framework.WebClient
import SelfPlugins.Library.Runs
import Mathlib.Data.List.Basic

/-!
# Streams of the text-to-speech service

The streaming `TextToSpeech::ToSound`: its connections, what their web sockets
report, and the calls of the stream callbacks.  A stream is ended by a call
with NULL.  That call is made by `ToSound` when `Send()` fails, and by every
`CLOSED` or `DISCONNECTED` notification.

`wellTerminated_iff` says when the streams are ended once and for all: nothing
may happen to a call after its stream has been ended, neither another end, nor
a frame, nor the return of `Send()`.
-/

namespace SelfPlugins.Tts

open Runs
open Json (Value)

/-- What the connections use of the JSON library: the strict reader and the
printer of floating-point numbers. -/
structure Reader (Data : Type) where
  parse : Data → Option Value
  realText : ℚ → String

structure Words where
  word : String
  startTime : ℚ
  endTime : ℚ
deriving DecidableEq

/-- A frame of a web socket by its opcode. -/
inductive Frame (Data : Type) where
  | text (data : Data)
  | binary (data : Data)
  | other
deriving DecidableEq

/-- A `TextToSpeech::Connection`; the callbacks are told by whether they are
valid.  `sending` is set while `Start` is inside of `Send()`, `sent` are the
texts sent and `received` the calls of the stream callback, `none` standing
for NULL.  The last two fields say what the socket has done: the contents of
its binary frames, and whether `Send()` has failed or a `CLOSED` or
`DISCONNECTED` notification has been handled. -/
structure Connection (Data : Type) where
  text : String
  callback : Bool
  wordsCallback : Bool
  sending : Bool
  sent : List Value
  received : List (Option Data)
  words : List Words
  frames : List Data
  gone : Bool
deriving DecidableEq

/-- The connections are numbered in the order of the calls that made them;
`connections` is `m_Connections`. -/
structure TextToSpeech (Data : Type) where
  calls : List (Connection Data)
  connections : List ℕ
deriving DecidableEq

variable {Data : Type}

namespace Connection

/-- A connection whose `Start` has called `Send()`. -/
def start (text : String) (callback wordsCallback : Bool) :
    Connection Data where
  text := text
  callback := callback
  wordsCallback := wordsCallback
  sending := true
  sent := []
  received := []
  words := []
  frames := []
  gone := false

/-- A call of the stream callback; one that is not valid reaches nobody. -/
def call (data : Option Data) (c : Connection Data) : Connection Data :=
  if c.callback then { c with received := c.received ++ [data] } else c

/-- A call with the contents of a binary frame. -/
def chunk (data : Data) (c : Connection Data) : Connection Data :=
  { c.call (some data) with frames := c.frames ++ [data] }

/-- A call with NULL. -/
def ended (c : Connection Data) : Connection Data :=
  { c.call none with gone := true }

/-- What `Start` sends to the service. -/
def request (c : Connection Data) : Value :=
  .object [("accept", .string "audio/wav"), ("text", .string c.text),
    ("timings", .array [.string "words"])]

/-- `Send()` returns. -/
def sendReturns (ok : Bool) (c : Connection Data) : Connection Data :=
  if ok then { c with sending := false, sent := c.sent ++ [c.request] }
  else { c.ended with sending := false }

/-- The words in `json["words"][0]`. -/
def readWords (f : Reader Data) (json : Value) : Option Words := do
  let value ← (← json.get? "words").at? 0
  let word ← (← value.at? 0).asString? f.realText
  let startTime ← (← value.at? 1).asDouble?
  let endTime ← (← value.at? 2).asDouble?
  return ⟨word, startTime, endTime⟩

/-- `OnListenMessage`; `none` is an exception, which ends it before the callback
is called. -/
def onListenMessage (f : Reader Data) (frame : Frame Data)
    (c : Connection Data) : Option (Connection Data) :=
  match frame with
  | .text data =>
      match f.parse data with
      | none => some c
      | some json => do
          if (← json.isMember? "words") && c.wordsCallback then
            let words ← readWords f json
            return { c with words := c.words ++ [words] }
          else return c
  | .binary data => some (c.chunk data)
  | .other => some c

/-- `OnListenState` as far as the connection itself goes. -/
def onListenState (st : ClientState) (c : Connection Data) :
    Connection Data :=
  if st.isDown then c.ended else c

end Connection

namespace TextToSpeech

def new : TextToSpeech Data := ⟨[], []⟩

/-! ## Steps -/

/-- `ToSound` up to the call of `Send()`. -/
def toSound (text : String) (callback wordsCallback : Bool)
    (s : TextToSpeech Data) : TextToSpeech Data :=
  { s with calls := s.calls ++ [.start text callback wordsCallback] }

/-- The rest of `ToSound`. -/
def sendReturns (i : ℕ) (ok : Bool) (c : Connection Data)
    (s : TextToSpeech Data) : TextToSpeech Data where
  calls := s.calls.set i (c.sendReturns ok)
  connections := if ok then s.connections ++ [i] else s.connections

def onListenState (i : ℕ) (st : ClientState) (c : Connection Data)
    (s : TextToSpeech Data) : TextToSpeech Data where
  calls := s.calls.set i (c.onListenState st)
  connections :=
    if st.isDown then s.connections.filter fun j => j ≠ i else s.connections

/-- `ToSound` is called; the socket of a connection delivers a frame or a
notification, inside of `Send()` or later; `Send()` returns. -/
inductive Event (Data : Type) where
  | toSound (text : String) (callback wordsCallback : Bool)
  | frame (i : ℕ) (frame : Frame Data)
  | notify (i : ℕ) (st : ClientState)
  | sendReturns (i : ℕ) (ok : Bool)
deriving DecidableEq

def step (f : Reader Data) (s : TextToSpeech Data) :
    Event Data → Option (TextToSpeech Data)
  | .toSound text callback wordsCallback =>
      some (toSound text callback wordsCallback s)
  | .frame i frame =>
      s.calls[i]?.map fun c =>
        { s with calls := s.calls.set i ((c.onListenMessage f frame).getD c) }
  | .notify i st => s.calls[i]?.map fun c => onListenState i st c s
  | .sendReturns i ok =>
      s.calls[i]?.bind fun c =>
        if c.sending then some (sendReturns i ok c s) else none

/-! ## Ended streams -/

/-- The contents of the binary frames in order, and NULL once at the end if
the socket is gone. -/
def Terminated (c : Connection Data) : Prop :=
  c.received = c.frames.map some ++ if c.gone then [none] else []

/-- The promise for one call: its stream is well terminated, and once it has
been ended the connection is not in the list. -/
def Kept (connections : List ℕ) (i : ℕ) (c : Connection Data) : Prop :=
  c.callback = true →
    Terminated c ∧ (c.gone = true → i ∉ connections)

/-- The promise for all calls. -/
def WellTerminated (s : TextToSpeech Data) : Prop :=
  ∀ i c, s.calls[i]? = some c → Kept s.connections i c

/-- The call that an event ends, or hands audio to, or adds to the list. -/
def Event.touches : Event Data → Option ℕ
  | .toSound _ _ _ => none
  | .frame i (.binary _) => some i
  | .frame _ (.text _) => none
  | .frame _ .other => none
  | .notify i st => if st.isDown then some i else none
  | .sendReturns i _ => some i

/-- Nothing of the kind happens to a call whose stream has been ended. -/
def NotAfterEnd (s : TextToSpeech Data) (e : Event Data) : Prop :=
  ∀ i, e.touches = some i → ∀ c, s.calls[i]? = some c → c.callback = true →
    c.gone = false

/-! ## What one event does to a stream -/

theorem call_callback (data : Option Data) (c : Connection Data) :
    (c.call data).callback = c.callback := by
  rw [Connection.call]
  split <;> rfl

theorem call_sending (data : Option Data) (c : Connection Data) :
    (c.call data).sending = c.sending := by
  rw [Connection.call]
  split <;> rfl

theorem call_frames (data : Option Data) (c : Connection Data) :
    (c.call data).frames = c.frames := by
  rw [Connection.call]
  split <;> rfl

theorem call_gone (data : Option Data) (c : Connection Data) :
    (c.call data).gone = c.gone := by
  rw [Connection.call]
  split <;> rfl

theorem call_received (data : Option Data) {c : Connection Data}
    (hvalid : c.callback = true) :
    (c.call data).received = c.received ++ [data] := by
  rw [Connection.call, if_pos hvalid]

@[simp] theorem chunk_callback (data : Data) (c : Connection Data) :
    (c.chunk data).callback = c.callback := call_callback _ c

@[simp] theorem chunk_gone (data : Data) (c : Connection Data) :
    (c.chunk data).gone = c.gone := call_gone _ c

@[simp] theorem chunk_sending (data : Data) (c : Connection Data) :
    (c.chunk data).sending = c.sending := call_sending _ c

@[simp] theorem ended_callback (c : Connection Data) :
    c.ended.callback = c.callback := call_callback _ c

@[simp] theorem ended_sending (c : Connection Data) :
    c.ended.sending = c.sending := call_sending _ c

/-- A chunk is right only before the end. -/
theorem terminated_chunk_iff {c : Connection Data} (data : Data)
    (hvalid : c.callback = true) (hc : Terminated c) :
    Terminated (c.chunk data) ↔ c.gone = false := by
  rw [Terminated] at hc
  rw [Terminated, Connection.chunk, call_received _ hvalid, call_gone, hc]
  cases hgone : c.gone with
  | false => simp
  | true => simp

/-- Ending a stream is right only the first time. -/
theorem terminated_ended_iff {c : Connection Data} (hvalid : c.callback = true)
    (hc : Terminated c) : Terminated c.ended ↔ c.gone = false := by
  rw [Terminated] at hc
  rw [Terminated, Connection.ended, call_received _ hvalid, call_frames, hc]
  cases hgone : c.gone with
  | false => simp
  | true => simp

/-- Handling words changes nothing that matters to the stream, nor does an
exception. -/
theorem onListenMessage_text (f : Reader Data) (data : Data)
    (c : Connection Data) :
    ∃ words, (c.onListenMessage f (.text data)).getD c =
      { c with words := words } := by
  cases h : c.onListenMessage f (.text data) with
  | none => exact ⟨c.words, rfl⟩
  | some c' =>
      simp only [Connection.onListenMessage] at h
      split at h
      · cases h
        exact ⟨c.words, rfl⟩
      · obtain ⟨member, -, h⟩ := Option.bind_eq_some_iff.mp h
        split at h
        · obtain ⟨words, -, h⟩ := Option.bind_eq_some_iff.mp h
          cases h
          exact ⟨_, rfl⟩
        · cases h
          exact ⟨c.words, rfl⟩

/-- The promise for a frame. -/
theorem kept_onListenMessage (f : Reader Data) (frame : Frame Data)
    {connections : List ℕ} {i : ℕ} {c : Connection Data}
    (hc : Kept connections i c) :
    Kept connections i ((c.onListenMessage f frame).getD c) ↔
      ((Event.frame i frame).touches = some i → c.callback = true →
        c.gone = false) := by
  cases frame with
  | text data =>
      obtain ⟨words, heq⟩ := onListenMessage_text f data c
      rw [heq]
      exact iff_of_true hc nofun
  | binary data =>
      simp only [Connection.onListenMessage, Option.getD_some, Kept,
        chunk_callback, chunk_gone, Event.touches, forall_const]
      refine forall_congr' fun hvalid => ?_
      obtain ⟨hterminated, hremoved⟩ := hc hvalid
      rw [terminated_chunk_iff data hvalid hterminated]
      exact and_iff_left hremoved
  | other => exact iff_of_true hc nofun

/-- The promise for a notification. -/
theorem kept_onListenState {st : ClientState} {i : ℕ} {c : Connection Data}
    {s : TextToSpeech Data} (hc : Kept s.connections i c) :
    Kept (onListenState i st c s).connections i (c.onListenState st) ↔
      (Event.touches (.notify i st : Event Data) = some i →
        c.callback = true → c.gone = false) := by
  rw [onListenState, Connection.onListenState, Event.touches]
  cases hdown : st.isDown with
  | false => exact iff_of_true hc nofun
  | true =>
      simp only [if_true, Kept, ended_callback, forall_const]
      refine forall_congr' fun hvalid => ?_
      rw [terminated_ended_iff hvalid (hc hvalid).1]
      exact and_iff_left (by simp)

/-- The promise for the return of `Send()`, before which the connection is not
in the list. -/
theorem kept_sendReturns {ok : Bool} {i : ℕ} {c : Connection Data}
    {s : TextToSpeech Data} (hc : Kept s.connections i c)
    (hnew : i ∉ s.connections) :
    Kept (sendReturns i ok c s).connections i (c.sendReturns ok) ↔
      (c.callback = true → c.gone = false) := by
  rw [sendReturns, Connection.sendReturns]
  cases ok with
  | false =>
      rw [Kept]
      simp only [Bool.false_eq_true, if_false, ended_callback]
      refine forall_congr' fun hvalid => ?_
      rw [← terminated_ended_iff hvalid (hc hvalid).1]
      exact and_iff_left fun _ => hnew
  | true =>
      rw [Kept]
      simp only [if_true]
      refine forall_congr' fun hvalid => ?_
      constructor
      · rintro ⟨-, hremoved⟩
        by_contra hgone
        exact hremoved (by simpa using hgone) (by simp)
      · intro hgone
        exact ⟨(hc hvalid).1, fun h => by cases hgone.symm.trans h⟩

/-! ## Runs -/

/-- The connections in the list are ones whose `Send()` has returned. -/
def Listed (s : TextToSpeech Data) : Prop :=
  ∀ i ∈ s.connections, ∃ c, s.calls[i]? = some c ∧ c.sending = false

/-- An event of one connection leaves the others to themselves. -/
theorem wellTerminated_set {s t : TextToSpeech Data} {i : ℕ}
    {c c' : Connection Data} (hs : WellTerminated s)
    (hc : s.calls[i]? = some c) (hcalls : t.calls = s.calls.set i c')
    (hconnections : ∀ j ≠ i, j ∈ t.connections → j ∈ s.connections) :
    WellTerminated t ↔ Kept t.connections i c' := by
  have hi : i < s.calls.length := (List.getElem?_eq_some_iff.mp hc).1
  constructor
  · intro ht
    exact ht i c' (by rw [hcalls, List.getElem?_set_self hi])
  · intro hkept j d hd
    rw [hcalls] at hd
    by_cases hij : i = j
    · subst hij
      rw [List.getElem?_set_self hi, Option.some.injEq] at hd
      exact hd ▸ hkept
    · rw [List.getElem?_set_ne hij] at hd
      intro hvalid
      obtain ⟨hterminated, hremoved⟩ := hs j d hd hvalid
      exact ⟨hterminated, fun hgone hmem =>
        hremoved hgone (hconnections j (fun h => hij h.symm) hmem)⟩

theorem listed_set {s t : TextToSpeech Data} {i : ℕ} {c c' : Connection Data}
    (hs : Listed s) (hc : s.calls[i]? = some c)
    (hcalls : t.calls = s.calls.set i c')
    (hconnections : ∀ j ≠ i, j ∈ t.connections → j ∈ s.connections)
    (hi : i ∈ t.connections → c'.sending = false) : Listed t := by
  have hlt : i < s.calls.length := (List.getElem?_eq_some_iff.mp hc).1
  intro j hj
  rw [hcalls]
  by_cases hij : i = j
  · subst hij
    exact ⟨c', List.getElem?_set_self hlt, hi hj⟩
  · rw [List.getElem?_set_ne hij]
    exact hs j (hconnections j (fun h => hij h.symm) hj)

theorem Listed.sending {s : TextToSpeech Data} (hs : Listed s) {i : ℕ}
    {c : Connection Data} (hc : s.calls[i]? = some c)
    (hi : i ∈ s.connections) : c.sending = false := by
  obtain ⟨d, hd, hdone⟩ := hs i hi
  obtain rfl : c = d := Option.some.inj (hc.symm.trans hd)
  exact hdone

theorem onListenMessage_sending (f : Reader Data) (frame : Frame Data)
    (c : Connection Data) :
    ((c.onListenMessage f frame).getD c).sending = c.sending := by
  cases frame with
  | text data =>
      obtain ⟨words, heq⟩ := onListenMessage_text f data c
      rw [heq]
  | binary data => exact chunk_sending data c
  | other => rfl

theorem onListenState_sending (st : ClientState) (c : Connection Data) :
    (c.onListenState st).sending = c.sending := by
  rw [Connection.onListenState]
  split
  · exact ended_sending c
  · rfl

theorem sendReturns_sending (ok : Bool) (c : Connection Data) :
    (c.sendReturns ok).sending = false := by
  cases ok <;> rfl

/-- An event of one connection adds or removes no other one. -/
theorem mem_of_mem_onListenState {i j : ℕ} {st : ClientState}
    {c : Connection Data} {s : TextToSpeech Data}
    (h : j ∈ (onListenState i st c s).connections) : j ∈ s.connections := by
  rw [onListenState] at h
  split at h
  · exact List.mem_of_mem_filter h
  · exact h

theorem mem_of_mem_sendReturns {i j : ℕ} {ok : Bool} {c : Connection Data}
    {s : TextToSpeech Data} (hj : j ≠ i)
    (h : j ∈ (sendReturns i ok c s).connections) : j ∈ s.connections := by
  rw [sendReturns] at h
  split at h
  · rcases List.mem_append.mp h with h | h
    · exact h
    · exact absurd (List.mem_singleton.mp h) hj
  · exact h

/-- The list is right after every step. -/
theorem listed_step {f : Reader Data} {s t : TextToSpeech Data}
    {e : Event Data} (ht : step f s e = some t) (hs : Listed s) :
    Listed t := by
  cases e with
  | toSound text callback wordsCallback =>
      cases ht
      intro i hi
      obtain ⟨c, hc, hdone⟩ := hs i hi
      have hlt : i < s.calls.length := (List.getElem?_eq_some_iff.mp hc).1
      exact ⟨c, (List.getElem?_append_left hlt).trans hc, hdone⟩
  | frame i frame =>
      obtain ⟨c, hc, rfl⟩ := Option.map_eq_some_iff.mp ht
      refine listed_set hs hc rfl (fun j _ hj => hj) fun hi => ?_
      exact (onListenMessage_sending f frame c).trans (hs.sending hc hi)
  | notify i st =>
      obtain ⟨c, hc, rfl⟩ := Option.map_eq_some_iff.mp ht
      refine listed_set hs hc rfl (fun j _ => mem_of_mem_onListenState)
        fun hi => ?_
      exact (onListenState_sending st c).trans
        (hs.sending hc (mem_of_mem_onListenState hi))
  | sendReturns i ok =>
      obtain ⟨c, hc, h⟩ := Option.bind_eq_some_iff.mp ht
      split at h
      · cases h
        exact listed_set hs hc rfl (fun j hj => mem_of_mem_sendReturns hj)
          fun _ => sendReturns_sending ok c
      · cases h

/-- The condition for an event of one connection. -/
theorem notAfterEnd_iff {s : TextToSpeech Data} {e : Event Data} {i : ℕ}
    {c : Connection Data} (hc : s.calls[i]? = some c)
    (he : ∀ j, e.touches = some j → j = i) :
    NotAfterEnd s e ↔
      (e.touches = some i → c.callback = true → c.gone = false) := by
  constructor
  · intro h htouches
    exact h i htouches c hc
  · intro h j hj d hd
    obtain rfl : j = i := he j hj
    obtain rfl : c = d := Option.some.inj (hc.symm.trans hd)
    exact h hj

theorem touches_frame {i j : ℕ} {frame : Frame Data}
    (h : (Event.frame i frame).touches = some j) : j = i := by
  cases frame with
  | text data => cases h
  | binary data => exact (Option.some.inj h).symm
  | other => cases h

theorem touches_notify {i j : ℕ} {st : ClientState}
    (h : (Event.notify i st : Event Data).touches = some j) : j = i := by
  rw [Event.touches] at h
  split at h
  · exact (Option.some.inj h).symm
  · cases h

/-- A step keeps the promise precisely if it comes before the end of the
stream it touches. -/
theorem wellTerminated_step {f : Reader Data} {s t : TextToSpeech Data}
    {e : Event Data} (ht : step f s e = some t) (hs : WellTerminated s)
    (hlisted : Listed s) : WellTerminated t ↔ NotAfterEnd s e := by
  cases e with
  | toSound text callback wordsCallback =>
      cases ht
      refine iff_of_true (fun i c hc => ?_) nofun
      by_cases hi : i < s.calls.length
      · exact hs i c ((List.getElem?_append_left hi).symm.trans hc)
      · have hnew : c = .start text callback wordsCallback := by
          rw [toSound, List.getElem?_append_right (by omega)] at hc
          exact List.mem_singleton.mp (List.mem_of_getElem? hc)
        subst hnew
        exact fun _ => ⟨rfl, nofun⟩
  | frame i frame =>
      obtain ⟨c, hc, rfl⟩ := Option.map_eq_some_iff.mp ht
      let t : TextToSpeech Data := { s with
        calls := s.calls.set i ((c.onListenMessage f frame).getD c) }
      calc
        _ ↔ Kept s.connections i ((c.onListenMessage f frame).getD c) :=
          wellTerminated_set (t := t) hs hc rfl fun j _ hj => hj
        _ ↔ _ := kept_onListenMessage f frame (hs i c hc)
        _ ↔ _ := (notAfterEnd_iff hc fun j => touches_frame).symm
  | notify i st =>
      obtain ⟨c, hc, rfl⟩ := Option.map_eq_some_iff.mp ht
      calc
        _ ↔ Kept (onListenState i st c s).connections i (c.onListenState st) :=
          wellTerminated_set hs hc rfl fun j _ => mem_of_mem_onListenState
        _ ↔ _ := kept_onListenState (hs i c hc)
        _ ↔ _ := (notAfterEnd_iff hc fun j => touches_notify).symm
  | sendReturns i ok =>
      obtain ⟨c, hc, h⟩ := Option.bind_eq_some_iff.mp ht
      split at h
      · rename_i hsending
        cases h
        have hnew : i ∉ s.connections := fun hi => by
          cases hsending.symm.trans (hlisted.sending hc hi)
        have htouches : ∀ j, (Event.sendReturns i ok : Event Data).touches =
            some j → j = i := fun j hj => (Option.some.inj hj).symm
        calc
          _ ↔ Kept (sendReturns i ok c s).connections i (c.sendReturns ok) :=
            wellTerminated_set hs hc rfl fun j hj => mem_of_mem_sendReturns hj
          _ ↔ _ := kept_sendReturns (hs i c hc) hnew
          _ ↔ _ := ((notAfterEnd_iff hc htouches).trans
            (forall_prop_of_true rfl)).symm
      · cases h

/-- In every run each stream callback receives the contents of the binary
frames in order and then NULL exactly once, and from then on its connection is
not in the list, precisely if no end of a stream is followed by another end of
it, by a binary frame, or by the return of its `Send()`. -/
theorem wellTerminated_iff (f : Reader Data) (es : List (Event Data)) :
    Throughout (step f) WellTerminated new es ↔
      EachStep (step f) NotAfterEnd new es := by
  refine throughout_iff_eachStep (I := fun s => WellTerminated s ∧ Listed s)
    ?_ ?_ ?_ ?_ (eachStep_true _ _)
  · exact fun s hs => hs.1
  · rintro s e t ⟨hs, hlisted⟩ - he ht
    exact ⟨(wellTerminated_step ht hs hlisted).mpr he, listed_step ht hlisted⟩
  · rintro s e t ⟨hs, hlisted⟩ - he ht hterminated
    exact he ((wellTerminated_step ht hs hlisted).mp hterminated)
  · exact ⟨nofun, nofun⟩

/-- `Send()` fails and reports it from inside: the stream is ended twice. -/
theorem not_wellTerminated_sendFails :
    ¬Throughout (step (⟨fun _ => none, fun _ => ""⟩ : Reader String))
      WellTerminated new
      [.toSound "hello" true false, .notify 0 .disconnected,
        .sendReturns 0 false] := by
  intro h
  have hrun : (run (step (⟨fun _ => none, fun _ => ""⟩ : Reader String)) new
      [.toSound "hello" true false, .notify 0 .disconnected,
        .sendReturns 0 false]).map
          (fun s => s.calls.map fun c => (c.callback, c.received, c.frames)) =
      some [(true, [none, none], [])] := by decide
  obtain ⟨t, hend, hobs⟩ := h.last hrun
  obtain ⟨c, hc, hobs⟩ := List.map_eq_singleton_iff.mp hobs
  obtain ⟨hvalid, hobs⟩ := Prod.mk.inj hobs
  obtain ⟨hreceived, hframes⟩ := Prod.mk.inj hobs
  obtain ⟨hterminated, -⟩ := hend 0 c (by rw [hc]; rfl) hvalid
  rw [Terminated, hreceived, hframes] at hterminated
  revert hterminated
  cases c.gone <;> decide

end TextToSpeech

end SelfPlugins.Tts
