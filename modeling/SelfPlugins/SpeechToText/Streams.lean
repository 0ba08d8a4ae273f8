import SelfPlugins.Library.Runs
import SelfPlugins.SpeechToText.Tuned

/-!
# Speech to text: the stream protocol

Audio is sent as raw samples; the service learns their rate from the `start`
message before them.  On each incarnation of a socket, from a successful
`Send()` to the loss of the connection, audio must follow a `start` with the
rate of its clip.

`SendAudio` announces the first clip only, and `SendStart` is called from the
result path as well, where no clip may have been received yet.  The protocol is
kept in a run precisely when the clips sent on an incarnation keep to the rate
of the first one, and no final result asks for a new `start` before it.
-/

namespace SelfPlugins.Stt

open Runs

namespace SpeechToText

/-! ## What is said on a socket -/

/-- The rate of the last `start` among messages that follow one of `last`. -/
def lastStart : Option ℕ → List SocketMessage → Option ℕ
  | last, [] => last
  | _, .start m :: ms => lastStart (some m.rate) ms
  | last, .stop :: ms | last, .binary _ :: ms => lastStart last ms

/-- All audio follows a `start` with the rate of the clip. -/
def Heard (rate : Option ℤ) : Option ℕ → List SocketMessage → Prop
  | _, [] => True
  | _, .start m :: ms => Heard rate (some m.rate) ms
  | last, .stop :: ms => Heard rate last ms
  | last, .binary _ :: ms =>
      (∃ r : ℕ, last = some r ∧ rate = some (r : ℤ)) ∧ Heard rate last ms

/-- The messages sent on a socket from `s` to `t`. -/
def said (s t : SpeechToText) (k : SocketId) : List SocketMessage :=
  (t.sockets k).messages.drop (s.sockets k).messages.length

/-- The rate of the clip that an event brings. -/
def rateOf : Event → Option ℤ
  | .onListen clip => some clip.rate
  | _ => none

/-- The socket on which an event lets `Send()` succeed. -/
def begun (s : SpeechToText) : Event → Option SocketId
  | .sendReturns true _ => s.sends.head?.map Send.socket
  | _ => none

/-- The clip is loud enough to be sent. -/
def Loud (settings : Settings) (clip : SpeechAudioData) : Prop :=
  settings.detectSilence = false ∨ settings.silenceThreshold ≤ clip.level

instance (settings : Settings) (clip : SpeechAudioData) :
    Decidable (Loud settings clip) :=
  inferInstanceAs (Decidable (_ ∨ _))

/-- The service with the rates of the clips it has received, and for each socket
the rate announced on its present incarnation. -/
structure Streams where
  service : SpeechToText
  rates : List ℤ
  announced : SocketId → Option ℕ

namespace Streams

def new (settings : Settings) : Streams where
  service := SpeechToText.new settings
  rates := []
  announced := fun _ => none

def heard (p : Streams) (e : Event) (t : SpeechToText) (k : SocketId) :
    Option ℕ :=
  if (t.sockets k).state.isDown ∨ begun p.service e = some k then none
  else lastStart (p.announced k) (said p.service t k)

def next (p : Streams) (e : Event) : Option Streams :=
  (step p.service e).map fun t =>
    { service := t
      rates := p.rates ++ (rateOf e).toList
      announced := p.heard e t }

/-- On a socket that is not down, all audio sent follows a `start` with the rate
of its clip, and every `start` has the rate of some clip. -/
def Announces (p : Streams) (e : Event) : Prop :=
  ∀ t, step p.service e = some t → ∀ k,
    ((p.service.sockets k).state.isDown = false →
      Heard (rateOf e) (p.announced k) (said p.service t k)) ∧
    ∀ m, .start m ∈ said p.service t k →
      ∃ r ∈ p.rates ++ (rateOf e).toList, 0 ≤ r ∧ (m.rate : ℤ) = r

/-- A clip that is sent has the rate of the stream, if that has one, and a new
`start` is sent for a stream that has one. -/
def Careful (p : Streams) (e : Event) : Prop :=
  let s := p.service
  match e with
  | .onListen clip => s.isListening = true →
      ∀ c ∈ s.connections, ∀ k, (s.conn c).listenSocket = some k →
        (s.sockets k).state.isDown = false →
        Loud s.settings clip → (s.conn c).listenActive = true →
        (s.conn c).recordingHZ < 0 ∨ (s.conn c).recordingHZ = clip.rate
  | .frame k (.results _ true) => s.settings.continous = false →
      0 ≤ (s.conn (s.sockets k).owner).recordingHZ
  | _ => True

end Streams

/-! ## What a clip makes a connection say -/

theorem lastStart_append (last : Option ℕ) (ms ms' : List SocketMessage) :
    lastStart last (ms ++ ms') = lastStart (lastStart last ms) ms' := by
  induction ms generalizing last with
  | nil => rfl
  | cons m ms ih =>
      cases m with
      | _ => exact ih _

theorem heard_append (rate : Option ℤ) (last : Option ℕ)
    (ms ms' : List SocketMessage) : Heard rate last (ms ++ ms') ↔
      Heard rate last ms ∧ Heard rate (lastStart last ms) ms' := by
  induction ms generalizing last with
  | nil => simp [Heard, lastStart]
  | cons m ms ih =>
      cases m with
      | start m => exact ih _
      | stop => exact ih _
      | binary pcm =>
          exact (and_congr_right fun _ => ih last).trans (and_assoc).symm

/-- The message that announces a rate. -/
def startMessage (settings : Settings) (rate : ℤ) : StartMessage where
  rate := printedRate rate
  continuous := settings.continous
  maxAlternatives := settings.maxAlternatives
  interimResults := settings.interium
  wordConfidence := settings.wordConfidence
  timestamps := settings.timestamps
  inactivityTimeout := settings.timeout

/-- What `SendAudio` sends before the clip. -/
def opening (settings : Settings) (x : Connection) (clip : SpeechAudioData) :
    List SocketMessage :=
  if x.recordingHZ < 0 then [.start (startMessage settings clip.rate)] else []

/-- What `SendAudio` sends for the clip. -/
def body (settings : Settings) (x : Connection) (clip : SpeechAudioData) :
    List SocketMessage :=
  if Loud settings clip then
    if x.listenActive then [.binary clip.pcm] else []
  else if x.audioSent ∧ x.listenActive then [.stop] else []

/-- From `s` to `t`, the connection `c` sends the messages `ms` on its socket
`k`, and nothing else happens to the sockets and the other connections. -/
structure Speaks (c : ConnId) (k : SocketId) (ms : List SocketMessage)
    (s t : SpeechToText) : Prop where
  messages : (t.sockets k).messages = (s.sockets k).messages ++ ms
  isDown : ∀ l, (t.sockets l).state.isDown = (s.sockets l).state.isDown
  owner : ∀ l, (t.sockets l).owner = (s.sockets l).owner
  sockets : ∀ l, l ≠ k → t.sockets l = s.sockets l
  listenSocket : ∀ c', (t.conn c').listenSocket = (s.conn c').listenSocket
  conn : ∀ c', c' ≠ c → t.conn c' = s.conn c'
  settings : t.settings = s.settings
  sends : t.sends = s.sends
  nextConn : t.nextConn = s.nextConn
  nextSocket : t.nextSocket = s.nextSocket

theorem Speaks.refl (c : ConnId) (k : SocketId) (s : SpeechToText) :
    Speaks c k [] s s where
  messages := (List.append_nil _).symm
  isDown _ := rfl
  owner _ := rfl
  sockets _ _ := rfl
  listenSocket _ := rfl
  conn _ _ := rfl
  settings := rfl
  sends := rfl
  nextConn := rfl
  nextSocket := rfl

theorem Speaks.trans {c : ConnId} {k : SocketId} {ms ms' : List SocketMessage}
    {s t u : SpeechToText} (hst : Speaks c k ms s t)
    (htu : Speaks c k ms' t u) : Speaks c k (ms ++ ms') s u where
  messages := by rw [htu.messages, hst.messages, List.append_assoc]
  isDown l := (htu.isDown l).trans (hst.isDown l)
  owner l := (htu.owner l).trans (hst.owner l)
  sockets l hl := (htu.sockets l hl).trans (hst.sockets l hl)
  listenSocket c' := (htu.listenSocket c').trans (hst.listenSocket c')
  conn c' hc' := (htu.conn c' hc').trans (hst.conn c' hc')
  settings := htu.settings.trans hst.settings
  sends := htu.sends.trans hst.sends
  nextConn := htu.nextConn.trans hst.nextConn
  nextSocket := htu.nextSocket.trans hst.nextSocket

theorem Speaks.quietly {c : ConnId} {k : SocketId} {ms : List SocketMessage}
    {s t u : SpeechToText} (hst : Speaks c k ms s t)
    (htu : Speaks c k [] t u) : Speaks c k ms s u := by
  have hsu := hst.trans htu
  rw [List.append_nil] at hsu
  exact hsu

/-- A change of the connection alone. -/
theorem speaks_modifyConn (c : ConnId) (k : SocketId)
    {f : Connection → Connection}
    (hsocket : ∀ x, (f x).listenSocket = x.listenSocket) (s : SpeechToText) :
    Speaks c k [] s (modifyConn c f s) :=
  { Speaks.refl c k s with
    listenSocket := by
      intro c'
      rw [modifyConn_conn]
      split
      · rename_i heq
        rw [hsocket, heq]
      · rfl
    conn := by
      intro c' hc'
      rw [modifyConn_conn, if_neg hc'] }

/-- What is done to the socket of the connection sends messages on it. -/
theorem speaks_onListenSocket {c : ConnId} {k : SocketId} {s : SpeechToText}
    (hk : (s.conn c).listenSocket = some k) {f : Socket → Socket}
    {ms : List SocketMessage} (hf : ∀ x, (f x).messages = x.messages ++ ms)
    (hquiet : Quiet s (onListenSocket c f s)) :
    Speaks c k ms s (onListenSocket c f s) := by
  have heq : onListenSocket c f s = modifySocket k f s := by
    rw [onListenSocket, hk]
  rw [heq] at hquiet ⊢
  exact {
    Speaks.refl c k s with
    messages := by
      rw [modifySocket_sockets, if_pos rfl, hf]
    isDown := hquiet.isDown
    owner := hquiet.owner
    sockets := by
      intro l hl
      rw [modifySocket_sockets, if_neg hl] }

theorem speaks_sendMessage {c : ConnId} {k : SocketId} {s : SpeechToText}
    (hk : (s.conn c).listenSocket = some k) (m : SocketMessage) :
    Speaks c k [m] s (onListenSocket c (sendMessage m) s) :=
  speaks_onListenSocket hk (fun _ => rfl) (quiet_sendMessage c m s)

theorem onListenSocket_conn (c : ConnId) (f : Socket → Socket)
    (s : SpeechToText) : (onListenSocket c f s).conn = s.conn := by
  rw [onListenSocket]
  split
  · rfl
  · rfl

theorem speaks_sendStart {c : ConnId} {k : SocketId} {s : SpeechToText}
    (hk : (s.conn c).listenSocket = some k) :
    Speaks c k [.start (startMessage s.settings (s.conn c).recordingHZ)] s
      (sendStart c s) := by
  rw [sendStart]
  apply (speaks_sendMessage hk _).quietly
  apply speaks_modifyConn
  exact fun _ => rfl

theorem sendStart_conn (c : ConnId) (s : SpeechToText) :
    (sendStart c s).conn c = { s.conn c with lastStartSent := s.now } := by
  rw [sendStart, modifyConn_conn, if_pos rfl, onListenSocket_conn]

theorem speaks_announce {c : ConnId} {k : SocketId} {s : SpeechToText}
    (hk : (s.conn c).listenSocket = some k) (clip : SpeechAudioData) :
    Speaks c k (opening s.settings (s.conn c) clip) s (announce c clip s) ∧
      ∃ time, (announce c clip s).conn c = { s.conn c with
        recordingHZ := if (s.conn c).recordingHZ < 0 then clip.rate
          else (s.conn c).recordingHZ
        lastStartSent := time } := by
  rw [announce, opening]
  by_cases hrate : (s.conn c).recordingHZ < 0
  · simp only [if_pos hrate]
    let u : SpeechToText :=
      modifyConn c (fun x => { x with recordingHZ := clip.rate }) s
    have hconn : u.conn c = { s.conn c with recordingHZ := clip.rate } := by
      rw [modifyConn_conn, if_pos rfl]
    have hsu : Speaks c k [] s u := by
      apply speaks_modifyConn
      exact fun _ => rfl
    have hu : (u.conn c).listenSocket = some k := by
      rw [hconn]
      exact hk
    have hstart := speaks_sendStart hu
    rw [hconn] at hstart
    refine ⟨hsu.trans hstart, s.now, ?_⟩
    rw [sendStart_conn, hconn]
    rfl
  · simp only [if_neg hrate]
    exact ⟨Speaks.refl c k s, (s.conn c).lastStartSent, rfl⟩

theorem speaks_sendClip {c : ConnId} {k : SocketId} {s : SpeechToText}
    (hk : (s.conn c).listenSocket = some k) (clip : SpeechAudioData) :
    Speaks c k (body s.settings (s.conn c) clip) s (sendClip c clip s) ∧
      ((sendClip c clip s).conn c).recordingHZ = (s.conn c).recordingHZ := by
  have hloud : (!s.settings.detectSilence ∨
      s.settings.silenceThreshold ≤ clip.level) ↔ Loud s.settings clip := by
    rw [Loud, Bool.not_eq_true']
  rw [sendClip, body]
  by_cases hclip : Loud s.settings clip
  · rw [if_pos (hloud.mpr hclip), if_pos hclip]
    by_cases hactive : (s.conn c).listenActive = true
    · rw [if_pos hactive, if_pos hactive]
      constructor
      · apply (speaks_sendMessage hk _).quietly
        apply speaks_modifyConn
        exact fun _ => rfl
      · rw [modifyConn_conn, if_pos rfl, onListenSocket_conn]
    · rw [if_neg hactive, if_neg hactive]
      exact ⟨Speaks.refl c k s, rfl⟩
  · rw [if_neg (fun h => hclip (hloud.mp h)), if_neg hclip]
    by_cases haudio : (s.conn c).audioSent = true
    · rw [if_pos haudio, sendStop]
      by_cases hactive : (s.conn c).listenActive = true
      · rw [if_pos hactive, if_pos ⟨haudio, hactive⟩]
        let u : SpeechToText := modifyConn c (fun x => { x with
          lastStartSent := s.now
          listenActive := false }) (onListenSocket c (sendMessage .stop) s)
        have hsu : Speaks c k [.stop] s u := by
          apply (speaks_sendMessage hk _).quietly
          apply speaks_modifyConn
          exact fun _ => rfl
        have hquiet : Speaks c k [] u
            (modifyConn c (fun x => { x with audioSent := false }) u) := by
          apply speaks_modifyConn
          exact fun _ => rfl
        constructor
        · exact hsu.quietly hquiet
        · rw [modifyConn_conn, if_pos rfl, modifyConn_conn, if_pos rfl,
            onListenSocket_conn]
      · rw [if_neg hactive, if_neg fun h => hactive h.2]
        constructor
        · apply speaks_modifyConn
          exact fun _ => rfl
        · rw [modifyConn_conn, if_pos rfl]
    · rw [if_neg haudio, if_neg fun h => haudio h.1]
      exact ⟨Speaks.refl c k s, rfl⟩

theorem speaks_close {c : ConnId} {k : SocketId} {s : SpeechToText}
    (hk : (s.conn c).listenSocket = some k) :
    Speaks c k [] s (onListenSocket c close s) :=
  speaks_onListenSocket hk (fun x => (List.append_nil x.messages).symm)
    (quiet_close c s)

theorem speaks_checkListening {c : ConnId} {k : SocketId} {s : SpeechToText}
    (hk : (s.conn c).listenSocket = some k) :
    Speaks c k [] s (checkListening c s) ∧
      ((checkListening c s).conn c).recordingHZ =
        (s.conn c).recordingHZ := by
  rw [checkListening]
  split
  · let u : SpeechToText :=
      modifyConn c (fun x => { x with lastStartSent := s.now }) s
    have hconn : u.conn c = { s.conn c with lastStartSent := s.now } := by
      rw [modifyConn_conn, if_pos rfl]
    have hsu : Speaks c k [] s u := by
      apply speaks_modifyConn
      exact fun _ => rfl
    have hu : (u.conn c).listenSocket = some k := by
      rw [hconn]
      exact hk
    constructor
    · exact { hsu.trans (speaks_close hu) with }
    · show ((onListenSocket c close u).conn c).recordingHZ = _
      rw [onListenSocket_conn, hconn]
  · exact ⟨Speaks.refl c k s, rfl⟩

/-- The messages of `SendAudio`. -/
def speech (settings : Settings) (x : Connection) (clip : SpeechAudioData) :
    List SocketMessage :=
  opening settings x clip ++ body settings x clip

theorem speaks_sendAudio {c : ConnId} {k : SocketId} {s : SpeechToText}
    (hk : (s.conn c).listenSocket = some k) (clip : SpeechAudioData) :
    Speaks c k (speech s.settings (s.conn c) clip) s (sendAudio c clip s) ∧
      ((sendAudio c clip s).conn c).recordingHZ =
        if (s.conn c).recordingHZ < 0 then clip.rate
        else (s.conn c).recordingHZ := by
  obtain ⟨hannounce, time, hconn⟩ := speaks_announce hk clip
  let u : SpeechToText := announce c clip s
  have hu : (u.conn c).listenSocket = some k :=
    (hannounce.listenSocket c).trans hk
  obtain ⟨hclip, hrate⟩ := speaks_sendClip hu clip
  let v : SpeechToText := sendClip c clip u
  have hv : (v.conn c).listenSocket = some k :=
    (hclip.listenSocket c).trans hu
  obtain ⟨hcheck, hsame⟩ := speaks_checkListening hv
  have hbody : body u.settings (u.conn c) clip =
      body s.settings (s.conn c) clip := by
    rw [hannounce.settings, hconn]
    rfl
  rw [hbody] at hclip
  constructor
  · exact hannounce.trans (hclip.quietly hcheck)
  · rw [sendAudio]
    exact (hsame.trans hrate).trans (by rw [hconn])

/-! ## What a clip makes the service say -/

/-- From `s` to `t`, the connections `cs` send a clip, each on its own
socket. -/
structure Spoken (cs : List ConnId) (clip : SpeechAudioData)
    (s t : SpeechToText) : Prop where
  messages : ∀ c ∈ cs, ∀ k, (s.conn c).listenSocket = some k →
    (t.sockets k).messages =
      (s.sockets k).messages ++ speech s.settings (s.conn c) clip
  rate : ∀ c ∈ cs, (t.conn c).recordingHZ =
    if (s.conn c).recordingHZ < 0 then clip.rate else (s.conn c).recordingHZ
  isDown : ∀ l, (t.sockets l).state.isDown = (s.sockets l).state.isDown
  owner : ∀ l, (t.sockets l).owner = (s.sockets l).owner
  sockets : ∀ l, (∀ c ∈ cs, (s.conn c).listenSocket ≠ some l) →
    t.sockets l = s.sockets l
  listenSocket : ∀ c, (t.conn c).listenSocket = (s.conn c).listenSocket
  conn : ∀ c, c ∉ cs → t.conn c = s.conn c
  sends : t.sends = s.sends
  nextConn : t.nextConn = s.nextConn
  nextSocket : t.nextSocket = s.nextSocket

theorem spoken_nil (clip : SpeechAudioData) (s : SpeechToText) :
    Spoken [] clip s s where
  messages _ hc := absurd hc List.not_mem_nil
  rate _ hc := absurd hc List.not_mem_nil
  isDown _ := rfl
  owner _ := rfl
  sockets _ _ := rfl
  listenSocket _ := rfl
  conn _ _ := rfl
  sends := rfl
  nextConn := rfl
  nextSocket := rfl

/-- A connection sends the clip on its socket `k`, and then the others send it
on theirs. -/
theorem Spoken.cons {c : ConnId} {cs : List ConnId} {k : SocketId}
    {clip : SpeechAudioData} {s t u : SpeechToText}
    (hk : (s.conn c).listenSocket = some k) (hc : c ∉ cs)
    (hapart : ∀ c' ∈ cs, (s.conn c').listenSocket ≠ some k)
    (hspeaks : Speaks c k (speech s.settings (s.conn c) clip) s u)
    (hrate : (u.conn c).recordingHZ =
      if (s.conn c).recordingHZ < 0 then clip.rate
      else (s.conn c).recordingHZ)
    (hrest : Spoken cs clip u t) : Spoken (c :: cs) clip s t := by
  have hother : ∀ c' ∈ cs, u.conn c' = s.conn c' := by
    intro c' hc'
    apply hspeaks.conn
    rintro rfl
    exact hc hc'
  have hapart' : ∀ c' ∈ cs, (u.conn c').listenSocket ≠ some k := by
    intro c' hc'
    rw [hother c' hc']
    exact hapart c' hc'
  constructor
  · intro c' hc' l hl
    rcases List.mem_cons.mp hc' with rfl | hc'
    · obtain rfl : k = l := Option.some.inj (hk.symm.trans hl)
      rw [hrest.sockets k hapart']
      exact hspeaks.messages
    · have hne : l ≠ k := by
        rintro rfl
        exact hapart c' hc' hl
      have hl' : (u.conn c').listenSocket = some l :=
        (hspeaks.listenSocket c').trans hl
      rw [hrest.messages c' hc' l hl', hother c' hc', hspeaks.settings,
        hspeaks.sockets l hne]
  · intro c' hc'
    rcases List.mem_cons.mp hc' with rfl | hc'
    · rw [hrest.conn c' hc]
      exact hrate
    · rw [hrest.rate c' hc', hother c' hc']
  · exact fun l => (hrest.isDown l).trans (hspeaks.isDown l)
  · exact fun l => (hrest.owner l).trans (hspeaks.owner l)
  · intro l hl
    have hne : l ≠ k := by
      rintro rfl
      exact hl c List.mem_cons_self hk
    rw [hrest.sockets l, hspeaks.sockets l hne]
    intro c' hc'
    rw [hspeaks.listenSocket]
    exact hl c' (List.mem_cons_of_mem _ hc')
  · exact fun c' => (hrest.listenSocket c').trans (hspeaks.listenSocket c')
  · intro c' hc'
    rw [hrest.conn c' fun h => hc' (List.mem_cons_of_mem _ h)]
    apply hspeaks.conn
    rintro rfl
    exact hc' List.mem_cons_self
  · exact hrest.sends.trans hspeaks.sends
  · exact hrest.nextConn.trans hspeaks.nextConn
  · exact hrest.nextSocket.trans hspeaks.nextSocket

theorem spoken_foldl {cs : List ConnId} (hnodup : cs.Nodup) {s : SpeechToText}
    (hsocket : ∀ c ∈ cs, ∃ k, (s.conn c).listenSocket = some k)
    (hown : ∀ c c' k, (s.conn c).listenSocket = some k →
      (s.conn c').listenSocket = some k → c = c') (clip : SpeechAudioData) :
    Spoken cs clip s (cs.foldl (fun s c => sendAudio c clip s) s) := by
  induction cs generalizing s with
  | nil => exact spoken_nil clip s
  | cons c cs ih =>
      obtain ⟨hc, hcs⟩ := List.nodup_cons.mp hnodup
      obtain ⟨k, hk⟩ := hsocket c List.mem_cons_self
      obtain ⟨hspeaks, hrate⟩ := speaks_sendAudio hk clip
      apply Spoken.cons hk hc _ hspeaks hrate
      · apply ih hcs
        · intro c' hc'
          rw [hspeaks.listenSocket]
          exact hsocket c' (List.mem_cons_of_mem _ hc')
        · intro c' c'' l
          rw [hspeaks.listenSocket, hspeaks.listenSocket]
          exact hown c' c'' l
      · intro c' hc' hk'
        rw [hown c c' k hk hk'] at hc
        exact hc hc'

end SpeechToText

end SelfPlugins.Stt
