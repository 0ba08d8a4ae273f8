import SelfPlugins.SpeechToText.Reconnect
import SelfPlugins.SpeechToText.Streams

/-!
# Speech to text: when the stream protocol is kept

Most events send nothing at all (`Hushed`).  For a clip and for recognition
results it is computed what they send on each socket, and compared with what has
been announced there; `Kept.announced` shows that the connection knows this rate
whenever its socket is not down.
-/

namespace SelfPlugins.Stt

open Runs

namespace SpeechToText

/-- The sampling rates are `int`s, and not negative. -/
def InRange (r : ℤ) : Prop := 0 ≤ r ∧ r < 2147483648

theorem printedRate_eq {r : ℤ} (h : InRange r) : (printedRate r : ℤ) = r := by
  obtain ⟨hnonneg, hlt⟩ := h
  rw [printedRate, BitVec.toNat_ofInt]
  omega

/-! ## Steps that send nothing -/

theorem Silent.said {s t : SpeechToText} (h : Silent s t) (k : SocketId) :
    said s t k = [] := by
  rw [SpeechToText.said]
  rcases h.messages k with hsame | hnone
  · rw [hsame, List.drop_length]
  · rw [hnone, List.drop_nil]

/-- The event brings a clip, or recognition results. -/
def speaks : Event → Bool
  | .onListen _ => true
  | .frame _ (.results _ _) => true
  | _ => false

/-- From `s` to `t` nothing is sent, and the streams stay in tune; nothing need
be known of a socket on which `Send()` has succeeded. -/
structure Hushed (s : SpeechToText) (e : Event) (t : SpeechToText) : Prop where
  said : ∀ k, said s t k = []
  tuned : ∀ rates announced announced', Tuned rates announced s →
    (∀ k, begun s e ≠ some k → announced' k = announced k) →
    Tuned rates announced' t

theorem Silent.hushed {s t : SpeechToText} (h : Silent s t) {e : Event}
    (he : begun s e = none) : Hushed s e t where
  said := h.said
  tuned rates announced announced' hs hsame := by
    refine (h.tuned rates announced hs).congr (fun _ hr => hr) fun k _ => ?_
    apply hsame
    rw [he]
    exact (Option.some_ne_none k).symm

theorem Hushed.trans {s t u : SpeechToText} {e : Event} (h : Hushed s e t)
    (htu : Silent t u) : Hushed s e u where
  said k := by
    have hnone := h.said k
    rw [SpeechToText.said, List.drop_eq_nil_iff] at hnone ⊢
    rcases htu.messages k with hsame | hempty
    · rw [hsame]
      exact hnone
    · rw [hempty]
      exact Nat.zero_le _
  tuned rates announced announced' hs hsame :=
    htu.tuned rates announced' (h.tuned rates announced announced' hs hsame)

theorem silent_message {c : ConnId} {frame : Frame}
    (hframe : ∀ confidence final, frame ≠ .results confidence final)
    (s : SpeechToText) : Silent s (onListenMessage c frame s) := by
  cases frame with
  | results confidence final => exact absurd rfl (hframe confidence final)
  | badResults => exact Silent.refl s
  | state text =>
      simp only [onListenMessage]
      split
      · apply silent_modifyConn
        · exact fun _ => Or.inl rfl
        · exact fun _ => Or.inl rfl
      · exact Silent.refl s
  | error text =>
      apply (silent_close c s).trans
      exact silent_of_eq rfl rfl rfl rfl rfl
  | other => exact Silent.refl s

theorem silent_notify {s t : SpeechToText} {k : SocketId}
    (ht : notify k s = some t) : Silent s t := by
  let u : SpeechToText :=
    modifySocket k (fun x => { x with queued := x.queued - 1 }) s
  have hsu : Silent s u := by
    apply silent_modifySocket
    · exact fun _ => rfl
    · exact fun _ => rfl
    · exact fun h => h
  obtain ⟨-, v, rfl, ⟨-, rfl⟩ | ⟨-, rfl⟩⟩ := of_notify ht
  · exact hsu.trans (silent_onListenState _ k u)
  · exact hsu

theorem silent_reconnectTimer {s t : SpeechToText} {c : ConnId}
    (ht : reconnectTimer c s = some t) : Silent s t := by
  let u : SpeechToText :=
    modifyConn c (fun x => { x with reconnectTimer := .fired }) s
  have hsu : Silent s u := by
    apply silent_modifyConn
    · exact fun _ => Or.inl rfl
    · exact fun _ => Or.inl rfl
  obtain ⟨-, -, -, rfl⟩ := of_reconnectTimer ht
  exact hsu.trans (silent_onReconnect c u)

/-- A connection whose current socket is inside of `Send()` is busy. -/
theorem Tuned.busy {rates : List ℤ} {announced : SocketId → Option ℕ}
    {s : SpeechToText} (h : Tuned rates announced s) (hinv : Inv False s)
    {call : Send} (hcall : call ∈ s.sends) {c : ConnId}
    (hc : (s.conn c).listenSocket = some call.socket) : Busy s c := by
  have hsocket := ((hinv.caller hcall).calls call hcall).2
  refine ⟨call, hcall, ?_⟩
  rw [← (h.owned _ _ hsocket).2, (h.owned c _ hc).2]

/-- A change of a socket that says nothing, whatever it does to the state. -/
theorem said_of_modified {s t : SpeechToText} {k : SocketId}
    {f : Socket → Socket} (hst : Silent (modifySocket k f s) t)
    (hmessages : ∀ x, (f x).messages = x.messages) (l : SocketId) :
    said s t l = [] := by
  have hsame : ((modifySocket k f s).sockets l).messages =
      (s.sockets l).messages := by
    rw [modifySocket_sockets]
    split
    · rename_i heq
      rw [hmessages, heq]
    · rfl
  have hsaid := hst.said l
  rw [said, hsame] at hsaid
  exact hsaid

theorem hushed_socketChanges {s t : SpeechToText} {k : SocketId}
    {st : ClientState} (hinv : Inv False s)
    (ht : socketChanges k st s = some t) : Hushed s (.socket k st) t := by
  obtain ⟨hchange, rfl⟩ := of_socketChanges ht
  by_cases hrevived : (s.sockets k).state.isDown = true ∧ st.isDown = false
  · obtain ⟨hdown, hup⟩ := hrevived
    constructor
    · exact said_of_modified (Silent.refl _) fun _ => rfl
    · intro rates announced announced' h hsame
      have hannounced : announced' = announced :=
        funext fun l => hsame l (Option.some_ne_none l).symm
      rw [hannounced]
      apply h.modifyBusy
      · intro c hc
        rcases hchange hdown with hst | ⟨call, hcall, rfl⟩
        · rw [hup] at hst
          cases hst
        · exact h.busy hinv hcall hc
      · exact fun _ => rfl
  · apply Silent.hushed _ rfl
    apply silent_modifySocket
    · exact fun _ => rfl
    · exact fun _ => rfl
    · intro hdown
      by_contra hup
      exact hrevived ⟨hdown, Bool.eq_false_iff.mpr hup⟩

theorem hushed_sendNotifies {s t : SpeechToText} {st : ClientState}
    (hinv : Inv False s) (ht : sendNotifies st s = some t) :
    Hushed s (.sendNotifies st) t := by
  obtain ⟨call, rest, hsends, rfl⟩ := of_sendNotifies ht
  have hcall : call ∈ s.sends := hsends ▸ List.mem_cons_self
  have hstate := silent_onListenState call.conn call.socket
    (modifySocket call.socket (fun x => { x with state := st }) s)
  constructor
  · exact said_of_modified hstate fun _ => rfl
  · intro rates announced announced' h hsame
    have hannounced : announced' = announced :=
      funext fun l => hsame l (Option.some_ne_none l).symm
    rw [hannounced]
    apply hstate.tuned
    apply h.modifyBusy
    · exact fun c hc => h.busy hinv hcall hc
    · exact fun _ => rfl

theorem silent_failed (call : Send) (s : SpeechToText) :
    Silent s (afterSend call false s) := by
  let u : SpeechToText :=
    modifySocket call.socket (fun x => { x with lost := true }) s
  have hsu : Silent s u := by
    apply silent_modifySocket
    · exact fun _ => rfl
    · exact fun _ => rfl
    · exact fun h => h
  rw [afterSend, if_neg Bool.false_ne_true]
  split
  · have huv : Silent u
        (modifyConn call.conn (fun x => { x with connected := false }) u) := by
      apply silent_modifyConn
      · exact fun _ => Or.inl rfl
      · exact fun _ => Or.inl rfl
    exact hsu.trans (huv.trans (silent_onReconnect call.conn _))
  · exact hsu.trans (silent_onReconnect call.conn u)

/-- When `Send()` succeeds, the stream of its connection has no rate. -/
theorem hushed_succeeded {s : SpeechToText} {call : Send} {rest : List Send}
    (hsends : s.sends = call :: rest) (hcalls : Calls call.conn s)
    (st : ClientState) : Hushed s (.sendReturns true st)
      (afterSend call true (modifySocket call.socket
        (fun x => { x with state := st }) { s with sends := rest })) := by
  have hbegun : begun s (.sendReturns true st) = some call.socket := by
    rw [begun, hsends]
    rfl
  have hother : ∀ {announced announced' : SocketId → Option ℕ},
      (∀ k, begun s (.sendReturns true st) ≠ some k →
        announced' k = announced k) →
      ∀ k, k ≠ call.socket → announced' k = announced k := by
    intro announced announced' hsame k hk
    apply hsame
    rw [hbegun]
    exact fun h => hk (Option.some.inj h).symm
  cases hsite : call.site with
  | reconnect =>
      have hafter : ∀ u, afterSend call true u = u := by
        intro u
        rw [afterSend, if_pos rfl, hsite]
      rw [hafter]
      constructor
      · exact said_of_modified (s := { s with sends := rest })
          (Silent.refl _) fun _ => rfl
      · intro rates announced announced' h hsame
        apply h.returned hsends hcalls _ (hother hsame)
        right
        apply h.calling call _ hsite
        rw [hsends]
        exact List.mem_cons_self
  | create =>
      let u : SpeechToText := modifyConn call.conn (fun x => { x with
        recordingHZ := -1
        lastStartSent := s.now }) s
      have hsu : Silent s u := by
        apply silent_modifyConn
        · exact fun _ => Or.inl rfl
        · exact fun _ => Or.inr rfl
      have hafter : afterSend call true (modifySocket call.socket
          (fun x => { x with state := st }) { s with sends := rest }) =
          modifySocket call.socket (fun x => { x with state := st })
            { u with sends := rest } := by
        rw [afterSend, if_pos rfl, hsite]
        rfl
      have hrate : (u.conn call.conn).recordingHZ = -1 := by
        rw [modifyConn_conn, if_pos rfl]
      have hcalls' : Calls call.conn u := by
        intro call' hcall'
        obtain ⟨hconn, hsocket⟩ := hcalls call' hcall'
        refine ⟨hconn, ?_⟩
        rw [modifyConn_conn, if_pos rfl]
        exact hsocket
      rw [hafter]
      constructor
      · exact said_of_modified (s := { u with sends := rest })
          (Silent.refl _) fun _ => rfl
      · intro rates announced announced' h hsame
        apply (hsu.tuned rates announced h).returned _ hcalls' (Or.inr hrate)
          (hother hsame)
        exact hsends

theorem hushed_sendReturns {s t : SpeechToText} {ok : Bool} {st : ClientState}
    (hinv : Inv False s) (ht : sendReturns ok st s = some t) :
    Hushed s (.sendReturns ok st) t := by
  obtain ⟨call, rest, hsends, hcontract, rfl⟩ := of_sendReturns ht
  have hcall : call ∈ s.sends := hsends ▸ List.mem_cons_self
  have hcalls : Calls call.conn s := (hinv.caller hcall).calls
  let v : SpeechToText := modifySocket call.socket
    (fun x => { x with state := st }) { s with sends := rest }
  cases ok with
  | true => exact (hushed_succeeded hsends hcalls st).trans (silent_resume _)
  | false =>
      have hvt : Silent v (resume (afterSend call false v)) :=
        (silent_failed call v).trans (silent_resume _)
      constructor
      · exact said_of_modified (s := { s with sends := rest }) hvt fun _ => rfl
      · intro rates announced announced' h hsame
        apply hvt.tuned
        apply h.returned hsends hcalls (Or.inl hcontract)
        exact fun k _ => hsame k (Option.some_ne_none k).symm

theorem hushed_step {s t : SpeechToText} {e : Event} (hinv : Inv False s)
    (he : speaks e = false) (ht : step s e = some t) : Hushed s e t := by
  cases e with
  | startListening callback =>
      obtain ⟨-, rfl⟩ := whenIdle_eq_some ht
      exact (silent_startListening callback s).hushed rfl
  | stopListening =>
      obtain ⟨-, rfl⟩ := whenIdle_eq_some ht
      exact (silent_stopListening s).hushed rfl
  | setLearningOptOut flag =>
      obtain ⟨-, rfl⟩ := whenIdle_eq_some ht
      exact (silent_setLearningOptOut flag s).hushed rfl
  | refreshConnections =>
      obtain ⟨-, rfl⟩ := whenIdle_eq_some ht
      exact (silent_refreshConnections s).hushed rfl
  | disconnected =>
      obtain ⟨-, rfl⟩ := whenIdle_eq_some ht
      exact (silent_disconnectAll s).hushed rfl
  | onListen clip => cases he
  | frame k frame =>
      obtain ⟨-, -, rfl⟩ := of_step_frame ht
      refine Silent.hushed (silent_message ?_ s) rfl
      rintro confidence final rfl
      cases he
  | socket k st => exact hushed_socketChanges hinv ht
  | notify k => exact (silent_notify ht).hushed rfl
  | sendNotifies st => exact hushed_sendNotifies hinv ht
  | sendReturns ok st => exact hushed_sendReturns hinv ht
  | reconnectTimer c => exact (silent_reconnectTimer ht).hushed rfl
  | resultTimer =>
      obtain ⟨-, -, rfl⟩ := of_step_resultTimer ht
      exact (offstage_onFinalizeResult s).silent.hushed rfl
  | elapse seconds =>
      obtain rfl := of_step_elapse ht
      apply Silent.hushed _ rfl
      exact silent_of_eq rfl rfl rfl rfl rfl
  | invalidate =>
      cases ht
      apply Silent.hushed _ rfl
      exact silent_of_eq rfl rfl rfl rfl rfl

/-! ## Clips and results -/

/-- The stream of a connection has no rate, or that of a clip, and it has been
announced. -/
def Announced (rates : List ℤ) (x : Connection) (last : Option ℕ) : Prop :=
  x.recordingHZ = -1 ∨
    x.recordingHZ ∈ rates ∧ last = some (printedRate x.recordingHZ)

theorem lastStart_speech {settings : Settings} {x : Connection}
    {clip : SpeechAudioData} {last : Option ℕ} :
    lastStart last (speech settings x clip) =
      if x.recordingHZ < 0 then some (printedRate clip.rate) else last := by
  have hbody : ∀ last, lastStart last (body settings x clip) = last := by
    intro last
    rw [body]
    split
    · split
      · rfl
      · rfl
    · split
      · rfl
      · rfl
  rw [speech, lastStart_append, hbody, opening]
  split
  · rfl
  · rfl

theorem heard_body {settings : Settings} {x : Connection}
    {clip : SpeechAudioData} {r : ℕ} :
    Heard (some clip.rate) (some r) (body settings x clip) ↔
      (Loud settings clip → x.listenActive = true → (r : ℤ) = clip.rate) := by
  rw [body]
  by_cases hclip : Loud settings clip
  · rw [if_pos hclip]
    by_cases hactive : x.listenActive = true
    · rw [if_pos hactive]
      constructor
      · rintro ⟨⟨r', hr, hrate⟩, -⟩ _ _
        cases hr
        exact (Option.some.inj hrate).symm
      · intro h
        exact ⟨⟨r, rfl, congrArg some (h hclip hactive).symm⟩, trivial⟩
    · rw [if_neg hactive]
      exact ⟨fun _ _ h => absurd h hactive, fun _ => trivial⟩
  · rw [if_neg hclip]
    refine ⟨fun _ h => absurd h hclip, fun _ => ?_⟩
    split
    · trivial
    · trivial

/-- What a connection makes of a clip is in order precisely when it sends none
of another rate than it has announced. -/
theorem heard_speech {rates : List ℤ} (hrates : ∀ r ∈ rates, InRange r)
    {settings : Settings} {x : Connection} {clip : SpeechAudioData}
    (hclip : InRange clip.rate) {last : Option ℕ}
    (hlast : Announced rates x last) :
    Heard (some clip.rate) last (speech settings x clip) ↔
      (Loud settings clip → x.listenActive = true →
        x.recordingHZ < 0 ∨ x.recordingHZ = clip.rate) := by
  rw [speech, heard_append]
  rcases hlast with hunset | ⟨hmem, hlast⟩
  · have hnegative : x.recordingHZ < 0 := by omega
    rw [opening, if_pos hnegative]
    have hbody : Heard (some clip.rate) (some (printedRate clip.rate))
        (body settings x clip) :=
      heard_body.mpr fun _ _ => printedRate_eq hclip
    exact ⟨fun _ _ _ => Or.inl hnegative, fun _ => ⟨trivial, hbody⟩⟩
  · have hrange := hrates _ hmem
    have hnonneg : ¬x.recordingHZ < 0 := Int.not_lt.mpr hrange.1
    rw [opening, if_neg hnonneg, hlast]
    simp only [Heard, lastStart, true_and, heard_body, printedRate_eq hrange,
      or_iff_right hnonneg]

/-- Every `start` that a connection sends before a clip has the rate of the
clip. -/
theorem start_mem_speech {settings : Settings} {x : Connection}
    {clip : SpeechAudioData} {m : StartMessage}
    (hm : .start m ∈ speech settings x clip) :
    m.rate = printedRate clip.rate := by
  rcases List.mem_append.mp hm with hm | hm
  · rw [opening] at hm
    split at hm
    · cases List.mem_singleton.mp hm
      rfl
    · cases hm
  · rw [body] at hm
    split at hm
    · split at hm
      · cases List.mem_singleton.mp hm
      · cases hm
    · split at hm
      · cases List.mem_singleton.mp hm
      · cases hm

theorem Spoken.said_current {cs : List ConnId} {clip : SpeechAudioData}
    {s t : SpeechToText} (h : Spoken cs clip s t) {c : ConnId} (hc : c ∈ cs)
    {k : SocketId} (hk : (s.conn c).listenSocket = some k) :
    said s t k = speech s.settings (s.conn c) clip := by
  rw [said, h.messages c hc k hk, List.drop_left]

theorem Spoken.said_other {cs : List ConnId} {clip : SpeechAudioData}
    {s t : SpeechToText} (h : Spoken cs clip s t) {k : SocketId}
    (hk : ∀ c ∈ cs, (s.conn c).listenSocket ≠ some k) : said s t k = [] := by
  rw [said, h.sockets k hk, List.drop_length]

/-- From `s` to `t` the sockets, the connections and the calls of `Send()`
stay; connections may speak, and change their rates. -/
structure Unmoved (s t : SpeechToText) : Prop where
  listenSocket : ∀ c, (t.conn c).listenSocket = (s.conn c).listenSocket
  isDown : ∀ k, (t.sockets k).state.isDown = (s.sockets k).state.isDown
  owner : ∀ k, (t.sockets k).owner = (s.sockets k).owner
  sends : t.sends = s.sends
  nextConn : t.nextConn = s.nextConn
  nextSocket : t.nextSocket = s.nextSocket

theorem Spoken.unmoved {cs : List ConnId} {clip : SpeechAudioData}
    {s t : SpeechToText} (h : Spoken cs clip s t) : Unmoved s t :=
  { h with }

theorem Speaks.unmoved {c : ConnId} {k : SocketId} {ms : List SocketMessage}
    {s t : SpeechToText} (h : Speaks c k ms s t) : Unmoved s t :=
  { h with }

theorem Unmoved.offstage {s t u : SpeechToText} (hst : Unmoved s t)
    (htu : Offstage t u) : Unmoved s u where
  listenSocket c := by
    rw [htu.conn]
    exact hst.listenSocket c
  isDown k := by
    rw [htu.sockets]
    exact hst.isDown k
  owner k := by
    rw [htu.sockets]
    exact hst.owner k
  sends := htu.sends.trans hst.sends
  nextConn := htu.nextConn.trans hst.nextConn
  nextSocket := htu.nextSocket.trans hst.nextSocket

/-- Outside of `Send()` no connection is busy. -/
theorem Tuned.tuned_of_idle {rates : List ℤ} {announced : SocketId → Option ℕ}
    {s : SpeechToText} (h : Tuned rates announced s) (hidle : s.Idle)
    {c : ConnId} {k : SocketId} (hk : (s.conn c).listenSocket = some k)
    (hup : (s.sockets k).state.isDown = false) :
    (s.conn c).recordingHZ = -1 ∨
      announced k = some (printedRate (s.conn c).recordingHZ) := by
  rcases h.tuned c k hk with hrate | hdown | hbusy | hannounced
  · exact Or.inl hrate
  · rw [hup] at hdown
    cases hdown
  · exact absurd hbusy (not_busy_of_nil hidle.1 c)
  · exact Or.inr hannounced

namespace Streams

structure Kept (p : Streams) : Prop where
  inv : Inv False p.service
  tuned : Tuned p.rates p.announced p.service
  range : ∀ r ∈ p.rates, InRange r

theorem kept_new (settings : Settings) : (new settings).Kept where
  inv := inv_new settings
  tuned := by
    constructor
    · intro c k hk
      cases hk
    · intro c hc
      exact absurd hc (Nat.not_lt_zero c)
    · intro call hcall
      cases hcall
    · intro c k hk
      cases hk
  range r hr := absurd hr List.not_mem_nil

/-- The clips of an event have a rate in range. -/
def Lawful (e : Event) : Prop :=
  ∀ r, rateOf e = some r → InRange r

theorem Kept.range_next {p : Streams} (h : p.Kept) {e : Event}
    (hlaw : Lawful e) : ∀ r ∈ p.rates ++ (rateOf e).toList, InRange r := by
  intro r hr
  rcases List.mem_append.mp hr with hr | hr
  · exact h.range r hr
  · exact hlaw r (Option.mem_toList.mp hr)

/-- Outside of `Send()`, the stream on a socket that is not down has been
announced. -/
theorem Kept.announced {p : Streams} (h : p.Kept) (hidle : p.service.Idle)
    {c : ConnId} (hc : c ∈ p.service.connections) {k : SocketId}
    (hk : (p.service.conn c).listenSocket = some k)
    (hup : (p.service.sockets k).state.isDown = false) :
    Announced p.rates (p.service.conn c) (p.announced k) := by
  have hbound := (h.inv.resting_of_idle hidle).bound c hc
  rcases h.tuned.tuned_of_idle hidle hk hup with hrate | hannounced
  · exact Or.inl hrate
  · exact (h.tuned.rate c hbound).imp id fun hmem => ⟨hmem, hannounced⟩

/-- On a socket on which nothing is said, nothing is out of order. -/
theorem announces_of_said_nil {p : Streams} {e : Event} {t : SpeechToText}
    {k : SocketId} (h : said p.service t k = []) :
    ((p.service.sockets k).state.isDown = false →
      Heard (rateOf e) (p.announced k) (said p.service t k)) ∧
    ∀ m, .start m ∈ said p.service t k →
      ∃ r ∈ p.rates ++ (rateOf e).toList, 0 ≤ r ∧ (m.rate : ℤ) = r := by
  rw [h]
  exact ⟨fun _ => trivial, fun m hm => absurd hm List.not_mem_nil⟩

theorem heard_of_up {p : Streams} {e : Event} {t : SpeechToText}
    (he : begun p.service e = none) {k : SocketId}
    (hup : (t.sockets k).state.isDown = false) :
    p.heard e t k = lastStart (p.announced k) (said p.service t k) := by
  rw [heard, if_neg]
  rw [he, hup]
  rintro (hdown | hbegun)
  · cases hdown
  · cases hbegun

/-- Outside of `Send()`, an event that moves no socket leaves the streams in
tune if each connection knows the rate of what has been said. -/
theorem Kept.tuned_of_unmoved {p : Streams} (h : p.Kept)
    (hidle : p.service.Idle) {e : Event} (he : begun p.service e = none)
    {t : SpeechToText} (hst : Unmoved p.service t) {rates : List ℤ}
    (hrate : ∀ c < p.service.nextConn,
      (t.conn c).recordingHZ = -1 ∨ (t.conn c).recordingHZ ∈ rates)
    (hsaid : ∀ c k, (p.service.conn c).listenSocket = some k →
      (p.service.sockets k).state.isDown = false →
      (t.conn c).recordingHZ = -1 ∨
        lastStart (p.announced k) (said p.service t k) =
          some (printedRate (t.conn c).recordingHZ)) :
    Tuned rates (p.heard e t) t := by
  constructor
  · intro c k hk
    rw [hst.listenSocket] at hk
    rw [hst.nextSocket, hst.owner]
    exact h.tuned.owned c k hk
  · intro c hc
    rw [hst.nextConn] at hc
    exact hrate c hc
  · intro call hcall
    rw [hst.sends, hidle.1] at hcall
    cases hcall
  · intro c k hk
    rw [hst.listenSocket] at hk
    cases hdown : (t.sockets k).state.isDown with
    | true => exact Or.inr (Or.inl rfl)
    | false =>
        rw [heard_of_up he hdown]
        rw [hst.isDown] at hdown
        exact (hsaid c k hk hdown).imp id fun h => Or.inr (Or.inr h)

/-! ### Clips -/

theorem Kept.spoken {p : Streams} (h : p.Kept) (hidle : p.service.Idle)
    (clip : SpeechAudioData) :
    Spoken p.service.connections clip p.service
      (p.service.connections.foldl (fun s c => sendAudio c clip s)
        p.service) := by
  have hresting := h.inv.resting_of_idle hidle
  apply spoken_foldl hresting.nodup
  · intro c hc
    obtain ⟨k, hk, -⟩ := (hresting.tended c hc).socket
    exact ⟨k, hk⟩
  · intro c c' k hk hk'
    rw [← (h.tuned.owned c k hk).2, ← (h.tuned.owned c' k hk').2]

/-- The clip is sent in order precisely when it is sent with care. -/
theorem Kept.announces_clip {p : Streams} (h : p.Kept)
    {clip : SpeechAudioData} (hlaw : InRange clip.rate) {t : SpeechToText}
    (ht : step p.service (.onListen clip) = some t) :
    p.Announces (.onListen clip) ↔ p.Careful (.onListen clip) := by
  obtain ⟨hidle, heq⟩ := whenIdle_eq_some ht
  by_cases hlistening : p.service.isListening = true
  · have hspoken := h.spoken hidle clip
    rw [onListen, if_pos hlistening] at heq
    rw [heq] at hspoken
    have hheard : ∀ c ∈ p.service.connections, ∀ k,
        (p.service.conn c).listenSocket = some k →
        (p.service.sockets k).state.isDown = false →
        (Heard (some clip.rate) (p.announced k) (said p.service t k) ↔
          (Loud p.service.settings clip →
            (p.service.conn c).listenActive = true →
            (p.service.conn c).recordingHZ < 0 ∨
              (p.service.conn c).recordingHZ = clip.rate)) := by
      intro c hc k hk hup
      rw [hspoken.said_current hc hk]
      exact heard_speech h.range hlaw (h.announced hidle hc hk hup)
    constructor
    · intro hannounces _ c hc k hk hup
      exact (hheard c hc k hk hup).mp ((hannounces t ht k).1 hup)
    · intro hcareful u hu k
      obtain rfl : t = u := Option.some.inj (ht.symm.trans hu)
      by_cases hcurrent : ∃ c ∈ p.service.connections,
          (p.service.conn c).listenSocket = some k
      · obtain ⟨c, hc, hk⟩ := hcurrent
        constructor
        · intro hup
          exact (hheard c hc k hk hup).mpr
            (hcareful hlistening c hc k hk hup)
        · intro m hm
          rw [hspoken.said_current hc hk] at hm
          refine ⟨clip.rate, ?_, hlaw.1, ?_⟩
          · exact List.mem_append_right _ List.mem_cons_self
          · rw [start_mem_speech hm]
            exact printedRate_eq hlaw
      · apply announces_of_said_nil
        apply hspoken.said_other
        exact fun c hc hk => hcurrent ⟨c, hc, hk⟩
  · rw [onListen, if_neg hlistening] at heq
    constructor
    · exact fun _ hlistens => absurd hlistens hlistening
    · intro _ u hu k
      obtain rfl : t = u := Option.some.inj (ht.symm.trans hu)
      apply announces_of_said_nil
      rw [← heq, said, List.drop_length]

/-- A clip leaves the streams in tune with what has been announced. -/
theorem Kept.tuned_clip {p : Streams} (h : p.Kept) {clip : SpeechAudioData}
    {t : SpeechToText} (hidle : p.service.Idle)
    (hspoken : Spoken p.service.connections clip p.service t) :
    Tuned (p.rates ++ [clip.rate]) (p.heard (.onListen clip) t) t := by
  have hother : ∀ c k, (p.service.conn c).listenSocket = some k →
      c ∉ p.service.connections → said p.service t k = [] := by
    intro c k hk hc
    apply hspoken.said_other
    intro c' hc' hk'
    apply hc
    rw [← (h.tuned.owned c k hk).2, (h.tuned.owned c' k hk').2]
    exact hc'
  apply h.tuned_of_unmoved hidle rfl hspoken.unmoved
  · intro c hc
    by_cases hmem : c ∈ p.service.connections
    · rw [hspoken.rate c hmem]
      split
      · exact Or.inr (List.mem_append_right _ List.mem_cons_self)
      · exact (h.tuned.rate c hc).imp id (List.mem_append_left _)
    · rw [hspoken.conn c hmem]
      exact (h.tuned.rate c hc).imp id (List.mem_append_left _)
  · intro c k hk hup
    by_cases hmem : c ∈ p.service.connections
    · rw [hspoken.rate c hmem, hspoken.said_current hmem hk, lastStart_speech]
      by_cases hrate : (p.service.conn c).recordingHZ < 0
      · rw [if_pos hrate, if_pos hrate]
        exact Or.inr rfl
      · rw [if_neg hrate, if_neg hrate]
        exact h.tuned.tuned_of_idle hidle hk hup
    · rw [hspoken.conn c hmem, hother c k hk hmem]
      exact h.tuned.tuned_of_idle hidle hk hup

/-- An event after which nothing has been said leaves the record as it is. -/
theorem Kept.hushed {p : Streams} (h : p.Kept) {e : Event} {t : SpeechToText}
    (hst : Hushed p.service e t) {rates : List ℤ}
    (hrates : ∀ r ∈ p.rates, r ∈ rates) :
    Tuned rates (p.heard e t) t := by
  let announced' : SocketId → Option ℕ := fun k =>
    if begun p.service e = some k then none else p.announced k
  have htuned : Tuned p.rates announced' t := by
    apply hst.tuned p.rates p.announced announced' h.tuned
    exact fun k hk => if_neg hk
  apply htuned.congr hrates
  intro k hup
  rw [heard, hup, hst.said k]
  by_cases hbegun : begun p.service e = some k
  · rw [if_pos (Or.inr hbegun)]
    exact (if_pos hbegun).symm
  · rw [if_neg (by simp [hbegun])]
    exact (if_neg hbegun).symm

/-! ### Results -/

/-- The messages that a result makes its connection send. -/
def restart (final : Bool) (s : SpeechToText) (c : ConnId) :
    List SocketMessage :=
  if !s.settings.continous && final then
    [.start (startMessage s.settings (s.conn c).recordingHZ)]
  else []

theorem speaks_results {s : SpeechToText} {c : ConnId} {k : SocketId}
    (hk : (s.conn c).listenSocket = some k) (confidence : ℚ) (final : Bool) :
    ∃ u, Speaks c k (restart final s c) s u ∧
      (∀ c', (u.conn c').recordingHZ = (s.conn c').recordingHZ) ∧
      Offstage u (onListenMessage c (.results confidence final) s) := by
  let s₁ : SpeechToText := { s with nextResult := s.nextResult + 1 }
  let r : RecognizeResults :=
    ⟨s.nextResult, c, (s.conn c).language, confidence, final⟩
  by_cases hrestart : (!s.settings.continous && final) = true
  · have hspeaks := speaks_sendStart (s := s₁) hk
    have hresult : onListenMessage c (.results confidence final) s =
        onReconizeResult r (sendStart c s₁) := by
      simp only [onListenMessage, hrestart, if_true]
      rfl
    rw [restart, if_pos hrestart, hresult]
    refine ⟨sendStart c s₁, { hspeaks with }, ?_,
      offstage_onReconizeResult r _⟩
    intro c'
    by_cases hc' : c' = c
    · rw [hc', sendStart_conn]
    · rw [hspeaks.conn c' hc']
  · have hresult : onListenMessage c (.results confidence final) s =
        onReconizeResult r s₁ := by
      simp only [onListenMessage, hrestart]
      rfl
    rw [restart, if_neg hrestart, hresult]
    exact ⟨s₁, { Speaks.refl c k s₁ with }, fun _ => rfl,
      offstage_onReconizeResult r s₁⟩

/-- A `start` without a rate announces no rate of a clip. -/
theorem printedRate_unset : (printedRate (-1) : ℤ) = 4294967295 := by
  decide

theorem heard_restart {final : Bool} {s : SpeechToText} {c : ConnId}
    {rate : Option ℤ} {last : Option ℕ} :
    Heard rate last (restart final s c) := by
  rw [restart]
  split
  · trivial
  · trivial

theorem start_mem_restart {final : Bool} {s : SpeechToText} {c : ConnId}
    {m : StartMessage} (hm : .start m ∈ restart final s c) :
    (!s.settings.continous && final) = true ∧
      m.rate = printedRate (s.conn c).recordingHZ := by
  rw [restart] at hm
  split at hm
  · rename_i hrestart
    cases List.mem_singleton.mp hm
    exact ⟨hrestart, rfl⟩
  · cases hm

theorem careful_results {p : Streams} {l : SocketId} {confidence : ℚ}
    {final : Bool} : p.Careful (.frame l (.results confidence final)) ↔
      ((!p.service.settings.continous && final) = true →
        0 ≤ (p.service.conn (p.service.sockets l).owner).recordingHZ) := by
  cases final with
  | true => simp [Careful]
  | false => simp [Careful]

/-- From `s` to `t` results have come for the connection `c`: only a restart may
have been said, on its socket `k`. -/
structure Restarted (final : Bool) (c : ConnId) (k : SocketId)
    (s t : SpeechToText) : Prop where
  bound : c < s.nextConn
  socket : (s.conn c).listenSocket = some k
  current : said s t k = restart final s c
  other : ∀ l, l ≠ k → said s t l = []
  unmoved : Unmoved s t
  rate : ∀ c', (t.conn c').recordingHZ = (s.conn c').recordingHZ

theorem Kept.restarted {p : Streams} (h : p.Kept) {l : SocketId}
    {confidence : ℚ} {final : Bool} {t : SpeechToText}
    (ht : step p.service (.frame l (.results confidence final)) = some t) :
    ∃ k, Restarted final (p.service.sockets l).owner k p.service t := by
  obtain ⟨hidle, hc, rfl⟩ := of_step_frame ht
  have hresting := h.inv.resting_of_idle hidle
  obtain ⟨k, hk, -⟩ := (hresting.tended _ hc).socket
  obtain ⟨u, hspeaks, hrate, hoff⟩ := speaks_results hk confidence final
  refine ⟨k, hresting.bound _ hc, hk, ?_, ?_, ?_, ?_⟩
  · rw [said, hoff.sockets, hspeaks.messages, List.drop_left]
  · intro k' hk'
    rw [said, hoff.sockets, hspeaks.sockets k' hk', List.drop_length]
  · exact hspeaks.unmoved.offstage hoff
  · intro c'
    rw [hoff.conn]
    exact hrate c'

/-- Results are in order precisely when they are received with care. -/
theorem Kept.announces_results {p : Streams} (h : p.Kept) {l : SocketId}
    {confidence : ℚ} {final : Bool} {t : SpeechToText}
    (ht : step p.service (.frame l (.results confidence final)) = some t) :
    p.Announces (.frame l (.results confidence final)) ↔
      p.Careful (.frame l (.results confidence final)) := by
  let c : ConnId := (p.service.sockets l).owner
  obtain ⟨k, hst⟩ := h.restarted ht
  rw [careful_results]
  constructor
  · intro hannounces hrestart
    have hm : .start (startMessage p.service.settings
        (p.service.conn c).recordingHZ) ∈ said p.service t k := by
      rw [hst.current, restart, if_pos hrestart]
      exact List.mem_cons_self
    obtain ⟨r, hr, -, hprinted⟩ := (hannounces t ht k).2 _ hm
    have hrange : InRange r := by
      apply h.range
      simpa [rateOf] using hr
    rcases h.tuned.rate c hst.bound with hunset | hmem
    · rw [startMessage, hunset, printedRate_unset] at hprinted
      have hlt := hrange.2
      omega
    · exact (h.range _ hmem).1
  · intro hcareful t' ht' k'
    obtain rfl : t = t' := Option.some.inj (ht.symm.trans ht')
    by_cases hk : k' = k
    · rw [hk, hst.current]
      refine ⟨fun _ => heard_restart, fun m hm => ?_⟩
      obtain ⟨hrestart, hm⟩ := start_mem_restart hm
      have hnonneg : 0 ≤ (p.service.conn c).recordingHZ := hcareful hrestart
      have hmem : (p.service.conn c).recordingHZ ∈ p.rates := by
        apply (h.tuned.rate c hst.bound).resolve_left
        omega
      refine ⟨_, List.mem_append_left _ hmem, hnonneg, ?_⟩
      rw [hm]
      exact printedRate_eq (h.range _ hmem)
    · exact announces_of_said_nil (hst.other k' hk)

/-- Results leave the streams in tune with what has been announced. -/
theorem Kept.tuned_results {p : Streams} (h : p.Kept) {l : SocketId}
    {confidence : ℚ} {final : Bool} {t : SpeechToText}
    (ht : step p.service (.frame l (.results confidence final)) = some t) :
    Tuned p.rates (p.heard (.frame l (.results confidence final)) t) t := by
  obtain ⟨k, hst⟩ := h.restarted ht
  have hidle : p.service.Idle := (of_step_frame ht).1
  apply h.tuned_of_unmoved hidle rfl hst.unmoved
  · intro c' hc'
    rw [hst.rate]
    exact h.tuned.rate c' hc'
  · intro c' k' hk' hup
    rw [hst.rate]
    refine (h.tuned.tuned_of_idle hidle hk' hup).imp id fun hannounced => ?_
    by_cases hk : k' = k
    · subst hk
      have hconn : c' = (p.service.sockets l).owner := by
        rw [← (h.tuned.owned c' k' hk').2, (h.tuned.owned _ k' hst.socket).2]
      rw [hst.current, restart, ← hconn]
      split
      · rfl
      · exact hannounced
    · rw [hst.other k' hk]
      exact hannounced

/-! ### All events -/

theorem careful_of_silent {p : Streams} {e : Event} (he : speaks e = false) :
    p.Careful e := by
  cases e with
  | onListen clip => cases he
  | frame l frame =>
      cases frame with
      | results confidence final => cases he
      | _ => trivial
  | _ => trivial

theorem Kept.next {p q : Streams} {e : Event} (h : p.Kept) (hlaw : Lawful e)
    (hq : p.next e = some q) : q.Kept := by
  obtain ⟨t, ht, rfl⟩ := Option.map_eq_some_iff.mp hq
  have hinv : Inv False t := inv_step h.inv False.elim ht
  have hrange := h.range_next hlaw
  have hmore : ∀ r ∈ p.rates, r ∈ p.rates ++ (rateOf e).toList :=
    fun r hr => List.mem_append_left _ hr
  by_cases hspeaks : speaks e = true
  · cases e with
    | onListen clip =>
        obtain ⟨hidle, heq⟩ := whenIdle_eq_some ht
        refine ⟨hinv, ?_, hrange⟩
        by_cases hlistening : p.service.isListening = true
        · have hspoken := h.spoken hidle clip
          rw [onListen, if_pos hlistening] at heq
          rw [heq] at hspoken
          exact h.tuned_clip hidle hspoken
        · rw [onListen, if_neg hlistening] at heq
          apply h.hushed _ hmore
          rw [← heq]
          exact (Silent.refl p.service).hushed rfl
    | frame l frame =>
        cases frame with
        | results confidence final =>
            refine ⟨hinv, ?_, hrange⟩
            exact (h.tuned_results ht).congr hmore fun _ _ => rfl
        | _ => cases hspeaks
    | _ => cases hspeaks
  · have hst : Hushed p.service e t :=
      hushed_step h.inv (Bool.eq_false_iff.mpr hspeaks) ht
    exact ⟨hinv, h.hushed hst hmore, hrange⟩

theorem Kept.announces_iff {p q : Streams} {e : Event} (h : p.Kept)
    (hlaw : Lawful e) (hq : p.next e = some q) :
    p.Announces e ↔ p.Careful e := by
  obtain ⟨t, ht, -⟩ := Option.map_eq_some_iff.mp hq
  by_cases hspeaks : speaks e = true
  · cases e with
    | onListen clip => exact h.announces_clip (hlaw clip.rate rfl) ht
    | frame l frame =>
        cases frame with
        | results confidence final => exact h.announces_results ht
        | _ => cases hspeaks
    | _ => cases hspeaks
  · have hst : Hushed p.service e t :=
      hushed_step h.inv (Bool.eq_false_iff.mpr hspeaks) ht
    refine ⟨fun _ => careful_of_silent (Bool.eq_false_iff.mpr hspeaks), ?_⟩
    intro _ t' ht' k
    obtain rfl : t = t' := Option.some.inj (ht.symm.trans ht')
    exact announces_of_said_nil (hst.said k)

/-- For clips of non-negative rates, the protocol is kept in a run precisely when
no clip is sent on a stream of another rate, and no `start` is repeated for a
stream without one. -/
theorem announces_iff_careful (settings : Settings) (es : List Event)
    (hrates : ∀ clip, .onListen clip ∈ es → InRange clip.rate) :
    EachStep next Announces (new settings) es ↔
      EachStep next Careful (new settings) es := by
  apply eachStep_congr (I := Kept) (L := Lawful)
  · exact fun p e q h hlaw hq => h.next hlaw hq
  · exact fun p e q h hlaw hq => h.announces_iff hlaw hq
  · exact kept_new settings
  · intro e he r hr
    cases e with
    | onListen clip =>
        cases hr
        exact hrates clip he
    | _ => cases hr

/-- A clip of 16 kHz on a new stream, to which the server is listening. -/
def announcedOnce : List Event :=
  [.startListening (some 0), .sendReturns true .connected,
    .frame 0 (.state "listening"), .onListen ⟨16000, 1, "first"⟩]

/-- A clip of 8 kHz follows. -/
def secondRate : List Event := announcedOnce ++ [.onListen ⟨8000, 1, "second"⟩]

theorem announces_iff_careful_secondRate :
    EachStep next Announces (new oneModel) secondRate ↔
      EachStep next Careful (new oneModel) secondRate := by
  apply announces_iff_careful
  intro clip hclip
  simp only [secondRate, announcedOnce, List.cons_append, List.nil_append,
    List.mem_cons, Event.onListen.injEq, List.not_mem_nil, or_false,
    reduceCtorEq, false_or] at hclip
  rcases hclip with rfl | rfl
  · exact ⟨by decide, by decide⟩
  · exact ⟨by decide, by decide⟩

/-- The second clip is sent as audio of the first rate. -/
theorem not_announces_secondRate :
    ¬EachStep next Announces (new oneModel) secondRate := by
  intro h
  have hstate : (run next (new oneModel) announcedOnce).map
      (fun p => (p.announced 0, (p.service.sockets 0).state.isDown,
        (step p.service (.onListen ⟨8000, 1, "second"⟩)).map
          fun t => said p.service t 0)) =
      some (some 16000, false, some [.binary "second"]) := rfl
  obtain ⟨p, hrun, hp⟩ := Option.map_eq_some_iff.mp hstate
  simp only [Prod.mk.injEq] at hp
  obtain ⟨hannounced, hup, hsaid⟩ := hp
  obtain ⟨t, ht, hbinary⟩ := Option.map_eq_some_iff.mp hsaid
  have hnext : (p.next (.onListen ⟨8000, 1, "second"⟩)).isSome = true := by
    rw [next, Option.isSome_map, ht]
    rfl
  obtain ⟨q, hq⟩ := Option.isSome_iff_exists.mp hnext
  have hheard := ((h.after hrun q hq).1 t ht 0).1 hup
  rw [hannounced, hbinary] at hheard
  obtain ⟨⟨r, hr, hrate⟩, -⟩ := hheard
  cases hr
  exact absurd hrate (by decide)

end Streams

end SpeechToText

end SelfPlugins.Stt
