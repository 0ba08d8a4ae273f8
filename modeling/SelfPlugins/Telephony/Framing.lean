import SelfPlugins.Library.Runs
import SelfPlugins.Telephony.Model

/-!
# Telephony: the framing of audio

Seen as one sequence of samples, the queue gives each frame its first
`m_nSendBytes` samples: this is what the loop of `OnSendAudioData` computes,
however the samples are cut into chunks.  A tick of the send timer therefore
sends one frame of the right size, and over the ticks and the calls of
`SendAudioIn` of a call nothing is lost, repeated or moved.
-/

namespace SelfPlugins.Nexmo

open Runs

namespace Telephony

/-! ## The loop -/

section

variable {α : Type*} {n : ℕ}

/-- One round of the loop moves `xs` from the queue to the frame. -/
theorem take_moved {frame xs ys : List α}
    (hxs : xs.length ≤ n - frame.length) :
    (frame ++ xs) ++ ys.take (n - (frame ++ xs).length) =
      frame ++ (xs ++ ys).take (n - frame.length) := by
  have hlength : n - (frame ++ xs).length = n - frame.length - xs.length := by
    rw [List.length_append]
    omega
  rw [hlength, List.take_append, List.take_of_length_le hxs,
    List.append_assoc]

theorem drop_moved {frame xs ys : List α}
    (hxs : xs.length ≤ n - frame.length) :
    ys.drop (n - (frame ++ xs).length) =
      (xs ++ ys).drop (n - frame.length) := by
  have hlength : n - (frame ++ xs).length = n - frame.length - xs.length := by
    rw [List.length_append]
    omega
  rw [hlength, List.drop_append, List.drop_of_length_le hxs,
    List.nil_append]

/-- The frame takes the samples it can hold, and the queue keeps the others. -/
theorem fillFrame_eq (frame : List α) (queue : List (List α)) :
    (fillFrame n frame queue).1 =
        frame ++ queue.flatten.take (n - frame.length) ∧
      (fillFrame n frame queue).2.flatten =
        queue.flatten.drop (n - frame.length) := by
  fun_induction fillFrame n frame queue with
  | case1 frame => simp
  | case2 frame data rest hframe remaining bytes hbytes ih =>
      have hall : data.take bytes = data := List.take_of_length_le hbytes.ge
      have hfits : data.length ≤ n - frame.length := by omega
      rw [hall] at ih ⊢
      rw [ih.1, ih.2, List.flatten_cons]
      exact ⟨take_moved hfits, drop_moved hfits⟩
  | case3 frame data rest hframe remaining bytes hbytes ih =>
      have hfits : (data.take bytes).length ≤ n - frame.length := by
        rw [List.length_take]
        omega
      have hsplit : (data :: rest).flatten =
          data.take bytes ++ (data.drop bytes :: rest).flatten := by
        rw [List.flatten_cons, List.flatten_cons, ← List.append_assoc,
          List.take_append_drop]
      rw [ih.1, ih.2, hsplit]
      exact ⟨take_moved hfits, drop_moved hfits⟩
  | case4 frame data rest hframe =>
      have hfull : n - frame.length = 0 := by omega
      rw [hfull, List.take_zero, List.append_nil, List.drop_zero]
      exact ⟨rfl, rfl⟩

/-- A frame that is not full has emptied the queue. -/
theorem fillFrame_drained {frame : List α} {queue : List (List α)}
    (h : (fillFrame n frame queue).1.length < n) :
    (fillFrame n frame queue).2 = [] := by
  fun_induction fillFrame n frame queue with
  | case1 frame => rfl
  | case2 frame data rest hframe remaining bytes hbytes ih => exact ih h
  | case3 frame data rest hframe remaining bytes hbytes ih => exact ih h
  | case4 frame data rest hframe => exact absurd h hframe

end

/-! ## One tick -/

/-- The bytes that wait to be sent. -/
def waiting (s : Telephony) : List UInt8 :=
  s.outgoing.flatten.map Sample.byte

/-- A tick sends one full frame on `k`, with zeros only if the queue has been
emptied; the frame takes the front of the queue, and the rest stays. -/
structure Ticked (k : SocketId) (f : AudioFrame) (s t : Telephony) : Prop where
  log : t.log = s.log ++ [.binary k f]
  size : f.bytes.length = s.nSendBytes
  drained : f.padding ≠ 0 → t.outgoing = []
  taken : f.data = s.outgoing.flatten.take s.nSendBytes
  left : t.outgoing.flatten = s.outgoing.flatten.drop s.nSendBytes

/-- What is sent and what is left is what was waiting. -/
theorem Ticked.conserved {k : SocketId} {f : AudioFrame} {s t : Telephony}
    (h : Ticked k f s t) : f.audio ++ t.waiting = s.waiting := by
  rw [AudioFrame.audio, waiting, waiting, h.taken, h.left, ← List.map_append,
    List.take_append_drop]

/-- A call goes on over the connection `k`, with frames of `n` bytes, and the
main thread is idle. -/
structure Calling (k : SocketId) (n : ℕ) (s : Telephony) : Prop where
  connection : s.connection = some k
  inCall : s.inCall = true
  timer : s.sendTimer = true
  bytes : s.nSendBytes = n
  idle : s.sends = []

theorem Calling.tick {k : SocketId} {n : ℕ} {s : Telephony}
    (h : Calling k n s) : ∃ f t, step s .sendTimer = some t ∧
      Calling k n t ∧ Ticked k f s t := by
  let filled := fillFrame s.nSendBytes [] s.outgoing
  let f : AudioFrame := ⟨filled.1, s.nSendBytes - filled.1.length⟩
  let t : Telephony :=
    { s with
      outgoing := filled.2
      log := s.log ++ [.binary k f] }
  have hsent : onSendAudioData s = t := by
    rw [onSendAudioData]
    split
    · rename_i l hl
      obtain rfl : k = l := Option.some.inj (h.connection.symm.trans hl)
      exact if_pos h.inCall
    · rename_i hnone
      rw [h.connection] at hnone
      cases hnone
  have hstep : step s .sendTimer = some t := by
    rw [step, if_pos h.timer, whenIdle, if_pos h.idle, hsent]
  obtain ⟨htake, hdrop⟩ := fillFrame_eq (n := s.nSendBytes) [] s.outgoing
  rw [List.nil_append, List.length_nil, Nat.sub_zero] at htake
  rw [List.length_nil, Nat.sub_zero] at hdrop
  refine ⟨f, t, hstep, { h with }, ?_⟩
  constructor
  · rfl
  · have hle : filled.1.length ≤ s.nSendBytes :=
      htake ▸ List.length_take_le _ _
    simp only [f, AudioFrame.bytes, AudioFrame.audio, List.length_append,
      List.length_map, List.length_replicate]
    omega
  · intro hpadding
    apply fillFrame_drained
    exact Nat.lt_of_sub_ne_zero hpadding
  · exact htake
  · exact hdrop

/-- A run that leads into a call may go on with a tick. -/
theorem Calling.tick_of_throughout {P : Telephony → Prop} {k : SocketId}
    {n : ℕ} {es : List Event} {s t : Telephony} (hcalling : Calling k n t)
    (h : Throughout step P s (es ++ [.sendTimer]))
    (hrun : run step s es = some t) : ∃ f u, P u ∧ Ticked k f t u := by
  obtain ⟨f, u, hu, -, hticked⟩ := hcalling.tick
  have hlast : Throughout step P t [.sendTimer] := h.of_run hrun
  exact ⟨f, u, hlast.2 u hu, hticked⟩

/-! ## A call -/

/-- The events of the transmission of audio. -/
def Event.ofAudio : Event → Bool
  | .sendAudioIn _ | .sendTimer => true
  | _ => false

/-- The ticks among some events. -/
def ticks (es : List Event) : ℕ :=
  es.countP fun
    | .sendTimer => true
    | _ => false

/-- The audio of the calls of `SendAudioIn` among some events. -/
def offered (es : List Event) : List UInt8 :=
  es.flatMap fun
    | .sendAudioIn audio => audio
    | _ => []

theorem Calling.accept {k : SocketId} {n : ℕ} {s : Telephony}
    (h : Calling k n s) (audio : List UInt8) :
    ∃ t, step s (.sendAudioIn audio) = some t ∧ Calling k n t ∧
      t.log = s.log ∧ t.waiting = s.waiting ++ audio := by
  refine ⟨_, if_pos h.idle, ?_⟩
  have haccepted : s.connection.isSome ∧ s.inCall :=
    ⟨by rw [h.connection]; rfl, h.inCall⟩
  rw [sendAudioIn, if_pos haccepted]
  refine ⟨{ h with }, rfl, ?_⟩
  have hbytes : (audio.map (⟨·, calls s.log⟩)).map Sample.byte = audio := by
    rw [List.map_map]
    exact List.map_id audio
  rw [waiting, waiting, List.flatten_append, List.map_append,
    List.flatten_singleton, hbytes]

/-- A tick of the send timer sends one frame on `k`. -/
def TicksOnce (k : SocketId) (s : Telephony) (e : Event) : Prop :=
  e = .sendTimer → ∃ f t, step s e = some t ∧ Ticked k f s t

/-- What a run of a call has done: `frames` are sent, of `n` bytes each, and
together with the queue they are what was waiting and what has been offered. -/
structure Framed (k : SocketId) (n : ℕ) (es : List Event)
    (frames : List AudioFrame) (s t : Telephony) : Prop where
  log : t.log = s.log ++ frames.map (.binary k)
  count : frames.length = ticks es
  size : ∀ f ∈ frames, f.bytes.length = n
  conserved : frames.flatMap AudioFrame.audio ++ t.waiting =
    s.waiting ++ offered es

theorem framed_nil (k : SocketId) (n : ℕ) (s : Telephony) :
    Framed k n [] [] s s where
  log := by simp
  count := rfl
  size := by simp
  conserved := by simp [offered]

theorem Framed.tick {k : SocketId} {n : ℕ} {es : List Event}
    {frames : List AudioFrame} {f : AudioFrame} {s t u : Telephony}
    (hn : s.nSendBytes = n) (hf : Ticked k f s t)
    (h : Framed k n es frames t u) :
    Framed k n (.sendTimer :: es) (f :: frames) s u where
  log := by
    rw [h.log, hf.log, List.append_assoc]
    rfl
  count := by
    rw [List.length_cons, h.count]
    exact (List.countP_cons_of_pos rfl).symm
  size := by
    intro g hg
    rcases List.mem_cons.mp hg with rfl | hg
    · exact hf.size.trans hn
    · exact h.size g hg
  conserved := by
    rw [List.flatMap_cons, List.append_assoc, h.conserved,
      ← List.append_assoc, hf.conserved]
    rfl

theorem Framed.accept {k : SocketId} {n : ℕ} {es : List Event}
    {frames : List AudioFrame} {audio : List UInt8} {s t u : Telephony}
    (hlog : t.log = s.log) (hwaiting : t.waiting = s.waiting ++ audio)
    (h : Framed k n es frames t u) :
    Framed k n (.sendAudioIn audio :: es) frames s u where
  log := hlog ▸ h.log
  count := h.count
  size := h.size
  conserved := by
    rw [h.conserved, hwaiting, List.append_assoc]
    rfl

/-- The calls of `SendAudioIn` and the ticks of a call come in any order: each
tick sends one frame of `m_nSendBytes` bytes, filled up with zeros only if it
has emptied the queue, and the frames without their zeros, followed by the
queue, are the queue at the start, followed by all the audio. -/
theorem framing_conserves {k : SocketId} {n : ℕ} {s : Telephony}
    {es : List Event} (hcalling : Calling k n s)
    (hes : ∀ e ∈ es, e.ofAudio = true) :
    ∃ frames t, run step s es = some t ∧ EachStep step (TicksOnce k) s es ∧
      Framed k n es frames s t := by
  induction es generalizing s with
  | nil => exact ⟨[], s, rfl, trivial, framed_nil k n s⟩
  | cons e es ih =>
      have hrest : ∀ e ∈ es, e.ofAudio = true := fun e he =>
        hes e (List.mem_cons_of_mem _ he)
      have he : e.ofAudio = true := hes e List.mem_cons_self
      cases e with
      | sendAudioIn audio =>
          obtain ⟨t, ht, hcalling', hlog, hwaiting⟩ := hcalling.accept audio
          obtain ⟨frames, u, hrun, heach, hframed⟩ := ih hcalling' hrest
          refine ⟨frames, u, ?_, ?_, hframed.accept hlog hwaiting⟩
          · rw [run_cons, ht]
            exact hrun
          · intro v hv
            obtain rfl : t = v := Option.some.inj (ht.symm.trans hv)
            exact ⟨nofun, heach⟩
      | sendTimer =>
          obtain ⟨f, t, ht, hcalling', hticked⟩ := hcalling.tick
          obtain ⟨frames, u, hrun, heach, hframed⟩ := ih hcalling' hrest
          refine ⟨f :: frames, u, ?_, ?_, hframed.tick hcalling.bytes hticked⟩
          · rw [run_cons, ht]
            exact hrun
          · intro v hv
            obtain rfl : t = v := Option.some.inj (ht.symm.trans hv)
            exact ⟨fun _ => ⟨f, t, ht, hticked⟩, heach⟩
      | _ => cases he

/-- Credentials, and audio of 16 bits at 16 kHz. -/
def account : Settings :=
  ⟨"user", "password", some ⟨16000, 16, 1⟩, toString⟩

/-- A call in which audio of five bytes waits for frames of four. -/
def shortCall : Telephony :=
  { new account with
    connection := some 0
    inCall := true
    sendTimer := true
    nSendBytes := 4
    outgoing := [[⟨1, 1⟩], [⟨2, 1⟩, ⟨3, 1⟩, ⟨4, 1⟩, ⟨5, 1⟩]] }

theorem framing_conserves_shortCall :
    ∃ frames t, run step shortCall [.sendTimer, .sendAudioIn [6], .sendTimer] =
        some t ∧
      EachStep step (TicksOnce 0) shortCall
        [.sendTimer, .sendAudioIn [6], .sendTimer] ∧
      Framed 0 4 [.sendTimer, .sendAudioIn [6], .sendTimer] frames
        shortCall t := by
  apply framing_conserves
  · exact ⟨rfl, rfl, rfl, rfl, rfl⟩
  · decide

end Telephony

end SelfPlugins.Nexmo
