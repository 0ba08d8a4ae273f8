import SelfPlugins.Framework.Text
import SelfPlugins.Library.Loops
import SelfPlugins.Library.Ring
import SelfPlugins.Speech.WinPlayback

/-!
# The ring buffer of the streamed sounds of Windows

`OnStreamData` writes the chunks of a stream to a looping buffer of one second,
which it creates for the first chunk.  It starts the device at the beginning of
the buffer when a chunk ends in the second half, and never asks where the device
is playing.

`faithful_iff` says in which runs the bytes of the stream stay in the buffer
until they have been played.
-/

namespace SelfPlugins.WinRing

open Runs Text WinPlayback

/-- The members of `WAVEFORMATEX` that are set. -/
structure WaveFormat where
  nChannels : ℕ := 1
  nSamplesPerSec : ℕ := 16000
  wBitsPerSample : ℕ := 16
  nBlockAlign : ℕ := 0
  nAvgBytesPerSec : ℕ := 0
deriving DecidableEq

/-- The buffer of the device, with the play cursor. -/
structure SoundBuffer where
  bytes : List UInt8
  playing : Bool := false
  cursor : ℕ := 0
deriving DecidableEq

/-- The members of the gesture that `OnStreamData` uses.  `stream` are the bytes
accepted for the present buffer, `waiting` are the offsets of those that the
play cursor has not passed yet, and `lost` those that have been overwritten
before it has.  `hung` is whether the loop over `m_nWritePos` has not ended. -/
structure WinSoundGesture where
  m_pBuffer : Option SoundBuffer := none
  m_nWritePos : ℕ := 0
  m_nWriteEnd : ℕ := 0
  stream : List UInt8 := []
  waiting : List ℕ := []
  lost : List ℕ := []
  hung : Bool := false
deriving DecidableEq

/-! ## Content types -/

def atoi (s : String) : ℤ :=
  ((scanInt (s.toList.dropWhile isSpace)).map Prod.fst).getD 0

/-- The value of a `WORD` to which a number is assigned. -/
def word (x : ℤ) : ℕ := (x % 65536).toNat

section

variable (u : StringUtil)

/-- One parameter of a content type. -/
def readParameter (wfx : WaveFormat) (part : String) : WaveFormat :=
  match u.split part '=' with
  | [key, value] =>
      if u.compare key "rate" then
        { wfx with nSamplesPerSec := dword (atoi value) }
      else if u.compare key "channels" then
        { wfx with nChannels := word (atoi value) }
      else wfx
  | _ => wfx

def parseContentType (a_ContentType : String) : Option WaveFormat :=
  match u.split a_ContentType ';' with
  | [] => none
  | part :: parts =>
      let bits := if u.compare part "audio/L8" then some 8
        else if u.compare part "audio/L16" then some 16 else none
      bits.map fun wBitsPerSample =>
        let wfx := parts.foldl (readParameter u) { wBitsPerSample }
        let nBlockAlign := word (wfx.wBitsPerSample / 8 * wfx.nChannels)
        { wfx with
          nBlockAlign
          nAvgBytesPerSec := dword (wfx.nSamplesPerSec * nBlockAlign) }

end

namespace WinSoundGesture

/-! ## Translated functions -/

/-- `Lock`, which succeeds for lengths up to the size of the buffer. -/
def locks (dwBufferBytes bytes : ℕ) : Bool :=
  decide (0 < bytes ∧ bytes ≤ dwBufferBytes)

/-- The first part of `OnStreamData`: a buffer is created if there is none,
which may fail.  A buffer that cannot be locked is released. -/
def createBuffer (u : StringUtil) (contentType : String) (created : Bool)
    (s : WinSoundGesture) : WinSoundGesture :=
  match s.m_pBuffer, parseContentType u contentType with
  | none, some wfx =>
      let s := { s with
        m_nWriteEnd := wfx.nAvgBytesPerSec
        m_nWritePos := 0
        stream := []
        waiting := [] }
      if created && locks wfx.nAvgBytesPerSec wfx.nAvgBytesPerSec then
        { s with
          m_pBuffer := some { bytes := List.replicate wfx.nAvgBytesPerSec 0 } }
      else s
  | _, _ => s

/-- One round of the loop over `m_nWritePos`. -/
def wrapRound (m_nWriteEnd m_nWritePos : ℕ) : Option ℕ :=
  if m_nWritePos ≥ m_nWriteEnd then some (m_nWritePos - m_nWriteEnd) else none

/-- The bytes are copied to the locked region, which is split at the end of the
buffer. -/
def copy (position : ℕ) (audio buffer : List UInt8) : List UInt8 :=
  let bytes := min audio.length (buffer.length - position)
  overwrite 0 (audio.drop bytes) (overwrite position (audio.take bytes) buffer)

/-- The offset is in one of the cells of the next `n` bytes. -/
def covers (m_nWriteEnd m_nWritePos n o : ℕ) : Bool :=
  (List.range n).any fun j => (m_nWritePos + j) % m_nWriteEnd = o % m_nWriteEnd

/-- What writing `n` bytes means for the bytes of the stream. -/
def account (audio : List UInt8) (s : WinSoundGesture) : WinSoundGesture :=
  let covered := covers s.m_nWriteEnd s.m_nWritePos audio.length
  { s with
    stream := s.stream ++ audio
    waiting := s.waiting.filter (fun o => !covered o) ++
      List.range' s.stream.length audio.length
    lost := s.lost ++ s.waiting.filter covered }

/-- The device is started when more than half of the buffer has been filled. -/
def startPlaying (b : SoundBuffer) (s : WinSoundGesture) : SoundBuffer :=
  if s.m_nWritePos > s.m_nWriteEnd / 2 ∧ b.playing = false then
    { b with playing := true, cursor := 0 }
  else b

/-- The second part of `OnStreamData`: the chunk is written. -/
def writeChunk (m_Content : List UInt8) (b : SoundBuffer)
    (s : WinSoundGesture) : WinSoundGesture :=
  let audio := m_Content.take (dword m_Content.length)
  if locks s.m_nWriteEnd audio.length then
    let bytes := copy s.m_nWritePos audio b.bytes
    let next := s.account audio
    let m_nWritePos := dword (s.m_nWritePos + audio.length)
    match loop (wrapRound s.m_nWriteEnd) (m_nWritePos + 1) m_nWritePos with
    | none => { next with hung := true }
    | some m_nWritePos =>
        let next := { next with m_nWritePos }
        { next with m_pBuffer := some (next.startPlaying { b with bytes }) }
  else s

def onStreamData (u : StringUtil) (contentType : String)
    (m_Content : List UInt8) (created : Bool) (s : WinSoundGesture) :
    WinSoundGesture :=
  let s := s.createBuffer u contentType created
  match s.m_pBuffer with
  | none => s
  | some b => if m_Content = [] then s else s.writeChunk m_Content b

/-- A chunk comes in, the play cursor moves on by `n` bytes, or the buffer is
released in `OnPlayDone`. -/
inductive Event where
  | onStreamData (contentType : String) (m_Content : List UInt8)
      (created : Bool)
  | played (n : ℕ)
  | onPlayDone

def step (u : StringUtil) (s : WinSoundGesture) :
    Event → Option WinSoundGesture
  | .onStreamData contentType m_Content created =>
      some (s.onStreamData u contentType m_Content created)
  | .played n =>
      match s.m_pBuffer with
      | none => none
      | some b =>
          if b.playing then
            some { s with
              m_pBuffer := some { b with
                cursor := (b.cursor + n) % s.m_nWriteEnd }
              waiting := s.waiting.filter fun o =>
                !covers s.m_nWriteEnd b.cursor n o }
          else none
  | .onPlayDone => some { s with m_pBuffer := none }

/-! ## The law -/

/-- The loop over `m_nWritePos` has ended, the position is that of the stream,
the last bytes are in the buffer at their offsets, and none has been overwritten
before it was played. -/
structure Faithful (s : WinSoundGesture) : Prop where
  ends : s.hung = false
  position : ∀ b, s.m_pBuffer = some b → s.stream ≠ [] →
    s.m_nWritePos < s.m_nWriteEnd ∧
      s.m_nWritePos = s.stream.length % s.m_nWriteEnd
  stored : ∀ b, s.m_pBuffer = some b →
    Ring.Stored s.m_nWriteEnd s.stream fun i => b.bytes[i]?
  kept : s.lost = []

/-- The sum of position and length is a `DWORD`, and the chunk fits into the
buffer in front of the oldest byte that has not been played. -/
def Fits (s : WinSoundGesture) (n : ℕ) : Prop :=
  s.m_nWritePos + n < 4294967296 ∧
    ∀ o ∈ s.waiting, s.stream.length + n ≤ o + s.m_nWriteEnd

/-- A chunk that can be written to the present buffer fits. -/
def InTime (s : WinSoundGesture) : Event → Prop
  | .onStreamData _ m_Content _ =>
      s.m_pBuffer ≠ none →
        locks s.m_nWriteEnd (dword m_Content.length) = true →
          s.Fits (dword m_Content.length)
  | _ => True

/-- The invariant, of the present buffer. -/
structure Sound (s : WinSoundGesture) : Prop where
  ends : s.hung = false
  kept : s.lost = []
  small : s.m_nWriteEnd < 4294967296
  length : ∀ b, s.m_pBuffer = some b → b.bytes.length = s.m_nWriteEnd
  position : s.m_nWritePos = s.stream.length % s.m_nWriteEnd
  positive : s.stream ≠ [] → 0 < s.m_nWriteEnd
  stored : ∀ b, s.m_pBuffer = some b →
    Ring.Stored s.m_nWriteEnd s.stream fun i => b.bytes[i]?
  waiting : ∀ o ∈ s.waiting, o < s.stream.length ∧
    s.stream.length ≤ o + s.m_nWriteEnd

variable {u : StringUtil} {s t : WinSoundGesture} {b : SoundBuffer}

theorem Sound.faithful (h : Sound s) : Faithful s where
  ends := h.ends
  position := fun _ _ hne => by
    rw [h.position]
    exact ⟨Nat.mod_lt _ (h.positive hne), rfl⟩
  stored := h.stored
  kept := h.kept

/-! ## Copying -/

theorem getElem?_overwrite {position : ℕ} {bytes buffer : List UInt8}
    (h : position + bytes.length ≤ buffer.length) (i : ℕ) :
    (overwrite position bytes buffer)[i]? =
      if position ≤ i ∧ i < position + bytes.length then bytes[i - position]?
      else buffer[i]? := by
  have htake : (buffer.take position).length = position :=
    List.length_take_of_le (by omega)
  unfold overwrite
  rw [List.append_assoc]
  rcases Nat.lt_or_ge i position with hi | hi
  · rw [List.getElem?_append_left (by omega), List.getElem?_take_of_lt hi,
      if_neg (by omega)]
  · rw [List.getElem?_append_right (by omega), htake]
    rcases Nat.lt_or_ge i (position + bytes.length) with hi' | hi'
    · rw [List.getElem?_append_left (by omega), if_pos ⟨hi, hi'⟩]
    · rw [List.getElem?_append_right (by omega), List.getElem?_drop,
        if_neg (by omega)]
      congr 1
      omega

theorem length_overwrite {position : ℕ} {bytes buffer : List UInt8}
    (h : position + bytes.length ≤ buffer.length) :
    (overwrite position bytes buffer).length = buffer.length := by
  unfold overwrite
  simp only [List.length_append, List.length_take, List.length_drop]
  omega

theorem length_copy {position : ℕ} {audio buffer : List UInt8}
    (hposition : position < buffer.length)
    (haudio : audio.length ≤ buffer.length) :
    (copy position audio buffer).length = buffer.length := by
  have hfront : (overwrite position (audio.take
      (min audio.length (buffer.length - position))) buffer).length =
        buffer.length :=
    length_overwrite (by rw [List.length_take]; omega)
  unfold copy
  rw [length_overwrite (by rw [hfront, List.length_drop]; omega), hfront]

/-- What is in the cells after copying. -/
theorem getElem?_copy {position : ℕ} {audio buffer : List UInt8}
    (hposition : position < buffer.length)
    (haudio : audio.length ≤ buffer.length) (i : ℕ) :
    (copy position audio buffer)[i]? =
      if i + (buffer.length - position) < audio.length then
        audio[i + (buffer.length - position)]?
      else if position ≤ i ∧ i < buffer.length ∧
          i < position + audio.length then
        audio[i - position]?
      else buffer[i]? := by
  have htake : (audio.take
      (min audio.length (buffer.length - position))).length =
        min audio.length (buffer.length - position) := by
    rw [List.length_take]
    omega
  have hfront : position + (audio.take
      (min audio.length (buffer.length - position))).length ≤
        buffer.length := by
    omega
  have hback : 0 + (audio.drop
      (min audio.length (buffer.length - position))).length ≤
        (overwrite position (audio.take
          (min audio.length (buffer.length - position))) buffer).length := by
    rw [length_overwrite hfront, List.length_drop]
    omega
  unfold copy
  rw [getElem?_overwrite hback, getElem?_overwrite hfront, htake,
    List.length_drop]
  by_cases hwrapped : i + (buffer.length - position) < audio.length
  · rw [if_pos ⟨Nat.zero_le _, by omega⟩, if_pos hwrapped, List.getElem?_drop]
    congr 1
    omega
  · rw [if_neg (by omega), if_neg hwrapped]
    by_cases hmiddle :
        position ≤ i ∧ i < buffer.length ∧ i < position + audio.length
    · rw [if_pos (by omega), if_pos hmiddle,
        List.getElem?_take_of_lt (by omega)]
    · rw [if_neg (by omega), if_neg hmiddle]

/-- Copying to the locked region writes round the ring. -/
theorem writes_copy {position : ℕ} {audio buffer : List UInt8}
    (hposition : position < buffer.length)
    (haudio : audio.length ≤ buffer.length) :
    Ring.Writes buffer.length position audio (fun i => buffer[i]?)
      fun i => (copy position audio buffer)[i]? where
  written := by
    intro j hj
    rw [getElem?_copy hposition haudio]
    rcases Nat.lt_or_ge (position + j) buffer.length with hlt | hge
    · rw [Nat.mod_eq_of_lt hlt, if_neg (by omega), if_pos (by omega)]
      congr 1
      omega
    · rw [Nat.mod_eq_sub_mod hge, Nat.mod_eq_of_lt (by omega),
        if_pos (by omega)]
      congr 1
      omega
  unchanged := by
    intro i hi hfree
    rw [getElem?_copy hposition haudio, if_neg, if_neg]
    · rintro ⟨hle, -, hlt⟩
      refine hfree (i - position) (by omega) ?_
      rw [Nat.add_sub_cancel' hle, Nat.mod_eq_of_lt hi]
    · intro hlt
      refine hfree (i + (buffer.length - position)) hlt ?_
      rw [show position + (i + (buffer.length - position)) =
        i + buffer.length by omega, Nat.add_mod_right, Nat.mod_eq_of_lt hi]

/-! ## What the functions do -/

/-- One round keeps the remainder and makes the position smaller. -/
theorem wrapRound_eq_some {m_nWriteEnd x y : ℕ} (hpos : 0 < m_nWriteEnd)
    (h : wrapRound m_nWriteEnd x = some y) :
    y % m_nWriteEnd = x % m_nWriteEnd ∧ y < x := by
  obtain ⟨hge, hy⟩ := Option.ite_none_right_eq_some.mp h
  obtain rfl := Option.some.inj hy
  exact ⟨(Nat.mod_eq_sub_mod hge).symm,
    Nat.sub_lt (Nat.lt_of_lt_of_le hpos hge) hpos⟩

theorem wrapRound_eq_none {m_nWriteEnd x : ℕ}
    (h : wrapRound m_nWriteEnd x = none) : x < m_nWriteEnd := by
  unfold wrapRound at h
  split at h
  · cases h
  · omega

/-- The loop over `m_nWritePos` ends with the remainder. -/
theorem loop_wrapRound {m_nWriteEnd : ℕ} (hpos : 0 < m_nWriteEnd) (n : ℕ) :
    loop (wrapRound m_nWriteEnd) (n + 1) n = some (n % m_nWriteEnd) := by
  have hround : ∀ x y, x % m_nWriteEnd = n % m_nWriteEnd →
      wrapRound m_nWriteEnd x = some y →
        y % m_nWriteEnd = n % m_nWriteEnd ∧ id y < id x := by
    intro x y hx hy
    obtain ⟨hmod, hlt⟩ := wrapRound_eq_some hpos hy
    exact ⟨hmod.trans hx, hlt⟩
  obtain ⟨t, ht, hmod, hend⟩ :=
    loop_spec id hround rfl (Nat.lt_succ_self n)
  rw [ht, ← hmod, Nat.mod_eq_of_lt (wrapRound_eq_none hend)]

theorem dword_lt (x : ℤ) : dword x < 4294967296 := by
  unfold dword
  omega

theorem dword_add (m n : ℕ) : dword (m + n) = (m + n) % 4294967296 := by
  unfold dword
  omega

theorem parseContentType_lt {contentType : String} {wfx : WaveFormat}
    (h : parseContentType u contentType = some wfx) :
    wfx.nAvgBytesPerSec < 4294967296 := by
  unfold parseContentType at h
  split at h
  · cases h
  · obtain ⟨bits, -, rfl⟩ := Option.map_eq_some_iff.mp h
    dsimp only
    exact dword_lt _

theorem covers_iff (m_nWriteEnd m_nWritePos n o : ℕ) :
    covers m_nWriteEnd m_nWritePos n o = true ↔
      ∃ j < n, (m_nWritePos + j) % m_nWriteEnd = o % m_nWriteEnd := by
  simp [covers]

@[simp] theorem startPlaying_bytes (b : SoundBuffer) (s : WinSoundGesture) :
    (s.startPlaying b).bytes = b.bytes := by
  unfold startPlaying
  split <;> rfl

/-- The bytes of a chunk that are written. -/
theorem length_audio (m_Content : List UInt8) :
    (m_Content.take (dword m_Content.length)).length =
      dword m_Content.length := by
  rw [List.length_take]
  unfold dword
  omega

/-- A chunk that can be locked is written. -/
theorem writeChunk_eq {m_Content : List UInt8}
    (hlocks : locks s.m_nWriteEnd (dword m_Content.length) = true) :
    ∃ audio b', audio.length = dword m_Content.length ∧
      b'.bytes = copy s.m_nWritePos audio b.bytes ∧
      s.writeChunk m_Content b =
        { s.account audio with
          m_nWritePos :=
            (s.m_nWritePos + audio.length) % 4294967296 % s.m_nWriteEnd
          m_pBuffer := some b' } := by
  have hpos : 0 < s.m_nWriteEnd := by
    have hlock := of_decide_eq_true hlocks
    omega
  have hwrite : ∀ n, n = dword m_Content.length →
      ∃ b', b'.bytes = copy s.m_nWritePos
          (m_Content.take (dword m_Content.length)) b.bytes ∧
        s.writeChunk m_Content b =
          { s.account (m_Content.take (dword m_Content.length)) with
            m_nWritePos := (s.m_nWritePos + n) % 4294967296 % s.m_nWriteEnd
            m_pBuffer := some b' } := by
    rintro _ rfl
    unfold writeChunk
    simp only [length_audio, hlocks, if_true, dword_add, loop_wrapRound hpos]
    exact ⟨_, startPlaying_bytes _ _, rfl⟩
  obtain ⟨b', hbytes, heq⟩ := hwrite _ (length_audio m_Content)
  exact ⟨_, b', length_audio m_Content, hbytes, heq⟩

theorem writeChunk_of_not {m_Content : List UInt8}
    (hlocks : ¬locks s.m_nWriteEnd (dword m_Content.length) = true) :
    s.writeChunk m_Content b = s := by
  unfold writeChunk
  simp only [length_audio]
  rw [if_neg hlocks]

/-! ## A new buffer -/

theorem createBuffer_of_some (hb : s.m_pBuffer = some b) (contentType : String)
    (created : Bool) : s.createBuffer u contentType created = s := by
  unfold createBuffer
  rw [hb]

/-- Without a buffer, a new one is empty if there is one. -/
theorem createBuffer_of_none (hs : s.m_pBuffer = none) (contentType : String)
    (created : Bool) :
    s.createBuffer u contentType created = s ∨
      ∃ e < 4294967296, ∃ p,
        (∀ b, p = some b → b.bytes = List.replicate e 0) ∧
        s.createBuffer u contentType created =
          { s with
            m_nWriteEnd := e
            m_nWritePos := 0
            stream := []
            waiting := []
            m_pBuffer := p } := by
  unfold createBuffer
  rw [hs]
  cases hparse : parseContentType u contentType with
  | none => exact Or.inl rfl
  | some wfx =>
      refine Or.inr ⟨_, parseContentType_lt hparse, ?_⟩
      dsimp only
      split
      · refine ⟨_, fun b hb => ?_, rfl⟩
        rw [← Option.some.inj hb]
      · exact ⟨none, fun b hb => absurd hb.symm (Option.some_ne_none b), rfl⟩

theorem Sound.createBuffer (h : Sound s) (contentType : String)
    (created : Bool) : Sound (s.createBuffer u contentType created) := by
  cases hs : s.m_pBuffer with
  | some b =>
      rw [createBuffer_of_some hs]
      exact h
  | none =>
      rcases createBuffer_of_none (u := u) hs contentType created with
        heq | ⟨e, he, p, hp, heq⟩
      · rw [heq]
        exact h
      · rw [heq]
        exact {
          ends := h.ends
          kept := h.kept
          small := he
          length := fun b hb => by rw [hp b hb, List.length_replicate]
          position := (Nat.zero_mod e).symm
          positive := fun hne => absurd rfl hne
          stored := fun _ _ => Ring.stored_nil _ _
          waiting := fun o ho => absurd ho List.not_mem_nil }

/-- The first chunk for a buffer fits. -/
theorem createBuffer_fits (hs : s.m_pBuffer = none) {contentType : String}
    {created : Bool}
    (hb : (s.createBuffer u contentType created).m_pBuffer = some b) (x : ℤ) :
    (s.createBuffer u contentType created).Fits (dword x) := by
  rcases createBuffer_of_none (u := u) hs contentType created with
    heq | ⟨e, he, p, hp, heq⟩
  · rw [heq, hs] at hb
    cases hb
  · rw [heq]
    refine ⟨?_, fun o ho => absurd ho List.not_mem_nil⟩
    rw [Nat.zero_add]
    exact dword_lt x

/-! ## Writing a chunk -/

/-- The bytes that are in the cells of the next `n` are those that are too far
back. -/
theorem Sound.covers_iff (h : Sound s) {n o : ℕ} (hn : n ≤ s.m_nWriteEnd)
    (ho : o ∈ s.waiting) :
    covers s.m_nWriteEnd s.m_nWritePos n o = true ↔
      o + s.m_nWriteEnd < s.stream.length + n := by
  obtain ⟨hlt, hle⟩ := h.waiting o ho
  rw [WinSoundGesture.covers_iff, ← Ring.covered_iff hn hlt hle, h.position]
  simp only [Nat.mod_add_mod]

theorem Sound.writeChunk (h : Sound s) (hb : s.m_pBuffer = some b)
    {m_Content : List UInt8}
    (hlocks : locks s.m_nWriteEnd (dword m_Content.length) = true)
    (hfits : s.Fits (dword m_Content.length)) :
    Sound (s.writeChunk m_Content b) := by
  obtain ⟨audio, b', haudio, hbytes, heq⟩ := writeChunk_eq (b := b) hlocks
  rw [← haudio] at hlocks hfits
  obtain ⟨hpos, hn⟩ := of_decide_eq_true hlocks
  obtain ⟨hsmall, hwaiting⟩ := hfits
  have hfree : ∀ o ∈ s.waiting,
      ¬covers s.m_nWriteEnd s.m_nWritePos audio.length o = true := by
    intro o ho hcovers
    have hlt := (h.covers_iff hn ho).mp hcovers
    have hle := hwaiting o ho
    omega
  have hlength := h.length b hb
  have hposition : s.m_nWritePos < b.bytes.length := by
    rw [hlength, h.position]
    exact Nat.mod_lt _ (by omega)
  rw [heq]
  exact {
    ends := h.ends
    kept := by
      show s.lost ++ s.waiting.filter _ = []
      rw [h.kept, List.nil_append, List.filter_eq_nil_iff]
      exact hfree
    small := h.small
    length := by
      rintro _ ⟨⟩
      show b'.bytes.length = s.m_nWriteEnd
      rw [hbytes, length_copy hposition (by omega), hlength]
    position := by
      show _ % _ % s.m_nWriteEnd = (s.stream ++ audio).length % s.m_nWriteEnd
      rw [Nat.mod_eq_of_lt hsmall, h.position, Nat.mod_add_mod,
        List.length_append]
    positive := fun _ => by
      show 0 < s.m_nWriteEnd
      omega
    stored := by
      rintro _ ⟨⟩
      have hwrites := writes_copy hposition (hlength ▸ hn)
      rw [hlength, h.position] at hwrites
      show Ring.Stored s.m_nWriteEnd (s.stream ++ audio) fun i => b'.bytes[i]?
      rw [hbytes, h.position]
      exact (h.stored b hb).append hn hwrites
    waiting := by
      intro o ho
      show o < (s.stream ++ audio).length ∧
        (s.stream ++ audio).length ≤ o + s.m_nWriteEnd
      rw [List.length_append]
      rcases List.mem_append.mp ho with hold | hnew
      · have hmem := (List.mem_filter.mp hold).1
        have hlt := (h.waiting o hmem).1
        have hle := hwaiting o hmem
        omega
      · rw [List.mem_range'_1] at hnew
        omega }

/-- A position that overflows is not the one that is meant. -/
theorem mod_overflow {w n e : ℕ} (hw : w < e) (he : e < 4294967296)
    (hn : n ≤ e) (hlarge : 4294967296 ≤ w + n) :
    (w + n) % 4294967296 % e ≠ (w + n) % e := by
  rw [Nat.mod_eq_sub_mod hlarge, Nat.mod_eq_of_lt (by omega : _ < 4294967296),
    Nat.mod_eq_of_lt (by omega : _ < e),
    Nat.mod_eq_sub_mod (by omega : e ≤ w + n),
    Nat.mod_eq_of_lt (by omega : _ < e)]
  omega

/-- A chunk that does not fit is not stored where it belongs, or replaces a byte
that has not been played. -/
theorem Sound.not_faithful (h : Sound s) {m_Content : List UInt8}
    (hlocks : locks s.m_nWriteEnd (dword m_Content.length) = true)
    (hfits : ¬s.Fits (dword m_Content.length)) :
    ¬Faithful (s.writeChunk m_Content b) := by
  obtain ⟨audio, b', haudio, -, heq⟩ := writeChunk_eq (b := b) hlocks
  rw [← haudio] at hlocks hfits
  obtain ⟨hpos, hn⟩ := of_decide_eq_true hlocks
  rw [heq]
  intro hfaithful
  rcases not_and_or.mp hfits with hlarge | hwaiting
  · have hne : s.stream ++ audio ≠ [] :=
      List.append_ne_nil_of_right_ne_nil _ (List.ne_nil_of_length_pos hpos)
    obtain ⟨-, hposition⟩ := hfaithful.position b' rfl hne
    change (_ + _) % _ % s.m_nWriteEnd =
      (s.stream ++ audio).length % s.m_nWriteEnd at hposition
    rw [h.position] at hposition hlarge
    rw [List.length_append, ← Nat.mod_add_mod s.stream.length] at hposition
    exact mod_overflow (Nat.mod_lt _ (Nat.lt_of_lt_of_le hpos hn)) h.small hn
      (Nat.le_of_not_lt hlarge) hposition
  · push Not at hwaiting
    obtain ⟨o, ho, hlt⟩ := hwaiting
    have hcovers := (h.covers_iff hn ho).mpr hlt
    have hkept := hfaithful.kept
    change s.lost ++ s.waiting.filter _ = [] at hkept
    exact List.filter_eq_nil_iff.mp (List.append_eq_nil_iff.mp hkept).2 o ho
      hcovers

/-! ## Runs -/

theorem sound_start : Sound {} where
  ends := rfl
  kept := rfl
  small := by decide
  length := fun b hb => absurd hb.symm (Option.some_ne_none b)
  position := rfl
  positive := fun hne => absurd rfl hne
  stored := fun b hb => absurd hb.symm (Option.some_ne_none b)
  waiting := fun o ho => absurd ho List.not_mem_nil

/-- What `OnStreamData` does, after the buffer has been created. -/
theorem onStreamData_cases (contentType : String) (m_Content : List UInt8)
    (created : Bool) (s : WinSoundGesture) :
    s.onStreamData u contentType m_Content created =
        s.createBuffer u contentType created ∨
      ∃ b, (s.createBuffer u contentType created).m_pBuffer = some b ∧
        locks (s.createBuffer u contentType created).m_nWriteEnd
          (dword m_Content.length) = true ∧
        s.onStreamData u contentType m_Content created =
          (s.createBuffer u contentType created).writeChunk m_Content b := by
  unfold onStreamData
  dsimp only
  generalize s.createBuffer u contentType created = w
  cases hb : w.m_pBuffer with
  | none => exact Or.inl rfl
  | some b =>
      by_cases hempty : m_Content = []
      · exact Or.inl (if_pos hempty)
      · dsimp only
        rw [if_neg hempty]
        by_cases hlocks :
            locks w.m_nWriteEnd (dword m_Content.length) = true
        · exact Or.inr ⟨b, rfl, hlocks, rfl⟩
        · exact Or.inl (writeChunk_of_not hlocks)

/-- A chunk that comes in time keeps the invariant. -/
theorem Sound.onStreamData (h : Sound s) {contentType : String}
    {m_Content : List UInt8} {created : Bool}
    (htime : InTime s (.onStreamData contentType m_Content created)) :
    Sound (s.onStreamData u contentType m_Content created) := by
  have hsound := h.createBuffer (u := u) contentType created
  rcases onStreamData_cases (u := u) contentType m_Content created s with
    heq | ⟨b, hb, hlocks, heq⟩
  · rw [heq]
    exact hsound
  · rw [heq]
    refine hsound.writeChunk hb hlocks ?_
    cases hs : s.m_pBuffer with
    | none => exact createBuffer_fits hs hb _
    | some b' =>
        rw [createBuffer_of_some hs] at hlocks ⊢
        exact htime (hs ▸ Option.some_ne_none b') hlocks

theorem Sound.played (h : Sound s) (hb : s.m_pBuffer = some b) (n : ℕ) :
    Sound { s with
      m_pBuffer := some { b with cursor := (b.cursor + n) % s.m_nWriteEnd }
      waiting := s.waiting.filter fun o =>
        !covers s.m_nWriteEnd b.cursor n o } where
  ends := h.ends
  kept := h.kept
  small := h.small
  length := by
    rintro _ ⟨⟩
    exact h.length b hb
  position := h.position
  positive := h.positive
  stored := by
    rintro _ ⟨⟩
    exact h.stored b hb
  waiting := fun o ho => h.waiting o (List.mem_filter.mp ho).1

/-- The invariant does not depend on a buffer that is not there. -/
theorem Sound.onPlayDone (h : Sound s) :
    Sound { s with m_pBuffer := none } where
  ends := h.ends
  kept := h.kept
  small := h.small
  length := fun b hb => absurd hb.symm (Option.some_ne_none b)
  position := h.position
  positive := h.positive
  stored := fun b hb => absurd hb.symm (Option.some_ne_none b)
  waiting := h.waiting

theorem Sound.step {e : Event} (h : Sound s) (htime : InTime s e)
    (hstep : step u s e = some t) : Sound t := by
  cases e with
  | onStreamData contentType m_Content created =>
      obtain rfl := Option.some.inj hstep
      exact h.onStreamData htime
  | played n =>
      unfold WinSoundGesture.step at hstep
      cases hb : s.m_pBuffer with
      | none =>
          rw [hb] at hstep
          cases hstep
      | some b =>
          rw [hb] at hstep
          obtain ⟨-, hstep⟩ := Option.ite_none_right_eq_some.mp hstep
          obtain rfl := Option.some.inj hstep
          exact h.played hb n
  | onPlayDone =>
      obtain rfl := Option.some.inj hstep
      exact h.onPlayDone

theorem Sound.not_faithful_step {e : Event} (h : Sound s) (htime : ¬InTime s e)
    (hstep : WinSoundGesture.step u s e = some t) : ¬Faithful t := by
  cases e with
  | onStreamData contentType m_Content created =>
      obtain rfl := Option.some.inj hstep
      unfold InTime at htime
      push Not at htime
      obtain ⟨hbuffer, hlocks, hfits⟩ := htime
      obtain ⟨b, hb⟩ := Option.ne_none_iff_exists'.mp hbuffer
      have hne : m_Content ≠ [] := by
        rintro rfl
        exact absurd (of_decide_eq_true hlocks).1 (Nat.lt_irrefl 0)
      have heq : s.onStreamData u contentType m_Content created =
          s.writeChunk m_Content b := by
        unfold WinSoundGesture.onStreamData
        rw [createBuffer_of_some hb]
        dsimp only
        rw [hb]
        exact if_neg hne
      rw [heq]
      exact h.not_faithful hlocks hfits
  | played n => exact absurd trivial htime
  | onPlayDone => exact absurd trivial htime

/-- The bytes of the streams stay in the buffer until they have been played
precisely when each chunk fits in front of the oldest byte that has not been
played, and the write position does not overflow. -/
theorem faithful_iff (u : StringUtil) (es : List Event) :
    Throughout (step u) Faithful {} es ↔ EachStep (step u) InTime {} es :=
  throughout_iff_eachStep (L := fun _ _ => True)
    (fun _ h => h.faithful)
    (fun _ _ _ h _ htime hstep => h.step htime hstep)
    (fun _ _ _ h _ htime hstep => h.not_faithful_step htime hstep)
    sound_start (eachStep_true _ es)

/-- With a hundred bytes a second, a second chunk of sixty replaces twenty bytes
of the first before anything has been played. -/
theorem not_always_faithful :
    ¬∀ (u : StringUtil) (es : List Event),
      Throughout (step u) Faithful {} es := by
  intro h
  have hrun := h .plain [
    .onStreamData "audio/L8;rate=100" (List.replicate 60 1) true,
    .onStreamData "audio/L8;rate=100" (List.replicate 60 2) true]
  have hlost : (run (step .plain) {} [
      .onStreamData "audio/L8;rate=100" (List.replicate 60 1) true,
      .onStreamData "audio/L8;rate=100" (List.replicate 60 2) true]).map lost =
        some (List.range 20) := by
    decide +kernel
  obtain ⟨t, ht, hobs⟩ := hrun.last hlost
  rw [ht.kept] at hobs
  exact absurd hobs (by decide)

end WinSoundGesture

end SelfPlugins.WinRing
