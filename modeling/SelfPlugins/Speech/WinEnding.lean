import SelfPlugins.Speech.WinPlayback

/-!
# When the playback of Windows ends

The loop of `PlayStreamedSound` counts the bytes of the half-buffers the device
has left, padding included, and goes on while these are fewer than the bytes of
sound; it looks neither at the end mark nor at `Abort`.  `punctual_iff` says in
which runs it nevertheless ends when it should, provided that no chunk comes in
after a half-buffer had to be padded.
-/

namespace SelfPlugins.WinPlayback

open Runs

/-- When the loop condition was last tested, the loop was left iff that was
due. -/
def Punctual (s : Playback) : Prop :=
  s.playing = false ↔ s.due = true

/-- The number of half-buffers the device has left when the cursor is polled:
those of which it was beyond, in turn, at the polls so far. -/
def passesAt (midPoint currentPos : ℕ) (s : Playback) : ℕ :=
  if leaves midPoint (s.passes % 2 * midPoint) currentPos then s.passes + 1
  else s.passes

/-- A chunk comes in when what has been received fills the buffer and all the
half-buffers left so far, and the wave data stays half a buffer below 4 GiB. -/
def Fed (dwBufferBytes : ℕ) (s : Playback) : PlaybackEvent → Prop
  | .chunk data =>
      (data ≠ [] → dwBufferBytes + s.passes * (dwBufferBytes / 2) ≤
        s.wave.length) ∧
      s.wave.length + data.length + dwBufferBytes / 2 ≤ 4294967296
  | _ => True

instance (dwBufferBytes : ℕ) (s : Playback) :
    (e : PlaybackEvent) → Decidable (Fed dwBufferBytes s e)
  | .chunk data => inferInstanceAs (Decidable
      ((data ≠ [] → dwBufferBytes + s.passes * (dwBufferBytes / 2) ≤
        s.wave.length) ∧
      s.wave.length + data.length + dwBufferBytes / 2 ≤ 4294967296))
  | .streamDone => isTrue trivial
  | .abort => isTrue trivial
  | .poll _ _ => isTrue trivial

/-- After an `Abort` the half-buffers left amount to the sound received; before
the end mark they amount to less; after it, they do not miss it by the odd byte
of the buffer. -/
structure Timely (dwBufferBytes passes : ℕ) (s : Playback) : Prop where
  aborted : s.m_bAbortStream = true →
    s.wave.length ≤ passes * (dwBufferBytes / 2)
  ahead : s.m_bAbortStream = false → s.m_bStreamDone = false →
    passes * (dwBufferBytes / 2) < s.wave.length
  odd : s.m_bAbortStream = false → s.m_bStreamDone = true →
    ¬(2 ≤ passes ∧ dwBufferBytes % 2 = 1 ∧
      s.wave.length = passes * (dwBufferBytes / 2) + 1)

/-- The condition for a poll at which the device does not fail. -/
def Clean (dwBufferBytes : ℕ) (s : Playback) : PlaybackEvent → Prop
  | .poll (some currentPos) locks =>
      (leaves (dwBufferBytes / 2) (s.passes % 2 * (dwBufferBytes / 2))
        currentPos = true → locks = true) →
      Timely dwBufferBytes (passesAt (dwBufferBytes / 2) currentPos s) s
  | _ => True

/-! ## Full half-buffers -/

/-- The bytes in the first half-buffers if all are full; the second has the odd
byte of the buffer, too. -/
def cut (dwBufferBytes passes : ℕ) : ℕ :=
  passes * (dwBufferBytes / 2) + if 2 ≤ passes then dwBufferBytes % 2 else 0

variable {dwBufferBytes : ℕ} {s s' : Playback} {e : PlaybackEvent}

theorem cut_le_succ (dwBufferBytes passes : ℕ) :
    cut dwBufferBytes passes ≤ cut dwBufferBytes (passes + 1) := by
  unfold cut
  rw [Nat.succ_mul]
  split
  · rw [if_pos (by omega)]
    omega
  · split <;> omega

theorem cut_le_cut {p q : ℕ} (h : p ≤ q) :
    cut dwBufferBytes p ≤ cut dwBufferBytes q := by
  induction h with
  | refl => exact Nat.le_refl _
  | step _ ih => exact Nat.le_trans ih (cut_le_succ dwBufferBytes _)

theorem cut_add_two (dwBufferBytes passes : ℕ) :
    cut dwBufferBytes (passes + 2) =
      dwBufferBytes + passes * (dwBufferBytes / 2) := by
  unfold cut
  rw [if_pos (Nat.le_add_left 2 passes), Nat.add_mul]
  omega

/-- Where the bytes of sound are: in each half-buffer as many as fit and are
there. -/
structure Counted (dwBufferBytes : ℕ) (s : Playback) : Prop where
  turn : s.nextWritePos = s.passes % 2 * (dwBufferBytes / 2)
  small : s.wave.length < 4294967296
  room : s.wave.length + dwBufferBytes / 2 ≤ 4294967296
  played : s.bytesPlayed = s.passes * (dwBufferBytes / 2)
  passed : s.passed = min s.wave.length (cut dwBufferBytes s.passes)
  front : s.passed + s.front =
    min s.wave.length (cut dwBufferBytes (s.passes + 1))
  copied : s.bytesCopied =
    min s.wave.length (cut dwBufferBytes (s.passes + 2))
  total : s.passed + s.front + s.back = s.bytesCopied

/-- The invariant: as long as the loop runs, the half-buffers left amount to
less than the sound received. -/
structure Timed (dwBufferBytes : ℕ) (s : Playback) : Prop where
  punctual : Punctual s
  counted : s.playing = true → Counted dwBufferBytes s
  running : s.playing = true →
    s.passes * (dwBufferBytes / 2) < s.wave.length

theorem timed_start (dwBufferBytes : ℕ) {wave : List UInt8}
    (streamDone : Bool) (hne : wave ≠ [])
    (hsmall : wave.length < 4294967296)
    (hroom : wave.length + dwBufferBytes / 2 ≤ 4294967296) :
    Timed dwBufferBytes (start dwBufferBytes wave streamDone) := by
  have hpos : 0 < wave.length := List.length_pos_iff.mpr hne
  have hplaying : (start dwBufferBytes wave streamDone).playing = true :=
    decide_eq_true hpos
  have hcopied : (start dwBufferBytes wave streamDone).bytesCopied =
      min wave.length dwBufferBytes := by
    change (if dwBufferBytes > wave.length then _ else _) = _
    split <;> omega
  have hone : cut dwBufferBytes 1 = dwBufferBytes / 2 := by simp [cut]
  have htwo : cut dwBufferBytes 2 = dwBufferBytes := by
    rw [cut_add_two, Nat.zero_mul, Nat.add_zero]
  refine ⟨?_, fun _ => ⟨?_, hsmall, hroom, ?_, ?_, ?_, ?_, ?_⟩, fun _ => ?_⟩
  · exact iff_of_false (by rw [hplaying]; exact nofun) nofun
  · exact (Nat.zero_mul _).symm
  · exact (Nat.zero_mul _).symm
  · change 0 = min wave.length (cut dwBufferBytes 0)
    simp [cut]
  · change 0 + min (start dwBufferBytes wave streamDone).bytesCopied
      (dwBufferBytes / 2) = min wave.length (cut dwBufferBytes 1)
    rw [hcopied, hone]
    omega
  · change _ = min wave.length (cut dwBufferBytes 2)
    rw [hcopied, htwo]
  · change 0 + min (start dwBufferBytes wave streamDone).bytesCopied
      (dwBufferBytes / 2) + ((start dwBufferBytes wave streamDone).bytesCopied -
        dwBufferBytes / 2) = (start dwBufferBytes wave streamDone).bytesCopied
    omega
  · change 0 * (dwBufferBytes / 2) < wave.length
    rwa [Nat.zero_mul]

/-! ## One event -/

/-- The flags do not count. -/
theorem Counted.flags (h : Counted dwBufferBytes s)
    (m_bStreamDone m_bAbortStream : Bool) :
    Counted dwBufferBytes { s with m_bStreamDone, m_bAbortStream } :=
  ⟨h.turn, h.small, h.room, h.played, h.passed, h.front, h.copied, h.total⟩

/-- Chunks that come in on time do not change what is in the half-buffers. -/
theorem Counted.grow {data : List UInt8} (h : Counted dwBufferBytes s)
    (hfed : Fed dwBufferBytes s (.chunk data))
    (hsmall : s.wave.length + data.length < 4294967296) :
    Counted dwBufferBytes { s with wave := s.wave ++ data } := by
  have hsame : ∀ p, p ≤ s.passes + 2 →
      min s.wave.length (cut dwBufferBytes p) =
        min (s.wave ++ data).length (cut dwBufferBytes p) := by
    intro p hp
    have hcut : cut dwBufferBytes p ≤ cut dwBufferBytes (s.passes + 2) :=
      cut_le_cut hp
    rw [cut_add_two] at hcut
    rw [List.length_append]
    by_cases hdata : data = []
    · rw [hdata, List.length_nil, Nat.add_zero]
    · have hfull := hfed.1 hdata
      omega
  refine ⟨h.turn, ?_, ?_, h.played, ?_, ?_, ?_, h.total⟩
  · change (s.wave ++ data).length < _
    rwa [List.length_append]
  · change (s.wave ++ data).length + _ ≤ _
    rw [List.length_append]
    exact hfed.2
  · exact h.passed.trans (hsame _ (Nat.le_add_right _ 2))
  · exact h.front.trans (hsame _ (Nat.le_succ _))
  · exact h.copied.trans (hsame _ (Nat.le_refl _))

/-- A half-buffer is left, and filled with what there is for it. -/
theorem Counted.refill (currentPos : ℕ) (h : Counted dwBufferBytes s)
    (hrunning : s.passes * (dwBufferBytes / 2) < s.wave.length) :
    Counted dwBufferBytes (refill (dwBufferBytes / 2) currentPos
      { s with bytesPlayed := dword (s.bytesPlayed + dwBufferBytes / 2) }) := by
  have hcopied : s.bytesCopied ≤ s.wave.length := by
    rw [h.copied]
    exact Nat.min_le_left _ _
  have hback := refill_back (dwBufferBytes / 2) currentPos hcopied h.small
  have hbytes := refill_bytesCopied (dwBufferBytes / 2) currentPos hcopied
    h.small
  refine ⟨next_turn h.turn, h.small, h.room, ?_, h.front, ?_, ?_, ?_⟩
  · have hroom := h.room
    change dword (s.bytesPlayed + dwBufferBytes / 2) = (s.passes + 1) * _
    rw [h.played, Nat.succ_mul]
    exact dword_eq (n := s.passes * (dwBufferBytes / 2) + dwBufferBytes / 2)
      (by omega)
  · change s.passed + s.front + s.back = min s.wave.length _
    rw [h.total, h.copied]
    rfl
  · change (WinPlayback.refill _ currentPos s).bytesCopied =
      min s.wave.length (cut dwBufferBytes (s.passes + 1 + 2))
    have hcut := h.copied
    rw [cut_add_two] at hcut ⊢
    rw [hbytes, hback, Nat.succ_mul]
    omega
  · change s.passed + s.front + s.back +
      (WinPlayback.refill _ currentPos s).back =
        (WinPlayback.refill _ currentPos s).bytesCopied
    rw [hbytes, h.total]

/-- The loop condition is tested at the right time. -/
theorem Counted.check_punctual (h : Counted dwBufferBytes s) :
    Punctual (check s) ↔ Timely dwBufferBytes s.passes s := by
  have hleft : (check s).playing = false ↔
      s.wave.length ≤ s.passes * (dwBufferBytes / 2) := by
    change decide (s.bytesPlayed < s.wave.length) = false ↔ _
    rw [decide_eq_false_iff_not, h.played, Nat.not_lt]
  have hpassed : s.passed = s.wave.length ↔
      s.wave.length ≤ cut dwBufferBytes s.passes := by
    rw [h.passed]
    omega
  have hdue : (check s).due = true ↔ s.m_bAbortStream = true ∨
      (s.m_bStreamDone = true ∧
        s.wave.length ≤ cut dwBufferBytes s.passes) := by
    change (s.m_bAbortStream || (s.m_bStreamDone &&
      decide (s.passed = s.wave.length))) = true ↔ _
    rw [Bool.or_eq_true, Bool.and_eq_true, decide_eq_true_iff, hpassed]
  have hcut : s.wave.length ≤ cut dwBufferBytes s.passes ↔
      s.wave.length ≤ s.passes * (dwBufferBytes / 2) ∨
        (2 ≤ s.passes ∧ dwBufferBytes % 2 = 1 ∧
          s.wave.length = s.passes * (dwBufferBytes / 2) + 1) := by
    unfold cut
    split <;> omega
  unfold Punctual
  rw [hleft, hdue, hcut]
  constructor
  · intro h
    refine ⟨fun haborted => h.mpr (Or.inl haborted),
      fun haborted hdone => Nat.lt_of_not_le fun hle => ?_,
      fun haborted hdone hodd => ?_⟩
    · rcases h.mp hle with htrue | ⟨htrue, -⟩
      · rw [haborted] at htrue
        cases htrue
      · rw [hdone] at htrue
        cases htrue
    · have hle := h.mpr (Or.inr ⟨hdone, Or.inr hodd⟩)
      omega
  · intro h
    cases haborted : s.m_bAbortStream with
    | true => exact iff_of_true (h.aborted haborted) (Or.inl rfl)
    | false =>
        rw [or_iff_right Bool.false_ne_true]
        cases hdone : s.m_bStreamDone with
        | true =>
            have hodd := h.odd haborted hdone
            exact ⟨fun hle => ⟨rfl, Or.inl hle⟩,
              fun hpassed => hpassed.2.resolve_right hodd⟩
        | false =>
            exact iff_of_false (Nat.not_le.mpr (h.ahead haborted hdone))
              fun hfalse => Bool.false_ne_true hfalse.1

/-! ## Every run -/

theorem timed_breakOff (dwBufferBytes : ℕ) (s : Playback) :
    Timed dwBufferBytes (breakOff s) :=
  ⟨iff_of_true rfl rfl, nofun, nofun⟩

theorem Counted.check (h : Counted dwBufferBytes s)
    (hpunctual : Punctual (check s)) : Timed dwBufferBytes (check s) := by
  refine ⟨hpunctual, fun _ => ?_, fun hplaying => ?_⟩
  · exact ⟨h.turn, h.small, h.room, h.played, h.passed, h.front, h.copied,
      h.total⟩
  · have hlt : s.bytesPlayed < s.wave.length := of_decide_eq_true hplaying
    rwa [h.played] at hlt

/-- A poll is followed by a test at the right time iff the condition holds, and
the invariant then holds, too. -/
theorem Timed.poll {currentPos : ℕ} {locks : Bool} (h : Timed dwBufferBytes s)
    (hplaying : s.playing = true) :
    (Punctual (poll (dwBufferBytes / 2) (some currentPos) locks s) ↔
        Clean dwBufferBytes s (.poll (some currentPos) locks)) ∧
      (Punctual (poll (dwBufferBytes / 2) (some currentPos) locks s) →
        Timed dwBufferBytes
          (poll (dwBufferBytes / 2) (some currentPos) locks s)) := by
  have hcounted := h.counted hplaying
  unfold Clean passesAt WinPlayback.poll
  rw [← hcounted.turn]
  dsimp only
  split
  · split
    · rename_i hleaves hlocks
      have hrefill := hcounted.refill currentPos (h.running hplaying)
      refine ⟨hrefill.check_punctual.trans ⟨fun ht _ => ?_, fun ht => ?_⟩,
        hrefill.check⟩
      · exact ⟨ht.aborted, ht.ahead, ht.odd⟩
      · have htimely := ht fun _ => hlocks
        exact ⟨htimely.aborted, htimely.ahead, htimely.odd⟩
    · rename_i hleaves hlocks
      have hbreak := timed_breakOff dwBufferBytes
        { s with bytesPlayed := dword (s.bytesPlayed + dwBufferBytes / 2) }
      refine ⟨iff_of_true hbreak.punctual fun hcan => ?_, fun _ => hbreak⟩
      exact absurd (hcan hleaves) hlocks
  · rename_i hstays
    refine ⟨hcounted.check_punctual.trans ⟨fun ht _ => ht, fun ht => ?_⟩,
      hcounted.check⟩
    exact ht fun hleaves => absurd hleaves hstays

theorem Timed.step (h : Timed dwBufferBytes s) (hfed : Fed dwBufferBytes s e)
    (hC : Clean dwBufferBytes s e) (ht : step dwBufferBytes s e = some s') :
    Timed dwBufferBytes s' := by
  cases e with
  | chunk data =>
      obtain ⟨⟨hplaying, hsmall⟩, ht⟩ := Option.ite_none_right_eq_some.mp ht
      obtain rfl := Option.some.inj ht
      refine ⟨h.punctual, fun _ => (h.counted hplaying).grow hfed hsmall,
        fun _ => ?_⟩
      have hrunning := h.running hplaying
      change _ < (s.wave ++ data).length
      rw [List.length_append]
      exact Nat.lt_add_right _ hrunning
  | streamDone =>
      obtain ⟨hplaying, ht⟩ := Option.ite_none_right_eq_some.mp ht
      obtain rfl := Option.some.inj ht
      exact ⟨h.punctual, fun _ => (h.counted hplaying).flags true
        s.m_bAbortStream, h.running⟩
  | abort =>
      obtain ⟨hplaying, ht⟩ := Option.ite_none_right_eq_some.mp ht
      obtain rfl := Option.some.inj ht
      exact ⟨h.punctual, fun _ => (h.counted hplaying).flags s.m_bStreamDone
        true, h.running⟩
  | poll cursor locks =>
      obtain ⟨⟨hplaying, -⟩, ht⟩ := Option.ite_none_right_eq_some.mp ht
      obtain rfl := Option.some.inj ht
      cases cursor with
      | none => exact timed_breakOff dwBufferBytes s
      | some currentPos =>
          obtain ⟨hiff, htimed⟩ := h.poll hplaying
          exact htimed (hiff.mpr hC)

theorem not_punctual (h : Timed dwBufferBytes s)
    (hC : ¬Clean dwBufferBytes s e) (ht : step dwBufferBytes s e = some s') :
    ¬Punctual s' := by
  cases e with
  | chunk data => exact absurd trivial hC
  | streamDone => exact absurd trivial hC
  | abort => exact absurd trivial hC
  | poll cursor locks =>
      obtain ⟨⟨hplaying, -⟩, ht⟩ := Option.ite_none_right_eq_some.mp ht
      obtain rfl := Option.some.inj ht
      cases cursor with
      | none => exact absurd trivial hC
      | some currentPos => exact fun hp => hC ((h.poll hplaying).1.mp hp)

/-- A sound of which no chunk comes in after padding is played to its end, and
not beyond, in the clean runs, and only in those. -/
theorem punctual_iff (dwBufferBytes : ℕ) (wave : List UInt8)
    (streamDone : Bool) (es : List PlaybackEvent) (hne : wave ≠ [])
    (hsmall : wave.length < 4294967296)
    (hroom : wave.length + dwBufferBytes / 2 ≤ 4294967296)
    (hfed : EachStep (step dwBufferBytes) (Fed dwBufferBytes)
      (start dwBufferBytes wave streamDone) es) :
    Throughout (step dwBufferBytes) Punctual
        (start dwBufferBytes wave streamDone) es ↔
      EachStep (step dwBufferBytes) (Clean dwBufferBytes)
        (start dwBufferBytes wave streamDone) es :=
  throughout_iff_eachStep (I := Timed dwBufferBytes)
    (fun _ h => h.punctual) (fun _ _ _ h hfed hC ht => h.step hfed hC ht)
    (fun _ _ _ h _ hC ht => not_punctual h hC ht)
    (timed_start dwBufferBytes streamDone hne hsmall hroom) hfed

/-- Six bytes of sound in a buffer of four: the loop is left when the device
has left three halves. -/
theorem punctual_iff_six :
    ([1, 2, 3, 4] : List UInt8) ≠ [] ∧ (4 : ℕ) < 4294967296 ∧
      4 + 4 / 2 ≤ 4294967296 ∧
      EachStep (step 4) (Fed 4) (start 4 [1, 2, 3, 4] false)
        [.chunk [5, 6], .poll (some 3) true, .streamDone,
          .poll (some 1) true, .poll (some 3) true] ∧
      (Throughout (step 4) Punctual (start 4 [1, 2, 3, 4] false)
          [.chunk [5, 6], .poll (some 3) true, .streamDone,
            .poll (some 1) true, .poll (some 3) true] ↔
        EachStep (step 4) (Clean 4) (start 4 [1, 2, 3, 4] false)
          [.chunk [5, 6], .poll (some 3) true, .streamDone,
            .poll (some 1) true, .poll (some 3) true]) := by
  have hfed : EachStep (step 4) (Fed 4) (start 4 [1, 2, 3, 4] false)
      [.chunk [5, 6], .poll (some 3) true, .streamDone,
        .poll (some 1) true, .poll (some 3) true] := by decide
  exact ⟨by decide, by decide, by decide, hfed,
    punctual_iff 4 [1, 2, 3, 4] false _ (by decide) (by decide) (by decide)
      hfed⟩

/-- The chunks pause after the first four bytes, and the loop is left although
the stream has not ended. -/
theorem not_punctual_pause :
    ¬∀ (dwBufferBytes : ℕ) (wave : List UInt8) (es : List PlaybackEvent),
      wave ≠ [] → Throughout (step dwBufferBytes) Punctual
        (start dwBufferBytes wave false) es := by
  intro h
  have hrun : (run (step 4) (start 4 [1, 2, 3, 4] false)
      [.poll (some 3) true, .poll (some 1) true]).map
      (fun s => (s.playing, s.due)) = some (false, false) := by decide
  obtain ⟨s, hs, hobs⟩ := (h 4 [1, 2, 3, 4]
    [.poll (some 3) true, .poll (some 1) true] (by decide)).last hrun
  simp only [Prod.mk.injEq] at hobs
  have hdue := hs.mp hobs.1
  rw [hobs.2] at hdue
  cases hdue

end SelfPlugins.WinPlayback
