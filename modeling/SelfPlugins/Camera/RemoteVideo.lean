import Mathlib.Data.List.Count
import Mathlib.Data.Int.Notation
import SelfPlugins.Camera.Streaming

/-!
# The video of the remote camera

`RemoteCamera` sends frames from two sources: the images of the camera service,
which its streaming thread asks for, and the payloads of the topic
`video-input`.  `OnStart` subscribes to the topic, and `OnStop` does not
unsubscribe; a frame is sent without a look at whether the camera is paused or
stopped by then.  `RemoteMicrophone` does both.

It is assumed that the base class calls `OnStart` and `OnStop` in turn,
`OnStart` first, and that there is a `SelfInstance`, without which nothing is
subscribed.

`silent_iff` says in which runs the camera is silent when it should be.
-/

namespace SelfPlugins.RemoteVideo

open Runs Streaming

/-- A frame, from the camera service or from the payload with that number. -/
structure VideoData where
  payload : Option ℕ := none
  m_Data : List UInt8
deriving DecidableEq

/-- A call of `SendData`, and whether the camera was active by then. -/
structure Sent where
  frame : VideoData
  active : Bool
deriving DecidableEq

/-- The camera with its threads and their unanswered calls of `GetImage`.
`queued` are the frames of the calls of `OnSendData` that the main thread has
yet to make, and `arrived` tells of each payload whether the camera was active
when it arrived. -/
structure RemoteCamera where
  camera : Camera := Streaming.RemoteCamera.new
  m_Paused : ℤ := 0
  subscriptions : ℕ := 0
  queued : List VideoData := []
  arrived : List Bool := []
  sent : List Sent := []

namespace RemoteCamera

/-- The camera is started and not paused. -/
def active (s : RemoteCamera) : Bool :=
  decide (s.camera.call = .started) && decide (s.m_Paused ≤ 0)

/-! ## Translated functions -/

/-- `OnStart`, which subscribes before it looks for the camera service. -/
def onStart (found : Bool) (s : RemoteCamera) : Option RemoteCamera :=
  (Streaming.RemoteCamera.step s.camera (.start found)).map fun camera =>
    { s with camera, subscriptions := s.subscriptions + 1 }

/-- `OnStop`, up to its loop. -/
def onStop (s : RemoteCamera) : Option RemoteCamera :=
  (Streaming.RemoteCamera.step s.camera .stop).map fun camera =>
    { s with camera }

def onPause (s : RemoteCamera) : RemoteCamera :=
  { s with m_Paused := s.m_Paused + 1 }

def onResume (s : RemoteCamera) : RemoteCamera :=
  { s with m_Paused := s.m_Paused - 1 }

def onSendData (frame : VideoData) (s : RemoteCamera) : RemoteCamera :=
  { s with sent := s.sent ++ [⟨frame, s.active⟩] }

/-- `OnGetImage`, for the `k`-th unanswered call. -/
def onGetImage (k : ℕ) (a_Image : List UInt8) (s : RemoteCamera) :
    Option RemoteCamera :=
  (Streaming.RemoteCamera.step s.camera (.image k a_Image.isEmpty)).map
    fun camera =>
      if a_Image.isEmpty then { s with camera }
      else { s with camera, queued := s.queued ++ [{ m_Data := a_Image }] }

def onRemoteVideo (frame : VideoData) (s : RemoteCamera) : RemoteCamera :=
  s.onSendData frame

/-- The topic delivers a payload to each subscribed delegate. -/
def publish (data : List UInt8) (s : RemoteCamera) : RemoteCamera :=
  (onRemoteVideo ⟨some s.arrived.length, data⟩)^[s.subscriptions]
    { s with arrived := s.arrived ++ [s.active] }

/-- The sensor is told to start, to stop, to pause or to resume; `OnStop`
returns; the `n`-th thread takes a step; an image or a payload comes; the main
thread makes a queued call of `OnSendData`. -/
inductive Event where
  | onStart (found : Bool)
  | onStop
  | onPause
  | onResume
  | returns
  | streamingThread (n : ℕ)
  | onGetImage (k : ℕ) (a_Image : List UInt8)
  | publish (data : List UInt8)
  | onSendData (n : ℕ)

def step (s : RemoteCamera) : Event → Option RemoteCamera
  | .onStart found => s.onStart found
  | .onStop => s.onStop
  | .onPause => some s.onPause
  | .onResume => some s.onResume
  | .returns =>
      (Streaming.RemoteCamera.step s.camera .returns).map fun camera =>
        { s with camera }
  | .streamingThread n =>
      (Streaming.RemoteCamera.step s.camera
        (.thread n (decide (0 < s.m_Paused)) false)).map fun camera =>
          { s with camera }
  | .onGetImage k a_Image => s.onGetImage k a_Image
  | .publish data => some (s.publish data)
  | .onSendData n =>
      s.queued[n]?.map fun frame =>
        { s with queued := s.queued.eraseIdx n }.onSendData frame

/-! ## The law -/

/-- How often the payload has been sent. -/
def times (s : RemoteCamera) (n : ℕ) : ℕ :=
  (s.sent.map fun x => x.frame.payload).count (some n)

/-- Nothing is sent while the camera is stopped or paused, and a payload that
arrives while it is neither is sent exactly once. -/
structure Silent (s : RemoteCamera) : Prop where
  active : ∀ x ∈ s.sent, x.active = true
  once : ∀ n, s.arrived[n]? = some true → s.times n = 1

/-- Nothing but payloads that have arrived is sent as a payload. -/
structure Known (s : RemoteCamera) : Prop extends Silent s where
  known : ∀ n, s.arrived.length ≤ n → s.times n = 0

/-- A payload comes to exactly one subscription while the camera is active and
to none otherwise, and queued frames are sent while it is active. -/
def Fitting (s : RemoteCamera) : Event → Prop
  | .publish _ => s.subscriptions = if s.active then 1 else 0
  | .onSendData _ => s.active = true
  | _ => True

variable {s t : RemoteCamera}

/-! ## What the functions send -/

theorem iterate_onRemoteVideo (frame : VideoData) (k : ℕ)
    (s : RemoteCamera) :
    (onRemoteVideo frame)^[k] s =
      { s with sent := s.sent ++ List.replicate k ⟨frame, s.active⟩ } := by
  induction k generalizing s with
  | zero => simp
  | succ k ih =>
      rw [Function.iterate_succ_apply, ih, List.replicate_succ]
      simp only [onRemoteVideo, onSendData, List.append_assoc,
        List.singleton_append]
      rfl

/-- A payload is sent once for each subscription. -/
theorem publish_eq (data : List UInt8) (s : RemoteCamera) :
    s.publish data =
      { s with
        arrived := s.arrived ++ [s.active]
        sent := s.sent ++ List.replicate s.subscriptions
          ⟨⟨some s.arrived.length, data⟩, s.active⟩ } := by
  rw [publish, iterate_onRemoteVideo]
  rfl

theorem times_publish (data : List UInt8) (s : RemoteCamera) (n : ℕ) :
    (s.publish data).times n =
      s.times n + if n = s.arrived.length then s.subscriptions else 0 := by
  rw [publish_eq, times, times, List.map_append, List.count_append,
    List.map_replicate, List.count_replicate]
  congr 1
  by_cases hn : n = s.arrived.length
  · simp [hn]
  · simp [hn, Ne.symm hn]

theorem Known.congr (h : Known s) (harrived : t.arrived = s.arrived)
    (hsent : t.sent = s.sent) : Known t := by
  have htimes : t.times = s.times := by
    unfold times
    rw [hsent]
  refine ⟨⟨?_, ?_⟩, ?_⟩
  · rw [hsent]; exact h.active
  · rw [harrived, htimes]; exact h.once
  · rw [harrived, htimes]; exact h.known

/-! ## Steps -/

theorem Known.publish (h : Known s) {data : List UInt8}
    (hfit : s.subscriptions = if s.active then 1 else 0) :
    Known (s.publish data) := by
  have harrived : (s.publish data).arrived = s.arrived ++ [s.active] := by
    rw [publish_eq]
  refine ⟨⟨?_, ?_⟩, ?_⟩
  · rw [publish_eq]
    refine List.forall_mem_append.mpr ⟨h.active, fun x hx => ?_⟩
    obtain ⟨hne, rfl⟩ := List.mem_replicate.mp hx
    by_contra hidle
    exact hne (by rw [hfit, if_neg hidle])
  · intro n hn
    rw [harrived] at hn
    rw [times_publish]
    rcases Nat.lt_trichotomy n s.arrived.length with hlt | heq | hgt
    · rw [List.getElem?_append_left hlt] at hn
      rw [if_neg (Nat.ne_of_lt hlt), h.once n hn]
    · subst heq
      rw [List.getElem?_concat_length, Option.some.injEq] at hn
      rw [if_pos rfl, hfit, if_pos hn, h.known _ (Nat.le_refl _)]
    · rw [List.getElem?_eq_none (by simpa using Nat.succ_le_of_lt hgt)] at hn
      cases hn
  · intro n hn
    rw [harrived, List.length_append, List.length_singleton] at hn
    rw [times_publish, if_neg (by omega), h.known n (by omega)]

/-- A frame of the camera service is no payload. -/
theorem Known.onSendData (h : Known s) {frame : VideoData}
    (hframe : frame.payload = none) (hactive : s.active = true) :
    Known (s.onSendData frame) := by
  have htimes : (s.onSendData frame).times = s.times := by
    funext n
    simp [times, RemoteCamera.onSendData, hframe]
  refine ⟨⟨?_, ?_⟩, ?_⟩
  · refine List.forall_mem_append.mpr ⟨h.active, fun x hx => ?_⟩
    obtain rfl := List.mem_singleton.mp hx
    exact hactive
  · rw [htimes]; exact h.once
  · rw [htimes]; exact h.known

/-- The invariant: the queued frames are of the camera service. -/
structure Sound (s : RemoteCamera) : Prop extends Known s where
  queued : ∀ frame ∈ s.queued, frame.payload = none

theorem Sound.congr (h : Sound s) (hqueued : t.queued = s.queued)
    (harrived : t.arrived = s.arrived) (hsent : t.sent = s.sent) : Sound t :=
  ⟨h.toKnown.congr harrived hsent, hqueued ▸ h.queued⟩

theorem Sound.step {e : Event} (h : Sound s) (hC : Fitting s e)
    (ht : s.step e = some t) : Sound t := by
  cases e with
  | onStart found =>
      obtain ⟨camera, -, rfl⟩ := Option.map_eq_some_iff.mp ht
      exact h.congr rfl rfl rfl
  | onStop =>
      obtain ⟨camera, -, rfl⟩ := Option.map_eq_some_iff.mp ht
      exact h.congr rfl rfl rfl
  | onPause =>
      obtain rfl := Option.some.inj ht
      exact h.congr rfl rfl rfl
  | onResume =>
      obtain rfl := Option.some.inj ht
      exact h.congr rfl rfl rfl
  | returns =>
      obtain ⟨camera, -, rfl⟩ := Option.map_eq_some_iff.mp ht
      exact h.congr rfl rfl rfl
  | streamingThread n =>
      obtain ⟨camera, -, rfl⟩ := Option.map_eq_some_iff.mp ht
      exact h.congr rfl rfl rfl
  | onGetImage k a_Image =>
      obtain ⟨camera, -, rfl⟩ := Option.map_eq_some_iff.mp ht
      split
      · exact h.congr rfl rfl rfl
      · refine ⟨h.toKnown.congr rfl rfl, ?_⟩
        refine List.forall_mem_append.mpr ⟨h.queued, fun frame hframe => ?_⟩
        obtain rfl := List.mem_singleton.mp hframe
        rfl
  | publish data =>
      obtain rfl := Option.some.inj ht
      refine ⟨h.toKnown.publish hC, ?_⟩
      rw [publish_eq]
      exact h.queued
  | onSendData n =>
      obtain ⟨frame, hframe, rfl⟩ := Option.map_eq_some_iff.mp ht
      have hrest : Known { s with queued := s.queued.eraseIdx n } :=
        h.toKnown.congr rfl rfl
      exact ⟨hrest.onSendData (h.queued _ (List.mem_of_getElem? hframe)) hC,
        fun f hf => h.queued f (List.mem_of_mem_eraseIdx hf)⟩

theorem not_silent {e : Event} (h : Sound s) (hC : ¬Fitting s e)
    (ht : s.step e = some t) : ¬Silent t := by
  cases e with
  | publish data =>
      obtain rfl := Option.some.inj ht
      intro hsilent
      refine hC (?_ : s.subscriptions = if s.active then 1 else 0)
      have harrived :
          (s.publish data).arrived[s.arrived.length]? = some s.active := by
        rw [publish_eq, List.getElem?_concat_length]
      by_cases hactive : s.active = true
      · have honce := hsilent.once s.arrived.length (hactive ▸ harrived)
        rw [times_publish, if_pos rfl, h.known _ (Nat.le_refl _)] at honce
        rw [if_pos hactive]
        omega
      · rw [if_neg hactive]
        by_contra hne
        refine hactive (hsilent.active
          ⟨⟨some s.arrived.length, data⟩, s.active⟩ ?_)
        rw [publish_eq]
        exact List.mem_append_right _ (List.mem_replicate.mpr ⟨hne, rfl⟩)
  | onSendData n =>
      obtain ⟨frame, -, rfl⟩ := Option.map_eq_some_iff.mp ht
      intro hsilent
      exact hC (hsilent.active ⟨frame, s.active⟩
        (List.mem_append_right _ (List.mem_singleton_self _)))
  | _ => exact absurd trivial hC

/-! ## Runs -/

/-- Throughout a run the camera is silent when it should be, iff each payload
comes to one subscription while it is active and to none otherwise, and the
queued frames are sent while it is active. -/
theorem silent_iff (es : List Event) :
    Throughout step Silent {} es ↔ EachStep step Fitting {} es :=
  throughout_iff_eachStep (I := Sound) (L := fun _ _ => True)
    (fun _ h => h.toSilent) (fun _ _ _ h _ hC ht => h.step hC ht)
    (fun _ _ _ h _ hC ht => not_silent h hC ht)
    ⟨⟨⟨nofun, nofun⟩, fun _ _ => rfl⟩, nofun⟩ (eachStep_true _ es)

/-- A payload comes while the camera is paused. -/
theorem not_always_silent :
    ¬∀ es : List Event, Throughout step Silent {} es := by
  intro h
  have hrun : (run step {} [.onStart false, .onPause, .publish [255]]).map
      (fun s => s.sent) = some [⟨⟨some 0, [255]⟩, false⟩] := by decide
  obtain ⟨t, ht, hsent⟩ := (h _).last hrun
  exact absurd (ht.active _ (hsent ▸ List.mem_singleton_self _))
    Bool.false_ne_true

/-- After a second `OnStart`, a payload is sent twice. -/
example : (run step {} [.onStart false, .onStop, .returns, .onStart false,
    .publish [255]]).map (fun s => s.times 0) = some 2 := by decide

end RemoteCamera

end SelfPlugins.RemoteVideo
