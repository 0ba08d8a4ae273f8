import SelfPlugins.Classifier.Selection

/-!
# Training once per change of the file

`NLCProxy::CheckClassifiers` asks every 300 seconds for the classifiers of the
proxy, and `OnGetClassifiers` trains a new one if the training file is newer
than all of them.  The creation times are texts in UTC, but `mktime` takes
them as local time: east of Greenwich a new classifier looks too old for as
long as the offset of the zone, and each check in that time trains another.

`not_retrained_iff` gives the runs without such a training for every offset;
`not_retrained_of_west` shows that there is none if the offset is not east and
the service keeps what it has listed.
-/

namespace SelfPlugins.Watson

open Runs

/-! ## Checks over time -/

/-- A proxy with a training file, over time.  `fileTime` is what
`GetFileModifyTime` returns, 0 if there is no file; `outstanding` counts the
open requests for classifiers.  `known`, `listed` and `retrained` are
auxiliary: the classifiers of the last list that were not deleted, whether a
classifier created at or after `fileTime` has been listed since the file was
modified, and whether a training has started nevertheless. -/
structure Training where
  fileTime : ℤ
  classifierId : String
  timer : Bool
  outstanding : ℕ
  known : List Classifier
  listed : Bool
  retrained : Bool

namespace Training

def new (fileTime : ℤ) (classifierId : String) : Training :=
  ⟨fileTime, classifierId, false, 0, [], false, false⟩

/-- The file is modified; `CheckClassifiers` runs, from `Start` or the timer;
a list of classifiers comes, or null, and `opens` tells whether the training
file can be opened. -/
inductive Event where
  | modified (fileTime : ℤ)
  | check (configured : Bool)
  | answer (classifiers : Option (List Classifier)) (opens : Bool)

/-- Whether the list has a classifier created at or after a time; `utc` is the
time a date in UTC stands for. -/
def lists (utc : Tm → ℤ) (time : ℤ) (cs : List Classifier) : Bool :=
  cs.any fun c => time ≤ utc (createdTm c.created)

def step (mktime utc : Tm → ℤ) (s : Training) : Event → Option Training
  | .modified fileTime => some { s with fileTime := fileTime, listed := false }
  | .check configured =>
      if s.fileTime = 0 then some s
      else some { s with
        outstanding := if configured then s.outstanding + 1 else s.outstanding
        timer := true }
  | .answer classifiers opens =>
      if s.outstanding = 0 then none
      else
        let o := onGetClassifiers mktime s.fileTime s.classifierId classifiers
        let listed := s.listed ||
          classifiers.any fun cs => lists utc s.fileTime cs
        some { s with
          classifierId := o.classifierId
          outstanding := s.outstanding - 1
          known := (classifiers.map (remaining o)).getD s.known
          listed := listed
          retrained := s.retrained || (listed && o.trains && opens) }

/-! ## When no other training starts -/

/-- A list that comes after a classifier created at or after the time of the
file has been listed, or lists it itself, has a classifier that is younger than
the file by the offset of the local zone. -/
def Covered (utc : Tm → ℤ) (offset : ℤ) (s : Training) : Event → Prop
  | .answer (some cs) opens =>
      opens = true → 0 < s.fileTime →
        s.listed = true ∨ lists utc s.fileTime cs = true →
        lists utc (s.fileTime + offset) cs = true
  | _ => True

section Zone

variable {mktime utc : Tm → ℤ} {offset : ℤ}

/-- A check trains iff the file has been modified after 1970 and the list has
no classifier that is younger by the offset. -/
theorem trains_iff (hzone : ∀ t, mktime t = utc t - offset) (fileTime : ℤ)
    (classifierId : String) (cs : List Classifier) :
    (onGetClassifiers mktime fileTime classifierId (some cs)).trains = true ↔
      0 < fileTime ∧ lists utc (fileTime + offset) cs = false := by
  simp only [onGetClassifiers, decide_eq_true_eq]
  by_cases hpos : 0 < fileTime
  · rw [examined_newest_lt mktime hpos, ← Bool.not_eq_true, lists,
      List.any_eq_true]
    simp only [hpos, true_and, not_exists, not_and, decide_eq_true_eq]
    refine forall_congr' fun c => forall_congr' fun _ => ?_
    rw [classifierTime, hzone]
    omega
  · have hnew := examined_newest_nonneg mktime cs
    refine iff_of_false ?_ fun h => hpos h.1
    omega

/-- A step that is covered starts no other training, and no other step does
without. -/
theorem retrained_step_iff (hzone : ∀ t, mktime t = utc t - offset)
    {s t : Training} (hs : s.retrained = false) {e : Event}
    (ht : step mktime utc s e = some t) :
    t.retrained = false ↔ Covered utc offset s e := by
  cases e with
  | modified fileTime =>
      cases ht
      exact iff_of_true hs trivial
  | check configured =>
      rw [step] at ht
      split at ht
      · cases ht
        exact iff_of_true hs trivial
      · cases ht
        exact iff_of_true hs trivial
  | answer classifiers opens =>
      rw [step] at ht
      split at ht
      · cases ht
      · cases ht
        cases classifiers with
        | none =>
            refine iff_of_true ?_ trivial
            simp [hs, onGetClassifiers]
        | some cs =>
            have htrains := trains_iff hzone s.fileTime s.classifierId cs
            simp only [hs, Bool.false_or, Option.any_some, Covered]
            rw [← Bool.not_eq_true, Bool.and_eq_true, Bool.and_eq_true,
              Bool.or_eq_true, htrains, ← Bool.not_eq_true]
            tauto

/-- No check trains another classifier after one created at or after the
modification of the file has been listed, precisely in the runs all of whose
steps are covered. -/
theorem not_retrained_iff (hzone : ∀ t, mktime t = utc t - offset)
    (fileTime : ℤ) (classifierId : String) (es : List Event) :
    Throughout (step mktime utc) (fun s => s.retrained = false)
        (new fileTime classifierId) es ↔
      EachStep (step mktime utc) (Covered utc offset)
        (new fileTime classifierId) es :=
  throughout_iff_eachStep (I := fun s => s.retrained = false)
    (fun _ hs => hs)
    (fun _ _ _ hs _ hC ht => (retrained_step_iff hzone hs ht).mpr hC)
    (fun _ _ _ hs _ hC ht hnot => hC ((retrained_step_iff hzone hs ht).mp hnot))
    rfl (eachStep_true _ _)

/-! ## West of Greenwich -/

/-- The service lists what it has listed before, except for what has been
deleted, and its identifiers are distinct. -/
def Persistent (s : Training) : Event → Prop
  | .answer (some cs) _ =>
      (cs.map Classifier.classifierId).Nodup ∧ ∀ c ∈ s.known, c ∈ cs
  | _ => True

theorem lists_mono {time : ℤ} {cs ds : List Classifier}
    (h : lists utc time cs = true) (hsub : ∀ c ∈ cs, c ∈ ds) :
    lists utc time ds = true := by
  rw [lists, List.any_eq_true] at h ⊢
  obtain ⟨c, hc, htime⟩ := h
  exact ⟨c, hsub c hc, htime⟩

/-- A check does not delete every classifier created at or after a time. -/
theorem lists_remaining (hzone : ∀ t, mktime t = utc t - offset) {time : ℤ}
    {cs : List Classifier} (hids : (cs.map Classifier.classifierId).Nodup)
    (h : lists utc time cs = true) (classifierFileTime : ℤ)
    (classifierId : String) :
    lists utc time (remaining (onGetClassifiers mktime classifierFileTime
      classifierId (some cs)) cs) = true := by
  rw [lists, List.any_eq_true] at h ⊢
  obtain ⟨c, hc, htime⟩ := h
  rw [decide_eq_true_eq] at htime
  by_cases hkept : c.classifierId ∈ (onGetClassifiers mktime
    classifierFileTime classifierId (some cs)).deletes
  · rcases onGetClassifiers_cases mktime hids classifierFileTime
      classifierId with ⟨d, hd, -⟩ | ⟨-, -, hempty⟩
    · have hlt : classifierTime mktime c < classifierTime mktime d := by
        by_contra hle
        exact hd.not_deleted hids hc (not_lt.mp hle) hkept
      rw [classifierTime, classifierTime, hzone, hzone] at hlt
      refine ⟨d, mem_remaining.mpr ⟨hd.mem, ?_⟩, ?_⟩
      · exact hd.not_deleted hids hd.mem le_rfl
      · rw [decide_eq_true_eq]
        omega
    · rw [hempty] at hkept
      cases hkept
  · exact ⟨c, mem_remaining.mpr ⟨hc, hkept⟩, decide_eq_true htime⟩

/-- Where the local time is not ahead of UTC, and with a service that keeps
what it has listed, there is one training for each modification of the
file. -/
theorem not_retrained_of_west (hzone : ∀ t, mktime t = utc t - offset)
    (hwest : offset ≤ 0) {fileTime : ℤ} {classifierId : String}
    {es : List Event}
    (hservice : EachStep (step mktime utc) Persistent
      (new fileTime classifierId) es) :
    Throughout (step mktime utc) (fun s => s.retrained = false)
      (new fileTime classifierId) es := by
  refine Throughout.mono (fun s (h : s.retrained = false ∧
      (s.listed = true → lists utc s.fileTime s.known = true)) => h.1)
    (throughout_of_eachStep ?_ ⟨rfl, fun h => absurd h (by simp [new])⟩
      hservice)
  rintro s e t ⟨hs, hknown⟩ hpersistent ht
  have hcovered : Covered utc offset s e := by
    cases e with
    | modified fileTime => trivial
    | check configured => trivial
    | answer classifiers opens =>
        cases classifiers with
        | none => trivial
        | some cs =>
            intro _ _ hlisted
            have hcs : lists utc s.fileTime cs = true := by
              rcases hlisted with hlisted | hcs
              · exact lists_mono (hknown hlisted) hpersistent.2
              · exact hcs
            rw [lists, List.any_eq_true] at hcs ⊢
            obtain ⟨c, hc, htime⟩ := hcs
            rw [decide_eq_true_eq] at htime
            exact ⟨c, hc, decide_eq_true (by omega)⟩
  refine ⟨(retrained_step_iff hzone hs ht).mpr hcovered, ?_⟩
  cases e with
  | modified fileTime =>
      cases ht
      intro h
      cases h
  | check configured =>
      rw [step] at ht
      split at ht
      · cases ht
        exact hknown
      · cases ht
        exact hknown
  | answer classifiers opens =>
      rw [step] at ht
      split at ht
      · cases ht
      · cases ht
        cases classifiers with
        | none => simpa using hknown
        | some cs =>
            intro hlisted
            have hcs : lists utc s.fileTime cs = true := by
              rcases Bool.or_eq_true_iff.mp hlisted with hlisted | hcs
              · exact lists_mono (hknown hlisted) hpersistent.2
              · exact hcs
            exact lists_remaining hzone hpersistent.1 hcs _ _

end Zone

/-! ## A clock -/

/-- The seconds from the beginning of 1970 to a date of the Gregorian calendar
in UTC. -/
def timegm (t : Tm) : ℤ :=
  let year := t.year + 1900 - if t.mon < 2 then 1 else 0
  let era := year / 400
  let yearOfEra := year % 400
  let dayOfYear := (153 * ((t.mon + 10) % 12) + 2) / 5 + t.mday - 1
  let dayOfEra := 365 * yearOfEra + yearOfEra / 4 - yearOfEra / 100 + dayOfYear
  let days := 146097 * era + dayOfEra - 719468
  86400 * days + 3600 * t.hour + 60 * t.min + t.sec

example : timegm (createdTm "2016-05-27T05:43:25.828Z") = 1464327805 := by
  decide

/-- One hour east of Greenwich, and five minutes after a classifier has been
listed that was created after the modification of the file, another one is
trained. -/
theorem retrained_east :
    let c : Classifier := ⟨"self_nlc.csv", "en", "", "1",
      "2016-05-27T05:43:25.828Z", "Training", ""⟩
    ¬Throughout (step (fun t => timegm t - 3600) timegm)
      (fun s => s.retrained = false) (new 1464327800 "")
      [.check true, .answer (some [c]) true, .check true,
        .answer (some [c]) true] := by
  intro c h
  have hrun : (run (step (fun t => timegm t - 3600) timegm)
      (new 1464327800 "") [.check true, .answer (some [c]) true, .check true,
        .answer (some [c]) true]).map (fun s => s.retrained) = some true := by
    decide
  obtain ⟨t, hend, hretrained⟩ := h.last hrun
  rw [hretrained] at hend
  cases hend

/-- One hour west of Greenwich a training that is listed is not repeated. -/
theorem not_retrained_iff_west :
    let c : Classifier := ⟨"self_nlc.csv", "en", "", "1",
      "2016-05-27T05:43:25.828Z", "Training", ""⟩
    let es : List Event := [.check true, .answer (some [c]) true]
    Throughout (step (fun t => timegm t - -3600) timegm)
      (fun s => s.retrained = false) (new 1464327800 "") es := by
  intro c es
  refine (not_retrained_iff (fun t => rfl) 1464327800 "" es).mpr ?_
  refine fun t ht => ⟨trivial, fun u hu => ⟨fun _ _ _ => ?_, trivial⟩⟩
  obtain rfl := Option.some.inj ht
  decide

end Training

end SelfPlugins.Watson
