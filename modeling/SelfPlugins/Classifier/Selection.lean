import Mathlib.Data.List.Nodup
import Mathlib.Logic.Function.Basic
import SelfPlugins.Classifier.FindRequest
import SelfPlugins.Library.FirstMax

/-!
# Selecting and purging classifiers

`NLCProxy::OnGetClassifiers` goes twice over the classifiers that bear the
name of its training file.  The first pass reads the creation times, remembers
the newest one, and selects the available classifier that was created last;
the second pass deletes those that are much older than the selected one.
Between the passes a new classifier is trained if the file is newer than all.

`onGetClassifiers_selects` says what is selected and what is deleted, and that
doing it again with what remains changes nothing.  The time a date stands for
is a parameter, `mktime`, which is negative on failure.
-/

namespace SelfPlugins.Watson

/-- `struct tm`, with the fields that are used. -/
structure Tm where
  year : ℤ
  mon : ℤ
  mday : ℤ
  hour : ℤ
  min : ℤ
  sec : ℤ
deriving DecidableEq

/-! ## Reading a creation time -/

/-- `%d` of `sscanf`: white space, a sign, and digits. -/
def scanInt (text : List Char) : Option (ℤ × List Char) :=
  let text := text.dropWhile Char.isWhitespace
  let signed := text.head? = some '-' ∨ text.head? = some '+'
  let unsigned := if signed then text.tail else text
  let digits := unsigned.takeWhile Char.isDigit
  let value : ℕ := digits.foldl (fun n d => 10 * n + (d.toNat - '0'.toNat)) 0
  if digits = [] then none
  else some (if text.head? = some '-' then -value else value,
    unsigned.dropWhile Char.isDigit)

/-- Integers separated by the given characters, as many as can be read. -/
def scanInts : List Char → List Char → List ℤ
  | [], text =>
      match scanInt text with
      | none => []
      | some (n, _) => [n]
  | sep :: seps, text =>
      match scanInt text with
      | none => []
      | some (n, text) =>
          if text.head? = some sep then n :: scanInts seps text.tail else [n]

/-- The `struct tm` made of a creation time such as 2016-05-27T05:43:25.828Z;
fields that cannot be read are zero. -/
def createdTm (created : String) : Tm :=
  let fields := scanInts ['-', '-', 'T', ':', ':'] created.toList
  { year := fields.getD 0 0 - 1900
    mon := fields.getD 1 0 - 1
    mday := fields.getD 2 0
    hour := fields.getD 3 0
    min := fields.getD 4 0
    sec := fields.getD 5 0 }

example : createdTm "2016-05-27T05:43:25.828Z" = ⟨116, 4, 27, 5, 43, 25⟩ := by
  decide

/-! ## The two passes -/

def checkClassifiersInterval : ℤ := 300

def classifierTime (mktime : Tm → ℤ) (c : Classifier) : ℤ :=
  mktime (createdTm c.created)

/-- The variables of the first pass. -/
structure Examined where
  classifierId : String
  newestClassifierTime : ℤ
  availClassifierTime : ℤ
  classifierTimes : String → Option ℤ

def Examined.start : Examined := ⟨"", 0, 0, fun _ => none⟩

/-- A classifier in the first pass. -/
def examine (mktime : Tm → ℤ) (s : Examined) (c : Classifier) : Examined :=
  let time := classifierTime mktime c
  if time < 0 then s
  else
    { classifierTimes :=
        Function.update s.classifierTimes c.classifierId (some time)
      newestClassifierTime :=
        if s.newestClassifierTime < time then time
        else s.newestClassifierTime
      availClassifierTime :=
        if c.status = "Available" && s.availClassifierTime < time then time
        else s.availClassifierTime
      classifierId :=
        if c.status = "Available" && s.availClassifierTime < time then
          c.classifierId
        else s.classifierId }

/-- Whether the second pass deletes a classifier. -/
def purges (s : Examined) (c : Classifier) : Bool :=
  if c.classifierId = s.classifierId then false
  else
    match s.classifierTimes c.classifierId with
    | none => false
    | some time => time < s.availClassifierTime &&
        s.availClassifierTime - time > checkClassifiersInterval

/-- The members of a proxy that a check changes, and what it asks the service
for: whether it trains a new classifier, and which ones it deletes. -/
structure Check where
  classifierId : String
  checkedClassifiers : Bool
  trains : Bool
  deletes : List String

/-- `OnGetClassifiers`, for a training file modified at `classifierFileTime`
and a proxy that has selected `classifierId` before. -/
def onGetClassifiers (mktime : Tm → ℤ) (classifierFileTime : ℤ)
    (classifierId : String) (classifiers : Option (List Classifier)) : Check :=
  match classifiers with
  | none => ⟨classifierId, true, false, []⟩
  | some classifiers =>
      let s := classifiers.foldl (examine mktime) .start
      { classifierId := s.classifierId
        checkedClassifiers := true
        trains := s.newestClassifierTime < classifierFileTime
        deletes := (classifiers.filter (purges s)).map
          Classifier.classifierId }

/-! ## What the first pass finds -/

section Passes

variable (mktime : Tm → ℤ)

/-- Whether a classifier can be selected. -/
def selectable (c : Classifier) : Bool :=
  c.status = "Available" && 0 ≤ classifierTime mktime c

theorem foldl_examine_concat (cs : List Classifier) (c : Classifier) :
    (cs ++ [c]).foldl (examine mktime) .start =
      examine mktime (cs.foldl (examine mktime) .start) c := by
  rw [List.foldl_append]
  rfl

/-- The selection is a running maximum. -/
theorem examined_avail (cs : List Classifier) :
    let s := cs.foldl (examine mktime) .start
    let best := runningMax (selectable mktime) (classifierTime mktime) 0 cs
    s.availClassifierTime = best.1 ∧
      s.classifierId = (best.2.map Classifier.classifierId).getD "" := by
  induction cs using List.reverseRecOn with
  | nil => exact ⟨rfl, rfl⟩
  | append_singleton cs c ih =>
      dsimp only at ih ⊢
      rw [foldl_examine_concat, runningMax_concat, examine]
      by_cases hneg : classifierTime mktime c < 0
      · have hnot : ¬0 ≤ classifierTime mktime c := not_le.mpr hneg
        simpa [hneg, selectable, hnot] using ih
      · have hpos : 0 ≤ classifierTime mktime c := not_lt.mp hneg
        simp only [if_neg hneg, selectable, hpos, ih.1, decide_true,
          Bool.and_true]
        split
        · exact ⟨rfl, rfl⟩
        · exact ⟨rfl, ih.2⟩

/-- The newest creation time is before a time after 1970 iff all are. -/
theorem examined_newest_lt {time : ℤ} (htime : 0 < time)
    (cs : List Classifier) :
    (cs.foldl (examine mktime) .start).newestClassifierTime < time ↔
      ∀ c ∈ cs, classifierTime mktime c < time := by
  induction cs using List.reverseRecOn with
  | nil => simp [Examined.start, htime]
  | append_singleton cs c ih =>
      rw [foldl_examine_concat, examine]
      have hall : (∀ d ∈ cs ++ [c], classifierTime mktime d < time) ↔
          (∀ d ∈ cs, classifierTime mktime d < time) ∧
            classifierTime mktime c < time := by
        simp [or_imp, forall_and]
      rw [hall, ← ih]
      by_cases hneg : classifierTime mktime c < 0
      · simp [hneg, hneg.trans htime]
      · simp only [if_neg hneg]
        split
        · rename_i hlt
          exact ⟨fun h => ⟨hlt.trans h, h⟩, fun h => h.2⟩
        · rename_i hle
          exact ⟨fun h => ⟨h, (not_lt.mp hle).trans_lt h⟩, fun h => h.1⟩

theorem examined_newest_nonneg (cs : List Classifier) :
    0 ≤ (cs.foldl (examine mktime) .start).newestClassifierTime := by
  induction cs using List.reverseRecOn with
  | nil => exact le_refl _
  | append_singleton cs c ih =>
      rw [foldl_examine_concat, examine]
      split
      · exact ih
      · dsimp only
        split
        · rename_i hlt
          exact ih.trans hlt.le
        · exact ih

/-- The map of creation times, for distinct identifiers. -/
theorem examined_times {cs : List Classifier}
    (hids : (cs.map Classifier.classifierId).Nodup) :
    let s := cs.foldl (examine mktime) .start
    (∀ classifierId, classifierId ∉ cs.map Classifier.classifierId →
      s.classifierTimes classifierId = none) ∧
    ∀ c ∈ cs, s.classifierTimes c.classifierId =
      if 0 ≤ classifierTime mktime c then some (classifierTime mktime c)
      else none := by
  induction cs using List.reverseRecOn with
  | nil => exact ⟨fun _ _ => rfl, by simp⟩
  | append_singleton cs c ih =>
      rw [List.map_append, List.nodup_append] at hids
      obtain ⟨hcs, -, hdisjoint⟩ := hids
      obtain ⟨hnone, htimes⟩ := ih hcs
      have hnew : c.classifierId ∉ cs.map Classifier.classifierId :=
        fun hmem => hdisjoint _ hmem _ (by simp) rfl
      dsimp only
      rw [foldl_examine_concat, examine]
      by_cases hneg : classifierTime mktime c < 0
      · have hnot : ¬0 ≤ classifierTime mktime c := not_le.mpr hneg
        simp only [if_pos hneg]
        refine ⟨fun i hi => hnone i fun h => hi (by simp [h]), ?_⟩
        intro d hd
        rcases List.mem_append.mp hd with hd | hd
        · exact htimes d hd
        · rw [List.mem_singleton.mp hd, if_neg hnot]
          exact hnone _ hnew
      · have hpos : 0 ≤ classifierTime mktime c := not_lt.mp hneg
        simp only [if_neg hneg]
        constructor
        · intro i hi
          rw [List.map_append, List.mem_append, not_or] at hi
          have hne : i ≠ c.classifierId := by simpa using hi.2
          rw [Function.update_of_ne hne]
          exact hnone i hi.1
        · intro d hd
          rcases List.mem_append.mp hd with hd | hd
          · have hne : d.classifierId ≠ c.classifierId := fun h =>
              hnew (h ▸ List.mem_map_of_mem hd)
            rw [Function.update_of_ne hne]
            exact htimes d hd
          · rw [List.mem_singleton.mp hd, Function.update_self, if_pos hpos]

end Passes

/-! ## What a check does -/

section Checks

variable {mktime : Tm → ℤ} {cs : List Classifier}

/-- An available classifier with a positive creation time. -/
def Selectable (mktime : Tm → ℤ) (c : Classifier) : Prop :=
  c.status = "Available" ∧ 0 < classifierTime mktime c

theorem Selectable.selectable {c : Classifier} (h : Selectable mktime c) :
    Watson.selectable mktime c = true := by
  simp [Watson.selectable, h.1, h.2.le]

theorem Selectable.of_selectable {c : Classifier}
    (h : Watson.selectable mktime c = true)
    (hpos : 0 < classifierTime mktime c) : Selectable mktime c := by
  rw [Watson.selectable, Bool.and_eq_true] at h
  exact ⟨of_decide_eq_true h.1, hpos⟩

/-- The classifiers that are much older than the time of the selected one. -/
def outdated (mktime : Tm → ℤ) (time : ℤ) (cs : List Classifier) :
    List Classifier :=
  cs.filter fun d => 0 ≤ classifierTime mktime d &&
    time - classifierTime mktime d > checkClassifiersInterval

theorem mem_outdated {time : ℤ} {d : Classifier} :
    d ∈ outdated mktime time cs ↔ d ∈ cs ∧ 0 ≤ classifierTime mktime d ∧
      300 < time - classifierTime mktime d := by
  simp [outdated, checkClassifiersInterval]

/-- `c` has been selected from the list, and the outdated ones are deleted. -/
structure SelectedFrom (mktime : Tm → ℤ) (cs : List Classifier) (o : Check)
    (c : Classifier) : Prop where
  mem : c ∈ cs
  selectable : Selectable mktime c
  newest : ∀ d ∈ cs, Selectable mktime d →
    classifierTime mktime d ≤ classifierTime mktime c
  classifierId : o.classifierId = c.classifierId
  deletes : o.deletes =
    (outdated mktime (classifierTime mktime c) cs).map Classifier.classifierId

/-- The second pass, in terms of the time of the selected classifier. -/
theorem filter_purges {time : ℤ}
    (hids : (cs.map Classifier.classifierId).Nodup)
    (havail : (cs.foldl (examine mktime) .start).availClassifierTime = time)
    (hselected : ∀ d ∈ cs, d.classifierId =
        (cs.foldl (examine mktime) .start).classifierId →
      0 ≤ classifierTime mktime d → time ≤ classifierTime mktime d) :
    cs.filter (purges (cs.foldl (examine mktime) .start)) =
      outdated mktime time cs := by
  apply List.filter_congr
  intro d hd
  obtain ⟨-, htimes⟩ := examined_times mktime hids
  rw [purges, htimes d hd, havail]
  by_cases hneg : classifierTime mktime d < 0
  · have hnot : ¬0 ≤ classifierTime mktime d := not_le.mpr hneg
    simp [hnot]
  · have hpos : 0 ≤ classifierTime mktime d := not_lt.mp hneg
    by_cases hid : d.classifierId =
        (cs.foldl (examine mktime) .start).classifierId
    · have hle := hselected d hd hid hpos
      have hnot : ¬checkClassifiersInterval < time - classifierTime mktime d := by
        rw [checkClassifiersInterval]
        omega
      simp [hid, hnot]
    · by_cases hold :
          checkClassifiersInterval < time - classifierTime mktime d
      · have hlt : classifierTime mktime d < time := by
          rw [checkClassifiersInterval] at hold
          omega
        simp [hid, hpos, hold, hlt]
      · simp [hid, hpos, hold]

/-- A check of a list without a selectable classifier. -/
theorem onGetClassifiers_of_forall_not
    (hids : (cs.map Classifier.classifierId).Nodup)
    (hnone : ∀ c ∈ cs, ¬Selectable mktime c) (classifierFileTime : ℤ)
    (classifierId : String) :
    let o := onGetClassifiers mktime classifierFileTime classifierId (some cs)
    o.classifierId = "" ∧ o.deletes = [] := by
  obtain ⟨havail, hid⟩ := examined_avail mktime cs
  rcases runningMax_spec (Watson.selectable mktime) (classifierTime mktime) 0
    cs with ⟨hbest, -⟩ | ⟨c, -, hpos, hc⟩
  · rw [hbest] at havail hid
    refine ⟨hid, ?_⟩
    have hpurged := filter_purges hids havail fun d _ _ hd => hd
    have hempty : outdated mktime 0 cs = [] := by
      rw [List.eq_nil_iff_forall_not_mem]
      intro d hd
      obtain ⟨-, hpos, hold⟩ := mem_outdated.mp hd
      omega
    simp only [onGetClassifiers, hpurged, hempty, List.map_nil]
  · exact absurd (Selectable.of_selectable hc.admitted hpos) (hnone c hc.mem)

/-- A check of a list with selectable classifiers selects the first of the
newest ones. -/
theorem onGetClassifiers_of_isFirstMax
    (hids : (cs.map Classifier.classifierId).Nodup) {c : Classifier}
    (hc : IsFirstMax (Watson.selectable mktime) (classifierTime mktime) cs c)
    (hpos : 0 < classifierTime mktime c) (classifierFileTime : ℤ)
    (classifierId : String) :
    let o := onGetClassifiers mktime classifierFileTime classifierId (some cs)
    o.classifierId = c.classifierId ∧
      o.deletes = (outdated mktime (classifierTime mktime c) cs).map
        Classifier.classifierId := by
  obtain ⟨havail, hid⟩ := examined_avail mktime cs
  rcases runningMax_spec (Watson.selectable mktime) (classifierTime mktime) 0
    cs with ⟨-, hall⟩ | ⟨d, hbest, -, hd⟩
  · exact absurd (hall c hc.mem hc.admitted) (not_le.mpr hpos)
  · obtain rfl : d = c := hd.unique hc
    rw [hbest] at havail hid
    have hselected : ∀ e ∈ cs, e.classifierId =
        (cs.foldl (examine mktime) .start).classifierId →
        0 ≤ classifierTime mktime e →
        classifierTime mktime d ≤ classifierTime mktime e := by
      intro e he heq _
      have heq' : e.classifierId = d.classifierId := heq.trans hid
      rw [List.inj_on_of_nodup_map hids he hd.mem heq']
    refine ⟨hid, ?_⟩
    simp only [onGetClassifiers, filter_purges hids havail hselected]

/-- What remains of a list after a check has asked for deletions. -/
def remaining (o : Check) (cs : List Classifier) : List Classifier :=
  cs.filter fun c => c.classifierId ∉ o.deletes

theorem mem_remaining {o : Check} {c : Classifier} :
    c ∈ remaining o cs ↔ c ∈ cs ∧ c.classifierId ∉ o.deletes := by
  simp [remaining]

/-- Nothing that remains is outdated. -/
theorem SelectedFrom.outdated_remaining {o : Check} {c : Classifier}
    (h : SelectedFrom mktime cs o c) :
    outdated mktime (classifierTime mktime c) (remaining o cs) = [] := by
  rw [List.eq_nil_iff_forall_not_mem]
  intro d hd
  obtain ⟨hd, hold⟩ := mem_outdated.mp hd
  obtain ⟨hmem, hkept⟩ := mem_remaining.mp hd
  apply hkept
  rw [h.deletes]
  exact List.mem_map_of_mem (mem_outdated.mpr ⟨hmem, hold⟩)

/-- A classifier that is not more than the interval older than the selected
one is not deleted. -/
theorem SelectedFrom.not_deleted (hids : (cs.map Classifier.classifierId).Nodup)
    {o : Check} {c d : Classifier} (h : SelectedFrom mktime cs o c)
    (hd : d ∈ cs) (hnew : classifierTime mktime c ≤ classifierTime mktime d) :
    d.classifierId ∉ o.deletes := by
  rw [h.deletes]
  intro hmem
  obtain ⟨e, he, heq⟩ := List.mem_map.mp hmem
  obtain ⟨hecs, -, hold⟩ := mem_outdated.mp he
  obtain rfl : e = d := List.inj_on_of_nodup_map hids hecs hd heq
  omega

/-- A check selects the first of the newest selectable classifiers, or there
is none. -/
theorem onGetClassifiers_cases (mktime : Tm → ℤ)
    (hids : (cs.map Classifier.classifierId).Nodup) (classifierFileTime : ℤ)
    (classifierId : String) :
    let o := onGetClassifiers mktime classifierFileTime classifierId (some cs)
    (∃ c, SelectedFrom mktime cs o c ∧
      IsFirstMax (Watson.selectable mktime) (classifierTime mktime) cs c) ∨
    ((∀ c ∈ cs, ¬Selectable mktime c) ∧ o.classifierId = "" ∧
      o.deletes = []) := by
  intro o
  rcases runningMax_spec (Watson.selectable mktime) (classifierTime mktime) 0
    cs with ⟨-, hall⟩ | ⟨c, -, hpos, hc⟩
  · have hnone : ∀ c ∈ cs, ¬Selectable mktime c := fun c hcs hsel =>
      absurd (hall c hcs hsel.selectable) (not_le.mpr hsel.2)
    exact Or.inr ⟨hnone, onGetClassifiers_of_forall_not hids hnone
      classifierFileTime classifierId⟩
  · obtain ⟨hid, hdeletes⟩ := onGetClassifiers_of_isFirstMax hids hc hpos
      classifierFileTime classifierId
    exact Or.inl ⟨c, ⟨hc.mem, Selectable.of_selectable hc.admitted hpos,
      fun d hd hdsel => hc.le hd hdsel.selectable, hid, hdeletes⟩, hc⟩

/-- Selection and purge.  If a classifier is selectable, a newest one is
selected, the outdated ones are deleted, and neither the selected one nor a
newer one is among them; otherwise nothing is selected and nothing deleted.
Doing it again with what remains selects the same and deletes nothing. -/
theorem onGetClassifiers_selects
    (hids : (cs.map Classifier.classifierId).Nodup) (classifierFileTime : ℤ)
    (classifierId : String) :
    let o := onGetClassifiers mktime classifierFileTime classifierId (some cs)
    ((∃ c, SelectedFrom mktime cs o c ∧ c.classifierId ∉ o.deletes ∧
        ∀ d ∈ cs, classifierTime mktime c < classifierTime mktime d →
          d.classifierId ∉ o.deletes) ∨
      ((∀ c ∈ cs, ¬Selectable mktime c) ∧ o.classifierId = "" ∧
        o.deletes = [])) ∧
    ((∀ c ∈ cs, c.classifierId ≠ "") →
      (o.classifierId ≠ "" ↔ ∃ c ∈ cs, Selectable mktime c)) ∧
    ∀ classifierFileTime' classifierId',
      let o' := onGetClassifiers mktime classifierFileTime' classifierId'
        (some (remaining o cs))
      o'.classifierId = o.classifierId ∧ o'.deletes = [] := by
  intro o
  have hids' : ((remaining o cs).map Classifier.classifierId).Nodup :=
    hids.sublist (List.filter_sublist.map _)
  rcases onGetClassifiers_cases mktime hids classifierFileTime classifierId with
    ⟨c, hselected, hc⟩ | ⟨hnone, hempty⟩
  · have hkept := hselected.not_deleted hids hc.mem le_rfl
    refine ⟨Or.inl ⟨c, hselected, hkept,
      fun d hd hnew => hselected.not_deleted hids hd hnew.le⟩, ?_, ?_⟩
    · intro hne
      refine iff_of_true ?_ ⟨c, hc.mem, hselected.selectable⟩
      rw [hselected.classifierId]
      exact hne c hc.mem
    · intro F' id'
      have hc' : IsFirstMax (Watson.selectable mktime) (classifierTime mktime)
          (remaining o cs) c := hc.filter (decide_eq_true hkept)
      obtain ⟨hid', hdeletes'⟩ := onGetClassifiers_of_isFirstMax hids' hc'
        hselected.selectable.2 F' id'
      refine ⟨hid'.trans hselected.classifierId.symm, ?_⟩
      rw [hdeletes', hselected.outdated_remaining]
      rfl
  · refine ⟨Or.inr ⟨hnone, hempty⟩, ?_, fun F' id' => ?_⟩
    · intro _
      refine iff_of_false (fun h => h hempty.1) ?_
      rintro ⟨c, hcs, hsel⟩
      exact hnone c hcs hsel
    · have hagain := onGetClassifiers_of_forall_not hids'
        (fun c hcs => hnone c (mem_remaining.mp hcs).1) F' id'
      exact ⟨hagain.1.trans hempty.1.symm, hagain.2⟩

/-- The older of two available classifiers is deleted, one whose date cannot
be read is left alone. -/
theorem onGetClassifiers_selects_example :
    let cs : List Classifier :=
      [⟨"nlc", "en", "", "1", "0-1-1T0:10:0", "Available", ""⟩,
        ⟨"nlc", "en", "", "2", "0-1-1T1:10:0", "Available", ""⟩,
        ⟨"nlc", "en", "", "3", "", "Training", ""⟩]
    let mktime : Tm → ℤ := fun t =>
      if t.mday < 1 then -1 else 3600 * t.hour + 60 * t.min + t.sec
    let o := onGetClassifiers mktime 0 "" (some cs)
    o.deletes = ["1"] ∧
    (onGetClassifiers mktime 0 "" (some (remaining o cs))).classifierId =
      o.classifierId := by
  intro cs mktime o
  have hids : (cs.map Classifier.classifierId).Nodup := by decide
  exact ⟨by decide, ((onGetClassifiers_selects hids 0 "").2.2 0 "").1⟩

end Checks

end SelfPlugins.Watson
