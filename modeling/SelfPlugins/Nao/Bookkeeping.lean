import SelfPlugins.Library.Stretches
import SelfPlugins.Nao.Health
import Mathlib.Tactic.Linarith

/-!
# The failures the health sensor keeps account of

A key of the diagnosis is in a critical period while its latest code is 2.
`m_FailedSensors` is to hold the keys in such a period with the time it began,
and `m_RecoveredSensors` the periods that have ended, for as long as
`m_CriticalFailureLifespan`.  On a recovery the time is read from an entry that
has just been erased, and the walk that drops old periods moves on from entries
it has erased; `booked_of_faithful` says that the books are right throughout a
run in which both happen to go well.
-/

namespace SelfPlugins.Nao

open Runs Stretches

/-- An entry of the history of a key with the code for a critical failure. -/
def critical (x : ℤ × ℚ) : Prop := x.1 = 2

namespace Books

/-- The books are right: the failed sensors are those in a critical period,
with the time it began; those are the sensors whose latest code is 2; the
recovered sensors are the critical periods that have ended and did not begin
longer than the life span before the filter last ran. -/
structure Booked (u : StringUtil) (cfg : Config) (b : Books) : Prop where
  failed : ∀ key ∈ cfg.m_ErrorDiagnosis, ∀ t,
    b.m_FailedSensors.lookup (simplifyKey u key) = some t ↔
      ∃ x, Current critical (b.history key) x ∧ x.2 = t
  latest : ∀ key ∈ cfg.m_ErrorDiagnosis,
    simplifyKey u key ∈ b.m_FailedSensors ↔
      ∃ x ∈ (b.history key).getLast?, critical x
  only : ∀ name ∈ b.m_FailedSensors,
    ∃ key ∈ cfg.m_ErrorDiagnosis, simplifyKey u key = name
  recovered : ∀ k t, b.m_RecoveredSensors.lookup k = some t ↔
    ∃ key ∈ cfg.m_ErrorDiagnosis, ∃ x, Ended critical (b.history key) x ∧
      x.2 = t ∧ u.format (simplifyKey u key) t = k ∧
      b.filtered - t ≤ cfg.m_CriticalFailureLifespan
  failures : b.failuresInWindow =
    b.m_FailedSensors.entries.length + b.m_RecoveredSensors.entries.length

/-- The entries after the first that has expired. -/
def afterFirst (expired : Entry → Bool) (visit : List Entry) : List Entry :=
  (visit.dropWhile fun x => !expired x).tail

/-- The walk goes on after the entries it has erased: each answer is what
follows the erased entry, and where the answers end nothing that has expired
is left. -/
def Continues (expired : Entry → Bool) :
    List (List Entry) → List Entry → Prop
  | [], visit => ∀ x ∈ afterFirst expired visit, expired x = false
  | next :: answers, visit =>
      (∀ x ∈ visit, expired x = false) ∨
        next = afterFirst expired visit ∧ Continues expired answers next

/-- The invariant of the books within a round: what is among the recovered
sensors is a period that has ended, and a period that has ended is among them
unless it had expired when the filter last ran. -/
structure Kept (u : StringUtil) (cfg : Config) (b : Books) : Prop where
  failed : ∀ key ∈ cfg.m_ErrorDiagnosis, ∀ t,
    b.m_FailedSensors.lookup (simplifyKey u key) = some t ↔
      ∃ x, Current critical (b.history key) x ∧ x.2 = t
  only : ∀ name ∈ b.m_FailedSensors,
    ∃ key ∈ cfg.m_ErrorDiagnosis, simplifyKey u key = name
  ended : ∀ k t, b.m_RecoveredSensors.lookup k = some t →
    ∃ key ∈ cfg.m_ErrorDiagnosis, ∃ x, Ended critical (b.history key) x ∧
      x.2 = t ∧ u.format (simplifyKey u key) t = k
  present : ∀ key ∈ cfg.m_ErrorDiagnosis, ∀ x,
    Ended critical (b.history key) x →
      b.m_RecoveredSensors.lookup (u.format (simplifyKey u key) x.2) =
          some x.2 ∨
        b.filtered - x.2 > cfg.m_CriticalFailureLifespan

/-- Different keys of the diagnosis have different simplified names. -/
def Distinct (u : StringUtil) (cfg : Config) : Prop :=
  ∀ key ∈ cfg.m_ErrorDiagnosis, ∀ key' ∈ cfg.m_ErrorDiagnosis,
    simplifyKey u key = simplifyKey u key' → key = key'

variable {u : StringUtil} {cfg : Config} {b : Books} {key : String}

/-! ## The walk -/

theorem find_none {expired : Entry → Bool} {visit : List Entry}
    (h : visit.find? expired = none) : ∀ x ∈ visit, expired x = false :=
  fun x hx => Bool.eq_false_iff.mpr (List.find?_eq_none.mp h x hx)

/-- The expired entries are the first of them and those after it. -/
theorem expired_iff {expired : Entry → Bool} {visit : List Entry} {x : Entry}
    (h : visit.find? expired = some x) (p : Entry → Prop) :
    (∃ y ∈ visit, expired y = true ∧ p y) ↔
      p x ∨ ∃ y ∈ afterFirst expired visit, expired y = true ∧ p y := by
  induction visit with
  | nil => cases h
  | cons z visit ih =>
      by_cases hz : expired z = true
      · rw [List.find?_cons_of_pos hz] at h
        obtain rfl := Option.some.inj h
        simp [afterFirst, hz]
      · rw [List.find?_cons_of_neg hz] at h
        have hafter : afterFirst expired (z :: visit) =
            afterFirst expired visit := by
          simp [afterFirst, hz]
        rw [hafter, ← ih h]
        simp [hz]

theorem lookup_erase_ite (m : Times) (j k : String) :
    (m.erase j).lookup k = if j = k then none else m.lookup k := by
  by_cases hjk : j = k
  · subst hjk
    rw [if_pos rfl, AList.lookup_erase]
  · rw [if_neg hjk, AList.lookup_erase_ne (Ne.symm hjk)]

/-- The result of a walk that goes on as it should. -/
theorem lookup_filterWalk {expired : Entry → Bool}
    {answers : List (List Entry)} {visit : List Entry}
    (h : Continues expired answers visit) (m : Times) (k : String) :
    (filterWalk expired answers visit m).lookup k =
      if ∃ y ∈ visit, expired y = true ∧ y.1 = k then none
      else m.lookup k := by
  have hnone : ∀ {l : List Entry}, (∀ x ∈ l, expired x = false) →
      ¬∃ y ∈ l, expired y = true ∧ y.1 = k := by
    rintro l hl ⟨y, hy, hexpired, -⟩
    rw [hl y hy] at hexpired
    cases hexpired
  induction answers generalizing visit m with
  | nil =>
      unfold filterWalk
      cases hfind : visit.find? expired with
      | none => exact (if_neg (hnone (find_none hfind))).symm
      | some x =>
          have hiff := expired_iff hfind fun y => y.1 = k
          rw [or_iff_left (hnone h)] at hiff
          simp only [hiff]
          exact lookup_erase_ite m x.1 k
  | cons next answers ih =>
      unfold filterWalk
      cases hfind : visit.find? expired with
      | none => exact (if_neg (hnone (find_none hfind))).symm
      | some x =>
          have hiff := expired_iff hfind fun y => y.1 = k
          rcases h with hall | ⟨rfl, hnext⟩
          · exact absurd (hall x (List.mem_of_find?_eq_some hfind))
              (by rw [List.find?_some hfind]; exact Bool.true_eq_false_eq_False)
          · simp only [hiff, ih hnext, lookup_erase_ite]
            by_cases hx : x.1 = k
            · simp [hx]
            · simp only [hx, false_or, if_false]

/-- Filtering keeps the entries that have not expired. -/
theorem lookup_filterRecovered {now : ℚ} {answers : List (List Entry)}
    (h : Continues (expired cfg now) answers b.m_RecoveredSensors.entries)
    (k : String) (t : ℚ) :
    (b.filterRecovered cfg answers now).m_RecoveredSensors.lookup k = some t ↔
      b.m_RecoveredSensors.lookup k = some t ∧
        now - t ≤ cfg.m_CriticalFailureLifespan := by
  have hwalk := lookup_filterWalk h b.m_RecoveredSensors k
  change (filterWalk _ _ _ _).lookup k = some t ↔ _
  rw [hwalk]
  constructor
  · intro hsome
    split at hsome
    · cases hsome
    · rename_i hnot
      refine ⟨hsome, not_lt.mp fun hlt => hnot ⟨⟨k, t⟩, ?_, ?_, rfl⟩⟩
      · exact AList.mem_lookup_iff.mp hsome
      · exact decide_eq_true hlt
  · rintro ⟨hsome, hle⟩
    rw [if_neg]
    · exact hsome
    · rintro ⟨⟨k', t'⟩, hmem, hexpired, rfl⟩
      have hsome' := AList.mem_lookup_iff.mpr hmem
      obtain rfl : t' = t :=
        Option.some.inj (hsome'.symm.trans hsome)
      exact absurd (of_decide_eq_true hexpired) (not_lt.mpr hle)

/-! ## One code -/

/-- A sensor is failed iff its latest code is critical. -/
theorem Kept.latest (h : Kept u cfg b) (hkey : key ∈ cfg.m_ErrorDiagnosis) :
    simplifyKey u key ∈ b.m_FailedSensors ↔
      ∃ x ∈ (b.history key).getLast?, critical x := by
  rw [← AList.lookup_isSome, Option.isSome_iff_exists]
  constructor
  · rintro ⟨t, ht⟩
    obtain ⟨x, hx, -⟩ := (h.failed key hkey t).mp ht
    by_contra hnot
    push Not at hnot
    exact hx.not_fresh hnot
  · rintro ⟨y, hy, hcritical⟩
    obtain ⟨x, hx⟩ := exists_current hy hcritical
    exact ⟨x.2, (h.failed key hkey x.2).mpr ⟨x, hx, rfl⟩⟩

theorem history_read (k : String) (code : ℤ) (now : ℚ) :
    (b.read key code now).history k =
      if k = key then b.history k ++ [(code, now)] else b.history k := rfl

theorem ended_read_critical (now : ℚ) (k : String) (x : ℤ × ℚ) :
    Ended critical ((b.read key 2 now).history k) x ↔
      Ended critical (b.history k) x := by
  rw [history_read]
  split
  · rw [ended_append]
    exact or_iff_left fun h => h.1 rfl
  · rfl

/-- Another code ends the period of its key. -/
theorem ended_read_of_ne {code : ℤ} (hcode : code ≠ 2) (now : ℚ) (k : String)
    (x : ℤ × ℚ) :
    Ended critical ((b.read key code now).history k) x ↔
      Ended critical (b.history k) x ∨
        k = key ∧ Current critical (b.history key) x := by
  rw [history_read]
  by_cases hk : k = key
  · rw [if_pos hk, ended_append, hk]
    exact or_congr_right (and_congr_left fun _ => iff_of_true hcode rfl)
  · rw [if_neg hk]
    exact (or_iff_left fun h => hk h.1).symm

theorem fail_frame (sensor : String) (now : ℚ) :
    (b.fail sensor now).m_RecoveredSensors = b.m_RecoveredSensors ∧
      (b.fail sensor now).filtered = b.filtered ∧
      (b.fail sensor now).history = b.history := by
  unfold fail
  split
  · exact ⟨rfl, rfl, rfl⟩
  · exact ⟨rfl, rfl, rfl⟩

/-- The failed sensors after a critical code. -/
theorem lookup_fail (sensor : String) (now : ℚ) (name : String) :
    (b.fail sensor now).m_FailedSensors.lookup name =
      if name = sensor then
        some ((b.m_FailedSensors.lookup sensor).getD now)
      else b.m_FailedSensors.lookup name := by
  unfold fail
  cases hold : b.m_FailedSensors.lookup sensor with
  | some t =>
      by_cases hname : name = sensor
      · rw [if_pos hname, hname]
        exact hold
      · rw [if_neg hname]
  | none =>
      by_cases hname : name = sensor
      · rw [if_pos hname, hname]
        exact AList.lookup_insert _
      · rw [if_neg hname]
        exact AList.lookup_insert_ne hname

/-- With a critical code the period goes on from the time it began, if there is
one, or begins now. -/
theorem getD_eq_iff_current {l : List (ℤ × ℚ)} {began : Option ℚ}
    (h : ∀ t, began = some t ↔ ∃ x, Current critical l x ∧ x.2 = t)
    (now t : ℚ) :
    began.getD now = t ↔
      ∃ x, Current critical (l ++ [(2, now)]) x ∧ x.2 = t := by
  simp only [current_append (show critical (2, now) from rfl)]
  cases began with
  | some t' =>
      obtain ⟨y, hy, rfl⟩ := (h t').mp rfl
      constructor
      · rintro rfl
        exact ⟨y, Or.inl hy, rfl⟩
      · rintro ⟨x, hx | ⟨-, hfresh⟩, rfl⟩
        · rw [hy.unique hx]
          rfl
        · exact absurd hfresh hy.not_fresh
  | none =>
      have hno : ∀ x, ¬Current critical l x := fun x hx => by
        cases (h x.2).mpr ⟨x, hx, rfl⟩
      constructor
      · rintro rfl
        refine ⟨(2, now), Or.inr ⟨rfl, fun z hz hz' => ?_⟩, rfl⟩
        obtain ⟨x, hx⟩ := exists_current hz hz'
        exact hno x hx
      · rintro ⟨x, hx | ⟨rfl, -⟩, rfl⟩
        · exact absurd hx (hno x)
        · rfl

/-- A critical code starts a period, or continues one. -/
theorem Kept.fail (h : Kept u cfg b) (hd : Distinct u cfg)
    (hkey : key ∈ cfg.m_ErrorDiagnosis) (now : ℚ) :
    Kept u cfg ((b.fail (simplifyKey u key) now).read key 2 now) := by
  obtain ⟨hrecovered, hfiltered, hhistory⟩ :=
    fail_frame (b := b) (simplifyKey u key) now
  refine ⟨fun key' hkey' t => ?_, fun name hname => ?_, fun k t hk => ?_,
    fun key' hkey' x hx => ?_⟩
  · change ((b.fail (simplifyKey u key) now).m_FailedSensors.lookup _ = _) ↔ _
    rw [lookup_fail, history_read, hhistory]
    by_cases heq : key' = key
    · subst heq
      rw [if_pos rfl, if_pos rfl, Option.some.injEq]
      exact getD_eq_iff_current (h.failed key' hkey') now t
    · have hne : simplifyKey u key' ≠ simplifyKey u key := fun hsame =>
        heq (hd key' hkey' key hkey hsame)
      rw [if_neg hne, if_neg heq]
      exact h.failed key' hkey' t
  · rw [← AList.lookup_isSome] at hname
    change ((b.fail (simplifyKey u key) now).m_FailedSensors.lookup
      name).isSome = true at hname
    rw [lookup_fail] at hname
    split at hname
    · rename_i heq
      exact ⟨key, hkey, heq.symm⟩
    · exact h.only name (AList.lookup_isSome.mp hname)
  · have hk' : b.m_RecoveredSensors.lookup k = some t := by
      rw [← hrecovered]
      exact hk
    obtain ⟨key', hkey', x, hx, ht, hformat⟩ := h.ended k t hk'
    refine ⟨key', hkey', x, (ended_read_critical now key' x).mpr ?_, ht,
      hformat⟩
    rw [hhistory]
    exact hx
  · rw [ended_read_critical, hhistory] at hx
    have hpresent := h.present key' hkey' x hx
    rw [← hrecovered, ← hfiltered] at hpresent
    exact hpresent

theorem recover_frame (sensor : String) (stale : ℚ) :
    (b.recover u sensor stale).filtered = b.filtered ∧
      (b.recover u sensor stale).history = b.history := by
  unfold recover
  split
  · exact ⟨rfl, rfl⟩
  · exact ⟨rfl, rfl⟩

/-- The failed sensors after any other code. -/
theorem lookup_recover (sensor : String) (stale : ℚ) (name : String) :
    (b.recover u sensor stale).m_FailedSensors.lookup name =
      if sensor = name then none else b.m_FailedSensors.lookup name := by
  unfold recover
  cases hold : b.m_FailedSensors.lookup sensor with
  | some t => exact lookup_erase_ite _ sensor name
  | none =>
      by_cases hname : sensor = name
      · rw [if_pos hname, ← hname]
        exact hold
      · rw [if_neg hname]

/-- The recovered sensors after any other code, where the right time is
read. -/
theorem lookup_recovered {sensor : String} {stale : ℚ}
    (hstale : ∀ t, b.m_FailedSensors.lookup sensor = some t → stale = t)
    (k : String) :
    (b.recover u sensor stale).m_RecoveredSensors.lookup k =
      if ∃ t, b.m_FailedSensors.lookup sensor = some t ∧ u.format sensor t = k
      then b.m_FailedSensors.lookup sensor
      else b.m_RecoveredSensors.lookup k := by
  unfold recover
  cases hold : b.m_FailedSensors.lookup sensor with
  | none => exact (if_neg nofun).symm
  | some t =>
      obtain rfl := hstale t hold
      by_cases hk : u.format sensor stale = k
      · rw [if_pos ⟨stale, rfl, hk⟩, ← hk]
        exact AList.lookup_insert _
      · rw [if_neg (by rintro ⟨t, ⟨⟩, hk'⟩; exact hk hk')]
        exact AList.lookup_insert_ne (Ne.symm hk)

/-- Any other code ends the period of its key, if it is in one; the books are
kept if the right time is read from the erased entry, and no other period is
kept under the same key. -/
theorem Kept.recover (h : Kept u cfg b) (hd : Distinct u cfg)
    (hkey : key ∈ cfg.m_ErrorDiagnosis) {code : ℤ} (hcode : code ≠ 2)
    (now : ℚ) {stale : ℚ}
    (hstale : ∀ t, b.m_FailedSensors.lookup (simplifyKey u key) = some t →
      stale = t ∧ ∀ t', b.m_RecoveredSensors.lookup
        (u.format (simplifyKey u key) t) = some t' → t' = t) :
    Kept u cfg ((b.recover u (simplifyKey u key) stale).read key code now) := by
  obtain ⟨hfiltered, hhistory⟩ :=
    recover_frame (u := u) (b := b) (simplifyKey u key) stale
  have hrecovered := lookup_recovered (u := u) fun t ht => (hstale t ht).1
  have hended : ∀ key' x, Ended critical (((b.recover u (simplifyKey u key)
      stale).read key code now).history key') x ↔
        Ended critical (b.history key') x ∨
          key' = key ∧ Current critical (b.history key) x := by
    intro key' x
    rw [ended_read_of_ne hcode, hhistory]
  refine ⟨fun key' hkey' t => ?_, fun name hname => ?_, fun k t hk => ?_,
    fun key' hkey' x hx => ?_⟩
  · change ((b.recover u (simplifyKey u key) stale).m_FailedSensors.lookup _ =
      _) ↔ _
    rw [lookup_recover, history_read, hhistory]
    by_cases heq : key' = key
    · subst heq
      rw [if_pos rfl, if_pos rfl]
      refine iff_of_false nofun ?_
      rintro ⟨x, hx, -⟩
      exact not_current_append (p := critical) (y := (code, now)) hcode hx
    · have hne : simplifyKey u key ≠ simplifyKey u key' := fun hsame =>
        heq (hd key' hkey' key hkey hsame.symm)
      rw [if_neg hne, if_neg heq]
      exact h.failed key' hkey' t
  · rw [← AList.lookup_isSome] at hname
    change ((b.recover u (simplifyKey u key) stale).m_FailedSensors.lookup
      name).isSome = true at hname
    rw [lookup_recover] at hname
    split at hname
    · cases hname
    · exact h.only name (AList.lookup_isSome.mp hname)
  · change (b.recover u (simplifyKey u key) stale).m_RecoveredSensors.lookup
      k = some t at hk
    rw [hrecovered] at hk
    split at hk
    · rename_i hformat
      obtain ⟨t', ht', hformat⟩ := hformat
      obtain rfl : t' = t := Option.some.inj (ht'.symm.trans hk)
      obtain ⟨x, hx, hxt⟩ := (h.failed key hkey t').mp ht'
      exact ⟨key, hkey, x, (hended key x).mpr (Or.inr ⟨rfl, hx⟩), hxt,
        hformat⟩
    · obtain ⟨key', hkey', x, hx, ht, hformat⟩ := h.ended k t hk
      exact ⟨key', hkey', x, (hended key' x).mpr (Or.inl hx), ht, hformat⟩
  · change (b.recover u (simplifyKey u key) stale).m_RecoveredSensors.lookup _ =
      _ ∨ (b.recover u (simplifyKey u key) stale).filtered - x.2 > _
    rw [hrecovered, hfiltered]
    rcases (hended key' x).mp hx with hold | ⟨rfl, hcurrent⟩
    · rcases h.present key' hkey' x hold with hkept | hexpired
      · left
        split
        · rename_i hformat
          obtain ⟨t, ht, hformat⟩ := hformat
          rw [← hformat] at hkept
          rw [ht, (hstale t ht).2 x.2 hkept]
        · exact hkept
      · exact Or.inr hexpired
    · have ht := (h.failed key' hkey x.2).mpr ⟨x, hcurrent, rfl⟩
      left
      rw [if_pos ⟨x.2, ht, rfl⟩, ht]

/-- A filter that goes on as it should keeps the books, and leaves no period
that has expired. -/
theorem Kept.filter (h : Kept u cfg b) {now : ℚ} (hle : b.filtered ≤ now)
    {answers : List (List Entry)}
    (hc : Continues (expired cfg now) answers b.m_RecoveredSensors.entries) :
    Kept u cfg (b.filterRecovered cfg answers now) := by
  refine ⟨h.failed, h.only, fun k t hk => ?_, fun key' hkey' x hx => ?_⟩
  · exact h.ended k t ((lookup_filterRecovered hc k t).mp hk).1
  · rw [lookup_filterRecovered hc]
    by_cases hexpired : now - x.2 > cfg.m_CriticalFailureLifespan
    · exact Or.inr hexpired
    · rcases h.present key' hkey' x hx with hkept | hbefore
      · exact Or.inl ⟨hkept, not_lt.mp hexpired⟩
      · exact absurd (by linarith) hexpired

/-- The books at the end of a round. -/
theorem Kept.booked (h : Kept u cfg b)
    (hfresh : ∀ k t, b.m_RecoveredSensors.lookup k = some t →
      b.filtered - t ≤ cfg.m_CriticalFailureLifespan)
    (hfailures : b.failuresInWindow = b.m_FailedSensors.entries.length +
      b.m_RecoveredSensors.entries.length) : Booked u cfg b where
  failed := h.failed
  latest _ hkey := h.latest hkey
  only := h.only
  recovered k t := by
    constructor
    · intro hk
      obtain ⟨key, hkey, x, hx, ht, hformat⟩ := h.ended k t hk
      exact ⟨key, hkey, x, hx, ht, hformat, hfresh k t hk⟩
    · rintro ⟨key, hkey, x, hx, rfl, rfl, hle⟩
      rcases h.present key hkey x hx with hkept | hexpired
      · exact hkept
      · exact absurd hexpired (not_lt.mpr hle)
  failures := hfailures

end Books

/-! ## Runs -/

namespace Health

open Books

/-- The key the loop diagnoses next. -/
def nextDiagnosis (s : Health) : Option String :=
  match s.phase with
  | .checking [] (key :: _) => some key
  | _ => none

/-- What is read through erased entries is as if they were still there, where
it matters: on a recovery the time of the erased entry is read, the walk of
the filter goes on after the entries it has erased, and no recovered sensor is
replaced by another with the same key. -/
def Faithful (u : StringUtil) (cfg : Config) (s : Health)
    (e : Action × Clock) : Prop :=
  match e.1 with
  | .errorDiagnosis (.int code) stale =>
      ∀ key ∈ s.nextDiagnosis, code ≠ 2 →
        ∀ t ∈ s.m_FailedSensors.lookup (simplifyKey u key),
          stale = t ∧ ∀ t' ∈ s.m_RecoveredSensors.lookup
            (u.format (simplifyKey u key) t), t' = t
  | .endRound answers =>
      Continues (expired cfg e.2.now) answers s.m_RecoveredSensors.entries
  | _ => True

/-- The invariant of faithful runs. -/
structure Accounts (u : StringUtil) (cfg : Config) (s : Health) : Prop where
  kept : s.toBooks.Kept u cfg
  idle : s.phase = .idle →
    (∀ k t, s.m_RecoveredSensors.lookup k = some t →
      s.filtered - t ≤ cfg.m_CriticalFailureLifespan) ∧
    s.failuresInWindow = s.m_FailedSensors.entries.length +
      s.m_RecoveredSensors.entries.length
  todo : ∀ readings diagnoses, s.phase = .checking readings diagnoses →
    ∀ key ∈ diagnoses, key ∈ cfg.m_ErrorDiagnosis
  past : s.filtered ≤ s.clock

variable {u : StringUtil} {cfg : Config} {s s' : Health} {t : Clock}

@[simp] theorem buildHealthData_toBooks (name sensor state : String) (value : ℚ)
    (error raiseAlert : Bool) (time : ℚ) :
    (s.buildHealthData name sensor state value error raiseAlert time).toBooks =
      s.toBooks := rfl

theorem fallRecovery_toBooks :
    (s.fallRecovery cfg t).toBooks = s.toBooks := by
  unfold fallRecovery
  split
  · split
    · split
      · rfl
      · split <;> rfl
    · rfl
  · rfl

theorem checkBattery_toBooks (batteryCharge : ℚ) :
    (s.checkBattery cfg batteryCharge t).toBooks = s.toBooks := by
  unfold checkBattery
  split
  · split <;> rfl
  · rfl

theorem beginRound_toBooks (r : Report) :
    (s.beginRound cfg r t).toBooks = s.toBooks := by
  simp only [beginRound, buildHealthData_toBooks, checkBattery_toBooks]
  exact fallRecovery_toBooks

theorem numberReading_toBooks (joint : String) (x : ℚ) :
    (s.numberReading u cfg joint x t).toBooks = s.toBooks := by
  unfold numberReading
  split
  · split <;> rfl
  · rfl

theorem sensorReading_toBooks (key : String) (data : Data) :
    (s.sensorReading u cfg key data t).toBooks = s.toBooks := by
  cases data with
  | missing => rfl
  | int n => exact numberReading_toBooks _ _
  | float x => exact numberReading_toBooks _ _
  | other text => rfl

theorem errorDiagnosis_toBooks (key : String) (code : ℤ) (stale : ℚ) :
    (s.errorDiagnosis u cfg key (.int code) stale t).toBooks =
      if code = 2 then
        (s.toBooks.fail (simplifyKey u key) t.now).read key code t.now
      else (s.toBooks.recover u (simplifyKey u key) stale).read key code
        t.now := by
  change ((s.errorCode u cfg (simplifyKey u key) code stale t).toBooks.read key
    code t.now) = _
  unfold errorCode
  by_cases hcode : code = 2
  · rw [if_pos ((healthState_eq_critical code).mpr hcode), if_pos hcode]
    dsimp only
    split <;> rfl
  · rw [if_neg fun h => hcode ((healthState_eq_critical code).mp h),
      if_neg hcode]
    rfl

/-- A diagnosis keeps the books if what it reads through an erased entry is
faithful. -/
theorem errorDiagnosis_kept (h : s.toBooks.Kept u cfg) (hd : Distinct u cfg)
    {key : String} (hkey : key ∈ cfg.m_ErrorDiagnosis) {data : Data}
    {stale : ℚ}
    (hf : ∀ code, data = .int code → code ≠ 2 →
      ∀ t, s.m_FailedSensors.lookup (simplifyKey u key) = some t →
        stale = t ∧ ∀ t', s.m_RecoveredSensors.lookup
          (u.format (simplifyKey u key) t) = some t' → t' = t) :
    (s.errorDiagnosis u cfg key data stale t).toBooks.Kept u cfg ∧
      (s.errorDiagnosis u cfg key data stale t).filtered = s.filtered := by
  cases data with
  | missing => exact ⟨h, rfl⟩
  | int code =>
      rw [errorDiagnosis_toBooks]
      by_cases hcode : code = 2
      · subst hcode
        exact ⟨h.fail hd hkey t.now, (fail_frame _ _).2.1⟩
      · rw [if_neg hcode]
        exact ⟨h.recover hd hkey hcode t.now (hf code rfl hcode),
          (recover_frame _ _).1⟩
  | float x => exact ⟨h, rfl⟩
  | other text => exact ⟨h, rfl⟩

theorem checkRepair_toBooks (cfg : Config) (s : Health) (t : Clock) :
    (s.checkRepair cfg t).toBooks =
      { s.toBooks with
        failuresInWindow := s.m_FailedSensors.entries.length +
          s.m_RecoveredSensors.entries.length } := by
  unfold checkRepair
  dsimp only
  split
  · split <;> rfl
  · rfl

/-- The invariant, for sections that leave the books alone. -/
theorem Accounts.congr (h : Accounts u cfg s) (hbooks : s'.toBooks = s.toBooks)
    (hphase : s'.phase = s.phase) (hclock : s.clock ≤ s'.clock) :
    Accounts u cfg s' := by
  refine ⟨hbooks ▸ h.kept, fun hidle => ?_, fun readings diagnoses hc => ?_,
    ?_⟩
  · rw [hbooks]
    exact h.idle (hphase ▸ hidle)
  · exact h.todo readings diagnoses (hphase ▸ hc)
  · rw [hbooks]
    exact h.past.trans hclock

theorem Accounts.step {e : Action × Clock} (h : Accounts u cfg s)
    (hd : Distinct u cfg) (hf : s.Faithful u cfg e)
    (ht : s.step u cfg e = some s') : Accounts u cfg s' := by
  obtain ⟨hle, s'', hact, rfl⟩ := step_cases ht
  obtain ⟨a, t⟩ := e
  obtain ⟨hnc, hcb, hbm⟩ := t.ordered
  have hmark : s.clock ≤ t.mark := ((hle.trans hnc).trans hcb).trans hbm
  rcases act_cases hact with ⟨posture, rfl, rfl⟩ | ⟨volume, rfl, rfl⟩ |
    ⟨flag, rfl, rfl⟩ | ⟨r, rfl, -, rfl⟩ |
    ⟨data, key, readings, diagnoses, rfl, hphase, rfl⟩ |
    ⟨data, stale, key, diagnoses, rfl, hphase, rfl⟩ |
    ⟨answers, rfl, hphase, rfl⟩
  · exact h.congr rfl rfl hmark
  · exact h.congr rfl rfl hmark
  · exact h.congr rfl rfl hmark
  · have hbooks : (s.beginRound cfg r t).toBooks = s.toBooks :=
      beginRound_toBooks r
    refine ⟨hbooks ▸ h.kept, nofun, ?_, ?_⟩
    · rintro _ _ ⟨⟩ key hkey
      exact hkey
    · rw [hbooks]
      exact h.past.trans hmark
  · have hbooks : (s.sensorReading u cfg key data t).toBooks = s.toBooks :=
      sensorReading_toBooks key data
    refine ⟨hbooks ▸ h.kept, nofun, ?_, ?_⟩
    · rintro _ _ ⟨⟩ key' hkey'
      exact h.todo _ _ hphase key' hkey'
    · rw [hbooks]
      exact h.past.trans hmark
  · have htodo := h.todo _ _ hphase
    have hkey : key ∈ cfg.m_ErrorDiagnosis := htodo key List.mem_cons_self
    have hrest : ∀ key' ∈ diagnoses, key' ∈ cfg.m_ErrorDiagnosis :=
      fun key' hkey' => htodo key' (List.mem_cons_of_mem _ hkey')
    have hnext : s.nextDiagnosis = some key := by rw [nextDiagnosis, hphase]
    obtain ⟨hkept, hfiltered⟩ := errorDiagnosis_kept (t := t) h.kept hd hkey
      fun code hdata hcode =>
        (show s.Faithful u cfg (.errorDiagnosis (.int code) stale, t) from
          hdata ▸ hf) key hnext hcode
    refine ⟨hkept, nofun, ?_, ?_⟩
    · rintro _ _ ⟨⟩ key' hkey'
      exact hrest key' hkey'
    · exact hfiltered.le.trans (h.past.trans hmark)
  · have hkept := h.kept.filter (h.past.trans hle) hf
    have hbooks := checkRepair_toBooks cfg
      (s.filterRecoveredSensorsMap cfg answers t) t
    refine ⟨?_, fun _ => ?_, nofun, ?_⟩
    · rw [hbooks]
      exact ⟨hkept.failed, hkept.only, hkept.ended, hkept.present⟩
    · rw [hbooks]
      exact ⟨fun k u hk => ((lookup_filterRecovered hf k u).mp hk).2, rfl⟩
    · rw [hbooks]
      exact (hnc.trans hcb).trans hbm

theorem accounts_start (u : StringUtil) (cfg : Config) (t : Clock) :
    Accounts u cfg (start cfg t) where
  kept := by
    refine ⟨fun key _ t => ?_, nofun, nofun, fun key _ x hx => ?_⟩
    · exact iff_of_false nofun fun ⟨x, hx, _⟩ => not_current_nil hx
    · exact absurd hx not_ended_nil
  idle := fun _ => ⟨nofun, rfl⟩
  todo := nofun
  past := le_rfl

/-- In every run whose undefined reads are faithful, the books are right at
the end of every round. -/
theorem booked_of_faithful (u : StringUtil) (cfg : Config) (t : Clock)
    (hd : Distinct u cfg) (es : List (Action × Clock))
    (hf : EachStep (step u cfg) (Faithful u cfg) (start cfg t) es) :
    Throughout (step u cfg)
      (fun s => s.phase = .idle → s.toBooks.Booked u cfg) (start cfg t) es :=
  (throughout_of_eachStep (fun _ _ _ h hC ht => h.step hd hC ht)
    (accounts_start u cfg t) hf).mono fun _ h hidle =>
      h.kept.booked (h.idle hidle).1 (h.idle hidle).2

/-! ### Examples -/

instance Continues.decidable (expired : Entry → Bool) :
    ∀ answers visit, Decidable (Continues expired answers visit)
  | [], visit => decidable_of_iff
      (∀ x ∈ afterFirst expired visit, expired x = false) Iff.rfl
  | next :: answers, visit =>
      have := Continues.decidable expired answers next
      decidable_of_iff ((∀ x ∈ visit, expired x = false) ∨
        next = afterFirst expired visit ∧ Continues expired answers next)
        Iff.rfl

instance Faithful.decidable (u : StringUtil) (cfg : Config) (s : Health) :
    ∀ e, Decidable (Faithful u cfg s e)
  | (.errorDiagnosis (.int code) stale, _) => decidable_of_iff
      (∀ key ∈ s.nextDiagnosis, code ≠ 2 →
        ∀ t ∈ s.m_FailedSensors.lookup (simplifyKey u key),
          stale = t ∧ ∀ t' ∈ s.m_RecoveredSensors.lookup
            (u.format (simplifyKey u key) t), t' = t) Iff.rfl
  | (.endRound answers, t) => Continues.decidable (expired cfg t.now) answers _
  | (.errorDiagnosis .missing _, _) => isTrue trivial
  | (.errorDiagnosis (.float _) _, _) => isTrue trivial
  | (.errorDiagnosis (.other _) _, _) => isTrue trivial
  | (.onPostureChanged _, _) => isTrue trivial
  | (.onVolumeChanged _, _) => isTrue trivial
  | (.onBatteryPowerChanged _, _) => isTrue trivial
  | (.beginRound _, _) => isTrue trivial
  | (.sensorReading _, _) => isTrue trivial

/-- The settings of the examples: one key to diagnose, no readings. -/
def oneKey : Config where
  m_fLowBatteryThreshold := 20
  m_HealthSensorCheckInterval := 60
  m_SensorReadings := []

/-- A round at a time, with the code read, the value read through the erased
entry and the walk of the filter. -/
def round (now : ℚ) (code : ℤ) (stale : ℚ) (answers : List (List Entry)) :
    List (Action × Clock) :=
  [(.beginRound ⟨"", "", 100, 50, false⟩, .instant now),
    (.errorDiagnosis (.int code) stale, .instant now),
    (.endRound answers, .instant now)]

theorem distinct_oneKey (u : StringUtil) : Distinct u oneKey := by
  intro key hkey key' hkey' _
  rw [List.mem_singleton.mp hkey, List.mem_singleton.mp hkey']

/-- A failure, its recovery, another failure, and the expiry of the first. -/
theorem booked_failure_recovery_expiry :
    Throughout (step .plain oneKey)
      (fun s => s.phase = .idle → s.toBooks.Booked .plain oneKey)
      (start oneKey (.instant 1000))
      (round 2000 2 0 [] ++ round 3000 0 2000 [] ++ round 4000 2 0 [] ++
        round 20000 2 0 []) :=
  booked_of_faithful .plain oneKey (.instant 1000)
    (distinct_oneKey .plain) _ (by decide +kernel)

/-- A recovery after which another time is read than was stored. -/
theorem not_always_booked :
    ¬∀ (u : StringUtil) (cfg : Config) (t : Clock), Distinct u cfg →
      ∀ es, Throughout (step u cfg)
        (fun s => s.phase = .idle → s.toBooks.Booked u cfg) (start cfg t)
        es := by
  intro h
  have hrun : (run (step .plain oneKey) (start oneKey (.instant 1000))
      (round 2000 2 0 [] ++ round 3000 0 0 [])).map
      (fun s => (s.phase, s.history "Diagnosis/Active/HeadYaw/Error",
        s.m_RecoveredSensors.lookup (StringUtil.plain.format
          (simplifyKey .plain "Diagnosis/Active/HeadYaw/Error") 2000),
        s.filtered)) =
      some (.idle, [(2, 2000), (0, 3000)], none, 3000) := by decide +kernel
  obtain ⟨s, hs, hobs⟩ :=
    (h .plain oneKey (.instant 1000) (distinct_oneKey .plain) _).last hrun
  simp only [Prod.mk.injEq] at hobs
  obtain ⟨hidle, hhistory, hlookup, hfiltered⟩ := hobs
  have hended : Ended critical
      (s.history "Diagnosis/Active/HeadYaw/Error") (2, 2000) := by
    rw [hhistory]
    exact ⟨[(2, 2000)], (0, 3000), [], rfl,
      ⟨[], [], rfl, rfl, nofun, nofun⟩, (by decide : ¬(0 : ℤ) = 2)⟩
  have hsome := ((hs hidle).recovered _ 2000).mpr
    ⟨_, List.mem_singleton.mpr rfl, _, hended, rfl, rfl, by
      rw [hfiltered]; decide +kernel⟩
  rw [hlookup] at hsome
  cases hsome

end Health

end SelfPlugins.Nao
