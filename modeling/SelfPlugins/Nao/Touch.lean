import Mathlib.Data.Rat.Defs
import SelfPlugins.Framework.Json

/-!
# The touch sensor of the Nao robot

The memory of the robot reports touches by `TouchChanged` events.  The content
of an argument of the event is a list of entries, each with the name of a
sensor and whether it is touched.  A translation gives a type to the touches
that pass one of its conditions.

`DoOnTouch` looks at the first entry of each argument only, and it is done
with the event as soon as it has sent something.  An argument without entries
throws, which ends the event too.  `reports_iff` says for which events what is
sent is the report the sensor is there for.
-/

namespace SelfPlugins.Nao

/-- An entry of an event. -/
structure Hit where
  eventName : String
  touched : Bool
deriving DecidableEq

structure TouchTranslation where
  m_TouchType : String
  m_Conditions : List (Json.Value → Bool)

structure TouchData where
  m_TouchType : String
  m_fTouched : ℚ
deriving DecidableEq

/-! ## Translated functions -/

/-- The value the conditions are tested on. -/
def Hit.touch (hit : Hit) : Json.Value :=
  .object (Json.assign "m_SensorName" (.string hit.eventName) [])

/-- The loop over the conditions, with the value `bTouched` has before. -/
def testConditions (touch : Json.Value) (bTouched : Bool) :
    List (Json.Value → Bool) → Bool
  | [] => bTouched
  | test :: conditions =>
      if test touch then true
      else testConditions touch false conditions

/-- The loop over the translations, up to the first that applies. -/
def translate (touch : Json.Value) :
    List TouchTranslation → Option TouchTranslation
  | [] => none
  | response :: translations =>
      if testConditions touch true response.m_Conditions then some response
      else translate touch translations

/-- The data that are sent; `none` where the first entry of an empty list is
asked for, which throws. -/
def doOnTouch (translations : List TouchTranslation) :
    List (List Hit) → Option (List TouchData)
  | [] => some []
  | [] :: _ => none
  | (hit :: _) :: args =>
      match translate hit.touch translations with
      | some response =>
          some [⟨response.m_TouchType, if hit.touched then 1 else 0⟩]
      | none => doOnTouch translations args

/-- `SendData`, when the main thread gets to it. -/
def sendData (m_Paused : ℤ) (data : TouchData) : List TouchData :=
  if m_Paused ≤ 0 then [data] else []

/-- What is sent for an event; an exception of `DoOnTouch` is caught. -/
def onTouch (isRestPosture : Bool) (m_Paused : ℤ)
    (translations : List TouchTranslation) (args : List (List Hit)) :
    List TouchData :=
  if isRestPosture then []
  else ((doOnTouch translations args).getD []).flatMap (sendData m_Paused)

/-! ## What the sensor is for -/

/-- A translation applies to a touch. -/
def TouchTranslation.Applies (touch : Json.Value) (t : TouchTranslation) :
    Prop :=
  t.m_Conditions = [] ∨ ∃ test ∈ t.m_Conditions, test touch = true

instance (touch : Json.Value) (t : TouchTranslation) :
    Decidable (t.Applies touch) :=
  inferInstanceAs (Decidable (_ ∨ _))

/-- The report of an entry: the type of the first translation that applies. -/
def report (translations : List TouchTranslation) (hit : Hit) :
    Option TouchData :=
  (translations.find? fun t => t.Applies hit.touch).map fun t =>
    ⟨t.m_TouchType, if hit.touched then 1 else 0⟩

/-- Some translation applies to the entry. -/
def Hit.Matches (translations : List TouchTranslation) (hit : Hit) : Prop :=
  ∃ t ∈ translations, t.Applies hit.touch

instance (translations : List TouchTranslation) (hit : Hit) :
    Decidable (hit.Matches translations) :=
  inferInstanceAs (Decidable (∃ t ∈ translations, t.Applies hit.touch))

/-- Every entry of the event that has a report is reported once, and nothing
else is sent. -/
def Reports (translations : List TouchTranslation) (args : List (List Hit))
    (sent : List TouchData) : Prop :=
  sent.Perm (args.flatten.filterMap (report translations))

/-- No entry matches. -/
def NoMatch (translations : List TouchTranslation) (args : List (List Hit)) :
    Prop :=
  ∀ hit ∈ args.flatten, ¬hit.Matches translations

/-- The events that are reported.  Either no entry matches, or one entry
matches, it is the first of its argument, and no argument before it is
empty. -/
def AtMostOneMatch (translations : List TouchTranslation)
    (args : List (List Hit)) : Prop :=
  NoMatch translations args ∨
    ∃ before hit rest after, args = before ++ (hit :: rest) :: after ∧
      [] ∉ before ∧ hit.Matches translations ∧
      ∀ other ∈ before.flatten ++ rest ++ after.flatten,
        ¬other.Matches translations

/-- In a rest posture or a pause only those with nothing to report are. -/
def Reportable (isRestPosture : Bool) (m_Paused : ℤ)
    (translations : List TouchTranslation) (args : List (List Hit)) : Prop :=
  if isRestPosture ∨ 0 < m_Paused then NoMatch translations args
  else AtMostOneMatch translations args

/-! ## The loops -/

variable {translations : List TouchTranslation}

theorem testConditions_false (touch : Json.Value)
    (conditions : List (Json.Value → Bool)) :
    testConditions touch false conditions = true ↔
      ∃ test ∈ conditions, test touch = true := by
  induction conditions with
  | nil => simp [testConditions]
  | cons test conditions ih =>
      by_cases h : test touch = true
      · simp [testConditions, h]
      · simp [testConditions, h, ih]

theorem testConditions_iff (touch : Json.Value) (t : TouchTranslation) :
    testConditions touch true t.m_Conditions = true ↔ t.Applies touch := by
  unfold TouchTranslation.Applies
  cases t.m_Conditions with
  | nil => simp [testConditions]
  | cons test conditions =>
      by_cases h : test touch = true
      · simp [testConditions, h]
      · simp [testConditions, h, testConditions_false]

theorem translate_eq_find? (touch : Json.Value) :
    translate touch translations =
      translations.find? fun t => t.Applies touch := by
  induction translations with
  | nil => rfl
  | cons t translations ih =>
      rw [translate, List.find?_cons, ih]
      by_cases h : t.Applies touch
      · rw [if_pos ((testConditions_iff touch t).mpr h)]
        simp [h]
      · rw [if_neg fun h' => h ((testConditions_iff touch t).mp h')]
        simp [h]

theorem report_eq_none (hit : Hit) :
    report translations hit = none ↔ ¬hit.Matches translations := by
  simp [report, Hit.Matches]

theorem filterMap_report_eq_nil (hits : List Hit) :
    hits.filterMap (report translations) = [] ↔
      ∀ hit ∈ hits, ¬hit.Matches translations := by
  simp only [List.filterMap_eq_nil_iff, report_eq_none]

/-- The arguments `DoOnTouch` passes over. -/
def PassedOver (translations : List TouchTranslation)
    (args : List (List Hit)) : Prop :=
  ∀ arg ∈ args, ∃ hit rest, arg = hit :: rest ∧ ¬hit.Matches translations

theorem PassedOver.nil_notMem {args : List (List Hit)}
    (h : PassedOver translations args) : [] ∉ args := by
  intro hmem
  obtain ⟨hit, rest, heq, -⟩ := h [] hmem
  cases heq

/-- `DoOnTouch` comes to the end of the arguments, to one whose first entry it
reports, or to an empty one. -/
theorem doOnTouch_cases (translations : List TouchTranslation)
    (args : List (List Hit)) :
    (PassedOver translations args ∧
        doOnTouch translations args = some []) ∨
      (∃ before hit rest after data, args = before ++ (hit :: rest) :: after ∧
        PassedOver translations before ∧
        report translations hit = some data ∧
        doOnTouch translations args = some [data]) ∨
      (∃ before after, args = before ++ [] :: after ∧
        PassedOver translations before ∧
        doOnTouch translations args = none) := by
  induction args with
  | nil => exact Or.inl ⟨by simp [PassedOver], rfl⟩
  | cons arg args ih =>
      match arg with
      | [] => exact Or.inr (Or.inr ⟨[], args, rfl, by simp [PassedOver], rfl⟩)
      | hit :: rest =>
          have hreport : report translations hit =
              (translate hit.touch translations).map fun t =>
                ⟨t.m_TouchType, if hit.touched then 1 else 0⟩ := by
            rw [translate_eq_find?]
            rfl
          cases htr : translate hit.touch translations with
          | some response =>
              rw [htr] at hreport
              refine Or.inr (Or.inl ⟨[], hit, rest, args, _, rfl,
                by simp [PassedOver], hreport, ?_⟩)
              simp [doOnTouch, htr]
          | none =>
              have hpass : ∀ before, PassedOver translations before →
                  PassedOver translations ((hit :: rest) :: before) := by
                intro before hbefore arg harg
                rcases List.mem_cons.mp harg with rfl | harg
                · rw [htr] at hreport
                  exact ⟨hit, rest, rfl, (report_eq_none hit).mp hreport⟩
                · exact hbefore arg harg
              have hdo : doOnTouch translations ((hit :: rest) :: args) =
                  doOnTouch translations args := by
                simp [doOnTouch, htr]
              rw [hdo]
              rcases ih with ⟨hp, h⟩ | ⟨before, e, r, after, d, rfl, hp, hd, h⟩ |
                ⟨before, after, rfl, hp, h⟩
              · exact Or.inl ⟨hpass args hp, h⟩
              · exact Or.inr (Or.inl ⟨(hit :: rest) :: before, e, r, after, d,
                  rfl, hpass before hp, hd, h⟩)
              · exact Or.inr (Or.inr ⟨(hit :: rest) :: before, after, rfl,
                  hpass before hp, h⟩)

/-! ## The report -/

/-- An argument with a matching first entry is not passed over. -/
theorem PassedOver.not_matches {args : List (List Hit)}
    (h : PassedOver translations args) {hit : Hit} (rest : List Hit)
    (hmem : hit :: rest ∈ args) : ¬hit.Matches translations := by
  obtain ⟨hit', rest', heq, hnot⟩ := h _ hmem
  obtain ⟨rfl, rfl⟩ := List.cons.inj heq
  exact hnot

theorem filterMap_flatten (before : List (List Hit)) (hit : Hit)
    (rest : List Hit) (after : List (List Hit)) {data : TouchData}
    (hdata : report translations hit = some data) :
    (before ++ (hit :: rest) :: after).flatten.filterMap
        (report translations) =
      before.flatten.filterMap (report translations) ++
        data :: (rest ++ after.flatten).filterMap (report translations) := by
  simp [hdata]

/-- There is no room for others in a list of one. -/
theorem singleton_perm_iff {α : Type*} (xs ys : List α) (a : α) :
    [a].Perm (xs ++ a :: ys) ↔ xs = [] ∧ ys = [] := by
  rw [List.singleton_perm]
  cases xs with
  | nil => simp
  | cons x xs => simp

theorem reports_nil_iff (args : List (List Hit)) :
    Reports translations args [] ↔ NoMatch translations args := by
  rw [Reports, List.nil_perm, filterMap_report_eq_nil, NoMatch]

theorem matches_of_report {hit : Hit} {data : TouchData}
    (hdata : report translations hit = some data) :
    hit.Matches translations := by
  by_contra hnot
  rw [(report_eq_none hit).mpr hnot] at hdata
  cases hdata

/-- The reports are the one of `hit`, if no other entry matches. -/
theorem reports_hit_iff (before : List (List Hit)) (hit : Hit)
    (rest : List Hit) (after : List (List Hit)) {data : TouchData}
    (hdata : report translations hit = some data) :
    Reports translations (before ++ (hit :: rest) :: after) [data] ↔
      ∀ other ∈ before.flatten ++ rest ++ after.flatten,
        ¬other.Matches translations := by
  rw [Reports, filterMap_flatten before hit rest after hdata, singleton_perm_iff,
    filterMap_report_eq_nil, filterMap_report_eq_nil, List.append_assoc,
    List.forall_mem_append, List.forall_mem_append, List.forall_mem_append]

/-- If all arguments are passed over, none may match. -/
theorem atMostOneMatch_of_passedOver {args : List (List Hit)}
    (hp : PassedOver translations args) :
    AtMostOneMatch translations args ↔ NoMatch translations args := by
  constructor
  · rintro (hnone | ⟨before, hit, rest, after, rfl, -, hmatch, -⟩)
    · exact hnone
    · exact absurd hmatch (hp.not_matches rest (by simp))
  · exact Or.inl

theorem atMostOneMatch_of_report {before : List (List Hit)} {hit : Hit}
    {rest : List Hit} {after : List (List Hit)} {data : TouchData}
    (hp : PassedOver translations before)
    (hdata : report translations hit = some data) :
    AtMostOneMatch translations (before ++ (hit :: rest) :: after) ↔
      ∀ other ∈ before.flatten ++ rest ++ after.flatten,
        ¬other.Matches translations := by
  constructor
  · rintro (hnone |
      ⟨before', hit', rest', after', heq, -, hmatch', hothers'⟩)
    · exact absurd (matches_of_report hdata) (hnone hit (by simp))
    · -- All reports together are the one of `hit'`, and that of `hit` is one.
      obtain ⟨data', hdata'⟩ := Option.ne_none_iff_exists'.mp
        fun h => (report_eq_none hit').mp h hmatch'
      have hperm := (reports_hit_iff _ _ _ _ hdata').mpr hothers'
      rw [← heq, Reports] at hperm
      have hmem : data ∈ [data'] := by
        rw [hperm.mem_iff, filterMap_flatten before hit rest after hdata]
        simp
      rw [List.mem_singleton.mp hmem] at hdata
      exact (reports_hit_iff before hit rest after hdata).mp hperm
  · exact fun hothers => Or.inr ⟨before, hit, rest, after, rfl,
      hp.nil_notMem, matches_of_report hdata, hothers⟩

/-- After an empty argument nothing is reported, so none may match. -/
theorem atMostOneMatch_of_nil {before after : List (List Hit)}
    (hp : PassedOver translations before) :
    AtMostOneMatch translations (before ++ [] :: after) ↔
      NoMatch translations (before ++ [] :: after) := by
  refine ⟨?_, Or.inl⟩
  rintro (hnone | ⟨before', hit, rest, after', heq, hne, hmatch, -⟩)
  · exact hnone
  · rcases List.append_eq_append_iff.mp heq with
      ⟨mid, rfl, hmid⟩ | ⟨mid, rfl, hmid⟩
    · cases mid with
      | nil => cases hmid
      | cons arg mid =>
          obtain rfl := (List.cons.inj hmid).1
          exact absurd (by simp) hne
    · cases mid with
      | nil => cases hmid
      | cons arg mid =>
          obtain rfl := (List.cons.inj hmid).1
          exact absurd hmatch (hp.not_matches rest (by simp))

theorem doOnTouch_reports_iff (translations : List TouchTranslation)
    (args : List (List Hit)) :
    Reports translations args ((doOnTouch translations args).getD []) ↔
      AtMostOneMatch translations args := by
  rcases doOnTouch_cases translations args with ⟨hp, h⟩ |
    ⟨before, hit, rest, after, data, rfl, hp, hdata, h⟩ |
    ⟨before, after, rfl, hp, h⟩
  · rw [h, atMostOneMatch_of_passedOver hp]
    exact reports_nil_iff args
  · rw [h, atMostOneMatch_of_report hp hdata]
    exact reports_hit_iff before hit rest after hdata
  · rw [h, atMostOneMatch_of_nil hp]
    exact reports_nil_iff _

theorem flatMap_sendData (m_Paused : ℤ) (data : List TouchData) :
    data.flatMap (sendData m_Paused) = if m_Paused ≤ 0 then data else [] := by
  by_cases h : m_Paused ≤ 0
  · have hsend : sendData m_Paused = fun data => [data] :=
      funext fun data => if_pos h
    rw [if_pos h, hsend]
    exact List.flatMap_singleton' data
  · have hsend : sendData m_Paused = fun _ => [] :=
      funext fun data => if_neg h
    rw [if_neg h, hsend]
    exact List.flatMap_eq_nil_iff.mpr fun _ _ => rfl

/-- An event is reported, each touched entry once, precisely if it has at most
one entry to report, this one is the first of its argument and no argument
before is empty; in a rest posture or a pause, if there is none to report. -/
theorem reports_iff (isRestPosture : Bool) (m_Paused : ℤ)
    (translations : List TouchTranslation) (args : List (List Hit)) :
    Reports translations args
        (onTouch isRestPosture m_Paused translations args) ↔
      Reportable isRestPosture m_Paused translations args := by
  unfold Reportable onTouch
  cases isRestPosture with
  | true => simpa using reports_nil_iff args
  | false =>
      rw [flatMap_sendData]
      by_cases hpaused : m_Paused ≤ 0
      · have hnot : ¬(false = true ∨ 0 < m_Paused) := by
          simpa using hpaused
        rw [if_pos hpaused, if_neg hnot]
        exact doOnTouch_reports_iff translations args
      · have hpause : false = true ∨ 0 < m_Paused :=
          Or.inr (Int.not_le.mp hpaused)
        rw [if_neg hpaused, if_pos hpause]
        exact reports_nil_iff args

/-- Two sensors touched in one event: the second one is not reported. -/
theorem not_reports_second_hit :
    ¬Reports [⟨"head", []⟩] [[⟨"Head/Touch/Front", true⟩,
        ⟨"Head/Touch/Rear", true⟩]]
      (onTouch false 0 [⟨"head", []⟩] [[⟨"Head/Touch/Front", true⟩,
        ⟨"Head/Touch/Rear", true⟩]]) := by
  intro hperm
  have hlen := hperm.length_eq
  exact absurd hlen (by decide)

end SelfPlugins.Nao
