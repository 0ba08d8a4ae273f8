import Mathlib.Data.BitVec
import Mathlib.Data.List.Nodup
import SelfPlugins.Library.Loops
import SelfPlugins.Library.Runs
import SelfPlugins.Library.SwapRemove

/-!
# Finding classifiers

`NaturalLanguageClassifier::FindClassifiers` asks the service for the list of
its classifiers, removes those whose name does not match, and asks for the
record of each that is left.  The removal overwrites an element by the last
one and decrements the index of the loop, which is a `size_t` and wraps below
zero when the first element is removed.

`find_throughout` describes a whole request: what is left of the list, which
records are asked for, and what the callback gets, for every order of the
responses.
-/

namespace SelfPlugins.Watson

open Runs

structure Classifier where
  name : String
  language : String
  url : String
  classifierId : String
  created : String
  status : String
  statusDescription : String
deriving DecidableEq

/-! ## The loop of `OnClassifiers` -/

/-- `size()` of a vector, for a `size_t` of `w` bits. -/
def sizeT (w : ℕ) {α : Type} (l : List α) : BitVec w :=
  BitVec.ofNat w l.length

/-- A number is the value of a `size_t`. -/
def Fits (w n : ℕ) : Prop := (BitVec.ofNat w n).toNat = n

/-- What the loop changes: the list, its index, the count of requests, and the
identifiers whose records are asked for.  The count is an `int` of the source,
here an integer without bounds. -/
structure Filtering (w : ℕ) where
  list : List Classifier
  i : BitVec w
  nPendingRequests : ℤ
  asked : List String

/-- One round of the loop; `keep` is the test on a classifier. -/
def filterRound {w : ℕ} (keep : Classifier → Bool) (s : Filtering w) :
    Option (Filtering w) :=
  if s.i < sizeT w s.list then
    (s.list[s.i.toNat]?).map fun c =>
      if keep c then
        { s with
          nPendingRequests := s.nPendingRequests + 1
          asked := s.asked ++ [c.classifierId]
          i := s.i + 1 }
      else
        let last := sizeT w s.list - 1
        let list :=
          if s.i < last then s.list.set s.i.toNat (s.list.getD last.toNat c)
          else s.list
        { s with list := list.dropLast, i := s.i - 1 + 1 }
  else none

/-! ## What the loop leaves -/

theorem fits_iff {w n : ℕ} : Fits w n ↔ n % (2 ^ w) = n := by
  rw [Fits, BitVec.toNat_ofNat]

theorem Fits.mono {w m n : ℕ} (h : Fits w n) (hle : m ≤ n) : Fits w m := by
  rw [fits_iff] at h ⊢
  have hlt : n < 2 ^ w := by
    rw [← h]
    exact Nat.mod_lt _ (Nat.two_pow_pos w)
  exact Nat.mod_eq_of_lt (Nat.lt_of_le_of_lt hle hlt)

/-- The loop invariant: the elements before the index are kept and have been
asked for, and no element that has to be kept is lost. -/
def Filters {w : ℕ} (keep : Classifier → Bool) (l : List Classifier)
    (n : ℤ) (s : Filtering w) : Prop :=
  ∃ pre suf, s = ⟨pre ++ suf, sizeT w pre, n + pre.length,
      pre.map Classifier.classifierId⟩ ∧
    Fits w (pre ++ suf).length ∧ (∀ c ∈ pre, keep c = true) ∧
    ((pre ++ suf).filter keep).Perm (l.filter keep)

theorem filterRound_nil {w : ℕ} (keep : Classifier → Bool)
    (l : List Classifier) (n : ℤ) (asked : List String) :
    filterRound keep ⟨l, sizeT w l, n, asked⟩ = none := by
  simp [filterRound]

/-- A round on an element that is kept. -/
theorem filterRound_keep {w : ℕ} {keep : Classifier → Bool}
    {pre suf : List Classifier} {c : Classifier}
    (hfits : Fits w (pre ++ c :: suf).length) (hc : keep c = true) (n : ℤ)
    (asked : List String) :
    filterRound keep ⟨pre ++ c :: suf, sizeT w pre, n, asked⟩ =
      some ⟨pre ++ c :: suf, sizeT w (pre ++ [c]), n + 1,
        asked ++ [c.classifierId]⟩ := by
  have hi : (sizeT w pre).toNat = pre.length := hfits.mono (by simp)
  have hlt : sizeT w pre < sizeT w (pre ++ c :: suf) := by
    rw [BitVec.lt_def, hi, sizeT, hfits]
    simp
  have hnext : sizeT w pre + 1 = sizeT w (pre ++ [c]) := by
    simp [sizeT, BitVec.ofNat_add]
  have hget : (pre ++ c :: suf)[pre.length]? = some c := by simp
  simp only [filterRound, if_pos hlt, hi, hget, Option.map_some, hc, if_true,
    hnext]

/-- A round on an element that is removed: the index is the same afterwards,
also where it has wrapped. -/
theorem filterRound_remove {w : ℕ} {keep : Classifier → Bool}
    {pre suf : List Classifier} {c : Classifier}
    (hfits : Fits w (pre ++ c :: suf).length) (hc : keep c = false) (n : ℤ)
    (asked : List String) :
    filterRound keep ⟨pre ++ c :: suf, sizeT w pre, n, asked⟩ =
      some ⟨swapRemove (pre ++ c :: suf) pre.length, sizeT w pre, n,
        asked⟩ := by
  have hi : (sizeT w pre).toNat = pre.length := hfits.mono (by simp)
  have hlt : sizeT w pre < sizeT w (pre ++ c :: suf) := by
    rw [BitVec.lt_def, hi, sizeT, hfits]
    simp
  have hlast : sizeT w (pre ++ c :: suf) - 1 = sizeT w (pre ++ suf) := by
    have hlen : (pre ++ c :: suf).length = (pre ++ suf).length + 1 := by
      simp [Nat.add_assoc]
    rw [sizeT, hlen, BitVec.ofNat_add]
    exact BitVec.add_sub_cancel _ _
  have hlastNat : (sizeT w (pre ++ suf)).toNat = (pre ++ suf).length :=
    hfits.mono (by simp)
  have hwrap : sizeT w pre - 1 + 1 = sizeT w pre := BitVec.sub_add_cancel _ _
  have hget : (pre ++ c :: suf)[pre.length]? = some c := by simp
  have hlen : (pre ++ c :: suf).length - 1 = (pre ++ suf).length := by
    simp
  have hend : (pre ++ c :: suf).getLast? =
      some ((pre ++ c :: suf).getD (pre ++ suf).length c) := by
    rw [List.getLast?_eq_getElem?, hlen]
    simp
  simp only [filterRound, if_pos hlt, hi, hget, Option.map_some, hc]
  simp only [hlast, BitVec.lt_def, hi, hlastNat, hwrap, swapRemove, hend, hlen,
    Bool.false_eq_true, if_false]

/-- Every round keeps the loop invariant and comes closer to the end of the
list. -/
theorem Filters.round {w : ℕ} {keep : Classifier → Bool}
    {l : List Classifier} {n : ℤ} {s t : Filtering w}
    (hs : Filters keep l n s) (ht : filterRound keep s = some t) :
    Filters keep l n t ∧
      t.list.length - t.i.toNat < s.list.length - s.i.toNat := by
  obtain ⟨pre, suf, rfl, hfits, hkeep, hperm⟩ := hs
  have hi : (sizeT w pre).toNat = pre.length := hfits.mono (by simp)
  cases suf with
  | nil =>
      rw [List.append_nil, filterRound_nil] at ht
      cases ht
  | cons c suf =>
      by_cases hc : keep c = true
      · rw [filterRound_keep hfits hc] at ht
        cases ht
        have hi' : (sizeT w (pre ++ [c])).toNat = pre.length + 1 := by
          have hle : (pre ++ [c]).length ≤ (pre ++ c :: suf).length := by simp
          rw [sizeT, hfits.mono hle]
          simp
        refine ⟨⟨pre ++ [c], suf, ?_, ?_, ?_, ?_⟩, ?_⟩
        · simp [add_assoc]
        · simpa using hfits
        · intro d hd
          rcases List.mem_append.mp hd with hd | hd
          · exact hkeep d hd
          · rw [List.mem_singleton.mp hd]
            exact hc
        · simpa using hperm
        · simp only [hi, hi', List.length_append, List.length_cons]
          omega
      · rw [Bool.not_eq_true] at hc
        rw [filterRound_remove hfits hc] at ht
        cases ht
        obtain ⟨suf', hswap, hsuf⟩ := swapRemove_append pre suf c
        have hlen : suf'.length = suf.length := hsuf.length_eq
        refine ⟨⟨pre, suf', by rw [hswap], ?_, hkeep, ?_⟩, ?_⟩
        · exact hfits.mono (by simp [hlen])
        · refine List.Perm.trans ?_ hperm
          simpa [hc] using (hsuf.filter keep).append_left (pre.filter keep)
        · simp only [hswap, hi, List.length_append, List.length_cons, hlen]
          omega

/-- The loop ends, leaves the elements that are kept, and asks for the record
of each. -/
theorem loop_filterRound {w : ℕ} (keep : Classifier → Bool)
    {l : List Classifier} (hfits : Fits w l.length) (n : ℤ) {fuel : ℕ}
    (hfuel : l.length < fuel) :
    ∃ kept i, loop (filterRound keep) fuel ⟨l, BitVec.ofNat w 0, n, []⟩ =
        some ⟨kept, i, n + kept.length, kept.map Classifier.classifierId⟩ ∧
      kept.Perm (l.filter keep) := by
  have hstart : Filters keep l n ⟨l, BitVec.ofNat w 0, n, []⟩ :=
    ⟨[], l, by simp [sizeT], hfits, by simp, List.Perm.refl _⟩
  obtain ⟨t, ht, ⟨pre, suf, rfl, hfits', hkeep, hperm⟩, hend⟩ :=
    loop_spec (fun s => s.list.length - s.i.toNat)
      (fun s t hs ht => hs.round ht) hstart
      (Nat.lt_of_le_of_lt (Nat.sub_le _ _) hfuel)
  cases suf with
  | nil =>
      rw [List.append_nil] at ht hperm
      refine ⟨pre, _, ht, ?_⟩
      rwa [List.filter_eq_self.mpr hkeep] at hperm
  | cons c suf =>
      by_cases hc : keep c = true
      · rw [filterRound_keep hfits' hc] at hend
        cases hend
      · rw [filterRound_remove hfits' (Bool.not_eq_true _ ▸ hc)] at hend
        cases hend

/-! ## The request -/

/-- A `FindRequest`.  `listAsked` and `asked` are the requests that have not
been answered, `answers` the answers to `GetClassifier`, and `results` the
calls of the callback. -/
structure FindRequest where
  find : String
  callback : Bool
  nPendingRequests : ℤ
  classifiers : Option (List Classifier)
  listAsked : Bool
  asked : List String
  answers : List (String × Option Classifier)
  results : List (Option (List Classifier))
  deleted : Bool

namespace FindRequest

/-- The requests that have not been answered. -/
def outstanding (s : FindRequest) : ℕ :=
  (if s.listAsked then 1 else 0) + s.asked.length

/-- The constructor. -/
def new (find : String) (callback : Bool) : FindRequest where
  find := find
  callback := callback
  nPendingRequests := 1
  classifiers := none
  listAsked := true
  asked := []
  answers := []
  results := []
  deleted := false

/-- The end of both callbacks. -/
def finish (s : FindRequest) : FindRequest :=
  if s.nPendingRequests = 0 then
    { s with
      results := s.results ++ if s.callback then [s.classifiers] else []
      deleted := true }
  else s

/-- The test on a classifier; `wildMatch` is `StringUtil::WildMatch`. -/
def keeps (wildMatch : String → String → Bool) (find : String)
    (c : Classifier) : Bool :=
  !(find.length > 0 && !wildMatch find c.name)

/-- `OnClassifiers`, with at most `fuel` rounds of its loop. -/
def onClassifiers (w : ℕ) (wildMatch : String → String → Bool) (fuel : ℕ)
    (r : Option (List Classifier)) (s : FindRequest) : Option FindRequest :=
  let s := { s with
    listAsked := false
    nPendingRequests := s.nPendingRequests - 1
    classifiers := r }
  match r with
  | none => some (finish s)
  | some list =>
      (loop (filterRound (keeps wildMatch s.find)) fuel
        ⟨list, BitVec.ofNat w 0, s.nPendingRequests, s.asked⟩).map fun l =>
          finish { s with
            classifiers := some l.list
            nPendingRequests := l.nPendingRequests
            asked := l.asked }

/-- The loop of `OnClassifier`. -/
def replace (r : Classifier) (list : List Classifier) : List Classifier :=
  list.map fun c => if c.classifierId = r.classifierId then r else c

/-- `OnClassifier`. -/
def onClassifier (r : Option Classifier) (s : FindRequest) : FindRequest :=
  let s := { s with nPendingRequests := s.nPendingRequests - 1 }
  match r with
  | none => finish s
  | some r =>
      finish { s with classifiers := s.classifiers.map (replace r) }

/-- The service answers `GetClassifiers`, or the `n`-th of the open requests
for a classifier; the answer is null if the request has failed. -/
inductive Event where
  | classifiers (r : Option (List Classifier))
  | classifier (n : ℕ) (r : Option Classifier)

def step (w : ℕ) (wildMatch : String → String → Bool) (fuel : ℕ)
    (s : FindRequest) : Event → Option FindRequest
  | .classifiers r =>
      if s.listAsked then onClassifiers w wildMatch fuel r s else none
  | .classifier n r =>
      (s.asked[n]?).map fun classifierId =>
        onClassifier r { s with
          asked := s.asked.eraseIdx n
          answers := s.answers ++ [(classifierId, r)] }

/-! ## Responses -/

/-- The record an entry is replaced by, if it has been fetched. -/
def fetched (answers : List (String × Option Classifier)) (c : Classifier) :
    Classifier :=
  ((answers.find? fun a => a.1 = c.classifierId).bind Prod.snd).getD c

/-- A response to `GetClassifier` is a record with the identifier that was
asked for, or null. -/
def Faithful (s : FindRequest) : Event → Prop
  | .classifiers _ => True
  | .classifier n r =>
      ∀ c, r = some c → s.asked[n]? = some c.classifierId

/-- The request after the list has come, when `kept` is left of it.  Each of
the records asked for has been answered or is awaited, `m_nPendingRequests`
counts the latter, and the callback has been called, with the final list, iff
there are none.  `callback` tells whether it is valid. -/
structure Fetching (callback : Bool) (kept : List Classifier)
    (s : FindRequest) : Prop where
  valid : s.callback = callback
  once : (s.answers.map Prod.fst ++ s.asked).Perm
    (kept.map Classifier.classifierId)
  list : s.classifiers = some (kept.map (fetched s.answers))
  listAsked : s.listAsked = false
  pending : s.nPendingRequests = s.outstanding
  results : s.results =
    if s.asked = [] ∧ callback then [s.classifiers] else []
  deleted : s.deleted = true ↔ s.asked = []

/-- What the end of a callback leaves as it is. -/
theorem finish_frame (s : FindRequest) :
    (finish s).classifiers = s.classifiers ∧ (finish s).asked = s.asked ∧
      (finish s).answers = s.answers := by
  rw [finish]
  split
  · exact ⟨rfl, rfl, rfl⟩
  · exact ⟨rfl, rfl, rfl⟩

theorem outstanding_eq {s : FindRequest} (h : s.listAsked = false) :
    s.outstanding = s.asked.length := by
  simp [outstanding, h]

theorem Fetching.finish {callback : Bool} {kept : List Classifier}
    {s : FindRequest} (valid : s.callback = callback)
    (once : (s.answers.map Prod.fst ++ s.asked).Perm
      (kept.map Classifier.classifierId))
    (list : s.classifiers = some (kept.map (fetched s.answers)))
    (listAsked : s.listAsked = false)
    (pending : s.nPendingRequests = s.asked.length) (results : s.results = [])
    (deleted : s.deleted = false) :
    Fetching callback kept (FindRequest.finish s) := by
  have hpending : s.nPendingRequests = s.outstanding := by
    rw [outstanding_eq listAsked, pending]
  by_cases hasked : s.asked = []
  · have hzero : s.nPendingRequests = 0 := by simp [pending, hasked]
    rw [FindRequest.finish, if_pos hzero]
    refine ⟨valid, once, list, listAsked, hpending, ?_, ?_⟩
    · cases callback <;> simp [hasked, results, valid]
    · simp [hasked]
  · have hpos : s.nPendingRequests ≠ 0 := by
      rw [pending]
      simpa using hasked
    rw [FindRequest.finish, if_neg hpos]
    exact ⟨valid, once, list, listAsked, hpending, by simp [hasked, results],
      by simp [hasked, deleted]⟩

theorem find?_eq_none_of_notMem {answers : List (String × Option Classifier)}
    {classifierId : String} (h : classifierId ∉ answers.map Prod.fst) :
    (answers.find? fun a => a.1 = classifierId) = none := by
  rw [List.find?_eq_none]
  intro a ha hmatch
  apply h
  rw [← of_decide_eq_true hmatch]
  exact List.mem_map_of_mem ha

theorem fetched_of_notMem {answers : List (String × Option Classifier)}
    {c : Classifier} (hc : c.classifierId ∉ answers.map Prod.fst) :
    fetched answers c = c := by
  rw [fetched, find?_eq_none_of_notMem hc]
  rfl

/-- After an answer for an identifier that has not been answered, only the
entries with this identifier are replaced. -/
theorem fetched_append {answers : List (String × Option Classifier)}
    {classifierId : String}
    (hnew : classifierId ∉ answers.map Prod.fst) (r : Option Classifier)
    (c : Classifier) :
    fetched (answers ++ [(classifierId, r)]) c =
      if c.classifierId = classifierId then r.getD c
      else fetched answers c := by
  by_cases hc : c.classifierId = classifierId
  · rw [fetched, List.find?_append, hc, find?_eq_none_of_notMem hnew]
    simp
  · have hc' : ¬classifierId = c.classifierId := fun h => hc h.symm
    simp [fetched, hc, hc']

/-- The identifier of an entry stays the same when its record is fetched. -/
def IdsKept (s : FindRequest) : Prop :=
  ∀ a ∈ s.answers, ∀ c, a.2 = some c → c.classifierId = a.1

theorem IdsKept.classifierId_fetched {s : FindRequest} (h : IdsKept s)
    (c : Classifier) :
    (fetched s.answers c).classifierId = c.classifierId := by
  rw [fetched]
  cases hfind : s.answers.find? fun a => a.1 = c.classifierId with
  | none => rfl
  | some a =>
      have hmatch : a.1 = c.classifierId := by
        simpa using List.find?_some hfind
      have hmem := List.mem_of_find?_eq_some hfind
      rw [Option.bind_some]
      cases hr : a.2 with
      | none => rfl
      | some r => rw [Option.getD_some, h a hmem r hr, hmatch]

/-- A request that fails leaves the list as it is. -/
theorem map_fetched_failed {answers : List (String × Option Classifier)}
    {classifierId : String} (hnew : classifierId ∉ answers.map Prod.fst)
    (kept : List Classifier) :
    kept.map (fetched (answers ++ [(classifierId, none)])) =
      kept.map (fetched answers) := by
  apply List.map_congr_left
  intro c _
  rw [fetched_append hnew]
  split
  · rename_i hc
    rw [fetched_of_notMem (hc ▸ hnew)]
    rfl
  · rfl

/-- The loop of `OnClassifier` puts in the record that has come. -/
theorem IdsKept.map_fetched_replaced {s : FindRequest} (h : IdsKept s)
    {classifierId : String} (hnew : classifierId ∉ s.answers.map Prod.fst)
    {r : Classifier} (hr : r.classifierId = classifierId)
    (kept : List Classifier) :
    replace r (kept.map (fetched s.answers)) =
      kept.map (fetched (s.answers ++ [(classifierId, some r)])) := by
  rw [replace, List.map_map]
  apply List.map_congr_left
  intro c _
  rw [Function.comp_apply, h.classifierId_fetched, hr, fetched_append hnew]
  rfl

/-- A response keeps the request as it should be. -/
theorem Fetching.response {callback : Bool} {kept : List Classifier}
    {s t : FindRequest} (hids : (kept.map Classifier.classifierId).Nodup)
    (hs : Fetching callback kept s) (hkept : IdsKept s) {n : ℕ}
    {r : Option Classifier} {w fuel : ℕ} {wildMatch : String → String → Bool}
    (ht : step w wildMatch fuel s (.classifier n r) = some t)
    (hr : Faithful s (.classifier n r)) :
    Fetching callback kept t ∧ IdsKept t := by
  obtain ⟨classifierId, hn, rfl⟩ := Option.map_eq_some_iff.mp ht
  obtain ⟨hlt, hget⟩ := List.getElem?_eq_some_iff.mp hn
  have hasked : s.asked ≠ [] := List.ne_nil_of_length_pos (by omega)
  have hperm : (classifierId :: s.asked.eraseIdx n).Perm s.asked := by
    rw [← hget]
    exact List.getElem_cons_eraseIdx_perm hlt
  have honce : ((s.answers ++ [(classifierId, r)]).map Prod.fst ++
      s.asked.eraseIdx n).Perm (kept.map Classifier.classifierId) := by
    refine List.Perm.trans ?_ hs.once
    rw [List.map_append, List.append_assoc]
    exact List.Perm.append_left _ hperm
  have hnew : classifierId ∉ s.answers.map Prod.fst := by
    have hnodup := honce.nodup_iff.mpr hids
    rw [List.map_append, List.append_assoc] at hnodup
    intro hmem
    exact List.disjoint_of_nodup_append hnodup hmem (by simp)
  have hlen : (s.nPendingRequests - 1 : ℤ) = (s.asked.eraseIdx n).length := by
    rw [hs.pending, outstanding_eq hs.listAsked,
      List.length_eraseIdx_of_lt hlt]
    omega
  have hresults : s.results = [] := by rw [hs.results]; simp [hasked]
  have hdeleted : s.deleted = false := by
    rw [← Bool.not_eq_true, hs.deleted]
    exact hasked
  have hidsKept : ∀ a ∈ s.answers ++ [(classifierId, r)], ∀ c,
      a.2 = some c → c.classifierId = a.1 := by
    intro a ha c hc
    rcases List.mem_append.mp ha with ha | ha
    · exact hkept a ha c hc
    · rw [List.mem_singleton.mp ha] at hc ⊢
      exact Option.some.inj ((hr c hc).symm.trans hn)
  cases r with
  | none =>
      refine ⟨Fetching.finish hs.valid honce ?_ hs.listAsked hlen hresults
        hdeleted, ?_⟩
      · rw [hs.list, map_fetched_failed hnew]
      · rw [IdsKept, onClassifier, (finish_frame _).2.2]
        exact hidsKept
  | some r =>
      have hrid : r.classifierId = classifierId :=
        Option.some.inj ((hr r rfl).symm.trans hn)
      refine ⟨Fetching.finish hs.valid honce ?_ hs.listAsked hlen hresults
        hdeleted, ?_⟩
      · rw [hs.list, Option.map_some, hkept.map_fetched_replaced hnew hrid]
      · rw [IdsKept, onClassifier, (finish_frame _).2.2]
        exact hidsKept

/-! ## Whole requests -/

/-- The list has come: the loop has ended and asked for the record of each
classifier that is left. -/
theorem onClassifiers_some {w : ℕ} (wildMatch : String → String → Bool)
    {fuel : ℕ} {l : List Classifier} (hfits : Fits w l.length)
    (hfuel : l.length < fuel) (find : String) (callback : Bool) :
    ∃ kept s, kept.Perm (l.filter (keeps wildMatch find)) ∧
      step w wildMatch fuel (new find callback) (.classifiers (some l)) =
        some s ∧
      s.classifiers = some kept ∧
      s.asked = kept.map Classifier.classifierId ∧
      Fetching callback kept s ∧ IdsKept s := by
  obtain ⟨kept, i, hloop, hperm⟩ :=
    loop_filterRound (keeps wildMatch find) hfits 0 hfuel
  let s : FindRequest :=
    { new find callback with
      listAsked := false
      classifiers := some kept
      nPendingRequests := 0 + kept.length
      asked := kept.map Classifier.classifierId }
  have hstep : step w wildMatch fuel (new find callback)
      (.classifiers (some l)) = some (finish s) := by
    have hstart : loop (filterRound (w := w) (keeps wildMatch find)) fuel
        ⟨l, BitVec.ofNat w 0, 1 - 1, []⟩ = _ := hloop
    simp only [step, new, if_true, onClassifiers, hstart]
    rfl
  have hfetched : kept.map (fetched []) = kept := List.map_id kept
  have hfetching : Fetching callback kept (finish s) := by
    refine Fetching.finish rfl (List.Perm.refl _) ?_ rfl ?_ rfl rfl
    · exact congrArg some hfetched.symm
    · simp [s]
  obtain ⟨hlist, hasked, hanswers⟩ := finish_frame s
  refine ⟨kept, finish s, hperm, hstep, hlist, hasked, hfetching, ?_⟩
  intro a ha
  rw [hanswers] at ha
  cases ha

/-- A whole request.  A list that cannot be fetched is passed on as null at
once.  Otherwise the loop ends, the classifiers that match are left, each has
its record asked for once, and in every state of every run of responses the
request is as `Fetching` says. -/
theorem find_throughout (w : ℕ) (wildMatch : String → String → Bool)
    (find : String) (callback : Bool) {r : Option (List Classifier)}
    (hfits : ∀ l, r = some l → Fits w l.length)
    (hids : ∀ l, r = some l → (l.map Classifier.classifierId).Nodup)
    {fuel : ℕ} (hfuel : ∀ l, r = some l → l.length < fuel) :
    (new find callback).nPendingRequests = (new find callback).outstanding ∧
    ∃ s, step w wildMatch fuel (new find callback) (.classifiers r) = some s ∧
      match r with
      | none => s.nPendingRequests = s.outstanding ∧ s.outstanding = 0 ∧
          s.deleted = true ∧ s.results = if callback then [none] else []
      | some l => ∃ kept, kept.Perm (l.filter (keeps wildMatch find)) ∧
          s.classifiers = some kept ∧
          s.asked = kept.map Classifier.classifierId ∧
          ∀ es, EachStep (step w wildMatch fuel) Faithful s es →
            Throughout (step w wildMatch fuel) (Fetching callback kept) s
              es := by
  refine ⟨rfl, ?_⟩
  cases r with
  | none => cases callback <;> exact ⟨_, rfl, rfl, rfl, rfl, rfl⟩
  | some l =>
      obtain ⟨kept, s, hperm, hstep, hlist, hasked, hs, hkept⟩ :=
        onClassifiers_some wildMatch (hfits l rfl) (hfuel l rfl) find callback
      have hnodup : (kept.map Classifier.classifierId).Nodup := by
        rw [(hperm.map _).nodup_iff]
        exact (hids l rfl).sublist (List.filter_sublist.map _)
      refine ⟨s, hstep, kept, hperm, hlist, hasked, fun es hes => ?_⟩
      refine Throughout.mono (fun s (h : Fetching callback kept s ∧ IdsKept s)
        => h.1) (throughout_of_eachStep ?_ ⟨hs, hkept⟩ hes)
      rintro s e t ⟨hs, hkept⟩ hfaithful ht
      cases e with
      | classifiers r =>
          rw [step, if_neg (by simp [hs.listAsked])] at ht
          cases ht
      | classifier n r => exact hs.response hnodup hkept ht hfaithful

/-- Two of four classifiers match; the record of one is fetched, the other
request fails.  The index wraps when the first one is removed. -/
theorem find_throughout_example :
    let c := fun name classifierId status : String =>
      (⟨name, "en", "", classifierId, "", status, ""⟩ : Classifier)
    let l := [c "a" "1" "", c "b" "2" "", c "a" "3" "", c "b" "4" ""]
    ∃ s, step 8 (fun find name => find == name) 5 (new "b" true)
        (.classifiers (some l)) = some s ∧
      ∃ kept, kept.Perm (l.filter (keeps (fun find name => find == name) "b")) ∧
        Throughout (step 8 (fun find name => find == name) 5)
          (Fetching true kept) s
          [.classifier 1 none, .classifier 0 (some (c "b" "4" "Training"))] := by
  intro c l
  have hfits : ∀ l', some l = some l' → Fits 8 l'.length := by
    rintro l' ⟨⟩
    rfl
  have hnodup : ∀ l', some l = some l' →
      (l'.map Classifier.classifierId).Nodup := by
    rintro l' ⟨⟩
    decide
  have hfuel : ∀ l', some l = some l' → l'.length < 5 := by
    rintro l' ⟨⟩
    decide
  obtain ⟨-, s, hstep, kept, hperm, hlist, hasked, hall⟩ :=
    find_throughout 8 (fun find name => find == name) "b" true hfits hnodup
      hfuel
  have hids : s.asked = ["4", "2"] := by
    have hrun : (step 8 (fun find name => find == name) 5 (new "b" true)
        (.classifiers (some l))).map asked = some ["4", "2"] := by decide
    rw [hstep] at hrun
    exact Option.some.inj hrun
  refine ⟨s, hstep, kept, hperm, hall _ fun t ht => ⟨fun c hc => ?_, ?_⟩⟩
  · cases hc
  · refine fun u hu => ⟨fun c hc => ?_, trivial⟩
    have htids : t.asked = ["4"] := by
      obtain ⟨classifierId, -, rfl⟩ := Option.map_eq_some_iff.mp ht
      rw [onClassifier, (finish_frame _).2.1, hids]
      rfl
    rw [htids, ← Option.some.inj hc]
    rfl

end FindRequest

end SelfPlugins.Watson
