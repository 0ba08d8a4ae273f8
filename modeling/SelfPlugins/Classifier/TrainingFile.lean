import Mathlib.Logic.Function.Basic
import SelfPlugins.Framework.Text
import SelfPlugins.Library.Csv
import SelfPlugins.Library.Runs

/-!
# The training file of the classifier

`NLCProxy::RetrainClassifier` appends an example to the training file: a line
end, the text without some of its punctuation, a comma and the class.  Commas
of the text would end its field, so they are removed; other characters that
mean something in the file are not looked at, nor is the end of the file.

`wellFormed_iff` says in which runs the file consists of its old records and
the examples.
-/

namespace SelfPlugins.Watson

open Runs
open Text (StringUtil without)
open Csv (Field Plain AtLineStart parse quote comma cr lf)

/-- The four calls of `Replace`. -/
def cleanText (u : StringUtil) (text : String) : String :=
  u.replace (u.replace (u.replace (u.replace text "," "") "?" "") "!" "") "."
    ""

/-- The text without the characters that are removed from it. -/
def fieldText (text : List Char) : Field :=
  text.filter (· ∉ [',', '?', '!', '.'])

/-- The file the proxy trains from, and the files there are. -/
structure NLCProxy where
  m_ClassifierFile : String
  files : String → Option (List Char)

/-- The arguments of `RetrainClassifier`, and whether the file can be opened if
it is there. -/
structure Retraining where
  text : List Char
  cls : List Char
  opens : Bool

namespace NLCProxy

/-- The name of the file, if none is configured. -/
def setDefault (s : NLCProxy) : NLCProxy :=
  if s.m_ClassifierFile.length = 0 then
    { s with m_ClassifierFile := "shared/self_nlc.csv" }
  else s

/-- `RetrainClassifier`, with its result.  A file that is not there is not
created. -/
def retrainClassifier (u : StringUtil) (staticPath : String) (a : Retraining)
    (s : NLCProxy) : Bool × NLCProxy :=
  let s := s.setDefault
  let classifierFile := staticPath ++ s.m_ClassifierFile
  match s.files classifierFile, a.opens with
  | some content, true =>
      let cleanText := cleanText u (String.ofList a.text)
      let content := content ++ [cr, lf] ++ cleanText.toList ++ [','] ++ a.cls
      (true, { s with
        files := Function.update s.files classifierFile (some content) })
  | _, _ => (false, s)

/-- The path of the training file. -/
def path (staticPath : String) (s : NLCProxy) : String :=
  staticPath ++ s.setDefault.m_ClassifierFile

@[simp] theorem setDefault_files (s : NLCProxy) :
    s.setDefault.files = s.files := by
  rw [setDefault]
  split
  · rfl
  · rfl

/-- The path does not depend on the files. -/
theorem path_congr (staticPath m_ClassifierFile : String)
    (files files' : String → Option (List Char)) :
    path staticPath ⟨m_ClassifierFile, files⟩ =
      path staticPath ⟨m_ClassifierFile, files'⟩ := by
  rw [path, path, setDefault, setDefault]
  split
  · rfl
  · rfl

@[simp] theorem path_setDefault (staticPath : String) (s : NLCProxy)
    (files : String → Option (List Char)) :
    path staticPath ⟨s.setDefault.m_ClassifierFile, files⟩ =
      s.path staticPath := by
  rw [path, path]
  by_cases h : s.m_ClassifierFile.length = 0
  · simp only [setDefault, if_pos h]
    rfl
  · simp only [setDefault, if_neg h]

variable {u : StringUtil} {staticPath : String} {a : Retraining} {s : NLCProxy}

theorem toList_cleanText (u : StringUtil) (text : List Char) :
    (cleanText u (String.ofList text)).toList = fieldText text := by
  have hreplace : ∀ s c t, t = String.singleton c →
      u.replace s t "" = without c s := by
    rintro s c _ rfl
    exact u.replace_eq s c
  rw [cleanText, hreplace _ ',' "," rfl, hreplace _ '?' "?" rfl,
    hreplace _ '!' "!" rfl, hreplace _ '.' "." rfl]
  simp only [without, fieldText, String.toList_ofList, List.filter_filter]
  refine List.filter_congr fun c _ => ?_
  simp only [List.mem_cons, List.not_mem_nil, or_false, not_or,
    ← Bool.decide_and]
  exact decide_eq_decide.mpr (by tauto)

theorem retrainClassifier_of_opens {content : List Char}
    (hfile : s.files (s.path staticPath) = some content)
    (hopens : a.opens = true) :
    s.retrainClassifier u staticPath a = (true,
      ⟨s.setDefault.m_ClassifierFile,
        Function.update s.files (s.path staticPath) (some (content ++
          cr :: lf :: (fieldText a.text ++ comma :: a.cls)))⟩) := by
  have happend : content ++ cr :: lf :: (fieldText a.text ++ comma :: a.cls) =
      content ++ [cr, lf] ++
        (cleanText u (String.ofList a.text)).toList ++ [','] ++ a.cls := by
    simp [comma, toList_cleanText]
  rw [retrainClassifier, setDefault_files, ← path, hfile, hopens, happend]

theorem retrainClassifier_of_not_opens (hopens : a.opens = false) :
    s.retrainClassifier u staticPath a = (false, s.setDefault) := by
  rw [retrainClassifier, hopens]
  split
  · next h => cases h
  · rfl

end NLCProxy

/-! ## Runs -/

/-- A record of two fields. -/
def pair (r : Field × Field) : List Field := [r.1, r.2]

/-- A well-formed file with records of two fields. -/
structure TrainingFile where
  content : List Char
  records : List (Field × Field)
  parse_eq : parse content = some (records.map pair)

/-- The proxy, and the records its training file should have. -/
structure Retrained where
  proxy : NLCProxy
  records : List (Field × Field)

namespace Retrained

/-- A proxy whose training file is well formed, with other files. -/
def new (staticPath m_ClassifierFile : String)
    (files : String → Option (List Char)) (file : TrainingFile) :
    Retrained where
  proxy :=
    { m_ClassifierFile
      files := Function.update files
        (NLCProxy.path staticPath ⟨m_ClassifierFile, files⟩)
        (some file.content) }
  records := file.records

/-- A call; if it returns true the example should be a further record. -/
def step (u : StringUtil) (staticPath : String) (s : Retrained)
    (a : Retraining) : Option Retrained :=
  let (done, proxy) := s.proxy.retrainClassifier u staticPath a
  some
    { proxy
      records := if done then s.records ++ [(fieldText a.text, a.cls)]
        else s.records }

/-- The training file is well formed and consists of the records. -/
def WellFormed (staticPath : String) (s : Retrained) : Prop :=
  ∃ content, s.proxy.files (s.proxy.path staticPath) = some content ∧
    parse content = some (s.records.map pair)

/-- If the file is there and can be opened, it neither is empty nor ends with a
line end; the text contains no quote and no character of a line end, and the
class no comma either. -/
def Safe (staticPath : String) (s : Retrained) (a : Retraining) : Prop :=
  ∀ content, s.proxy.files (s.proxy.path staticPath) = some content →
    a.opens = true →
      ¬AtLineStart content ∧ (quote ∉ a.text ∧ cr ∉ a.text ∧ lf ∉ a.text) ∧
        Plain a.cls

variable {u : StringUtil} {staticPath : String} {s t : Retrained}
  {a : Retraining}

theorem mem_fieldText {c : Char} {text : List Char} :
    c ∈ fieldText text ↔
      c ∈ text ∧ c ≠ ',' ∧ c ≠ '?' ∧ c ≠ '!' ∧ c ≠ '.' := by
  simp [fieldText]

/-- The clean text can be written as it is if it has no quotes or line ends. -/
theorem plain_fieldText {text : List Char} :
    Plain (fieldText text) ↔ quote ∉ text ∧ cr ∉ text ∧ lf ∉ text := by
  constructor
  · intro h
    have hnot : ∀ c, Csv.kind c ≠ .data →
        (c ≠ ',' ∧ c ≠ '?' ∧ c ≠ '!' ∧ c ≠ '.') → c ∉ text :=
      fun c hkind hc hmem => hkind (h c (mem_fieldText.mpr ⟨hmem, hc⟩))
    exact ⟨hnot quote (by decide) (by decide), hnot cr (by decide) (by decide),
      hnot lf (by decide) (by decide)⟩
  · rintro ⟨hquote, hcr, hlf⟩ c hc
    obtain ⟨hmem, hcomma, -⟩ := mem_fieldText.mp hc
    have hne : ∀ d, d ∉ text → c ≠ d := fun d hd h => hd (h ▸ hmem)
    have hcomma : c ≠ comma := hcomma
    rw [Csv.kind, if_neg (hne quote hquote), if_neg hcomma,
      if_neg (hne cr hcr), if_neg (hne lf hlf)]

/-- A call appends the example, or leaves the training file alone. -/
theorem step_cases (h : step u staticPath s a = some t) {content : List Char}
    (hfile : s.proxy.files (s.proxy.path staticPath) = some content) :
    (a.opens = false ∧ t.records = s.records ∧
        t.proxy.files (t.proxy.path staticPath) = some content) ∨
      (a.opens = true ∧
        t.records = s.records ++ [(fieldText a.text, a.cls)] ∧
        t.proxy.files (t.proxy.path staticPath) = some (content ++
          cr :: lf :: (fieldText a.text ++ comma :: a.cls))) := by
  cases hopens : a.opens with
  | false =>
      rw [step, NLCProxy.retrainClassifier_of_not_opens hopens] at h
      obtain rfl := Option.some.inj h
      refine Or.inl ⟨rfl, rfl, ?_⟩
      rw [← hfile, NLCProxy.setDefault_files]
      exact congrArg s.proxy.files (NLCProxy.path_setDefault _ _ _)
  | true =>
      rw [step, NLCProxy.retrainClassifier_of_opens hfile hopens] at h
      obtain rfl := Option.some.inj h
      refine Or.inr ⟨rfl, rfl, ?_⟩
      rw [NLCProxy.path_setDefault]
      exact Function.update_self ..

/-- From a well-formed file, a call leads to a well-formed file precisely if it
is safe. -/
theorem WellFormed.step_iff (hs : WellFormed staticPath s)
    (h : step u staticPath s a = some t) :
    WellFormed staticPath t ↔ Safe staticPath s a := by
  obtain ⟨content, hfile, hparse⟩ := hs
  rcases step_cases h hfile with ⟨hopens, hrecords, hfile'⟩ |
    ⟨hopens, hrecords, hfile'⟩
  · constructor
    · intro _ content' _ hopens'
      exact absurd (hopens.symm.trans hopens') (by simp)
    · intro _
      exact ⟨content, hfile', hrecords ▸ hparse⟩
  · have hpair : WellFormed staticPath t ↔
        parse (content ++ cr :: lf :: (fieldText a.text ++ comma :: a.cls)) =
          some (s.records.map pair ++ [[fieldText a.text, a.cls]]) := by
      have hmap : t.records.map pair =
          s.records.map pair ++ [[fieldText a.text, a.cls]] := by
        rw [hrecords, List.map_append]
        rfl
      rw [← hmap]
      constructor
      · rintro ⟨content', hcontent', hparse'⟩
        obtain rfl := Option.some.inj (hfile'.symm.trans hcontent')
        exact hparse'
      · exact fun hparse' => ⟨_, hfile', hparse'⟩
    have hsafe : Safe staticPath s a ↔ ¬AtLineStart content ∧
        Plain (fieldText a.text) ∧ Plain a.cls := by
      rw [plain_fieldText]
      constructor
      · exact fun hsafe => hsafe content hfile hopens
      · intro hplain content' hcontent' _
        obtain rfl := Option.some.inj (hfile.symm.trans hcontent')
        exact hplain
    rw [hpair, hsafe, ← Csv.parse_pair_iff]
    by_cases hend : AtLineStart content
    · -- The blank line takes the place of the example.
      rw [Csv.parse_append_blank hparse hend, Option.map_eq_some_iff]
      constructor
      · rintro ⟨records, -, heq⟩
        rw [List.append_assoc] at heq
        have hblank := (List.cons.inj (List.append_cancel_left heq)).1
        exact absurd (congrArg List.length hblank) (by simp)
      · exact fun hsafe => absurd hend hsafe.1
    · rw [Csv.parse_append hparse hend, Option.map_eq_some_iff,
        and_iff_right hend]
      constructor
      · rintro ⟨records, hrest, heq⟩
        rw [hrest, List.append_cancel_left heq]
      · exact fun hrest => ⟨_, hrest, rfl⟩

/-- In a run the training file consists of its old records and the examples
precisely if all calls are safe. -/
theorem wellFormed_iff (u : StringUtil) (staticPath m_ClassifierFile : String)
    (files : String → Option (List Char)) (file : TrainingFile)
    (calls : List Retraining) :
    Throughout (step u staticPath) (WellFormed staticPath)
        (new staticPath m_ClassifierFile files file) calls ↔
      EachStep (step u staticPath) (Safe staticPath)
        (new staticPath m_ClassifierFile files file) calls := by
  have hstart : WellFormed staticPath
      (new staticPath m_ClassifierFile files file) := by
    refine ⟨file.content, ?_, file.parse_eq⟩
    rw [new, NLCProxy.path_congr staticPath m_ClassifierFile
      (Function.update _ _ _) files]
    exact Function.update_self ..
  exact throughout_iff_eachStep (L := fun _ _ => True) (fun _ h => h)
    (fun _ _ _ h _ hC ht => (h.step_iff ht).mpr hC)
    (fun _ _ _ h _ hC ht hP => hC ((h.step_iff ht).mp hP)) hstart
    (eachStep_true _ _)

/-- A training file with one record. -/
def greeting : TrainingFile where
  content := "hello,greeting".toList
  records := [("hello".toList, "greeting".toList)]
  parse_eq := by decide

/-- A class with a comma makes a record of three fields. -/
theorem not_always_wellFormed :
    ¬Throughout (step .plain "") (WellFormed "")
      (new "" "nlc.csv" (fun _ => none) greeting)
      [⟨"bye".toList, "farewell,formal".toList, true⟩] := by
  intro h
  obtain ⟨content, hfile, hparse⟩ := h.2 _ rfl
  obtain rfl : "hello,greeting\r\nbye,farewell,formal".toList = content :=
    Option.some.inj hfile
  exact absurd hparse (by decide)

end Retrained

end SelfPlugins.Watson
