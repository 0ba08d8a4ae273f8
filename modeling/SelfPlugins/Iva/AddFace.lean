import SelfPlugins.Framework.Xml
import SelfPlugins.Iva.Login

/-!
# Adding a face

`AddFace` takes an XML document with the features of a face.  `Start` looks for
the elements it needs and keeps their texts; the last of the three requests
sends the numbers of two of the texts, the bounding box and the landmarks.
`Start` does not check that the elements have texts, and `UpdateFeatures` does
not check how many numbers `sscanf` has read.  The numbers that `%d` and `%f`
read are taken as they are written, without the bounds of an `int` or the
rounding of a `float`.

`sendsDocument_iff` says for which documents nothing but the document is sent.
-/

namespace SelfPlugins.Iva

open Text Xml

/-- What the requests depend on besides the document: the time, the pieces of
a name, the content type of a form, and what `%f` reads. -/
structure Surroundings where
  getFormattedTime : String → String
  splitName : String → List String
  getContentType : String
  scanFloat : List Char → Option (ℚ × List Char)

/-- The other arguments of `AddFace`, with whether the callback is valid. -/
structure Person where
  a_FaceImage : String
  a_PersonId : String
  a_Name : String
  a_Gender : String
  a_DOB : String
  a_Callback : Bool
deriving DecidableEq

/-- The variables of `UpdateFeatures`, before they are assigned. -/
structure Undefined where
  v : ℕ → ℚ
  m : ℕ → ℤ

structure AddFaceReq where
  m_Features : String
  m_BBox : String
  m_Landmarks : String
  m_FaceImage : String
  m_PersonId : String
  m_Name : String
  m_Gender : String
  m_DOB : String
  m_Callback : Bool
  m_CID : String := ""
deriving DecidableEq

/-- `Start` returns false, reads a text that is not there, or accepts the
document. -/
inductive Started where
  | refused
  | missingText
  | accepted (req : AddFaceReq)
deriving DecidableEq

namespace AddFaceReq

/-! ## Translated functions -/

/-- The elements that `Start` looks for; those it reads are `F256`, `BBox` and
`LandMarks`. -/
def elements (a_F256 : List Node) :
    Option (List Node × List Node × List Node) := do
  let pResult ← firstChildElement "Results" a_F256
  let _ ← firstChildElement "Status" pResult
  let pFace ← firstChildElement "Face" pResult
  let pF256 ← firstChildElement "F256" pFace
  let pBBOX ← firstChildElement "BBox" pFace
  let pLandMarks ← firstChildElement "LandMarks" pFace
  return (pF256, pBBOX, pLandMarks)

/-- The texts of the landmarks, separated by blanks. -/
def landmarks (marks : List (List Node)) : Option String :=
  marks.foldlM (fun acc pMark =>
    (getText pMark).map fun text =>
      (if acc = "" then acc else acc ++ " ") ++ text)
    ""

/-- `Start`, up to `EnrollUser`. -/
def start (u : Surroundings) (a_F256 : List Node) (p : Person) : Started :=
  match elements a_F256 with
  | none => .refused
  | some (pF256, pBBOX, pLandMarks) =>
      if p.a_PersonId.utf8ByteSize > 20 then .refused
      else
        match getText pF256, getText pBBOX,
            landmarks (childElements pLandMarks) with
        | some m_Features, some m_BBox, some m_Landmarks =>
            .accepted {
              m_Features, m_BBox, m_Landmarks
              m_FaceImage := p.a_FaceImage
              m_PersonId := p.a_PersonId
              m_Name := p.a_Name
              m_Gender := String.ofList (p.a_Gender.toList.take 1)
              m_DOB := if p.a_DOB.toList.headD (Char.ofNat 0) = Char.ofNat 0
                then u.getFormattedTime "%Y-%m-%d" else p.a_DOB
              m_Callback := p.a_Callback }
        | _, _, _ => .missingText

def jsonHeaders (sessionId : String) : List (String × String) :=
  [("Accept", "application/json"), ("Content-Type", "application/json"),
    ("X-IVA-Request", sessionId)]

def enrollUser (u : Surroundings) (sessionId : String) (req : AddFaceReq) :
    Request :=
  let names := u.splitName req.m_Name
  let female := req.m_Gender = "F"
  { a_Endpoint := "/frPerson"
    a_RequestType := "POST"
    a_Headers := jsonHeaders sessionId
    a_Body := .json (.object [
      ("_markup", .string "default"),
      ("_type", .string "frPerson"),
      ("items", .array [.object [
        ("dob", .string req.m_DOB),
        ("firstName", .string (match names with
          | first :: _ => first
          | [] => if female then "Jane" else "John")),
        ("fullName", .string (if names.isEmpty then
            (if female then "Jane Doe" else "John Doe") else req.m_Name)),
        ("gender", .string req.m_Gender),
        ("lastName", .string
          (if names.length > 1 then names.getLastD "" else "")),
        ("personId", .string req.m_PersonId)]])]) }

/-- `UploadFiles`, which also sets `m_CID`. -/
def uploadFiles (u : Surroundings) (sessionId : String) (req : AddFaceReq) :
    Request × AddFaceReq :=
  let req := { req with m_CID := u.getFormattedTime "%Y/%m/%d/wlf" }
  ({ a_Endpoint := "/frFile"
     a_RequestType := "POST"
     a_Headers := [("Accept", "application/json"),
       ("Content-Type", u.getContentType), ("X-IVA-Request", sessionId)]
     a_Body := .form [
       ("response_type", "json"),
       ("BBox", req.m_BBox),
       ("FaceMarks", req.m_Landmarks),
       ("f256", req.m_Features),
       ("dateTaken", u.getFormattedTime "%a %b %d %H:%M:%S %Z"),
       ("cid", req.m_CID),
       ("imageFileName", req.m_PersonId ++ ".jpg"),
       ("f256FileName", req.m_PersonId ++ ".F256")]
       ("image", "face.jpg", req.m_FaceImage, "image/jpeg") }, req)

/-- The conversion of a `float` to an `int`. -/
def toInt (x : ℚ) : ℤ :=
  Int.tdiv x.num x.den

/-- The members of the feature update that hold numbers. -/
def bBox (v : ℕ → ℚ) : Json.Value :=
  .object [("lTX", .int (toInt (v 0))), ("lTY", .int (toInt (v 1))),
    ("rBX", .int (toInt (v 3))), ("rBY", .int (toInt (v 2)))]

def eyes (m : ℕ → ℤ) : Json.Value :=
  .object [("lCX", .int (m 0)), ("lCY", .int (m 1)),
    ("rCX", .int (m 2)), ("rCY", .int (m 3))]

def nose (m : ℕ → ℤ) : Json.Value :=
  .object [("CX", .int (m 4)), ("CY", .int (m 5))]

def mouth (m : ℕ → ℤ) : Json.Value :=
  .object [("lCX", .int (m 6)), ("lCY", .int (m 7)),
    ("rCX", .int (m 8)), ("rCY", .int (m 9))]

/-- The numbers of the bounding box. -/
def boxFields (u : Surroundings) (m_BBox : String) : List ℚ :=
  scanFields u.scanFloat 4 m_BBox.toList

/-- The numbers of the landmarks. -/
def markFields (m_Landmarks : String) : List ℤ :=
  scanFields scanInt 10 m_Landmarks.toList

def updateFeatures (u : Surroundings) (sessionId : String)
    (undefined : Undefined) (req : AddFaceReq) : Request :=
  let v := assigned (boxFields u req.m_BBox) undefined.v
  let m := assigned (markFields req.m_Landmarks) undefined.m
  { a_Endpoint := "/watchlistFeature"
    a_RequestType := "POST"
    a_Headers := jsonHeaders sessionId
    a_Body := .json (.object [
      ("_markup", .string "default"),
      ("_type", .string "watchlistFeature"),
      ("items", .array [.object [
        ("bBox", bBox v),
        ("eyes", eyes m),
        ("featurePath",
          .string (req.m_CID ++ "/" ++ req.m_PersonId ++ ".F256")),
        ("imagePath", .string (req.m_CID ++ "/" ++ req.m_PersonId ++ ".jpg")),
        ("imageTS", .string (u.getFormattedTime "%Y-%m-%dT00.00.00.000")),
        ("mouth", mouth m),
        ("nose", nose m),
        ("personId", .string req.m_PersonId)]])]) }

end AddFaceReq

/-! ## What is to be sent -/

open AddFaceReq

/-- `Start` refuses the document, or it reads no text that is missing and what
the update sends does not depend on the variables before they are assigned. -/
def SendsDocument (u : Surroundings) (a_F256 : List Node) (p : Person) : Prop :=
  start u a_F256 p ≠ .missingText ∧
    ∀ req, start u a_F256 p = .accepted req → ∀ sessionId undefined undefined',
      req.updateFeatures u sessionId undefined =
        req.updateFeatures u sessionId undefined'

/-- The elements have texts, that of the box begins with four numbers, and
those of the landmarks together with ten. -/
structure Complete (u : Surroundings) (pF256 pBBOX pLandMarks : List Node) :
    Prop where
  features : ∃ m_Features, getText pF256 = some m_Features
  box : ∃ m_BBox, getText pBBOX = some m_BBox ∧
    (boxFields u m_BBox).length = 4
  marks : ∃ m_Landmarks,
    landmarks (childElements pLandMarks) = some m_Landmarks ∧
      (markFields m_Landmarks).length = 10

/-! ## What is sent -/

namespace AddFaceReq

variable {u : Surroundings} {sessionId : String} {a_F256 : List Node}
  {p : Person}

/-- Two updates are equal iff the numbers in them are. -/
theorem updateFeatures_eq_iff (req : AddFaceReq) (x y : Undefined) :
    req.updateFeatures u sessionId x = req.updateFeatures u sessionId y ↔
      (∀ i < 4, toInt (assigned (boxFields u req.m_BBox) x.v i) =
        toInt (assigned (boxFields u req.m_BBox) y.v i)) ∧
      ∀ i < 10, assigned (markFields req.m_Landmarks) x.m i =
        assigned (markFields req.m_Landmarks) y.m i := by
  constructor
  · intro h
    have hbody := congrArg Request.a_Body h
    simp only [updateFeatures, bBox, eyes, nose, mouth, Body.json.injEq,
      Json.Value.object.injEq, Json.Value.array.injEq, Json.Value.int.injEq,
      List.cons.injEq, Prod.mk.injEq, and_true, true_and] at hbody
    obtain ⟨⟨h0, h1, h3, h2⟩, ⟨m0, m1, m2, m3⟩, ⟨m6, m7, m8, m9⟩, m4, m5⟩ :=
      hbody
    constructor
    · intro i hi
      match i, hi with
      | 0, _ => exact h0
      | 1, _ => exact h1
      | 2, _ => exact h2
      | 3, _ => exact h3
      | i + 4, hi => omega
    · intro i hi
      match i, hi with
      | 0, _ => exact m0
      | 1, _ => exact m1
      | 2, _ => exact m2
      | 3, _ => exact m3
      | 4, _ => exact m4
      | 5, _ => exact m5
      | 6, _ => exact m6
      | 7, _ => exact m7
      | 8, _ => exact m8
      | 9, _ => exact m9
      | i + 10, hi => omega
  · rintro ⟨hv, hm⟩
    simp only [updateFeatures, bBox, eyes, nose, mouth, hv 0 (by decide),
      hv 1 (by decide), hv 2 (by decide), hv 3 (by decide), hm 0 (by decide),
      hm 1 (by decide), hm 2 (by decide), hm 3 (by decide), hm 4 (by decide),
      hm 5 (by decide), hm 6 (by decide), hm 7 (by decide), hm 8 (by decide),
      hm 9 (by decide)]

/-- The update does not depend on the variables before they are assigned iff
all of them are assigned. -/
theorem updateFeatures_const_iff (req : AddFaceReq) :
    (∀ sessionId x y,
      req.updateFeatures u sessionId x = req.updateFeatures u sessionId y) ↔
      (boxFields u req.m_BBox).length = 4 ∧
        (markFields req.m_Landmarks).length = 10 := by
  have hbox := length_scanFields_le u.scanFloat 4 req.m_BBox.toList
  have hmarks := length_scanFields_le scanInt 10 req.m_Landmarks.toList
  constructor
  · -- a variable that is not assigned is seen in the update
    intro h
    obtain ⟨hv, hm⟩ := (updateFeatures_eq_iff req
      ⟨fun _ => 0, fun _ => 0⟩ ⟨fun _ => 1, fun _ => 1⟩).mp (h "" _ _)
    constructor
    · by_contra hne
      have heq := hv (boxFields u req.m_BBox).length
        (Nat.lt_of_le_of_ne hbox hne)
      rw [assigned_of_le (Nat.le_refl _), assigned_of_le (Nat.le_refl _)] at heq
      exact absurd (show toInt 0 = toInt 1 from heq) (by decide)
    · by_contra hne
      have heq := hm (markFields req.m_Landmarks).length
        (Nat.lt_of_le_of_ne hmarks hne)
      rw [assigned_of_le (Nat.le_refl _), assigned_of_le (Nat.le_refl _)] at heq
      exact absurd (show (0 : ℤ) = 1 from heq) (by decide)
  · rintro ⟨hv, hm⟩ sessionId x y
    refine (updateFeatures_eq_iff req x y).mpr ⟨fun i hi => ?_, fun i hi => ?_⟩
    · rw [assigned_of_lt (hv ▸ hi), assigned_of_lt (hv ▸ hi)]
    · rw [assigned_of_lt (hm ▸ hi), assigned_of_lt (hm ▸ hi)]

/-- What `Start` does with the elements. -/
theorem start_eq {pF256 pBBOX pLandMarks : List Node}
    (helements : elements a_F256 = some (pF256, pBBOX, pLandMarks))
    (hid : ¬p.a_PersonId.utf8ByteSize > 20) :
    (∃ req, start u a_F256 p = .accepted req ∧
      getText pF256 = some req.m_Features ∧
      getText pBBOX = some req.m_BBox ∧
      landmarks (childElements pLandMarks) = some req.m_Landmarks) ∨
    (start u a_F256 p = .missingText ∧
      (getText pF256 = none ∨ getText pBBOX = none ∨
        landmarks (childElements pLandMarks) = none)) := by
  unfold start
  rw [helements]
  simp only [if_neg hid]
  cases hfeatures : getText pF256 with
  | none => exact Or.inr ⟨rfl, Or.inl rfl⟩
  | some m_Features =>
      cases hbox : getText pBBOX with
      | none => exact Or.inr ⟨rfl, Or.inr (Or.inl rfl)⟩
      | some m_BBox =>
          cases hmarks : landmarks (childElements pLandMarks) with
          | none => exact Or.inr ⟨rfl, Or.inr (Or.inr rfl)⟩
          | some m_Landmarks => exact Or.inl ⟨_, rfl, rfl, rfl, rfl⟩

end AddFaceReq

theorem sendsDocument_of_refused {u : Surroundings} {a_F256 : List Node}
    {p : Person} (hstart : start u a_F256 p = .refused) :
    SendsDocument u a_F256 p := by
  refine ⟨?_, fun req hreq => ?_⟩
  · rw [hstart]
    exact Started.noConfusion
  · rw [hstart] at hreq
    cases hreq

/-- An accepted document is sent as it is iff it has enough numbers. -/
theorem sendsDocument_of_accepted {u : Surroundings} {a_F256 : List Node}
    {p : Person} {req : AddFaceReq}
    (hstart : start u a_F256 p = .accepted req) :
    SendsDocument u a_F256 p ↔ (boxFields u req.m_BBox).length = 4 ∧
      (markFields req.m_Landmarks).length = 10 := by
  rw [← updateFeatures_const_iff, SendsDocument, hstart]
  constructor
  · rintro ⟨-, hconst⟩
    exact hconst req rfl
  · intro hconst
    refine ⟨Started.noConfusion, fun req' hreq => ?_⟩
    obtain rfl := Started.accepted.inj hreq
    exact hconst

/-- Nothing but the document is sent iff `Start` refuses it or its elements
are complete. -/
theorem sendsDocument_iff (u : Surroundings) (a_F256 : List Node)
    (p : Person) :
    SendsDocument u a_F256 p ↔
      elements a_F256 = none ∨ p.a_PersonId.utf8ByteSize > 20 ∨
        ∀ pF256 pBBOX pLandMarks,
          elements a_F256 = some (pF256, pBBOX, pLandMarks) →
            Complete u pF256 pBBOX pLandMarks := by
  cases helements : elements a_F256 with
  | none =>
      refine iff_of_true (sendsDocument_of_refused ?_) (Or.inl rfl)
      rw [start, helements]
  | some es =>
      obtain ⟨pF256, pBBOX, pLandMarks⟩ := es
      by_cases hid : p.a_PersonId.utf8ByteSize > 20
      · refine iff_of_true (sendsDocument_of_refused ?_) (Or.inr (Or.inl hid))
        rw [start, helements]
        exact if_pos hid
      · rcases start_eq (u := u) helements hid with
          ⟨req, hstart, hfeatures, hbox, hmarks⟩ | ⟨hstart, hmissing⟩
        · rw [sendsDocument_of_accepted hstart]
          constructor
          · rintro ⟨hv, hm⟩
            refine Or.inr (Or.inr ?_)
            rintro _ _ _ h
            cases h
            exact ⟨⟨_, hfeatures⟩, ⟨_, hbox, hv⟩, ⟨_, hmarks, hm⟩⟩
          · rintro (h | h | h)
            · cases h
            · exact absurd h hid
            · obtain ⟨-, ⟨box, hbox', hv⟩, ⟨marks, hmarks', hm⟩⟩ :=
                h _ _ _ rfl
              obtain rfl := Option.some.inj (hbox.symm.trans hbox')
              obtain rfl := Option.some.inj (hmarks.symm.trans hmarks')
              exact ⟨hv, hm⟩
        · refine iff_of_false (fun h => h.1 hstart) ?_
          rintro (h | h | h)
          · cases h
          · exact hid h
          · obtain ⟨⟨f, hf⟩, ⟨box, hbox, -⟩, ⟨marks, hmarks, -⟩⟩ := h _ _ _ rfl
            rcases hmissing with hnone | hnone | hnone
            · exact Option.some_ne_none f (hf.symm.trans hnone)
            · exact Option.some_ne_none box (hbox.symm.trans hnone)
            · exact Option.some_ne_none marks (hmarks.symm.trans hnone)

/-- An empty element `BBox`. -/
theorem not_always_sendsDocument :
    ¬∀ (u : Surroundings) (a_F256 : List Node) (p : Person),
      SendsDocument u a_F256 p := by
  intro h
  let u : Surroundings := ⟨fun _ => "2016-11-16",
    fun name => [name], "multipart/form-data", fun _ => none⟩
  let face : List Node :=
    [.element "F256" [.text "0.6165"],
      .element "LandMarks" [.element "LeftEye" [.text "52 62"]],
      .element "BBox" []]
  refine (h u [.element "Results" [.element "Status" [.text "ok"],
    .element "Face" face]] ⟨"", "id", "Ada", "F", "1815-12-10", true⟩).1 ?_
  decide +kernel

end SelfPlugins.Iva
