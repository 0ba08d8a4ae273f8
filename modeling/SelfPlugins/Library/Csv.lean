import Mathlib.Algebra.BigOperators.Group.List.Basic
import Mathlib.Algebra.GroupWithZero.Nat
import Mathlib.Data.List.Infix
import Mathlib.Tactic.Common

/-!
# Comma-separated values

The format of RFC 4180: records end with CR LF, which may be missing at the
end of the file; fields are separated by commas; a field in quotes may contain
commas, quotes (doubled) and line ends, and no other field may.

`parse` reads a file character by character.  What a file that does not end
with a line end says is not affected by appending a line end and more
(`parse_append`), and a line of two fields written without quotes is read back
precisely if neither contains one of the four special characters
(`parse_pair_iff`).
-/

namespace SelfPlugins.Csv

def quote : Char := Char.ofNat 34

def comma : Char := ','

def cr : Char := Char.ofNat 13

def lf : Char := Char.ofNat 10

/-- What kind of character the reader meets. -/
inductive Kind where
  | quote
  | comma
  | cr
  | lf
  | data
deriving DecidableEq

def kind (c : Char) : Kind :=
  if c = quote then .quote
  else if c = comma then .comma
  else if c = cr then .cr
  else if c = lf then .lf
  else .data

/-- Where the reader is: at the beginning of a line or of another field, in a
field without quotes, in a field with quotes, after a quote in such a field, or
between the two characters of a line end. -/
inductive Phase where
  | lineStart
  | fieldStart
  | plain
  | quoted
  | closed
  | afterCR
deriving DecidableEq

/-- What the reader does with a character. -/
inductive Action where
  | skip
  | push
  | endField
  | endRecord
deriving DecidableEq

/-- The transitions of the reader. -/
def next : Phase → Kind → Option (Phase × Action)
  | .quoted, .quote => some (.closed, .skip)
  | .quoted, _ => some (.quoted, .push)
  | .closed, .quote => some (.quoted, .push)
  | .closed, .data => none
  | .plain, .quote => none
  | .afterCR, .lf => some (.lineStart, .endRecord)
  | .afterCR, _ => none
  | _, .quote => some (.quoted, .skip)
  | _, .comma => some (.fieldStart, .endField)
  | _, .cr => some (.afterCR, .skip)
  | _, .lf => none
  | _, .data => some (.plain, .push)

section Next

variable {p q : Phase} {k : Kind} {a : Action}

theorem next_lineStart (h : next p k = some (.lineStart, a)) :
    p = .afterCR ∧ k = .lf ∧ a = .endRecord := by
  cases p with
  | _ =>
      cases k with
      | _ => simp_all [next]

theorem next_afterCR (h : next p k = some (.afterCR, a)) : k = .cr := by
  cases p with
  | _ =>
      cases k with
      | _ => simp_all [next]

theorem next_cr (hquoted : p ≠ .quoted) (hcr : p ≠ .afterCR) :
    next p .cr = some (.afterCR, .skip) := by
  cases p with
  | quoted => exact absurd rfl hquoted
  | afterCR => exact absurd rfl hcr
  | _ => rfl

/-- A line feed that is not in quotes belongs to a line end. -/
theorem next_lf (h : next p .lf = some (q, a)) :
    q = .lineStart ∨ q = .quoted := by
  cases p with
  | _ => simp_all [next]

end Next

abbrev Field := List Char

/-- The records read, the fields of the present record, and the present
field. -/
structure Reader where
  records : List (List Field)
  fields : List Field
  field : Field
  phase : Phase
deriving DecidableEq

namespace Reader

def start : Reader := ⟨[], [], [], .lineStart⟩

def act (c : Char) (r : Reader) : Action → Reader
  | .skip => r
  | .push => { r with field := r.field ++ [c] }
  | .endField => { r with fields := r.fields ++ [r.field], field := [] }
  | .endRecord =>
      ⟨r.records ++ [r.fields ++ [r.field]], [], [], r.phase⟩

def step (r : Reader) (c : Char) : Option Reader :=
  (next r.phase (kind c)).map fun (phase, action) =>
    { r.act c action with phase := phase }

def read (r : Reader) (text : List Char) : Option Reader :=
  text.foldlM step r

/-- The records at the end of the file. -/
def finish (r : Reader) : Option (List (List Field)) :=
  match r.phase with
  | .lineStart => some r.records
  | .fieldStart | .plain | .closed =>
      some (r.records ++ [r.fields ++ [r.field]])
  | .quoted | .afterCR => none

end Reader

open Reader

/-- The records of a file. -/
def parse (text : List Char) : Option (List (List Field)) :=
  (start.read text).bind finish

/-- A field that can be written without quotes. -/
def Plain (f : Field) : Prop := ∀ c ∈ f, kind c = .data

instance (f : Field) : Decidable (Plain f) :=
  inferInstanceAs (Decidable (∀ c ∈ f, kind c = .data))

/-! ## Reading -/

variable {r s : Reader} {c : Char} {text rest : List Char}

@[simp] theorem read_nil (r : Reader) : r.read [] = some r := rfl

theorem read_cons (r : Reader) (c : Char) (text : List Char) :
    r.read (c :: text) = (r.step c).bind fun s => s.read text := rfl

theorem read_append (r : Reader) (text rest : List Char) :
    r.read (text ++ rest) = (r.read text).bind fun s => s.read rest :=
  List.foldlM_append

theorem step_eq_some (h : r.step c = some s) :
    ∃ phase action, next r.phase (kind c) = some (phase, action) ∧
      s = { r.act c action with phase := phase } := by
  obtain ⟨⟨phase, action⟩, hnext, rfl⟩ := Option.map_eq_some_iff.mp h
  exact ⟨phase, action, hnext, rfl⟩

/-- The reader, with records before those it has read. -/
def Reader.after (records : List (List Field)) (r : Reader) : Reader :=
  { r with records := records ++ r.records }

theorem step_after (records : List (List Field)) (r : Reader) (c : Char) :
    (r.after records).step c = (r.step c).map (after records) := by
  rw [step, step, Option.map_map]
  refine congrArg (Option.map · _) (funext fun ⟨phase, action⟩ => ?_)
  cases action with
  | endRecord => simp [after, act]
  | _ => rfl

theorem read_after (records : List (List Field)) (r : Reader)
    (text : List Char) :
    (r.after records).read text = (r.read text).map (after records) := by
  induction text generalizing r with
  | nil => rfl
  | cons c text ih =>
      rw [read_cons, read_cons, step_after]
      cases r.step c with
      | none => rfl
      | some s => exact ih s

theorem finish_after (records : List (List Field)) (r : Reader) :
    (r.after records).finish = r.finish.map (records ++ ·) := by
  cases hphase : r.phase with
  | _ => simp [finish, after, hphase]

/-- Records that have been read before stay in front. -/
theorem read_bind_finish_after (records : List (List Field))
    (text : List Char) :
    ((start.after records).read text).bind finish =
      (parse text).map (records ++ ·) := by
  rw [read_after, parse]
  cases start.read text with
  | none => rfl
  | some s => exact finish_after records s

/-! ## Line ends -/

/-- Each special character is the only one of its kind. -/
theorem eq_of_kind_eq {d : Char} (h : kind c = kind d)
    (hd : kind d ≠ .data) : c = d := by
  unfold kind at h hd
  grind

theorem step_lineStart (h : r.step c = some s)
    (hphase : s.phase = .lineStart) :
    r.phase = .afterCR ∧ c = lf ∧ s.fields = [] ∧ s.field = [] := by
  obtain ⟨phase, action, hnext, rfl⟩ := step_eq_some h
  obtain rfl : phase = .lineStart := hphase
  obtain ⟨hcr, hlf, rfl⟩ := next_lineStart hnext
  exact ⟨hcr, eq_of_kind_eq (d := lf) hlf (by decide), rfl, rfl⟩

theorem step_afterCR (h : r.step c = some s) (hphase : s.phase = .afterCR) :
    c = cr := by
  obtain ⟨phase, action, hnext, rfl⟩ := step_eq_some h
  obtain rfl : phase = .afterCR := hphase
  exact eq_of_kind_eq (d := cr) (next_afterCR hnext) (by decide)

theorem step_lf (h : r.step lf = some s) :
    s.phase = .lineStart ∨ s.phase = .quoted := by
  obtain ⟨phase, action, hnext, rfl⟩ := step_eq_some h
  exact next_lf hnext

theorem read_concat (h : r.read (text ++ [c]) = some s) :
    ∃ u, r.read text = some u ∧ u.step c = some s := by
  rw [read_append] at h
  obtain ⟨u, hu, hs⟩ := Option.bind_eq_some_iff.mp h
  rw [read_cons] at hs
  obtain ⟨v, hv, hvs⟩ := Option.bind_eq_some_iff.mp hs
  obtain rfl := Option.some.inj hvs
  exact ⟨u, hu, hv⟩

/-- The file ends where a new line would begin. -/
def AtLineStart (text : List Char) : Prop := text = [] ∨ [cr, lf] <:+ text

instance (text : List Char) : Decidable (AtLineStart text) :=
  inferInstanceAs (Decidable (_ ∨ _))

theorem atLineStart_of_read (h : start.read text = some s)
    (hphase : s.phase = .lineStart) :
    AtLineStart text ∧ s.fields = [] ∧ s.field = [] := by
  rcases List.eq_nil_or_concat text with rfl | ⟨xs, c, rfl⟩
  · obtain rfl := Option.some.inj h
    exact ⟨Or.inl rfl, rfl, rfl⟩
  · rw [List.concat_eq_append] at h ⊢
    obtain ⟨u, hu, hs⟩ := read_concat h
    obtain ⟨hcr, rfl, hfields, hfield⟩ := step_lineStart hs hphase
    refine ⟨Or.inr ?_, hfields, hfield⟩
    rcases List.eq_nil_or_concat xs with rfl | ⟨ys, d, rfl⟩
    · obtain rfl := Option.some.inj hu
      cases hcr
    · rw [List.concat_eq_append] at hu ⊢
      obtain ⟨v, -, hv⟩ := read_concat hu
      rw [step_afterCR hv hcr, List.append_assoc]
      exact List.suffix_append ys [cr, lf]

theorem read_of_atLineStart (h : start.read text = some s)
    (hend : AtLineStart text) (hphase : s.phase ≠ .quoted) :
    s.phase = .lineStart := by
  rcases hend with rfl | ⟨xs, rfl⟩
  · obtain rfl := Option.some.inj h
    rfl
  · have hsplit : xs ++ [cr, lf] = (xs ++ [cr]) ++ [lf] := by simp
    rw [hsplit] at h
    obtain ⟨u, -, hs⟩ := read_concat h
    exact (step_lf hs).resolve_right hphase

/-- A line end ends the present record. -/
theorem read_lineEnd (hquoted : s.phase ≠ .quoted) (hcr : s.phase ≠ .afterCR)
    (rest : List Char) :
    s.read (cr :: lf :: rest) =
      (start.after (s.records ++ [s.fields ++ [s.field]])).read rest := by
  have hkcr : kind cr = .cr := rfl
  have hklf : kind lf = .lf := rfl
  rw [read_cons, step, hkcr, next_cr hquoted hcr, Option.map_some,
    Option.bind_some, read_cons, step, hklf]
  simp [next, act, after, start]

theorem parse_eq_some {records : List (List Field)}
    (h : parse text = some records) :
    ∃ s, start.read text = some s ∧ s.finish = some records ∧
      s.phase ≠ .quoted ∧ s.phase ≠ .afterCR := by
  obtain ⟨s, hs, hfin⟩ := Option.bind_eq_some_iff.mp h
  refine ⟨s, hs, hfin, fun hp => ?_, fun hp => ?_⟩
  · simp [finish, hp] at hfin
  · simp [finish, hp] at hfin

/-- A file that does not end with a line end goes on after one. -/
theorem parse_append {records : List (List Field)}
    (h : parse text = some records) (hend : ¬AtLineStart text)
    (rest : List Char) :
    parse (text ++ cr :: lf :: rest) = (parse rest).map (records ++ ·) := by
  obtain ⟨s, hs, hfin, hquoted, hcr⟩ := parse_eq_some h
  have hphase : s.phase ≠ .lineStart := fun hp =>
    hend (atLineStart_of_read hs hp).1
  have hrecords : records = s.records ++ [s.fields ++ [s.field]] := by
    cases hp : s.phase with
    | _ => simp_all [finish]
  rw [← read_bind_finish_after, hrecords, ← read_lineEnd hquoted hcr, parse,
    read_append, hs, Option.bind_some]

/-- In a file that ends with a line end, or is empty, a further one makes a
record without anything in it. -/
theorem parse_append_blank {records : List (List Field)}
    (h : parse text = some records) (hend : AtLineStart text)
    (rest : List Char) :
    parse (text ++ cr :: lf :: rest) =
      (parse rest).map ((records ++ [[[]]]) ++ ·) := by
  obtain ⟨s, hs, hfin, hquoted, hcr⟩ := parse_eq_some h
  have hphase := read_of_atLineStart hs hend hquoted
  obtain ⟨-, hfields, hfield⟩ := atLineStart_of_read hs hphase
  have hrecords : records ++ [[[]]] =
      s.records ++ [s.fields ++ [s.field]] := by
    rw [finish, hphase] at hfin
    rw [← Option.some.inj hfin, hfields, hfield]
    rfl
  rw [← read_bind_finish_after, hrecords, ← read_lineEnd hquoted hcr, parse,
    read_append, hs, Option.bind_some]

/-! ## Fields without quotes -/

/-- How many characters fields take at least, with what ends them. -/
def size (fields : List Field) : ℕ := (fields.map fun f => f.length + 1).sum

/-- How many characters the reader must have read. -/
def Reader.weight (r : Reader) : ℕ :=
  (r.records.map size).sum + size r.fields + r.field.length

theorem weight_act (c : Char) (r : Reader) (a : Action) :
    (r.act c a).weight = r.weight + if a = .skip then 0 else 1 := by
  cases a with
  | skip => rfl
  | push =>
      simp [act, weight]
      omega
  | endField =>
      simp [act, weight, size]
      omega
  | endRecord =>
      simp [act, weight, size]
      omega

/-- Outside quotes, and not within a line end. -/
def Phase.isOpen : Phase → Bool
  | .lineStart => true
  | .fieldStart => true
  | .plain => true
  | _ => false

/-- Without skipping, an open reader reads commas and data. -/
theorem next_open {p q : Phase} {k : Kind} {a : Action} (hp : p.isOpen = true)
    (h : next p k = some (q, a)) (ha : a ≠ .skip) :
    (k = .comma ∧ q = .fieldStart ∧ a = .endField) ∨
      (k = .data ∧ q = .plain ∧ a = .push) := by
  cases p with
  | _ =>
      cases k with
      | _ => simp_all [next, Phase.isOpen]

theorem weight_step_le (h : r.step c = some s) : s.weight ≤ r.weight + 1 := by
  obtain ⟨phase, action, -, rfl⟩ := step_eq_some h
  have hact := weight_act c r action
  change (r.act c action).weight ≤ r.weight + 1
  split at hact
  · omega
  · omega

theorem weight_read_le (h : r.read text = some s) :
    s.weight ≤ r.weight + text.length := by
  induction text generalizing r with
  | nil =>
      obtain rfl := Option.some.inj h
      exact Nat.le_refl _
  | cons c text ih =>
      rw [read_cons] at h
      obtain ⟨u, hu, hs⟩ := Option.bind_eq_some_iff.mp h
      have hstep := weight_step_le hu
      have hread := ih hs
      rw [List.length_cons]
      omega

/-- An open reader that has as many characters as it has read has met commas
and data only. -/
theorem read_open (hopen : r.phase.isOpen = true) (h : r.read text = some s)
    (hweight : r.weight + text.length ≤ s.weight) :
    (∀ c ∈ text, kind c = .comma ∨ kind c = .data) ∧
      s.fields.length =
        r.fields.length + text.countP fun c => kind c = .comma := by
  induction text generalizing r with
  | nil =>
      obtain rfl := Option.some.inj h
      simp
  | cons c text ih =>
      rw [read_cons] at h
      obtain ⟨u, hu, hs⟩ := Option.bind_eq_some_iff.mp h
      rw [List.length_cons] at hweight
      have hread := weight_read_le hs
      obtain ⟨phase, action, hnext, rfl⟩ := step_eq_some hu
      have hact : ({ r.act c action with phase := phase } : Reader).weight =
          r.weight + if action = .skip then 0 else 1 := weight_act c r action
      have hskip : action ≠ .skip := by
        rintro rfl
        rw [hact, if_pos rfl] at hread
        omega
      rw [if_neg hskip] at hact
      rcases next_open hopen hnext hskip with ⟨hk, rfl, rfl⟩ | ⟨hk, rfl, rfl⟩
      · obtain ⟨hall, hlen⟩ := ih rfl hs (by omega)
        refine ⟨List.forall_mem_cons.mpr ⟨Or.inl hk, hall⟩, ?_⟩
        rw [hlen, List.countP_cons_of_pos (by simpa using hk)]
        simp only [act, List.length_append, List.length_singleton]
        omega
      · obtain ⟨hall, hlen⟩ := ih rfl hs (by omega)
        refine ⟨List.forall_mem_cons.mpr ⟨Or.inr hk, hall⟩, ?_⟩
        rw [hlen, List.countP_cons_of_neg (by simp [hk])]
        rfl

/-- Data outside quotes are read as they are. -/
theorem read_plain {f : Field} (hf : Plain f) (hopen : r.phase.isOpen = true) :
    r.read f = some { r with
      field := r.field ++ f
      phase := if f = [] then r.phase else .plain } := by
  induction f generalizing r with
  | nil => simp
  | cons c f ih =>
      obtain ⟨hc, hf⟩ := List.forall_mem_cons.mp hf
      have hnext : next r.phase .data = some (.plain, .push) := by
        cases hp : r.phase with
        | _ => simp_all [next, Phase.isOpen]
      rw [read_cons, step, hc, hnext, Option.map_some, Option.bind_some,
        ih hf rfl]
      simp [act]

theorem finish_pair {a b : Field} (h : s.finish = some [[a, b]]) :
    s.records = [[a, b]] ∨
      (s.records = [] ∧ s.fields = [a] ∧ s.field = b) := by
  unfold finish at h
  have hlast : some (s.records ++ [s.fields ++ [s.field]]) = some [[a, b]] →
      s.records = [] ∧ s.fields = [a] ∧ s.field = b := by
    intro h
    rcases List.append_eq_singleton_iff.mp (Option.some.inj h) with
      ⟨hrecords, hfields⟩ | ⟨-, hfields⟩
    · have hpair : s.fields ++ [s.field] = [a] ++ [b] :=
        List.singleton_inj.mp hfields
      obtain ⟨hfields, hfield⟩ := List.append_inj' hpair rfl
      exact ⟨hrecords, hfields, List.singleton_inj.mp hfield⟩
    · cases hfields
  split at h
  · exact Or.inl (Option.some.inj h)
  · exact Or.inr (hlast h)
  · exact Or.inr (hlast h)
  · exact Or.inr (hlast h)
  · cases h
  · cases h

theorem plain_of_countP {f : Field}
    (hall : ∀ c ∈ f, kind c = .comma ∨ kind c = .data)
    (hcount : (f.countP fun c => kind c = .comma) = 0) : Plain f := by
  intro c hc
  have hnot := List.countP_eq_zero.mp hcount c hc
  exact (hall c hc).resolve_left (by simpa using hnot)

/-- A line of two fields written as they are is read back precisely if they
are plain. -/
theorem parse_pair_iff (a b : Field) :
    parse (a ++ comma :: b) = some [[a, b]] ↔ Plain a ∧ Plain b := by
  constructor
  · intro h
    obtain ⟨s, hs, hfin, -, -⟩ := parse_eq_some h
    have hle := weight_read_le hs
    have hstart : start.weight = 0 := rfl
    rw [List.length_append, List.length_cons, hstart] at hle
    rcases finish_pair hfin with hrecords | ⟨hrecords, hfields, hfield⟩
    · -- The two fields and a line end are more than has been read.
      simp only [weight, hrecords, size, List.map_cons, List.sum_cons] at hle
      omega
    · have hweight : start.weight + (a ++ comma :: b).length ≤ s.weight := by
        rw [List.length_append, List.length_cons, hstart]
        simp only [weight, hrecords, hfields, hfield, List.map_nil,
          List.sum_nil, size, List.map_singleton, List.sum_singleton]
        omega
      obtain ⟨hall, hlen⟩ := read_open rfl hs hweight
      have hone : (comma :: b).countP (fun c => kind c = .comma) =
          b.countP (fun c => kind c = .comma) + 1 :=
        List.countP_cons_of_pos (by decide)
      rw [hfields, List.length_singleton, List.countP_append, hone] at hlen
      have hstartFields : start.fields.length = 0 := rfl
      constructor
      · exact plain_of_countP
          (fun c hc => hall c (List.mem_append_left _ hc)) (by omega)
      · exact plain_of_countP
          (fun c hc => hall c (List.mem_append_right _
            (List.mem_cons_of_mem _ hc))) (by omega)
  · rintro ⟨ha, hb⟩
    have hkind : kind comma = .comma := rfl
    have hstep : ({ start with
        field := start.field ++ a
        phase := if a = [] then start.phase else .plain } : Reader).step
          comma = some ⟨[], [a], [], .fieldStart⟩ := by
      rw [step, hkind]
      by_cases h : a = []
      · simp [h, start, next, act]
      · simp [h, start, next, act]
    rw [parse, read_append, read_plain ha rfl, Option.bind_some, read_cons,
      hstep, Option.bind_some, read_plain hb rfl, Option.bind_some]
    by_cases h : b = []
    · simp [h, finish]
    · simp [h, finish]

end SelfPlugins.Csv
