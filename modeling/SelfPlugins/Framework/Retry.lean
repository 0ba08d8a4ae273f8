import Mathlib.Data.Nat.Notation
import Mathlib.Tactic.ByContra
import SelfPlugins.Framework.WebClient

/-!
# Reconnecting inside of `Send()`

A plugin that reconnects answers losses of its connection in turn: the first
arms a timer, the next one resets it and calls `Send()` again.  `Send()` may
report losses before it returns, and its failure counts as one, so that the
calls nest.

`Settles` drives such a machine with a given behaviour of the calls of `Send()`
until all of them have returned.  Since every second loss brings another call,
the recursion ends precisely when, for some `k`, the first `k` calls bring fewer
than `2 * k` losses (`ends_iff`).
-/

namespace SelfPlugins

namespace SendOutcome

/-- The losses a call brings: those it reports, and its failure. -/
def losses (o : SendOutcome) : ℕ := o.notified.length + if o.ok then 0 else 1

/-- Only losses are reported, and the client is left as the result says. -/
structure Lawful (o : SendOutcome) : Prop where
  notified : ∀ st ∈ o.notified, st.isDown = true
  succeeded : o.ok = true → o.after.isOpen = true
  failed : o.ok = false → o.after.isDown = true

end SendOutcome

namespace Retry

/-- What each call of `Send()` does, in the order in which they are made. -/
structure Behaviour where
  outcome : ℕ → SendOutcome
  lawful : ∀ i, (outcome i).Lawful

/-- A machine that is told what the innermost call of `Send()` reports and
returns; `calls` is the number of the calls in progress. -/
structure Machine (σ : Type*) where
  notifies : ClientState → σ → Option σ
  returns : Bool → ClientState → σ → Option σ
  calls : σ → ℕ

/-- The number of calls made, and what is left of those in progress, the
innermost first. -/
structure Config (σ : Type*) where
  made : ℕ
  stack : List SendOutcome
  state : σ

section

variable {σ : Type*} (M : Machine σ) (b : Behaviour)

/-- A call that has begun behaves as the next outcome. -/
def enter (made : ℕ) (stack : List SendOutcome) (s : σ) : Config σ :=
  if stack.length < M.calls s then ⟨made + 1, b.outcome made :: stack, s⟩
  else ⟨made, stack, s⟩

/-- The innermost call reports a state, or returns. -/
def advance (c : Config σ) : Option (Config σ) :=
  match c.stack with
  | [] => none
  | ⟨st :: notified, ok, after⟩ :: stack =>
      (M.notifies st c.state).map
        (enter M b c.made (⟨notified, ok, after⟩ :: stack))
  | ⟨[], ok, after⟩ :: stack =>
      (M.returns ok after c.state).map (enter M b c.made stack)

/-- Go on until no call is in progress. -/
def drive (fuel : ℕ) (c : Config σ) : Option (Config σ) :=
  if c.stack = [] then some c
  else
    match fuel with
    | 0 => none
    | fuel + 1 => (advance M b c).bind (drive fuel)

/-- The recursion entered in `s` ends in `t`, after `k` calls of `Send()`. -/
def Settles (s : σ) (k : ℕ) (t : σ) : Prop :=
  ∃ fuel, drive M b fuel (enter M b 0 [] s) = some ⟨k, [], t⟩

/-- The recursion ends, and then a timer is armed or the last call of `Send()`
has succeeded. -/
def Ends (armed : σ → Prop) (s : σ) : Prop :=
  ∃ k t, Settles M b s k t ∧
    (armed t ∨ 1 ≤ k ∧ (b.outcome (k - 1)).ok = true)

/-- The losses the first `k` calls bring. -/
def load : ℕ → ℕ
  | 0 => 0
  | k + 1 => load k + (b.outcome k).losses

/-- For some `k`, the first `k` calls bring fewer than `2 * k` losses. -/
def Subsides : Prop := ∃ k, 1 ≤ k ∧ load b k < 2 * k

end

variable {σ : Type*} {M : Machine σ} {b : Behaviour}

/-- `R a n` holds of the states with `n` calls in progress in which the timer is
armed, if `a`, and reset otherwise.  Losses arm the timer and call `Send()` in
turn; a call that succeeds changes nothing. -/
structure Toggles (M : Machine σ) (R : Bool → ℕ → σ → Prop) : Prop where
  calls : ∀ {a n s}, R a n s → M.calls s = n
  notifies : ∀ {a n s st}, R a (n + 1) s → st.isDown = true →
    ∃ t, M.notifies st s = some t ∧ R (!a) (n + 1 + a.toNat) t
  fails : ∀ {a n s st}, R a (n + 1) s → st.isDown = true →
    ∃ t, M.returns false st s = some t ∧ R (!a) (n + a.toNat) t
  succeeds : ∀ {a n s st}, R a (n + 1) s → st.isOpen = true →
    ∃ t, M.returns true st s = some t ∧ R a n t

/-! ## Counting losses -/

/-- The losses that are still to come from the calls in progress. -/
def pending : List SendOutcome → ℕ
  | [] => 0
  | o :: stack => o.losses + pending stack

/-- Each loss so far has armed the timer or led to a call. -/
structure Counted (b : Behaviour) (R : Bool → ℕ → σ → Prop)
    (c : Config σ) : Prop where
  count : ∃ a : Bool, R a c.stack.length c.state ∧
    load b c.made + 2 = pending c.stack + 2 * c.made + a.toNat
  busy : ∀ j, 1 ≤ j → j < c.made → 2 * j ≤ load b j
  made : 1 ≤ c.made
  lawful : ∀ o ∈ c.stack, o.Lawful

variable {R : Bool → ℕ → σ → Prop}

theorem enter_eq {made n : ℕ} {stack : List SendOutcome} {a : Bool} {s : σ}
    (hM : Toggles M R) (hR : R a n s) (hn : n ≤ stack.length) :
    enter M b made stack s = ⟨made, stack, s⟩ := by
  have hcalls : ¬stack.length < M.calls s := by
    rw [hM.calls hR]
    omega
  rw [enter, if_neg hcalls]

theorem enter_call {made : ℕ} {stack : List SendOutcome} {a : Bool} {s : σ}
    (hM : Toggles M R) (hR : R a (stack.length + 1) s) :
    enter M b made stack s = ⟨made + 1, b.outcome made :: stack, s⟩ := by
  have hcalls : stack.length < M.calls s := by
    rw [hM.calls hR]
    omega
  rw [enter, if_pos hcalls]

/-- The first call is made. -/
theorem counted_start {s : σ} (hM : Toggles M R)
    (hR : R false 1 s) :
    Counted b R (enter M b 0 [] s) := by
  rw [enter_call hM hR]
  exact {
    count := ⟨false, hR, by simp [load, pending]⟩
    busy := fun j hj hlt => by
      change j < 1 at hlt
      omega
    made := Nat.le_refl 1
    lawful := fun o ho => List.mem_singleton.mp ho ▸ b.lawful 0 }

/-- A loss is handled: `stack` is left of the calls that were in progress, and
another one has begun if the timer was armed. -/
theorem Counted.loss {c : Config σ} {stack : List SendOutcome} {a : Bool}
    {t : σ} (hM : Toggles M R) (hc : Counted b R c)
    (hlawful : ∀ o ∈ stack, o.Lawful)
    (hcount : load b c.made + 2 = pending stack + 1 + 2 * c.made + a.toNat)
    (hR : R (!a) (stack.length + a.toNat) t) :
    Counted b R (enter M b c.made stack t) := by
  cases a with
  | false =>
      rw [enter_eq hM hR (Nat.le_refl _)]
      refine ⟨⟨true, hR, ?_⟩, hc.busy, hc.made, hlawful⟩
      simp only [Bool.toNat_false, Bool.toNat_true] at hcount ⊢
      omega
  | true =>
      simp only [Bool.toNat_true] at hcount
      rw [enter_call hM hR]
      refine ⟨⟨false, hR, ?_⟩, ?_, Nat.le_add_left 1 _, ?_⟩
      · simp only [load, pending, Bool.toNat_false] at hcount ⊢
        omega
      · intro j hj hlt
        change j < c.made + 1 at hlt
        by_cases hlast : j = c.made
        · subst hlast
          omega
        · exact hc.busy j hj (by omega)
      · intro o ho
        rcases List.mem_cons.mp ho with rfl | ho
        · exact b.lawful c.made
        · exact hlawful o ho

/-- A step of the recursion handles a loss, or a call succeeds. -/
theorem Counted.advance {c : Config σ} (hM : Toggles M R)
    (hc : Counted b R c) (hstack : c.stack ≠ []) :
    ∃ d, advance M b c = some d ∧ Counted b R d := by
  obtain ⟨made, stack, s⟩ := c
  obtain ⟨a, hR, hcount⟩ := hc.count
  cases stack with
  | nil => exact absurd rfl hstack
  | cons o stack =>
      obtain ⟨notified, ok, after⟩ := o
      have ho := hc.lawful _ List.mem_cons_self
      have hrest : ∀ o ∈ stack, o.Lawful := fun o ho =>
        hc.lawful o (List.mem_cons_of_mem _ ho)
      simp only [pending, SendOutcome.losses] at hcount
      cases notified with
      | cons st notified =>
          obtain ⟨t, ht, hR'⟩ :=
            hM.notifies hR (ho.notified st List.mem_cons_self)
          refine ⟨enter M b made (⟨notified, ok, after⟩ :: stack) t, ?_, ?_⟩
          · simp only [Retry.advance, ht, Option.map_some]
          · apply hc.loss (a := a) hM
            · intro o' ho'
              rcases List.mem_cons.mp ho' with rfl | ho'
              · exact ⟨fun st' hst' =>
                  ho.notified st' (List.mem_cons_of_mem _ hst'),
                  ho.succeeded, ho.failed⟩
              · exact hrest o' ho'
            · simp only [pending, SendOutcome.losses, List.length_cons]
                at hcount ⊢
              omega
            · exact hR'
      | nil =>
          cases ok with
          | true =>
              obtain ⟨t, ht, hR'⟩ := hM.succeeds hR (ho.succeeded rfl)
              refine ⟨⟨made, stack, t⟩, ?_, ?_⟩
              · simp only [Retry.advance, ht, Option.map_some,
                  enter_eq hM hR' (Nat.le_refl _)]
              · refine ⟨⟨a, hR', ?_⟩, hc.busy, hc.made, hrest⟩
                simpa [pending] using hcount
          | false =>
              obtain ⟨t, ht, hR'⟩ := hM.fails hR (ho.failed rfl)
              refine ⟨enter M b made stack t, ?_, ?_⟩
              · simp only [Retry.advance, ht, Option.map_some]
              · apply hc.loss hM hrest _ hR'
                simp only [List.length_nil, Bool.false_eq_true, if_false]
                  at hcount ⊢
                omega

theorem Counted.drive {c d : Config σ} {fuel : ℕ} (hM : Toggles M R)
    (hc : Counted b R c)
    (hd : drive M b fuel c = some d) : Counted b R d ∧ d.stack = [] := by
  induction fuel generalizing c with
  | zero =>
      rw [Retry.drive] at hd
      split at hd
      · rename_i hstack
        exact Option.some.inj hd ▸ ⟨hc, hstack⟩
      · cases hd
  | succ fuel ih =>
      rw [Retry.drive] at hd
      split at hd
      · rename_i hstack
        exact Option.some.inj hd ▸ ⟨hc, hstack⟩
      · rename_i hstack
        obtain ⟨e, he, hcounted⟩ := hc.advance hM hstack
        simp only [he, Option.bind_some] at hd
        exact ih hcounted hd

/-! ## Termination -/

/-- The steps that are left of the calls in progress. -/
def effort : List SendOutcome → ℕ
  | [] => 0
  | o :: stack => o.notified.length + 1 + effort stack

/-- The steps of the first `k` calls. -/
def work (b : Behaviour) : ℕ → ℕ
  | 0 => 0
  | k + 1 => work b k + ((b.outcome k).notified.length + 1)

theorem work_le {j k : ℕ} (h : j ≤ k) : work b j ≤ work b k := by
  induction h with
  | refl => exact Nat.le_refl _
  | step _ ih =>
      rw [work]
      omega

theorem effort_enter (made : ℕ) (stack : List SendOutcome) (s : σ) :
    effort (enter M b made stack s).stack + work b made =
      effort stack + work b (enter M b made stack s).made := by
  rw [enter]
  split
  · simp only [effort, work]
    omega
  · rfl

/-- Each step is one of those that were left. -/
theorem effort_advance {c d : Config σ} (h : advance M b c = some d) :
    effort d.stack + 1 + work b c.made =
      effort c.stack + work b d.made := by
  rw [Retry.advance] at h
  split at h
  · cases h
  · rename_i st notified ok after stack hstack
    obtain ⟨t, -, rfl⟩ := Option.map_eq_some_iff.mp h
    have henter := effort_enter (M := M) (b := b) c.made
      (⟨notified, ok, after⟩ :: stack) t
    rw [hstack]
    simp only [effort, List.length_cons] at henter ⊢
    omega
  · rename_i ok after stack hstack
    obtain ⟨t, -, rfl⟩ := Option.map_eq_some_iff.mp h
    have henter := effort_enter (M := M) (b := b) c.made stack t
    rw [hstack]
    simp only [effort, List.length_nil] at henter ⊢
    omega

/-- When the first `k` calls bring fewer than `2 * k` losses, there is no
other call. -/
theorem Counted.made_le {c : Config σ} (hc : Counted b R c) {k : ℕ}
    (hk : 1 ≤ k) (hload : load b k < 2 * k) : c.made ≤ k := by
  apply Nat.le_of_not_lt
  intro hlt
  exact absurd hload (Nat.not_lt.mpr (hc.busy k hk hlt))

theorem Counted.ends {c : Config σ} {k fuel : ℕ} (hM : Toggles M R)
    (hc : Counted b R c) (hk : 1 ≤ k)
    (hload : load b k < 2 * k)
    (hfuel : work b k + effort c.stack ≤ work b c.made + fuel) :
    ∃ d, Retry.drive M b fuel c = some d := by
  induction fuel generalizing c with
  | zero =>
      have hmade : work b c.made ≤ work b k :=
        work_le (hc.made_le hk hload)
      have hstack : c.stack = [] := by
        cases hcs : c.stack with
        | nil => rfl
        | cons o stack =>
            rw [hcs] at hfuel
            simp only [effort] at hfuel
            omega
      refine ⟨c, ?_⟩
      rw [Retry.drive, if_pos hstack]
  | succ fuel ih =>
      by_cases hstack : c.stack = []
      · refine ⟨c, ?_⟩
        rw [Retry.drive, if_pos hstack]
      · obtain ⟨d, hd, hcounted⟩ := hc.advance hM hstack
        have heffort := effort_advance hd
        obtain ⟨e, he⟩ := ih hcounted (by omega)
        refine ⟨e, ?_⟩
        rw [Retry.drive, if_neg hstack, hd]
        exact he

/-! ## The end -/

/-- When the recursion ends with the timer reset, the last call has brought no
loss. -/
theorem Counted.last {k : ℕ} {t : σ} (hc : Counted b R ⟨k, [], t⟩)
    (hcount : load b k + 2 = 2 * k) : (b.outcome (k - 1)).ok = true := by
  obtain ⟨n, rfl⟩ : ∃ n, k = n + 1 := ⟨k - 1, (Nat.sub_add_cancel hc.made).symm⟩
  have hbusy : 2 * n ≤ load b n := by
    by_cases hn : 1 ≤ n
    · exact hc.busy n hn (Nat.lt_succ_self n)
    · omega
  have hlosses : (b.outcome n).losses = 0 := by
    rw [load] at hcount
    omega
  rw [Nat.add_sub_cancel]
  by_contra hfailed
  rw [SendOutcome.losses, if_neg hfailed] at hlosses
  cases hlosses

/-- The recursion ends if and only if the behaviour subsides, and then a timer
is armed or the last call has succeeded. -/
theorem ends_iff {armed : σ → Prop} {s : σ} (hM : Toggles M R)
    (harmed : ∀ t, R true 0 t → armed t)
    (hs : R false 1 s) : Ends M b armed s ↔ Subsides b := by
  have hstart : Counted b R (enter M b 0 [] s) := counted_start hM hs
  constructor
  · rintro ⟨k, t, ⟨fuel, hfuel⟩, -⟩
    obtain ⟨hend, -⟩ := hstart.drive hM hfuel
    obtain ⟨a, -, hcount⟩ := hend.count
    have ha : a.toNat ≤ 1 := a.toNat_le
    refine ⟨k, hend.made, ?_⟩
    simp only [pending] at hcount
    omega
  · rintro ⟨k, hk, hload⟩
    obtain ⟨d, hd⟩ := hstart.ends hM hk hload (Nat.le_add_left _ _)
    obtain ⟨hend, hstack⟩ := hstart.drive hM hd
    obtain ⟨made, stack, t⟩ := d
    obtain rfl : stack = [] := hstack
    refine ⟨made, t, ⟨_, hd⟩, ?_⟩
    obtain ⟨a, hR, hcount⟩ := hend.count
    by_cases ha : a = true
    · subst ha
      exact Or.inl (harmed t hR)
    · refine Or.inr ⟨hend.made, ?_⟩
      apply hend.last
      rw [Bool.eq_false_iff.mpr ha] at hcount
      simpa [pending] using hcount

/-- Where no call is made and no timer is armed, the recursion ends with
neither. -/
theorem not_ends_of_idle {armed : σ → Prop} {s : σ} (hs : M.calls s = 0)
    (harmed : ¬armed s) : ¬Ends M b armed s := by
  rintro ⟨k, t, ⟨fuel, hfuel⟩, hend⟩
  have hcalls : ¬([] : List SendOutcome).length < M.calls s := by
    rw [hs]
    exact Nat.lt_irrefl 0
  rw [enter, if_neg hcalls, drive.eq_def, if_pos rfl] at hfuel
  obtain ⟨rfl, -, rfl⟩ := Config.mk.inj (Option.some.inj hfuel)
  rcases hend with h | ⟨h, -⟩
  · exact harmed h
  · exact absurd h (by decide)

end Retry

end SelfPlugins
