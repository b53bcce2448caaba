import Mathlib.Data.Option.Basic

/-!
Labelled machines, as `move : σ → ι → Option σ`, and their runs.

A run carries a guard on its steps: a property of the state a step starts from and of its label.
With the guard `unguarded` it is any run at all.
-/

namespace Machine

variable {σ ι : Type*}

def unguarded : σ → ι → Prop := fun _ _ => True

inductive Run (move : σ → ι → Option σ) (guard : σ → ι → Prop) : σ → σ → Prop where
  | refl (s : σ) : Run move guard s s
  | tail {s t u : σ} {l : ι} (run : Run move guard s t) (met : guard t l)
      (next : move t l = some u) : Run move guard s u

section
variable {move : σ → ι → Option σ} {guard weaker : σ → ι → Prop} {s t u : σ}

theorem Run.single {l : ι} (met : guard s l) (next : move s l = some t) : Run move guard s t :=
  .tail (.refl s) met next

theorem Run.trans (first : Run move guard s t) (second : Run move guard t u) :
    Run move guard s u := by
  induction second with
  | refl => exact first
  | tail _ met next ih => exact .tail ih met next

theorem Run.weaken (imp : ∀ s l, guard s l → weaker s l) (run : Run move guard s t) :
    Run move weaker s t := by
  induction run with
  | refl => exact .refl _
  | tail _ met next ih => exact .tail ih (imp _ _ met) next

theorem Run.free (run : Run move guard s t) : Run move unguarded s t :=
  run.weaken fun _ _ _ => trivial

/-- What one guarded step keeps, a whole run keeps. -/
theorem Run.invariant {P : σ → Prop}
    (keep : ∀ s l t, P s → guard s l → move s l = some t → P t)
    (run : Run move guard s t) (start : P s) : P t := by
  induction run with
  | refl => exact start
  | tail _ met next ih => exact keep _ _ _ ih met next

end

/-- A run from `s` to `t` that makes the step `l` from `u` to `v` on its way. -/
structure Through (move : σ → ι → Option σ) (guard : σ → ι → Prop) (s u : σ) (l : ι) (v t : σ) : Prop where
  before : Run move guard s u
  met : guard u l
  next : move u l = some v
  after : Run move guard v t

/-- The states a machine reaches from its initial ones. -/
def Reachable (move : σ → ι → Option σ) (initial : σ → Prop) (t : σ) : Prop :=
  ∃ s, initial s ∧ Run move unguarded s t

section
variable {move : σ → ι → Option σ} {guard : σ → ι → Prop} {initial : σ → Prop} {s t : σ}

theorem Reachable.start (h : initial s) : Reachable move initial s := ⟨s, h, .refl s⟩

theorem Reachable.run (reached : Reachable move initial s) (run : Run move guard s t) :
    Reachable move initial t := by
  obtain ⟨origin, starts, before⟩ := reached
  exact ⟨origin, starts, before.trans run.free⟩

theorem Reachable.step {l : ι} (reached : Reachable move initial s) (next : move s l = some t) :
    Reachable move initial t := by
  have once : Run move unguarded s t := .single trivial next
  exact reached.run once

theorem Reachable.invariant {P : σ → Prop} (begins : ∀ s, initial s → P s)
    (keep : ∀ s l t, P s → move s l = some t → P t)
    (reached : Reachable move initial t) : P t := by
  obtain ⟨origin, starts, run⟩ := reached
  exact run.invariant (fun s l t h _ next => keep s l t h next) (begins origin starts)

/-- A guarded run may use whatever holds of every reachable state. -/
theorem Run.invariant_reachable {P : σ → Prop}
    (keep : ∀ s l t, Reachable move initial s → P s → guard s l → move s l = some t → P t)
    (run : Run move guard s t) (reached : Reachable move initial s) (start : P s) : P t := by
  have both : Reachable move initial t ∧ P t := by
    refine run.invariant (P := fun s => Reachable move initial s ∧ P s) ?_ ⟨reached, start⟩
    rintro s l t ⟨reached, holds⟩ met next
    exact ⟨reached.step next, keep s l t reached holds met next⟩
  exact both.2

end

section
variable {move : σ → ι → Option σ} {guard strong : σ → ι → Prop} {initial : σ → Prop} {s t : σ}

/-- A run under another guard is a guarded run too, when the other guard implies this one wherever
guarded runs lead. -/
theorem Run.strengthen {P : σ → Prop} (carries : ∀ t, Run move guard s t → P t)
    (exact : ∀ t l u, Reachable move initial t → P t → strong t l → move t l = some u → guard t l)
    (reached : Reachable move initial s) (run : Run move strong s t) : Run move guard s t := by
  induction run with
  | refl => exact .refl s
  | @tail t u l _ met next ih =>
    have holds := exact t l u (reached.run ih) (carries t ih) met next
    exact ih.tail holds next

end

/-! ### Counting steps -/

/-- A guarded run of which `n` steps are of a kind. -/
inductive Tally (move : σ → ι → Option σ) (guard : σ → ι → Prop) (kind : σ → ι → Bool) :
    σ → Nat → σ → Prop where
  | refl (s : σ) : Tally move guard kind s 0 s
  | tail {s t u : σ} {n : Nat} {l : ι} (tally : Tally move guard kind s n t) (met : guard t l)
      (next : move t l = some u) : Tally move guard kind s (n + (kind t l).toNat) u

section
variable {move : σ → ι → Option σ} {guard : σ → ι → Prop} {kind : σ → ι → Bool}
    {initial : σ → Prop} {s t : σ} {n : Nat}

theorem Tally.run (tally : Tally move guard kind s n t) : Run move guard s t := by
  induction tally with
  | refl => exact .refl _
  | tail _ met next ih => exact .tail ih met next

/-- A measure that every step keeps or raises, and a step of the kind raises, bounds their number. -/
theorem Tally.bound {m : σ → Nat}
    (raises : ∀ s l t, Reachable move initial s → guard s l → move s l = some t →
      m s + (kind s l).toNat ≤ m t)
    (tally : Tally move guard kind s n t) (reached : Reachable move initial s) : m s + n ≤ m t := by
  induction tally with
  | refl => simp
  | @tail t u n l before met next ih =>
    have step := raises t l u (reached.run before.run) met next
    omega

end

/-! ### Rounds -/

/-- `n` rounds, one after the other. -/
inductive Rounds (round : σ → σ → Prop) : Nat → σ → σ → Prop where
  | nil (s : σ) : Rounds round 0 s s
  | cons {s t u : σ} {n : Nat} (first : round s t) (rest : Rounds round n t u) : Rounds round (n + 1) s u

/-- Some run from `s` to `u` leads through a state with `P`. -/
def Passes (move : σ → ι → Option σ) (P : σ → Prop) (s u : σ) : Prop :=
  ∃ t, Run move unguarded s t ∧ P t ∧ Run move unguarded t u

section
variable {move : σ → ι → Option σ} {P Q : σ → Prop} {round : σ → σ → Prop} {s t u : σ} {n : Nat}

theorem Passes.later (passes : Passes move P s t) (run : Run move unguarded t u) : Passes move P s u := by
  obtain ⟨mid, before, holds, after⟩ := passes
  exact ⟨mid, before, holds, after.trans run⟩

theorem Passes.earlier (run : Run move unguarded s t) (passes : Passes move P t u) : Passes move P s u := by
  obtain ⟨mid, before, holds, after⟩ := passes
  exact ⟨mid, run.trans before, holds, after⟩

theorem Rounds.run (runs : ∀ s t, round s t → Run move unguarded s t) (rounds : Rounds round n s t) :
    Run move unguarded s t := by
  induction rounds with
  | nil => exact .refl _
  | cons first _ ih => exact (runs _ _ first).trans ih

/-- If every round leads through `P` or lowers a measure, more rounds than the measure lead through `P`. -/
theorem Rounds.passes {m : σ → Nat} (runs : ∀ s t, round s t → Run move unguarded s t)
    (keeps : ∀ s t, Q s → round s t → Q t)
    (progress : ∀ s t, Q s → round s t → Passes move P s t ∨ m t < m s)
    (rounds : Rounds round n s u) (start : Q s) (enough : m s < n) : Passes move P s u := by
  induction rounds with
  | nil => omega
  | @cons s t u n first rest ih =>
    rcases progress s t start first with passes | lower
    · exact passes.later (rest.run runs)
    · exact .earlier (runs s t first) (ih (keeps s t start first) (by omega))

end

/-- The state a list of labels leads to, when every one of them is enabled. -/
def exec (move : σ → ι → Option σ) : σ → List ι → Option σ
  | s, [] => some s
  | s, l :: rest => (move s l).bind (exec move · rest)

theorem exec_run {move : σ → ι → Option σ} {guard : σ → ι → Prop} {s t : σ} {labels : List ι}
    (met : ∀ l ∈ labels, ∀ s, guard s l) (h : exec move s labels = some t) : Run move guard s t := by
  induction labels generalizing s with
  | nil =>
    obtain rfl := Option.some.inj h
    exact .refl _
  | cons l rest ih =>
    obtain ⟨u, next, tail⟩ := Option.bind_eq_some_iff.mp h
    have first := met l List.mem_cons_self s
    exact (Run.single first next).trans (ih (fun l member => met l (List.mem_cons_of_mem _ member)) tail)

/-- The machine that makes only the moves a check lets through. -/
def checked (move : σ → ι → Option σ) (check : σ → ι → Bool) (s : σ) (l : ι) : Option σ :=
  if check s l then move s l else none

/-- A guard that a check decides is checked while the labels are executed. -/
theorem exec_run_checked {move : σ → ι → Option σ} {guard : σ → ι → Prop} {check : σ → ι → Bool} {s t : σ}
    {labels : List ι} (sound : ∀ s l, check s l = true → guard s l)
    (h : exec (checked move check) s labels = some t) : Run move guard s t := by
  induction labels generalizing s with
  | nil =>
    obtain rfl := Option.some.inj h
    exact .refl _
  | cons l rest ih =>
    obtain ⟨u, next, tail⟩ := Option.bind_eq_some_iff.mp h
    unfold checked at next
    split at next
    · rename_i met
      exact (Run.single (sound s l met) next).trans (ih tail)
    · cases next

end Machine
