import Mathlib.Data.List.Basic

/-!
Partial automata, `next : σ → α → Except ε σ`, and the logs they accept: those whose entries, in
order, are all moves.
-/

namespace Automaton

variable {σ α ε : Type*} {next : σ → α → Except ε σ} {s t u : σ} {a : α} {log before after : List α}

/-- The state a log leads to, or the error of its first entry that is no move. -/
def fold (next : σ → α → Except ε σ) (s : σ) (log : List α) : Except ε σ := log.foldlM next s

theorem fold_append (more : List α) : fold next s (log ++ more) = (fold next s log).bind (fold next · more) :=
  List.foldlM_append

theorem fold_cons_ok (h : fold next s (a :: log) = .ok t) : ∃ u, next s a = .ok u ∧ fold next u log = .ok t := by
  rw [fold, List.foldlM_cons] at h
  cases first : next s a with
  | error e =>
    rw [first] at h
    cases h
  | ok u =>
    rw [first] at h
    exact ⟨u, rfl, h⟩

theorem fold_append_ok (h : fold next s (before ++ after) = .ok t) :
    ∃ u, fold next s before = .ok u ∧ fold next u after = .ok t := by
  rw [fold_append] at h
  cases first : fold next s before with
  | error e =>
    rw [first] at h
    cases h
  | ok u =>
    rw [first] at h
    exact ⟨u, rfl, h⟩

theorem fold_snoc (h : fold next s log = .ok t) : fold next s (log ++ [a]) = next t a := by
  rw [fold_append, h]
  show (next t a).bind Except.ok = next t a
  cases next t a <;> rfl

def Dead (next : σ → α → Except ε σ) (s : σ) : Prop := ∀ a t, next s a ≠ .ok t

theorem fold_dead (dead : Dead next s) (h : fold next s log = .ok t) : log = [] := by
  cases log with
  | nil => rfl
  | cons a rest =>
    obtain ⟨u, first, -⟩ := fold_cons_ok h
    exact absurd first (dead a u)

theorem dead_last (stops : ∀ s t, next s a = .ok t → Dead next t)
    (h : fold next s (before ++ a :: after) = .ok t) : after = [] := by
  obtain ⟨u, -, rest⟩ := fold_append_ok h
  obtain ⟨v, moved, later⟩ := fold_cons_ok rest
  exact fold_dead (stops u v moved) later

end Automaton
