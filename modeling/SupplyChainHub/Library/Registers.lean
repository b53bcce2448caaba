import Mathlib.Data.List.Basic

/-!
Versioned registers: what a row with a version column stands for. Each write stores a whole value and
counts one.
-/

structure Register (α : Type*) where
  version : Nat
  value : α

namespace Register

variable {α : Type*} (r : Register α) (a : α) (as more : List α)

def write : Register α := ⟨r.version + 1, a⟩

def writes : Register α := as.foldl write r

@[simp] theorem writes_cons : r.writes (a :: as) = (r.write a).writes as := rfl

theorem writes_append : r.writes (as ++ more) = (r.writes as).writes more := List.foldl_append

@[simp] theorem writes_version : (r.writes as).version = r.version + as.length := by
  induction as generalizing r with
  | nil => rfl
  | cons a as ih =>
    rw [writes_cons, ih, List.length_cons]
    show r.version + 1 + as.length = _
    omega

@[simp] theorem writes_value : (r.writes as).value = as.getLast?.getD r.value := by
  induction as generalizing r with
  | nil => rfl
  | cons a as ih =>
    rw [writes_cons, ih, List.getLast?_cons]
    rfl

end Register
