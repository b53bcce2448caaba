import Mathlib.Data.List.Basic
import Mathlib.Data.List.Induction

/-!
Lists worked off under the rule that the first entry of a key takes it: every entry is judged, entries
whose key came before are turned away unjudged.
-/

namespace Firsts

variable {α β κ : Type*} {key : α → κ} {xs before after : List α} {x y : α}

/-! ### The first entries of their keys -/

/-- Every entry that is the first of its key has `Q`. -/
def EachFirst (key : α → κ) (Q : α → Prop) (xs : List α) : Prop :=
  ∀ before x after, xs = before ++ x :: after → key x ∉ before.map key → Q x

theorem EachFirst.nil {Q : α → Prop} : EachFirst key Q [] := by
  intro before x after split
  exact absurd split.symm (List.append_ne_nil_of_right_ne_nil _ (List.cons_ne_nil _ _))

theorem EachFirst.imp {Q R : α → Prop} (all : EachFirst key Q xs) (imp : ∀ x, Q x → R x) : EachFirst key R xs :=
  fun before x after split fresh => imp x (all before x after split fresh)

theorem EachFirst.snoc {Q : α → Prop} (all : EachFirst key Q xs) (last : key x ∈ xs.map key ∨ Q x) :
    EachFirst key Q (xs ++ [x]) := by
  intro before y after split fresh
  rcases List.eq_nil_or_concat' after with rfl | ⟨middle, z, rfl⟩
  · obtain ⟨rfl, same⟩ := List.append_inj' split rfl
    obtain rfl := (List.cons.inj same).1
    exact last.resolve_left fresh
  · have whole : xs ++ [x] = (before ++ y :: middle) ++ [z] := by rw [split, List.append_assoc, List.cons_append]
    obtain ⟨earlier, -⟩ := List.append_inj' whole rfl
    exact all before y middle earlier fresh

theorem EachFirst.init {Q : α → Prop} (all : EachFirst key Q (xs ++ [x])) : EachFirst key Q xs := by
  intro before y after split fresh
  apply all before y (after ++ [x]) ?_ fresh
  rw [split, List.append_assoc, List.cons_append]

variable [DecidableEq κ] {p q : α → Option β} {seen other : List κ} {b : β} {k : κ}

/-! ### Taken and turned away -/

/-- The entries, each with what it was judged to be. -/
def judged (key : α → κ) (p : α → Option β) : List κ → List α → List (α × Option β)
  | _, [] => []
  | seen, x :: rest => (x, if key x ∈ seen then none else p x) :: judged key p (key x :: seen) rest

def picks (key : α → κ) (p : α → Option β) (seen : List κ) (xs : List α) : List (α × β) :=
  (judged key p seen xs).filterMap fun entry => entry.2.map (entry.1, ·)

def skips (key : α → κ) (p : α → Option β) (seen : List κ) (xs : List α) : List α :=
  (judged key p seen xs).filterMap fun entry => if entry.2.isNone then some entry.1 else none

theorem judged_cons : judged key p seen (x :: xs) =
    (x, if key x ∈ seen then none else p x) :: judged key p (key x :: seen) xs := rfl

theorem judged_append : judged key p seen (before ++ after) =
    judged key p seen before ++ judged key p ((before.map key).reverse ++ seen) after := by
  induction before generalizing seen with
  | nil => rfl
  | cons x rest ih =>
    rw [List.cons_append, judged_cons, judged_cons, ih, List.map_cons, List.reverse_cons, List.append_assoc]
    rfl

theorem judged_snoc : judged key p [] (xs ++ [x]) =
    judged key p [] xs ++ [(x, if key x ∈ xs.map key then none else p x)] := by
  rw [judged_append, judged_cons]
  simp [judged]

theorem picks_append : picks key p seen (before ++ after) =
    picks key p seen before ++ picks key p ((before.map key).reverse ++ seen) after := by
  rw [picks, judged_append, List.filterMap_append]
  rfl

theorem picks_take (fresh : key x ∉ xs.map key) (taken : p x = some b) :
    picks key p [] (xs ++ [x]) = picks key p [] xs ++ [(x, b)] := by
  rw [picks, judged_snoc, if_neg fresh, taken, List.filterMap_append]
  rfl

theorem picks_leave (left : key x ∈ xs.map key ∨ p x = none) :
    picks key p [] (xs ++ [x]) = picks key p [] xs := by
  have verdict : (if key x ∈ xs.map key then none else p x) = none := by
    rcases left with known | none
    · rw [if_pos known]
    · rw [none, ite_self]
  rw [picks, judged_snoc, verdict, List.filterMap_append]
  simp [picks]

theorem skips_take (fresh : key x ∉ xs.map key) (taken : p x = some b) :
    skips key p [] (xs ++ [x]) = skips key p [] xs := by
  rw [skips, judged_snoc, if_neg fresh, taken, List.filterMap_append]
  simp [skips]

theorem skips_leave (left : key x ∈ xs.map key ∨ p x = none) :
    skips key p [] (xs ++ [x]) = skips key p [] xs ++ [x] := by
  have verdict : (if key x ∈ xs.map key then none else p x) = none := by
    rcases left with known | none
    · rw [if_pos known]
    · rw [none, ite_self]
  rw [skips, judged_snoc, verdict, List.filterMap_append]
  rfl

theorem mem_picks (member : (x, b) ∈ picks key p seen xs) : x ∈ xs ∧ key x ∉ seen ∧ p x = some b := by
  induction xs generalizing seen with
  | nil => contradiction
  | cons y rest ih =>
    obtain ⟨⟨z, verdict⟩, found, same⟩ := List.mem_filterMap.mp member
    obtain ⟨c, chosen, pair⟩ := Option.map_eq_some_iff.mp same
    obtain ⟨rfl, rfl⟩ := Prod.mk.inj pair
    rw [judged_cons] at found
    rcases List.mem_cons.mp found with first | later
    · obtain ⟨rfl, rfl⟩ := Prod.mk.inj first
      dsimp only at chosen
      split at chosen
      · contradiction
      · rename_i fresh
        exact ⟨List.mem_cons_self, fresh, chosen⟩
    · have inside : (z, c) ∈ picks key p (key y :: seen) rest :=
        List.mem_filterMap.mpr ⟨(z, verdict), later, same⟩
      obtain ⟨present, fresh, taken⟩ := ih inside
      exact ⟨List.mem_cons_of_mem _ present, fun known => fresh (List.mem_cons_of_mem _ known), taken⟩

/-- What one judgement takes, another takes that would have it too. -/
theorem picks_judge (judges : p x = some b) (member : (x, b) ∈ picks key q seen xs) :
    (x, b) ∈ picks key p seen xs := by
  induction xs generalizing seen with
  | nil => contradiction
  | cons y rest ih =>
    have later (inside : (x, b) ∈ picks key q (key y :: seen) rest) : (x, b) ∈ picks key p seen (y :: rest) := by
      rw [picks, judged_cons, List.filterMap_cons]
      split
      · exact ih inside
      · exact List.mem_cons_of_mem _ (ih inside)
    rw [picks, judged_cons, List.filterMap_cons] at member
    split at member
    · exact later member
    · rename_i entry taken
      rcases List.mem_cons.mp member with first | inside
      · subst first
        obtain ⟨c, chosen, pair⟩ := Option.map_eq_some_iff.mp taken
        obtain ⟨rfl, rfl⟩ := Prod.mk.inj pair
        dsimp only at chosen
        split at chosen
        · contradiction
        · rename_i fresh
          rw [picks, judged_cons, if_neg fresh, judges]
          exact List.mem_cons_self
      · exact later inside

/-- Two entries of one key are not both taken. -/
theorem picks_once {c : β} (one : (x, b) ∈ picks key p seen xs) (other : (y, c) ∈ picks key q seen xs)
    (same : key x = key y) : x = y := by
  induction xs generalizing seen with
  | nil => contradiction
  | cons z rest ih =>
    have split {r : α → Option β} {w : α} {d : β} (member : (w, d) ∈ picks key r seen (z :: rest)) :
        w = z ∨ (w, d) ∈ picks key r (key z :: seen) rest := by
      rw [picks, judged_cons, List.filterMap_cons] at member
      split at member
      · exact .inr member
      · rename_i entry taken
        rcases List.mem_cons.mp member with first | later
        · subst first
          obtain ⟨e, -, pair⟩ := Option.map_eq_some_iff.mp taken
          exact .inl (Prod.mk.inj pair).1.symm
        · exact .inr later
    rcases split one with rfl | first
    · rcases split other with rfl | second
      · rfl
      · exact absurd (same ▸ List.mem_cons_self) (mem_picks second).2.1
    · rcases split other with rfl | second
      · exact absurd (same ▸ List.mem_cons_self) (mem_picks first).2.1
      · exact ih first second

/-- What is taken was the first of its key. -/
theorem EachFirst.pick {Q : α → Prop} (all : EachFirst key Q xs) (member : (x, b) ∈ picks key p [] xs) : Q x := by
  induction xs using List.reverseRecOn with
  | nil => contradiction
  | append_singleton init y ih =>
    by_cases left : key y ∈ init.map key ∨ p y = none
    · rw [picks_leave left] at member
      exact ih all.init member
    · obtain ⟨fresh, taken⟩ := not_or.mp left
      obtain ⟨c, taken⟩ := Option.ne_none_iff_exists'.mp taken
      rw [picks_take fresh taken] at member
      rcases List.mem_append.mp member with old | new
      · exact ih all.init old
      · obtain ⟨rfl, -⟩ := Prod.mk.inj (List.mem_singleton.mp new)
        exact all init x [] rfl fresh

/-- Two judgements that agree where the first takes an entry, and where it takes none. -/
theorem judged_congr (kept : ∀ x b, (x, b) ∈ picks key p seen xs → q x = some b)
    (none : ∀ x ∈ xs, p x = none → q x = none) : judged key q seen xs = judged key p seen xs := by
  induction xs generalizing seen with
  | nil => rfl
  | cons x rest ih =>
    have verdict : (if key x ∈ seen then Option.none else q x) = if key x ∈ seen then Option.none else p x := by
      split
      · rfl
      · rename_i fresh
        cases taken : p x with
        | none => exact none x List.mem_cons_self taken
        | some b =>
          apply kept
          rw [picks, judged_cons, if_neg fresh, taken]
          exact List.mem_cons_self
    rw [judged_cons, judged_cons, verdict, ih]
    · intro y c member
      apply kept
      rw [picks, judged_cons, List.filterMap_cons]
      split
      · exact member
      · exact List.mem_cons_of_mem _ member
    · intro y member
      exact none y (List.mem_cons_of_mem _ member)

/-- When no first entry of its key would be taken, none is. -/
theorem none_taken (all : EachFirst key (fun x => p x = none) xs) :
    picks key p [] xs = [] ∧ skips key p [] xs = xs := by
  induction xs using List.reverseRecOn with
  | nil => exact ⟨rfl, rfl⟩
  | append_singleton init x ih =>
    have left : key x ∈ init.map key ∨ p x = none := by
      by_cases known : key x ∈ init.map key
      · exact .inl known
      · exact .inr (all init x [] rfl known)
    obtain ⟨taken, skipped⟩ := ih all.init
    rw [picks_leave left, skips_leave left, taken, skipped]
    exact ⟨rfl, rfl⟩

/-! ### Leaving one entry out -/

/-- No entry that would be taken comes second under a key whose first entry is not taken. -/
def NoMask (key : α → κ) (p : α → Option β) (xs : List α) : Prop :=
  ∀ before x after, xs = before ++ x :: after → key x ∉ before.map key → p x = none →
    ∀ y, after.find? (fun z => key z = key x) = some y → p y = none

theorem NoMask.single : NoMask key p [x] := by
  intro before z after split _ _ y first
  have last : after = [] := by
    cases before with
    | nil => exact (List.cons.inj split).2.symm
    | cons head rest =>
      have tail := (List.cons.inj split).2
      exact absurd tail.symm (List.append_ne_nil_of_right_ne_nil _ (List.cons_ne_nil _ _))
  rw [last] at first
  contradiction

theorem picks_first (fresh : k ∉ seen) (first : xs.find? (fun z => key z = k) = some y) (taken : p y = some b) :
    (y, b) ∈ picks key p seen xs := by
  induction xs generalizing seen with
  | nil => contradiction
  | cons x rest ih =>
    rw [picks, judged_cons, List.filterMap_cons]
    by_cases mine : key x = k
    · have same : x = y := by simpa [mine] using first
      subst same
      rw [if_neg (mine ▸ fresh), taken]
      exact List.mem_cons_self
    · have later : rest.find? (fun z => key z = k) = some y := by simpa [mine] using first
      have unseen : k ∉ key x :: seen := by simp [Ne.symm mine, fresh]
      have member := ih unseen later
      split
      · exact member
      · exact List.mem_cons_of_mem _ member

end Firsts
