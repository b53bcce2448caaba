import Mathlib.Data.List.Sort
import Mathlib.Tactic.Common

/-!
Listings that come in truncated responses, each with a token to ask on with, while keys are added and removed. The
position a token stands for only moves forward, so that what is there all the time is in exactly one response.
-/

namespace Continuations

variable {κ τ ε : Type*}

structure Response (κ τ : Type*) where
  contents : List κ
  /-- The token, if the response is truncated. -/
  next : Option τ

/-- The client's loop. What it is answered depends on when it asks. -/
def collect (ask : Nat → Option τ → Except ε (Response κ τ)) :
    (fuel round : Nat) → Option τ → List κ → Option (Except ε (List κ))
  | 0, _, _, _ => none
  | fuel + 1, round, token, keys =>
    match ask round token with
    | .error e => some (.error e)
    | .ok response =>
      let keys := keys ++ response.contents
      match response.next with
      | none => some (.ok keys)
      | some token => collect ask fuel (round + 1) (some token) keys

variable [LinearOrder κ]

def Passed (position : τ → κ) (token : Option τ) (k : κ) : Prop := ∀ t ∈ token, position t < k

/-- The keys there are beyond the token, in their order, up to the last one in the response. -/
structure Serves (present : Nat → κ → Prop) (position : τ → κ) (ask : Nat → Option τ → Except ε (Response κ τ)) :
    Prop where
  sorted : ∀ {n token r}, ask n token = .ok r → r.contents.Pairwise (· < ·)
  contents : ∀ {n token r}, ask n token = .ok r → ∀ k, k ∈ r.contents ↔
    present n k ∧ Passed position token k ∧ ∀ t ∈ r.next, k ≤ position t
  forward : ∀ {n token r}, ask n token = .ok r → ∀ t ∈ r.next, position t ∈ r.contents

section
variable {present : Nat → κ → Prop} {position : τ → κ} {ask : Nat → Option τ → Except ε (Response κ τ)}
  {fuel round : Nat} {token : Option τ} {keys got : List κ}

/-- What a listing that ends has added to the keys it had. -/
structure Gathered (present : Nat → κ → Prop) (position : τ → κ) (fuel round : Nat) (token : Option τ)
    (more : List κ) : Prop where
  sorted : more.Pairwise (· < ·)
  passed : ∀ k ∈ more, Passed position token k
  sound : ∀ k ∈ more, ∃ n, round ≤ n ∧ n < round + fuel ∧ present n k
  complete : ∀ k, Passed position token k → (∀ n, round ≤ n → n < round + fuel → present n k) → k ∈ more

theorem collect_gathered (serves : Serves present position ask)
    (ended : collect ask fuel round token keys = some (.ok got)) :
    ∃ more, got = keys ++ more ∧ Gathered present position fuel round token more := by
  induction fuel generalizing round token keys with
  | zero => cases ended
  | succ fuel ih =>
    rw [collect] at ended
    split at ended
    · cases ended
    · rename_i response answered
      have contents := serves.contents answered
      dsimp only at ended
      split at ended
      · rename_i last
        obtain rfl := Except.ok.inj (Option.some.inj ended)
        refine ⟨response.contents, rfl, serves.sorted answered, ?_, ?_, ?_⟩
        · exact fun k member => ((contents k).mp member).2.1
        · exact fun k member => ⟨round, by omega, by omega, ((contents k).mp member).1⟩
        · exact fun k beyond there => (contents k).mpr ⟨there round (by omega) (by omega), beyond, by simp [last]⟩
      · rename_i next truncated
        obtain ⟨more, rfl, gathered⟩ := ih ended
        have limit (k : κ) (member : k ∈ response.contents) : k ≤ position next :=
          ((contents k).mp member).2.2 next truncated
        have reach := serves.forward answered next truncated
        have beyond (k : κ) (member : k ∈ more) : position next < k := gathered.passed k member next rfl
        refine ⟨response.contents ++ more, List.append_assoc _ _ _, ?_, ?_, ?_, ?_⟩
        · refine List.pairwise_append.mpr ⟨serves.sorted answered, gathered.sorted, fun x first y second => ?_⟩
          exact lt_of_le_of_lt (limit x first) (beyond y second)
        · intro k member t here
          rcases List.mem_append.mp member with first | second
          · exact ((contents k).mp first).2.1 t here
          · exact lt_trans (((contents _).mp reach).2.1 t here) (beyond k second)
        · intro k member
          rcases List.mem_append.mp member with first | second
          · exact ⟨round, by omega, by omega, ((contents k).mp first).1⟩
          · obtain ⟨n, after, before, there⟩ := gathered.sound k second
            exact ⟨n, by omega, by omega, there⟩
        · intro k passed there
          rcases le_or_gt k (position next) with first | second
          · refine List.mem_append_left _ ((contents k).mpr ⟨there round (by omega) (by omega), passed, ?_⟩)
            intro t here
            rw [truncated] at here
            exact Option.some.inj here ▸ first
          · refine List.mem_append_right _ (gathered.complete k ?_ fun n after before => ?_)
            · intro t here
              exact Option.some.inj here ▸ second
            · exact there n (by omega) (by omega)

/-- A listing of a bucket comes to an end, when all keys that are ever there beyond the token are fewer than the
requests it may make. -/
theorem collect_ends (serves : Serves present position ask) (answers : ∀ n token, ∃ r, ask n token = .ok r)
    (beyond : List κ) (within : ∀ n k, present n k → Passed position token k → k ∈ beyond)
    (enough : beyond.length < fuel) : ∃ got, collect ask fuel round token keys = some (.ok got) := by
  induction fuel generalizing round token keys beyond with
  | zero => omega
  | succ fuel ih =>
    obtain ⟨response, answered⟩ := answers round token
    rw [collect, answered]
    dsimp only
    split
    · exact ⟨_, rfl⟩
    · rename_i next truncated
      have reach := serves.forward answered next truncated
      obtain ⟨there, passed, -⟩ := (serves.contents answered _).mp reach
      have fewer : (beyond.filter (position next < ·)).length < beyond.length :=
        List.length_filter_lt_length_iff_exists.mpr ⟨position next, within round _ there passed, by simp⟩
      refine ih (beyond.filter (position next < ·)) (fun n k present later => ?_) (by omega)
      have after : position next < k := later next rfl
      refine List.mem_filter.mpr ⟨within n k present fun t here => ?_, decide_eq_true after⟩
      exact lt_trans (passed t here) after

theorem collect_all (serves : Serves present position ask) (answers : ∀ n token, ∃ r, ask n token = .ok r)
    (pool : List κ) (within : ∀ n k, present n k → k ∈ pool) (enough : pool.length < fuel) :
    ∃ all, collect ask fuel 0 none [] = some (.ok all) ∧ Gathered present position fuel 0 none all := by
  obtain ⟨got, ended⟩ := collect_ends serves answers pool (fun n k there _ => within n k there) enough
  obtain ⟨all, appended, gathered⟩ := collect_gathered serves ended
  rw [appended, List.nil_append] at ended
  exact ⟨all, ended, gathered⟩

end

/-! ### A server -/

section
variable {keys : Nat → List κ} {size : Nat}

/-- So many of the keys beyond the token, which is the last key of the response before. -/
def truncated (size : Nat) (keys : List κ) (token : Option κ) : Response κ κ :=
  let rest := keys.filter fun k => token.all (· < k)
  { contents := rest.take size
    next := if size < rest.length then rest[size - 1]? else none }

theorem mem_take_sorted {rest : List κ} {last k : κ} (sorted : rest.Pairwise (· < ·)) (positive : 0 < size)
    (here : rest[size - 1]? = some last) : k ∈ rest.take size ↔ k ∈ rest ∧ k ≤ last := by
  obtain ⟨inside, at_⟩ := List.getElem?_eq_some_iff.mp here
  constructor
  · intro member
    obtain ⟨i, bound, rfl⟩ := List.mem_take_iff_getElem.mp member
    refine ⟨List.getElem_mem _, ?_⟩
    rcases Nat.lt_or_ge i (size - 1) with before | same
    · exact at_ ▸ le_of_lt (List.pairwise_iff_getElem.mp sorted i (size - 1) (by omega) inside before)
    · have last : i = size - 1 := by omega
      subst last
      exact le_of_eq at_
  · rintro ⟨member, le⟩
    obtain ⟨i, bound, rfl⟩ := List.getElem_of_mem member
    refine List.mem_take_iff_getElem.mpr ⟨i, ?_, rfl⟩
    by_contra beyond
    have after := List.pairwise_iff_getElem.mp sorted (size - 1) i inside bound (by omega)
    exact absurd le (not_le.mpr (at_ ▸ after))

/-- A response has all the keys that are left, or is cut at one of them. -/
theorem truncated_cases {α : Type*} (rest : List α) {size : Nat} (positive : 0 < size) :
    (if size < rest.length then rest[size - 1]? else none) = none ∧ rest.take size = rest ∨
      ∃ last, (if size < rest.length then rest[size - 1]? else none) = some last ∧ rest[size - 1]? = some last := by
  by_cases more : size < rest.length
  · have inside : size - 1 < rest.length := by omega
    exact .inr ⟨rest[size - 1], by rw [if_pos more, List.getElem?_eq_getElem inside], List.getElem?_eq_getElem inside⟩
  · exact .inl ⟨if_neg more, List.take_of_length_le (by omega)⟩

theorem mem_beyond {rest : List κ} {token : Option κ} {k : κ} :
    k ∈ rest.filter (fun k => token.all (· < k)) ↔ k ∈ rest ∧ Passed id token k := by
  cases token <;> simp [Passed]

theorem truncated_serves (sorted : ∀ n, (keys n).Pairwise (· < ·)) (positive : 0 < size) :
    Serves (ε := ε) (fun n k => k ∈ keys n) id fun n token => .ok (truncated size (keys n) token) where
  sorted := by
    rintro n token r answered
    obtain rfl := Except.ok.inj answered
    exact ((sorted n).filter _).take
  contents := by
    rintro n token r answered k
    obtain rfl := Except.ok.inj answered
    unfold truncated
    dsimp only
    rcases truncated_cases ((keys n).filter fun k => token.all (· < k)) positive with ⟨ends, all⟩ | ⟨last, cut, here⟩
    · rw [ends, all, mem_beyond]
      simp
    · rw [cut, mem_take_sorted ((sorted n).filter _) positive here, mem_beyond]
      simp [and_assoc]
  forward := by
    rintro n token r answered last cut
    obtain rfl := Except.ok.inj answered
    unfold truncated at cut ⊢
    dsimp only at cut ⊢
    rcases truncated_cases ((keys n).filter fun k => token.all (· < k)) positive with ⟨ends, -⟩ | ⟨other, same, here⟩
    · rw [ends] at cut
      cases cut
    · rw [same] at cut
      obtain rfl := Option.some.inj cut
      exact (mem_take_sorted ((sorted n).filter _) positive here).mpr ⟨List.mem_of_getElem? here, le_rfl⟩

end

end Continuations
