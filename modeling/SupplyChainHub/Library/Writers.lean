import SupplyChainHub.Library.Buckets
import SupplyChainHub.Library.Machines

/-!
Writers of one bucket. Each has its writes to make one after the other, in any interleaving with the others, and may
stop for good after any of them. If every writer puts what a value refers to before the value, no value in the bucket
ever refers to what is not there.
-/

namespace Writers

structure State (κ ν : Type*) where
  objects : Bucket κ ν
  /-- What each writer has left to write. -/
  running : List (List (κ × ν))

inductive Label (κ ν : Type*) where
  | start (writes : List (κ × ν))
  | advance (writer : Nat)
  | put (key : κ) (value : ν)
  | remove (key : κ)

/-- What may stand where, what refers to what, and which keys are never removed. -/
structure Scheme (κ ν : Type*) where
  allowed : κ → ν → Prop
  refers : κ → ν → κ → Prop
  lasting : κ → Prop

variable {κ ν : Type*}

/-- A value that may stand under its key, and refers to known keys that last. -/
def Scheme.Fits (scheme : Scheme κ ν) (known : κ → Prop) (key : κ) (value : ν) : Prop :=
  scheme.allowed key value ∧ ∀ target, scheme.refers key value target → scheme.lasting target ∧ known target

/-- Writes of which each refers to what is known or was written by one before it. -/
def Scheme.Closed (scheme : Scheme κ ν) (known : κ → Prop) : List (κ × ν) → Prop
  | [] => True
  | (key, value) :: rest => scheme.Fits known key value ∧ scheme.Closed (fun k => known k ∨ k = key) rest

section
variable {scheme : Scheme κ ν} {known more : κ → Prop} {key : κ} {value : ν} {writes later : List (κ × ν)}

/-- Only the keys that last matter. -/
theorem Scheme.Fits.mono (fits : scheme.Fits known key value) (within : ∀ k, scheme.lasting k → known k → more k) :
    scheme.Fits more key value := by
  refine ⟨fits.1, fun target refers => ?_⟩
  obtain ⟨lasts, there⟩ := fits.2 target refers
  exact ⟨lasts, within target lasts there⟩

theorem Scheme.Closed.mono (closed : scheme.Closed known writes)
    (within : ∀ k, scheme.lasting k → known k → more k) : scheme.Closed more writes := by
  induction writes generalizing known more with
  | nil => trivial
  | cons write rest ih =>
    exact ⟨closed.1.mono within, ih closed.2 fun k lasts => Or.imp_left (within k lasts)⟩

theorem Scheme.Closed.append (closed : scheme.Closed known writes)
    (next : scheme.Closed (fun k => known k ∨ k ∈ writes.map Prod.fst) later) : scheme.Closed known (writes ++ later) := by
  induction writes generalizing known with
  | nil => exact next.mono fun k _ => Or.rec id fun none => absurd none List.not_mem_nil
  | cons write rest ih =>
    refine ⟨closed.1, ih closed.2 (next.mono fun k _ => ?_)⟩
    rw [List.map_cons, List.mem_cons, or_assoc]
    exact id

/-- Values that refer to nothing may be written in any order. -/
theorem closed_plain (allowed : ∀ write ∈ writes, scheme.allowed write.1 write.2)
    (plain : ∀ write ∈ writes, ∀ target, ¬ scheme.refers write.1 write.2 target) : scheme.Closed known writes := by
  induction writes generalizing known with
  | nil => trivial
  | cons write rest ih =>
    obtain ⟨first, others⟩ := List.forall_mem_cons.mp allowed
    obtain ⟨none, nones⟩ := List.forall_mem_cons.mp plain
    exact ⟨⟨first, fun target refers => absurd refers (none target)⟩, ih others nones⟩

end

variable [DecidableEq κ]

def step (s : State κ ν) : Label κ ν → Option (State κ ν)
  | .start writes => some { s with running := s.running ++ [writes] }
  | .advance writer =>
    match s.running[writer]? with
    | some ((key, value) :: rest) =>
      some { objects := s.objects.insert key value, running := s.running.set writer rest }
    | _ => none
  | .put key value => some { s with objects := s.objects.insert key value }
  | .remove key => some { s with objects := s.objects.erase key }

/-- Who puts nothing dangling, nor removes what lasts. -/
def Scheme.Permits (scheme : Scheme κ ν) (s : State κ ν) : Label κ ν → Prop
  | .start writes => scheme.Closed (· ∈ s.objects) writes
  | .advance _ => True
  | .put key value => scheme.Fits (· ∈ s.objects) key value
  | .remove key => ¬ scheme.lasting key

/-- Nothing in the bucket dangles, nor will anything that is still to be written. -/
structure Scheme.Sound (scheme : Scheme κ ν) (s : State κ ν) : Prop where
  stored : ∀ key value, s.objects.lookup key = some value → scheme.Fits (· ∈ s.objects) key value
  running : ∀ writes ∈ s.running, scheme.Closed (· ∈ s.objects) writes

section
variable {scheme : Scheme κ ν} {s t : State κ ν} {l : Label κ ν} {key : κ} {value : ν}

theorem Scheme.empty_sound (scheme : Scheme κ ν) : scheme.Sound ⟨∅, []⟩ :=
  ⟨fun _ _ found => absurd found (by simp), List.forall_mem_nil _⟩

theorem grows {objects : Bucket κ ν} (key : κ) (value : ν) (k : κ) (present : k ∈ objects) :
    k ∈ objects.insert key value :=
  (AList.mem_insert _).mpr (.inr present)

theorem stored_insert {objects : Bucket κ ν}
    (stored : ∀ k v, objects.lookup k = some v → scheme.Fits (· ∈ objects) k v)
    (fits : scheme.Fits (· ∈ objects) key value) :
    ∀ k v, (objects.insert key value).lookup k = some v → scheme.Fits (· ∈ objects.insert key value) k v := by
  intro k v found
  by_cases same : k = key
  · subst same
    rw [AList.lookup_insert] at found
    exact Option.some.inj found ▸ fits.mono fun k' _ => grows k value k'
  · rw [AList.lookup_insert_ne same] at found
    exact (stored k v found).mono fun k' _ => grows key value k'

theorem stored_erase {objects : Bucket κ ν}
    (stored : ∀ k v, objects.lookup k = some v → scheme.Fits (· ∈ objects) k v) (passing : ¬ scheme.lasting key) :
    ∀ k v, (objects.erase key).lookup k = some v → scheme.Fits (· ∈ objects.erase key) k v := by
  intro k v found
  by_cases same : k = key
  · subst same
    rw [AList.lookup_erase] at found
    cases found
  · rw [AList.lookup_erase_ne same] at found
    exact (stored k v found).mono fun k' lasts there => AList.mem_erase.mpr ⟨fun same => passing (same ▸ lasts), there⟩

theorem step_sound (sound : scheme.Sound s) (permits : scheme.Permits s l) (next : step s l = some t) :
    scheme.Sound t := by
  cases l with
  | start writes =>
    obtain rfl := Option.some.inj next
    exact ⟨sound.stored, List.forall_mem_append.mpr ⟨sound.running, List.forall_mem_singleton.mpr permits⟩⟩
  | advance writer =>
    rw [step] at next
    split at next
    · rename_i key value rest here
      obtain rfl := Option.some.inj next
      obtain ⟨fits, closed⟩ := sound.running _ (List.mem_of_getElem? here)
      refine ⟨stored_insert sound.stored fits, fun w member => ?_⟩
      rcases List.mem_or_eq_of_mem_set member with old | rfl
      · exact (sound.running w old).mono fun k _ => grows key value k
      · exact closed.mono fun k _ => Or.rec (grows key value k) fun same => (AList.mem_insert _).mpr (.inl same)
    · cases next
  | put key value =>
    obtain rfl := Option.some.inj next
    exact ⟨stored_insert sound.stored permits,
      fun w member => (sound.running w member).mono fun k _ => grows key value k⟩
  | remove key =>
    obtain rfl := Option.some.inj next
    refine ⟨stored_erase sound.stored permits, fun w member => (sound.running w member).mono fun k lasts there => ?_⟩
    exact AList.mem_erase.mpr ⟨fun same => permits (same ▸ lasts), there⟩

theorem step_keeps (permits : scheme.Permits s l) (next : step s l = some t) (lasts : scheme.lasting key)
    (present : key ∈ s.objects) : key ∈ t.objects := by
  cases l with
  | start writes =>
    obtain rfl := Option.some.inj next
    exact present
  | advance writer =>
    rw [step] at next
    split at next
    · obtain rfl := Option.some.inj next
      exact grows _ _ key present
    · cases next
  | put other value =>
    obtain rfl := Option.some.inj next
    exact grows other value key present
  | remove other =>
    obtain rfl := Option.some.inj next
    exact AList.mem_erase.mpr ⟨fun same => permits (same ▸ lasts), present⟩

end

/-! ### The only writer of a key -/

/-- Nobody has the key left to write. -/
def Free (s : State κ ν) (key : κ) : Prop := ∀ writes ∈ s.running, key ∉ writes.map Prod.fst

/-- The last write of the key among these. -/
def Ends (writes : List (κ × ν)) (key : κ) (value : ν) : Prop :=
  ∃ before later, writes = before ++ (key, value) :: later ∧ key ∉ later.map Prod.fst

/-- Nobody else has the key left to write, and the writer leaves the value there. -/
structure Owner (s : State κ ν) (writer : Nat) (key : κ) (value : ν) : Prop where
  only : ∀ other writes, s.running[other]? = some writes → key ∈ writes.map Prod.fst → other = writer
  leaves : ∀ writes, s.running[writer]? = some writes →
    Ends writes key value ∨ key ∉ writes.map Prod.fst ∧ s.objects.lookup key = some value
  running : writer < s.running.length

/-- Steps that do not touch a key, but for those of who writes it already. -/
def Label.Spares (key : κ) : Label κ ν → Prop
  | .start writes => key ∉ writes.map Prod.fst
  | .advance _ => True
  | .put other _ => key ≠ other
  | .remove other => key ≠ other

section
variable {s t : State κ ν} {l : Label κ ν} {key : κ} {value : ν} {writer : Nat} {writes : List (κ × ν)}

theorem Free.step (free : Free s key) (spares : l.Spares key) (next : step s l = some t) :
    Free t key ∧ t.objects.lookup key = s.objects.lookup key := by
  cases l with
  | start writes =>
    obtain rfl := Option.some.inj next
    exact ⟨List.forall_mem_append.mpr ⟨free, List.forall_mem_singleton.mpr spares⟩, rfl⟩
  | advance writer =>
    rw [Writers.step] at next
    split at next
    · rename_i other value rest here
      obtain rfl := Option.some.inj next
      have apart := free _ (List.mem_of_getElem? here)
      rw [List.map_cons, List.mem_cons, not_or] at apart
      refine ⟨fun w member => ?_, AList.lookup_insert_ne apart.1⟩
      rcases List.mem_or_eq_of_mem_set member with old | rfl
      · exact free w old
      · exact apart.2
    · cases next
  | put other value =>
    obtain rfl := Option.some.inj next
    exact ⟨free, AList.lookup_insert_ne spares⟩
  | remove other =>
    obtain rfl := Option.some.inj next
    exact ⟨free, AList.lookup_erase_ne spares⟩

/-- A writer that starts where nobody has the key left owns it. -/
theorem Free.owner (free : Free s key) (ends : Ends writes key value) :
    Owner { s with running := s.running ++ [writes] } s.running.length key value := by
  constructor
  · intro other later here member
    rcases Nat.lt_trichotomy other s.running.length with before | same | after
    · rw [List.getElem?_append_left before] at here
      exact absurd member (free later (List.mem_of_getElem? here))
    · exact same
    · rw [List.getElem?_eq_none (by rw [List.length_append, List.length_singleton]; omega)] at here
      cases here
  · intro later here
    rw [List.getElem?_append_right le_rfl, Nat.sub_self] at here
    exact .inl (Option.some.inj here ▸ ends)
  · rw [List.length_append, List.length_singleton]
    exact Nat.lt_succ_self _

theorem set_cases {α : Type*} {xs : List α} {i j : Nat} {x y : α} (here : (xs.set i x)[j]? = some y) :
    j = i ∧ y = x ∨ j ≠ i ∧ xs[j]? = some y := by
  rw [List.getElem?_set] at here
  by_cases same : i = j
  · rw [if_pos same] at here
    split at here
    · exact .inl ⟨same.symm, (Option.some.inj here).symm⟩
    · cases here
  · rw [if_neg same] at here
    exact .inr ⟨Ne.symm same, here⟩

theorem Owner.advance {moved : Nat} (owner : Owner s writer key value) (next : step s (.advance moved) = some t) :
    Owner t writer key value := by
  rw [Writers.step] at next
  split at next
  · rename_i other new rest here
    obtain rfl := Option.some.inj next
    refine ⟨fun place later at_ member => ?_, fun later at_ => ?_, ?_⟩
    · rcases set_cases at_ with ⟨rfl, rfl⟩ | ⟨-, at_⟩
      · exact owner.only _ _ here (List.mem_cons_of_mem _ member)
      · exact owner.only place later at_ member
    · rcases set_cases at_ with ⟨rfl, rfl⟩ | ⟨different, at_⟩
      · rcases owner.leaves _ here with ⟨before, after, split, last⟩ | ⟨absent, there⟩
        · cases before with
          | nil =>
            obtain ⟨same, rfl⟩ := List.cons.inj split
            obtain ⟨rfl, rfl⟩ := Prod.mk.inj same
            exact .inr ⟨last, AList.lookup_insert _⟩
          | cons first before =>
            obtain ⟨-, rfl⟩ := List.cons.inj split
            exact .inl ⟨before, after, rfl, last⟩
        · rw [List.map_cons, List.mem_cons, not_or] at absent
          exact .inr ⟨absent.2, (AList.lookup_insert_ne absent.1).trans there⟩
      · refine (owner.leaves later at_).imp id fun ⟨absent, there⟩ => ⟨absent, ?_⟩
        refine (AList.lookup_insert_ne fun same => ?_).trans there
        exact different (owner.only moved _ here (List.mem_cons.mpr (.inl same))).symm
    · rw [List.length_set]
      exact owner.running
  · cases next

theorem Owner.step (owner : Owner s writer key value) (spares : l.Spares key) (next : step s l = some t) :
    Owner t writer key value := by
  cases l with
  | start writes =>
    obtain rfl := Option.some.inj next
    refine ⟨fun other later here member => ?_, fun later here => ?_, ?_⟩
    · rcases Nat.lt_or_ge other s.running.length with before | after
      · rw [List.getElem?_append_left before] at here
        exact owner.only other later here member
      · rw [List.getElem?_append_right after] at here
        obtain rfl := List.mem_singleton.mp (List.mem_of_getElem? here)
        exact absurd member spares
    · rw [List.getElem?_append_left owner.running] at here
      exact owner.leaves later here
    · rw [List.length_append]
      exact Nat.lt_add_right _ owner.running
  | advance moved => exact owner.advance next
  | put other new =>
    obtain rfl := Option.some.inj next
    exact ⟨owner.only, fun later at_ => (owner.leaves later at_).imp id fun both =>
      ⟨both.1, (AList.lookup_insert_ne spares).trans both.2⟩, owner.running⟩
  | remove other =>
    obtain rfl := Option.some.inj next
    exact ⟨owner.only, fun later at_ => (owner.leaves later at_).imp id fun both =>
      ⟨both.1, (AList.lookup_erase_ne spares).trans both.2⟩, owner.running⟩

/-- A writer that is done has left the value there. -/
theorem Owner.done (owner : Owner s writer key value) (all : s.running[writer]? = some []) :
    Free s key ∧ s.objects.lookup key = some value := by
  constructor
  · intro writes member listed
    obtain ⟨other, here⟩ := List.getElem?_of_mem member
    obtain rfl := owner.only other writes here listed
    rw [all] at here
    cases here
    cases listed
  · rcases owner.leaves [] all with ⟨before, later, split, -⟩ | ⟨-, there⟩
    · cases before <;> cases split
    · exact there

/-- A writer that is stopped leaves the key to nobody. -/
theorem Owner.stopped (owner : Owner s writer key value) :
    Free { s with running := s.running.set writer [] } key := by
  intro writes member listed
  obtain ⟨other, here⟩ := List.getElem?_of_mem member
  rcases set_cases here with ⟨-, rfl⟩ | ⟨different, here⟩
  · cases listed
  · exact different (owner.only other writes here listed)

omit [DecidableEq κ] in
theorem Free.stopped (free : Free s key) (writer : Nat) :
    Free { s with running := s.running.set writer [] } key := by
  intro writes member
  rcases List.mem_or_eq_of_mem_set member with old | rfl
  · exact free writes old
  · exact List.not_mem_nil

theorem Scheme.Sound.stopped {scheme : Scheme κ ν} (sound : scheme.Sound s) (writer : Nat) :
    scheme.Sound { s with running := s.running.set writer [] } := by
  refine ⟨sound.stored, fun writes member => ?_⟩
  rcases List.mem_or_eq_of_mem_set member with old | rfl
  · exact sound.running writes old
  · trivial

end

end Writers
