import Mathlib.Data.List.Permutation
import SupplyChainHub.Imports.Alone
import SupplyChainHub.Inventory.LastCommit

/-!
Two jobs executed at once. Whoever loses a race for a unique key, or writes over a row it has not seen,
finds that out at its flush, and the failure counts as permanent. Without such a flush the two jobs end as
if executed one after the other, as long as the versions of their positions do not run out.
-/

namespace SupplyChainHub

/-- Run alone, the task of delivery `d` ends with its job finished. -/
def Hub.Completes (env : Env) (d : Nat) (id : Id) (start : Hub) : Prop :=
  ∃ final job, Hub.Executes env d start final ∧ final.db.job id = some job ∧ job.finished

section
variable {env : Env} {start hub mid final : Hub} {d e : Nat} {id other : Id} {tasks : List (Nat × Id)}
    {order : List (Id × ImportOutcome)}

theorem executing_elsewhere (run : Hub.Run env (Hub.Executing d) start hub) (different : e ≠ d) :
    hub.deliveries[e]? = start.deliveries[e]? := by
  refine run.invariant (P := fun hub => hub.deliveries[e]? = start.deliveries[e]?) ?_ rfl
  intro s l t same met h
  obtain ⟨x, y, moved⟩ := worker_move met h
  rw [moved.deliveries, List.getElem?_set_ne (Ne.symm different)]
  exact same

theorem completes_importable (ready : start.Ready tasks) (sound : start.Sound) (task : (d, id) ∈ tasks)
    (completes : start.Completes env d id) : start.Importable env id := by
  obtain ⟨final, job, executes, found, finished⟩ := completes
  have alone : start.Ready [(d, id)] := ready.sub (by simpa using task)
  exact alone_importable alone sound executes found finished

/-- The second task, once the first one has run alone. -/
theorem ready_after (ready : start.Ready tasks) (sound : start.Sound) (first : (d, id) ∈ tasks)
    (second : (e, other) ∈ tasks) (different : e ≠ d) (executes : Hub.Executes env d start mid) :
    mid.Ready [(e, other)] ∧ mid.Sound ∧
      ∀ job result, start.Adapts env other job result → mid.Adapts env other job result := by
  obtain ⟨unraced, -⟩ := alone_unraced ready first executes.run
  obtain ⟨order, working⟩ := unraced_working ready sound unraced
  obtain ⟨workerId, celeryTaskId, received⟩ := ready.received e other second
  have waiting : mid.deliveries[e]? = some (.received other workerId celeryTaskId) :=
    (executing_elsewhere executes.run different).trans received
  obtain ⟨x, present, stage, -⟩ := working.stages e other second
  obtain rfl := Option.some.inj (waiting.symm.trans present)
  have row := stage.2
  refine ⟨⟨?_, ?_, ?_, ?_⟩, working.sound, ?_⟩
  · intro f jobId task
    obtain ⟨rfl, rfl⟩ := Prod.mk.inj (List.mem_singleton.mp task)
    exact ⟨_, _, waiting⟩
  · intro f jobId task
    obtain ⟨rfl, rfl⟩ := Prod.mk.inj (List.mem_singleton.mp task)
    obtain ⟨job, found, queued⟩ := ready.queued _ _ second
    exact ⟨job, row.trans found, queued⟩
  · intro f g jobId task task'
    rw [(Prod.mk.inj (List.mem_singleton.mp task)).1, (Prod.mk.inj (List.mem_singleton.mp task')).1]
  · intro f z found
    by_cases mine : f = d
    · subst mine
      obtain ⟨y, present, ended⟩ := executes.ended
      obtain rfl := Option.some.inj (present.symm.trans found)
      cases y with
      | committed | done => rfl
      | _ => contradiction
    · rw [executing_elsewhere executes.run mine] at found
      exact ready.idle f z found
  · intro job result adapts
    refine ⟨row.trans adapts.found, ?_⟩
    rw [working.objects]
    exact adapts.adapted

theorem Working.order_both (working : Working env start [(d, id), (e, other)] order hub) (distinct : id ≠ other)
    (first : id ∈ order.map Prod.fst) (second : other ∈ order.map Prod.fst) :
    order.map Prod.fst = [id, other] ∨ order.map Prod.fst = [other, id] := by
  rw [← List.perm_pair, List.perm_ext_iff_of_nodup working.distinct (by simp [distinct])]
  intro k
  constructor
  · intro member
    obtain ⟨entry, inside, rfl⟩ := List.mem_map.mp member
    obtain ⟨f, task⟩ := working.members entry inside
    rcases List.mem_cons.mp task with same | task
    · rw [(Prod.mk.inj same).2]
      exact List.mem_cons_self
    · rw [(Prod.mk.inj (List.mem_singleton.mp task)).2]
      exact List.mem_cons_of_mem _ List.mem_cons_self
  · intro member
    rcases List.mem_cons.mp member with rfl | member
    · exact first
    · exact List.mem_singleton.mp member ▸ second

/-- The first of two jobs imported one after the other can be executed alone. -/
theorem Serial.first {one two : ImportOutcome} {snapshots : List InventorySnapshot}
    {positions : List InventoryPosition} (serial : Serial env start [(id, one), (other, two)] snapshots positions) :
    start.Importable env id := by
  have serial : Serial env start ([(id, one)] ++ [(other, two)]) snapshots positions := serial
  obtain ⟨_, _, _, _, _, _, before, -⟩ := serial.of_snoc
  obtain ⟨job, result, _, _, adapts, storable, -⟩ := before.single
  exact ⟨job, result, adapts, storable⟩

/-- And the second one, on what the first one left. -/
theorem Serial.second {one two : ImportOutcome} {snapshots : List InventorySnapshot}
    {positions : List InventoryPosition} (serial : Serial env start [(id, one), (other, two)] snapshots positions)
    (alone : start.Ready [(d, id)]) (sound : start.Sound) (executes : Hub.Executes env d start mid)
    (succeeds : ∃ job, mid.db.job id = some job ∧ job.finished)
    (adapts : ∀ job result, start.Adapts env other job result → mid.Adapts env other job result) :
    mid.Importable env other := by
  have serial : Serial env start ([(id, one)] ++ [(other, two)]) snapshots positions := serial
  obtain ⟨earlier, stock, job, result, _, _, before, second, storable, -⟩ := serial.of_snoc
  obtain ⟨row, found, finished⟩ := succeeds
  obtain ⟨_, after, -⟩ := finished_serial alone sound executes found finished
  obtain ⟨-, snapshots, positions⟩ := before.unique after rfl
  obtain ⟨unraced, -⟩ := alone_unraced alone List.mem_cons_self executes.run
  obtain ⟨order, working⟩ := unraced_working alone sound unraced
  let left : Database := { start.db with snapshots := earlier, positions := stock }
  have products : mid.db.productMappings = left.productMappings := working.productMappings
  have warehouses : mid.db.warehouseMappings = left.warehouseMappings := working.warehouseMappings
  have plans : plan mid.db job.supplierId result.records = plan left job.supplierId result.records :=
    (plan_congr products warehouses snapshots).1
  refine ⟨job, result, adapts job result second, storable.sendable, ?_, ?_⟩
  · rw [plans]
    exact storable.entries
  · rw [plans, positions]
    exact storable.versions

/-- The two tasks, one after the other, when their imports go together in this order. -/
theorem serial_execution {one two : ImportOutcome} {snapshots : List InventorySnapshot}
    {positions : List InventoryPosition} (ready : start.Ready [(d, id), (e, other)]) (sound : start.Sound)
    (distinct : id ≠ other) (serial : Serial env start [(id, one), (other, two)] snapshots positions) :
    ∃ mid final order, Hub.Executes env d start mid ∧ Hub.Executes env e mid final ∧
      Working env start [(d, id), (e, other)] order final ∧ order.map Prod.fst = [id, other] := by
  have first : (d, id) ∈ [(d, id), (e, other)] := List.mem_cons_self
  have second : (e, other) ∈ [(d, id), (e, other)] := List.mem_cons_of_mem _ List.mem_cons_self
  have different : e ≠ d := by
    rintro rfl
    exact distinct (Working.task_unique ready second first)
  have alone : start.Ready [(d, id)] := ready.sub (by simp)
  obtain ⟨mid, w, run, committed⟩ := alone_commits alone sound serial.first
  have executes : Hub.Executes env d start mid := ⟨run, _, committed, rfl⟩
  obtain ⟨unraced, -⟩ := alone_unraced ready first run
  obtain ⟨order, working⟩ := unraced_working ready sound unraced
  have started : id ∈ order.map Prod.fst := by
    obtain ⟨x, present, -, known⟩ := working.stages d id first
    obtain rfl := Option.some.inj (committed.symm.trans present)
    exact known.mp rfl
  obtain ⟨ready', sound', adapts⟩ := ready_after ready sound first second different executes
  have importable := serial.second alone sound executes (working.committed_row started) adapts
  obtain ⟨final, w', run', committed'⟩ := alone_commits ready' sound' importable
  obtain ⟨unraced', -⟩ := alone_unraced ready' List.mem_cons_self run'
  have both : Hub.Run env (Hub.Unraced [(d, id), (e, other)]) mid final := by
    apply unraced'.weaken
    rintro s l ⟨task, member, met⟩
    exact ⟨task, List.mem_cons_of_mem _ member, met⟩
  obtain ⟨more, working'⟩ := working.run ready both
  refine ⟨mid, final, order ++ more, executes, ⟨run', _, committed', rfl⟩, working', ?_⟩
  have later : other ∉ order.map Prod.fst := by
    obtain ⟨workerId, celeryTaskId, received⟩ := ready.received e other second
    exact working.uncommitted second ((executing_elsewhere run different).trans received) rfl
  have finished : other ∈ (order ++ more).map Prod.fst := by
    obtain ⟨x, present, -, known⟩ := working'.stages e other second
    obtain rfl := Option.some.inj (committed'.symm.trans present)
    exact known.mp rfl
  rw [List.map_append] at finished ⊢
  have both := working'.order_both distinct (by rw [List.map_append]; exact List.mem_append_left _ started)
    (by rwa [List.map_append])
  rw [List.map_append] at both
  rcases both with inOrder | swapped
  · exact inOrder
  · cases ids : order.map Prod.fst with
    | nil =>
      rw [ids] at started
      contradiction
    | cons head rest =>
      rw [ids] at swapped later
      exact absurd ((List.cons.inj swapped).1 ▸ List.mem_cons_self) later

theorem Hub.Ready.swap (ready : start.Ready [(d, id), (e, other)]) : start.Ready [(e, other), (d, id)] :=
  ready.sub (List.Perm.swap _ _ _).subset

/-- The order in which the jobs were committed, executed one after the other. -/
theorem Working.in_order (ready : start.Ready [(d, id), (e, other)]) (sound : start.Sound) (distinct : id ≠ other)
    (working : Working env start tasks order hub) (ids : order.map Prod.fst = [id, other]) :
    ∃ mid final, Hub.Executes env d start mid ∧ Hub.Executes env e mid final ∧
      hub.db.snapshots = final.db.snapshots ∧ hub.db.positions = final.db.positions ∧
      ∀ jobId ∈ [id, other], hub.db.outcome jobId = final.db.outcome jobId := by
  obtain ⟨one, two, pair⟩ : ∃ one two, order = [(id, one), (other, two)] := by
    obtain ⟨head, rest, rfl, rfl, same⟩ := List.map_eq_cons_iff.mp ids
    obtain ⟨last, none, rfl, rfl, empty⟩ := List.map_eq_cons_iff.mp same
    obtain rfl := List.map_eq_nil_iff.mp empty
    exact ⟨head.2, last.2, rfl⟩
  obtain ⟨mid, final, order', first, second, working', ids'⟩ :=
    serial_execution ready sound distinct (pair ▸ working.serial)
  obtain ⟨rfl, snapshots, positions⟩ := working'.serial.unique working.serial (ids.trans ids'.symm)
  refine ⟨mid, final, first, second, snapshots, positions, ?_⟩
  intro jobId member
  rw [← ids] at member
  obtain ⟨entry, inside, rfl⟩ := List.mem_map.mp member
  exact (working.outcomes entry inside).trans (working'.outcomes entry inside).symm

/-- Two jobs that would each finish alone, executed at once in any interleaving in which every flush finds
the position as it was looked up, at a version that is not the last, and the record still new: neither fails,
and once both have ended, they ended as in one of the two serial orders. -/
theorem unraced_imports_serialize (reached : Hub.Reachable env start) (ready : start.Ready [(d, id), (e, other)])
    (distinct : id ≠ other) (alone : start.Completes env d id) (alone' : start.Completes env e other)
    (run : Hub.Run env (Hub.Unhindered [(d, id), (e, other)]) start hub) :
    (∀ jobId ∈ [id, other], ∀ job, hub.db.job jobId = some job → job.status ≠ .failed) ∧
    ((∀ f ∈ [d, e], ∃ x, hub.deliveries[f]? = some x ∧ x.ended = true) →
      ∃ first second mid final, (first, second) ∈ [(d, e), (e, d)] ∧
        Hub.Executes env first start mid ∧ Hub.Executes env second mid final ∧
        hub.db.snapshots = final.db.snapshots ∧ hub.db.positions = final.db.positions ∧
        ∀ jobId ∈ [id, other], hub.db.outcome jobId = final.db.outcome jobId) := by
  have sound := reachable_sound reached
  have first : (d, id) ∈ [(d, id), (e, other)] := List.mem_cons_self
  have second : (e, other) ∈ [(d, id), (e, other)] := List.mem_cons_of_mem _ List.mem_cons_self
  have importable := completes_importable ready sound first alone
  have importable' := completes_importable ready sound second alone'
  obtain ⟨order, working⟩ := unraced_working ready sound (run.weaken fun _ _ => Hub.Unhindered.unraced)
  obtain ⟨x, present, standing⟩ := unhindered_stands ready sound first importable run
  obtain ⟨y, present', standing'⟩ := unhindered_stands ready sound second importable' run
  constructor
  · intro jobId member job found
    rcases List.mem_cons.mp member with rfl | member
    · exact working.not_failed ready first present standing found
    · obtain rfl := List.mem_singleton.mp member
      exact working.not_failed ready second present' standing' found
  · intro ended
    have committed {f : Nat} {jobId : Id} {z : Delivery} (task : (f, jobId) ∈ [(d, id), (e, other)])
        (inside : f ∈ [d, e]) (known : hub.deliveries[f]? = some z) (standing : z.fallen = false) :
        jobId ∈ order.map Prod.fst := by
      obtain ⟨z', found, stopped⟩ := ended f inside
      obtain rfl := Option.some.inj (known.symm.trans found)
      obtain ⟨z', found', -, iff⟩ := working.stages f jobId task
      obtain rfl := Option.some.inj (known.symm.trans found')
      exact iff.mp (committed_ended stopped standing)
    have mine := committed first List.mem_cons_self present standing
    have theirs := committed second (List.mem_cons_of_mem _ List.mem_cons_self) present' standing'
    rcases working.order_both distinct mine theirs with ids | ids
    · obtain ⟨mid, final, before, after, same⟩ := working.in_order ready sound distinct ids
      exact ⟨d, e, mid, final, List.mem_cons_self, before, after, same⟩
    · obtain ⟨mid, final, before, after, snapshots, positions, outcomes⟩ :=
        working.in_order ready.swap sound distinct.symm ids
      refine ⟨e, d, mid, final, List.mem_cons_of_mem _ List.mem_cons_self, before, after, snapshots, positions, ?_⟩
      intro jobId member
      exact outcomes jobId ((List.Perm.swap _ _ _).subset member)

end

namespace Small

/-- Both hours' files, submitted and delivered. -/
def bothDelivered : List Label :=
  submitted ++ laterSubmitted (moment 0) ++ [.deliver 1 "worker-1" none, .deliver 2 "worker-2" none]

def tasks : List (Nat × Id) := [(0, 1), (1, 2)]

/-- The first task commits while the second has not looked its position up yet. -/
def interleaved : List Label :=
  [.claim 0 (moment 1), .claim 1 (moment 1), .adapt 0 true (moment 2), .adapt 1 true (moment 2), .start 0, .start 1,
    .record 1, .record 1, .record 0, .record 0, .record 0, .record 0, .record 0, .summarise 0,
    .complete 0 (moment 3), .record 1, .record 1, .record 1, .summarise 1, .complete 1 (moment 4)]

def executed (d : Nat) : List Label := [.claim d (moment 1)] ++ applied d (moment 1) ++ completed d (moment 2)

/-- Both tasks look the position up before either has flushed. -/
def raced : List Label :=
  [.claim 0 (moment 1), .claim 1 (moment 1), .adapt 0 true (moment 2), .adapt 1 true (moment 2), .start 0, .start 1,
    .record 0, .record 0, .record 0, .record 0, .record 1, .record 1, .record 1, .record 1, .record 0, .summarise 0,
    .complete 0 (moment 3), .record 1, .report 1 (moment 4)]

def unstocked : Hub := { hub with db := { hub.db with positions := [] } }

theorem unstocked_initial : Hub.Initial unstocked := by
  constructor <;> first | rfl | decide

def finishes (hub : Hub) (d : Nat) (id : Id) : Bool :=
  (hub.deliveries[d]?).any Delivery.ended && (hub.db.job id).any fun job =>
    job.status = .completed || job.status = .completedWithErrors

theorem completes {start : Hub} {d : Nat} {id : Id}
    (shown : (Machine.exec (Machine.checked (Hub.step hourlyEnv) fun hub l => decide (Hub.Executing d hub l)) start
      (executed d)).any (fun hub => finishes hub d id) = true) : start.Completes hourlyEnv d id := by
  obtain ⟨final, steps, holds⟩ := (Option.any_eq_true _ _).mp shown
  unfold finishes at holds
  simp only [Bool.and_eq_true, Option.any_eq_true, Bool.or_eq_true, decide_eq_true_eq] at holds
  obtain ⟨⟨x, present, ended⟩, job, found, finished⟩ := holds
  exact ⟨final, job, ⟨Machine.exec_run_checked (fun _ _ => of_decide_eq_true) steps, x, present, ended⟩, found,
    finished⟩

end Small

theorem unraced_imports_serialize_interleaved : ∃ start hub first second mid final,
    Hub.Run Small.hourlyEnv (Hub.Unhindered Small.tasks) start hub ∧
    Hub.Executes Small.hourlyEnv first start mid ∧ Hub.Executes Small.hourlyEnv second mid final ∧
    hub.db.positions = final.db.positions := by
  have shown : (Machine.exec (Hub.step Small.hourlyEnv) Small.hub Small.bothDelivered).any (fun start =>
      start.isReady Small.tasks &&
      ((Machine.exec (Machine.checked (Hub.step Small.hourlyEnv) fun hub l => decide (Hub.Executing 0 hub l)) start
        (Small.executed 0)).any fun hub => Small.finishes hub 0 1) &&
      ((Machine.exec (Machine.checked (Hub.step Small.hourlyEnv) fun hub l => decide (Hub.Executing 1 hub l)) start
        (Small.executed 1)).any fun hub => Small.finishes hub 1 2) &&
      (Machine.exec (Machine.checked (Hub.step Small.hourlyEnv) fun hub l => decide (Hub.Unhindered Small.tasks hub l))
        start Small.interleaved).any fun hub =>
          (hub.deliveries[0]?).any Delivery.ended && (hub.deliveries[1]?).any Delivery.ended) = true := by
    decide +kernel
  obtain ⟨start, steps, holds⟩ := (Option.any_eq_true _ _).mp shown
  simp only [Bool.and_eq_true] at holds
  obtain ⟨⟨⟨ready, alone⟩, alone'⟩, interleaves⟩ := holds
  obtain ⟨hub, steps', ended⟩ := (Option.any_eq_true _ _).mp interleaves
  simp only [Bool.and_eq_true, Option.any_eq_true] at ended
  have reached : Hub.Reachable Small.hourlyEnv start :=
    ⟨Small.hub, Small.initial, Machine.exec_run (fun _ _ _ => trivial) steps⟩
  have run : Hub.Run Small.hourlyEnv (Hub.Unhindered Small.tasks) start hub :=
    Machine.exec_run_checked (fun _ _ => of_decide_eq_true) steps'
  obtain ⟨-, serial⟩ := unraced_imports_serialize reached (isReady_ready ready) (by decide) (Small.completes alone)
    (Small.completes alone') run
  have both : ∀ f ∈ [0, 1], ∃ x, hub.deliveries[f]? = some x ∧ x.ended = true := by
    intro f member
    rcases List.mem_cons.mp member with rfl | member
    · exact ended.1
    · rw [List.mem_singleton.mp member]
      exact ended.2
  obtain ⟨first, second, mid, final, -, before, after, -, positions, -⟩ := serial both
  exact ⟨start, hub, first, second, mid, final, run, before, after, positions⟩

/-- The first position of a product in a warehouse, created by two jobs at once: the second to flush finds
the key taken, and its job fails for good on its first attempt of three. -/
theorem lost_race_fails : ∃ start hub job, Hub.Reachable Small.hourlyEnv start ∧ start.Ready Small.tasks ∧
    start.Completes Small.hourlyEnv 0 1 ∧ start.Completes Small.hourlyEnv 1 2 ∧
    Hub.Run Small.hourlyEnv (fun hub l => Hub.Executing 0 hub l ∨ Hub.Executing 1 hub l) start hub ∧
    hub.db.job 2 = some job ∧ job.status = .failed ∧ job.attemptCount = 1 ∧ job.maxAttempts = 3 ∧
    job.failureCode = some "unexpected_import_error" ∧
    job.failureMessage = some "uq_inventory_positions_warehouse_product" := by
  have shown : (Machine.exec (Hub.step Small.hourlyEnv) Small.unstocked Small.bothDelivered).any (fun start =>
      start.isReady Small.tasks &&
      ((Machine.exec (Machine.checked (Hub.step Small.hourlyEnv) fun hub l => decide (Hub.Executing 0 hub l)) start
        (Small.executed 0)).any fun hub => Small.finishes hub 0 1) &&
      ((Machine.exec (Machine.checked (Hub.step Small.hourlyEnv) fun hub l => decide (Hub.Executing 1 hub l)) start
        (Small.executed 1)).any fun hub => Small.finishes hub 1 2) &&
      (Machine.exec (Machine.checked (Hub.step Small.hourlyEnv)
        fun hub l => decide (Hub.Executing 0 hub l ∨ Hub.Executing 1 hub l)) start Small.raced).any fun hub =>
          (hub.db.job 2).any fun job => job.status = .failed && job.attemptCount = 1 && job.maxAttempts = 3 &&
            job.failureCode = some "unexpected_import_error" &&
            job.failureMessage = some "uq_inventory_positions_warehouse_product") = true := by
    decide +kernel
  obtain ⟨start, steps, holds⟩ := (Option.any_eq_true _ _).mp shown
  simp only [Bool.and_eq_true] at holds
  obtain ⟨⟨⟨ready, alone⟩, alone'⟩, interleaves⟩ := holds
  obtain ⟨hub, steps', failed⟩ := (Option.any_eq_true _ _).mp interleaves
  simp only [Option.any_eq_true, Bool.and_eq_true, decide_eq_true_eq] at failed
  obtain ⟨job, found, ⟨⟨⟨status, attempts⟩, most⟩, code⟩, message⟩ := failed
  exact ⟨start, hub, job, ⟨Small.unstocked, Small.unstocked_initial, Machine.exec_run (fun _ _ _ => trivial) steps⟩,
    isReady_ready ready, Small.completes alone, Small.completes alone',
    Machine.exec_run_checked (fun _ _ => of_decide_eq_true) steps', found, status, attempts, most, code, message⟩

end SupplyChainHub
