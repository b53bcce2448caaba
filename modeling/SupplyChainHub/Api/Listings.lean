import Mathlib.Data.List.Chain
import Mathlib.Data.String.Basic
import SupplyChainHub.Api.Integrity
import SupplyChainHub.Library.Paging

/-!
`list_suppliers`, `list_products`, `list_warehouses` and `list_inventory`, read page after page while the API
serves other calls. Each is ordered by what is unique in its table.
-/

namespace SupplyChainHub

/-- How the database orders texts. Different texts never tie. -/
structure Collation where
  le : String → String → Prop
  decides : DecidableRel le
  total : ∀ s t, le s t ∨ le t s
  trans : ∀ s t u, le s t → le t u → le s u
  antisymm : ∀ s t, le s t → le t s → s = t

instance (collation : Collation) : DecidableRel collation.le := collation.decides

instance (collation : Collation) : Std.Total collation.le := ⟨collation.total⟩

instance (collation : Collation) : IsTrans String collation.le := ⟨collation.trans⟩

instance (collation : Collation) : Std.Antisymm collation.le := ⟨collation.antisymm⟩

/-- By warehouse, then by product. -/
def PlaceLE (a b : Nat × Nat) : Prop := a.1 < b.1 ∨ a.1 = b.1 ∧ a.2 ≤ b.2

instance : DecidableRel PlaceLE := fun _ _ => inferInstanceAs (Decidable (_ ∨ _))

instance : Std.Total PlaceLE where
  total a b := by
    unfold PlaceLE
    omega

instance : IsTrans (Nat × Nat) PlaceLE where
  trans a b c := by
    unfold PlaceLE
    omega

instance : Std.Antisymm PlaceLE where
  antisymm a b first second := by
    unfold PlaceLE at first second
    refine Prod.ext ?_ ?_ <;> omega

def listSuppliers (collation : Collation) (state : ApiState) : Nat → Nat → List SupplierRow :=
  Paging.page (Paging.ordered collation.le (fun s => s.code) state.catalog.suppliers)

def listProducts (collation : Collation) (state : ApiState) : Nat → Nat → List Product :=
  Paging.page (Paging.ordered collation.le Product.sku state.catalog.products)

def listWarehouses (collation : Collation) (state : ApiState) : Nat → Nat → List Warehouse :=
  Paging.page (Paging.ordered collation.le Warehouse.code state.catalog.warehouses)

/-- The filters of `list_inventory`. -/
def selected (warehouseId productId : Option Id) (p : InventoryPosition) : Bool :=
  warehouseId.all (· = p.warehouseId) && productId.all (· = p.productId)

def listInventory (warehouseId productId : Option Id) (state : ApiState) : Nat → Nat → List InventoryPosition :=
  Paging.page (Paging.ordered PlaceLE InventoryPosition.key
    (state.imports.positions.filter (selected warehouseId productId)))

/-- `available_quantity`, which the response of a position has. -/
def InventoryPosition.availableQuantity (p : InventoryPosition) : Except DomainError ℚ :=
  calculateAvailableQuantity p.onHandQuantity.value p.reservedQuantity.value

/-- No stored position makes a listing fail. -/
theorem listed_available {state : ApiState} (sound : state.Constrained) {p : InventoryPosition}
    (present : p ∈ state.imports.positions) :
    p.availableQuantity = .ok (max (p.onHandQuantity.value - p.reservedQuantity.value) 0) := by
  have row := sound.imports.positions p present
  have nonnegative {n : Numeric183} (least : 0 ≤ n.thousandths) : ¬ n.value < 0 := by
    have scaled : (0 : ℚ) ≤ n.thousandths := by exact_mod_cast least
    have value : 0 ≤ n.value := div_nonneg scaled (by norm_num)
    exact not_lt.mpr value
  unfold InventoryPosition.availableQuantity calculateAvailableQuantity
  rw [if_neg (nonnegative row.onHandQuantityNonnegative), if_neg (nonnegative row.reservedQuantityNonnegative)]

/-! ### What a listing grows by -/

/-- Every row is still there, a position perhaps with other quantities. -/
structure ApiState.Grows (state later : ApiState) : Prop where
  catalog : state.catalog.Within later.catalog
  places : places state.imports ⊆ places later.imports

section
variable {zones : TimeZones} {env : Env} {state next later : ApiState} {db : Database}

theorem Catalog.Within.refl (catalog : Catalog) : catalog.Within catalog :=
  ⟨fun _ => id, fun _ => id, fun _ => id, fun _ => id⟩

theorem ApiState.Grows.refl (state : ApiState) : state.Grows state := ⟨.refl _, fun _ => id⟩

theorem ApiState.Grows.trans (first : state.Grows next) (second : next.Grows later) : state.Grows later where
  catalog := {
    suppliers := fun _ member => second.catalog.suppliers (first.catalog.suppliers member)
    products := fun _ member => second.catalog.products (first.catalog.products member)
    warehouses := fun _ member => second.catalog.warehouses (first.catalog.warehouses member)
    purchaseOrders := fun _ member => second.catalog.purchaseOrders (first.catalog.purchaseOrders member) }
  places := fun _ member => second.places (first.places member)

theorem sendMapping_positions (call : MappingCall) : (call.send db).db.positions = db.positions := by
  refine call.send_either (P := fun after => after.positions = db.positions) rfl fun after committed => ?_
  cases call with
  | product => exact (upsertProductMapping_imports committed).2
  | warehouse => exact (upsertWarehouseMapping_imports committed).2
  | returned =>
    obtain rfl := Except.ok.inj committed
    rfl
  | raised => cases committed

theorem importInventory_positions {objects : ObjectStore} {upload : Upload} {key : IdempotencyKey}
    {correlationId : Option CorrelationId} {occasion : Occasion} :
    (importInventory env db objects upload key correlationId occasion).db.1.positions = db.positions := by
  have submits (request : SubmitRequest) :
      (submitInventoryImport env.settings db objects request correlationId occasion).db.1.positions = db.positions := by
    refine submitInventoryImport_either (P := fun after => after.positions = db.positions) rfl ?_
    intro supplierId objectKey after _ inserted
    obtain ⟨-, -, rfl⟩ := submitInsert_written inserted
    rfl
  unfold importInventory
  cases upload with
  | supplierA => exact submits _
  | supplierB =>
    dsimp only
    split
    · rfl
    · exact submits _

theorem setInventory_grows {warehouseId productId : Id} {request : InventorySet} :
    places db ⊆ places (setInventory db warehouseId productId request) := by
  unfold setInventory
  split
  · split
    · rename_i write _
      show places db ⊆ (write.apply db.positions).map InventoryPosition.key
      rw [apply_keys]
      exact List.subset_append_left _ _
    · exact fun _ => id
  · exact fun _ => id

theorem serve_grows {occasion : Occasion} (call : ApiCall zones) :
    state.Grows (serve env state occasion call).db := by
  cases call with
  | createSupplier request => exact ⟨(createSupplier_grown request).within, fun _ => id⟩
  | createProduct request => exact ⟨(createProduct_grown request).within, fun _ => id⟩
  | createWarehouse request => exact ⟨(createWarehouse_grown request).within, fun _ => id⟩
  | createPurchaseOrder request => exact ⟨(createPurchaseOrder_grown request).within, fun _ => id⟩
  | createShipment | addShipmentEvent => exact ⟨.refl _, fun _ => id⟩
  | upsertProductMapping request =>
    have same : (sendProductMapping state.importing request).db.positions = state.imports.positions :=
      sendMapping_positions _
    exact ⟨.refl _, fun place member => by
      show place ∈ List.map _ (sendProductMapping state.importing request).db.positions
      rw [same]
      exact member⟩
  | upsertWarehouseMapping request =>
    have same : (sendWarehouseMapping state.importing request).db.positions = state.imports.positions :=
      sendMapping_positions _
    exact ⟨.refl _, fun place member => by
      show place ∈ List.map _ (sendWarehouseMapping state.importing request).db.positions
      rw [same]
      exact member⟩
  | importInventory upload key correlationId =>
    have same : (importInventory env state.importing state.objects upload key correlationId occasion).db.1.positions =
        state.imports.positions := importInventory_positions
    exact ⟨.refl _, fun place member => by
      show place ∈ List.map _
        (SupplyChainHub.importInventory env state.importing state.objects upload key correlationId occasion).db.1.positions
      rw [same]
      exact member⟩

theorem step_grows {l : ApiLabel zones} (h : ApiState.step env state l = some next) : state.Grows next := by
  cases l with
  | serve occasion call =>
    rw [ApiState.step] at h
    split at h
    · cases h
    · obtain rfl := Option.some.inj h
      exact serve_grows call
  | setInventory warehouseId productId request =>
    obtain rfl := Option.some.inj h
    have grown : places state.importing ⊆ places (setInventory state.importing warehouseId productId request) :=
      setInventory_grows
    exact ⟨.refl _, grown⟩

theorem run_grows (run : ApiState.Run zones env state later) : state.Grows later := by
  refine run.invariant (P := state.Grows) ?_ (.refl state)
  exact fun _ _ _ grown _ step => grown.trans (step_grows step)

end

/-! ### Readers -/

section
variable {zones : TimeZones} {env : Env} {first : ApiState} {later : List ApiState} {limit : Nat}

theorem chain_grows (sound : first.Constrained) (chain : (first :: later).IsChain (ApiState.Run zones env)) :
    (first :: later).IsChain fun s t => s.Constrained ∧ s.Grows t := by
  induction later generalizing first with
  | nil => exact .singleton _
  | cons next rest ih =>
    obtain ⟨run, others⟩ := List.isChain_cons_cons.mp chain
    have kept : next.Constrained := ApiState.run_constrained sound run
    exact List.isChain_cons_cons.mpr ⟨⟨sound, run_grows run⟩, ih kept others⟩

/-- A listing by a key that is unique and stays, read while other calls are served. -/
theorem reader_complete {α κ : Type} {le : κ → κ → Prop} [DecidableRel le] [Std.Total le] [IsTrans κ le]
    [Std.Antisymm le] {key : α → κ} {rows : ApiState → List α}
    (distinct : ∀ s, s.Constrained → ((rows s).map key).Nodup)
    (grown : ∀ s t, s.Grows t → (rows s).map key ⊆ (rows t).map key) (sound : first.Constrained)
    (chain : (first :: later).IsChain (ApiState.Run zones env)) {got : List α}
    (ended : Paging.read limit 0 ((first :: later).map fun s => Paging.page (Paging.ordered le key (rows s))) =
      some got) : ∀ x ∈ rows first, key x ∈ got.map key := by
  have listings : ((first :: later).map fun s => Paging.ordered le key (rows s)).IsChain fun before after =>
      (before.map key).Sublist (after.map key) := by
    refine List.isChain_map_of_isChain _ ?_ (chain_grows sound chain)
    exact fun s t ⟨constrained, grows⟩ => Paging.ordered_grows (distinct s constrained) (grown s t grows)
  have asked : ((first :: later).map fun s => Paging.ordered le key (rows s)).map Paging.page =
      (first :: later).map fun s => Paging.page (Paging.ordered le key (rows s)) := List.map_map ..
  intro x member
  exact Paging.read_complete listings (asked ▸ ended) x (List.drop_zero ▸ Paging.mem_ordered.mpr member)

theorem selected_nodup {positions : List InventoryPosition} (distinct : (positions.map InventoryPosition.key).Nodup)
    (warehouseId productId : Option Id) :
    ((positions.filter (selected warehouseId productId)).map InventoryPosition.key).Nodup :=
  distinct.sublist (List.filter_sublist.map _)

/-- The filters look at the key only. -/
theorem selected_grows {positions more : List InventoryPosition}
    (grown : positions.map InventoryPosition.key ⊆ more.map InventoryPosition.key) (warehouseId productId : Option Id) :
    (positions.filter (selected warehouseId productId)).map InventoryPosition.key ⊆
      (more.filter (selected warehouseId productId)).map InventoryPosition.key := by
  intro place member
  obtain ⟨p, kept, rfl⟩ := List.mem_map.mp member
  obtain ⟨present, chosen⟩ := List.mem_filter.mp kept
  obtain ⟨q, there, same⟩ := List.mem_map.mp (grown (List.mem_map_of_mem present))
  refine List.mem_map.mpr ⟨q, List.mem_filter.mpr ⟨there, ?_⟩, same⟩
  obtain ⟨warehouse, product⟩ := Prod.mk.inj same
  unfold selected at chosen ⊢
  rw [warehouse, product]
  exact chosen

/-- Whoever reads a listing until a page comes short has seen every row that was there at the first page, whatever
calls were served between one page and the next. -/
theorem listings_miss_nothing (collation : Collation) (sound : first.Constrained)
    (chain : (first :: later).IsChain (ApiState.Run zones env)) (limit : Nat) :
    (∀ got, Paging.read limit 0 ((first :: later).map (listSuppliers collation)) = some got →
        ∀ s ∈ first.catalog.suppliers, s.code ∈ got.map fun s => s.code) ∧
      (∀ got, Paging.read limit 0 ((first :: later).map (listProducts collation)) = some got →
        ∀ p ∈ first.catalog.products, p.sku ∈ got.map Product.sku) ∧
      (∀ got, Paging.read limit 0 ((first :: later).map (listWarehouses collation)) = some got →
        ∀ w ∈ first.catalog.warehouses, w.code ∈ got.map Warehouse.code) ∧
      ∀ warehouseId productId got,
        Paging.read limit 0 ((first :: later).map (listInventory warehouseId productId)) = some got →
        ∀ p ∈ first.imports.positions, selected warehouseId productId p = true →
          p.key ∈ got.map InventoryPosition.key := by
  refine ⟨?_, ?_, ?_, ?_⟩
  · exact fun got ended => reader_complete (fun s constrained => constrained.catalog.supplierCodes)
      (fun s t grows => List.map_subset _ grows.catalog.suppliers) sound chain ended
  · exact fun got ended => reader_complete (fun s constrained => constrained.catalog.productSkus)
      (fun s t grows => List.map_subset _ grows.catalog.products) sound chain ended
  · exact fun got ended => reader_complete (fun s constrained => constrained.catalog.warehouseCodes)
      (fun s t grows => List.map_subset _ grows.catalog.warehouses) sound chain ended
  · intro warehouseId productId got ended p present chosen
    refine reader_complete (fun s constrained => selected_nodup constrained.importKeys.positions _ _)
      (fun s t grows => selected_grows grows.places _ _) sound chain ended p ?_
    exact List.mem_filter.mpr ⟨present, chosen⟩

end

/-! ### A second supplier

It comes between two pages, and before the supplier that is there. -/

namespace SmallDesk

/-- By code points. -/
def codePoints : Collation where
  le s t := s ≤ t
  decides _ _ := inferInstance
  total := le_total
  trans _ _ _ := le_trans
  antisymm _ _ := le_antisymm

theorem acme_bounds : 2 ≤ "ACME".length ∧ "ACME".length ≤ 100 := by decide

theorem acme_pattern : codePattern "ACME".toList = true := by decide

def acme : List (ApiLabel zones) := [.serve (received 7) (supplier ⟨"ACME", acme_bounds, acme_pattern⟩)]

theorem two_suppliers : ∃ first second, ApiState.Run zones env {} first ∧ ApiState.Run zones env first second ∧
    first.catalog.suppliers.length = 1 ∧ second.catalog.suppliers.length = 2 := by
  have shown : (Machine.exec (ApiState.step env) ({} : ApiState) delivery).any (fun first =>
      decide (first.catalog.suppliers.length = 1) &&
        (Machine.exec (ApiState.step env) first acme).any fun second =>
          decide (second.catalog.suppliers.length = 2)) = true := by decide +kernel
  simp only [Option.any_eq_true, Bool.and_eq_true, decide_eq_true_eq] at shown
  obtain ⟨first, opened, one, second, added, two⟩ := shown
  have run : ApiState.Run zones env {} first := Machine.exec_run (fun _ _ _ => trivial) opened
  have later : ApiState.Run zones env first second := Machine.exec_run (fun _ _ _ => trivial) added
  exact ⟨first, second, run, later, one, two⟩

end SmallDesk

theorem listings_miss_nothing_overtaken : ∃ first second got,
    first.catalog.suppliers.length = 1 ∧ second.catalog.suppliers.length = 2 ∧
      Paging.read 1 0 ([first, second, second].map (listSuppliers SmallDesk.codePoints)) = some got ∧
      ∀ s ∈ first.catalog.suppliers, s.code ∈ got.map fun s => s.code := by
  obtain ⟨first, second, run, later, one, two⟩ := SmallDesk.two_suppliers
  have chain : [first, second, second].IsChain (ApiState.Run SmallDesk.zones SmallDesk.env) :=
    .cons_cons later (.cons_cons (.refl second) (.singleton second))
  let rows (s : ApiState) : List SupplierRow :=
    Paging.ordered SmallDesk.codePoints.le (fun s => s.code) s.catalog.suppliers
  have few : ∀ listing ∈ [rows first, rows second, rows second],
      listing.length < 0 + [rows first, rows second, rows second].length * 1 := by
    intro listing member
    simp only [List.mem_cons, List.not_mem_nil, or_false] at member
    rcases member with rfl | rfl | rfl <;> rw [Paging.length_ordered] <;> simp [one, two]
  obtain ⟨got, ended⟩ := Paging.read_ends Nat.one_pos (List.cons_ne_nil _ _) few
  have missed := (listings_miss_nothing SmallDesk.codePoints (ApiState.run_constrained ApiState.empty_constrained run)
    chain 1).1
  exact ⟨first, second, got, one, two, ended, missed got ended⟩

end SupplyChainHub
