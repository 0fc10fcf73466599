import SchemaMigration.Migration.Error
import SchemaMigration.Proofs.Order.Acyclic

/-!
# Nothing is lost, and nothing stands twice

Ordering describes the references one by one, keeps one description for each table, and places the
tables.  What can go wrong on the way is a reference that cannot be described, and nothing else: a
walk without discovery never fails.  What can get lost is an earlier description of a table that is
described again, and nothing else.

> `describedTables` holds a description exactly when no later one is for the same table
> (`mem_describedTables_iff`).

A finished walk without discovery has placed these and no others, each once, whatever cycles they
lie on and whatever their foreign keys refer to (`order_complete`).
-/

namespace SchemaMigration

/-- A reference to `m` is the last one that describes its table. -/
def LastListed (reg : Registry) (refs : List ModelRef) (m : Model) : Prop :=
  ∃ before ref after, refs = before ++ ref :: after ∧ ref.resolve reg = .ok (.model m) ∧
    ∀ r ∈ after, ∀ n, r.resolve reg = .ok (.model n) → n.table ≠ m.table

/-- The first reference that cannot be described fails for this reason. -/
def FirstFailing (reg : Registry) (refs : List ModelRef) (e : SchemaError) : Prop :=
  ∃ before ref after, refs = before ++ ref :: after ∧
    (∀ r ∈ before, ∃ x, r.resolve reg = .ok x) ∧ ref.resolve reg = .error e

/-- The description behind a reference that can be described and is not literal. -/
def ModelRef.described? (reg : Registry) (ref : ModelRef) : Option Model :=
  match ref.resolve reg with
  | .ok (.model m) => some m
  | _ => none

section

variable {reg : Registry} {refs : List ModelRef} {listed : List Model}

theorem ModelRef.described?_eq_some {ref : ModelRef} {m : Model} :
    ref.described? reg = some m ↔ ref.resolve reg = .ok (.model m) := by
  unfold described?
  split
  · next n hn => simp [hn]
  · next hno =>
    constructor
    · intro h
      cases h
    · intro h
      exact absurd h (hno m)

theorem LastListed.listed_table {m : Model} (h : LastListed reg refs m) :
    Listed reg refs m.table := by
  obtain ⟨before, ref, after, rfl, hm, -⟩ := h
  exact ⟨ref, by simp, m, hm, rfl⟩

/-! ## Describing the references -/

/-- The descriptions are in the order of the references. -/
theorem describeAll_eq (h : describeAll reg refs = .ok listed) :
    listed = refs.filterMap (·.described? reg) := by
  induction refs generalizing listed with
  | nil =>
    cases h
    rfl
  | cons ref refs ih =>
    rw [describeAll] at h
    split at h
    · cases h
    · next t ht =>
      have hnone : ref.described? reg = none := by rw [ModelRef.described?, ht]
      rw [List.filterMap_cons_none hnone]
      exact ih h
    · next m hm =>
      split at h
      · cases h
      · next ms hms =>
        cases h
        rw [List.filterMap_cons_some (ModelRef.described?_eq_some.mpr hm), ih hms]

/-- Describing fails exactly for the reason of the first reference that cannot be described. -/
theorem describeAll_error_iff {e : SchemaError} :
    describeAll reg refs = .error e ↔ FirstFailing reg refs e := by
  induction refs with
  | nil =>
    constructor
    · intro h
      cases h
    · rintro ⟨before, ref, after, h, -, -⟩
      exact absurd h (by simp)
  | cons ref refs ih =>
    -- What the rest fails for, the whole list fails for if its first reference can be described.
    have hrest : (∃ x, ref.resolve reg = .ok x) →
        (FirstFailing reg (ref :: refs) e ↔ FirstFailing reg refs e) := by
      rintro ⟨x, hx⟩
      constructor
      · rintro ⟨before, r, after, hsplit, hbefore, hr⟩
        rcases List.cons_eq_append_iff.mp hsplit with ⟨rfl, hcons⟩ | ⟨rest, rfl, hrefs⟩
        · cases hcons
          rw [hx] at hr
          cases hr
        · exact ⟨rest, r, after, hrefs, fun y hy => hbefore y (List.mem_cons_of_mem _ hy), hr⟩
      · rintro ⟨before, r, after, rfl, hbefore, hr⟩
        refine ⟨ref :: before, r, after, rfl, fun y hy => ?_, hr⟩
        rcases List.mem_cons.mp hy with rfl | hy
        · exact ⟨x, hx⟩
        · exact hbefore y hy
    rw [describeAll]
    cases hr : ref.resolve reg with
    | error e' =>
      constructor
      · intro h
        cases h
        exact ⟨[], ref, refs, rfl, by simp, hr⟩
      · rintro ⟨before, r, after, hsplit, hbefore, hfail⟩
        rcases List.cons_eq_append_iff.mp hsplit with ⟨rfl, hcons⟩ | ⟨rest, rfl, -⟩
        · cases hcons
          exact hr.symm.trans hfail ▸ rfl
        · obtain ⟨x, hx⟩ := hbefore ref (by simp)
          rw [hr] at hx
          cases hx
    | ok x =>
      rw [hrest ⟨x, hr⟩, ← ih]
      cases x with
      | table name => rfl
      | model m =>
        cases describeAll reg refs with
        | error e' => rfl
        | ok ms => simp

/-- Describing succeeds exactly when every reference can be described. -/
theorem describeAll_ok_iff :
    (∃ ms, describeAll reg refs = .ok ms) ↔ ∀ ref ∈ refs, ∃ x, ref.resolve reg = .ok x := by
  induction refs with
  | nil => exact ⟨fun _ ref hr => absurd hr (by simp), fun _ => ⟨[], rfl⟩⟩
  | cons ref refs ih =>
    rw [List.forall_mem_cons, ← ih, describeAll]
    cases ref.resolve reg with
    | error e => simp
    | ok x =>
      cases x with
      | table name => simp
      | model m => cases describeAll reg refs <;> simp

/-! ## One description for each table -/

/-- A description is added, and those of other tables stay. -/
theorem mem_describeTable {m x : Model} {ms : List Model} (h : (ms.map (·.table)).Nodup) :
    x ∈ describeTable m ms ↔ x = m ∨ x ∈ ms ∧ x.table ≠ m.table := by
  induction ms with
  | nil => simp [describeTable]
  | cons known rest ih =>
    obtain ⟨hnew, hrest⟩ := List.nodup_cons.mp h
    rw [describeTable]
    by_cases hk : known.table = m.table
    · -- The first description gives way, and no other one is for its table.
      have hother : ∀ y ∈ rest, y.table ≠ m.table := fun y hy hym =>
        hnew (List.mem_map.mpr ⟨y, hy, hym.trans hk.symm⟩)
      rw [if_pos hk, List.mem_cons, List.mem_cons]
      constructor
      · rintro (rfl | hx)
        · exact Or.inl rfl
        · exact Or.inr ⟨Or.inr hx, hother x hx⟩
      · rintro (rfl | ⟨rfl | hx, hne⟩)
        · exact Or.inl rfl
        · exact absurd hk hne
        · exact Or.inr hx
    · rw [if_neg hk, List.mem_cons, List.mem_cons, ih hrest]
      constructor
      · rintro (rfl | rfl | ⟨hx, hne⟩)
        · exact Or.inr ⟨Or.inl rfl, hk⟩
        · exact Or.inl rfl
        · exact Or.inr ⟨Or.inr hx, hne⟩
      · rintro (rfl | ⟨rfl | hx, hne⟩)
        · exact Or.inr (Or.inl rfl)
        · exact Or.inl rfl
        · exact Or.inr (Or.inr ⟨hx, hne⟩)

/-- Of several descriptions of a table the last one is kept. -/
theorem mem_foldl_describeTable {x : Model} :
    ∀ (listed known : List Model), (known.map (·.table)).Nodup →
      (x ∈ listed.foldl (fun known m => describeTable m known) known ↔
        (∃ before after, listed = before ++ x :: after ∧ ∀ n ∈ after, n.table ≠ x.table) ∨
          x ∈ known ∧ ∀ n ∈ listed, n.table ≠ x.table) := by
  intro listed
  induction listed with
  | nil => simp
  | cons m listed ih =>
    intro known h
    rw [List.foldl_cons, ih _ (nodup_describeTable h), mem_describeTable h]
    constructor
    · rintro (⟨before, after, rfl, hafter⟩ | ⟨rfl | ⟨hx, hne⟩, hlater⟩)
      · exact Or.inl ⟨m :: before, after, rfl, hafter⟩
      · exact Or.inl ⟨[], listed, rfl, hlater⟩
      · exact Or.inr ⟨hx, List.forall_mem_cons.mpr ⟨hne.symm, hlater⟩⟩
    · rintro (⟨before, after, hsplit, hafter⟩ | ⟨hx, hlater⟩)
      · rcases List.cons_eq_append_iff.mp hsplit with ⟨-, hcons⟩ | ⟨rest, -, hrest⟩
        · cases hcons
          exact Or.inr ⟨Or.inl rfl, hafter⟩
        · exact Or.inl ⟨rest, after, hrest, hafter⟩
      · obtain ⟨hne, hlater⟩ := List.forall_mem_cons.mp hlater
        exact Or.inr ⟨Or.inr ⟨hx, hne.symm⟩, hlater⟩

/-- The walk starts with the last description of each table. -/
theorem mem_describedTables_iff (h : describeAll reg refs = .ok listed) {m : Model} :
    m ∈ describedTables listed ↔ LastListed reg refs m := by
  rw [describedTables, mem_foldl_describeTable listed [] (by simp), describeAll_eq h]
  constructor
  · rintro (⟨before, after, hsplit, hafter⟩ | ⟨hm, -⟩)
    · obtain ⟨l₁, l₂, rfl, -, h₂⟩ := List.filterMap_eq_append_iff.mp hsplit
      obtain ⟨skipped, ref, rest, rfl, -, hr, rfl⟩ := List.filterMap_eq_cons_iff.mp h₂
      refine ⟨l₁ ++ skipped, ref, rest, by simp, ModelRef.described?_eq_some.mp hr,
        fun r hrest n hn => hafter n ?_⟩
      exact List.mem_filterMap.mpr ⟨r, hrest, ModelRef.described?_eq_some.mpr hn⟩
    · exact absurd hm (by simp)
  · rintro ⟨before, ref, after, rfl, hm, hafter⟩
    refine Or.inl ⟨before.filterMap (·.described? reg), after.filterMap (·.described? reg), ?_,
      fun n hn => ?_⟩
    · rw [List.filterMap_append,
        List.filterMap_cons_some (ModelRef.described?_eq_some.mpr hm)]
    · obtain ⟨r, hr, hrn⟩ := List.mem_filterMap.mp hn
      exact hafter r hr n (ModelRef.described?_eq_some.mp hrn)

/-- A finished walk knows the last description of each listed table, and no other one for it. -/
theorem Finished.lastListed_iff {discover : Bool} {w : Walk} (hw : Finished reg discover refs w)
    {m : Model} : LastListed reg refs m ↔ m ∈ w.placed ∧ Listed reg refs m.table := by
  obtain ⟨_, hinv⟩ := hw.inv
  obtain ⟨listed, hl, hknown⟩ := hw.described
  constructor
  · intro hm
    exact ⟨hw.placed (hknown ((mem_describedTables_iff hl).mpr hm)), hm.listed_table⟩
  · rintro ⟨hm, hlist⟩
    obtain ⟨n, hn, hnm⟩ := List.mem_map.mp ((mem_describedTables hl).mpr hlist)
    cases eq_of_table_eq hinv.knownOnce (hinv.placedKnown hm) (hknown hn) hnm.symm
    exact (mem_describedTables_iff hl).mp hn

/-! ## The theorem -/

/-- Without discovery, ordering fails only where describing the references does. -/
theorem order_error_iff {e : SchemaError} :
    order reg false refs = .error e ↔ FirstFailing reg refs e := by
  rw [← describeAll_error_iff]
  cases hl : describeAll reg refs with
  | error e' =>
    rw [order, hl]
    simp
  | ok listed =>
    obtain ⟨out, hout⟩ := order_total hl
    rw [hout]
    simp

/-- **Nothing is lost, and nothing stands twice.**  Ordering without discovery succeeds exactly when
every reference can be described, and else fails for the reason of the first one that cannot.  The
order is the literal names in the order of the references, repetitions included, and then one model
for each described table: the one that is described last. -/
theorem order_complete (reg : Registry) (refs : List ModelRef) :
    ((∃ out, order reg false refs = .ok out) ↔ ∀ ref ∈ refs, ∃ x, ref.resolve reg = .ok x) ∧
    (∀ e, (order reg false refs).mapError MigrationError.parse = .error e ↔
      ∃ cause, FirstFailing reg refs cause ∧ e = .parse cause) ∧
    ∀ out, order reg false refs = .ok out →
      ∃ placed : List Model, out = (refs.filterMap (·.literal?)).map .table ++ placed.map .model ∧
        (placed.map (·.table)).Nodup ∧
        (∀ t, t ∈ placed.map (·.table) ↔ Listed reg refs t) ∧
        ∀ m, m ∈ placed ↔ LastListed reg refs m := by
  refine ⟨?_, fun e => ?_, fun out h => ?_⟩
  · rw [← describeAll_ok_iff]
    constructor
    · rintro ⟨out, h⟩
      obtain ⟨listed, -, hl, -, -⟩ := order_run h
      exact ⟨listed, hl⟩
    · rintro ⟨listed, hl⟩
      exact order_total hl
  · cases ho : order reg false refs with
    | error cause =>
      constructor
      · intro h
        cases h
        exact ⟨cause, order_error_iff.mp ho, rfl⟩
      · rintro ⟨cause', hfirst, rfl⟩
        cases ho.symm.trans (order_error_iff.mpr hfirst)
        rfl
    | ok out =>
      constructor
      · intro h
        cases h
      · rintro ⟨cause, hfirst, -⟩
        cases ho.symm.trans (order_error_iff.mpr hfirst)
  · obtain ⟨w, hw, rfl⟩ := order_ok h
    obtain ⟨_, hinv⟩ := hw.inv
    have hlast : ∀ m, m ∈ w.placed ↔ LastListed reg refs m := by
      intro m
      rw [hw.lastListed_iff]
      exact ⟨fun hm => ⟨hm, hw.listed_of_placed hm⟩, And.left⟩
    refine ⟨w.placed, rfl, hinv.placedOnce, fun t => ⟨fun ht => ?_, fun ht => ?_⟩, hlast⟩
    · obtain ⟨m, hm, rfl⟩ := List.mem_map.mp ht
      exact hw.listed_of_placed hm
    · obtain ⟨m, hm, rfl⟩ := hw.placed_of_listed ht
      exact List.mem_map.mpr ⟨m, hm, rfl⟩

end

/-! ## A list with repetitions, a cycle and a table outside -/

/-- Orders are described twice, and refer to users and then to invoices as well, which are not
listed; users refer to orders and to themselves. -/
def repeatedRefs : List ModelRef :=
  [.model (linked "orders" [("users", none)]), .table "audit_log",
    .model (linked "users" [("orders", none), ("users", none)]), .table "audit_log",
    .model (linked "orders" [("users", none), ("invoices", none)])]

/-- The literal name stands twice, users and orders once, and the orders with both references. -/
theorem order_complete_repeated :
    order {} false repeatedRefs = .ok [.table "audit_log", .table "audit_log",
        .model (linked "users" [("orders", none), ("users", none)]),
        .model (linked "orders" [("users", none), ("invoices", none)])] ∧
      LastListed {} repeatedRefs (linked "orders" [("users", none), ("invoices", none)]) := by
  have h : order {} false repeatedRefs = .ok [.table "audit_log", .table "audit_log",
      .model (linked "users" [("orders", none), ("users", none)]),
      .model (linked "orders" [("users", none), ("invoices", none)])] := by
    with_unfolding_all rfl
  obtain ⟨placed, hout, -, -, hlast⟩ := (order_complete {} repeatedRefs).2.2 _ h
  refine ⟨h, (hlast _).mp ?_⟩
  have hmem : ResolvedModel.model (linked "orders" [("users", none), ("invoices", none)]) ∈
      (repeatedRefs.filterMap (·.literal?)).map .table ++ placed.map .model :=
    hout ▸ by simp
  simpa using hmem

end SchemaMigration
