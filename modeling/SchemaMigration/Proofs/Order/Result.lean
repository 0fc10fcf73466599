import Mathlib.Data.List.Nodup
import SchemaMigration.Proofs.Order.Placement

/-!
# What ordering hands out

`order` describes the references, walks over the described tables, and hands out the literal names
and then the placed models.  `order_ok` takes a successful run apart once and for all: the order is
the list of places of a finished walk, on which the walk's invariant holds, which has placed every
table that it knows, and on a stage of which each model was placed.

The vocabulary of statements about the order stands here too: `Listed` tables, one model that
`Precedes` another, `DependsOn`, the dependencies inside the order, and `InOrder`, what an order
topological up to cycles says of a model and one that it refers to.
-/

namespace SchemaMigration

open Relation (ReflTransGen TransGen)

/-- A table that some reference of the list describes. -/
def Listed (reg : Registry) (refs : List ModelRef) (t : String) : Prop :=
  ∃ ref ∈ refs, ∃ m, ref.resolve reg = .ok (.model m) ∧ m.table = t

/-- Model `b` stands before model `a`: wherever the order is cut at `a`, the part before the cut
holds `b`. -/
def Precedes (out : List ResolvedModel) (b a : Model) : Prop :=
  ∀ xs ys, out = xs ++ .model a :: ys → .model b ∈ xs

/-- Table `t` depends on table `u` inside the order: both are described there, and a foreign key of
the model of `t` refers to `u`. -/
def DependsOn (out : List ResolvedModel) (t u : String) : Prop :=
  (∃ a, .model a ∈ out ∧ a.table = t ∧ ∃ k ∈ a.dependencies, k.referencedTable = u) ∧
    ∃ b, .model b ∈ out ∧ b.table = u

/-- Model `b`, to which model `a` refers, is where it should be: before `a`, unless its table leads
back to that of `a`. -/
def InOrder (out : List ResolvedModel) (a b : Model) : Prop :=
  Precedes out b a ∨ TransGen (DependsOn out) b.table a.table

/-- A table that is reached from one it refers to lies on a cycle, be it of one key only. -/
theorem inOrder_of_reaches {out : List ResolvedModel} {a b : Model} {k : ForeignKey}
    (ha : .model a ∈ out) (hb : .model b ∈ out) (hk : k ∈ a.dependencies)
    (hkb : k.referencedTable = b.table)
    (h : Precedes out b a ∨ ReflTransGen (DependsOn out) b.table a.table) : InOrder out a b := by
  have hedge : DependsOn out a.table b.table := ⟨⟨a, ha, rfl, k, hk, hkb⟩, b, hb, rfl⟩
  rcases h with hp | hr
  · exact Or.inl hp
  · rcases Relation.reflTransGen_iff_eq_or_transGen.mp hr with heq | ht
    · exact Or.inr (TransGen.single (heq ▸ hedge))
    · exact Or.inr ht

/-! ## The described references -/

theorem mem_describeAll {reg : Registry} {refs : List ModelRef} {ms : List Model} {m : Model}
    (h : describeAll reg refs = .ok ms) :
    m ∈ ms ↔ ∃ ref ∈ refs, ref.resolve reg = .ok (.model m) := by
  induction refs generalizing ms with
  | nil =>
    cases h
    simp
  | cons ref refs ih =>
    rw [describeAll] at h
    split at h
    · cases h
    · next t ht =>
      rw [ih h]
      simp [ht]
    · next n hn =>
      split at h
      · cases h
      · next ns hns =>
        cases h
        rw [List.mem_cons, ih hns]
        simp [hn, eq_comm]

theorem mem_tables_describeTable {m : Model} {ms : List Model} {t : String} :
    t ∈ (describeTable m ms).map (·.table) ↔ t = m.table ∨ t ∈ ms.map (·.table) := by
  induction ms with
  | nil => simp [describeTable]
  | cons known rest ih =>
    rw [describeTable]
    split
    · next h => simp [h]
    · rw [List.map_cons, List.mem_cons, ih, List.map_cons, List.mem_cons]
      exact or_left_comm

/-- A description for a table that is described already takes the place of the other one. -/
theorem nodup_describeTable {m : Model} {ms : List Model} (h : (ms.map (·.table)).Nodup) :
    ((describeTable m ms).map (·.table)).Nodup := by
  induction ms with
  | nil => simp [describeTable]
  | cons known rest ih =>
    rw [List.map_cons, List.nodup_cons] at h
    rw [describeTable]
    split
    · next hk =>
      rw [List.map_cons, List.nodup_cons, ← hk]
      exact h
    · next hk =>
      rw [List.map_cons, List.nodup_cons, mem_tables_describeTable]
      exact ⟨fun hm => hm.elim hk h.1, ih h.2⟩

/-- The descriptions known at the start of the walk, of several ones for a table the last. -/
def describedTables (listed : List Model) : List Model :=
  listed.foldl (fun known m => describeTable m known) []

theorem foldl_describeTable :
    ∀ (listed known : List Model), (known.map (·.table)).Nodup →
      ((listed.foldl (fun known m => describeTable m known) known).map (·.table)).Nodup ∧
      ∀ t, t ∈ (listed.foldl (fun known m => describeTable m known) known).map (·.table) ↔
        t ∈ known.map (·.table) ∨ t ∈ listed.map (·.table) := by
  intro listed
  induction listed with
  | nil =>
    intro known h
    exact ⟨h, fun t => by simp⟩
  | cons m listed ih =>
    intro known h
    obtain ⟨hn, ht⟩ := ih _ (nodup_describeTable (m := m) h)
    refine ⟨hn, fun t => ?_⟩
    rw [List.foldl_cons, ht t, mem_tables_describeTable, List.map_cons, List.mem_cons, or_assoc]
    exact or_left_comm

theorem nodup_describedTables (listed : List Model) :
    ((describedTables listed).map (·.table)).Nodup :=
  (foldl_describeTable listed [] (by simp)).1

theorem mem_describedTables {reg : Registry} {refs : List ModelRef} {listed : List Model}
    (h : describeAll reg refs = .ok listed) {t : String} :
    t ∈ (describedTables listed).map (·.table) ↔ Listed reg refs t := by
  rw [describedTables, (foldl_describeTable listed [] (by simp)).2 t]
  constructor
  · rintro (ht | ht)
    · simp at ht
    · obtain ⟨m, hm, rfl⟩ := List.mem_map.mp ht
      obtain ⟨ref, hr, hm⟩ := (mem_describeAll h).mp hm
      exact ⟨ref, hr, m, hm, rfl⟩
  · rintro ⟨ref, hr, m, hm, rfl⟩
    exact Or.inr (List.mem_map.mpr ⟨m, (mem_describeAll h).mpr ⟨ref, hr, hm⟩, rfl⟩)

/-- Whatever a handle describes is described in the registry. -/
theorem Registry.mem_tables {reg : Registry} {s : Source} {m : Model}
    (h : reg.describe s = .ok m) : m.table ∈ reg.tables := by
  unfold Registry.describe at h
  split at h
  · next d hd =>
    rw [Registry.tables, List.mem_filterMap]
    have hmem : d ∈ reg.entries := Array.mem_of_getElem? hd
    exact ⟨d, by simpa using hmem, by rw [h]⟩
  · cases h

/-! ## A successful run -/

/-- In the course of ordering the references, model `a` is placed on the walk `v`. -/
def PlacedAt (reg : Registry) (discover : Bool) (refs : List ModelRef) (a : Model) (v : Walk) :
    Prop :=
  ∃ listed before t after w, describeAll reg refs = .ok listed ∧
    (describedTables listed).map (·.table) = before ++ t :: after ∧
    before.foldlM (Walk.place reg discover ((describedTables listed).map (·.table) ++ reg.tables))
      { known := describedTables listed } = .ok w ∧
    Walk.PlacedOn reg discover a v ((describedTables listed).map (·.table) ++ reg.tables) w t

/-- The walk at the end of a successful run: it knows the described references, the invariant holds,
every known table is placed, each place was taken on some walk, and such a walk was a stage of this
one. -/
structure Finished (reg : Registry) (discover : Bool) (refs : List ModelRef) (w : Walk) : Prop where
  described : ∃ listed, describeAll reg refs = .ok listed ∧ describedTables listed ⊆ w.known
  inv : ∃ all, w.WInv reg discover (Listed reg refs) all
  complete : ∀ t, w.knows t = true → w.hasPlaced t = true
  placedAt : ∀ a ∈ w.placed, ∃ v, PlacedAt reg discover refs a v
  staged : ∀ a v, PlacedAt reg discover refs a v →
    (∃ all, Walk.Stage reg discover (Listed reg refs) all a v) ∧
      Walk.Extends { v with placed := v.placed ++ [a] } w

/-- The order that a finished walk gives: literal names, then the places. -/
def orderOf (refs : List ModelRef) (w : Walk) : List ResolvedModel :=
  (refs.filterMap (·.literal?)).map .table ++ w.placed.map .model

/-- At the start the invariant holds: nothing is placed, and what is known is listed. -/
theorem start_winv {reg : Registry} {refs : List ModelRef} {listed : List Model}
    (h : describeAll reg refs = .ok listed) (discover : Bool) (found : List String) :
    Walk.WInv reg discover (Listed reg refs) ((describedTables listed).map (·.table) ++ found)
      { known := describedTables listed } := by
  refine ⟨?_, ?_, ?_, nodup_describedTables listed, by simp, by simp, by simp⟩
  · intro t ht
    obtain ⟨m, hm, hmt⟩ := List.mem_map.mp ((mem_describedTables h).mpr ht)
    exact Walk.knows_iff.mpr ⟨m, hm, hmt⟩
  · intro m hm
    exact List.mem_append_left _ (List.mem_map.mpr ⟨m, hm, rfl⟩)
  · intro m hm
    exact Or.inl ((mem_describedTables h).mp (List.mem_map.mpr ⟨m, hm, rfl⟩))

/-- A successful run places the tables of the described references one after the other. -/
theorem order_run {reg : Registry} {discover : Bool} {refs : List ModelRef}
    {out : List ResolvedModel} (h : order reg discover refs = .ok out) :
    ∃ listed w, describeAll reg refs = .ok listed ∧
      ((describedTables listed).map (·.table)).foldlM (Walk.place reg discover
        ((describedTables listed).map (·.table) ++ reg.tables))
        { known := describedTables listed } = .ok w ∧
      out = orderOf refs w := by
  unfold order at h
  split at h
  · cases h
  · next listed hl =>
    dsimp only at h
    split at h
    · cases h
    · next w hw =>
      cases h
      exact ⟨listed, w, hl, hw, rfl⟩

/-- The walk at the end of such a run is finished. -/
theorem Finished.of_run {reg : Registry} {discover : Bool} {refs : List ModelRef}
    {listed : List Model} {w : Walk} (hl : describeAll reg refs = .ok listed)
    (hw : ((describedTables listed).map (·.table)).foldlM (Walk.place reg discover
      ((describedTables listed).map (·.table) ++ reg.tables))
      { known := describedTables listed } = .ok w) : Finished reg discover refs w := by
  have hreg : ∀ s n, reg.describe s = .ok n →
      n.table ∈ (describedTables listed).map (·.table) ++ reg.tables :=
    fun s n hn => List.mem_append_right _ (Registry.mem_tables hn)
  have hinit := start_winv hl discover reg.tables
  have hroots : ∀ t ∈ (describedTables listed).map (·.table),
      ({ known := describedTables listed } : Walk).knows t = true :=
    fun t ht => hinit.knowsBase t ((mem_describedTables hl).mp ht)
  obtain ⟨hst, hp⟩ := Walk.placeAll_inv hreg _ hroots hinit hw
  refine ⟨⟨listed, hl, hst.ext.known.subset⟩, ⟨_, hst.inv⟩, fun t ht => ?_, fun a ha => ?_,
    fun a v hv => ?_⟩
  · -- What is known was a root, or was learned on the way and placed there.
    rcases hst.learned t ht with h₁ | h₁
    · obtain ⟨m, hm, hmt⟩ := Walk.knows_iff.mp h₁
      exact hp t (List.mem_map.mpr ⟨m, hm, hmt⟩)
    · exact h₁
  · rcases Walk.foldlM_places (Walk.exists_placedOn _) hw ha with ha |
      ⟨before, t, after, u, hts, hu, v, hv⟩
    · exact absurd ha (by simp)
    · exact ⟨v, listed, before, t, after, u, hl, hts, hu, hv⟩
  · obtain ⟨listed', before, t, after, u, hl', hts, hu, hv⟩ := hv
    cases hl.symm.trans hl'
    rw [hts] at hroots
    obtain ⟨hstage, hext⟩ := Walk.placeAll_stage hreg hroots hinit (by rw [← hts]; exact hw) hu hv
    exact ⟨⟨_, hstage⟩, hext⟩

/-- A successful run hands out the literal names and then the places of a finished walk. -/
theorem order_ok {reg : Registry} {discover : Bool} {refs : List ModelRef}
    {out : List ResolvedModel} (h : order reg discover refs = .ok out) :
    ∃ w, Finished reg discover refs w ∧ out = orderOf refs w := by
  obtain ⟨listed, w, hl, hw, hout⟩ := order_run h
  exact ⟨w, Finished.of_run hl hw, hout⟩

/-! ## Reading the order off the walk -/

section

variable {reg : Registry} {discover : Bool} {refs : List ModelRef} {w : Walk}

theorem table_mem_orderOf {name : String} :
    .table name ∈ orderOf refs w ↔ .table name ∈ refs := by
  unfold orderOf
  rw [List.mem_append, List.mem_map, List.mem_map]
  constructor
  · rintro (⟨t, ht, heq⟩ | ⟨_, -, heq⟩)
    · obtain ⟨ref, href, hlit⟩ := List.mem_filterMap.mp ht
      cases ref <;> cases hlit
      cases heq
      exact href
    · cases heq
  · exact fun href => Or.inl ⟨name, List.mem_filterMap.mpr ⟨.table name, href, rfl⟩, rfl⟩

theorem model_mem_orderOf {a : Model} : .model a ∈ orderOf refs w ↔ a ∈ w.placed := by
  simp [orderOf]

theorem descriptions_orderOf (refs : List ModelRef) (w : Walk) :
    (orderOf refs w).filterMap (·.description?) = w.placed := by
  have ht : (fun r : ResolvedModel => r.description?) ∘ ResolvedModel.table = fun _ => none := rfl
  have hm : (fun r : ResolvedModel => r.description?) ∘ ResolvedModel.model = some := rfl
  rw [orderOf, List.filterMap_append, List.filterMap_map, List.filterMap_map, ht, hm]
  simp

/-- A cut of the order at a model is a cut of the places. -/
theorem placed_of_orderOf {a : Model} {xs ys : List ResolvedModel}
    (h : orderOf refs w = xs ++ .model a :: ys) :
    w.placed = xs.filterMap (·.description?) ++ a :: ys.filterMap (·.description?) := by
  rw [← descriptions_orderOf refs w, h, List.filterMap_append]
  rfl

/-- A cut of the places is a cut of the order. -/
theorem orderOf_of_placed {a : Model} {xs ys : List Model} (h : w.placed = xs ++ a :: ys) :
    orderOf refs w =
      ((refs.filterMap (·.literal?)).map .table ++ xs.map .model) ++ .model a :: ys.map .model := by
  rw [orderOf, h]
  simp

/-- A prefix without `a` ends before a cut at `a`. -/
theorem prefix_of_not_mem {α : Type} {l xs ys : List α} {a : α} (h : l <+: xs ++ a :: ys)
    (ha : a ∉ l) : l <+: xs := by
  rcases List.prefix_or_prefix_of_prefix h (List.prefix_append xs (a :: ys)) with hl | ⟨bs, rfl⟩
  · exact hl
  · cases bs with
    | nil => simp
    | cons b bs =>
      rw [List.prefix_append_right_inj, List.cons_prefix_cons] at h
      exact absurd (h.1 ▸ by simp) ha

/-- A prefix with `a` reaches beyond the first cut at `a`. -/
theorem prefix_of_mem {α : Type} {l xs ys : List α} {a : α} (h : l <+: xs ++ a :: ys)
    (ha : a ∈ l) (hxs : a ∉ xs) : xs <+: l := by
  rcases List.prefix_or_prefix_of_prefix h (List.prefix_append xs (a :: ys)) with hl | hl
  · exact absurd (hl.subset ha) hxs
  · exact hl

/-- A model that is placed behind a part of the walk stands behind the models of this part. -/
theorem precedes_of_prefix {placed : List Model} {a b : Model} (hplaced : placed <+: w.placed)
    (hb : b ∈ placed) (ha : a ∉ placed) : Precedes (orderOf refs w) b a := by
  intro xs ys hs
  have hpart : placed <+: xs.filterMap (·.description?) :=
    prefix_of_not_mem (placed_of_orderOf hs ▸ hplaced) ha
  obtain ⟨x, hx, hxb⟩ := List.mem_filterMap.mp (hpart.subset hb)
  cases x with
  | table name => cases hxb
  | model o =>
    cases hxb
    exact hx

theorem eq_of_table_eq {ms : List Model} (h : (ms.map (·.table)).Nodup) {a b : Model}
    (ha : a ∈ ms) (hb : b ∈ ms) (hab : a.table = b.table) : a = b := by
  induction ms with
  | nil => exact absurd ha (by simp)
  | cons m ms ih =>
    rw [List.map_cons, List.nodup_cons] at h
    rcases List.mem_cons.mp ha with rfl | ha' <;> rcases List.mem_cons.mp hb with rfl | hb'
    · rfl
    · exact absurd (List.mem_map.mpr ⟨b, hb', hab.symm⟩) h.1
    · exact absurd (List.mem_map.mpr ⟨a, ha', hab⟩) h.1
    · exact ih h.2 ha' hb'

/-- A finished walk has placed every model that it knows. -/
theorem Finished.placed (hw : Finished reg discover refs w) {m : Model} (hm : m ∈ w.known) :
    m ∈ w.placed := by
  obtain ⟨_, hinv⟩ := hw.inv
  obtain ⟨n, hn, hnm⟩ := Walk.hasPlaced_iff.mp (hw.complete _ (Walk.knows_iff.mpr ⟨m, hm, rfl⟩))
  rw [← eq_of_table_eq hinv.knownOnce (hinv.placedKnown hn) hm hnm]
  exact hn

/-- Every listed table is placed. -/
theorem Finished.placed_of_listed (hw : Finished reg discover refs w) {t : String}
    (ht : Listed reg refs t) : ∃ b ∈ w.placed, b.table = t := by
  obtain ⟨_, hinv⟩ := hw.inv
  exact Walk.hasPlaced_iff.mp (hw.complete t (hinv.knowsBase t ht))

/-- Without discovery only listed tables are placed. -/
theorem Finished.listed_of_placed (hw : Finished reg false refs w) {m : Model}
    (hm : m ∈ w.placed) : Listed reg refs m.table := by
  obtain ⟨_, hinv⟩ := hw.inv
  rcases hinv.origin m (hinv.placedKnown hm) with h | h
  · exact h
  · exact absurd h.1 Bool.false_ne_true

/-- A table is known in time for a model if it is known on the walk on which the model is placed. -/
def KnownInTime (reg : Registry) (discover : Bool) (refs : List ModelRef) (a : Model) (t : String) :
    Prop :=
  ∃ v, PlacedAt reg discover refs a v ∧ v.knows t = true

/-- The models before another one are those that were placed when it was placed. -/
theorem Finished.precedes_iff (hw : Finished reg discover refs w) {a b : Model} {v : Walk}
    (hv : PlacedAt reg discover refs a v) : Precedes (orderOf refs w) b a ↔ b ∈ v.placed := by
  obtain ⟨_, hinv⟩ := hw.inv
  obtain ⟨rest, hrest⟩ := (hw.staged a v hv).2.placed
  have hcut : w.placed = v.placed ++ a :: rest := by
    rw [← hrest]
    simp
  have honce := List.Nodup.of_map _ hinv.placedOnce
  rw [hcut, List.nodup_append] at honce
  constructor
  · intro h
    simpa using h _ _ (orderOf_of_placed hcut)
  · intro hb
    exact precedes_of_prefix ⟨a :: rest, hcut.symm⟩ hb fun ha => honce.2.2 a ha a (by simp) rfl

/-- What stands before a model was known in time for it. -/
theorem Finished.knownInTime_of_precedes (hw : Finished reg discover refs w) {a b : Model}
    (ha : a ∈ w.placed) (h : Precedes (orderOf refs w) b a) :
    KnownInTime reg discover refs a b.table := by
  obtain ⟨v, hv⟩ := hw.placedAt a ha
  obtain ⟨⟨_, hstage⟩, -⟩ := hw.staged a v hv
  exact ⟨v, hv, Walk.knows_iff.mpr ⟨b, hstage.inv.placedKnown ((hw.precedes_iff hv).mp h), rfl⟩⟩

/-- What a foreign key of a model foresees is known in time for the model, and for all models behind
it. -/
theorem Finished.knownInTime_of_foresees (hw : Finished reg discover refs w) {a x : Model}
    {k : ForeignKey} (ha : a ∈ w.placed) (hx : x = a ∨ Precedes (orderOf refs w) x a)
    (hk : k ∈ x.dependencies) (hf : k.Foresees reg discover (Listed reg refs)) :
    KnownInTime reg discover refs a k.referencedTable := by
  obtain ⟨v, hv⟩ := hw.placedAt a ha
  obtain ⟨⟨_, hstage⟩, -⟩ := hw.staged a v hv
  refine ⟨v, hv, ?_⟩
  rcases hx with rfl | hx
  · exact hstage.foreseen k hk hf
  · exact hstage.inv.foreseen x ((hw.precedes_iff hv).mp hx) k hk hf

/-- A model that another one refers to stands before it or leads back to it, when its table is known
in time. -/
theorem Finished.precedes (hw : Finished reg discover refs w) {a b : Model} {k : ForeignKey}
    (hb : b ∈ w.placed) (hk : k ∈ a.dependencies) (hkb : k.referencedTable = b.table)
    (hknown : KnownInTime reg discover refs a b.table) :
    Precedes (orderOf refs w) b a ∨ w.Reaches reg discover b.table a.table := by
  obtain ⟨_, hinv⟩ := hw.inv
  obtain ⟨v, hv, hkn⟩ := hknown
  obtain ⟨⟨_, hstage⟩, hext⟩ := hw.staged a v hv
  rw [hw.precedes_iff hv]
  rcases hstage.met k hk (hkb ▸ hkn) with hp | hr
  · obtain ⟨n, hn, hnb⟩ := Walk.hasPlaced_iff.mp hp
    have hnw : n ∈ w.placed := hext.placed.subset (List.mem_append_left _ hn)
    cases eq_of_table_eq hinv.placedOnce hnw hb (hnb.trans hkb)
    exact Or.inl hn
  · exact Or.inr (hkb ▸ hext.reaches hr)

end

end SchemaMigration
