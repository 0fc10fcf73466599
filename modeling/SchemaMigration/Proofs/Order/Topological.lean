import SchemaMigration.Proofs.Order.Result

/-!
# Referenced tables come first

Without discovery the walk knows all tables from the start, so that every foreign key inside the
list foresees its table.  The order is then topological up to cycles: `order_topological`.
-/

namespace SchemaMigration

open Relation (ReflTransGen TransGen)

/-- What the tables reach in a finished walk without discovery, they reach inside the order. -/
theorem dependsOn_of_leads {reg : Registry} {refs : List ModelRef} {w : Walk} {t u : String}
    (hw : Finished reg false refs w) (h : Leads reg false w.known t u) :
    DependsOn (orderOf refs w) t u := by
  obtain ⟨⟨a, ha, hat, k, hk, hl⟩, b, hb, hbu⟩ := h
  refine ⟨⟨a, model_mem_orderOf.mpr (hw.placed ha), hat, k, hk, ?_⟩,
    b, model_mem_orderOf.mpr (hw.placed hb), hbu⟩
  rcases hl with hl | ⟨hd, -⟩
  · exact hl
  · exact absurd hd Bool.false_ne_true

/-- **The order is topological up to cycles.**  A model that a foreign key of another one refers to
stands before it, or its table leads back to the other's, so that both lie on a cycle.  When no
table of the order lies on a cycle, every listed table stands before all models that refer to it. -/
theorem order_topological {reg : Registry} {refs : List ModelRef} {out : List ResolvedModel}
    (h : order reg false refs = .ok out) :
    (∀ a b k, .model a ∈ out → .model b ∈ out → k ∈ a.dependencies →
      k.referencedTable = b.table → InOrder out a b) ∧
    ((∀ t, ¬ TransGen (DependsOn out) t t) →
      ∀ a k, .model a ∈ out → k ∈ a.dependencies → Listed reg refs k.referencedTable →
        ∃ b, .model b ∈ out ∧ b.table = k.referencedTable ∧ Precedes out b a) := by
  obtain ⟨w, hw, rfl⟩ := order_ok h
  have hcycle : ∀ a b k, .model a ∈ orderOf refs w → .model b ∈ orderOf refs w →
      k ∈ a.dependencies → k.referencedTable = b.table → InOrder (orderOf refs w) a b := by
    intro a b k ha hb hk hkb
    have hlist := hw.listed_of_placed (model_mem_orderOf.mp hb)
    have hknown := hw.knownInTime_of_foresees (model_mem_orderOf.mp ha) (Or.inl rfl) hk
      (Or.inl (hkb ▸ hlist))
    have hp := hw.precedes (model_mem_orderOf.mp hb) hk hkb (hkb ▸ hknown)
    exact inOrder_of_reaches ha hb hk hkb
      (hp.imp_right (ReflTransGen.mono (fun _ _ hl => dependsOn_of_leads hw hl) _ _))
  refine ⟨hcycle, fun hacyclic a k ha hk hlist => ?_⟩
  obtain ⟨b, hb, hbk⟩ := hw.placed_of_listed hlist
  have hb' : .model b ∈ orderOf refs w := model_mem_orderOf.mpr hb
  refine ⟨b, hb', hbk, (hcycle a b k ha hb' hk hbk.symm).resolve_right fun ht => ?_⟩
  exact hacyclic _ (ht.tail ⟨⟨a, ha, rfl, k, hk, hbk.symm⟩, b, hb', rfl⟩)

/-! ## A list with a chain, a cycle and a literal -/

/-- A model with one foreign key for each link: the linked table, and the handle of its model if the
key carries one. -/
def linked (table : String) (links : List (String × Option Source)) : Model where
  table := table
  columns := { field := "id", name := "id", dataType := .int, primaryKey := true } ::
    links.map fun l => { field := l.1, name := l.1 ++ "_id", dataType := .int }
  relationships := links.map fun l =>
    .belongsTo l.1
      { name := "fk_" ++ l.1, table := table, columns := [l.1 ++ "_id"], referencedTable := l.1,
        referencedColumns := ["id"], referencedModel := l.2 }

/-- Orders refer to users, and users and teams to each other. -/
def teamRefs : List ModelRef :=
  [.model (linked "orders" [("users", none)]), .table "audit_log",
    .model (linked "users" [("teams", none)]), .model (linked "teams" [("users", none)])]

/-- The order found for them. -/
def teamOrder : List ResolvedModel :=
  [.table "audit_log", .model (linked "teams" [("users", none)]),
    .model (linked "users" [("teams", none)]), .model (linked "orders" [("users", none)])]

/-- Users stand before the orders that refer to them.  Teams refer to users as well and stand before
them: users lead back to teams. -/
theorem order_topological_teams :
    order {} false teamRefs = .ok teamOrder ∧
      InOrder teamOrder (linked "teams" [("users", none)]) (linked "users" [("teams", none)]) := by
  have h : order {} false teamRefs = .ok teamOrder := by with_unfolding_all rfl
  exact ⟨h, (order_topological h).1 _ _ _ (by simp [teamOrder]) (by simp [teamOrder])
    (List.mem_cons_self ..) rfl⟩

end SchemaMigration
