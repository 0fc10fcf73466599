import SchemaMigration.Proofs.Order.Topological

/-!
# Discovered tables and the models that refer to them

With discovery a table can become known late: the walk passes over a foreign key without a handle
whose table is not known yet, and learns the table behind the handle of another key afterwards.  A
table that does not lead back to a model that refers to it stands before this model exactly when it
is known in time, that is when the model is placed (`order_discovers`).  It is if it is listed, or
if a key of the model, or of a model before it, carries a handle for it.

Otherwise the order can go wrong: a model without handles that is listed before a model with one
stands before the table that both refer to (`order_late`).  So it is where a handle leads to another
table than the one its key refers to (`order_astray`).
-/

namespace SchemaMigration

open Relation (ReflTransGen TransGen)

/-- The handle of a key describes the table that the key refers to. -/
def ForeignKey.Faithful (reg : Registry) (k : ForeignKey) : Prop :=
  ∀ s m, k.referencedModel = some s → reg.describe s = .ok m → m.table = k.referencedTable

/-- With faithful handles, what the tables reach in a finished walk they reach inside the order. -/
theorem dependsOn_of_faithful {reg : Registry} {refs : List ModelRef} {w : Walk} {t u : String}
    (hw : Finished reg true refs w)
    (hf : ∀ x k, .model x ∈ orderOf refs w → k ∈ x.dependencies → k.Faithful reg)
    (h : Leads reg true w.known t u) : DependsOn (orderOf refs w) t u := by
  obtain ⟨⟨a, ha, hat, k, hk, hl⟩, b, hb, hbu⟩ := h
  have ha' : .model a ∈ orderOf refs w := model_mem_orderOf.mpr (hw.placed ha)
  refine ⟨⟨a, ha', hat, k, hk, ?_⟩, b, model_mem_orderOf.mpr (hw.placed hb), hbu⟩
  rcases hl with hl | ⟨-, s, m, hs, hm, hmu⟩
  · exact hl
  · rw [← hf a k ha' hk s m hs hm]
    exact hmu

/-! ## Following a key, by what it carries -/

namespace Walk

variable {reg : Registry} {w : Walk} {k : ForeignKey}

theorem follow_nowhere (hk : w.knows k.referencedTable = false) (hs : k.referencedModel = none) :
    follow reg true w k = .ok (w, none) := by
  rw [follow, if_neg (by simp [hk]), hs]

theorem follow_handle {s : Source} {m : Model} (hk : w.knows k.referencedTable = false)
    (hs : k.referencedModel = some s) (hm : reg.describe s = .ok m) :
    follow reg true w k = .ok (w.learn m, some m.table) := by
  rw [follow, if_neg (by simp [hk]), hs]
  simp [hm]

/-- A model all of whose keys lead nowhere is placed as it is. -/
theorem place_isolated {fresh : List String} {m : Model} (hp : w.hasPlaced m.table = false)
    (hf : m.table ∈ fresh) (hm : w.model? m.table = some m)
    (hk : ∀ k ∈ m.dependencies, follow reg true w k = .ok (w, none)) :
    place reg true fresh w m.table = .ok { w with placed := w.placed ++ [m] } := by
  have hvisit : ∀ ks : List ForeignKey, ks ⊆ m.dependencies →
      ks.foldlM (visit reg true (others m.table fresh)) w = .ok w := by
    intro ks
    induction ks with
    | nil => intro _; rfl
    | cons k ks ih =>
      intro hks
      have hv : visit reg true (others m.table fresh) w k = .ok w := by
        rw [visit, hk k (hks (List.mem_cons_self ..))]
      rw [List.foldlM_cons, hv]
      exact ih fun x hx => hks (List.mem_cons_of_mem _ hx)
  rw [place_fresh hp hf hm, hvisit _ fun _ hx => hx]

/-- A model with a single key is placed after the table that the key leads to. -/
theorem place_single {fresh : List String} {w₁ w₂ : Walk} {m : Model} {next : String}
    (hp : w.hasPlaced m.table = false) (hf : m.table ∈ fresh) (hm : w.model? m.table = some m)
    (hk : m.dependencies = [k]) (hfollow : follow reg true w k = .ok (w₁, some next))
    (hnext : place reg true (others m.table fresh) w₁ next = .ok w₂) :
    place reg true fresh w m.table = .ok { w₂ with placed := w₂.placed ++ [m] } := by
  have hv : visit reg true (others m.table fresh) w k = .ok w₂ := by
    rw [visit, hfollow]
    exact hnext
  rw [place_fresh hp hf hm, hk, List.foldlM_cons, hv]
  rfl

end Walk

/-! ## Where the order goes wrong -/

/-- A model without handles that is listed before a model whose handle discovers the table it refers
to: the discovered model comes between the two. -/
theorem order_late {reg : Registry} {a b c : Model} {k : ForeignKey} {s : Source}
    (hac : a.table ≠ c.table) (hba : b.table ≠ a.table) (hbc : b.table ≠ c.table)
    (ha : ∀ k ∈ a.dependencies, k.referencedModel = none ∧ k.referencedTable ≠ a.table ∧
      k.referencedTable ≠ c.table)
    (hb : b.dependencies = []) (hc : c.dependencies = [k]) (hkb : k.referencedTable = b.table)
    (hks : k.referencedModel = some s) (hs : reg.describe s = .ok b) :
    order reg true [.model a, .model c] = .ok [.model a, .model b, .model c] := by
  have hknown : [a, c].foldl (fun known m => describeTable m known) [] = [a, c] := by
    simp [describeTable, hac]
  have hreg : b.table ∈ reg.tables := Registry.mem_tables hs
  have hplaceA : Walk.place reg true ([a.table, c.table] ++ reg.tables) { known := [a, c] }
      a.table = .ok { known := [a, c], placed := [a] } := by
    refine Walk.place_isolated rfl (by simp) (by simp [Walk.model?]) fun k hk => ?_
    obtain ⟨hn, hka, hkc⟩ := ha k hk
    exact Walk.follow_nowhere (by simp [Walk.knows, hka.symm, hkc.symm]) hn
  have hplaceB : Walk.place reg true (Walk.others c.table ([a.table, c.table] ++ reg.tables))
      { known := [a, c, b], placed := [a] } b.table =
      .ok { known := [a, c, b], placed := [a, b] } := by
    refine Walk.place_isolated (by simp [Walk.hasPlaced, hba.symm]) ?_ ?_ (by simp [hb])
    · exact Walk.mem_others.mpr ⟨List.mem_append_right _ hreg, hbc⟩
    · simp [Walk.model?, hba.symm, hbc.symm]
  have hlearn : Walk.learn { known := [a, c], placed := [a] } b =
      { known := [a, c, b], placed := [a] } := by
    simp [Walk.learn, Walk.knows, hba.symm, hbc.symm]
  have hplaceC : Walk.place reg true ([a.table, c.table] ++ reg.tables)
      { known := [a, c], placed := [a] } c.table =
      .ok { known := [a, c, b], placed := [a, b, c] } := by
    refine Walk.place_single (by simp [Walk.hasPlaced, hac]) (by simp) ?_ hc ?_ hplaceB
    · simp [Walk.model?, hac]
    · rw [Walk.follow_handle ?_ hks hs, hlearn]
      simp [Walk.knows, hkb, hba.symm, hbc.symm]
  simp only [order, describeAll, ModelRef.resolve, hknown, List.map_cons, List.map_nil,
    List.foldlM_cons, List.foldlM_nil, hplaceA, bind, Except.bind, hplaceC]
  rfl

/-- A handle that leads to another table than the one its key refers to: the model behind it stands
before the model it refers to. -/
theorem order_astray {reg : Registry} {a b : Model} {k k' : ForeignKey} {s : Source}
    (hba : b.table ≠ a.table) (ha : a.dependencies = [k]) (hka : k.referencedTable ≠ a.table)
    (hks : k.referencedModel = some s) (hs : reg.describe s = .ok b)
    (hb : b.dependencies = [k']) (hk' : k'.referencedTable = a.table) :
    order reg true [.model a] = .ok [.model b, .model a] := by
  have hreg : b.table ∈ reg.tables := Registry.mem_tables hs
  have hlearn : Walk.learn { known := [a] } b = { known := [a, b] } := by
    simp [Walk.learn, Walk.knows, hba.symm]
  have hback : Walk.place reg true
      (Walk.others b.table (Walk.others a.table ([a.table] ++ reg.tables))) { known := [a, b] }
      a.table = .ok { known := [a, b] } := by
    rw [Walk.place, if_neg (by simp [Walk.hasPlaced]), dif_neg]
    simp [Walk.mem_others]
  have hplaceB : Walk.place reg true (Walk.others a.table ([a.table] ++ reg.tables))
      { known := [a, b] } b.table = .ok { known := [a, b], placed := [b] } := by
    refine Walk.place_single rfl ?_ ?_ hb ?_ hback
    · exact Walk.mem_others.mpr ⟨List.mem_append_right _ hreg, hba⟩
    · simp [Walk.model?, hba.symm]
    · rw [Walk.follow, if_pos (by simp [Walk.knows, hk']), hk']
  have hplaceA : Walk.place reg true ([a.table] ++ reg.tables) { known := [a] } a.table =
      .ok { known := [a, b], placed := [b, a] } := by
    refine Walk.place_single rfl (by simp) (by simp [Walk.model?]) ha ?_ hplaceB
    rw [Walk.follow_handle (by simp [Walk.knows, hka.symm]) hks hs, hlearn]
  simp only [order, describeAll, ModelRef.resolve, List.foldl_cons, List.foldl_nil, describeTable,
    List.map_cons, List.map_nil, List.foldlM_cons, List.foldlM_nil, hplaceA]
  rfl

/-- Nothing leads on from a table whose model has no keys. -/
theorem not_dependsOn_of_no_keys {out : List ResolvedModel} {t u : String}
    (h : ∀ x, .model x ∈ out → x.table = t → x.dependencies = []) :
    ¬ TransGen (DependsOn out) t u := by
  intro ht
  obtain ⟨u, ⟨⟨x, hx, hxt, k, hk, -⟩, -⟩, -⟩ := Relation.TransGen.head'_iff.mp ht
  rw [h x hx hxt] at hk
  exact absurd hk (by simp)

/-- A model without keys that stands behind another one is not where it should be. -/
theorem not_inOrder_late {a b c : Model} (hba : b.table ≠ a.table) (hbc : b.table ≠ c.table)
    (hb : b.dependencies = []) : ¬ InOrder [.model a, .model b, .model c] a b := by
  rintro (hp | ht)
  · exact absurd (hp [] _ rfl) (by simp)
  · refine not_dependsOn_of_no_keys (fun x hx hxb => ?_) ht
    simp only [List.mem_cons, ResolvedModel.model.injEq, List.not_mem_nil, or_false] at hx
    rcases hx with rfl | rfl | rfl
    · exact absurd hxb.symm hba
    · exact hb
    · exact absurd hxb.symm hbc

/-- Nothing leads from a model whose only key refers to a table outside the order. -/
theorem not_inOrder_astray {a b : Model} {k : ForeignKey} (hba : b.table ≠ a.table)
    (ha : a.dependencies = [k]) (hka : k.referencedTable ≠ a.table)
    (hkb : k.referencedTable ≠ b.table) : ¬ InOrder [.model b, .model a] b a := by
  rintro (hp | ht)
  · exact absurd (hp [] _ rfl) (by simp)
  · obtain ⟨u, ⟨⟨x, hx, hxa, j, hj, hju⟩, y, hy, hyu⟩, -⟩ := Relation.TransGen.head'_iff.mp ht
    simp only [List.mem_cons, ResolvedModel.model.injEq, List.not_mem_nil, or_false] at hx hy
    rcases hx with rfl | rfl
    · exact hba hxa
    · rw [ha, List.mem_singleton] at hj
      subst hj
      rcases hy with rfl | rfl
      · exact hkb (hju.trans hyu.symm)
      · exact hka (hju.trans hyu.symm)

/-! ## The order with discovery -/

/-- **Discovered tables come first exactly where they are known in time.**  With faithful handles, a
model that a foreign key of another one refers to, and that does not lead back to it, stands before
it if and only if its table is known in time; it is if it is listed, or if the other model, or one
before it, refers to it by a key with a handle.

Neither can be spared.  Listed before a model that discovers the table, every model without handles
stands before the model that its key refers to, although nothing leads back; and so it is with a key
of a model that is found behind a handle of another table. -/
theorem order_discovers (reg : Registry) :
    (∀ refs out, order reg true refs = .ok out →
      (∀ x k, .model x ∈ out → k ∈ x.dependencies → k.Faithful reg) →
      ∀ a b k, .model a ∈ out → .model b ∈ out → k ∈ a.dependencies →
        k.referencedTable = b.table →
        (¬ TransGen (DependsOn out) b.table a.table →
          (Precedes out b a ↔ KnownInTime reg true refs a b.table)) ∧
        ((Listed reg refs b.table ∨ ∃ x j, .model x ∈ out ∧ (x = a ∨ Precedes out x a) ∧
            j ∈ x.dependencies ∧ j.referencedTable = b.table ∧ j.referencedModel.isSome) →
          KnownInTime reg true refs a b.table)) ∧
    (∀ a b c k s, a.table ≠ c.table → b.table ≠ c.table →
      (∀ k ∈ a.dependencies, k.referencedModel = none ∧ k.referencedTable ≠ a.table ∧
        k.referencedTable ≠ c.table) →
      (∃ k ∈ a.dependencies, k.referencedTable = b.table) → b.dependencies = [] →
      c.dependencies = [k] → k.referencedTable = b.table → k.referencedModel = some s →
      reg.describe s = .ok b →
      ∃ out, order reg true [.model a, .model c] = .ok out ∧ .model a ∈ out ∧ .model b ∈ out ∧
        ¬ InOrder out a b) ∧
    (∀ a b k k' s, a.dependencies = [k] → k.referencedTable ≠ a.table →
      k.referencedModel = some s → reg.describe s = .ok b → b.table ≠ a.table →
      k.referencedTable ≠ b.table → b.dependencies = [k'] → k'.referencedTable = a.table →
      ∃ out, order reg true [.model a] = .ok out ∧ .model a ∈ out ∧ .model b ∈ out ∧
        ¬ InOrder out b a) := by
  refine ⟨?_, ?_, ?_⟩
  · intro refs out h hf a b k ha hb hk hkb
    obtain ⟨w, hw, rfl⟩ := order_ok h
    have hap := model_mem_orderOf.mp ha
    refine ⟨fun hback => ⟨hw.knownInTime_of_precedes hap, fun hknown => ?_⟩, ?_⟩
    · have hp := hw.precedes (model_mem_orderOf.mp hb) hk hkb hknown
      have hin := inOrder_of_reaches ha hb hk hkb
        (hp.imp_right (ReflTransGen.mono (fun _ _ hl => dependsOn_of_faithful hw hf hl) _ _))
      exact hin.resolve_right hback
    · rintro (hlist | ⟨x, j, hx, hxa, hj, hjb, hhandle⟩)
      · exact hkb ▸ hw.knownInTime_of_foresees hap (Or.inl rfl) hk (Or.inl (hkb ▸ hlist))
      · obtain ⟨s, hs⟩ := Option.isSome_iff_exists.mp hhandle
        have hforesees : j.Foresees reg true (Listed reg refs) :=
          Or.inr ⟨rfl, s, hs, fun m => hf x j hx hj s m hs⟩
        exact hjb ▸ hw.knownInTime_of_foresees hap hxa hj hforesees
  · intro a b c k s hac hbc ha hab hb hc hkb hks hs
    obtain ⟨ka, hka, hkab⟩ := hab
    have hba : b.table ≠ a.table := fun heq => (ha ka hka).2.1 (hkab.trans heq)
    exact ⟨_, order_late hac hba hbc ha hb hc hkb hks hs, by simp, by simp,
      not_inOrder_late hba hbc hb⟩
  · intro a b k k' s ha hka hks hs hba hkb hb hk'
    exact ⟨_, order_astray hba ha hka hks hs hb hk', by simp, by simp,
      not_inOrder_astray hba ha hka hkb⟩

/-! ## Two models that refer to the users -/

/-- The model of the users, behind a handle. -/
def usersRegistry : Registry := ⟨#[.ok (linked "users" [])]⟩

/-- A handle on orders leads to the users, which are known in time and stand before the orders. -/
theorem order_discovers_users :
    order usersRegistry true [.model (linked "orders" [("users", some ⟨"User", 0⟩)])] =
        .ok [.model (linked "users" []), .model (linked "orders" [("users", some ⟨"User", 0⟩)])] ∧
      Precedes [.model (linked "users" []), .model (linked "orders" [("users", some ⟨"User", 0⟩)])]
        (linked "users" []) (linked "orders" [("users", some ⟨"User", 0⟩)]) := by
  have h : order usersRegistry true [.model (linked "orders" [("users", some ⟨"User", 0⟩)])] =
      .ok [.model (linked "users" []), .model (linked "orders" [("users", some ⟨"User", 0⟩)])] := by
    with_unfolding_all rfl
  have hfaithful : ∀ x k, .model x ∈ [ResolvedModel.model (linked "users" []),
      .model (linked "orders" [("users", some ⟨"User", 0⟩)])] → k ∈ x.dependencies →
      k.Faithful usersRegistry := by
    intro x k hx hk s m hs hm
    simp only [List.mem_cons, ResolvedModel.model.injEq, List.not_mem_nil, or_false] at hx
    rcases hx with rfl | rfl
    · exact absurd hk (by simp [linked, Model.dependencies, Model.foreignKeys])
    · have hk' : k = _ := List.mem_singleton.mp hk
      subst hk'
      cases hs
      cases hm
      rfl
  obtain ⟨hiff, hknown⟩ := (order_discovers usersRegistry).1 _ _ h hfaithful
    (linked "orders" [("users", some ⟨"User", 0⟩)]) (linked "users" []) _ (by simp) (by simp)
    (List.mem_cons_self ..) rfl
  have hback : ¬ TransGen (DependsOn [.model (linked "users" []),
      .model (linked "orders" [("users", some ⟨"User", 0⟩)])]) "users" "orders" := by
    refine not_dependsOn_of_no_keys fun x hx hxt => ?_
    simp only [List.mem_cons, ResolvedModel.model.injEq, List.not_mem_nil, or_false] at hx
    rcases hx with rfl | rfl
    · rfl
    · exact absurd hxt (by decide)
  exact ⟨h, (hiff hback).mpr
    (hknown (Or.inr ⟨_, _, by simp, Or.inl rfl, List.mem_cons_self .., rfl, rfl⟩))⟩

/-- Orders without a handle, listed before teams with one: orders refer to the users, and the users
come between the two. -/
theorem order_late_users :
    (∃ k ∈ (linked "orders" [("users", none)]).dependencies, k.referencedTable = "users") ∧
    order usersRegistry true [.model (linked "orders" [("users", none)]),
        .model (linked "teams" [("users", some ⟨"User", 0⟩)])] =
      .ok [.model (linked "orders" [("users", none)]), .model (linked "users" []),
        .model (linked "teams" [("users", some ⟨"User", 0⟩)])] ∧
      ¬ InOrder [.model (linked "orders" [("users", none)]), .model (linked "users" []),
          .model (linked "teams" [("users", some ⟨"User", 0⟩)])]
        (linked "orders" [("users", none)]) (linked "users" []) :=
  ⟨⟨_, List.mem_cons_self .., rfl⟩, by with_unfolding_all rfl,
    not_inOrder_late (by decide) (by decide) rfl⟩

end SchemaMigration
