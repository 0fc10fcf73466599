import SchemaMigration.Proofs.Order.Closure

/-!
# Ties are broken by the order of the references

The walk takes up the tables in the order in which the references describe them first, and goes from
each of them to what it depends on, directly or not, and nowhere else.  So what has been placed when
a table has been taken up, is reached from it or from a table that was taken up before:

> `placed_reached`: whatever the roots have placed is reached from one of them.

A table that is not reached from there comes later (`precedes_of_unreached`).  When the models
already stand behind what they depend on, every root is placed just when it is taken up, and the
order is the list itself (`order_of_dependenciesFirst`); the order of a list without cycles is of
this kind.
-/

namespace SchemaMigration

open Relation (ReflTransGen TransGen)

/-- Each model stands behind the models of the list that it depends on. -/
def DependenciesFirst (models : List Model) : Prop :=
  ∀ xs a ys, models = xs ++ a :: ys → ∀ k ∈ a.dependencies,
    k.referencedTable ∈ models.map (·.table) → k.referencedTable ∈ xs.map (·.table)

namespace Walk

variable {reg : Registry} {w w' v : Walk} {known : List Model} {all fresh : List String}
variable {a b m : Model} {t : String}

/-! ## What a root places -/

/-- Without discovery nothing is learned. -/
theorem keeps_known : Keeps reg false fun w => w.known = known :=
  ⟨fun _ _ _ hd => absurd hd (by decide), fun hw _ _ => hw⟩

/-- A model that is placed in the course of placing a table is reached from it. -/
theorem PlacedOn.reached (h : PlacedOn reg false a v fresh w t) :
    w.Reaches reg false t a.table := by
  induction h with
  | here _ _ hm _ =>
    rw [(mem_of_model? hm).2]
  | @deeper fresh w u u' t next m before after k _ _ hm hks hu hfollow _ ih =>
    obtain ⟨hmk, rfl⟩ := mem_of_model? hm
    have hsub : before ⊆ m.dependencies := hks ▸ List.subset_append_left _ _
    have hknown : u.known = w.known :=
      (keeps_known.visitAll (keeps_known.place _) before hsub rfl hmk hu).2.1
    rcases follow_cases hfollow with ⟨hkn, rfl, hn⟩ | ⟨-, hd, -⟩ | ⟨-, -, -, hn⟩
    · cases hn
      obtain ⟨n, hnk, hnt⟩ := knows_iff.mp hkn
      rw [Reaches, hknown] at ih
      exact ReflTransGen.head
        ⟨⟨m, hmk, rfl, k, hks ▸ by simp, Or.inl rfl⟩, n, hknown ▸ hnk, hnt⟩ ih
    · cases hd
    · cases hn

/-- Whatever the roots have placed is reached from one of them. -/
theorem placed_reached {ts : List String}
    (h : ts.foldlM (place reg false all) { known := known } = .ok w) (hb : b ∈ w.placed) :
    ∃ r ∈ ts, ReflTransGen (Leads reg false known) r b.table := by
  rcases foldlM_places (exists_placedOn _) h hb with hb | ⟨before, r, after, u, rfl, hu, v, hv⟩
  · exact absurd hb (by simp)
  · have hknown : u.known = known := (keeps_known.placeAll _ rfl hu).2
    have hreach := hv.reached
    rw [Reaches, hknown] at hreach
    exact ⟨r, by simp, hreach⟩

/-! ## Roots that are placed at once -/

/-- A foreign key whose table is placed or not known changes nothing. -/
theorem visit_idle {k : ForeignKey}
    (h : w.knows k.referencedTable = true → w.hasPlaced k.referencedTable = true) :
    visit reg false fresh w k = .ok w := by
  unfold visit follow
  cases hk : w.knows k.referencedTable with
  | true => simp [place, h hk]
  | false => cases k.referencedModel <;> simp

/-- So the model of such keys is placed at once. -/
theorem place_at_once (hp : w.hasPlaced t = false) (hf : t ∈ fresh) (hm : w.model? t = some m)
    (h : ∀ k ∈ m.dependencies, w.knows k.referencedTable = true →
      w.hasPlaced k.referencedTable = true) :
    place reg false fresh w t = .ok { w with placed := w.placed ++ [m] } := by
  have hvisits : ∀ ks ⊆ m.dependencies,
      ks.foldlM (visit reg false (others t fresh)) w = .ok w := by
    intro ks
    induction ks with
    | nil => exact fun _ => rfl
    | cons k ks ih =>
      intro hks
      obtain ⟨hk, hks⟩ := List.cons_subset.mp hks
      exact foldlM_cons_ok.mpr ⟨w, visit_idle (h k hk), ih hks⟩
  rw [place_fresh hp hf hm, hvisits _ (List.Subset.refl _)]

/-- The roots of such a list are placed one behind the other. -/
theorem placeAll_dependenciesFirst (hnodup : (known.map (·.table)).Nodup)
    (h : DependenciesFirst known) (hall : known.map (·.table) ⊆ all) :
    ∀ (xs ys : List Model), known = xs ++ ys →
      (ys.map (·.table)).foldlM (place reg false all) { known := known, placed := xs } =
        .ok { known := known, placed := known } := by
  intro xs ys
  induction ys generalizing xs with
  | nil =>
    rintro rfl
    simp [pure, Except.pure]
  | cons m ys ih =>
    intro hsplit
    have hmem : m ∈ known := by simp [hsplit]
    have hknows : ({ known := known, placed := xs } : Walk).knows m.table = true :=
      knows_iff.mpr ⟨m, hmem, rfl⟩
    have hnew : ({ known := known, placed := xs } : Walk).hasPlaced m.table = false := by
      rw [← Bool.not_eq_true, hasPlaced_iff]
      rintro ⟨n, hn, hnt⟩
      rw [hsplit, List.map_append, List.nodup_append] at hnodup
      exact hnodup.2.2 n.table (List.mem_map_of_mem hn) m.table (by simp) hnt
    have hmodel : ({ known := known, placed := xs } : Walk).model? m.table = some m := by
      obtain ⟨n, hn⟩ := model?_of_knows hknows
      obtain ⟨hnk, hnt⟩ := mem_of_model? hn
      rw [hn, eq_of_table_eq hnodup hnk hmem hnt]
    refine foldlM_cons_ok.mpr ⟨{ known := known, placed := xs ++ [m] }, ?_,
      ih (xs ++ [m]) (by simp [hsplit])⟩
    refine place_at_once hnew (hall (List.mem_map_of_mem hmem)) hmodel fun k hk hkn => ?_
    obtain ⟨n, hn, hnt⟩ := knows_iff.mp hkn
    have hbefore := h xs m ys hsplit k hk (List.mem_map.mpr ⟨n, hn, hnt⟩)
    exact hasPlaced_iff.mpr (List.mem_map.mp hbefore)

end Walk

/-! ## First positions -/

/-- The position of the first reference that describes a table; where none does, the length of the
list. -/
def firstPosition (reg : Registry) (refs : List ModelRef) (t : String) : Nat :=
  refs.findIdx fun ref => (ref.described? reg).any (·.table = t)

section

variable {reg : Registry} {refs : List ModelRef} {listed : List Model} {w : Walk} {a b : Model}
variable {before after : List String} {r t : String}

theorem described?_any {ref : ModelRef} : (ref.described? reg).any (·.table = t) = true ↔
    ∃ m, ref.resolve reg = .ok (.model m) ∧ m.table = t := by
  simp only [← ModelRef.described?_eq_some]
  cases ref.described? reg <;> simp

theorem listed_iff : Listed reg refs t ↔
    ∃ ref ∈ refs, (ref.described? reg).any (·.table = t) = true := by
  simp only [Listed, described?_any]

theorem listed_iff_firstPosition : Listed reg refs t ↔ firstPosition reg refs t < refs.length := by
  rw [listed_iff, firstPosition, List.findIdx_lt_length]

theorem listed_take_iff (h : Listed reg refs t) {n : Nat} :
    Listed reg (refs.take n) t ↔ firstPosition reg refs t < n := by
  have hlt := listed_iff_firstPosition.mp h
  rw [listed_iff_firstPosition, firstPosition, List.findIdx_take, List.length_take,
    ← firstPosition]
  omega

/-- Different tables are described first by different references. -/
theorem firstPosition_ne (hr : Listed reg refs r) (hrt : r ≠ t) :
    firstPosition reg refs r ≠ firstPosition reg refs t := by
  intro heq
  have hlt : firstPosition reg refs t < refs.length := heq ▸ listed_iff_firstPosition.mp hr
  have hr' := ((List.findIdx_eq hlt).mp heq).1
  have ht' := ((List.findIdx_eq hlt).mp rfl).1
  obtain ⟨m, hm, hmr⟩ := described?_any.mp hr'
  obtain ⟨n, hn, hnt⟩ := described?_any.mp ht'
  cases hm.symm.trans hn
  exact hrt (hmr.symm.trans hnt)

/-- The tables of the references up to some place are the first ones of the walk. -/
theorem describedTables_prefix (xs ys : List Model) :
    (describedTables xs).map (·.table) <+: (describedTables (xs ++ ys)).map (·.table) := by
  have hstep : ∀ (m : Model) (ms : List Model),
      ms.map (·.table) <+: (describeTable m ms).map (·.table) := by
    intro m ms
    induction ms with
    | nil => exact List.nil_prefix
    | cons known rest ih =>
      rw [describeTable]
      split
      · next h =>
        have hsame : (known :: rest).map (·.table) = (m :: rest).map (·.table) := by
          rw [List.map_cons, List.map_cons, h]
        exact hsame ▸ List.prefix_rfl
      · rw [List.map_cons, List.map_cons, List.prefix_cons_inj]
        exact ih
  rw [describedTables, describedTables, List.foldl_append]
  generalize xs.foldl (fun known m => describeTable m known) [] = known
  induction ys generalizing known with
  | nil => exact List.prefix_rfl
  | cons m ys ih => exact (hstep m known).trans (ih _)

/-- The roots that are described by the first `n` references are the first ones. -/
theorem exists_front (hl : describeAll reg refs = .ok listed) (n : Nat) :
    ∃ front, front <+: (describedTables listed).map (·.table) ∧
      ∀ t, Listed reg refs t → (t ∈ front ↔ firstPosition reg refs t < n) := by
  obtain ⟨models, hmodels⟩ : ∃ models, describeAll reg (refs.take n) = .ok models :=
    describeAll_ok_iff.mpr fun ref href =>
      describeAll_ok_iff.mp ⟨listed, hl⟩ ref (List.mem_of_mem_take href)
  refine ⟨(describedTables models).map (·.table), ?_, fun t ht =>
    (mem_describedTables hmodels).trans (listed_take_iff ht)⟩
  rw [describeAll_eq hl, describeAll_eq hmodels]
  conv_rhs => rw [← List.take_append_drop n refs]
  rw [List.filterMap_append]
  exact describedTables_prefix _ _

/-- The roots are in the order of their first positions. -/
theorem firstPosition_lt_of_root (hl : describeAll reg refs = .ok listed)
    (hroots : (describedTables listed).map (·.table) = before ++ t :: after) (hr : r ∈ before) :
    firstPosition reg refs r < firstPosition reg refs t := by
  have hlisted : ∀ {u : String}, u ∈ before ++ t :: after → Listed reg refs u :=
    fun hu => (mem_describedTables hl).mp (hroots ▸ hu)
  have hnodup : (before ++ t :: after).Nodup := hroots ▸ nodup_describedTables listed
  have htb : t ∉ before := fun ht => (List.nodup_append.mp hnodup).2.2 t ht t (by simp) rfl
  have hlr : Listed reg refs r := hlisted (List.mem_append_left _ hr)
  -- The references up to the first one for `t` describe `t`, and with it all roots before it.
  obtain ⟨front, hprefix, hfront⟩ := exists_front hl (firstPosition reg refs t + 1)
  have ht : t ∈ front := (hfront t (hlisted (by simp))).mpr (Nat.lt_succ_self _)
  have hrf : r ∈ front := (prefix_of_mem (hroots ▸ hprefix) ht htb).subset hr
  have hle := (hfront r hlr).mp hrf
  have hne := firstPosition_ne hlr fun heq : r = t => htb (heq ▸ hr)
  omega

/-! ## The order of ties -/

/-- A model stands before those that are described later, and reached neither from it nor from what
is described before it. -/
theorem precedes_of_unreached {out : List ResolvedModel} (h : order reg false refs = .ok out)
    (ha : .model a ∈ out) (hb : .model b ∈ out)
    (hab : firstPosition reg refs a.table < firstPosition reg refs b.table)
    (hreach : ∀ r, r = a.table ∨ firstPosition reg refs r < firstPosition reg refs a.table →
      ¬ TransGen (DependsOn out) r b.table) : Precedes out a b := by
  obtain ⟨listed, w, hl, hrun, rfl⟩ := order_run h
  have hw := Finished.of_run hl hrun
  obtain ⟨_, hinv⟩ := hw.inv
  rw [model_mem_orderOf] at ha hb
  have hknown : w.known = describedTables listed := (Walk.keeps_known.placeAll _ rfl hrun).2
  have hstart := start_winv hl false reg.tables
  have hreg : ∀ s n, reg.describe s = .ok n →
      n.table ∈ (describedTables listed).map (·.table) ++ reg.tables :=
    fun s n hn => List.mem_append_right _ (Registry.mem_tables hn)
  generalize (describedTables listed).map (·.table) ++ reg.tables = all at hrun hstart hreg
  -- The walk is cut behind the root `a.table`.
  obtain ⟨before, after, hroots⟩ :=
    List.append_of_mem ((mem_describedTables hl).mpr (hw.listed_of_placed ha))
  rw [hroots, List.append_cons] at hrun
  obtain ⟨v, hv, hrest⟩ := foldlM_append_ok.mp hrun
  have hext : Walk.Extends v w :=
    (Walk.keeps_known.placeAll _ (Walk.keeps_known.placeAll _ rfl hv).2 hrest).1
  refine precedes_of_prefix hext.placed ?_ ?_
  · have hknows : ∀ t ∈ before ++ [a.table],
        ({ known := describedTables listed } : Walk).knows t = true := by
      intro t ht
      refine hstart.knowsBase t ((mem_describedTables hl).mp ?_)
      rw [hroots, List.append_cons]
      exact List.mem_append_left _ ht
    obtain ⟨n, hn, hna⟩ :=
      Walk.hasPlaced_iff.mp ((Walk.placeAll_inv hreg _ hknows hstart hv).2 a.table (by simp))
    rwa [← eq_of_table_eq hinv.placedOnce (hext.placed.subset hn) ha hna]
  · intro hbv
    obtain ⟨r, hr, hreached⟩ := Walk.placed_reached hv hbv
    have hpos : r = a.table ∨ firstPosition reg refs r < firstPosition reg refs a.table := by
      rcases List.mem_append.mp hr with hr | hr
      · exact Or.inr (firstPosition_lt_of_root hl hroots hr)
      · exact Or.inl (List.mem_singleton.mp hr)
    have hdepends : ReflTransGen (DependsOn (orderOf refs w)) r b.table :=
      ReflTransGen.mono (fun _ _ hl => dependsOn_of_leads hw (hknown ▸ hl)) _ _ hreached
    rcases Relation.reflTransGen_iff_eq_or_transGen.mp hdepends with heq | ht
    · rw [heq] at hab
      rcases hpos with rfl | hpos <;> omega
    · exact hreach r hpos ht

/-! ## Lists that are in order -/

/-- Models with different tables that stand behind what they depend on are left as they are. -/
theorem order_of_dependenciesFirst (hrefs : ∀ ref ∈ refs, ∃ x, ref.resolve reg = .ok x)
    (hnodup : ((refs.filterMap (·.described? reg)).map (·.table)).Nodup)
    (h : DependenciesFirst (refs.filterMap (·.described? reg))) :
    order reg false refs = .ok ((refs.filterMap (·.literal?)).map .table ++
      (refs.filterMap (·.described? reg)).map .model) := by
  obtain ⟨listed, hl⟩ := describeAll_ok_iff.mpr hrefs
  obtain ⟨out, hout⟩ := order_total hl
  obtain ⟨listed', w, hl', hrun, rfl⟩ := order_run hout
  cases hl.symm.trans hl'
  rw [← describeAll_eq hl] at hnodup h ⊢
  rw [describedTables_of_nodup hnodup] at hrun
  cases hrun.symm.trans
    (Walk.placeAll_dependenciesFirst hnodup h (List.subset_append_left _ _) [] listed rfl)
  exact hout

theorem resolve_toRef (reg : Registry) (r : ResolvedModel) : r.toRef.resolve reg = .ok r := by
  cases r <;> rfl

theorem described?_toRef (reg : Registry) (r : ResolvedModel) :
    r.toRef.described? reg = r.description? := by
  rw [ModelRef.described?, resolve_toRef]
  cases r <;> rfl

/-- The references behind an order describe what stands in it. -/
theorem filterMap_toRef (reg : Registry) (out : List ResolvedModel) :
    (out.map (·.toRef)).filterMap (·.described? reg) = out.filterMap (·.description?) := by
  rw [List.filterMap_map]
  exact congrArg (List.filterMap · out) (funext (described?_toRef reg))

theorem filterMap_toRef_literals (refs : List ModelRef) (w : Walk) :
    ((orderOf refs w).map (·.toRef)).filterMap (·.literal?) = refs.filterMap (·.literal?) := by
  have ht : ((·.literal?) ∘ (·.toRef)) ∘ ResolvedModel.table = some := rfl
  have hm : ((·.literal?) ∘ (·.toRef)) ∘ ResolvedModel.model = fun _ => none := rfl
  rw [List.filterMap_map, orderOf, List.filterMap_append, List.filterMap_map, List.filterMap_map,
    ht, hm]
  simp

/-- So do the places of an order when what each model depends on precedes it. -/
theorem dependenciesFirst_placed
    (h : ∀ a k, .model a ∈ orderOf refs w → k ∈ a.dependencies →
      k.referencedTable ∈ w.placed.map (·.table) →
      ∃ b, b.table = k.referencedTable ∧ Precedes (orderOf refs w) b a) :
    DependenciesFirst w.placed := by
  intro xs a ys hsplit k hk hin
  have ha : .model a ∈ orderOf refs w := model_mem_orderOf.mpr (hsplit ▸ by simp)
  obtain ⟨b, hbk, hprecedes⟩ := h a k ha hk hin
  have hb : b ∈ xs := by simpa using hprecedes _ _ (orderOf_of_placed hsplit)
  exact hbk ▸ List.mem_map_of_mem hb

/-- An order without cycles is left as it is. -/
theorem order_order (reg' : Registry) {out : List ResolvedModel}
    (h : order reg false refs = .ok out) (hacyclic : ∀ t, ¬ TransGen (DependsOn out) t t) :
    order reg' false (out.map (·.toRef)) = .ok out := by
  obtain ⟨w, hw, rfl⟩ := order_ok h
  obtain ⟨_, hinv⟩ := hw.inv
  have hdescribed := (filterMap_toRef reg' (orderOf refs w)).trans (descriptions_orderOf refs w)
  have hrefs : ∀ ref ∈ (orderOf refs w).map (·.toRef), ∃ x, ref.resolve reg' = .ok x := by
    intro ref href
    obtain ⟨r, -, rfl⟩ := List.mem_map.mp href
    exact ⟨r, resolve_toRef reg' r⟩
  have hplaced : DependenciesFirst w.placed := by
    refine dependenciesFirst_placed fun a k (ha : .model a ∈ orderOf refs w) hk hin => ?_
    obtain ⟨b, hb, hbk⟩ := List.mem_map.mp hin
    exact ⟨b, hbk, hw.precedes_of_acyclic hacyclic (model_mem_orderOf.mp ha) hb hk hbk.symm⟩
  rw [order_of_dependenciesFirst hrefs (hdescribed ▸ hinv.placedOnce) (hdescribed ▸ hplaced),
    hdescribed, filterMap_toRef_literals]
  rfl

/-- **Ties are broken by the order of the references.**  A model whose table is described first
before that of another one stands before it, on cycles or not, unless the other table is reached
inside the order from the table of the first or from one that is described before it.  So a list of
different tables that stand behind what they depend on is returned as it is, behind the literal
names, and an order without cycles is returned as it is. -/
theorem order_ties (reg : Registry) (refs : List ModelRef) :
    (∀ out a b, order reg false refs = .ok out → .model a ∈ out → .model b ∈ out →
      firstPosition reg refs a.table < firstPosition reg refs b.table →
      (∀ r, r = a.table ∨ firstPosition reg refs r < firstPosition reg refs a.table →
        ¬ TransGen (DependsOn out) r b.table) →
      Precedes out a b) ∧
    ((∀ ref ∈ refs, ∃ x, ref.resolve reg = .ok x) →
      ((refs.filterMap (·.described? reg)).map (·.table)).Nodup →
      DependenciesFirst (refs.filterMap (·.described? reg)) →
      order reg false refs = .ok ((refs.filterMap (·.literal?)).map .table ++
        (refs.filterMap (·.described? reg)).map .model)) ∧
    ∀ out reg', order reg false refs = .ok out → (∀ t, ¬ TransGen (DependsOn out) t t) →
      order reg' false (out.map (·.toRef)) = .ok out :=
  ⟨fun _ _ _ h ha hb hab hreach => precedes_of_unreached h ha hb hab hreach,
    fun hrefs hnodup h => order_of_dependenciesFirst hrefs hnodup h,
    fun _ reg' h hacyclic => order_order reg' h hacyclic⟩

end

/-! ## A cycle that is described before a table of its own, and a list in order -/

/-- Orders and users refer to each other, and orders are described twice; teams refer to nothing. -/
def cyclicRefs : List ModelRef :=
  [.model (linked "orders" [("users", none)]), .model (linked "users" [("orders", none)]),
    .table "audit_log", .model (linked "teams" []),
    .model (linked "orders" [("users", none), ("invoices", none)])]

/-- The order found for them. -/
def cyclicOrder : List ResolvedModel :=
  [.table "audit_log", .model (linked "users" [("orders", none)]),
    .model (linked "orders" [("users", none), ("invoices", none)]), .model (linked "teams" [])]

/-- Users, and orders that refer to them. -/
def sortedRefs : List ModelRef :=
  [.model (linked "users" []), .table "audit_log", .model (linked "orders" [("users", none)])]

/-- Users stand before teams, to which nothing leads, although they lie on a cycle.  Users and
orders are left as they are, behind the literal name, and so is their order. -/
theorem order_ties_users :
    Precedes cyclicOrder (linked "users" [("orders", none)]) (linked "teams" []) ∧
      order {} false sortedRefs = .ok [.table "audit_log", .model (linked "users" []),
        .model (linked "orders" [("users", none)])] ∧
      order {} false [.table "audit_log", .model (linked "users" []),
          .model (linked "orders" [("users", none)])] =
        .ok [.table "audit_log", .model (linked "users" []),
          .model (linked "orders" [("users", none)])] := by
  have hcyclic : order {} false cyclicRefs = .ok cyclicOrder := by with_unfolding_all rfl
  have hfirst : DependenciesFirst [linked "users" [], linked "orders" [("users", none)]] := by
    intro xs a ys h k hk _
    rcases List.cons_eq_append_iff.mp h with ⟨rfl, hcons⟩ | ⟨xs, rfl, hxs⟩
    · cases hcons
      exact absurd hk List.not_mem_nil
    · rcases List.cons_eq_append_iff.mp hxs with ⟨rfl, hcons⟩ | ⟨xs, rfl, hnil⟩
      · cases hcons
        cases List.mem_singleton.mp hk
        decide
      · simp at hnil
  have horder : order {} false sortedRefs = .ok [.table "audit_log", .model (linked "users" []),
      .model (linked "orders" [("users", none)])] :=
    (order_ties {} sortedRefs).2.1 (by simp [sortedRefs, ModelRef.resolve]) (by decide) hfirst
  refine ⟨(order_ties {} cyclicRefs).1 _ _ _ hcyclic (by simp [cyclicOrder])
    (by simp [cyclicOrder]) (by decide) ?_, horder,
    (order_ties {} sortedRefs).2.2 _ {} horder ?_⟩
  · intro r _ h
    obtain ⟨_, -, ⟨m, hm, -, k, hk, hkt⟩, -⟩ := TransGen.tail'_iff.mp h
    have hnone : ∀ m ∈ cyclicOrder.filterMap (·.description?), ∀ k ∈ m.dependencies,
        k.referencedTable ≠ "teams" := by decide
    exact hnone m (List.mem_filterMap.mpr ⟨_, hm, rfl⟩) k hk hkt
  · refine acyclic_of_rank (fun t => if t = "orders" then 1 else 0) fun m hm k hk => ?_
    have hdown : ∀ m ∈ [linked "users" [], linked "orders" [("users", none)]],
        ∀ k ∈ m.dependencies, k.referencedTable = "users" ∧ m.table = "orders" := by decide
    obtain ⟨hk, hm⟩ := hdown m (by simpa using hm) k hk
    rw [hk, hm]
    decide

end SchemaMigration
