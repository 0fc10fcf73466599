import Mathlib.Data.List.Perm.Basic
import SchemaMigration.Proofs.Order.Topological
import SchemaMigration.Proofs.Schema.Validation

/-!
# The order of a list without cycles

Without discovery no handle is followed, so that ordering described models always succeeds.  When
their tables are distinct and no table leads back to itself, the order is a permutation of the list
in which no model refers to a later one (`order_acyclic`).
-/

namespace SchemaMigration

open Relation (ReflTransGen TransGen)

/-- The references describe these models, one each; the models are accepted, have distinct tables,
and no table leads back to itself. -/
structure Orderable (reg : Registry) (refs : List ModelRef) (models : List Model) : Prop where
  described : List.Forall₂ (fun ref a => ref.resolve reg = .ok (.model a)) refs models
  built : ∀ a ∈ models, a.IsBuilt
  distinct : (models.map (·.table)).Nodup
  acyclic : ∀ t, ¬ TransGen (DependsOn (models.map .model)) t t

/-- No model of the list refers to a later one. -/
def ReferencesBack (models : List Model) : Prop :=
  models.Pairwise fun b a => ∀ k ∈ b.foreignKeys, k.referencedTable ≠ a.table

/-- Where every dependency leads down a rank of the tables, no table leads back to itself. -/
theorem acyclic_of_rank {out : List ResolvedModel} (rank : String → Nat)
    (h : ∀ a, .model a ∈ out → ∀ k ∈ a.dependencies, rank k.referencedTable < rank a.table) :
    ∀ t, ¬ TransGen (DependsOn out) t t := by
  have hdown : ∀ t u, TransGen (DependsOn out) t u → rank u < rank t := by
    intro t u htu
    induction htu with
    | single hd =>
      obtain ⟨⟨a, ha, rfl, k, hk, rfl⟩, -⟩ := hd
      exact h a ha k hk
    | tail _ hd ih =>
      obtain ⟨⟨a, ha, rfl, k, hk, rfl⟩, -⟩ := hd
      exact Nat.lt_trans (h a ha k hk) ih
  exact fun t ht => Nat.lt_irrefl _ (hdown t t ht)

/-- The tables that a table depends on are the same in every order. -/
theorem dependsOn_perm {placed models : List Model} (h : placed.Perm models) {t u : String} :
    DependsOn (placed.map .model) t u ↔ DependsOn (models.map .model) t u := by
  simp only [DependsOn, (h.map ResolvedModel.model).mem_iff]

theorem transGen_dependsOn_perm {placed models : List Model} (h : placed.Perm models)
    {t u : String} : TransGen (DependsOn (placed.map .model)) t u ↔
      TransGen (DependsOn (models.map .model)) t u :=
  ⟨TransGen.mono (fun _ _ => (dependsOn_perm h).mp) _ _,
    TransGen.mono (fun _ _ => (dependsOn_perm h).mpr) _ _⟩

/-- References in another order describe the same models in another order. -/
theorem Orderable.perm {reg : Registry} {refs refs' : List ModelRef} {models : List Model}
    (h : Orderable reg refs models) (hrefs : refs'.Perm refs) :
    ∃ models', models'.Perm models ∧ Orderable reg refs' models' := by
  obtain ⟨models', hdescribed, hperm⟩ := List.perm_comp_forall₂ hrefs h.described
  exact ⟨models', hperm, hdescribed, fun a ha => h.built a (hperm.subset ha),
    (hperm.map _).nodup_iff.mpr h.distinct, fun t ht =>
      h.acyclic t ((transGen_dependsOn_perm hperm).mp ht)⟩

/-! ## Ordering without discovery succeeds -/

namespace Walk

theorem follow_total (reg : Registry) (w : Walk) (k : ForeignKey) :
    ∃ next, follow reg false w k = .ok (w, next) := by
  unfold follow
  split
  · exact ⟨_, rfl⟩
  · split
    · exact ⟨_, rfl⟩
    · exact ⟨none, by simp⟩

theorem place_total (reg : Registry) (fresh : List String) :
    ∀ (w : Walk) (t : String), ∃ w', place reg false fresh w t = .ok w' := by
  induction hlen : fresh.length using Nat.strongRecOn generalizing fresh with
  | _ n ih =>
    intro w t
    cases hp : w.hasPlaced t with
    | true => exact ⟨w, by rw [place, if_pos hp]⟩
    | false =>
      by_cases hf : t ∈ fresh
      · cases hm : w.model? t with
        | none =>
          refine ⟨w, ?_⟩
          rw [place, if_neg (by simp [hp]), dif_pos hf]
          simp only [hm]
        | some m =>
          have hvisit : ∀ v k, ∃ v', visit reg false (others t fresh) v k = .ok v' := by
            intro v k
            obtain ⟨next, hk⟩ := follow_total reg v k
            cases next with
            | none => exact ⟨v, by rw [visit, hk]⟩
            | some next =>
              obtain ⟨v', hv⟩ := ih _ (hlen ▸ length_others_lt hf) (others t fresh) rfl v next
              exact ⟨v', by rw [visit, hk]; exact hv⟩
          obtain ⟨v, hv⟩ := foldlM_total hvisit m.dependencies w
          exact ⟨{ v with placed := v.placed ++ [m] }, by rw [place_fresh hp hf hm, hv]⟩
      · exact ⟨w, by rw [place, if_neg (by simp [hp]), dif_neg hf]⟩

end Walk

section

variable {reg : Registry} {refs : List ModelRef} {models : List Model}

theorem describeAll_of_resolve
    (h : List.Forall₂ (fun ref a => ref.resolve reg = .ok (.model a)) refs models) :
    describeAll reg refs = .ok models := by
  induction h with
  | nil => rfl
  | cons ha _ ih => rw [describeAll, ha, ih]

/-- A list of descriptions has no literal names. -/
theorem filterMap_literal?_of_resolve
    (h : List.Forall₂ (fun ref a => ref.resolve reg = .ok (.model a)) refs models) :
    refs.filterMap (·.literal?) = [] := by
  induction h with
  | nil => rfl
  | @cons ref a _ _ ha _ ih =>
    cases ref with
    | table name => cases ha
    | source s => exact ih
    | model m => exact ih

theorem order_total (h : describeAll reg refs = .ok models) :
    ∃ out, order reg false refs = .ok out := by
  obtain ⟨w, hw⟩ := foldlM_total (Walk.place_total reg
      ((describedTables models).map (·.table) ++ reg.tables))
    ((describedTables models).map (·.table)) { known := describedTables models }
  cases ho : order reg false refs with
  | ok out => exact ⟨out, rfl⟩
  | error e =>
    unfold order at ho
    rw [h] at ho
    dsimp only at ho
    split at ho
    · next e' he =>
      cases hw.symm.trans he
    · cases ho

/-! ## Distinct tables -/

theorem describeTable_of_new {m : Model} {ms : List Model} (h : ∀ n ∈ ms, n.table ≠ m.table) :
    describeTable m ms = ms ++ [m] := by
  induction ms with
  | nil => rfl
  | cons n ms ih =>
    rw [describeTable, if_neg (h n (by simp)), ih fun x hx => h x (List.mem_cons_of_mem n hx)]
    rfl

theorem describedTables_of_nodup (h : (models.map (·.table)).Nodup) :
    describedTables models = models := by
  have hfold : ∀ rest known : List Model, ((known ++ rest).map (·.table)).Nodup →
      rest.foldl (fun known m => describeTable m known) known = known ++ rest := by
    intro rest
    induction rest with
    | nil => simp
    | cons m rest ih =>
      intro known hn
      have hnew : ∀ n ∈ known, n.table ≠ m.table := by
        intro n hk
        rw [List.map_append, List.nodup_append] at hn
        exact hn.2.2 n.table (List.mem_map_of_mem hk) m.table (by simp)
      rw [List.foldl_cons, describeTable_of_new hnew, ih _ (by simpa using hn)]
      simp
  exact hfold models [] (by simpa using h)

/-! ## The theorem -/

/-- When no table is described twice, a finished walk without discovery has placed the models of the
list and no others. -/
theorem Finished.mem_placed {w : Walk} (hw : Finished reg false refs w)
    (hlisted : describeAll reg refs = .ok models) (hdistinct : (models.map (·.table)).Nodup)
    {a : Model} : a ∈ w.placed ↔ a ∈ models := by
  obtain ⟨_, hinv⟩ := hw.inv
  obtain ⟨listed, hl, hknown⟩ := hw.described
  cases hl.symm.trans hlisted
  rw [describedTables_of_nodup hdistinct] at hknown
  refine ⟨fun ha => ?_, fun ha => hw.placed (hknown ha)⟩
  -- The model stands for a listed table, whose own model is known as well.
  obtain ⟨ref, hr, n, hn, hna⟩ := hw.listed_of_placed ha
  have hmn : n ∈ models := (mem_describeAll hlisted).mpr ⟨ref, hr, hn⟩
  rw [eq_of_table_eq hinv.knownOnce (hinv.placedKnown ha) (hknown hmn) hna.symm]
  exact hmn

/-- Where no table leads back to itself, a model that another one refers to stands before it. -/
theorem Finished.precedes_of_acyclic {w : Walk} (hw : Finished reg false refs w)
    (hacyclic : ∀ t, ¬ TransGen (DependsOn (orderOf refs w)) t t) {a b : Model} {k : ForeignKey}
    (ha : a ∈ w.placed) (hb : b ∈ w.placed) (hk : k ∈ a.dependencies)
    (hkb : k.referencedTable = b.table) : Precedes (orderOf refs w) b a := by
  have hlist := hw.listed_of_placed hb
  have hknown := hw.knownInTime_of_foresees ha (Or.inl rfl) hk (Or.inl (hkb ▸ hlist))
  rcases hw.precedes hb hk hkb (hkb ▸ hknown) with hp | hback
  · exact hp
  · have hedge : DependsOn (orderOf refs w) a.table b.table :=
      ⟨⟨a, model_mem_orderOf.mpr ha, rfl, k, hk, hkb⟩, b, model_mem_orderOf.mpr hb, rfl⟩
    have hreach := ReflTransGen.mono (fun _ _ hl => dependsOn_of_leads hw hl) _ _ hback
    exact absurd (TransGen.head' hedge hreach) (hacyclic a.table)

/-- What stands before a model does not stand behind it. -/
theorem not_sublist_of_precedes {placed : List Model} (honce : placed.Nodup) {a b : Model}
    (h : Precedes (placed.map .model) a b) : ¬ [b, a].Sublist placed := by
  intro hba
  obtain ⟨xs, rest, rfl, hbx, har⟩ := List.cons_sublist_iff.mp hba
  obtain ⟨ys, zs, rfl⟩ := List.append_of_mem hbx
  have hin := h (ys.map .model) ((zs ++ rest).map .model) (by simp)
  have hay : a ∈ ys := by simpa using hin
  rw [List.nodup_append] at honce
  exact honce.2.2 a (by simp [hay]) a (List.singleton_sublist.mp har) rfl

/-- **The order of a list without cycles.**  The order is the list in another order, in which no
model refers to a later one. -/
theorem order_acyclic (h : Orderable reg refs models) :
    ∃ placed : List Model, order reg false refs = .ok (placed.map .model) ∧ placed.Perm models ∧
      ReferencesBack placed := by
  have hlisted := describeAll_of_resolve h.described
  obtain ⟨out, hout⟩ := order_total hlisted
  obtain ⟨w, hw, rfl⟩ := order_ok hout
  obtain ⟨_, hinv⟩ := hw.inv
  have horder : orderOf refs w = w.placed.map .model := by
    rw [orderOf, filterMap_literal?_of_resolve h.described]
    rfl
  have hmem : ∀ a, a ∈ w.placed ↔ a ∈ models := fun a => hw.mem_placed hlisted h.distinct
  have hacyclic : ∀ t, ¬ TransGen (DependsOn (orderOf refs w)) t t := by
    intro t ht
    refine h.acyclic t (TransGen.mono ?_ _ _ ht)
    rintro _ _ ⟨⟨a, ha, hat, hk⟩, b, hb, hbu⟩
    rw [model_mem_orderOf, hmem] at ha hb
    exact ⟨⟨a, List.mem_map_of_mem ha, hat, hk⟩, b, List.mem_map_of_mem hb, hbu⟩
  have honce := List.Nodup.of_map _ hinv.placedOnce
  refine ⟨w.placed, horder ▸ hout,
    (List.perm_ext_iff_of_nodup honce (List.Nodup.of_map _ h.distinct)).mpr hmem, ?_⟩
  rw [ReferencesBack, List.pairwise_iff_forall_sublist]
  intro b a hba k hk hka
  have hb : b ∈ w.placed := hba.subset (by simp)
  have ha : a ∈ w.placed := hba.subset (by simp)
  have hne : b.table ≠ a.table := by
    have htables := (hba.map (·.table)).nodup hinv.placedOnce
    simpa using htables
  have hdep := (h.built b ((hmem b).mp hb)).mem_dependencies hk (hka ▸ hne.symm)
  have hp := hw.precedes_of_acyclic hacyclic hb ha hdep hka
  exact not_sublist_of_precedes honce (horder ▸ hp) hba

end

end SchemaMigration
