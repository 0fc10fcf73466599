import Mathlib.Data.List.Induction
import SchemaMigration.Catalog.Keyed
import SchemaMigration.Proofs.Migration.Creation

/-!
# Creating and dropping under foreign keys

Two things are true of changes to some tables.  What lies outside of these tables stays as it is
(`without_applyAll`), and so a database from which they are gone again is the one before them.  And
tables that do not refer to later ones are dropped from the last to the first without a key in the
way (`drops_accepted`).

With what it takes to create them it follows that creating the tables of such models and dropping
them again leads back to the start (`creations_drops`).
-/

namespace SchemaMigration

/-- The table that a change is about.  A renaming is about two. -/
def Change.table? : Change → Option String
  | .createTable table _ _ => some table
  | .dropTable table => some table
  | .renameTable _ _ => none
  | .addColumn table _ _ => some table
  | .dropColumn table _ => some table
  | .alterColumn table _ _ => some table
  | .renameColumn table _ _ => some table
  | .addForeignKey table _ => some table
  | .addCheck table _ => some table
  | .dropConstraint table _ => some table
  | .createIndex table _ => some table
  | .dropIndex table _ => some table
  | .renameIndex table _ _ => some table

namespace Catalog

variable {c c' : Catalog} {ts : List String}

/-! ## What lies outside of some tables -/

/-- The catalog without some tables. -/
def without (c : Catalog) (ts : List String) : Catalog := ⟨c.tables.filter fun e => e.1 ∉ ts⟩

theorem filter_setEntry {name : String} (h : name ∈ ts) (t : TableEntry)
    (entries : List (String × TableEntry)) :
    (setEntry name t entries).filter (fun e => e.1 ∉ ts) =
      entries.filter fun e => e.1 ∉ ts := by
  induction entries with
  | nil => simp [setEntry, h]
  | cons e rest ih =>
    obtain ⟨key, u⟩ := e
    rw [setEntry]
    split
    · next hk =>
      subst hk
      simp [h]
    · rw [List.filter_cons, List.filter_cons, ih]

theorem without_set {name : String} (h : name ∈ ts) (t : TableEntry) :
    (c.set name t).without ts = c.without ts :=
  congrArg Catalog.mk (filter_setEntry h t c.tables)

theorem without_erase {name : String} (h : name ∈ ts) :
    (c.erase name).without ts = c.without ts := by
  unfold without erase
  rw [List.filter_filter]
  congr 2
  funext e
  by_cases he : e.1 = name
  · simp [he, h]
  · simp [he]

/-- What is known about a table outside stays known without the others. -/
theorem table?_without {name : String} (h : name ∉ ts) :
    (c.without ts).table? name = c.table? name := by
  obtain ⟨entries⟩ := c
  show (entries.filter _).lookup name = entries.lookup name
  induction entries with
  | nil => rfl
  | cons e rest ih =>
    obtain ⟨key, u⟩ := e
    rw [lookup_cons_ite]
    by_cases hk : key ∈ ts
    · have hne : name ≠ key := fun heq => h (heq ▸ hk)
      rw [List.filter_cons_of_neg (by simp [hk]), ih, if_neg hne]
    · rw [List.filter_cons_of_pos (by simp [hk]), lookup_cons_ite, ih]

theorem hasTable_without {name : String} (h : name ∉ ts) :
    (c.without ts).hasTable name = c.hasTable name := by
  unfold hasTable
  rw [table?_without h]

theorem hasTable_of_mem {e : String × TableEntry} (he : e ∈ c.tables) : c.hasTable e.1 = true := by
  obtain ⟨entries⟩ := c
  show (entries.lookup e.1).isSome = true
  change e ∈ entries at he
  induction entries with
  | nil => exact absurd he (by simp)
  | cons x rest ih =>
    obtain ⟨key, u⟩ := x
    rw [lookup_cons_ite]
    split
    · rfl
    · next hne =>
      rcases List.mem_cons.mp he with rfl | he'
      · exact absurd rfl hne
      · exact ih he'

/-- A catalog that has none of the tables is itself without them. -/
theorem without_eq_self (h : ∀ t ∈ ts, c.hasTable t = false) : c.without ts = c := by
  have hall : c.tables.filter (fun e => e.1 ∉ ts) = c.tables := by
    rw [List.filter_eq_self]
    intro e he
    have hn : e.1 ∉ ts := fun hin => absurd (hasTable_of_mem he) (by simp [h _ hin])
    simpa using hn
  exact congrArg Catalog.mk hall

/-- A change to one table leaves all others as they are. -/
theorem without_apply {change : Change} {t : String} (ht : change.table? = some t) (hts : t ∈ ts)
    (h : c.apply change = .ok c') : c'.without ts = c.without ts := by
  have hupdate : ∀ {f : TableEntry → Except Refusal TableEntry},
      c.update t f = .ok c' → c'.without ts = c.without ts := by
    intro f hf
    obtain ⟨_, u, -, -, rfl⟩ := update_ok hf
    exact without_set hts u
  cases change with
  | createTable name clauses options =>
    cases ht
    rw [apply] at h
    split at h
    · cases h
    · obtain ⟨u, -, hu⟩ := bind_eq_ok.mp h
      cases hu
      exact without_set hts u
  | dropTable name =>
    cases ht
    cases h
    exact without_erase hts
  | renameTable old new => cases ht
  | addForeignKey name k =>
    cases ht
    rw [apply, addForeignKey] at h
    split at h
    · cases h
    · exact hupdate h
  | _ =>
    cases ht
    exact hupdate h

end Catalog

namespace KeyedCatalog

variable {c c' : KeyedCatalog} {ts : List String}

theorem ext_iff' {a b : KeyedCatalog} : a = b ↔ a.catalog = b.catalog ∧ a.keys = b.keys := by
  cases a
  cases b
  simp

/-- The catalog without some tables and the keys that they hold. -/
def without (c : KeyedCatalog) (ts : List String) : KeyedCatalog where
  catalog := c.catalog.without ts
  keys := c.keys.filter (·.owner ∉ ts)
  owned k hk := by
    obtain ⟨hk, ho⟩ := List.mem_filter.mp hk
    rw [Catalog.hasTable_without (by simpa using ho)]
    exact c.owned k hk

/-- In which order the tables are named does not matter. -/
theorem without_congr {us : List String} (h : ∀ t, t ∈ ts ↔ t ∈ us) :
    c.without ts = c.without us := by
  refine ext_iff'.mpr ⟨?_, ?_⟩
  · simp only [without, Catalog.without, h]
  · simp only [without, h]

theorem without_eq_self (h : ∀ t ∈ ts, c.catalog.hasTable t = false) : c.without ts = c := by
  refine ext_iff'.mpr ⟨Catalog.without_eq_self h, List.filter_eq_self.mpr fun k hk => ?_⟩
  have hn : k.owner ∉ ts := fun hin => absurd (c.owned k hk) (by simp [h _ hin])
  simpa using hn

/-! ## Single changes -/

/-- A change is made if it drops no table that another one refers to and the catalog accepts it.
What is left of the keys are those of the tables that are there. -/
theorem apply_ok {change : Change} :
    c.apply change = .ok c' ↔
      (∀ t, dropped? change = some t → c.isReferenced t = false) ∧
        c.catalog.apply change = .ok c'.catalog ∧
        c'.keys = (keysAfter c.keys change).filter (c'.catalog.hasTable ·.owner) := by
  have hfilter : (dropped? change).filter c.isReferenced = none ↔
      ∀ t, dropped? change = some t → c.isReferenced t = false := by
    rw [Option.filter_eq_none_iff]
    simp
  unfold apply
  cases hf : (dropped? change).filter c.isReferenced with
  | some t =>
    rw [← hfilter, hf]
    simp
  | none =>
    rw [← hfilter, hf]
    dsimp only
    cases c.catalog.apply change with
    | error e => simp [Except.map]
    | ok catalog =>
      simp only [Except.map, Except.ok.injEq, ext_iff', true_and]
      constructor
      · rintro ⟨rfl, hk⟩
        exact ⟨rfl, hk.symm⟩
      · rintro ⟨rfl, hk⟩
        exact ⟨rfl, hk.symm⟩

/-- The keys of other tables than the one that a change is about are as before. -/
theorem filter_keysAfter {change : Change} {t : String} (ht : change.table? = some t)
    (hts : t ∈ ts) (keys : List HeldKey) :
    (keysAfter keys change).filter (fun k => k.owner ∉ ts) =
      keys.filter fun k => k.owner ∉ ts := by
  cases change with
  | createTable name clauses options =>
    cases ht
    have hnone : (clauses.filterMap (keyOfClause? t)).filter (fun k => k.owner ∉ ts) = [] := by
      rw [List.filter_eq_nil_iff]
      intro k hk
      obtain ⟨clause, -, hc⟩ := List.mem_filterMap.mp hk
      cases clause <;> cases hc
      simp [hts]
    rw [keysAfter, List.filter_append, hnone, List.append_nil]
  | addForeignKey name k =>
    cases ht
    rw [keysAfter, List.filter_append]
    simp [hts]
  | dropConstraint name constraint =>
    cases ht
    rw [keysAfter, List.filter_filter]
    congr 1
    funext k
    by_cases hk : k.owner = t
    · simp [hk, hts]
    · simp [hk]
  | renameTable old new => cases ht
  | _ => rfl

/-- A change to one of some tables leaves what lies outside of them as it is. -/
theorem without_apply {change : Change} {t : String} (ht : change.table? = some t) (hts : t ∈ ts)
    (h : c.apply change = .ok c') : c'.without ts = c.without ts := by
  obtain ⟨-, hc, hkeys⟩ := apply_ok.mp h
  have houter := Catalog.without_apply ht hts hc
  refine ext_iff'.mpr ⟨houter, ?_⟩
  show c'.keys.filter _ = c.keys.filter _
  rw [← filter_keysAfter ht hts c.keys, hkeys, List.filter_filter]
  -- The tables outside are there as before, and with them the holders of their keys.
  refine List.filter_congr fun k hk => ?_
  by_cases ho : k.owner ∈ ts
  · simp [ho]
  · have hin : k ∈ c.keys := by
      have hmem : k ∈ (keysAfter c.keys change).filter fun k => k.owner ∉ ts :=
        List.mem_filter.mpr ⟨hk, by simpa using ho⟩
      rw [filter_keysAfter ht hts] at hmem
      exact (List.mem_filter.mp hmem).1
    have hthere : c'.catalog.hasTable k.owner = true := by
      rw [← Catalog.hasTable_without ho, houter, Catalog.hasTable_without ho]
      exact c.owned k hin
    simp [hthere]

/-! ## Several changes -/

/-- Changes to some tables leave what lies outside of them as it is. -/
theorem without_applyAll {changes : List Change}
    (hts : ∀ change ∈ changes, ∃ t ∈ ts, change.table? = some t) :
    ∀ {c : KeyedCatalog}, changes.foldlM apply c = .ok c' → c'.without ts = c.without ts := by
  induction changes with
  | nil =>
    intro c h
    cases h
    rfl
  | cons change changes ih =>
    intro c h
    obtain ⟨c₁, hc₁, h⟩ := foldlM_cons_ok.mp h
    obtain ⟨t, ht, htable⟩ := hts change (by simp)
    rw [ih (fun x hx => hts x (List.mem_cons_of_mem change hx)) h, without_apply htable ht hc₁]

/-- Changes that drop no table are made if the plain catalog accepts them. -/
theorem applyAll_of_catalog {changes : List Change} {k : Catalog}
    (hdrop : ∀ change ∈ changes, dropped? change = none) :
    ∀ {c : KeyedCatalog}, changes.foldlM Catalog.apply c.catalog = .ok k →
      ∃ c', changes.foldlM apply c = .ok c' ∧ c'.catalog = k := by
  induction changes with
  | nil =>
    intro c h
    cases h
    exact ⟨c, rfl, rfl⟩
  | cons change changes ih =>
    intro c h
    obtain ⟨k₁, hk₁, h⟩ := foldlM_cons_ok.mp h
    obtain ⟨c₁, hc₁, rfl⟩ : ∃ c₁, c.apply change = .ok c₁ ∧ c₁.catalog = k₁ := by
      refine ⟨⟨k₁, _, fun _ hk => (List.mem_filter.mp hk).2⟩,
        apply_ok.mpr ⟨fun t ht => ?_, hk₁, rfl⟩, rfl⟩
      rw [hdrop change (by simp)] at ht
      cases ht
    obtain ⟨c', hc', rfl⟩ := ih (fun x hx => hdrop x (List.mem_cons_of_mem change hx)) h
    exact ⟨c', foldlM_cons_ok.mpr ⟨c₁, hc₁, hc'⟩, rfl⟩

/-- A key that is there after a change was there before, or the change declares it. -/
theorem mem_keysAfter {change : Change} {t : String} (ht : change.table? = some t)
    {keys : List HeldKey} {k : HeldKey} (hk : k ∈ keysAfter keys change) :
    k ∈ keys ∨ k ∈ keysAfter [] change := by
  cases change with
  | createTable name clauses options => exact List.mem_append.mp hk
  | addForeignKey name key => exact List.mem_append.mp hk
  | dropConstraint name constraint => exact Or.inl (List.mem_filter.mp hk).1
  | renameTable old new => cases ht
  | _ => exact Or.inl hk

theorem mem_keys_applyAll {changes : List Change}
    (hts : ∀ change ∈ changes, ∃ t ∈ ts, change.table? = some t) {k : HeldKey} (hk : k ∈ c'.keys) :
    ∀ {c : KeyedCatalog}, changes.foldlM apply c = .ok c' →
      k ∈ c.keys ∨ ∃ change ∈ changes, k ∈ keysAfter [] change := by
  induction changes with
  | nil =>
    intro c h
    cases h
    exact Or.inl hk
  | cons change changes ih =>
    intro c h
    obtain ⟨c₁, hc₁, h⟩ := foldlM_cons_ok.mp h
    rcases ih (fun x hx => hts x (List.mem_cons_of_mem change hx)) h with hin | ⟨x, hx, hkx⟩
    · obtain ⟨t, -, htable⟩ := hts change (by simp)
      rw [(apply_ok.mp hc₁).2.2] at hin
      rcases mem_keysAfter htable (List.mem_filter.mp hin).1 with hin | hin
      · exact Or.inl hin
      · exact Or.inr ⟨change, by simp, hin⟩
    · exact Or.inr ⟨x, List.mem_cons_of_mem change hx, hkx⟩

/-! ## Dropping the tables of models -/

/-- Foreign keys to the tables of the models are held by these models only. -/
def HoldsOnly (c : KeyedCatalog) (models : List Model) : Prop :=
  ∀ k ∈ c.keys, k.referenced ∈ models.map (·.table) →
    ∃ b ∈ models, b.table = k.owner ∧ ∃ fk ∈ b.foreignKeys, fk.referencedTable = k.referenced

/-- The tables of models that do not refer to later ones are dropped from the last to the first. -/
theorem drops_accepted {models : List Model} (hdistinct : (models.map (·.table)).Nodup)
    (hback : ReferencesBack models) : ∀ {c : KeyedCatalog}, c.HoldsOnly models →
      ∃ c', (models.reverse.map fun a => Change.dropTable a.table).foldlM apply c = .ok c' ∧
        ∀ t, c'.catalog.hasTable t = true ↔
          c.catalog.hasTable t = true ∧ t ∉ models.map (·.table) := by
  induction models using List.reverseRecOn with
  | nil => exact fun {c} _ => ⟨c, rfl, fun t => by simp⟩
  | append_singleton models a ih =>
    intro c hkeys
    rw [List.map_append, List.nodup_append] at hdistinct
    obtain ⟨hdistinct, -, hlast⟩ := hdistinct
    obtain ⟨hback, -, hbefore⟩ := List.pairwise_append.mp hback
    -- No other table refers to the last one: a model before it does not, and it is not another.
    have hfree : c.isReferenced a.table = false := by
      rw [isReferenced, List.any_eq_false]
      intro k hk hboth
      simp only [ne_eq, decide_not, Bool.and_eq_true, Bool.not_eq_eq_eq_not, Bool.not_true,
        decide_eq_false_iff_not, decide_eq_true_eq] at hboth
      obtain ⟨b, hb, hbo, fk, hfk, href⟩ := hkeys k hk (by simp [hboth.2])
      rcases List.mem_append.mp hb with hb | hb
      · exact hbefore b hb a (by simp) fk hfk (href.trans hboth.2)
      · rw [List.mem_singleton] at hb
        exact hboth.1 (hb ▸ hbo.symm)
    have hgone : ∀ t, (c.catalog.erase a.table).hasTable t = true ↔
        c.catalog.hasTable t = true ∧ t ≠ a.table := by
      intro t
      unfold Catalog.hasTable
      rw [Catalog.table?_erase]
      split
      · next heq => simp [heq]
      · next hne => simp [hne]
    obtain ⟨c₁, hc₁, hcat, hk₁⟩ : ∃ c₁, c.apply (.dropTable a.table) = .ok c₁ ∧
        c₁.catalog = c.catalog.erase a.table ∧
        c₁.keys = c.keys.filter ((c.catalog.erase a.table).hasTable ·.owner) := by
      refine ⟨⟨c.catalog.erase a.table, _, fun _ hk => (List.mem_filter.mp hk).2⟩,
        apply_ok.mpr ⟨fun t ht => ?_, rfl, rfl⟩, rfl, rfl⟩
      cases ht
      exact hfree
    have hrest : c₁.HoldsOnly models := by
      intro k hk href
      rw [hk₁, List.mem_filter, hgone] at hk
      obtain ⟨b, hb, hbo, hfk⟩ := hkeys k hk.1 (by
        rw [List.map_append, List.mem_append]
        exact Or.inl href)
      refine ⟨b, (List.mem_append.mp hb).resolve_right fun hba => ?_, hbo, hfk⟩
      rw [List.mem_singleton] at hba
      exact hk.2.2 (hba ▸ hbo.symm)
    obtain ⟨c', hc', ht'⟩ := ih hdistinct hback hrest
    refine ⟨c', ?_, fun t => ?_⟩
    · rw [List.reverse_append]
      exact foldlM_cons_ok.mpr ⟨c₁, hc₁, hc'⟩
    · rw [ht', hcat, hgone, List.map_append, List.mem_append, and_assoc]
      simp [not_or, and_comm]

/-! ## Creating the tables of models and dropping them -/

section

variable {d : Dialect} {config : Config}

/-- What creates the table of a model is about this table and drops nothing, and the keys that it
declares are those of the model. -/
theorem of_mem_creation {m : Model} {change : Change} (h : change ∈ m.creation d config) :
    change.table? = some m.table ∧ dropped? change = none ∧
      ∀ k ∈ keysAfter [] change, k.owner = m.table ∧
        ∃ fk ∈ m.foreignKeys, fk.referencedTable = k.referenced := by
  cases hp : m.plan d config with
  | error e =>
    rw [Model.creation, hp] at h
    exact absurd h (by simp)
  | ok plan =>
    rw [Model.creation_eq hp, TablePlan.changes, List.mem_cons] at h
    rcases h with rfl | h
    · unfold Model.plan at hp
      split at hp
      · cases hp
      · cases hp
        refine ⟨rfl, rfl, fun k hk => ?_⟩
        obtain ⟨clause, hclause, hk⟩ := List.mem_filterMap.mp hk
        cases clause with
        | foreignKey fk =>
          cases hk
          exact ⟨rfl, fk, Model.mem_clauses.mp hclause, rfl⟩
        | _ => cases hk
    · obtain ⟨i, -, rfl⟩ := List.mem_map.mp h
      exact ⟨rfl, rfl, fun k hk => absurd hk (by simp [keysAfter])⟩

/-- **There and back.**  The tables of models that the catalog admits, and that no table refers to
yet, are created one after the other, and dropped one after the other in the opposite order.  In
between all else is as it was, and afterwards everything. -/
theorem creations_drops {models : List Model} (hadmits : c.catalog.Admits models)
    (hbuilt : ∀ a ∈ models, a.IsBuilt) (hplan : ∀ a ∈ models, ∃ plan, a.plan d config = .ok plan)
    (hkeys : ∀ k ∈ c.keys, k.referenced ∉ models.map (·.table)) :
    ∃ c', (models.flatMap (·.creation d config)).foldlM apply c = .ok c' ∧
      (∀ a ∈ models, c'.catalog.hasTable a.table = true) ∧
      c'.without (models.map (·.table)) = c ∧
      (models.reverse.map fun a => Change.dropTable a.table).foldlM apply c' = .ok c := by
  obtain ⟨k, hk, htables⟩ := Catalog.creations_accepted hadmits hbuilt hplan
  have hmem : ∀ change ∈ models.flatMap (·.creation d config),
      ∃ a ∈ models, change ∈ a.creation d config := fun change h => List.mem_flatMap.mp h
  obtain ⟨c', hc', rfl⟩ := applyAll_of_catalog (fun change h => by
    obtain ⟨a, -, ha⟩ := hmem change h
    exact (of_mem_creation ha).2.1) hk
  have habout : ∀ change ∈ models.flatMap (·.creation d config),
      ∃ t ∈ models.map (·.table), change.table? = some t := fun change h => by
    obtain ⟨a, ha, hca⟩ := hmem change h
    exact ⟨a.table, List.mem_map_of_mem ha, (of_mem_creation hca).1⟩
  have hnew : ∀ t ∈ models.map (·.table), c.catalog.hasTable t = false := by
    intro t ht
    obtain ⟨a, ha, rfl⟩ := List.mem_map.mp ht
    exact hadmits.fresh a ha
  have hbetween : c'.without (models.map (·.table)) = c :=
    (without_applyAll habout hc').trans (without_eq_self hnew)
  have hholds : c'.HoldsOnly models := by
    intro key hkey href
    rcases mem_keys_applyAll habout hkey hc' with hold | ⟨change, hchange, hdecl⟩
    · exact absurd href (hkeys key hold)
    · obtain ⟨a, ha, hca⟩ := hmem change hchange
      obtain ⟨howner, hfk⟩ := (of_mem_creation hca).2.2 key hdecl
      exact ⟨a, ha, howner.symm, hfk⟩
  obtain ⟨c'', hc'', hgone⟩ := drops_accepted hadmits.distinct hadmits.back hholds
  refine ⟨c', hc', fun a ha => (htables _).mpr (Or.inr (List.mem_map_of_mem ha)), hbetween, ?_⟩
  -- What is left at the end lies outside of the tables, and there nothing has changed.
  have hend : c'' = c := by
    have hnone : ∀ t ∈ models.map (·.table), c''.catalog.hasTable t = false := by
      intro t ht
      rw [Bool.eq_false_iff, Ne, hgone]
      exact fun h => h.2 ht
    rw [← without_eq_self hnone, without_applyAll (fun change h => ?_) hc'', hbetween]
    obtain ⟨a, ha, rfl⟩ := List.mem_map.mp h
    exact ⟨a.table, List.mem_map_of_mem (List.mem_reverse.mp ha), rfl⟩
  exact hend ▸ hc''

end

end KeyedCatalog

end SchemaMigration
