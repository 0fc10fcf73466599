import Mathlib.Data.Set.Finite.List
import SchemaMigration.Proofs.Migration.Idempotence
import SchemaMigration.Proofs.Migration.Lockstep
import SchemaMigration.Proofs.Order.Result

/-!
# A database that conforms is left alone

When everything that the models declare is there, `autoMigrate` succeeds, reports nothing and makes
no change (`autoMigrate_conforming`).  The database may have more than that: other tables, and other
columns, constraints and indexes of the same tables.

`autoMigrate_settled` says it of settled models, whose join tables come to an end.  What is left to
see is that they do when none of them leads back to itself: a registry describes finitely many
models, so that a chain of join tables without an end would come to one of them twice.

That no change is made is said in two ways.  None is in the history of the session's calls, and it
does not matter what the session would have done with one.
-/

namespace SchemaMigration

open Relation (ReflTransGen TransGen)

/-- Where one leads to finitely many others, and none of these leads back to itself, no chain goes
on without end. -/
theorem acc_of_acyclic {α : Type} {r : α → α → Prop} {x : α}
    (hfinite : {y | ReflTransGen r x y}.Finite)
    (h : ∀ y, ReflTransGen r x y → ¬ TransGen r y y) : Acc (fun y x => r x y) x := by
  let leads (b a : {y | ReflTransGen r x y}) : Prop := TransGen r a.1 b.1
  have hreached : Finite {y | ReflTransGen r x y} := hfinite
  have htrans : IsTrans _ leads := ⟨fun _ _ _ hab hbc => TransGen.trans hbc hab⟩
  have hirrefl : Std.Irrefl leads := ⟨fun a => h a.1 a.2⟩
  have hacc : ∀ a : {y | ReflTransGen r x y}, Acc (fun y x => r x y) a.1 := by
    intro a
    induction a using (Finite.wellFounded_of_trans_of_irrefl leads).induction with
    | _ a ih => exact Acc.intro a.1 fun y hy => ih ⟨y, a.2.tail hy⟩ (TransGen.single hy)
  exact hacc ⟨x, ReflTransGen.refl⟩

/-- The model has all that it declares, and so has every model that its join tables lead to; they
describe one each, and none leads back to itself. -/
structure InPlace (reg : Registry) (config : Config) (c : Catalog) (m : Model) : Prop where
  conforms : ∀ j, ReflTransGen (Joins reg) m j → c.Conforms config j
  described : ∀ j, ReflTransGen (Joins reg) m j → ∀ s ∈ j.joinTables, ∃ k, reg.describe s = .ok k
  acyclic : ∀ j, ReflTransGen (Joins reg) m j → ¬ TransGen (Joins reg) j j

section

variable {reg : Registry} {config : Config} {c : Catalog} {m : Model}

/-- All descriptions that did not fail. -/
def Registry.described (reg : Registry) : List Model :=
  reg.entries.toList.filterMap (·.toOption)

theorem Registry.mem_described {reg : Registry} {s : Source} {j : Model}
    (h : reg.describe s = .ok j) : j ∈ reg.described := by
  unfold Registry.describe at h
  split at h
  · next description hslot =>
    subst h
    exact List.mem_filterMap.mpr ⟨.ok j, (Array.mem_of_getElem? hslot).val, rfl⟩
  · cases h

/-- A registry describes finitely many models. -/
theorem Registry.finite_described (reg : Registry) :
    {j | ∃ s, reg.describe s = .ok j}.Finite :=
  reg.described.finite_toSet.subset fun _ ⟨_, hs⟩ => Registry.mem_described hs

/-- A model leads to finitely many models. -/
theorem finite_joined (reg : Registry) (m : Model) : {j | ReflTransGen (Joins reg) m j}.Finite := by
  refine (reg.finite_described.insert m).subset fun j hj => ?_
  rcases ReflTransGen.cases_tail hj with rfl | ⟨k, -, s, -, hs⟩
  · exact Or.inl rfl
  · exact Or.inr ⟨s, hs⟩

theorem InPlace.settled (h : InPlace reg config c m) : Settled reg config c m :=
  ⟨h.conforms, h.described, acc_of_acyclic (finite_joined reg m) h.acyclic⟩

end

namespace Migrator

/-- A session that answers from a catalog has no changes in its history as long as it is asked and
nothing else, whatever it does with changes. -/
theorem recorded_tells (c : Catalog) (d e : Dialect) (database : String)
    (execute : Change → Action Catalog Unit) :
    ({ Catalog.session d database with execute } : Session Catalog).recorded.Tells e c
      (fun x => x.1 = c ∧ changesOf x.2 = []) := by
  rintro table part ⟨_, history⟩ ⟨rfl, hnone⟩
  refine ⟨(_, history ++ part.asked database table), ⟨rfl, ?_⟩,
    Catalog.recorded_affirms _ history d e database table part⟩
  show changesOf (history ++ part.asked database table) = []
  rw [changesOf_append, show changesOf history = [] from hnone]
  rfl

/-- **A database that conforms is left alone.**  Let the literal tables be there, and every ordered
model with all that it declares, together with every model that its join tables lead to.  Then
`autoMigrate` succeeds, and its report is empty.  The catalog is as it was, and the session was not
asked to make a change, whatever it would have done. -/
theorem autoMigrate_conforming (m : Migrator) (reg : Registry) (d : Dialect) (database : String)
    (execute : Change → Action Catalog Unit) (refs : List ModelRef) (out : List ResolvedModel)
    (c : Catalog) (ho : order reg true refs = .ok out)
    (htables : ∀ name, .table name ∈ refs → c.hasTable name = true)
    (hmodels : ∀ model, .model model ∈ out → InPlace reg m.config c model) :
    ∃ allowance history, changesOf history = [] ∧ ∀ n, allowance ≤ n →
      m.autoMigrate reg ({ Catalog.session d database with execute } : Session Catalog).recorded n
        refs (c, []) = some (.ok { dryRun := m.config.dryRun } (c, history)) := by
  have hsettled : ∀ model ∈ out, model.Settled reg m.config c := by
    intro model hm
    cases model with
    | table name =>
      obtain ⟨w, -, rfl⟩ := order_ok ho
      exact (Catalog.has_table c name).trans (htables name (table_mem_orderOf.mp hm))
    | model model => exact (hmodels model hm).settled
  obtain ⟨n, ⟨_, history⟩, ⟨rfl, hnone⟩, hrun⟩ :=
    autoMigrate_settled (recorded_tells c d m.dialect database execute) ho (c, []) ⟨rfl, rfl⟩
      hsettled
  exact ⟨n, history, hnone, hrun⟩

/-! ## A database that has more than it needs -/

/-- A literal table, and the languages and their speakers. -/
def visitedRefs : List ModelRef := [.table "visits", .model languages, .model speakers]

/-- All that is declared, a table that is not, and a column, a constraint and an index besides. -/
def visited : Catalog :=
  ⟨[("visits", {}), ("languages", { columns := ["id", "name"] }),
    ("speakers", { columns := ["id"] }),
    ("speaker_languages",
      { columns := ["speaker_id", "language_id"],
        constraints := ⟨["ck_speaker", "fk_language", "fk_speaker"]⟩,
        indexes := ⟨["idx_language"]⟩ })]⟩

theorem order_visited : order spokenRegistry true visitedRefs =
    .ok [.table "visits", .model languages, .model speakers] := by with_unfolding_all rfl

theorem mem_of_reaches {model j : Model} (hm : model ∈ [languages, speakers, spoken])
    (h : ReflTransGen (Joins spokenRegistry) model j) : j ∈ [languages, speakers, spoken] := by
  induction h with
  | refl => exact hm
  | tail _ hj ih => simp [(eq_spoken_of_joins ih hj).2]

theorem inPlace_visited {model : Model} (hm : model ∈ [languages, speakers, spoken]) :
    InPlace spokenRegistry {} visited model where
  conforms j hj := by
    have hall : ∀ j ∈ [languages, speakers, spoken],
        ∀ p ∈ j.parts {}, visited.has j.table p = true := by decide
    exact hall j (mem_of_reaches hm hj)
  described j hj s hs := by
    have hall : ∀ j ∈ [languages, speakers, spoken], ∀ s ∈ j.joinTables, s.slot = 0 := by decide
    refine ⟨spoken, ?_⟩
    unfold Registry.describe
    rw [hall j (mem_of_reaches hm hj) s hs]
    rfl
  acyclic j hj hcycle := by
    -- The first step of a cycle starts from the speakers, and its last one ends at the join table.
    obtain ⟨k, hfirst, -⟩ := TransGen.head'_iff.mp hcycle
    have hstart := (eq_spoken_of_joins (mem_of_reaches hm hj) hfirst).1
    obtain ⟨k, hbefore, hlast⟩ := TransGen.tail'_iff.mp hcycle
    have hend := (eq_spoken_of_joins (mem_of_reaches (mem_of_reaches hm hj) hbefore) hlast).2
    exact absurd (congrArg Model.table (hstart.symm.trans hend)) (by decide)

/-- What a database does with a change that loses all of its tables. -/
def lose : Change → Action Catalog Unit := fun _ => set ({} : Catalog)

/-- A session that would lose every table with the first change leaves this database alone. -/
theorem autoMigrate_conforming_speakers :
    order spokenRegistry true visitedRefs =
        .ok [.table "visits", .model languages, .model speakers] ∧
      visited.hasTable "visits" = true ∧ InPlace spokenRegistry {} visited speakers ∧
      ∃ allowance history, changesOf history = [] ∧ ∀ n, allowance ≤ n →
        plainMigrator.autoMigrate spokenRegistry
          ({ Catalog.session Mysql.dialect "app" with execute := lose } : Session Catalog).recorded
          n visitedRefs (visited, []) = some (.ok {} (visited, history)) := by
  refine ⟨order_visited, rfl, inPlace_visited (by simp), ?_⟩
  refine autoMigrate_conforming plainMigrator spokenRegistry Mysql.dialect "app" lose
    visitedRefs _ visited order_visited (fun name hname => ?_)
    fun model hmodel => inPlace_visited ?_
  · simp only [visitedRefs, List.mem_cons, ModelRef.table.injEq, List.not_mem_nil, or_false,
      reduceCtorEq] at hname
    subst hname
    rfl
  · simp only [List.mem_cons, ResolvedModel.model.injEq, List.not_mem_nil, or_false,
      reduceCtorEq, false_or] at hmodel
    rcases hmodel with rfl | rfl <;> simp

end Migrator

end SchemaMigration
