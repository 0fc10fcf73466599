import Mathlib.Data.List.Forall2
import SchemaMigration.Proofs.Except
import SchemaMigration.Sql.TablePlan

/-!
# The columns of a new table

Every column of a new table needs a type.  The columns get their types one after the other, so that
the first one without a type is to blame when there is one (`typedColumns_eq_error_iff`).  Otherwise
each column comes with its own type (`forall₂_typedColumns`).
-/

namespace SchemaMigration

variable {d : Dialect} {table : String}

theorem Dialect.fullColumnType_eq_error_iff {c : Column} {e : MigrationError} :
    d.fullColumnType table c = .error e ↔ d.columnType table c = .error e := by
  unfold fullColumnType
  cases d.columnType table c with
  | error e' => simp [Except.map]
  | ok type => simp [Except.map]

/-- The columns have no types when one of them has none, and all before it have one. -/
theorem Model.typedColumns_eq_error_iff {e : MigrationError} {cs : List Column} :
    typedColumns d table cs = .error e ↔ ∃ before c after, cs = before ++ c :: after ∧
      (∀ b ∈ before, ∃ type, d.columnType table b = .ok type) ∧
      d.columnType table c = .error e := by
  induction cs with
  | nil => simp [typedColumns]
  | cons c cs ih =>
    cases hfull : d.fullColumnType table c with
    | error e' =>
      have hc : d.columnType table c = .error e' := Dialect.fullColumnType_eq_error_iff.mp hfull
      have hfail : typedColumns d table (c :: cs) = .error e' := by rw [typedColumns, hfull]
      rw [hfail]
      constructor
      · intro h
        exact ⟨[], c, cs, rfl, by simp, hc.trans (congrArg _ (Except.error.inj h))⟩
      · rintro ⟨before, x, after, hcut, hbefore, hx⟩
        cases before with
        | nil =>
          obtain ⟨rfl, -⟩ := List.cons.inj hcut
          exact congrArg _ (Except.error.inj (hc.symm.trans hx))
        | cons b before =>
          obtain ⟨rfl, -⟩ := List.cons.inj hcut
          obtain ⟨type, htype⟩ := hbefore c List.mem_cons_self
          rw [hc] at htype
          cases htype
    | ok type =>
      have hc : ∃ t, d.columnType table c = .ok t := exists_map_ok.mp ⟨type, hfull⟩
      have hrest : typedColumns d table (c :: cs) = .error e ↔
          typedColumns d table cs = .error e := by
        rw [typedColumns, hfull]
        cases typedColumns d table cs <;> simp
      rw [hrest, ih]
      constructor
      · rintro ⟨before, x, after, rfl, hbefore, hx⟩
        exact ⟨c :: before, x, after, rfl, List.forall_mem_cons.mpr ⟨hc, hbefore⟩, hx⟩
      · rintro ⟨before, x, after, hcut, hbefore, hx⟩
        cases before with
        | nil =>
          obtain ⟨rfl, -⟩ := List.cons.inj hcut
          obtain ⟨t, ht⟩ := hc
          rw [ht] at hx
          cases hx
        | cons b before =>
          obtain ⟨-, rfl⟩ := List.cons.inj hcut
          exact ⟨before, x, after, rfl, (List.forall_mem_cons.mp hbefore).2, hx⟩

/-- The columns with their types are the columns, each with its own. -/
theorem Model.forall₂_typedColumns {cs : List Column} {typed : List (Column × String)}
    (h : typedColumns d table cs = .ok typed) :
    List.Forall₂ (fun c entry => entry.1 = c ∧ d.fullColumnType table c = .ok entry.2)
      cs typed := by
  induction cs generalizing typed with
  | nil =>
    cases h
    exact .nil
  | cons c cs ih =>
    rw [typedColumns] at h
    cases hfull : d.fullColumnType table c with
    | error e =>
      rw [hfull] at h
      cases h
    | ok type =>
      cases hrest : typedColumns d table cs with
      | error e =>
        rw [hfull, hrest] at h
        cases h
      | ok rest =>
        rw [hfull, hrest] at h
        cases h
        exact .cons ⟨rfl, hfull⟩ (ih hrest)

/-- All columns have types when each of them has one. -/
theorem Model.exists_typedColumns_iff {cs : List Column} :
    (∃ typed, typedColumns d table cs = .ok typed) ↔
      ∀ c ∈ cs, ∃ type, d.columnType table c = .ok type := by
  induction cs with
  | nil => simp [typedColumns]
  | cons c cs ih =>
    have hfull : (∃ type, d.fullColumnType table c = .ok type) ↔
        ∃ type, d.columnType table c = .ok type := exists_map_ok
    rw [List.forall_mem_cons, ← ih, ← hfull, typedColumns]
    cases d.fullColumnType table c <;> cases typedColumns d table cs <;> simp

/-- What holds of the types can be asked of the columns. -/
theorem Model.forall_types_iff {cs : List Column} {typed : List (Column × String)}
    {p : String → Prop} (h : typedColumns d table cs = .ok typed) :
    (∀ type ∈ typed.map (·.2), p type) ↔
      ∀ c ∈ cs, ∀ type, d.fullColumnType table c = .ok type → p type := by
  have hforall := forall₂_typedColumns h
  clear h
  induction hforall with
  | nil => simp
  | cons hc _ ih =>
    obtain ⟨rfl, htype⟩ := hc
    rw [List.map_cons, List.forall_mem_cons, List.forall_mem_cons]
    exact and_congr (by simp [htype]) ih

theorem Model.typedColumns_ok {cs : List Column} {typed : List (Column × String)}
    (h : typedColumns d table cs = .ok typed) : typed.map (·.1) = cs := by
  have heq : List.Forall₂ (· = ·) (typed.map (·.1)) cs :=
    List.forall₂_map_left_iff.mpr ((forall₂_typedColumns h).flip.imp fun _ _ h => h.1)
  rwa [List.forall₂_eq_eq_eq] at heq

end SchemaMigration
