import SchemaMigration.Proofs.Sql.Rendering
import SchemaMigration.Sql.CatalogQuery
import SchemaMigration.Sql.Mysql

/-!
# Values bound and values written out

A statement has two texts: one with its values left open, as question marks, to be bound by the
session, and one with its values written out as literals.  Both come from one pass over the template.

> Putting the literals of the bound values in the places of the question marks of the first text
> gives the second text (`render_agrees`).

This needs two things.  The template has no question mark without an argument, since that would stay
and be taken for a value; and no argument but a value brings a question mark into the text.  Whether
the literals hold question marks does not matter.  Every question to the catalog is such a statement,
whatever the names in it (`CatalogQuery.statement_bindable`).

How arguments are written does not matter either, if only the two ways are alike but for the values
(`ValuesApart`).  So it is shown for any two such ways, and those of a dialect are a case.
-/

namespace SchemaMigration

/-- The value that an argument binds, if it binds one. -/
def Argument.value? : Argument → Option Value
  | value v => some v
  | _ => none

theorem Argument.eq_value_of_value? {a : Argument} {v : Value} (h : a.value? = some v) :
    a = .value v := by
  cases a with
  | value w =>
    cases h
    rfl
  | _ => cases h

/-- Two ways to write arguments.  One leaves a question mark for a value and binds it, the other
writes a literal; all other arguments they write alike, and bind nothing for them. -/
structure ValuesApart (opened written : Argument → String × List Value) (literal : Value → String) :
    Prop where
  opens : ∀ v, opened (.value v) = ("?", [v])
  writes : ∀ v, written (.value v) = (literal v, [])
  alike : ∀ a, a.value? = none → written a = opened a ∧ (opened a).2 = []

/-- A dialect has two such ways. -/
theorem Dialect.valuesApart (d : Dialect) :
    ValuesApart (Argument.bound d) (Argument.inlined d) d.inlineValue where
  opens _ := rfl
  writes _ := rfl
  alike a h := by
    cases a with
    | value v => cases h
    | _ => exact ⟨rfl, rfl⟩

/-- What has no question mark stays in front. -/
theorem fillMarks_append {before : List Char} (h : '?' ∉ before) (cs : List Char)
    (others : List String) :
    fillMarks (before ++ cs) others = String.ofList before ++ fillMarks cs others := by
  induction before with
  | nil => simp
  | cons c before ih =>
    obtain ⟨hc, hbefore⟩ := not_or.mp (fun hor => h (List.mem_cons.mpr hor))
    rw [List.cons_append, fillMarks_other (Ne.symm hc), ih hbefore, ← String.append_assoc,
      ← String.ofList_append, List.singleton_append]

namespace Statement

variable {d : Dialect} {s : Statement}
variable {opened written : Argument → String × List Value} {literal : Value → String}

/-- Every question mark of the template has an argument, and no argument but a value brings another
one into the text. -/
structure Bindable (opened : Argument → String × List Value) (s : Statement) : Prop where
  marks : s.template.toList.count '?' ≤ s.arguments.length
  texts : ∀ a ∈ s.arguments, a.value? = none → '?' ∉ (opened a).1.toList

/-- The two texts of a statement agree, `s.filled opened` with question marks for its values and
`s.filled written` with their literals. -/
structure FillsAlike (opened written : Argument → String × List Value) (literal : Value → String)
    (s : Statement) : Prop where
  /-- The text has a question mark for each value that is bound. -/
  marks : (s.filled opened).1.toList.count '?' = (s.filled opened).2.length
  /-- The bound values are those of the arguments that the template uses, in order. -/
  values : (s.filled opened).2 =
    (s.arguments.take (s.template.toList.count '?')).filterMap (·.value?)
  /-- With the literals of the values in the places of the question marks, it is the text with the
  values written out. -/
  texts : fillMarks (s.filled opened).1.toList ((s.filled opened).2.map literal) =
    (s.filled written).1

/-- The two texts of a statement in a dialect agree. -/
structure RendersAlike (d : Dialect) (s : Statement) : Prop where
  marks : (s.render d).1.toList.count '?' = (s.render d).2.length
  values : (s.render d).2 =
    (s.arguments.take (s.template.toList.count '?')).filterMap (·.value?)
  texts : fillMarks (s.render d).1.toList ((s.render d).2.map d.inlineValue) = s.sql d

section

variable (h : ValuesApart opened written literal)

include h

/-- A value leaves a question mark of its own when it is bound. -/
theorem fill_opened_value (v : Value) (cs : List Char) (xs : List Argument) :
    fill opened ('?' :: cs) (.value v :: xs) =
      ('?' :: (fill opened cs xs).1, v :: (fill opened cs xs).2) := by
  have hmark : "?".toList = ['?'] := by decide
  rw [fill_cons_mark, h.opens, hmark]
  rfl

theorem fill_written_value (v : Value) (cs : List Char) (xs : List Argument) :
    fill written ('?' :: cs) (.value v :: xs) =
      ((literal v).toList ++ (fill written cs xs).1, (fill written cs xs).2) := by
  rw [fill_cons_mark, h.writes]
  rfl

/-- Both ways through a template, step by step: a value leaves a mark in one text and a literal in
the other, any other argument leaves the same in both. -/
theorem fill_agrees {cs : List Char} : ∀ {xs : List Argument}, cs.count '?' ≤ xs.length →
    (∀ a ∈ xs, a.value? = none → '?' ∉ (opened a).1.toList) →
      (fill opened cs xs).1.count '?' = (fill opened cs xs).2.length ∧
      (fill opened cs xs).2 = (xs.take (cs.count '?')).filterMap (·.value?) ∧
      fillMarks (fill opened cs xs).1 ((fill opened cs xs).2.map literal) =
        String.ofList (fill written cs xs).1 := by
  induction cs with
  | nil =>
    intro xs _ _
    simp [fill, fillMarks, Text.splitAtEach, weave]
  | cons c cs ih =>
    intro xs hmarks htexts
    by_cases hc : c = '?'
    · subst hc
      rw [List.count_cons_self] at hmarks ⊢
      cases xs with
      | nil => simp at hmarks
      | cons a xs =>
        obtain ⟨hcount, hvalues, hfill⟩ := @ih xs (by simpa using hmarks)
          fun b hb => htexts b (List.mem_cons_of_mem a hb)
        rw [List.take_succ_cons]
        cases hv : a.value? with
        | some v =>
          obtain rfl := Argument.eq_value_of_value? hv
          rw [List.filterMap_cons_some hv, ← hvalues, fill_opened_value h, fill_written_value h]
          refine ⟨?_, rfl, ?_⟩
          · rw [List.count_cons_self, hcount, List.length_cons]
          · rw [List.map_cons, fillMarks_mark, hfill, String.ofList_append, String.ofList_toList]
        | none =>
          obtain ⟨hwritten, hnone⟩ := h.alike a hv
          have hplain := htexts a List.mem_cons_self hv
          rw [List.filterMap_cons_none hv, ← hvalues, fill_cons_mark, fill_cons_mark, hwritten,
            hnone, List.nil_append]
          refine ⟨?_, rfl, ?_⟩
          · rw [List.count_append, List.count_eq_zero.mpr hplain, hcount, Nat.zero_add]
          · rw [fillMarks_append hplain, hfill, String.ofList_append]
    · rw [List.count_cons_of_ne hc] at hmarks ⊢
      obtain ⟨hcount, hvalues, hfill⟩ := ih hmarks htexts
      rw [fill_cons_other hc, fill_cons_other hc]
      refine ⟨?_, hvalues, ?_⟩
      · rw [List.count_cons_of_ne hc, hcount]
      · rw [fillMarks_other hc, hfill, ← String.ofList_append, List.singleton_append]

theorem Bindable.fillsAlike (hs : s.Bindable opened) : s.FillsAlike opened written literal := by
  obtain ⟨hcount, hvalues, hfill⟩ := fill_agrees h hs.marks hs.texts
  refine ⟨?_, hvalues, ?_⟩
  · rw [filled, String.toList_ofList]
    exact hcount
  · rw [filled, String.toList_ofList]
    exact hfill

end

theorem Bindable.rendersAlike (hs : s.Bindable (Argument.bound d)) : s.RendersAlike d :=
  let h := hs.fillsAlike d.valuesApart
  ⟨h.marks, h.values, h.texts⟩

end Statement

/-! ## Questions to the catalog -/

namespace CatalogQuery

/-- The texts that a question binds, in order. -/
def texts : CatalogQuery → List String
  | currentDatabase => []
  | table db tbl => [db, tbl, "BASE TABLE"]
  | column db tbl name | constraint db tbl name | index db tbl name => [db, tbl, name]
  | columnTypes db tbl => [db, tbl]

/-- A question has a mark for each text that it binds, whatever these are; how a dialect asks for
the current database is up to the dialect. -/
theorem statement_arguments (d : Dialect) {q : CatalogQuery} (hq : q ≠ currentDatabase) :
    (q.statement d).arguments = q.texts.map text ∧
      (q.statement d).template.toList.count '?' = q.texts.length := by
  -- What is selected has no question mark; the condition has them all.
  have hcount : ∀ {select condition : String} {n : Nat}, select.toList.count '?' = 0 →
      condition.toList.count '?' = n → (select ++ condition).toList.count '?' = n := by
    intro select condition n hselect hcondition
    rw [String.toList_append, List.count_append, hselect, hcondition, Nat.zero_add]
  cases q with
  | currentDatabase => exact absurd rfl hq
  | table db tbl => exact ⟨rfl, hcount (n := 3) (by decide +kernel) (by decide +kernel)⟩
  | column db tbl name => exact ⟨rfl, hcount (n := 3) (by decide +kernel) (by decide +kernel)⟩
  | constraint db tbl name => exact ⟨rfl, hcount (n := 3) (by decide +kernel) (by decide +kernel)⟩
  | index db tbl name => exact ⟨rfl, hcount (n := 3) (by decide +kernel) (by decide +kernel)⟩
  | columnTypes db tbl => exact ⟨rfl, hcount (n := 2) (by decide +kernel) (by decide +kernel)⟩

theorem statement_bindable {d : Dialect} {q : CatalogQuery} (hq : q ≠ currentDatabase) :
    (q.statement d).Bindable (Argument.bound d) := by
  obtain ⟨harguments, hmarks⟩ := statement_arguments d hq
  constructor
  · have hlength : (q.statement d).template.toList.count '?' = (q.statement d).arguments.length := by
      rw [harguments, hmarks, List.length_map]
    omega
  · intro a ha hnone
    rw [harguments] at ha
    obtain ⟨t, -, rfl⟩ := List.mem_map.mp ha
    cases hnone

/-- A question binds its texts. -/
theorem statement_binds {d : Dialect} {q : CatalogQuery} (hq : q ≠ currentDatabase) :
    ((q.statement d).render d).2 = q.texts.map .text := by
  obtain ⟨harguments, hmarks⟩ := statement_arguments d hq
  have hall : (q.texts.map text).length = q.texts.length := List.length_map _
  have hvalue : (fun a : Argument => a.value?) ∘ text = some ∘ Value.text := rfl
  rw [(statement_bindable hq).rendersAlike.values, harguments, hmarks, ← hall, List.take_length,
    List.filterMap_map, hvalue, List.filterMap_eq_map]

end CatalogQuery

/-! ## The theorem -/

/-- **Bound and inlined values agree.**  Where each question mark of the template has an argument and
only values bring more of them, the text with the values left open has one question mark for each
bound value; the bound values are the values among the arguments that the template uses, in order;
and the literals of these values, put in the places of the question marks, make it the text with the
values written out.

All this holds of every question to the catalog, whatever its names are, and what it binds are these
names.  And it holds of any other two ways to write arguments that are alike but for the values. -/
theorem Statement.render_agrees (d : Dialect) :
    (∀ s : Statement, s.Bindable (Argument.bound d) → s.RendersAlike d) ∧
    (∀ q : CatalogQuery, q ≠ .currentDatabase →
      (q.statement d).RendersAlike d ∧ ((q.statement d).render d).2 = q.texts.map .text) ∧
    (d.currentDatabase.Bindable (Argument.bound d) →
      (CatalogQuery.currentDatabase.statement d).RendersAlike d) ∧
    (∀ (opened written : Argument → String × List Value) (literal : Value → String),
      ValuesApart opened written literal → ∀ s : Statement, s.Bindable opened →
        s.FillsAlike opened written literal) :=
  ⟨fun _ h => h.rendersAlike,
    fun _ hq => ⟨(CatalogQuery.statement_bindable hq).rendersAlike,
      CatalogQuery.statement_binds hq⟩,
    fun h => h.rendersAlike,
    fun _ _ _ h _ hs => hs.fillsAlike h⟩

/-- A statement with a question mark in a value and an argument to spare. -/
def askingNote : Statement :=
  ⟨"INSERT INTO ? ? VALUES (?,?,?)",
    [.table "app.notes", .columns ["title", "body", "stars"], .value (.text "why?"), .value .null,
      .value (.int 7), .value (.text "spare?")]⟩

/-- A dialect with its own ways to write table names, as single identifiers, and texts, as national
literals. -/
def nationalDialect : Dialect :=
  { Mysql.dialect with
    quoteTable := Mysql.dialect.quoteIdentifier
    inlineValue := fun v =>
      match v with
      | .text s => "N" ++ Mysql.dialect.quoteLiteral s
      | v => Mysql.dialect.inlineValue v }

/-- The question mark of the value is bound with it, and is left alone where it is written out; and
so are the question marks in the names that a question to the catalog binds.  A dialect that writes
table names and values in its own way changes nothing about it. -/
theorem Statement.render_agrees_asking :
    askingNote.Bindable (Argument.bound Mysql.dialect) ∧
    askingNote.render Mysql.dialect =
      ("INSERT INTO `app`.`notes` (`title`,`body`,`stars`) VALUES (?,?,?)",
        [.text "why?", .null, .int 7]) ∧
    askingNote.sql Mysql.dialect =
      "INSERT INTO `app`.`notes` (`title`,`body`,`stars`) VALUES ('why?',NULL,7)" ∧
    (((CatalogQuery.column "app" "who?" "why?").statement Mysql.dialect).render Mysql.dialect).2 =
      [.text "app", .text "who?", .text "why?"] ∧
    Mysql.dialect.currentDatabase.Bindable (Argument.bound Mysql.dialect) ∧
    (CatalogQuery.currentDatabase.statement Mysql.dialect).sql Mysql.dialect =
      "SELECT DATABASE()" ∧
    askingNote.Bindable (Argument.bound nationalDialect) ∧
    askingNote.sql nationalDialect =
      "INSERT INTO `app.notes` (`title`,`body`,`stars`) VALUES (N'why?',NULL,7)" ∧
    askingNote.FillsAlike (Argument.bound Mysql.dialect) (Argument.inlined Mysql.dialect)
      Mysql.dialect.inlineValue := by
  obtain ⟨hagrees, hqueries, hcurrent, hwriters⟩ := Statement.render_agrees Mysql.dialect
  obtain ⟨hnational, -⟩ := Statement.render_agrees nationalDialect
  have hbindable : askingNote.Bindable (Argument.bound Mysql.dialect) := ⟨by decide, by decide⟩
  have hdatabase : Mysql.dialect.currentDatabase.Bindable (Argument.bound Mysql.dialect) :=
    ⟨by decide, by decide⟩
  have hrender : askingNote.render Mysql.dialect =
      ("INSERT INTO `app`.`notes` (`title`,`body`,`stars`) VALUES (?,?,?)",
        [.text "why?", .null, .int 7]) := by decide +kernel
  have hown : askingNote.Bindable (Argument.bound nationalDialect) := ⟨by decide, by decide⟩
  have hrenderOwn : askingNote.render nationalDialect =
      ("INSERT INTO `app.notes` (`title`,`body`,`stars`) VALUES (?,?,?)",
        [.text "why?", .null, .int 7]) := by decide +kernel
  refine ⟨hbindable, hrender, ?_, ?_, hdatabase, ?_, hown, ?_,
    hwriters _ _ _ Mysql.dialect.valuesApart askingNote hbindable⟩
  · rw [← (hagrees askingNote hbindable).texts, hrender]
    decide +kernel
  · exact (hqueries (.column "app" "who?" "why?") (by simp)).2
  · rw [← (hcurrent hdatabase).texts]
    decide +kernel
  · rw [← (hnational askingNote hown).texts, hrenderOwn]
    decide +kernel

end SchemaMigration
