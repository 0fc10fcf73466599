import SchemaMigration.Sql.Mysql
import SchemaMigration.Sql.Rendering
import SchemaMigration.Text.Search

/-!
# Filling a template

A statement is balanced when its template has as many question marks as there are arguments.  Of a
balanced statement nothing is left over on either side: its text is the pieces of the template
between the question marks, with the arguments between them, each once and in order
(`Balanced.sql_eq`, `Balanced.render_eq`).

Balanced statements can be taken apart where they were put together.  Nothing in the template and in
the arguments marks the seams, but the arguments of the first fragment are used up when the second
begins, whatever question marks they bring into the text themselves:

> The text of balanced fragments is their texts, and what it binds are the values that they bind,
> each in the order of the fragments (`rendering_compositional`).

None of this depends on how an argument is written.  So it is shown for any way to write arguments
(`filled`), and the two texts of a statement are cases.
-/

namespace SchemaMigration

/-- Texts with others between them: one after each text but the last. -/
def weave : List String → List String → String
  | [], _ => ""
  | text :: _, [] => text
  | text :: texts, other :: others => text ++ other ++ weave texts others

theorem weave_append_left (head text : String) (texts others : List String) :
    weave ((head ++ text) :: texts) others = head ++ weave (text :: texts) others := by
  cases others <;> simp [weave, String.append_assoc]

/-- The places of the question marks of a text, filled with other texts in order. -/
def fillMarks (text : List Char) (others : List String) : String :=
  weave ((Text.splitAtEach '?' text).map String.ofList) others

theorem fillMarks_mark (cs : List Char) (other : String) (others : List String) :
    fillMarks ('?' :: cs) (other :: others) = other ++ fillMarks cs others := by
  simp [fillMarks, Text.splitAtEach, weave]

theorem fillMarks_other {c : Char} (hc : c ≠ '?') (cs : List Char) (others : List String) :
    fillMarks (c :: cs) others = String.ofList [c] ++ fillMarks cs others := by
  unfold fillMarks
  rw [Text.splitAtEach, if_neg hc]
  cases hs : Text.splitAtEach '?' cs with
  | nil => exact absurd hs (Text.splitAtEach_ne_nil '?' cs)
  | cons piece rest =>
    have hjoin : String.ofList (c :: piece) = String.ofList [c] ++ String.ofList piece := by
      rw [← String.ofList_append, List.singleton_append]
    rw [List.map_cons, hjoin, weave_append_left, List.map_cons]

namespace Statement

/-- There are as many question marks in the template as there are arguments. -/
def Balanced (s : Statement) : Prop := s.template.toList.count '?' = s.arguments.length

/-- The template between its question marks. -/
def pieces (s : Statement) : List String :=
  (Text.splitAtEach '?' s.template.toList).map String.ofList

section

variable {write : Argument → String × List Value} {d : Dialect}

theorem fill_cons_mark (cs : List Char) (a : Argument) (others : List Argument) :
    fill write ('?' :: cs) (a :: others) =
      ((write a).1.toList ++ (fill write cs others).1,
        (write a).2 ++ (fill write cs others).2) := by
  rw [fill, if_pos rfl]

theorem fill_cons_other {c : Char} (hc : c ≠ '?') (cs : List Char) (arguments : List Argument) :
    fill write (c :: cs) arguments =
      (c :: (fill write cs arguments).1, (fill write cs arguments).2) := by
  cases arguments <;> simp [fill, hc]

/-- When the arguments run out together with the question marks, those of what follows are used for
what follows. -/
theorem fill_append {cs ds : List Char} {xs ys : List Argument} (h : cs.count '?' = xs.length) :
    fill write (cs ++ ds) (xs ++ ys) =
      ((fill write cs xs).1 ++ (fill write ds ys).1,
        (fill write cs xs).2 ++ (fill write ds ys).2) := by
  induction cs generalizing xs with
  | nil =>
    obtain rfl : xs = [] := List.eq_nil_of_length_eq_zero h.symm
    simp [fill]
  | cons c cs ih =>
    by_cases hc : c = '?'
    · subst hc
      rw [List.count_cons_self] at h
      obtain ⟨x, xs, rfl⟩ := List.exists_cons_of_length_eq_add_one h.symm
      have hrest : cs.count '?' = xs.length := by simpa using h
      rw [List.cons_append, List.cons_append, fill_cons_mark, fill_cons_mark, ih hrest]
      simp
    · rw [List.count_cons_of_ne hc] at h
      rw [List.cons_append, fill_cons_other hc, fill_cons_other hc, ih h]
      simp

/-- Filling a template puts the arguments between its pieces. -/
theorem fill_eq {cs : List Char} {xs : List Argument} (h : cs.count '?' = xs.length) :
    fill write cs xs =
      ((weave ((Text.splitAtEach '?' cs).map String.ofList) (xs.map fun x => (write x).1)).toList,
        xs.flatMap fun x => (write x).2) := by
  show fill write cs xs = ((fillMarks cs (xs.map fun x => (write x).1)).toList, _)
  induction cs generalizing xs with
  | nil =>
    obtain rfl : xs = [] := List.eq_nil_of_length_eq_zero h.symm
    simp [fill, fillMarks, Text.splitAtEach, weave]
  | cons c cs ih =>
    by_cases hc : c = '?'
    · subst hc
      rw [List.count_cons_self] at h
      obtain ⟨x, xs, rfl⟩ := List.exists_cons_of_length_eq_add_one h.symm
      have hrest : cs.count '?' = xs.length := by simpa using h
      rw [fill_cons_mark, ih hrest, List.map_cons, fillMarks_mark, String.toList_append,
        List.flatMap_cons]
    · rw [List.count_cons_of_ne hc] at h
      rw [fill_cons_other hc, ih h, fillMarks_other hc, String.toList_append, String.toList_ofList,
        List.singleton_append]

end

/-- A statement with its arguments written in some way: its text, and what is left to bind. -/
def filled (write : Argument → String × List Value) (s : Statement) : String × List Value :=
  let chars := fill write s.template.toList s.arguments
  (String.ofList chars.1, chars.2)

/-! ## Balanced statements -/

section

variable {write : Argument → String × List Value} {d : Dialect} {a b : Statement}

theorem render_eq_filled (s : Statement) : s.render d = s.filled (Argument.bound d) := rfl

theorem sql_eq_filled (s : Statement) : s.sql d = (s.filled (Argument.inlined d)).1 := rfl

/-- The text of a balanced statement has every argument once, in order, between the pieces of the
template. -/
theorem Balanced.sql_eq (h : a.Balanced) :
    a.sql d = weave a.pieces (a.arguments.map fun x => (x.inlined d).1) := by
  rw [sql, fill_eq h, String.ofList_toList]
  rfl

/-- The text of a fragment whose pieces are known. -/
theorem sql_eq_weave {template : String} {arguments : List Argument} {texts : List String}
    (h : template.toList.count '?' = arguments.length)
    (htexts : (Text.splitAtEach '?' template.toList).map String.ofList = texts) :
    sql d ⟨template, arguments⟩ = weave texts (arguments.map fun x => (x.inlined d).1) :=
  htexts ▸ Balanced.sql_eq h

/-- The same with the values left open, which are bound in the order of their arguments. -/
theorem Balanced.render_eq (h : a.Balanced) :
    a.render d = (weave a.pieces (a.arguments.map fun x => (x.bound d).1),
      a.arguments.flatMap fun x => (x.bound d).2) := by
  rw [render, fill_eq h, String.ofList_toList]
  rfl

/-- The arguments of a balanced statement are used up where it ends, and those of what follows are
left for what follows. -/
theorem Balanced.filled_append (h : a.Balanced) (b : Statement) :
    (a ++ b).filled write =
      ((a.filled write).1 ++ (b.filled write).1, (a.filled write).2 ++ (b.filled write).2) := by
  rw [filled, template_append, arguments_append, String.toList_append, fill_append h]
  dsimp only
  rw [String.ofList_append]
  rfl

/-- What follows a balanced statement does not change its text. -/
theorem Balanced.sql_append (h : a.Balanced) (b : Statement) :
    (a ++ b).sql d = a.sql d ++ b.sql d := by
  rw [sql_eq_filled, h.filled_append]
  rfl

/-- Nor does it change what is bound. -/
theorem Balanced.render_append (h : a.Balanced) (b : Statement) :
    (a ++ b).render d = ((a.render d).1 ++ (b.render d).1, (a.render d).2 ++ (b.render d).2) := by
  rw [render_eq_filled, h.filled_append]
  rfl

/-- The text of what stands behind a fragment whose pieces are known. -/
theorem sql_behind {template : String} {arguments : List Argument} {texts : List String}
    (h : template.toList.count '?' = arguments.length)
    (htexts : (Text.splitAtEach '?' template.toList).map String.ofList = texts) (b : Statement) :
    sql d (⟨template, arguments⟩ ++ b) =
      weave texts (arguments.map fun x => (x.inlined d).1) ++ b.sql d := by
  have hbalanced : Balanced ⟨template, arguments⟩ := h
  rw [hbalanced.sql_append, sql_eq_weave h htexts]

theorem Balanced.append (ha : a.Balanced) (hb : b.Balanced) : (a ++ b).Balanced := by
  unfold Balanced at *
  rw [template_append, arguments_append, String.toList_append, List.count_append,
    List.length_append, ha, hb]

theorem balanced_of_count {template : String} {arguments : List Argument}
    (h : template.toList.count '?' = arguments.length) : Balanced ⟨template, arguments⟩ := h

theorem Balanced.behind {template : String} {arguments : List Argument} (hb : b.Balanced)
    (h : template.toList.count '?' = arguments.length) :
    Balanced (⟨template, arguments⟩ ++ b) :=
  (balanced_of_count h).append hb

/-- A fragment without arguments is balanced when it has no question mark. -/
theorem balanced_text {text : String} (h : '?' ∉ text.toList) : Balanced ⟨text, []⟩ :=
  List.count_eq_zero.mpr h

theorem balanced_empty : empty.Balanced := rfl

theorem filled_empty : empty.filled write = ("", []) := rfl

/-- A text without question marks stands for itself. -/
theorem filled_text {text : String} (h : '?' ∉ text.toList) :
    filled write ⟨text, []⟩ = (text, []) := by
  rw [filled, fill_eq (balanced_text h), Text.splitAtEach_of_not_mem h]
  simp [weave]

theorem sql_empty : empty.sql d = "" := rfl

theorem sql_text {text : String} (h : '?' ∉ text.toList) : sql d ⟨text, []⟩ = text := by
  rw [sql_eq_filled, filled_text h]

/-- Fragments are balanced together if each of them is, and the separator brings no question
mark. -/
theorem balanced_join {separator : String} (hsep : '?' ∉ separator.toList) :
    ∀ {parts : List Statement}, (∀ part ∈ parts, part.Balanced) → (join separator parts).Balanced
  | [], _ => balanced_empty
  | [part], h => h part (by simp)
  | part :: next :: rest, h =>
    ((h part (by simp)).append (balanced_text hsep)).append
      (balanced_join hsep fun x hx => h x (List.mem_cons_of_mem part hx))

/-- The separator stands between consecutive fragments, and binds nothing. -/
theorem filled_join {separator : String} (hsep : '?' ∉ separator.toList) :
    ∀ {parts : List Statement}, (∀ part ∈ parts, part.Balanced) →
      (join separator parts).filled write =
        (separator.intercalate (parts.map fun part => (part.filled write).1),
          parts.flatMap fun part => (part.filled write).2)
  | [], _ => by simp [join, filled_empty]
  | [part], _ => by simp [join]
  | part :: next :: rest, h => by
    have hpart : part.Balanced := h part List.mem_cons_self
    have hrest : ∀ x ∈ next :: rest, x.Balanced := fun x hx => h x (List.mem_cons_of_mem part hx)
    rw [join, (hpart.append (balanced_text hsep)).filled_append, hpart.filled_append,
      filled_text hsep, filled_join hsep hrest]
    simp

/-- The text of balanced fragments is their texts with the separator between consecutive ones. -/
theorem sql_join {separator : String} (hsep : '?' ∉ separator.toList) {parts : List Statement}
    (h : ∀ part ∈ parts, part.Balanced) :
    (join separator parts).sql d = separator.intercalate (parts.map (·.sql d)) := by
  rw [sql_eq_filled, filled_join hsep h]
  rfl

/-- The template of fragments that were joined. -/
theorem template_join (separator : String) : ∀ parts : List Statement,
    (join separator parts).template = separator.intercalate (parts.map (·.template))
  | [] => by simp [join, empty]
  | [part] => by simp [join]
  | part :: next :: rest => by
    rw [join, template_append, template_append, template_join]
    simp

/-- Their arguments: the separator has none. -/
theorem arguments_join (separator : String) : ∀ parts : List Statement,
    (join separator parts).arguments = parts.flatMap (·.arguments)
  | [] => rfl
  | [part] => by simp [join]
  | part :: next :: rest => by
    rw [join, arguments_append, arguments_append, arguments_join]
    simp

end

/-- **Rendering is compositional.**  Behind a balanced statement, any other is rendered as on its
own: the texts stand one after the other, and so do the bound values.  Balanced fragments joined with
a separator without question marks are balanced; their text is their texts with the separator between
consecutive ones, and what they bind are their values in order.

The same holds of any other way to write arguments. -/
theorem rendering_compositional (d : Dialect) :
    (∀ a b : Statement, a.Balanced →
      (a ++ b).sql d = a.sql d ++ b.sql d ∧
      (a ++ b).render d =
        ((a.render d).1 ++ (b.render d).1, (a.render d).2 ++ (b.render d).2)) ∧
    (∀ (separator : String) (parts : List Statement), '?' ∉ separator.toList →
      (∀ part ∈ parts, part.Balanced) →
      (join separator parts).Balanced ∧
      (join separator parts).sql d = separator.intercalate (parts.map fun part => part.sql d) ∧
      (join separator parts).render d =
        (separator.intercalate (parts.map fun part => (part.render d).1),
          parts.flatMap fun part => (part.render d).2)) ∧
    (∀ (write : Argument → String × List Value) (a b : Statement), a.Balanced →
      (a ++ b).filled write =
        ((a.filled write).1 ++ (b.filled write).1, (a.filled write).2 ++ (b.filled write).2)) ∧
    (∀ (write : Argument → String × List Value) (separator : String) (parts : List Statement),
      '?' ∉ separator.toList → (∀ part ∈ parts, part.Balanced) →
      (join separator parts).filled write =
        (separator.intercalate (parts.map fun part => (part.filled write).1),
          parts.flatMap fun part => (part.filled write).2)) := by
  refine ⟨fun a b ha => ⟨ha.sql_append b, ha.render_append b⟩, ?_,
    fun _ a b ha => ha.filled_append b, fun _ _ _ hsep hparts => filled_join hsep hparts⟩
  intro separator parts hsep hparts
  refine ⟨balanced_join hsep hparts, sql_join hsep hparts, ?_⟩
  rw [render_eq_filled, filled_join hsep hparts]
  rfl

/-- Clauses whose names and values hold question marks, and one without arguments. -/
def askingClauses : List Statement :=
  [⟨"? ? DEFAULT ?", [.column "who?", .raw "varchar(9)", .value (.text "me?")]⟩,
    ⟨"note json", []⟩,
    ⟨"? int DEFAULT ?", [.column "stars", .value (.int 7)]⟩,
    ⟨"PRIMARY KEY ?", [.columns ["who?"]]⟩]

/-- The clauses in a whole statement. -/
def askingTable : Statement :=
  ⟨"CREATE TABLE ? (", [.table "app.notes"]⟩ ++ (join "," askingClauses ++ ⟨")", []⟩)

theorem rendering_compositional_asking :
    (∀ clause ∈ askingClauses, clause.Balanced) ∧
    (join "," askingClauses).Balanced ∧
    askingTable.sql Mysql.dialect =
      "CREATE TABLE `app`.`notes` (`who?` varchar(9) DEFAULT 'me?',note json,"
        ++ "`stars` int DEFAULT 7,PRIMARY KEY (`who?`))" ∧
    askingTable.render Mysql.dialect =
      ("CREATE TABLE `app`.`notes` (`who?` varchar(9) DEFAULT ?,note json,"
        ++ "`stars` int DEFAULT ?,PRIMARY KEY (`who?`))", [.text "me?", .int 7]) := by
  obtain ⟨hbehind, hjoined, -, -⟩ := rendering_compositional Mysql.dialect
  have hclauses : ∀ clause ∈ askingClauses, clause.Balanced := by
    rw [askingClauses]
    simp only [List.forall_mem_cons]
    exact ⟨rfl, rfl, rfl, rfl, nofun⟩
  obtain ⟨hbalanced, hsql, hrender⟩ := hjoined "," askingClauses (by decide) hclauses
  obtain ⟨hend, hendRender⟩ := hbehind (join "," askingClauses) ⟨")", []⟩ hbalanced
  obtain ⟨hstart, hstartRender⟩ := hbehind ⟨"CREATE TABLE ? (", [.table "app.notes"]⟩
    (join "," askingClauses ++ ⟨")", []⟩) rfl
  refine ⟨hclauses, hbalanced, ?_, ?_⟩
  · refine hstart.trans ?_
    rw [hend, hsql]
    decide +kernel
  · refine hstartRender.trans ?_
    rw [hendRender, hrender]
    decide +kernel

/-- A question mark without an argument takes one that belongs to what follows. -/
example :
    (⟨"?;", []⟩ ++ ⟨"?;", [.raw "a"]⟩ : Statement).sql Mysql.dialect = "a;?;" ∧
    sql Mysql.dialect ⟨"?;", []⟩ ++ sql Mysql.dialect ⟨"?;", [.raw "a"]⟩ = "?;a;" := by decide

end Statement

end SchemaMigration
