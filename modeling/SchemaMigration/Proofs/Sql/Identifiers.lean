import Mathlib.Data.List.Forall2
import SchemaMigration.Proofs.Sql.Rendering
import SchemaMigration.Proofs.Text.Quoted
import SchemaMigration.Sql.Change
import SchemaMigration.Sql.Mysql

/-!
# Quoted identifiers

A server cuts a statement into words and identifiers by the backticks alone: an identifier begins at
one backtick and ends at the next that is not doubled, whatever characters stand between them.  So a
name cannot get out of its quotes if the statement is cut where it was put together.  This is shown
for the changes that consist of keywords and names (`Change.outline?`): whatever the names are, the
text of such a change is read as its keywords with its names between them, the parts of a table name
joined at their dots again (`Change.sql_readNames`).  Two of these changes with the same text are
therefore the same change.
-/

namespace SchemaMigration

/-- What a statement consists of: the text between two identifiers, or an identifier without its
quotes. -/
inductive Token
  | words (text : String)
  | name (name : String)
deriving DecidableEq, Repr

namespace Mysql

/-! ## Cutting a statement at its identifiers -/

/-- Reads an identifier from behind its opening backtick. -/
def readIdentifier (cs : List Char) : Option (List Char × List Char) :=
  Text.readQuoted '\x60' (· = '\x60') cs

theorem readIdentifier_shorter {cs s rest : List Char} (h : readIdentifier cs = some (s, rest)) :
    rest.length < cs.length := by
  obtain ⟨rfl, -⟩ := Text.eq_of_readQuoted h
  rw [List.length_append, List.length_cons]
  omega

/-- Cuts a statement into words and identifiers.  There is no result when the last identifier does
not end. -/
def scan : List Char → Option (List Token)
  | [] => some []
  | c :: cs =>
    if c = '\x60' then
      match _h : readIdentifier cs with
      | none => none
      | some (s, rest) => (scan rest).map (.name (String.ofList s) :: ·)
    else
      (scan (cs.dropWhile (· ≠ '\x60'))).map
        (.words (String.ofList (c :: cs.takeWhile (· ≠ '\x60'))) :: ·)
termination_by cs => cs.length
decreasing_by
  · exact Nat.lt_succ_of_lt (readIdentifier_shorter ‹_›)
  · exact Nat.lt_succ_of_le (List.dropWhile_sublist _).length_le

/-- Puts a token in front of others; two names with only a dot between them become one. -/
def attach : Token → List Token → List Token
  | .name a, .words w :: .name b :: tokens =>
    if w = "." then .name (a ++ "." ++ b) :: tokens else .name a :: .words w :: .name b :: tokens
  | token, tokens => token :: tokens

/-- The words and names of a statement; a qualified name counts as one. -/
def readNames (cs : List Char) : Option (List Token) := (scan cs).map (List.foldr attach [])

section

variable {a b s t w : String} {rest : List Char} {tokens : List Token}

/-- An identifier is one token, whatever characters it has. -/
theorem scan_identifier (s : String) (hrest : rest.head? ≠ some '\x60') :
    scan ((dialect.quoteIdentifier s).toList ++ rest) = (scan rest).map (.name s :: ·) := by
  have hread : readIdentifier (Text.doubled (· = '\x60') s.toList ++ '\x60' :: rest) =
      some (s.toList, rest) := Text.readQuoted_doubled (by decide) s.toList hrest
  have hquoted : (dialect.quoteIdentifier s).toList ++ rest =
      '\x60' :: (Text.doubled (· = '\x60') s.toList ++ '\x60' :: rest) :=
    Text.toList_quoted_append _ _ s rest
  rw [hquoted, scan, if_pos rfl]
  split
  next hnone => rw [hread] at hnone; cases hnone
  next s' rest' hsome =>
    rw [hread] at hsome
    cases hsome
    rw [String.ofList_toList]

/-- Text without backticks is one token, up to the identifier behind it. -/
theorem scan_words (hw : w ≠ "") (hplain : '\x60' ∉ w.toList) (cs : List Char) :
    scan (w.toList ++ '\x60' :: cs) = (scan ('\x60' :: cs)).map (.words w :: ·) := by
  obtain ⟨c, w', hchars⟩ := List.exists_cons_of_ne_nil fun h => hw (String.toList_eq_nil_iff.mp h)
  rw [hchars, List.mem_cons, not_or] at hplain
  have hother : ∀ d ∈ w', decide (d ≠ '\x60') = true := by
    intro d hd
    exact decide_eq_true fun heq => hplain.2 (heq ▸ hd)
  rw [hchars, List.cons_append, scan, if_neg (Ne.symm hplain.1),
    List.takeWhile_append_of_pos hother, List.dropWhile_append_of_pos hother,
    List.takeWhile_cons_of_neg (by simp), List.dropWhile_cons_of_neg (by simp), List.append_nil,
    ← hchars, String.ofList_toList]

theorem attach_dotted (a b : String) (tokens : List Token) :
    attach (.name a) (.words "." :: .name b :: tokens) = .name (a ++ "." ++ b) :: tokens := rfl

theorem attach_name (h : tokens.head? ≠ some (.words ".")) :
    attach (.name a) tokens = .name a :: tokens := by
  cases tokens with
  | nil => rfl
  | cons first tokens =>
    cases first with
    | name b => rfl
    | words w =>
      have hw : w ≠ "." := fun heq => h (by rw [heq]; rfl)
      cases tokens with
      | nil => rfl
      | cons second tokens =>
        cases second with
        | words v => rfl
        | name b => exact if_neg hw

theorem readNames_identifier (s : String) (hrest : rest.head? ≠ some '\x60')
    (h : readNames rest = some tokens) :
    readNames ((dialect.quoteIdentifier s).toList ++ rest) =
      some (attach (.name s) tokens) := by
  rw [readNames, Option.map_eq_some_iff] at h
  obtain ⟨scanned, hscan, rfl⟩ := h
  rw [readNames, scan_identifier s hrest, hscan]
  rfl

/-! ## Texts that are read as one name -/

/-- The text begins with a backtick and is read as one name, unless what follows goes on with the
same identifier or with another part of the name. -/
structure ReadsAs (text name : String) : Prop where
  opens : ∃ cs, text.toList = '\x60' :: cs
  read : ∀ {rest tokens}, rest.head? ≠ some '\x60' → readNames rest = some tokens →
    tokens.head? ≠ some (.words ".") → readNames (text.toList ++ rest) = some (.name name :: tokens)

/-- Words in front of a name stay apart from it. -/
theorem readNames_words (hw : w ≠ "") (hplain : '\x60' ∉ w.toList) (hs : ReadsAs s a)
    (h : readNames (s.toList ++ rest) = some tokens) :
    readNames (w.toList ++ (s.toList ++ rest)) = some (.words w :: tokens) := by
  obtain ⟨cs, hopen⟩ := hs.opens
  rw [readNames, Option.map_eq_some_iff] at h
  obtain ⟨scanned, hscan, rfl⟩ := h
  rw [hopen, List.cons_append] at hscan ⊢
  rw [readNames, scan_words hw hplain, hscan]
  rfl

theorem readsAs_identifier (s : String) : ReadsAs (dialect.quoteIdentifier s) s where
  opens := ⟨_, Text.toList_quoted _ _ s⟩
  read := by
    intro rest tokens hrest htokens hdot
    rw [readNames_identifier s hrest htokens, attach_name hdot]

/-- An identifier, a dot and a name are read as one name. -/
theorem ReadsAs.qualified (ht : ReadsAs t b) (s : String) :
    ReadsAs (dialect.quoteIdentifier s ++ "." ++ t) (s ++ "." ++ b) where
  opens := by
    obtain ⟨cs, hopen⟩ := (readsAs_identifier s).opens
    rw [String.toList_append, String.toList_append, hopen]
    exact ⟨_, rfl⟩
  read := by
    intro rest tokens hrest htokens hdot
    have hbehind : readNames (".".toList ++ (t.toList ++ rest)) =
        some (.words "." :: .name b :: tokens) :=
      readNames_words (by decide) (by decide) ht (ht.read hrest htokens hdot)
    rw [String.toList_append, String.toList_append, List.append_assoc, List.append_assoc,
      readNames_identifier s (by simp) hbehind, attach_dotted]

theorem readsAs_parts (part : String) (parts : List String) :
    ReadsAs (".".intercalate ((part :: parts).map dialect.quoteIdentifier))
      (".".intercalate (part :: parts)) := by
  induction parts generalizing part with
  | nil => simpa using readsAs_identifier part
  | cons next parts ih => simpa using (ih next).qualified part

theorem intercalate_parts (name : String) :
    ".".intercalate ((Text.splitAtEach '.' name.toList).map String.ofList) = name := by
  have hid : String.toList ∘ String.ofList = id := funext fun cs => String.toList_ofList
  rw [← String.toList_inj, String.toList_intercalate, List.map_map, hid, List.map_id]
  exact Text.intercalate_splitAtEach '.' name.toList

/-- A table name is quoted part by part and read as a whole. -/
theorem readsAs_table (name : String) : ReadsAs (dialect.quoteTable name) name := by
  have hparts := intercalate_parts name
  have hquoted : dialect.quoteTable name =
      ".".intercalate
        (((Text.splitAtEach '.' name.toList).map String.ofList).map dialect.quoteIdentifier) := by
    rw [List.map_map]
    rfl
  cases hsplit : (Text.splitAtEach '.' name.toList).map String.ofList with
  | nil => exact absurd (List.map_eq_nil_iff.mp hsplit) (Text.splitAtEach_ne_nil '.' name.toList)
  | cons part parts =>
    rw [hsplit] at hparts hquoted
    rw [hquoted]
    simpa only [hparts] using readsAs_parts part parts

end

/-! ## Words and names in turn -/

/-- The tokens of keywords that each have a name behind them. -/
def tokensOf (fields : List (String × String)) : List Token :=
  fields.flatMap fun field => [.words field.1, .name field.2]

theorem tokensOf_injective : Function.Injective tokensOf := by
  intro fields
  induction fields with
  | nil => intro others h; cases others <;> simp_all [tokensOf]
  | cons field fields ih =>
    intro others h
    cases others with
    | nil => simp [tokensOf] at h
    | cons other others =>
      simp only [tokensOf, List.flatMap_cons, List.cons_append, List.nil_append, List.cons.injEq,
        Token.words.injEq, Token.name.injEq] at h
      obtain ⟨hwords, hname, hrest⟩ := h
      rw [Prod.ext hwords hname, ih hrest]

/-- Words that stand apart from the names around them. -/
def Separates (w : String) : Prop := w ≠ "" ∧ w ≠ "." ∧ '\x60' ∉ w.toList

instance (w : String) : Decidable (Separates w) := inferInstanceAs (Decidable (_ ∧ _ ∧ _))

end Mysql

/-- The argument is the identifier of this name. -/
inductive Argument.Names : Argument → String → Prop
  | table (name : String) : Names (.table name) name
  | column (name : String) : Names (.column name) name
  | label (name : String) : Names (.label name) name

namespace Mysql

theorem readsAs_argument {a : Argument} {name : String} (h : a.Names name) :
    ReadsAs (a.inlined dialect).1 name := by
  cases h with
  | table => exact readsAs_table name
  | column => exact readsAs_identifier name
  | label => exact readsAs_identifier name

theorem Separates.head {w : String} (h : Separates w) (cs : List Char) :
    (w.toList ++ cs).head? ≠ some '\x60' := by
  obtain ⟨hne, -, hplain⟩ := h
  cases hchars : w.toList with
  | nil => exact absurd (String.toList_eq_nil_iff.mp hchars) hne
  | cons c w' =>
    rw [List.cons_append, List.head?_cons]
    rintro ⟨⟩
    exact hplain (by rw [hchars]; exact List.mem_cons_self)

theorem tokensOf_head {fields : List (String × String)}
    (hwords : ∀ w ∈ fields.map Prod.fst, Separates w) :
    (tokensOf fields).head? ≠ some (.words ".") := by
  cases fields with
  | nil => simp [tokensOf]
  | cons field fields =>
    intro h
    simp only [tokensOf, List.flatMap_cons, List.cons_append, List.head?_cons, Option.some.injEq,
      Token.words.injEq] at h
    exact (hwords field.1 (by simp)).2.1 h

/-- Keywords that each have a name behind them are read as they were put together. -/
theorem readNames_weave {arguments : List Argument} {fields : List (String × String)}
    (hnames : List.Forall₂ (fun a field => a.Names field.2) arguments fields)
    (hwords : ∀ w ∈ fields.map Prod.fst, Separates w) :
    readNames (weave (fields.map Prod.fst ++ [""])
        (arguments.map fun a => (a.inlined dialect).1)).toList = some (tokensOf fields) ∧
      (weave (fields.map Prod.fst ++ [""])
        (arguments.map fun a => (a.inlined dialect).1)).toList.head? ≠ some '\x60' := by
  induction hnames with
  | nil => simp [weave, readNames, scan, tokensOf]
  | @cons a field arguments fields hname _ ih =>
    have hfield : Separates field.1 := hwords field.1 (by simp)
    have hrest : ∀ w ∈ fields.map Prod.fst, Separates w := fun w hw =>
      hwords w (List.mem_cons_of_mem _ hw)
    obtain ⟨hread, hhead⟩ := ih hrest
    have hname : ReadsAs (a.inlined dialect).1 field.2 := readsAs_argument hname
    simp only [List.map_cons, List.cons_append, weave, String.toList_append, List.append_assoc]
    exact ⟨readNames_words hfield.1 hfield.2.2 hname (hname.read hhead hread (tokensOf_head hrest)),
      hfield.head _⟩

/-- A template of these keywords is read as the keywords with the names between them. -/
theorem readNames_template {template : String} {arguments : List Argument}
    {fields : List (String × String)} (keywords : List String)
    (hcount : template.toList.count '?' = arguments.length)
    (hpieces : (Text.splitAtEach '?' template.toList).map String.ofList = keywords ++ [""])
    (hwords : ∀ w ∈ keywords, Separates w) (hfields : fields.map Prod.fst = keywords)
    (hnames : List.Forall₂ (fun a field => a.Names field.2) arguments fields) :
    readNames (Statement.sql dialect ⟨template, arguments⟩).toList = some (tokensOf fields) := by
  subst hfields
  rw [Statement.sql_eq_weave hcount hpieces]
  exact (readNames_weave hnames hwords).1

end Mysql

namespace Change

/-! ## Changes of keywords and names -/

/-- The keywords of a change, each with the name behind it, if it consists of nothing else. -/
def outline? : Change → Option (List (String × String))
  | dropTable table => some [("DROP TABLE IF EXISTS ", table)]
  | renameTable old new => some [("ALTER TABLE ", old), (" RENAME TO ", new)]
  | dropColumn table column => some [("ALTER TABLE ", table), (" DROP COLUMN ", column)]
  | renameColumn table old new =>
    some [("ALTER TABLE ", table), (" RENAME COLUMN ", old), (" TO ", new)]
  | dropIndex table name => some [("DROP INDEX ", name), (" ON ", table)]
  | renameIndex table old new =>
    some [("ALTER TABLE ", table), (" RENAME INDEX ", old), (" TO ", new)]
  | dropConstraint table name => some [("ALTER TABLE ", table), (" DROP CONSTRAINT ", name)]
  | _ => none

variable {c c' : Change} {outline : List (String × String)}

/-- The keywords tell the kind of change. -/
theorem eq_of_outline (h : c.outline? = some outline) (h' : c'.outline? = some outline) :
    c = c' := by
  cases c <;> simp only [outline?, reduceCtorEq, Option.some.injEq] at h <;>
    subst h <;> cases c' <;> simp_all [outline?]

/-- Such a change is read as its keywords and its names. -/
theorem readNames_of_outline (h : c.outline? = some outline) :
    Mysql.readNames (c.sql Mysql.dialect).toList = some (Mysql.tokensOf outline) := by
  cases c with
  | dropTable =>
    cases h
    exact Mysql.readNames_template ["DROP TABLE IF EXISTS "] rfl (by decide) (by decide) rfl
      (.cons (.table _) .nil)
  | renameTable =>
    cases h
    exact Mysql.readNames_template ["ALTER TABLE ", " RENAME TO "] rfl (by decide) (by decide) rfl
      (.cons (.table _) (.cons (.table _) .nil))
  | dropColumn =>
    cases h
    exact Mysql.readNames_template ["ALTER TABLE ", " DROP COLUMN "] rfl (by decide) (by decide) rfl
      (.cons (.table _) (.cons (.column _) .nil))
  | renameColumn =>
    cases h
    exact Mysql.readNames_template ["ALTER TABLE ", " RENAME COLUMN ", " TO "] rfl (by decide)
      (by decide) rfl (.cons (.table _) (.cons (.column _) (.cons (.column _) .nil)))
  | dropIndex =>
    cases h
    exact Mysql.readNames_template ["DROP INDEX ", " ON "] rfl (by decide) (by decide) rfl
      (.cons (.label _) (.cons (.table _) .nil))
  | renameIndex =>
    cases h
    exact Mysql.readNames_template ["ALTER TABLE ", " RENAME INDEX ", " TO "] rfl (by decide)
      (by decide) rfl (.cons (.table _) (.cons (.label _) (.cons (.label _) .nil)))
  | dropConstraint =>
    cases h
    exact Mysql.readNames_template ["ALTER TABLE ", " DROP CONSTRAINT "] rfl (by decide) (by decide)
      rfl (.cons (.table _) (.cons (.label _) .nil))
  | _ => cases h

/-- **Names stay in their quotes.**  A change that consists of keywords and names is read as these
keywords and these names in order, whatever characters the names have.  So the text of such a change
tells which change it is and what its names are. -/
theorem sql_readNames :
    (∀ (c : Change) (outline : List (String × String)), c.outline? = some outline →
      Mysql.readNames (c.sql Mysql.dialect).toList = some (Mysql.tokensOf outline)) ∧
    ∀ c c' : Change, c.outline?.isSome → c'.outline?.isSome →
      (c.sql Mysql.dialect = c'.sql Mysql.dialect ↔ c = c') := by
  refine ⟨fun c outline h => readNames_of_outline h, ?_⟩
  intro c c' hc hc'
  obtain ⟨outline, h⟩ := Option.isSome_iff_exists.mp hc
  obtain ⟨outline', h'⟩ := Option.isSome_iff_exists.mp hc'
  refine ⟨fun heq => ?_, congrArg _⟩
  have htokens : Mysql.tokensOf outline = Mysql.tokensOf outline' := by
    rw [← Option.some_inj, ← readNames_of_outline h, heq, readNames_of_outline h']
  obtain rfl := Mysql.tokensOf_injective htokens
  exact eq_of_outline h h'

/-- An index name that seems to end its quotes and go on with a table, and a table name with a
backtick next to its dot. -/
theorem sql_readNames_hostile :
    Mysql.readNames
        ((dropIndex "shop.a`.`b?" "i` ON `t").sql Mysql.dialect).toList =
      some [.words "DROP INDEX ", .name "i` ON `t", .words " ON ", .name "shop.a`.`b?"] ∧
    (dropIndex "t" "i` ON `t").sql Mysql.dialect ≠
      (dropIndex "t` ON `t" "i").sql Mysql.dialect := by
  constructor
  · exact sql_readNames.1 (dropIndex "shop.a`.`b?" "i` ON `t")
      [("DROP INDEX ", "i` ON `t"), (" ON ", "shop.a`.`b?")] rfl
  · intro heq
    have := (sql_readNames.2 _ _ rfl rfl).mp heq
    simp at this

end Change

end SchemaMigration
