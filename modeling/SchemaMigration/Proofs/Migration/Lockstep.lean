import SchemaMigration.Proofs.Migration.Additivity

/-!
# A planned run in step with a real one

A run that only plans makes no change, and so it reads the catalog as it was at the start where a
real run reads what its own changes have made of it.  Both are taken side by side here.  The real
one keeps a history of its calls, and all depends on one property of this history:

> `AsksAnew`: no question is about something that an earlier change of the same history adds.

As long as it holds, the two runs get the same answers and report the same statements (`InStep`).
The first question for which it does not hold is answered differently: the real run finds what it
has made, and the planned one plans it again.  From there on the plan begins with the real
statements so far and goes on with one that adds a part which they add already (`Repeats`), or it
has failed.

`Mirrors` says that two steps behave so.  It is proved for a single question and for a single
change, and carried on from there to all that a migration does (`Mirrors.bind`).
-/

namespace SchemaMigration

/-- No question of the history is about a part that an earlier change of it adds. -/
def AsksAnew (history : List Exchange) : Prop :=
  history.Pairwise fun x y => ∀ change table named p, x.call = .execute change →
    y.call = .query (p.question table named) → ¬ change.Adds table p

/-- A plan repeats itself: behind the texts of some first changes it has one that adds a part which
one of these adds already. -/
def Repeats (d : Dialect) (made : List Change) (planned : List String) : Prop :=
  ∃ (before after : List Change) (change : Change) (table : String) (p : Part),
    made = before ++ after ∧
    before.map (·.sql d) ++ [change.sql d] <+: planned ∧
    change.Adds table p ∧ ∃ earlier ∈ before, earlier.Adds table p

/-- A longer plan of more changes repeats itself as well. -/
theorem Repeats.mono {d : Dialect} {made made' : List Change} {planned planned' : List String}
    (h : Repeats d made planned) (hm : made <+: made') (hp : planned <+: planned') :
    Repeats d made' planned' := by
  obtain ⟨before, after, change, table, p, rfl, hpre, hadds, hearlier⟩ := h
  obtain ⟨more, rfl⟩ := hm
  exact ⟨before, after ++ more, change, table, p, by simp, hpre.trans hp, hadds, hearlier⟩

/-! ## Histories -/

section

variable {history : List Exchange} {database table : String} {p : Part}

theorem mem_changesOf {change : Change} :
    change ∈ changesOf history ↔ ∃ x ∈ history, x.call = .execute change := by
  unfold changesOf
  rw [List.mem_filterMap]
  refine exists_congr fun x => and_congr_right fun _ => ?_
  cases x.call <;> simp

theorem changesOf_append (h h' : List Exchange) :
    changesOf (h ++ h') = changesOf h ++ changesOf h' :=
  List.filterMap_append

theorem AsksAnew.earlier {h h' : List Exchange} (ha : AsksAnew h') (hp : h <+: h') : AsksAnew h :=
  List.Pairwise.sublist hp.sublist ha

/-- Different parts of tables are asked for by different questions. -/
theorem Part.question_inj {q : Part} {t u n k : String} (h : p.question t n = q.question u k) :
    t = u ∧ p = q := by
  cases p <;> cases q <;> simp_all [Part.question]

/-- The calls by which the session asks for a part: for the database, and then for the part. -/
def Part.asked (database table : String) (p : Part) : List Exchange :=
  [⟨.query .currentDatabase, true⟩, ⟨.query (p.question table database), true⟩]

theorem changesOf_asked : changesOf (p.asked database table) = [] := rfl

/-- A longer history asks anew if both of its stretches do and the second does not ask for what the
first adds. -/
theorem asksAnew_append {h h' : List Exchange} : AsksAnew (h ++ h') ↔
    AsksAnew h ∧ AsksAnew h' ∧ ∀ change ∈ changesOf h, ∀ y ∈ h', ∀ table named p,
      y.call = .query (p.question table named) → ¬ change.Adds table p := by
  unfold AsksAnew
  rw [List.pairwise_append]
  refine and_congr_right fun _ => and_congr_right fun _ => ⟨fun hxy => ?_, fun hxy => ?_⟩
  · intro change hc y hy table named p hquery
    obtain ⟨x, hx, hcall⟩ := mem_changesOf.mp hc
    exact hxy x hx y hy change table named p hcall hquery
  · exact fun x hx y hy change table named p hcall hquery =>
      hxy change (mem_changesOf.mpr ⟨x, hx, hcall⟩) y hy table named p hquery

/-- The calls that ask for a part ask for nothing else. -/
theorem Part.eq_of_mem_asked {y : Exchange} (hy : y ∈ p.asked database table) {t named : String}
    {q : Part} (hquery : y.call = .query (q.question t named)) : t = table ∧ q = p := by
  simp only [asked, List.mem_cons, List.not_mem_nil, or_false] at hy
  rcases hy with rfl | rfl
  · cases q <;> cases hquery
  · obtain ⟨rfl, rfl⟩ := Part.question_inj (Call.query.inj hquery)
    exact ⟨rfl, rfl⟩

theorem asksAnew_asked : AsksAnew (p.asked database table) := by
  simp [AsksAnew, Part.asked]

/-- A history that goes on with a question asks anew if no change so far adds what is asked for. -/
theorem asksAnew_asked_iff :
    AsksAnew (history ++ p.asked database table) ↔
      AsksAnew history ∧ ∀ change ∈ changesOf history, ¬ change.Adds table p := by
  rw [asksAnew_append]
  refine and_congr_right fun _ => ⟨fun h change hc => ?_, fun h => ⟨asksAnew_asked, ?_⟩⟩
  · exact h.2 change hc ⟨.query (p.question table database), true⟩ (by simp [Part.asked]) table
      database p rfl
  · intro change hc y hy t named q hquery
    obtain ⟨rfl, rfl⟩ := Part.eq_of_mem_asked hy hquery
    exact h change hc

/-- A change asks nothing. -/
theorem AsksAnew.execute (h : AsksAnew history) (change : Change) (succeeded : Bool) :
    AsksAnew (history ++ [⟨.execute change, succeeded⟩]) := by
  refine asksAnew_append.mpr ⟨h, by simp [AsksAnew], fun _ _ y hy t named q hquery => ?_⟩
  rw [List.mem_singleton.mp hy] at hquery
  cases hquery

end

/-! ## Asking with a history -/

namespace Session

variable {σ : Type} {x y z : σ × List Exchange}

/-- Between the two states only questions were asked. -/
def OnlyAsks (x y : σ × List Exchange) : Prop :=
  ∃ asked, y.2 = x.2 ++ asked ∧ ∀ e ∈ asked, ∃ q, e.call = .query q

theorem OnlyAsks.refl (x : σ × List Exchange) : OnlyAsks x x :=
  ⟨[], (List.append_nil _).symm, fun _ he => absurd he List.not_mem_nil⟩

theorem OnlyAsks.trans (h : OnlyAsks x y) (h' : OnlyAsks y z) : OnlyAsks x z := by
  obtain ⟨asked, hy, hasked⟩ := h
  obtain ⟨more, hz, hmore⟩ := h'
  refine ⟨asked ++ more, by rw [hz, hy, List.append_assoc], fun e he => ?_⟩
  exact (List.mem_append.mp he).elim (hasked e) (hmore e)

/-- Questions are no changes. -/
theorem OnlyAsks.changesOf_eq (h : OnlyAsks x y) : changesOf y.2 = changesOf x.2 := by
  obtain ⟨asked, hy, hasked⟩ := h
  have hnone : changesOf asked = [] := by
    refine List.eq_nil_iff_forall_not_mem.mpr fun change hchange => ?_
    obtain ⟨e, he, hexecute⟩ := mem_changesOf.mp hchange
    obtain ⟨q, hquery⟩ := hasked e he
    cases hexecute.symm.trans hquery
  rw [hy, changesOf_append, hnone, List.append_nil]

/-- What exists is found out by questions only. -/
theorem onlyAsks_affirms (s : Session σ) (d : Dialect) (question : String → CatalogQuery) :
    Action.Moves OnlyAsks (.ask (s.recorded.affirms d question)) := by
  refine moves_affirms OnlyAsks.refl (fun _ _ _ => OnlyAsks.trans) (fun q x => ?_) d question
  obtain ⟨succeeded, h⟩ := recordedAction_history (.query q) (s.query q) x
  exact ⟨_, h, fun e he => ⟨q, by rw [List.mem_singleton.mp he]⟩⟩

end Session

/-! ## A catalog with a history -/

/-- The recorded session on a catalog answers truthfully, and the question goes into its history. -/
theorem Catalog.recorded_affirms (c : Catalog) (history : List Exchange) (d e : Dialect)
    (database table : String) (p : Part) :
    (Catalog.session d database).recorded.affirms e (fun named => p.question table named)
        (c, history) =
      (c.has table p, (c, history ++ p.asked database table)) := by
  show (countsAny (c.answer database (p.question table database)),
    (c, (history ++ [_]) ++ [_])) = _
  rw [answer_question, countsAny_countRow, List.append_assoc]
  rfl

/-- The history of the one stage is the beginning of that of the other. -/
def Remembers {σ : Type} (P P' : Progress (σ × List Exchange)) : Prop :=
  P.session.2 <+: P'.session.2

/-- A recorded session forgets nothing. -/
theorem Session.remembers_respects {σ : Type} (s : Session σ) (m : Migrator) :
    m.Respects s.recorded Remembers := by
  have h : s.recorded.Keeps m.dialect m.config fun x y => x.2 <+: y.2 := by
    refine ⟨fun x => List.prefix_rfl, fun _ _ _ => List.IsPrefix.trans, fun q x => ?_,
      fun change _ x => ?_⟩
    · obtain ⟨b, hb⟩ := recordedAction_history (.query q) (s.query q) x
      exact ⟨_, hb.symm⟩
    · obtain ⟨b, hb⟩ := recordedAction_history (.execute change) (s.execute change) x
      exact ⟨_, hb.symm⟩
  exact h.respects

namespace Migrator

open SchemaMigration.Action (Moves after bind_ok bind_of_ok ofExcept_ok)

variable {m : Migrator} {reg : Registry} {d : Dialect} {database : String} {α β : Type}
variable {c : Catalog} {P P' : Progress (Catalog × List Exchange)} {Q Q' : Progress Catalog}

/-- The same migrator, which plans its changes and makes none. -/
def planning (m : Migrator) : Migrator := { m with config := { m.config with dryRun := true } }

/-- The planned run at `Q` is where the real run at `P` is, both from catalog `c`: nothing that was
made has been asked for, what was made is in the catalog of the real run, the report is of just
that, and the planned run differs in the catalog and in the mark of its report only. -/
structure InStep (d : Dialect) (c : Catalog) (P : Progress (Catalog × List Exchange))
    (Q : Progress Catalog) : Prop where
  anew : AsksAnew P.session.2
  has : ∀ t p, P.session.1.has t p = true ↔
    c.has t p = true ∨ ∃ change ∈ changesOf P.session.2, change.Adds t p
  new : ∀ change ∈ changesOf P.session.2, ∀ t p, change.Adds t p → c.has t p = false
  executed : P.report.executed = (changesOf P.session.2).map (·.sql d)
  session : Q.session = c
  report : Q.report = { P.report with dryRun := true }
  queue : Q.queue = P.queue

/-- A question for something that was not made leaves the two runs where they are. -/
theorem InStep.asked (h : InStep d c P Q) (database : String) {table : String} {p : Part}
    (hnone : ∀ change ∈ changesOf P.session.2, ¬ change.Adds table p) :
    InStep d c { P with session := (P.session.1, P.session.2 ++ p.asked database table) } Q := by
  have hchanges : changesOf (P.session.2 ++ p.asked database table) = changesOf P.session.2 := by
    rw [changesOf_append, changesOf_asked, List.append_nil]
  refine ⟨asksAnew_asked_iff.mpr ⟨h.anew, hnone⟩, ?_, ?_, ?_, h.session, h.report, h.queue⟩
  · rw [hchanges]
    exact h.has
  · rw [hchanges]
    exact h.new
  · rw [hchanges]
    exact h.executed

/-- Taking the same task leaves two runs in step. -/
theorem InStep.take (h : InStep d c P Q) (queue : TaskQueue) :
    InStep d c { P with queue } { Q with queue } :=
  ⟨h.anew, h.has, h.new, h.executed, h.session, h.report, rfl⟩

/-- The plan has failed, or it repeats what was made. -/
def Departs (d : Dialect) (made : List Change) (Q : Progress Catalog) : Prop :=
  Q.report.failures ≠ [] ∨ Repeats d made Q.report.executed

theorem Departs.mono {made made' : List Change} (h : Departs d made Q) (hm : made <+: made')
    (hq : Advances Q Q') : Departs d made' Q' := by
  refine h.imp (fun hne hnil => hne ?_) fun hr => hr.mono hm hq.executed
  exact hq.clean hnil

/-- The planned step has failed, or its plan departs from what was made. -/
def Strays (d : Dialect) (made : List Change) : Outcome (Progress Catalog) α → Prop
  | .ok _ Q => Departs d made Q
  | .error _ _ => True

/-- The real run has come to `P'`, and the planned one ends in step with it; or what was made has
been asked for, and the planned run departs from it wherever it ends. -/
def Shadows (d : Dialect) (c : Catalog) (P' : Progress (Catalog × List Exchange))
    (ends : Progress Catalog → Prop) : Prop :=
  (∃ Q', ends Q' ∧ InStep d c P' Q') ∨
    ¬ AsksAnew P'.session.2 ∧ ∀ Q', ends Q' → Departs d (changesOf P'.session.2) Q'

/-- A real step `a` and a planned step `b` that stay in step as long as the real one asks for
nothing that was made; else the planned one strays. -/
structure Mirrors (d : Dialect) (c : Catalog) (a : Work (Catalog × List Exchange) α)
    (b : Work Catalog α) : Prop where
  history : Moves Remembers a
  advances : Moves Advances b
  follows : ∀ P Q x P', InStep d c P Q → a P = .ok x P' →
    (∃ Q', b Q = .ok x Q' ∧ InStep d c P' Q') ∨
      ¬ AsksAnew P'.session.2 ∧ Strays d (changesOf P'.session.2) (b Q)

theorem changesOf_grows {h h' : List Exchange} (hp : h <+: h') : changesOf h <+: changesOf h' := by
  obtain ⟨more, rfl⟩ := hp
  rw [changesOf_append]
  exact List.prefix_append _ _

/-- Two steps in a row stay in step if both do. -/
theorem Mirrors.bind {a : Work (Catalog × List Exchange) α} {b : Work Catalog α}
    {f : α → Work (Catalog × List Exchange) β} {g : α → Work Catalog β} (h : Mirrors d c a b)
    (hfg : ∀ x, Mirrors d c (f x) (g x)) : Mirrors d c (a >>= f) (b >>= g) := by
  refine ⟨Moves.bind (R := Remembers) (fun _ _ _ => List.IsPrefix.trans) h.history
      fun x => (hfg x).history,
    Moves.bind (R := Advances) (fun _ _ _ => Advances.trans) h.advances fun x => (hfg x).advances,
    fun P Q y P' hstep hrun => ?_⟩
  obtain ⟨x, P₁, ha, hf⟩ := bind_ok.mp hrun
  rcases h.follows P Q x P₁ hstep ha with ⟨Q₁, hb, hstep₁⟩ | ⟨hold, hstray⟩
  · rw [bind_of_ok hb]
    exact (hfg x).follows P₁ Q₁ y P' hstep₁ hf
  · -- What strays in the first step is not set right by the second.
    have hmore := (hfg x).history.of_ok hf
    refine Or.inr ⟨fun hnew => hold (hnew.earlier hmore), ?_⟩
    show Strays _ _ (EStateM.bind b g Q)
    unfold EStateM.bind
    cases hb : b Q with
    | error e Q₁ => trivial
    | ok z Q₁ =>
      rw [hb] at hstray
      dsimp only
      cases hg : g z Q₁ with
      | error e Q₂ => trivial
      | ok w Q₂ => exact hstray.mono (changesOf_grows hmore) ((hfg z).advances.of_ok hg)

/-- A step that only concerns the report's queue, or nothing, stays in step. -/
theorem Mirrors.schedule (d : Dialect) (c : Catalog) (ts : List Task) :
    Mirrors d c (Work.schedule ts) (Work.schedule ts) := by
  refine ⟨fun P => List.prefix_rfl, fun Q => advances_take Q _, fun P Q x P' h hrun => ?_⟩
  cases hrun
  refine Or.inl ⟨_, rfl, h.anew, h.has, h.new, h.executed, h.session, h.report, ?_⟩
  show Q.queue.pushAll ts = P.queue.pushAll ts
  rw [h.queue]

theorem Mirrors.pure (d : Dialect) (c : Catalog) (x : α) :
    Mirrors d c (Pure.pure x) (Pure.pure x) := by
  refine ⟨fun P => List.prefix_rfl, fun Q => Advances.refl Q, fun P Q y P' h hrun => ?_⟩
  cases hrun
  exact Or.inl ⟨Q, rfl, h⟩

theorem Mirrors.throw (d : Dialect) (c : Catalog) (e : MigrationError) :
    Mirrors d c (MonadExcept.throw e : Work (Catalog × List Exchange) α) (MonadExcept.throw e) := by
  refine ⟨fun P => List.prefix_rfl, fun Q => Advances.refl Q, fun P Q y P' _ hrun => ?_⟩
  cases hrun

/-- Several steps in a row stay in step if each does. -/
theorem Mirrors.forM {xs : List β} {f : β → Work (Catalog × List Exchange) Unit}
    {g : β → Work Catalog Unit} (h : ∀ x ∈ xs, Mirrors d c (f x) (g x)) :
    Mirrors d c (xs.forM f) (xs.forM g) := by
  induction xs with
  | nil => exact Mirrors.pure d c ()
  | cons x xs ih =>
    exact (h x (by simp)).bind fun _ => ih fun y hy => h y (List.mem_cons_of_mem x hy)

/-- A step that needs a value stays in step if it does with each value that it may get. -/
theorem Mirrors.ofExcept_bind {e : Except MigrationError α}
    {f : α → Work (Catalog × List Exchange) β} {g : α → Work Catalog β}
    (h : ∀ x, e = .ok x → Mirrors d c (f x) (g x)) :
    Mirrors d c (Action.ofExcept e >>= f) (Action.ofExcept e >>= g) := by
  cases e with
  | ok x => exact h x rfl
  | error e => exact Mirrors.throw d c e

/-- The planned step, when it succeeds, begins with a change that adds this part. -/
def Plans (d : Dialect) (table : String) (p : Part) (b : Work Catalog α) : Prop :=
  ∀ Q x Q', b Q = .ok x Q' → ∃ change : Change, change.Adds table p ∧
    Q.report.executed ++ [change.sql d] <+: Q'.report.executed

theorem Plans.bind {table : String} {p : Part} {b : Work Catalog α} {g : α → Work Catalog β}
    (h : Plans d table p b) (hg : ∀ x, Moves Advances (g x)) : Plans d table p (b >>= g) := by
  intro Q y Q' hrun
  obtain ⟨x, Q₁, hb, hrest⟩ := bind_ok.mp hrun
  obtain ⟨change, hadds, hpre⟩ := h Q x Q₁ hb
  exact ⟨change, hadds, hpre.trans ((hg x).of_ok hrest).executed⟩

/-- A question on the recorded session is answered from the catalog, and goes into the history. -/
theorem ask_recorded (m : Migrator) (d : Dialect) (database table : String) (p : Part)
    (P : Progress (Catalog × List Exchange)) :
    Work.onSession (.ask ((Catalog.session d database).recorded.affirms m.dialect
      fun named => p.question table named)) P =
    .ok (P.session.1.has table p)
      { P with session := (P.session.1, P.session.2 ++ p.asked database table) } := by
  unfold Work.onSession Action.ask
  rw [Catalog.recorded_affirms]

/-- **A question.**  Two runs that ask for a part stay in step if they do so after either answer,
and if the planned run plans the part where it is missing. -/
theorem Mirrors.ask {table : String} {p : Part} {f : Bool → Work (Catalog × List Exchange) α}
    {g : Bool → Work Catalog α} (hfg : ∀ there, Mirrors m.dialect c (f there) (g there))
    (hplans : Plans m.dialect table p (g false)) :
    Mirrors m.dialect c
      (Work.onSession (.ask ((Catalog.session d database).recorded.affirms m.dialect
        fun named => p.question table named)) >>= f)
      (Work.onSession (.ask ((Catalog.session d database).affirms m.dialect
        fun named => p.question table named)) >>= g) := by
  refine ⟨Moves.bind (R := Remembers) (fun _ _ _ => List.IsPrefix.trans)
      ((Session.remembers_respects (Catalog.session d database) m).asking _)
      fun there => (hfg there).history,
    Moves.bind (R := Advances) (fun _ _ _ => Advances.trans)
      ((advances_respects m d database).asking _) fun there => (hfg there).advances,
    fun P Q x P' h hrun => ?_⟩
  rw [bind_of_ok (ask_recorded m d database table p P)] at hrun
  rw [bind_of_ok (ask_eq m d database table p Q), h.session]
  by_cases hmade : ∃ change ∈ changesOf P.session.2, change.Adds table p
  · -- The part was made: the real run finds it, and the planned one plans it again.
    have hmore : P.session.2 ++ p.asked database table <+: P'.session.2 :=
      (hfg _).history.of_ok hrun
    obtain ⟨earlier, hearlier, hadds⟩ := hmade
    refine Or.inr ⟨fun hnew => ?_, ?_⟩
    · exact (asksAnew_asked_iff.mp (hnew.earlier hmore)).2 earlier hearlier hadds
    · rw [h.new earlier hearlier table p hadds]
      cases hg : g false Q with
      | error e Q₁ => trivial
      | ok y Q₁ =>
        obtain ⟨change, hchange, hpre⟩ := hplans Q y Q₁ hg
        obtain ⟨after, hafter⟩ := changesOf_grows ((List.prefix_append _ _).trans hmore)
        rw [h.report] at hpre
        refine Or.inr ⟨changesOf P.session.2, after, change, table, p, hafter.symm, ?_, hchange,
          earlier, hearlier, hadds⟩
        rw [← h.executed]
        exact hpre
  · -- The part was not made, and both runs find it or miss it.
    have hnone : ∀ change ∈ changesOf P.session.2, ¬ change.Adds table p :=
      fun change hc hadds => hmade ⟨change, hc, hadds⟩
    have hsame : P.session.1.has table p = c.has table p := by
      rw [Bool.eq_iff_iff, h.has]
      exact ⟨fun hor => hor.resolve_right hmade, Or.inl⟩
    rw [hsame] at hrun
    exact (hfg _).follows _ Q x P' (h.asked database hnone) hrun

/-- What is additive for the real run is so for the planned one. -/
theorem additive_planning {change : Change} (h : Additive m.dialect m.config change) :
    Additive m.planning.dialect m.planning.config change := by
  cases h with
  | createTable h => exact .createTable h
  | addColumn h => exact .addColumn h
  | addForeignKey table k => exact .addForeignKey table k
  | addCheck table k => exact .addCheck table k
  | createIndex table i => exact .createIndex table i

/-- A planned change is noted, and that is all. -/
theorem carryOut_planning (change : Change) (Q : Progress Catalog) :
    m.planning.carryOut (Catalog.session d database) change Q = .ok ()
      { Q with
        report := { Q.report with executed := Q.report.executed ++ [change.sql m.dialect] } } := by
  rw [carryOut_eq, performed, if_pos (show m.planning.config.dryRun = true from rfl)]
  rfl

/-- A real change goes into the history, applied to the catalog and noted, or refused. -/
theorem carryOut_recorded_eq (hreal : m.config.dryRun = false) (change : Change) :
    m.carryOut (Catalog.session d database).recorded change P =
      match P.session.1.apply change with
      | .ok c' => .ok ()
          { P with
            session := (c', P.session.2 ++ [⟨.execute change, true⟩])
            report := { P.report with executed := P.report.executed ++ [change.sql m.dialect] } }
      | .error refusal => .error (.exec (change.sql d) refusal.message)
          { P with session := (P.session.1, P.session.2 ++ [⟨.execute change, false⟩]) } := by
  have hrecorded : m.perform (Catalog.session d database).recorded change P.session =
      Session.recordedAction (.execute change) ((Catalog.session d database).execute change)
        P.session := by
    rw [perform, if_neg (by simp [hreal])]
    rfl
  unfold carryOut
  show EStateM.bind _ _ P = _
  unfold EStateM.bind Work.onSession
  rw [hrecorded]
  unfold Session.recordedAction Catalog.session
  cases happly : P.session.1.apply change with
  | ok c' =>
    simp only [happly]
    rfl
  | error refusal => simp only [happly]

/-- A real change that succeeds is applied to the catalog, put into the history, and noted. -/
theorem carryOut_recorded (hreal : m.config.dryRun = false) {change : Change} {x : Unit}
    (h : m.carryOut (Catalog.session d database).recorded change P = .ok x P') :
    ∃ c', P.session.1.apply change = .ok c' ∧
      P' = { P with
        session := (c', P.session.2 ++ [⟨.execute change, true⟩])
        report := { P.report with executed := P.report.executed ++ [change.sql m.dialect] } } := by
  rw [carryOut_recorded_eq hreal] at h
  split at h
  · next c' happly =>
    cases h
    exact ⟨c', happly, rfl⟩
  · cases h

/-- **A change.**  A change that only adds is made by the real run and noted by both. -/
theorem Mirrors.carryOut (hreal : m.config.dryRun = false) {change : Change}
    (hc : Additive m.dialect m.config change) :
    Mirrors m.dialect c (m.carryOut (Catalog.session d database).recorded change)
      (m.planning.carryOut (Catalog.session d database) change) := by
  refine ⟨((Catalog.session d database).remembers_respects m).adding change hc,
    (advances_respects m.planning d database).adding change (additive_planning hc),
    fun P Q x P' h hrun => ?_⟩
  obtain ⟨table, parts, hadds⟩ := hc.adds
  obtain ⟨c', happly, rfl⟩ := carryOut_recorded hreal hrun
  have hchanges : changesOf (P.session.2 ++ [⟨.execute change, true⟩]) =
      changesOf P.session.2 ++ [change] := changesOf_append _ _
  refine Or.inl ⟨_, carryOut_planning change Q, h.anew.execute change true, fun t p => ?_,
    fun made hmade t p ht => ?_, ?_, h.session, ?_, h.queue⟩
  · rw [hchanges, Catalog.apply_has_iff happly hadds, h.has]
    simp only [List.mem_append, List.mem_singleton]
    constructor
    · rintro ((hc | ⟨made, hmade, ht⟩) | ht)
      · exact Or.inl hc
      · exact Or.inr ⟨made, Or.inl hmade, ht⟩
      · exact Or.inr ⟨change, Or.inr rfl, ht⟩
    · rintro (hc | ⟨made, hmade | rfl, ht⟩)
      · exact Or.inl (Or.inl hc)
      · exact Or.inl (Or.inr ⟨made, hmade, ht⟩)
      · exact Or.inr ht
  · rw [hchanges, List.mem_append, List.mem_singleton] at hmade
    rcases hmade with hmade | rfl
    · exact h.new made hmade t p ht
    · -- What the catalog lacks now it lacked at the start.
      have hnew := Catalog.apply_new happly ht
      rw [← Bool.not_eq_true] at hnew ⊢
      exact fun hc => hnew ((h.has t p).mpr (Or.inl hc))
  · show P.report.executed ++ [_] = _
    rw [hchanges, h.executed, List.map_append]
    rfl
  · rw [h.report]

theorem plans_carryOut {change : Change} {table : String} {p : Part} (ha : change.Adds table p) :
    Plans m.dialect table p (m.planning.carryOut (Catalog.session d database) change) := by
  intro Q x Q' hrun
  cases (carryOut_planning change Q).symm.trans hrun
  exact ⟨change, ha, List.prefix_rfl⟩

theorem plans_ofExcept {table : String} {p : Part} {e : Except MigrationError α}
    {g : α → Work Catalog β} (h : ∀ a, e = .ok a → Plans m.dialect table p (g a)) :
    Plans m.dialect table p (Action.ofExcept e >>= g) := by
  intro Q x Q' hrun
  obtain ⟨a, Q₁, hfirst, hrest⟩ := bind_ok.mp hrun
  obtain ⟨ha, rfl⟩ := ofExcept_ok.mp hfirst
  exact h a ha _ _ _ hrest

/-! ## The steps of a migration -/

section

variable (hreal : m.config.dryRun = false)

include hreal

theorem Mirrors.addMissing {table : String} {p : Part} {change : Except MigrationError Change}
    (hc : ∀ k, change = .ok k → Additive m.dialect m.config k ∧ k.adds = some (table, [p])) :
    Mirrors m.dialect c
      (m.addMissing (Catalog.session d database).recorded (fun named => p.question table named)
        change)
      (m.planning.addMissing (Catalog.session d database) (fun named => p.question table named)
        change) := by
  refine Mirrors.ask (fun there => ?_) ?_
  · cases there with
    | true => exact Mirrors.pure m.dialect c ()
    | false => exact Mirrors.ofExcept_bind fun k hk => Mirrors.carryOut hreal (hc k hk).1
  · exact plans_ofExcept fun k hk => plans_carryOut ⟨[p], (hc k hk).2, by simp⟩

theorem Mirrors.updateModel (model : Model) :
    Mirrors m.dialect c (m.updateModel (Catalog.session d database).recorded model)
      (m.planning.updateModel (Catalog.session d database) model) := by
  rw [updateModel_eq, updateModel_eq]
  refine Mirrors.bind (Mirrors.forM fun x hx => ?_) fun _ => Mirrors.schedule m.dialect c _
  exact Mirrors.addMissing hreal fun k hk =>
    ⟨Model.additive_of_mem_additions hx hk, Model.adds_of_mem_additions hx hk⟩

theorem Mirrors.createModel (model : Model) :
    Mirrors m.dialect c (m.createModel (Catalog.session d database).recorded model)
      (m.planning.createModel (Catalog.session d database) model) := by
  unfold Migrator.createModel
  refine Mirrors.ofExcept_bind fun plan hplan => ?_
  exact (Mirrors.carryOut hreal (.createTable hplan)).bind fun _ =>
    Mirrors.schedule m.dialect c _

omit hreal in
/-- The table of a model is planned before all else. -/
theorem plans_createModel (model : Model) :
    Plans m.dialect model.table .table
      (m.planning.createModel (Catalog.session d database) model) := by
  unfold Migrator.createModel
  refine plans_ofExcept fun plan hplan => Plans.bind (plans_carryOut ?_) fun _ Q => ?_
  · exact ⟨_, (Model.plan_ok hplan).1, by simp [Model.createdParts]⟩
  · exact advances_take Q _

theorem Mirrors.updateStep (model : ResolvedModel) :
    Mirrors m.dialect c (m.updateStep (Catalog.session d database).recorded model)
      (m.planning.updateStep (Catalog.session d database) model) := by
  cases model with
  | table name =>
    refine Mirrors.ask (p := .table) (fun there => ?_) fun Q x Q' hrun => by cases hrun
    cases there with
    | true => exact Mirrors.pure m.dialect c ()
    | false => exact Mirrors.throw m.dialect c (bareTable name)
  | model model =>
    refine Mirrors.ask (p := .table) (fun there => ?_) (plans_createModel model)
    cases there with
    | true => exact Mirrors.updateModel hreal model
    | false => exact Mirrors.createModel hreal model

theorem Mirrors.runTask (reg : Registry) (t : Task) :
    Mirrors m.dialect c (m.runTask reg (Catalog.session d database).recorded t)
      (m.planning.runTask reg (Catalog.session d database) t) := by
  cases t with
  | createIndex table i => exact Mirrors.carryOut hreal (.createIndex table i)
  | joinTable source migrateExisting =>
    refine Mirrors.ofExcept_bind fun model _ => ?_
    refine Mirrors.ask (p := .table) (fun there => ?_) (plans_createModel model)
    cases there with
    | false => exact Mirrors.createModel hreal model
    | true =>
      cases migrateExisting with
      | true => exact Mirrors.updateModel hreal model
      | false => exact Mirrors.pure m.dialect c ()

/-! ## The deferred work and the run over the models -/

/-- Deferred work without failures stays in step as well, or the plan departs in the course of
it. -/
theorem drain_follows : ∀ (n : Nat) {P P' : Progress (Catalog × List Exchange)}
    {Q : Progress Catalog}, InStep m.dialect c P Q →
      m.drain reg (Catalog.session d database).recorded n P = some P' → P'.report.failures = [] →
      Shadows m.dialect c P' fun Q' =>
        m.planning.drain reg (Catalog.session d database) n Q = some Q' := by
  intro n
  induction n with
  | zero =>
    intro P P' Q h hrun _
    rcases drain_some hrun with ⟨hp, rfl⟩ | ⟨k, t, rest, hk, -⟩
    · refine Or.inl ⟨Q, ?_, h⟩
      rw [drain, (TaskQueue.pop?_eq_none_iff _).mpr (h.queue ▸ hp)]
    · cases hk
  | succ n ih =>
    intro P P' Q h hrun hclean
    rcases drain_some hrun with ⟨hp, rfl⟩ | ⟨k, t, rest, hk, hp, hrest⟩
    · refine Or.inl ⟨Q, ?_, h⟩
      rw [drain, (TaskQueue.pop?_eq_none_iff _).mpr (h.queue ▸ hp)]
    · cases hk
      have htask := runTask_of_drain hrest hclean
      have hmore : Remembers _ P' :=
        ((Catalog.session d database).remembers_respects m).drain (fun _ _ => List.prefix_rfl) reg n
          hrest
      rw [drain_cons (h.queue ▸ hp)]
      rcases (Mirrors.runTask hreal reg t).follows _ _ _ _ (h.take rest) htask with
        ⟨Q₁, hQ₁, hstep⟩ | ⟨hold, hstray⟩
      · have hattempt : m.planning.attempt reg (Catalog.session d database) t
            { Q with queue := ⟨rest.tasks⟩ } = Q₁ := by
          unfold attempt
          rw [hQ₁]
        rw [hattempt]
        exact ih hstep hrest hclean
      · refine Or.inr ⟨fun hnew => hold (hnew.earlier hmore), fun Q' hQ' => ?_⟩
        have hadv := (advances_respects m.planning d database).drain advances_take reg n hQ'
        refine Departs.mono ?_ (changesOf_grows hmore) hadv
        unfold attempt
        cases hQ₁ : m.planning.runTask reg (Catalog.session d database) t
            { Q with queue := ⟨rest.tasks⟩ } with
        | ok x Q₁ =>
          rw [hQ₁] at hstray
          exact hstray
        | error e Q₁ => exact Or.inl (by simp)

/-- So does a run over the models. -/
theorem forEachModel_follows {n : Nat} :
    ∀ {models : List ResolvedModel} {P P' : Progress (Catalog × List Exchange)}
      {Q : Progress Catalog}, InStep m.dialect c P Q →
      m.forEachModel reg (Catalog.session d database).recorded n
        (m.updateStep (Catalog.session d database).recorded) models P = some (.ok () P') →
      P'.report.failures = [] →
      Shadows m.dialect c P' fun Q' => m.planning.forEachModel reg (Catalog.session d database) n
        (m.planning.updateStep (Catalog.session d database)) models Q = some (.ok () Q') := by
  intro models
  induction models with
  | nil =>
    intro P P' Q h hrun _
    cases hrun
    exact Or.inl ⟨Q, rfl, h⟩
  | cons model models ih =>
    intro P P' Q h hrun hclean
    obtain ⟨P₁, P₂, hstep, hdrain, hrest⟩ := forEachModel_cons hrun
    have hR := (Catalog.session d database).remembers_respects m
    have hmore₁ : Remembers P₁ P₂ := hR.drain (fun _ _ => List.prefix_rfl) reg n hdrain
    have hmore₂ : Remembers P₂ P' := forEachModel_moves hR (fun _ _ => List.prefix_rfl) hrest
    have hclean₂ := forEachModel_clean hrest hclean
    have hA := advances_respects m.planning d database
    rcases (Mirrors.updateStep hreal model).follows _ _ _ _ h hstep with
      ⟨Q₁, hQ₁, hstep₁⟩ | ⟨hold, hstray⟩
    · rcases drain_follows hreal n hstep₁ hdrain hclean₂ with ⟨Q₂, hQ₂, hstep₂⟩ | ⟨hold, hdeparts⟩
      · have hcons : m.planning.forEachModel reg (Catalog.session d database) n
            (m.planning.updateStep (Catalog.session d database)) (model :: models) Q =
            m.planning.forEachModel reg (Catalog.session d database) n
              (m.planning.updateStep (Catalog.session d database)) models Q₂ := by
          rw [forEachModel, hQ₁]
          dsimp only
          rw [hQ₂]
        rw [hcons]
        exact ih hstep₂ hrest hclean
      · refine Or.inr ⟨fun hnew => hold (hnew.earlier hmore₂), fun Q' hQ' => ?_⟩
        obtain ⟨Q₁', Q₂, hQ₁', hQ₂, hQ'⟩ := forEachModel_cons hQ'
        cases hQ₁.symm.trans hQ₁'
        exact (hdeparts Q₂ hQ₂).mono (changesOf_grows hmore₂)
          (forEachModel_moves hA advances_take hQ')
    · have hmore := List.IsPrefix.trans hmore₁ hmore₂
      refine Or.inr ⟨fun hnew => hold (hnew.earlier hmore), fun Q' hQ' => ?_⟩
      obtain ⟨Q₁, Q₂, hQ₁, hQ₂, hQ'⟩ := forEachModel_cons hQ'
      rw [hQ₁] at hstray
      exact Departs.mono hstray (changesOf_grows hmore)
        ((hA.drain advances_take reg n hQ₂).trans (forEachModel_moves hA advances_take hQ'))

end

/-- At the start two runs are in step. -/
theorem inStep_start (m : Migrator) (c : Catalog) :
    InStep m.dialect c (m.start (c, [])) (m.planning.start c) where
  anew := List.Pairwise.nil
  has t p := by simp [start, changesOf]
  new change hc := absurd hc (by simp [start, changesOf])
  executed := rfl
  session := rfl
  report := rfl
  queue := rfl

/-- **A planned run and a real one.**  As long as the real run asks for nothing that it has made,
the planned one ends with the same statements and no failure.  Otherwise, if it ends at all, it has
failures, or it plans something that it has planned already. -/
theorem autoMigrate_follows {n : Nat} {refs : List ModelRef} {report : Report} {c' : Catalog}
    {history : List Exchange} (hreal : m.config.dryRun = false)
    (hrun : m.autoMigrate reg (Catalog.session d database).recorded n refs (c, []) =
      some (.ok report (c', history))) (hclean : report.failures = []) :
    (AsksAnew history → m.planning.autoMigrate reg (Catalog.session d database) n refs c =
      some (.ok { report with dryRun := true } c)) ∧
    (¬ AsksAnew history → ∀ k plan c'',
      m.planning.autoMigrate reg (Catalog.session d database) k refs c = some (.ok plan c'') →
      plan.failures ≠ [] ∨ Repeats m.dialect (changesOf history) plan.executed) := by
  obtain ⟨out, P', ho, hP', rfl, hsession⟩ := autoMigrate_ok.mp hrun
  have hhistory : P'.session.2 = history := congrArg Prod.snd hsession
  rw [← hhistory]
  constructor
  · intro hnew
    rcases forEachModel_follows hreal (inStep_start m c) hP' hclean with
      ⟨Q', hQ', hstep⟩ | ⟨hold, -⟩
    · exact autoMigrate_ok.mpr ⟨out, Q', ho, hQ', hstep.report, hstep.session⟩
    · exact absurd hnew hold
  · intro hold k plan c'' hplan
    obtain ⟨out', Q', ho', hQ', rfl, -⟩ := autoMigrate_ok.mp hplan
    cases ho.symm.trans ho'
    -- Both runs end in the same way with the larger one of the two allowances.
    have hP := forEachModel_mono (Nat.le_max_left n k) hP'
    have hQ := forEachModel_mono (Nat.le_max_right n k) hQ'
    rcases forEachModel_follows hreal (inStep_start m c) hP hclean with
      ⟨Q₁, -, hstep⟩ | ⟨-, hdeparts⟩
    · exact absurd hstep.anew hold
    · exact hdeparts Q' hQ

end Migrator

end SchemaMigration
