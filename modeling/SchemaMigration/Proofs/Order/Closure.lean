import SchemaMigration.Proofs.Order.Listing

/-!
# Discovery ends, and finds a closure

The models behind the handles may refer to each other in cycles, and which of them there are is not
known when the walk starts.  `place` ends because it is told the tables that can still come on the
way; `placeWithin` is told nothing but the tables that are on the way, and gives up when there are
too many of them.

> `orderWithin_eq`: with room for every reference and every handle it never gives up, and it finds
> the same order.

What discovery finds is read off the walk step by step.  A walk makes two kinds of steps only: it
learns the model behind the handle of a key whose table is not known, and it places a model all of
whose keys have been followed.  What both kinds keep, the whole walk keeps (`Keeps.placeAll`):

> every key of a placed model has been followed (`keeps_followed`), and whatever is known is listed
> or was found behind handles, along a chain that starts at a listed model (`keeps_found`).
-/

namespace SchemaMigration

open Relation (TransGen)

namespace Walk

variable {reg : Registry} {discover : Bool} {w w₁ w₂ : Walk}

/-! ## What the steps of a walk keep -/

/-- A foreign key has been followed: its table is known, or the table that its handle describes is,
or it leads nowhere. -/
def Followed (reg : Registry) (discover : Bool) (w : Walk) (k : ForeignKey) : Prop :=
  w.knows k.referencedTable = true ∨
    (∃ s n, k.referencedModel = some s ∧ reg.describe s = .ok n ∧ w.knows n.table = true) ∨
    (discover = false ∨ k.referencedModel = none)

theorem Extends.followed (h : Extends w₁ w₂) {k : ForeignKey}
    (hk : Followed reg discover w₁ k) : Followed reg discover w₂ k := by
  rcases hk with hk | ⟨s, n, hs, hn, hk⟩ | hno
  · exact Or.inl (h.knows hk)
  · exact Or.inr (Or.inl ⟨s, n, hs, hn, h.knows hk⟩)
  · exact Or.inr (Or.inr hno)

/-- A property of walks that every step keeps. -/
structure Keeps (reg : Registry) (discover : Bool) (P : Walk → Prop) : Prop where
  learn : ∀ {w : Walk} {m n : Model} {k : ForeignKey} {s : Source}, P w → m ∈ w.known →
    k ∈ m.dependencies → discover = true → k.referencedModel = some s → reg.describe s = .ok n →
    P (w.learn n)
  push : ∀ {w : Walk} {m : Model}, P w → m ∈ w.known →
    (∀ k ∈ m.dependencies, Followed reg discover w k) → P { w with placed := w.placed ++ [m] }

/-- Placing a table, with the tables of `fresh` not on the way, goes on with the walk and keeps
`P`. -/
def PlacesKeeping (reg : Registry) (discover : Bool) (P : Walk → Prop) (fresh : List String) :
    Prop :=
  ∀ (w w' : Walk) (t : String), P w → place reg discover fresh w t = .ok w' →
    Extends w w' ∧ P w'

section

variable {P : Walk → Prop} {fresh : List String}

/-- After a visit the key has been followed. -/
theorem Keeps.visit (hP : Keeps reg discover P) (ih : PlacesKeeping reg discover P fresh)
    {w w' : Walk} {m : Model} {k : ForeignKey} (hw : P w) (hm : m ∈ w.known)
    (hk : k ∈ m.dependencies) (h : visit reg discover fresh w k = .ok w') :
    Extends w w' ∧ P w' ∧ Followed reg discover w' k := by
  unfold Walk.visit at h
  split at h
  · cases h
  · next v hv =>
    cases h
    rcases follow_cases hv with ⟨_, _, hn⟩ | ⟨_, _, _, _, _, _, _, hn⟩ | ⟨-, hno, rfl, -⟩
    · cases hn
    · cases hn
    · exact ⟨Extends.refl w', hw, Or.inr (Or.inr hno)⟩
  · next v next hv =>
    rcases follow_cases hv with ⟨hkn, rfl, hn⟩ | ⟨-, hd, s, n, hs, hdesc, rfl, hn⟩ | ⟨_, _, _, hn⟩
    · cases hn
      obtain ⟨hext, hw'⟩ := ih _ _ _ hw h
      exact ⟨hext, hw', Or.inl (hext.knows hkn)⟩
    · cases hn
      obtain ⟨hext, hw'⟩ := ih _ _ _ (hP.learn hw hm hk hd hs hdesc) h
      exact ⟨(extends_learn w n).trans hext, hw',
        Or.inr (Or.inl ⟨s, n, hs, hdesc, hext.knows (knows_learn w n)⟩)⟩
    · cases hn

/-- After visits to all keys of a model all of them have been followed. -/
theorem Keeps.visitAll (hP : Keeps reg discover P) (ih : PlacesKeeping reg discover P fresh)
    {m : Model} :
    ∀ (ks : List ForeignKey) {w w' : Walk}, ks ⊆ m.dependencies → P w → m ∈ w.known →
      ks.foldlM (Walk.visit reg discover fresh) w = .ok w' →
      Extends w w' ∧ P w' ∧ ∀ k ∈ ks, Followed reg discover w' k := by
  intro ks
  induction ks with
  | nil =>
    intro w w' _ hw _ h
    cases h
    exact ⟨Extends.refl w, hw, fun k hk => absurd hk (by simp)⟩
  | cons k ks ihks =>
    intro w w' hks hw hm h
    obtain ⟨v, hv, h⟩ := foldlM_cons_ok.mp h
    obtain ⟨hk, hks⟩ := List.cons_subset.mp hks
    obtain ⟨hext, hv, hfollowed⟩ := hP.visit ih hw hm hk hv
    obtain ⟨hext', hw', hall⟩ := ihks hks hv (hext.known.subset hm) h
    exact ⟨hext.trans hext', hw', List.forall_mem_cons.mpr ⟨hext'.followed hfollowed, hall⟩⟩

/-- Placing a table keeps what every step keeps.  The induction is on the number of tables that are
not on the way. -/
theorem Keeps.place (hP : Keeps reg discover P) (fresh : List String) :
    PlacesKeeping reg discover P fresh := by
  induction hlen : fresh.length using Nat.strongRecOn generalizing fresh with
  | _ n ih =>
    intro w w' t hw h
    by_cases hp : w.hasPlaced t = true
    · rw [Walk.place, if_pos hp] at h
      cases h
      exact ⟨Extends.refl w, hw⟩
    · rw [Bool.not_eq_true] at hp
      by_cases hf : t ∈ fresh
      · cases hm : w.model? t with
        | none =>
          rw [Walk.place, if_neg (by simp [hp]), dif_pos hf] at h
          simp only [hm] at h
          cases h
          exact ⟨Extends.refl w, hw⟩
        | some m =>
          rw [place_fresh hp hf hm] at h
          split at h
          · cases h
          · next v hv =>
            cases h
            have hmk := (mem_of_model? hm).1
            have hin := ih _ (hlen ▸ length_others_lt hf) (others t fresh) rfl
            obtain ⟨hext, hPv, hks⟩ := hP.visitAll hin _ (fun _ hx => hx) hw hmk hv
            have hpush : Extends v { v with placed := v.placed ++ [m] } :=
              ⟨List.prefix_rfl, List.prefix_append _ _⟩
            exact ⟨hext.trans hpush, hP.push hPv (hext.known.subset hmk) hks⟩
      · rw [Walk.place, if_neg (by simp [hp]), dif_neg hf] at h
        cases h
        exact ⟨Extends.refl w, hw⟩

/-- Placing tables one after the other keeps what every step keeps. -/
theorem Keeps.placeAll (hP : Keeps reg discover P) :
    ∀ (ts : List String) {w w' : Walk}, P w →
      ts.foldlM (Walk.place reg discover fresh) w = .ok w' → Extends w w' ∧ P w' := by
  intro ts
  induction ts with
  | nil =>
    intro w w' hw h
    cases h
    exact ⟨Extends.refl w, hw⟩
  | cons t ts ih =>
    intro w w' hw h
    obtain ⟨v, hv, h⟩ := foldlM_cons_ok.mp h
    obtain ⟨hext, hPv⟩ := hP.place fresh _ _ _ hw hv
    obtain ⟨hext', hw'⟩ := ih hPv h
    exact ⟨hext.trans hext', hw'⟩

end

/-! ## Three properties that every step keeps -/

/-- Only tables of `all` are known on the walk. -/
def KnowsWithin (all : List String) (w : Walk) : Prop := ∀ m ∈ w.known, m.table ∈ all

/-- Only tables that a handle describes become known. -/
theorem keeps_inAll {all : List String} (hreg : ∀ s n, reg.describe s = .ok n → n.table ∈ all) :
    Keeps reg discover (KnowsWithin all) := by
  refine ⟨fun {w m n k s} hw _ _ _ _ hn o ho => ?_, fun hw _ _ => hw⟩
  rcases mem_learn ho with ho | rfl
  · exact hw o ho
  · exact hreg s o hn

/-- The keys of placed models have been followed. -/
theorem keeps_followed : Keeps reg discover fun w =>
    ∀ x ∈ w.placed, ∀ k ∈ x.dependencies, Followed reg discover w k := by
  constructor
  · intro w m n k s hw _ _ _ _ _ x hx k' hk'
    rw [placed_learn] at hx
    exact (extends_learn w n).followed (hw x hx k' hk')
  · intro w m hw _ hks x hx
    rcases List.mem_append.mp hx with hx | hx
    · exact hw x hx
    · rw [List.mem_singleton.mp hx]
      exact hks

/-- Among the models `ms`, a key of model `a` carries a handle that describes model `b`, the model
of another table that is not one of `base`. -/
def Finds (reg : Registry) (base : String → Prop) (ms : List Model) (a b : Model) : Prop :=
  a ∈ ms ∧ b ∈ ms ∧ ¬ base b.table ∧ a.table ≠ b.table ∧
    ∃ k ∈ a.dependencies, ∃ s, k.referencedModel = some s ∧ reg.describe s = .ok b

/-- The tables `base` are known, and any other known model was found behind handles, from one of
them on. -/
def Found (reg : Registry) (base : String → Prop) (w : Walk) : Prop :=
  (∀ t, base t → w.knows t = true) ∧
    ∀ b ∈ w.known, base b.table ∨
      ∃ a ∈ w.known, base a.table ∧ TransGen (Finds reg base w.known) a b

theorem Finds.mono {base : String → Prop} {ms ns : List Model} (h : ms ⊆ ns) {a b : Model}
    (hf : Finds reg base ms a b) : Finds reg base ns a b :=
  ⟨h hf.1, h hf.2.1, hf.2.2⟩

theorem keeps_found {base : String → Prop} : Keeps reg discover (Found reg base) := by
  refine ⟨fun {w m n k s} hw hm hk hd hs hn => ?_, fun hw _ _ => hw⟩
  by_cases hkn : w.knows n.table = true
  · rw [learn, if_pos hkn]
    exact hw
  · -- The model behind the handle is new: the chain to `m` goes on to it.
    obtain ⟨hbase, hchain⟩ := hw
    have hext := extends_learn w n
    have hmono : ∀ {a b : Model}, TransGen (Finds reg base w.known) a b →
        TransGen (Finds reg base (w.learn n).known) a b :=
      fun h => TransGen.mono (fun _ _ => Finds.mono hext.known.subset) _ _ h
    have hnew : n ∈ (w.learn n).known := by
      rw [learn, if_neg hkn]
      simp
    have hmn : Finds reg base (w.learn n).known m n := by
      refine ⟨hext.known.subset hm, hnew, fun hb => hkn (hbase _ hb), fun heq => ?_, k, hk, s, hs,
        hn⟩
      exact hkn (knows_iff.mpr ⟨m, hm, heq⟩)
    refine ⟨fun t ht => hext.knows (hbase t ht), fun b hb => ?_⟩
    rcases mem_learn hb with hb | rfl
    · refine (hchain b hb).imp_right ?_
      rintro ⟨a, ha, hab, hchain⟩
      exact ⟨a, hext.known.subset ha, hab, hmono hchain⟩
    · right
      rcases hchain m hm with hbm | ⟨a, ha, hab, hchain⟩
      · exact ⟨m, hext.known.subset hm, hbm, TransGen.single hmn⟩
      · exact ⟨a, hext.known.subset ha, hab, (hmono hchain).tail hmn⟩

/-! ## Placing without knowing which tables there are -/

/-- Follows one foreign key: the table that it leads to, if any, is placed by `placeNext`. -/
def visitWith (reg : Registry) (discover : Bool)
    (placeNext : Walk → String → ExceptT SchemaError Option Walk) (w : Walk) (k : ForeignKey) :
    ExceptT SchemaError Option Walk := do
  let (w, next) ← ExceptT.mk (some (follow reg discover w k))
  match next with
  | none => pure w
  | some next => placeNext w next

/-- Places a table as `place` does, but all that it is told is which tables are on the way, `way`.
It gives no result when `depth` calls in one another do not suffice. -/
def placeWithin (reg : Registry) (discover : Bool) :
    Nat → List String → Walk → String → ExceptT SchemaError Option Walk
  | 0, _, _, _ => ExceptT.mk none
  | depth + 1, way, w, table =>
    if w.hasPlaced table ∨ table ∈ way then pure w
    else
      match w.model? table with
      | none => pure w
      | some m => do
        let w ← m.dependencies.foldlM
          (visitWith reg discover (placeWithin reg discover depth (table :: way))) w
        pure { w with placed := w.placed ++ [m] }

/-- Steps that each give a result on what they keep give one in a row. -/
theorem foldlM_within {ε α β : Type} {f : β → α → ExceptT ε Option β} {g : β → α → Except ε β}
    {P : β → Prop} {xs : List α}
    (hfg : ∀ x ∈ xs, ∀ b, P b → f b x = ExceptT.mk (some (g b x)) ∧ ∀ c, g b x = .ok c → P c) :
    ∀ {b : β}, P b → xs.foldlM f b = ExceptT.mk (some (xs.foldlM g b)) := by
  induction xs with
  | nil => exact fun _ => rfl
  | cons x xs ih =>
    intro b hb
    obtain ⟨hx, hxs⟩ := List.forall_mem_cons.mp hfg
    obtain ⟨hf, hP⟩ := hx b hb
    rw [List.foldlM_cons, List.foldlM_cons, hf]
    cases hg : g b x with
    | error e => rfl
    | ok c => exact ih hxs (hP c hg)

section

variable {all fresh way : List String}

/-- The tables of `fresh` are those of `all` that are not on the way. -/
def OffWay (all fresh way : List String) : Prop := ∀ u ∈ all, u ∈ fresh ↔ u ∉ way

theorem OffWay.step (h : OffWay all fresh way) (t : String) :
    OffWay all (others t fresh) (t :: way) := by
  intro u hu
  rw [mem_others, h u hu, List.mem_cons, not_or]
  exact And.comm

/-- A visit gives a result if placing the tables of `all` gives one. -/
theorem visitWith_eq {placeNext : Walk → String → ExceptT SchemaError Option Walk}
    (hreg : ∀ s n, reg.describe s = .ok n → n.table ∈ all)
    (hnext : ∀ v next, KnowsWithin all v → next ∈ all →
      placeNext v next = ExceptT.mk (some (place reg discover fresh v next)))
    {k : ForeignKey} (hw : KnowsWithin all w) :
    visitWith reg discover placeNext w k =
      ExceptT.mk (some (visit reg discover fresh w k)) := by
  unfold visitWith visit
  cases hfollow : follow reg discover w k with
  | error e => rfl
  | ok r =>
    obtain ⟨v, next⟩ := r
    cases next with
    | none => rfl
    | some next =>
      rcases follow_cases hfollow with ⟨hkn, rfl, hn⟩ | ⟨-, -, s, n, -, hdesc, rfl, hn⟩ |
        ⟨_, _, _, hn⟩
      · cases hn
        obtain ⟨n, hn, hnt⟩ := knows_iff.mp hkn
        exact hnext _ _ hw (hnt ▸ hw n hn)
      · cases hn
        refine hnext _ _ (fun o ho => ?_) (hreg s n hdesc)
        rcases mem_learn ho with ho | rfl
        · exact hw o ho
        · exact hreg s o hdesc
      · cases hn

/-- With room for the tables that are not on the way, placing never gives up.  The tables `all` are
those of the references and the handles; they bound the recursion and are not part of it. -/
theorem placeWithin_eq (hreg : ∀ s n, reg.describe s = .ok n → n.table ∈ all) :
    ∀ (depth : Nat) {fresh way : List String} {w : Walk} {t : String}, fresh.length < depth →
      OffWay all fresh way → KnowsWithin all w → t ∈ all →
      placeWithin reg discover depth way w t =
        ExceptT.mk (some (place reg discover fresh w t)) := by
  intro depth
  induction depth with
  | zero =>
    intro fresh way w t hlen
    omega
  | succ depth ih =>
    intro fresh way w t hlen hway hall ht
    rw [placeWithin]
    by_cases hp : w.hasPlaced t = true
    · rw [if_pos (Or.inl hp), place, if_pos hp]
      rfl
    · by_cases hf : t ∈ fresh
      · rw [if_neg (not_or.mpr ⟨hp, (hway t ht).mp hf⟩)]
        cases hm : w.model? t with
        | none =>
          rw [place, if_neg hp, dif_pos hf]
          simp only [hm]
          rfl
        | some m =>
          have hlt : (others t fresh).length < depth := by
            have := length_others_lt hf
            omega
          have hkeeps : Keeps reg discover (KnowsWithin all) := keeps_inAll hreg
          have hvisit : ∀ k ∈ m.dependencies, ∀ v : Walk, m ∈ v.known ∧ KnowsWithin all v →
              visitWith reg discover (placeWithin reg discover depth (t :: way)) v k =
                ExceptT.mk (some (visit reg discover (others t fresh) v k)) ∧
              ∀ u, visit reg discover (others t fresh) v k = .ok u →
                m ∈ u.known ∧ KnowsWithin all u := by
            rintro k hk v ⟨hmv, hv⟩
            refine ⟨visitWith_eq hreg (fun u next hu hn => ih hlt (hway.step t) hu hn) hv,
              fun u hu => ?_⟩
            obtain ⟨hext, hall, -⟩ := hkeeps.visit (hkeeps.place _) hv hmv hk hu
            exact ⟨hext.known.subset hmv, hall⟩
          rw [place_fresh (by simpa using hp) hf hm]
          dsimp only
          rw [foldlM_within hvisit ⟨(mem_of_model? hm).1, hall⟩]
          cases m.dependencies.foldlM (visit reg discover (others t fresh)) w with
          | error e => rfl
          | ok v => rfl
      · have hon : t ∈ way := by
          by_contra h
          exact hf ((hway t ht).mpr h)
        rw [if_pos (Or.inr hon), place, if_neg hp, dif_neg hf]
        rfl

/-- The same along the roots. -/
theorem placeAllWithin_eq (discover : Bool)
    (hreg : ∀ s n, reg.describe s = .ok n → n.table ∈ all) {depth : Nat} {ts : List String}
    (hlen : all.length < depth) (hts : ts ⊆ all) (hw : KnowsWithin all w) :
    ts.foldlM (placeWithin reg discover depth []) w =
      ExceptT.mk (some (ts.foldlM (place reg discover all) w)) := by
  have hway : OffWay all all [] := fun u hu => by simp [hu]
  refine foldlM_within (P := KnowsWithin all) (fun t ht v hv => ?_) hw
  refine ⟨placeWithin_eq hreg depth hlen hway hv (hts ht), fun u hu => ?_⟩
  exact ((keeps_inAll hreg).place all _ _ _ hv hu).2

end

end Walk

/-- Puts the models in order as `order` does, with no notion of the tables that discovery may still
find.  It gives no result when `depth` calls in one another do not suffice to place a table. -/
def orderWithin (reg : Registry) (discover : Bool) (depth : Nat) (refs : List ModelRef) :
    ExceptT SchemaError Option (List ResolvedModel) := do
  let listed ← ExceptT.mk (some (describeAll reg refs))
  let known := describedTables listed
  let w ← (known.map (·.table)).foldlM (Walk.placeWithin reg discover depth []) { known }
  pure (orderOf refs w)

section

variable {reg : Registry} {discover : Bool} {refs : List ModelRef} {listed : List Model} {w : Walk}

/-- There is at most one description for each reference. -/
theorem length_describedTables_le (h : describeAll reg refs = .ok listed) :
    (describedTables listed).length ≤ refs.length := by
  have hlisted : listed.length ≤ refs.length := by
    rw [describeAll_eq h]
    exact List.length_filterMap_le _ _
  have hadd : ∀ (m : Model) (ms : List Model), (describeTable m ms).length ≤ ms.length + 1 := by
    intro m ms
    induction ms with
    | nil => simp [describeTable]
    | cons known rest ih =>
      rw [describeTable]
      split
      · simp
      · rw [List.length_cons, List.length_cons]
        omega
  have hfold : ∀ ms known : List Model,
      (ms.foldl (fun known m => describeTable m known) known).length ≤
        known.length + ms.length := by
    intro ms
    induction ms with
    | nil => simp
    | cons m ms ih =>
      intro known
      have h₁ := ih (describeTable m known)
      have h₂ := hadd m known
      rw [List.foldl_cons, List.length_cons]
      omega
  have := hfold listed []
  rw [describedTables]
  simp only [List.length_nil] at this
  omega

/-- With room for every reference and every handle the walk never gives up. -/
theorem orderWithin_eq {depth : Nat} (hdepth : refs.length + reg.entries.size < depth) :
    orderWithin reg discover depth refs = ExceptT.mk (some (order reg discover refs)) := by
  unfold orderWithin order
  cases hl : describeAll reg refs with
  | error e => rfl
  | ok listed =>
    have hlen : ((describedTables listed).map (·.table) ++ reg.tables).length < depth := by
      have h₁ := length_describedTables_le hl
      have h₂ : reg.tables.length ≤ reg.entries.size := by
        rw [← Array.length_toList]
        exact List.length_filterMap_le _ _
      rw [List.length_append, List.length_map]
      omega
    have hreg : ∀ s n, reg.describe s = .ok n →
        n.table ∈ (describedTables listed).map (·.table) ++ reg.tables :=
      fun s n hn => List.mem_append_right _ (Registry.mem_tables hn)
    have hrun := Walk.placeAllWithin_eq discover hreg hlen
      (List.subset_append_left _ _) (start_winv hl discover reg.tables).inAll
    show (((describedTables listed).map (·.table)).foldlM
      (Walk.placeWithin reg discover depth []) { known := describedTables listed } >>=
        fun w => pure (orderOf refs w)) = _
    rw [hrun]
    dsimp only [describedTables]
    cases ((listed.foldl (fun known m => describeTable m known) []).map (·.table)).foldlM
        (Walk.place reg discover
          ((listed.foldl (fun known m => describeTable m known) []).map (·.table) ++ reg.tables))
        { known := listed.foldl (fun known m => describeTable m known) [] } with
    | error e => rfl
    | ok w => rfl

/-- **Discovery ends, and finds a closure.**  With room for every reference and every handle,
placing the tables gives up on none, and the order is the one found.  Its models have different
tables.  Each listed table is there with the description that is listed last; where a key of a model
carries a handle, the table that it refers to is there or the one that the handle describes; and
every table that is not listed was found behind handles, along a chain that starts at a listed
model. -/
theorem order_closed (reg : Registry) (refs : List ModelRef) :
    (∀ depth, refs.length + reg.entries.size < depth →
      orderWithin reg true depth refs = ExceptT.mk (some (order reg true refs))) ∧
    ∀ out, order reg true refs = .ok out →
      ∃ placed : List Model, out = (refs.filterMap (·.literal?)).map .table ++ placed.map .model ∧
        (placed.map (·.table)).Nodup ∧
        (∀ t, Listed reg refs t → t ∈ placed.map (·.table)) ∧
        (∀ m ∈ placed, Listed reg refs m.table → LastListed reg refs m) ∧
        (∀ x ∈ placed, ∀ k ∈ x.dependencies, ∀ s, k.referencedModel = some s →
          k.referencedTable ∈ placed.map (·.table) ∨
            ∃ n, reg.describe s = .ok n ∧ n.table ∈ placed.map (·.table)) ∧
        ∀ b ∈ placed, ¬ Listed reg refs b.table →
          ∃ a ∈ placed, LastListed reg refs a ∧
            TransGen (Walk.Finds reg (Listed reg refs) placed) a b := by
  refine ⟨fun depth hdepth => orderWithin_eq hdepth, fun out h => ?_⟩
  obtain ⟨listed, w, hl, hrun, rfl⟩ := order_run h
  have hw := Finished.of_run hl hrun
  obtain ⟨_, hinv⟩ := hw.inv
  have hplaced : ∀ {t : String}, w.knows t = true → t ∈ w.placed.map (·.table) := by
    intro t ht
    obtain ⟨m, hm, hmt⟩ := Walk.hasPlaced_iff.mp (hw.complete t ht)
    exact List.mem_map.mpr ⟨m, hm, hmt⟩
  refine ⟨w.placed, rfl, hinv.placedOnce, fun t ht => hplaced (hinv.knowsBase t ht), ?_, ?_, ?_⟩
  · exact fun m hm hlist => hw.lastListed_iff.mpr ⟨hm, hlist⟩
  · intro x hx k hk s hs
    obtain ⟨-, hfollowed⟩ := Walk.keeps_followed.placeAll _ (by simp) hrun
    rcases hfollowed x hx k hk with hkn | ⟨s', n, hs', hn, hkn⟩ | hno
    · exact Or.inl (hplaced hkn)
    · cases hs.symm.trans hs'
      exact Or.inr ⟨n, hn, hplaced hkn⟩
    · exact absurd hno (by simp [hs])
  · intro b hb hnot
    have hstart := start_winv hl true reg.tables
    have hfound : Walk.Found reg (Listed reg refs) { known := describedTables listed } :=
      ⟨hstart.knowsBase, fun m hm =>
        Or.inl ((mem_describedTables hl).mp (List.mem_map.mpr ⟨m, hm, rfl⟩))⟩
    obtain ⟨-, -, hchain⟩ := Walk.keeps_found.placeAll _ hfound hrun
    rcases hchain b (hinv.placedKnown hb) with hlist | ⟨a, ha, hlist, hab⟩
    · exact absurd hlist hnot
    · have hsub : w.known ⊆ w.placed := fun m hm => hw.placed hm
      exact ⟨a, hw.placed ha, hw.lastListed_iff.mpr ⟨hw.placed ha, hlist⟩,
        TransGen.mono (fun _ _ => Walk.Finds.mono hsub) _ _ hab⟩

end

/-! ## Two models that discover each other -/

/-- Users and teams, with handles on each other. -/
def crewRegistry : Registry :=
  ⟨#[.ok (linked "users" [("teams", some ⟨"Team", 1⟩)]),
    .ok (linked "teams" [("users", some ⟨"User", 0⟩)])]⟩

/-- Orders with a handle on users. -/
def crewOrders : Model := linked "orders" [("users", some ⟨"User", 0⟩)]

/-- Only orders are listed.  The users are found behind their handle, and the teams behind that of
the users; the handle of the teams leads back. -/
theorem order_closed_crew :
    order crewRegistry true [.model crewOrders] =
        .ok [.model (linked "teams" [("users", some ⟨"User", 0⟩)]),
          .model (linked "users" [("teams", some ⟨"Team", 1⟩)]), .model crewOrders] ∧
      orderWithin crewRegistry true 4 [.model crewOrders] =
        ExceptT.mk (some (order crewRegistry true [.model crewOrders])) ∧
      ∃ a, LastListed crewRegistry [.model crewOrders] a ∧
        TransGen (Walk.Finds crewRegistry (Listed crewRegistry [.model crewOrders])
          [linked "teams" [("users", some ⟨"User", 0⟩)],
            linked "users" [("teams", some ⟨"Team", 1⟩)], crewOrders])
          a (linked "teams" [("users", some ⟨"User", 0⟩)]) := by
  have h : order crewRegistry true [.model crewOrders] =
      .ok [.model (linked "teams" [("users", some ⟨"User", 0⟩)]),
        .model (linked "users" [("teams", some ⟨"Team", 1⟩)]), .model crewOrders] := by
    with_unfolding_all rfl
  obtain ⟨hends, hclosed⟩ := order_closed crewRegistry [.model crewOrders]
  refine ⟨h, hends 4 (by decide), ?_⟩
  obtain ⟨placed, hout, -, -, -, -, hchain⟩ := hclosed _ h
  have hplaced : placed = [linked "teams" [("users", some ⟨"User", 0⟩)],
      linked "users" [("teams", some ⟨"Team", 1⟩)], crewOrders] := by
    have hmap : placed.map ResolvedModel.model = [linked "teams" [("users", some ⟨"User", 0⟩)],
        linked "users" [("teams", some ⟨"Team", 1⟩)], crewOrders].map ResolvedModel.model :=
      hout.symm
    exact List.map_injective_iff.mpr (fun _ _ h => ResolvedModel.model.inj h) hmap
  subst hplaced
  have hnot : ¬ Listed crewRegistry [.model crewOrders] "teams" := by
    rintro ⟨ref, hr, m, hm, hmt⟩
    cases List.mem_singleton.mp hr
    cases hm
    exact absurd hmt (by decide)
  obtain ⟨a, -, hlast, hfound⟩ :=
    hchain (linked "teams" [("users", some ⟨"User", 0⟩)]) (by simp) hnot
  exact ⟨a, hlast, hfound⟩

end SchemaMigration
