import Mathlib.Logic.Relation
import SchemaMigration.Migration.Order
import SchemaMigration.Proofs.Except

/-!
# The walk over the tables: what placing a table keeps

`Walk.place` recurses on the tables that are not on the way to the present one.  Two facts carry
every statement about the order it finds:

> `WInv`: tables are described once and placed once, only known models are placed, and what their
> foreign keys foresee is known.

> `OnWay`: each table that is on the way leads to the present table.

A table on the way is the only one that the walk passes over without placing it, and by `OnWay` the
table that passes it over is one that it leads to.  So the known tables that a model refers to are
placed or lead back to it when its foreign keys have been visited (`visitAll_stretch`).  `place_inv`
carries both facts through the recursion and `placeAll_inv` along the roots.
-/

namespace SchemaMigration

open Relation (ReflTransGen)

/-- A foreign key leads to the table that it refers to and, when models are discovered, to the table
that its handle describes. -/
def ForeignKey.LeadsTo (reg : Registry) (discover : Bool) (k : ForeignKey) (t : String) : Prop :=
  k.referencedTable = t ∨
    discover = true ∧ ∃ s m, k.referencedModel = some s ∧ reg.describe s = .ok m ∧ m.table = t

/-- A foreign key foresees the table that it refers to when that table is known from the start
(`base`), or when discovery finds it behind the key's own handle. -/
def ForeignKey.Foresees (reg : Registry) (discover : Bool) (base : String → Prop)
    (k : ForeignKey) : Prop :=
  base k.referencedTable ∨
    discover = true ∧ ∃ s, k.referencedModel = some s ∧
      ∀ m, reg.describe s = .ok m → m.table = k.referencedTable

/-- Table `t` leads to table `u` through a foreign key of the model of `t`; both are described among
the models `ms`. -/
def Leads (reg : Registry) (discover : Bool) (ms : List Model) (t u : String) : Prop :=
  (∃ a ∈ ms, a.table = t ∧ ∃ k ∈ a.dependencies, k.LeadsTo reg discover u) ∧
    ∃ b ∈ ms, b.table = u

theorem Leads.mono {reg : Registry} {discover : Bool} {ms ns : List Model} (h : ms ⊆ ns)
    {t u : String} (hl : Leads reg discover ms t u) : Leads reg discover ns t u := by
  obtain ⟨⟨a, ha, hat, hk⟩, b, hb, hbu⟩ := hl
  exact ⟨⟨a, h ha, hat, hk⟩, b, h hb, hbu⟩

namespace Walk

variable {reg : Registry} {discover : Bool} {w w₁ w₂ w₃ : Walk} {t : String}
variable {base : String → Prop} {all fresh : List String}

/-! ## Descriptions and places -/

theorem knows_iff : w.knows t = true ↔ ∃ m ∈ w.known, m.table = t := by
  simp [knows, List.any_eq_true]

theorem hasPlaced_iff : w.hasPlaced t = true ↔ ∃ m ∈ w.placed, m.table = t := by
  simp [hasPlaced, List.any_eq_true]

theorem mem_of_model? {m : Model} (h : w.model? t = some m) : m ∈ w.known ∧ m.table = t :=
  ⟨List.mem_of_find?_eq_some h, by simpa using List.find?_some h⟩

theorem model?_of_knows (h : w.knows t = true) : ∃ m, w.model? t = some m := by
  obtain ⟨m, hm, hmt⟩ := knows_iff.mp h
  have hs : (w.model? t).isSome = true := by
    rw [model?, List.find?_isSome]
    exact ⟨m, hm, by simpa using hmt⟩
  exact Option.isSome_iff_exists.mp hs

/-- The walk goes on: descriptions and places are added behind those that are there. -/
structure Extends (w₁ w₂ : Walk) : Prop where
  known : w₁.known <+: w₂.known
  placed : w₁.placed <+: w₂.placed

theorem Extends.refl (w : Walk) : Extends w w := ⟨List.prefix_rfl, List.prefix_rfl⟩

theorem Extends.trans (h₁ : Extends w₁ w₂) (h₂ : Extends w₂ w₃) : Extends w₁ w₃ :=
  ⟨h₁.known.trans h₂.known, h₁.placed.trans h₂.placed⟩

theorem Extends.knows (h : Extends w₁ w₂) (hk : w₁.knows t = true) : w₂.knows t = true := by
  obtain ⟨m, hm, hmt⟩ := knows_iff.mp hk
  exact knows_iff.mpr ⟨m, h.known.subset hm, hmt⟩

theorem Extends.hasPlaced (h : Extends w₁ w₂) (hp : w₁.hasPlaced t = true) :
    w₂.hasPlaced t = true := by
  obtain ⟨m, hm, hmt⟩ := hasPlaced_iff.mp hp
  exact hasPlaced_iff.mpr ⟨m, h.placed.subset hm, hmt⟩

/-- One table reaches another through foreign keys of the known models. -/
abbrev Reaches (reg : Registry) (discover : Bool) (w : Walk) : String → String → Prop :=
  ReflTransGen (Leads reg discover w.known)

theorem Extends.reaches (h : Extends w₁ w₂) {u : String} (hr : w₁.Reaches reg discover t u) :
    w₂.Reaches reg discover t u :=
  ReflTransGen.mono (fun _ _ hl => Leads.mono h.known.subset hl) _ _ hr

/-! ## Learning and following -/

theorem extends_learn (w : Walk) (m : Model) : Extends w (w.learn m) := by
  unfold learn
  split
  · exact Extends.refl w
  · exact ⟨List.prefix_append _ _, List.prefix_rfl⟩

theorem placed_learn (w : Walk) (m : Model) : (w.learn m).placed = w.placed := by
  unfold learn
  split <;> rfl

theorem knows_learn (w : Walk) (m : Model) : (w.learn m).knows m.table = true := by
  unfold learn
  split
  · next h => exact h
  · exact knows_iff.mpr ⟨m, by simp, rfl⟩

/-- What is known after learning was known before or is the description learned. -/
theorem mem_learn {m n : Model} (h : n ∈ (w.learn m).known) : n ∈ w.known ∨ n = m := by
  unfold learn at h
  split at h
  · exact Or.inl h
  · exact (List.mem_append.mp h).imp_right List.mem_singleton.mp

/-- The three ways in which a foreign key is followed: to its known table, to the model behind its
handle, or nowhere. -/
theorem follow_cases {k : ForeignKey} {next : Option String}
    (h : follow reg discover w k = .ok (w₁, next)) :
    (w.knows k.referencedTable = true ∧ w₁ = w ∧ next = some k.referencedTable) ∨
    (w.knows k.referencedTable = false ∧ discover = true ∧ ∃ s m, k.referencedModel = some s ∧
      reg.describe s = .ok m ∧ w₁ = w.learn m ∧ next = some m.table) ∨
    (w.knows k.referencedTable = false ∧ (discover = false ∨ k.referencedModel = none) ∧
      w₁ = w ∧ next = none) := by
  unfold follow at h
  split at h
  · next hk =>
    cases h
    exact Or.inl ⟨hk, rfl, rfl⟩
  · next hk =>
    rw [Bool.not_eq_true] at hk
    split at h
    · next hs =>
      cases h
      exact Or.inr (Or.inr ⟨hk, Or.inr hs, rfl, rfl⟩)
    · next s hs =>
      split at h
      · next hd =>
        split at h
        · next m hm =>
          cases h
          exact Or.inr (Or.inl ⟨hk, hd, s, m, hs, hm, rfl, rfl⟩)
        · cases h
      · next hd =>
        cases h
        exact Or.inr (Or.inr ⟨hk, Or.inl (by simpa using hd), rfl, rfl⟩)

/-! ## The invariant -/

/-- A model that discovery found behind the handle of a foreign key of a known model. -/
def Discovered (reg : Registry) (discover : Bool) (w : Walk) (m : Model) : Prop :=
  discover = true ∧ ∃ a ∈ w.known, ∃ k ∈ a.dependencies, ∃ s,
    k.referencedModel = some s ∧ reg.describe s = .ok m

theorem Extends.discovered {m : Model} (h : Extends w₁ w₂) (hm : w₁.Discovered reg discover m) :
    w₂.Discovered reg discover m := by
  obtain ⟨hd, a, ha, hk⟩ := hm
  exact ⟨hd, a, h.known.subset ha, hk⟩

/-- The walk's invariant, for the tables `base` known from the start and the tables `all` that can
become known: tables are described once, at the start or by discovery, and placed once; only known
models are placed, and what their foreign keys foresee is known. -/
structure WInv (reg : Registry) (discover : Bool) (base : String → Prop) (all : List String)
    (w : Walk) : Prop where
  knowsBase : ∀ t, base t → w.knows t = true
  inAll : ∀ m ∈ w.known, m.table ∈ all
  origin : ∀ m ∈ w.known, base m.table ∨ w.Discovered reg discover m
  knownOnce : (w.known.map (·.table)).Nodup
  placedKnown : w.placed ⊆ w.known
  placedOnce : (w.placed.map (·.table)).Nodup
  foreseen : ∀ a ∈ w.placed, ∀ k ∈ a.dependencies, k.Foresees reg discover base →
    w.knows k.referencedTable = true

/-- Every table outside `fresh` is known, and it is placed or leads to the present table `t`. -/
def OnWay (reg : Registry) (discover : Bool) (all fresh : List String) (t : String) (w : Walk) :
    Prop :=
  ∀ u ∈ all, u ∉ fresh →
    w.knows u = true ∧ (w.hasPlaced u = true ∨ w.Reaches reg discover u t)

theorem onWay_extends (h : Extends w₁ w₂)
    (hw : OnWay reg discover all fresh t w₁) : OnWay reg discover all fresh t w₂ := by
  intro u hu hf
  obtain ⟨hk, hp⟩ := hw u hu hf
  exact ⟨h.knows hk, hp.imp h.hasPlaced h.reaches⟩

theorem nodup_tables_concat {ms : List Model} {m : Model} (h : (ms.map (·.table)).Nodup)
    (hm : ∀ n ∈ ms, n.table ≠ m.table) : ((ms ++ [m]).map (·.table)).Nodup := by
  rw [List.map_append, List.nodup_append]
  refine ⟨h, by simp, ?_⟩
  intro t ht u hu
  obtain ⟨n, hn, rfl⟩ := List.mem_map.mp ht
  rw [List.map_singleton, List.mem_singleton] at hu
  rw [hu]
  exact hm n hn

/-- Learning a discovered description keeps the invariant. -/
theorem learn_winv {m : Model} (hm : m.table ∈ all)
    (hd : w.Discovered reg discover m) (hw : WInv reg discover base all w) :
    WInv reg discover base all (w.learn m) := by
  have hext := extends_learn w m
  refine ⟨fun t ht => hext.knows (hw.knowsBase t ht), ?_, ?_, ?_, ?_, ?_, ?_⟩
  · intro n hn
    rcases mem_learn hn with hn | rfl
    · exact hw.inAll n hn
    · exact hm
  · intro n hn
    rcases mem_learn hn with hn | rfl
    · exact (hw.origin n hn).imp_right hext.discovered
    · exact Or.inr (hext.discovered hd)
  · unfold learn
    split
    · exact hw.knownOnce
    · next hk =>
      exact nodup_tables_concat hw.knownOnce fun n hn hnt => hk (knows_iff.mpr ⟨n, hn, hnt⟩)
  · rw [placed_learn]
    exact fun n hn => hext.known.subset (hw.placedKnown hn)
  · rw [placed_learn]
    exact hw.placedOnce
  · rw [placed_learn]
    exact fun a ha k hk hf => hext.knows (hw.foreseen a ha k hk hf)

/-- Placing a known model keeps the invariant when it is not placed yet and what its foreign keys
foresee is known. -/
theorem push_winv {m : Model} (hm : m ∈ w.known)
    (hp : w.hasPlaced m.table = false)
    (hk : ∀ k ∈ m.dependencies, k.Foresees reg discover base → w.knows k.referencedTable = true)
    (hw : WInv reg discover base all w) :
    WInv reg discover base all { w with placed := w.placed ++ [m] } := by
  refine ⟨hw.knowsBase, hw.inAll, hw.origin, hw.knownOnce, ?_, ?_, ?_⟩
  · intro n hn
    rcases List.mem_append.mp hn with hn | hn
    · exact hw.placedKnown hn
    · rw [List.mem_singleton.mp hn]
      exact hm
  · refine nodup_tables_concat hw.placedOnce fun n hn hnt => ?_
    exact absurd (hasPlaced_iff.mpr ⟨n, hn, hnt⟩) (by simp [hp])
  · intro a ha
    rcases List.mem_append.mp ha with ha | ha
    · exact hw.foreseen a ha
    · rw [List.mem_singleton.mp ha]
      exact hk

/-! ## Placing -/

/-- What a stretch of the walk does when it places tables of `fresh` only: the invariant holds at
its end, the walk goes on, and each table that it learns is placed. -/
structure Stretch (reg : Registry) (discover : Bool) (base : String → Prop)
    (all fresh : List String) (w₁ w₂ : Walk) : Prop where
  inv : WInv reg discover base all w₂
  ext : Extends w₁ w₂
  learned : ∀ t, w₂.knows t = true → w₁.knows t = true ∨ w₂.hasPlaced t = true
  within : ∀ m ∈ w₂.placed, m ∈ w₁.placed ∨ m.table ∈ fresh

theorem Stretch.refl (hw : WInv reg discover base all w) :
    Stretch reg discover base all fresh w w :=
  ⟨hw, Extends.refl w, fun _ => Or.inl, fun _ => Or.inl⟩

theorem Stretch.trans (h₁ : Stretch reg discover base all fresh w₁ w₂)
    (h₂ : Stretch reg discover base all fresh w₂ w₃) :
    Stretch reg discover base all fresh w₁ w₃ := by
  refine ⟨h₂.inv, h₁.ext.trans h₂.ext, ?_, ?_⟩
  · intro t ht
    rcases h₂.learned t ht with h | h
    · exact (h₁.learned t h).imp_right h₂.ext.hasPlaced
    · exact Or.inr h
  · intro m hm
    rcases h₂.within m hm with h | h
    · exact h₁.within m h
    · exact Or.inr h

/-- Placing a table, given that the tables of `fresh` are not on the way, is a stretch of the walk;
after it the table is placed, unless it was on the way. -/
def PlacesWell (reg : Registry) (discover : Bool) (base : String → Prop) (all fresh : List String) :
    Prop :=
  ∀ (w w' : Walk) (t : String), WInv reg discover base all w → OnWay reg discover all fresh t w →
    w.knows t = true → place reg discover fresh w t = .ok w' →
    Stretch reg discover base all fresh w w' ∧ (w'.hasPlaced t = true ∨ t ∉ fresh)

/-- Follows one foreign key: the table that it leads to, if any, is placed. -/
def visit (reg : Registry) (discover : Bool) (fresh : List String) (w : Walk) (k : ForeignKey) :
    Except SchemaError Walk :=
  match follow reg discover w k with
  | .error e => .error e
  | .ok (w, none) => .ok w
  | .ok (w, some next) => place reg discover fresh w next

/-- Placing a table that is neither placed nor on the way visits its foreign keys one by one. -/
theorem place_fresh {m : Model} (hp : w.hasPlaced t = false) (hf : t ∈ fresh)
    (hm : w.model? t = some m) :
    place reg discover fresh w t =
      match m.dependencies.foldlM (visit reg discover (others t fresh)) w with
      | .error e => .error e
      | .ok w => .ok { w with placed := w.placed ++ [m] } := by
  rw [place, if_neg (by simp [hp]), dif_pos hf]
  simp only [hm]
  rfl

theorem mem_others {u : String} : u ∈ others t fresh ↔ u ∈ fresh ∧ u ≠ t := by
  simp [others]

/-- Where a foreign key of the present table leads, the present table is on the way as well. -/
theorem onWay_next {m : Model} {k : ForeignKey} {next : String}
    (hw : OnWay reg discover all fresh m.table w) (hm : m ∈ w.known) (hk : k ∈ m.dependencies)
    (hl : k.LeadsTo reg discover next) (hn : w.knows next = true) :
    OnWay reg discover all (others m.table fresh) next w := by
  have hedge : Leads reg discover w.known m.table next :=
    ⟨⟨m, hm, rfl, k, hk, hl⟩, knows_iff.mp hn⟩
  intro u hu hf
  by_cases hut : u = m.table
  · rw [hut]
    exact ⟨knows_iff.mpr ⟨m, hm, rfl⟩, Or.inr (ReflTransGen.single hedge)⟩
  · obtain ⟨hku, hpu⟩ := hw u hu fun h => hf (mem_others.mpr ⟨h, hut⟩)
    exact ⟨hku, hpu.imp_right fun h => h.tail hedge⟩

/-- A table that is passed over on the way from the present one is placed or leads to it. -/
theorem placed_or_reaches {u : String}
    (hw : OnWay reg discover all fresh t w) (hu : u ∈ all) (hf : u ∉ others t fresh) :
    w.hasPlaced u = true ∨ w.Reaches reg discover u t := by
  by_cases hut : u = t
  · rw [hut]
    exact Or.inr ReflTransGen.refl
  · exact (hw u hu fun h => hf (mem_others.mpr ⟨h, hut⟩)).2

/-- What a foreign key of the present table `m.table` leads to is known then, with the present table
on the way to it, and the invariant holds. -/
theorem follow_next {m : Model} {k : ForeignKey} {next : String}
    (hreg : ∀ s n, reg.describe s = .ok n → n.table ∈ all)
    (hm : m ∈ w.known) (hk : k ∈ m.dependencies) (hinv : WInv reg discover base all w)
    (hway : OnWay reg discover all fresh m.table w)
    (h : follow reg discover w k = .ok (w₁, some next)) :
    WInv reg discover base all w₁ ∧ Extends w w₁ ∧ w₁.knows next = true ∧
      OnWay reg discover all (others m.table fresh) next w₁ := by
  rcases follow_cases h with ⟨hkn, rfl, hn⟩ | ⟨-, hd, s, n, hs, hdesc, rfl, hn⟩ | ⟨-, -, -, hn⟩
  · cases hn
    exact ⟨hinv, Extends.refl w₁, hkn, onWay_next hway hm hk (Or.inl rfl) hkn⟩
  · cases hn
    have hext := extends_learn w n
    have hdisc : w.Discovered reg discover n := ⟨hd, m, hm, k, hk, s, hs, hdesc⟩
    refine ⟨learn_winv (hreg s n hdesc) hdisc hinv, hext, knows_learn w n, ?_⟩
    exact onWay_next (onWay_extends hext hway) (hext.known.subset hm) hk
      (Or.inr ⟨hd, s, n, hs, hdesc, rfl⟩) (knows_learn w n)
  · cases hn

/-- Following a foreign key of the present table `m.table` is a stretch of the walk.  What the key
foresees is known at its end, and the table that the key refers to is placed or leads back if it is
known. -/
theorem visit_stretch {w' : Walk} {m : Model} {k : ForeignKey}
    (hreg : ∀ s n, reg.describe s = .ok n → n.table ∈ all)
    (ih : PlacesWell reg discover base all (others m.table fresh))
    (hm : m ∈ w.known) (hk : k ∈ m.dependencies) (hinv : WInv reg discover base all w)
    (hway : OnWay reg discover all fresh m.table w)
    (h : visit reg discover (others m.table fresh) w k = .ok w') :
    Stretch reg discover base all (others m.table fresh) w w' ∧
      (k.Foresees reg discover base → w'.knows k.referencedTable = true) ∧
      (w'.knows k.referencedTable = true → w'.hasPlaced k.referencedTable = true ∨
        w'.Reaches reg discover k.referencedTable m.table) := by
  unfold visit at h
  split at h
  · cases h
  · next v hv =>
    cases h
    -- The key leads nowhere: its table is not known, and no handle is followed.
    rcases follow_cases hv with ⟨_, _, hn⟩ | ⟨_, _, _, _, _, _, _, hn⟩ | ⟨hkn, hno, rfl, -⟩
    · cases hn
    · cases hn
    · refine ⟨Stretch.refl hinv, ?_, fun hkn' => absurd hkn' (by simp [hkn])⟩
      rintro (hb | ⟨hd, s, hs, -⟩)
      · exact hinv.knowsBase _ hb
      · rcases hno with hd' | hs'
        · rw [hd] at hd'
          cases hd'
        · rw [hs] at hs'
          cases hs'
  · next v next hv =>
    obtain ⟨hinvv, hext, hkv, hwayv⟩ := follow_next hreg hm hk hinv hway hv
    obtain ⟨hst, hp⟩ := ih _ _ _ hinvv hwayv hkv h
    rcases follow_cases hv with ⟨hkn, rfl, hn⟩ | ⟨hkn, hd, s, n, hs, hdesc, rfl, hn⟩ | ⟨_, _, _, hn⟩
    · -- The referenced table is known.
      cases hn
      refine ⟨hst, fun _ => hst.ext.knows hkn, fun _ => ?_⟩
      rcases hp with hp | hp
      · exact Or.inl hp
      · obtain ⟨n, hn, hnt⟩ := knows_iff.mp hkn
        exact placed_or_reaches (onWay_extends hst.ext hway) (hnt ▸ hinv.inAll n hn) hp
    · -- The model behind the handle is learned, and placed at once if it is new.
      cases hn
      have hlearned : ∀ u, w'.knows u = true → w.knows u = true ∨ w'.hasPlaced u = true := by
        intro u hu
        rcases hst.learned u hu with h₁ | h₁
        · obtain ⟨o, ho, rfl⟩ := knows_iff.mp h₁
          rcases mem_learn ho with h₂ | rfl
          · exact Or.inl (knows_iff.mpr ⟨o, h₂, rfl⟩)
          · rcases hp with hp | hp
            · exact Or.inr hp
            · -- A table on the way was known before.
              by_cases hom : o.table = m.table
              · exact Or.inl (knows_iff.mpr ⟨m, hm, hom.symm⟩)
              · exact Or.inl (hway _ (hreg s o hdesc) fun hf => hp (mem_others.mpr ⟨hf, hom⟩)).1
        · exact Or.inr h₁
      refine ⟨⟨hst.inv, hext.trans hst.ext, hlearned, ?_⟩, ?_, fun hkn' => ?_⟩
      · intro o ho
        rw [← placed_learn w n]
        exact hst.within o ho
      · rintro (hb | ⟨-, s', hs', hm'⟩)
        · exact hst.inv.knowsBase _ hb
        · rw [hs] at hs'
          cases hs'
          rw [← hm' n hdesc]
          exact hst.ext.knows (knows_learn w n)
      · exact Or.inl ((hlearned _ hkn').resolve_left (by simp [hkn]))
    · cases hn

/-- Following foreign keys of the present table one after the other: what they foresee is known at
the end, and the tables they refer to are placed or lead back as far as they are known. -/
theorem visitAll_stretch {m : Model}
    (hreg : ∀ s n, reg.describe s = .ok n → n.table ∈ all)
    (ih : PlacesWell reg discover base all (others m.table fresh)) :
    ∀ (ks : List ForeignKey) {w w' : Walk}, ks ⊆ m.dependencies → m ∈ w.known →
      WInv reg discover base all w → OnWay reg discover all fresh m.table w →
      ks.foldlM (visit reg discover (others m.table fresh)) w = .ok w' →
      Stretch reg discover base all (others m.table fresh) w w' ∧
        ∀ k ∈ ks, (k.Foresees reg discover base → w'.knows k.referencedTable = true) ∧
          (w'.knows k.referencedTable = true → w'.hasPlaced k.referencedTable = true ∨
            w'.Reaches reg discover k.referencedTable m.table) := by
  intro ks
  induction ks with
  | nil =>
    intro w w' _ _ hinv _ h
    cases h
    exact ⟨Stretch.refl hinv, fun k hk => absurd hk (by simp)⟩
  | cons k ks ihks =>
    intro w w' hks hm hinv hway h
    obtain ⟨v, hv, h⟩ := foldlM_cons_ok.mp h
    have hmem : k ∈ m.dependencies := hks (List.mem_cons_self ..)
    obtain ⟨h₁, hf₁, hp₁⟩ := visit_stretch hreg ih hm hmem hinv hway hv
    obtain ⟨h₂, hk₂⟩ := ihks (fun x hx => hks (List.mem_cons_of_mem _ hx))
      (h₁.ext.known.subset hm) h₁.inv (onWay_extends h₁.ext hway) h
    refine ⟨h₁.trans h₂, fun x hx => ?_⟩
    rcases List.mem_cons.mp hx with rfl | hx
    · refine ⟨fun hf => h₂.ext.knows (hf₁ hf), fun hkn => ?_⟩
      -- What became known after the key was followed is placed by now.
      rcases h₂.learned _ hkn with hkn | hp
      · exact (hp₁ hkn).imp h₂.ext.hasPlaced h₂.ext.reaches
      · exact Or.inl hp
    · exact hk₂ x hx

/-- **Placing keeps the invariant.**  The induction is on the number of tables that are not on the
way: every recursive call has one table less of them. -/
theorem place_inv (hreg : ∀ s n, reg.describe s = .ok n → n.table ∈ all) (fresh : List String) :
    PlacesWell reg discover base all fresh := by
  induction hlen : fresh.length using Nat.strongRecOn generalizing fresh with
  | _ n ih =>
    intro w w' t hinv hway hk h
    cases hp : w.hasPlaced t with
    | true =>
      rw [place, if_pos hp] at h
      cases h
      exact ⟨Stretch.refl hinv, Or.inl hp⟩
    | false =>
      by_cases hf : t ∈ fresh
      · obtain ⟨m, hm⟩ := model?_of_knows hk
        obtain ⟨hmk, rfl⟩ := mem_of_model? hm
        rw [place_fresh hp hf hm] at h
        split at h
        · cases h
        · next v hv =>
          cases h
          have ihm := ih _ (hlen ▸ length_others_lt hf) (others m.table fresh) rfl
          obtain ⟨hst, hks⟩ := visitAll_stretch hreg ihm _ (fun _ hx => hx) hmk hinv hway hv
          -- Only tables off the way were placed meanwhile, and the present one is not among them.
          have hpv : v.hasPlaced m.table = false := by
            rw [← Bool.not_eq_true]
            intro hpm
            obtain ⟨o, ho, hot⟩ := hasPlaced_iff.mp hpm
            rcases hst.within o ho with h₁ | h₁
            · exact absurd (hasPlaced_iff.mpr ⟨o, h₁, hot⟩) (by simp [hp])
            · exact (mem_others.mp h₁).2 hot
          have hself : ({ v with placed := v.placed ++ [m] } : Walk).hasPlaced m.table = true :=
            hasPlaced_iff.mpr ⟨m, by simp, rfl⟩
          have hext : Extends v { v with placed := v.placed ++ [m] } :=
            ⟨List.prefix_rfl, List.prefix_append _ _⟩
          have hpush := push_winv (hst.ext.known.subset hmk) hpv (fun k hk => (hks k hk).1) hst.inv
          refine ⟨⟨hpush, hst.ext.trans hext, ?_, ?_⟩, Or.inl hself⟩
          · intro u hu
            exact (hst.learned u hu).imp_right hext.hasPlaced
          · intro o ho
            rcases List.mem_append.mp ho with ho | ho
            · exact (hst.within o ho).imp_right fun h₁ => (mem_others.mp h₁).1
            · rw [List.mem_singleton.mp ho]
              exact Or.inr hf
      · rw [place, if_neg (by simp [hp]), dif_neg hf] at h
        cases h
        exact ⟨Stretch.refl hinv, Or.inr hf⟩

/-- Placing known tables one after the other, with no table on the way at the start of each: the
invariant holds at the end, and all of them are placed. -/
theorem placeAll_inv (hreg : ∀ s n, reg.describe s = .ok n → n.table ∈ all) :
    ∀ (ts : List String) {w w' : Walk}, (∀ t ∈ ts, w.knows t = true) →
      WInv reg discover base all w → ts.foldlM (place reg discover all) w = .ok w' →
      Stretch reg discover base all all w w' ∧ ∀ t ∈ ts, w'.hasPlaced t = true := by
  intro ts
  induction ts with
  | nil =>
    intro w w' _ hinv h
    cases h
    exact ⟨Stretch.refl hinv, fun t ht => absurd ht (by simp)⟩
  | cons t ts ih =>
    intro w w' hts hinv h
    obtain ⟨v, hv, h⟩ := foldlM_cons_ok.mp h
    have hkt : w.knows t = true := hts t (List.mem_cons_self ..)
    obtain ⟨h₁, hp⟩ := place_inv hreg all w v t hinv (fun u hu hf => absurd hu hf) hkt hv
    obtain ⟨h₂, hps⟩ := ih (fun u hu => h₁.ext.knows (hts u (List.mem_cons_of_mem _ hu))) h₁.inv h
    obtain ⟨m, hm, hmt⟩ := knows_iff.mp hkt
    refine ⟨h₁.trans h₂, fun u hu => ?_⟩
    rcases List.mem_cons.mp hu with rfl | hu
    · exact h₂.ext.hasPlaced (hp.resolve_right fun hf => hf (hmt ▸ hinv.inAll m hm))
    · exact hps u hu

end Walk

end SchemaMigration
