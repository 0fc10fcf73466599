import SchemaMigration.Proofs.Order.Walk

/-!
# The moment at which a model is placed

Which tables a model comes behind is decided when it is placed: by what the walk knows at that
moment.

> `PlacedOn a v`: in the course of placing a table, the model `a` is placed on the walk `v`.

Whatever is placed is placed on some walk (`exists_placedOn`).  On that walk each known table that
the model refers to is placed already or leads back to it, and the places that follow come behind
(`PlacedOn.stage`).
-/

namespace SchemaMigration

namespace Walk

variable {reg : Registry} {discover : Bool} {w w' v : Walk} {a : Model}

/-- In the course of placing table `t`, model `a` is placed on the walk `v`: it is the model of `t`,
after its foreign keys were visited, or it is placed on the way, where one of them leads. -/
inductive PlacedOn (reg : Registry) (discover : Bool) (a : Model) (v : Walk) :
    List String → Walk → String → Prop
  | here {fresh : List String} {w : Walk} {t : String} : w.hasPlaced t = false → t ∈ fresh →
      w.model? t = some a → a.dependencies.foldlM (visit reg discover (others t fresh)) w = .ok v →
      PlacedOn reg discover a v fresh w t
  | deeper {fresh : List String} {w u u' : Walk} {t next : String} {m : Model}
      {before after : List ForeignKey} {k : ForeignKey} : w.hasPlaced t = false → t ∈ fresh →
      w.model? t = some m → m.dependencies = before ++ k :: after →
      before.foldlM (visit reg discover (others t fresh)) w = .ok u →
      follow reg discover u k = .ok (u', some next) →
      PlacedOn reg discover a v (others t fresh) u' next →
      PlacedOn reg discover a v fresh w t

/-! ## Whatever is placed is placed on some walk -/

/-- Following a foreign key places nothing by itself. -/
theorem placed_follow {k : ForeignKey} {next : Option String}
    (h : follow reg discover w k = .ok (w', next)) : w'.placed = w.placed := by
  rcases follow_cases h with ⟨-, rfl, -⟩ | ⟨-, -, s, n, -, -, rfl, -⟩ | ⟨-, -, rfl, -⟩
  · rfl
  · exact placed_learn w n
  · rfl

/-- A model that is placed by steps one after the other is placed by one of them. -/
theorem foldlM_places {α : Type} {f : Walk → α → Except SchemaError Walk} {P : Walk → α → Prop}
    (hf : ∀ w x w', f w x = .ok w' → a ∈ w'.placed → a ∈ w.placed ∨ P w x) :
    ∀ {xs : List α} {w w' : Walk}, xs.foldlM f w = .ok w' → a ∈ w'.placed →
      a ∈ w.placed ∨ ∃ before x after u, xs = before ++ x :: after ∧
        before.foldlM f w = .ok u ∧ P u x := by
  intro xs
  induction xs with
  | nil =>
    intro w w' h ha
    cases h
    exact Or.inl ha
  | cons x xs ih =>
    intro w w' h ha
    obtain ⟨u, hu, h⟩ := foldlM_cons_ok.mp h
    rcases ih h ha with ha | ⟨before, y, after, v, rfl, hv, hy⟩
    · exact (hf w x u hu ha).imp_right fun hx => ⟨[], x, xs, w, rfl, rfl, hx⟩
    · exact Or.inr ⟨x :: before, y, after, v, rfl, foldlM_cons_ok.mpr ⟨u, hu, hv⟩, hy⟩

/-- Placing a table places each model on some walk. -/
theorem exists_placedOn (fresh : List String) : ∀ (w : Walk) (t : String) (w' : Walk),
    place reg discover fresh w t = .ok w' → a ∈ w'.placed →
      a ∈ w.placed ∨ ∃ v, PlacedOn reg discover a v fresh w t := by
  induction hlen : fresh.length using Nat.strongRecOn generalizing fresh with
  | _ n ih =>
    intro w t w' h ha
    cases hp : w.hasPlaced t with
    | true =>
      rw [place, if_pos hp] at h
      cases h
      exact Or.inl ha
    | false =>
      by_cases hf : t ∈ fresh
      · cases hm : w.model? t with
        | none =>
          rw [place, if_neg (by simp [hp]), dif_pos hf] at h
          simp only [hm] at h
          cases h
          exact Or.inl ha
        | some m =>
          rw [place_fresh hp hf hm] at h
          split at h
          · cases h
          · next x hx =>
            cases h
            rcases List.mem_append.mp ha with ha | ha
            · -- The model is placed where a foreign key leads.
              have hvisit : ∀ u k u', visit reg discover (others t fresh) u k = .ok u' →
                  a ∈ u'.placed → a ∈ u.placed ∨ ∃ y next v,
                    follow reg discover u k = .ok (y, some next) ∧
                      PlacedOn reg discover a v (others t fresh) y next := by
                intro u k u' hu hau
                unfold visit at hu
                split at hu
                · cases hu
                · next y hy =>
                  cases hu
                  exact Or.inl (placed_follow hy ▸ hau)
                · next y next hy =>
                  have hlt := length_others_lt hf
                  rcases ih _ (hlen ▸ hlt) _ rfl y next u' hu hau with hay | ⟨v, hv⟩
                  · exact Or.inl (placed_follow hy ▸ hay)
                  · exact Or.inr ⟨y, next, v, hy, hv⟩
              refine (foldlM_places hvisit hx ha).imp_right ?_
              rintro ⟨before, k, after, u, hks, hu, y, next, v, hy, hv⟩
              exact ⟨v, .deeper hp hf hm hks hu hy hv⟩
            · rw [List.mem_singleton.mp ha]
              exact Or.inr ⟨x, .here hp hf hm hx⟩
      · rw [place, if_neg (by simp [hp]), dif_neg hf] at h
        cases h
        exact Or.inl ha

/-! ## The walk on which a model is placed -/

/-- What holds of the walk `v` on which model `a` is placed: the invariant; the tables that the
model foresees are known, and those known tables that it refers to are placed or lead back to it. -/
structure Stage (reg : Registry) (discover : Bool) (base : String → Prop) (all : List String)
    (a : Model) (v : Walk) : Prop where
  inv : WInv reg discover base all v
  foreseen : ∀ k ∈ a.dependencies, k.Foresees reg discover base → v.knows k.referencedTable = true
  met : ∀ k ∈ a.dependencies, v.knows k.referencedTable = true →
    v.hasPlaced k.referencedTable = true ∨ v.Reaches reg discover k.referencedTable a.table

/-- The model is placed on a stage of the walk, and the walk goes on from its place. -/
theorem PlacedOn.stage {base : String → Prop} {all fresh : List String} {t : String}
    (hreg : ∀ s n, reg.describe s = .ok n → n.table ∈ all)
    (h : PlacedOn reg discover a v fresh w t) :
    ∀ {w' : Walk}, WInv reg discover base all w → OnWay reg discover all fresh t w →
      w.knows t = true → place reg discover fresh w t = .ok w' →
      Stage reg discover base all a v ∧ Extends { v with placed := v.placed ++ [a] } w' := by
  induction h with
  | @here fresh w t hp hf hm hfold =>
    intro w' hinv hway _ hplace
    obtain ⟨hmk, rfl⟩ := mem_of_model? hm
    rw [place_fresh hp hf hm, hfold] at hplace
    cases hplace
    obtain ⟨hst, hks⟩ := visitAll_stretch hreg (place_inv hreg _) _ (fun _ hx => hx) hmk hinv hway
      hfold
    exact ⟨⟨hst.inv, fun k hk => (hks k hk).1, fun k hk => (hks k hk).2⟩, Extends.refl _⟩
  | @deeper fresh w u u' t next m before after k hp hf hm hks hu hfollow _ ih =>
    intro w' hinv hway _ hplace
    obtain ⟨hmk, rfl⟩ := mem_of_model? hm
    rw [place_fresh hp hf hm, hks] at hplace
    split at hplace
    · cases hplace
    · next z hz =>
      cases hplace
      -- The keys up to `k` are visited, then `k`, in the course of which the model is placed, and
      -- then those behind it.
      obtain ⟨u₁, hu₁, hz⟩ := foldlM_append_ok.mp hz
      cases hu.symm.trans hu₁
      obtain ⟨x, hx, hz⟩ := foldlM_cons_ok.mp hz
      rw [visit, hfollow] at hx
      have hsub : before ++ k :: after ⊆ m.dependencies := hks ▸ fun _ hy => hy
      have hin : PlacesWell reg discover base all (others m.table fresh) := place_inv hreg _
      obtain ⟨hst, -⟩ := visitAll_stretch hreg hin before
        (fun y hy => hsub (List.mem_append_left _ hy)) hmk hinv hway hu
      obtain ⟨hinv', hext', hkn, hway'⟩ := follow_next hreg (hst.ext.known.subset hmk)
        (hsub (by simp)) hst.inv (onWay_extends hst.ext hway) hfollow
      obtain ⟨hstage, hextx⟩ := ih hinv' hway' hkn hx
      obtain ⟨hstx, -⟩ := hin _ _ _ hinv' hway' hkn hx
      have hextw := (hst.ext.trans hext').trans hstx.ext
      obtain ⟨hstz, -⟩ := visitAll_stretch hreg hin after
        (fun y hy => hsub (List.mem_append_right _ (List.mem_cons_of_mem k hy)))
        (hextw.known.subset hmk) hstx.inv (onWay_extends hextw hway) hz
      exact ⟨hstage, (hextx.trans hstz.ext).trans ⟨List.prefix_rfl, List.prefix_append _ _⟩⟩

/-- The same along the roots: a model that is placed in the course of placing one of them. -/
theorem placeAll_stage {base : String → Prop} {all before after : List String} {t : String}
    {u : Walk} (hreg : ∀ s n, reg.describe s = .ok n → n.table ∈ all)
    (hts : ∀ t' ∈ before ++ t :: after, w.knows t' = true) (hinv : WInv reg discover base all w)
    (h : (before ++ t :: after).foldlM (place reg discover all) w = .ok w')
    (hu : before.foldlM (place reg discover all) w = .ok u)
    (hv : PlacedOn reg discover a v all u t) :
    Stage reg discover base all a v ∧ Extends { v with placed := v.placed ++ [a] } w' := by
  obtain ⟨u', hu', h⟩ := foldlM_append_ok.mp h
  cases hu.symm.trans hu'
  obtain ⟨x, hx, h⟩ := foldlM_cons_ok.mp h
  have hway : ∀ {r : String} {y : Walk}, OnWay reg discover all all r y :=
    fun _ ht hf => absurd ht hf
  have hbefore : ∀ r ∈ before, w.knows r = true := fun r hr => hts r (List.mem_append_left _ hr)
  obtain ⟨hstu, -⟩ := placeAll_inv hreg before hbefore hinv hu
  have hkt : u.knows t = true := hstu.ext.knows (hts t (by simp))
  obtain ⟨hstage, hext⟩ := hv.stage hreg hstu.inv hway hkt hx
  obtain ⟨hstx, -⟩ := place_inv hreg all u x t hstu.inv hway hkt hx
  have hafter : ∀ r ∈ after, x.knows r = true := fun r hr =>
    (hstu.ext.trans hstx.ext).knows (hts r (List.mem_append_right _ (List.mem_cons_of_mem t hr)))
  exact ⟨hstage, hext.trans (placeAll_inv hreg after hafter hstx.inv h).1.ext⟩

end Walk

end SchemaMigration
