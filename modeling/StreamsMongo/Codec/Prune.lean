import StreamsMongo.Library.FiniteData
import StreamsMongo.Shared.SplData

set_option autoImplicit false

namespace StreamsMongo

def SplType.emptyContainer : (t : SplType) → t.Value → Bool
  | .list t, value =>
      let values : List t.Value := value
      values.isEmpty
  | .set t, value =>
      let values : Finset t.Value := value
      values.card = 0
  | .map t, value =>
      let values : Finmap fun _ : String => t.Value := value
      values.entries.card = 0
  | .prim _, _ | .tuple _, _ => false

def SplType.kept (t : SplType) (value : t.Value) : Option t.Value :=
  if t.emptyContainer value then none else some value

mutual

/-- The attributes of a tuple stay, empty or not. -/
def SplType.prune : (t : SplType) → t.Value → t.Value
  | .prim _, value => value
  | .list t, value =>
      let values : List t.Value := value
      values.filterMap fun x => t.kept (t.prune x)
  | .set t, value => FiniteData.imageSome (fun x => t.kept (t.prune x)) value
  | .map t, value => FiniteData.valuesSome (fun x => t.kept (t.prune x)) value
  | .tuple attrs, value => attrs.prune value

def Attributes.prune : (attrs : Attributes) → attrs.Value → attrs.Value
  | .nil, _ => ()
  | .cons _ t rest, (value, values) => (t.prune value, rest.prune values)

end

mutual

def SplType.Full : (t : SplType) → t.Value → Prop
  | .prim _, _ => True
  | .list t, value =>
      let values : List t.Value := value
      ∀ x ∈ values, t.emptyContainer x = false ∧ t.Full x
  | .set t, value =>
      let values : Finset t.Value := value
      ∀ x ∈ values, t.emptyContainer x = false ∧ t.Full x
  | .map t, value =>
      let values : Finmap fun _ : String => t.Value := value
      ∀ e ∈ values.entries, t.emptyContainer e.2 = false ∧ t.Full e.2
  | .tuple attrs, value => attrs.Full value

def Attributes.Full : (attrs : Attributes) → attrs.Value → Prop
  | .nil, _ => True
  | .cons _ t rest, (value, values) => t.Full value ∧ rest.Full values

end

theorem SplType.kept_eq_some (t : SplType) (value kept : t.Value) :
    t.kept value = some kept ↔ t.emptyContainer kept = false ∧ value = kept := by
  unfold SplType.kept
  cases empty : t.emptyContainer value with
  | true =>
    constructor
    · intro impossible
      cases impossible
    · rintro ⟨nonempty, rfl⟩
      exact absurd (empty.symm.trans nonempty) (by decide)
  | false =>
    constructor
    · intro same
      cases same
      exact ⟨empty, rfl⟩
    · rintro ⟨_, rfl⟩
      rfl

theorem SplType.kept_prune_again (t : SplType)
    (idempotent : ∀ x, t.prune (t.prune x) = t.prune x) (x y : t.Value)
    (image : t.kept (t.prune x) = some y) : t.kept (t.prune y) = some y := by
  obtain ⟨nonempty, rfl⟩ := (t.kept_eq_some _ _).mp image
  exact (t.kept_eq_some _ _).mpr ⟨nonempty, idempotent x⟩

mutual

theorem SplType.prune_prune : (t : SplType) → (value : t.Value) →
    t.prune (t.prune value) = t.prune value
  | .prim _, _ => rfl
  | .list t, value => FiniteData.filterMap_filterMap _ (t.kept_prune_again t.prune_prune) value
  | .set t, value => FiniteData.imageSome_imageSome _ (t.kept_prune_again t.prune_prune) value
  | .map t, value => FiniteData.valuesSome_valuesSome _ (t.kept_prune_again t.prune_prune) value
  | .tuple attrs, value => attrs.prune_prune value

theorem Attributes.prune_prune : (attrs : Attributes) → (values : attrs.Value) →
    attrs.prune (attrs.prune values) = attrs.prune values
  | .nil, _ => rfl
  | .cons _ t rest, (value, values) =>
      Prod.ext (t.prune_prune value) (rest.prune_prune values)

end

mutual

theorem SplType.prune_eq_self : (t : SplType) → (value : t.Value) →
    t.prune value = value ↔ t.Full value
  | .prim _, _ => iff_of_true rfl trivial
  | .list t, value => by
      have each := fun x => (t.kept_eq_some (t.prune x) x).trans
        (and_congr_right fun _ => t.prune_eq_self x)
      exact (FiniteData.filterMap_idempotent_iff _ (t.kept_prune_again t.prune_prune) value).trans
        (forall₂_congr fun x _ => each x)
  | .set t, value => by
      have each := fun x => (t.kept_eq_some (t.prune x) x).trans
        (and_congr_right fun _ => t.prune_eq_self x)
      exact (FiniteData.imageSome_idempotent_iff _ (t.kept_prune_again t.prune_prune) value).trans
        (forall₂_congr fun x _ => each x)
  | .map t, value => by
      have each := fun x => (t.kept_eq_some (t.prune x) x).trans
        (and_congr_right fun _ => t.prune_eq_self x)
      exact (FiniteData.valuesSome_idempotent_iff _ (t.kept_prune_again t.prune_prune) value).trans
        (forall₂_congr fun e _ => each e.2)
  | .tuple attrs, value => attrs.prune_eq_self value

theorem Attributes.prune_eq_self : (attrs : Attributes) → (values : attrs.Value) →
    attrs.prune values = values ↔ attrs.Full values
  | .nil, _ => iff_of_true rfl trivial
  | .cons _ t rest, (value, values) =>
      Prod.mk_inj.trans (and_congr (t.prune_eq_self value) (rest.prune_eq_self values))

end

end StreamsMongo
