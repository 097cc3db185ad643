import Mathlib.Data.List.Forall2

/-!
# Lists related element by element

An array of vertices or arcs is compared with the list of the rows they come from, the legs of an
itinerary with the ways to go through their costs: the two are related at every place.
-/
namespace Multimodal

/-- Where lists are related, so are their elements at every place. -/
theorem exists_related_of_forall₂ {α β : Type} {R : α → β → Prop} {xs : List α} {ys : List β}
    (h : List.Forall₂ R xs ys) {place : Nat} {x : α} (hx : xs[place]? = some x) :
    ∃ y, ys[place]? = some y ∧ R x y := by
  obtain ⟨hlt, rfl⟩ := List.getElem?_eq_some_iff.mp hx
  have hlt' : place < ys.length := h.length_eq ▸ hlt
  exact ⟨ys[place], List.getElem?_eq_getElem hlt', h.get hlt hlt'⟩

theorem exists_getElem?_of_forall₂ {α β : Type} {R : α → β → Prop} {xs : List α} {ys : Array β}
    (h : List.Forall₂ R xs ys.toList) {handle : Nat} {x : α} (hx : xs[handle]? = some x) :
    ∃ y, ys[handle]? = some y ∧ R x y := by
  obtain ⟨y, hy, hxy⟩ := exists_related_of_forall₂ h hx
  exact ⟨y, by rwa [Array.getElem?_toList] at hy, hxy⟩

/-- A relation that a change of one element keeps. -/
theorem forall₂_modify {α β : Type} {R : α → β → Prop} {f : β → β}
    (keeps : ∀ a b, R a b → R a (f b)) {xs : List α} {ys : List β} (h : List.Forall₂ R xs ys)
    (i : Nat) : List.Forall₂ R xs (ys.modify i f) := by
  induction h generalizing i with
  | nil => simp
  | cons hxy hrest ih =>
    cases i with
    | zero => exact .cons (keeps _ _ hxy) hrest
    | succ i => exact .cons hxy (ih i)

/-- Lists related to one list agree on what the relation determines. -/
theorem map_eq_map_of_forall₂ {α β γ : Type} {R : α → β → Prop} {f : β → γ}
    (determines : ∀ a b c, R a b → R a c → f b = f c) {xs : List α} {ys zs : List β}
    (hys : List.Forall₂ R xs ys) (hzs : List.Forall₂ R xs zs) : ys.map f = zs.map f := by
  induction hys generalizing zs with
  | nil =>
    cases hzs
    rfl
  | cons hxy _ ih =>
    cases hzs with
    | cons hxz hrest => rw [List.map_cons, List.map_cons, determines _ _ _ hxy hxz, ih hrest]

/-- Where related elements have the same image, so have related lists. -/
theorem map_eq_map_of_forall₂_eq {α β γ : Type} {R : α → β → Prop} {f : α → γ} {g : β → γ}
    (hfg : ∀ a b, R a b → g b = f a) {xs : List α} {ys : List β} (h : List.Forall₂ R xs ys) :
    ys.map g = xs.map f := by
  rw [← List.forall₂_eq_eq_eq, List.forall₂_map_left_iff, List.forall₂_map_right_iff]
  exact (h.imp hfg).flip

/-- What a relation carries over from one element to the other it carries over from all to all. -/
theorem forall_mem_of_forall₂ {α β : Type} {R : α → β → Prop} {P : α → Prop} {Q : β → Prop}
    (hR : ∀ a b, R a b → P a → Q b) {xs : List α} {ys : List β} (h : List.Forall₂ R xs ys)
    (hP : ∀ a ∈ xs, P a) : ∀ b ∈ ys, Q b := by
  induction h with
  | nil => exact fun _ hb => absurd hb List.not_mem_nil
  | cons hxy _ ih =>
    rw [List.forall_mem_cons] at hP ⊢
    exact ⟨hR _ _ hxy hP.1, ih hP.2⟩

theorem countP_eq_of_forall₂ {α β : Type} {R : α → β → Prop} {p : α → Bool} {q : β → Bool}
    (hpq : ∀ a b, R a b → q b = p a) {xs : List α} {ys : List β} (h : List.Forall₂ R xs ys) :
    ys.countP q = xs.countP p := by
  have hmap : ys.map q = xs.map p := map_eq_map_of_forall₂_eq hpq h
  calc ys.countP q = (ys.map q).countP id := by rw [List.countP_map]; rfl
    _ = (xs.map p).countP id := by rw [hmap]
    _ = xs.countP p := by rw [List.countP_map]; rfl

end Multimodal
