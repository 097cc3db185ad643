import Mathlib.Algebra.BigOperators.Group.List.Basic
import Mathlib.Algebra.Order.Ring.Rat
import Mathlib.Data.List.Induction
import Multimodal.Proofs.TotalCosts

/-!
# Totals and additions

The total of several costs collects the values of each criterion and adds them in ascending order.
Costs can also be added to others, entry by entry (`Costs.merge`), and those of an itinerary can be
added up leg by leg (`Itinerary.accumulated`). With values that add exactly (`CostValue.exact`) both
ways come to the same; with doubles, whose sums depend on the order of addition, at least the same
criteria are present.

In which order the entries of one leg are met makes no difference to an addition, whatever the
values are: every criterion is met at most once.

* `Costs.get?_merge`: an addition, criterion by criterion.
* `Costs.addAll_eq_merge`: the order of entries.
* `Costs.total_eq_foldl_merge`, `Costs.total_append`: totals of exact values.
* `Itinerary.totalCosts_eq_accumulated`: the two ways to add up an itinerary.
-/
namespace Multimodal

/-- Values that add exactly, as costs: addition is commutative and associative. -/
@[reducible] def CostValue.exact (V : Type) [AddCommMonoid V] [LinearOrder V] : CostValue V :=
  ⟨0, 0, (· + ·), fun x y => decide (x ≤ y)⟩

namespace Costs

/-! ## Additions -/

section
variable {V : Type} [CostValue V]

def addAll (costs : Costs V) (entries : List (Criterion × V)) : Costs V :=
  entries.foldl (fun sum (c, v) => sum.add c v) costs

theorem merge_eq_addAll (costs others : Costs V) :
    costs.merge others = costs.addAll others.toList := rfl

/-- What an addition makes of a value that may be set. -/
def plus (held : Option V) (v : V) : Option V :=
  some (CostValue.add (held.getD CostValue.zero) v)

theorem get?_add (costs : Costs V) (c d : Criterion) (v : V) :
    (costs.add c v).get? d = if c = d then plus (costs.get? d) v else costs.get? d := by
  rw [add, get?_set]
  by_cases h : c = d
  · subst h
    rfl
  · rw [if_neg h, if_neg h]

/-- An addition of entries adds the values of each criterion in the order in which they are met. -/
theorem get?_addAll (costs : Costs V) (entries : List (Criterion × V)) (c : Criterion) :
    (costs.addAll entries).get? c = (valuesOf c entries).foldl plus (costs.get? c) := by
  induction entries generalizing costs with
  | nil => rfl
  | cons entry rest ih =>
    obtain ⟨d, v⟩ := entry
    change ((costs.add d v).addAll rest).get? c = _
    rw [ih, get?_add, valuesOf_cons]
    by_cases h : d = c
    · rw [if_pos h, if_pos h, List.foldl_cons]
    · rw [if_neg h, if_neg h]

/-- The order in which the entries of costs are added makes no difference. -/
theorem addAll_eq_merge {others : Costs V} {entries : List (Criterion × V)}
    (h : entries.Perm others.toList) (costs : Costs V) :
    costs.addAll entries = costs.merge others := by
  ext c : 1
  rw [merge_eq_addAll, get?_addAll, get?_addAll, valuesOf_of_perm h, valuesOf_toList]

/-- An addition of costs adds to the criteria that the others set and leaves the rest. -/
theorem get?_merge (costs others : Costs V) (c : Criterion) :
    (costs.merge others).get? c =
      match others.get? c with
      | none => costs.get? c
      | some v => plus (costs.get? c) v := by
  rw [merge_eq_addAll, get?_addAll, valuesOf_toList]
  cases others.get? c with
  | none => rfl
  | some v => rfl

theorem contains_merge (costs others : Costs V) (c : Criterion) :
    (costs.merge others).contains c = true ↔
      costs.contains c = true ∨ others.contains c = true := by
  rw [contains, contains, contains, get?_merge]
  cases others.get? c with
  | none => simp
  | some v => simp [plus]

theorem contains_foldl_merge (all : List (Costs V)) (sum : Costs V) (c : Criterion) :
    (all.foldl merge sum).contains c = true ↔
      sum.contains c = true ∨ ∃ costs ∈ all, costs.contains c = true := by
  induction all generalizing sum with
  | nil => simp
  | cons costs rest ih =>
    rw [List.foldl_cons, ih, contains_merge, or_assoc, List.exists_mem_cons_iff]

end

/-! ## Values that add exactly -/

section
variable {V : Type} [AddCommMonoid V] [LinearOrder V]

attribute [local instance] CostValue.exact

theorem get_exact (costs : Costs V) (c : Criterion) : costs.get c = (costs.get? c).getD 0 := rfl

theorem plus_exact (held : Option V) (v : V) : plus held v = some (held.getD 0 + v) := rfl

/-- In exact arithmetic it makes no difference to a sum that it is taken in ascending order. -/
theorem sum_exact (values : List V) : sum values = values.sum := by
  calc sum values = (values.mergeSort fun x y => decide (x ≤ y)).foldl (· + ·) 0 := rfl
    _ = (values.mergeSort fun x y => decide (x ≤ y)).sum := List.sum_eq_foldl.symm
    _ = values.sum := (List.mergeSort_perm values _).sum_eq

theorem total_append (all more : List (Costs V)) :
    total (all ++ more) = (total all).merge (total more) := by
  ext c : 1
  rw [get?_merge, get?_total, get?_total, get?_total, List.filterMap_append]
  by_cases hmore : more.filterMap (·.get? c) = []
  · rw [if_pos hmore, hmore, List.append_nil]
  · rw [if_neg hmore, if_neg (List.append_ne_nil_of_right_ne_nil _ hmore), sum_exact, sum_exact,
      sum_exact, List.sum_append]
    by_cases hall : all.filterMap (·.get? c) = []
    · simp [hall, plus_exact]
    · simp [hall, plus_exact]

theorem total_singleton (costs : Costs V) : total [costs] = costs := by
  ext c : 1
  rw [get?_total]
  cases hcost : costs.get? c with
  | none => simp [hcost]
  | some v => simp [hcost, sum_exact]

/-- The total of costs is what they come to when they are added one after another. -/
theorem total_eq_foldl_merge (all : List (Costs V)) : total all = all.foldl merge empty := by
  induction all using List.reverseRecOn with
  | nil => rfl
  | append_singleton all costs ih =>
    rw [total_append, total_singleton, List.foldl_append, ih]
    rfl

/-- A criterion of a total is the sum of what it is everywhere, zero where it is not set. -/
theorem get_total (all : List (Costs V)) (c : Criterion) :
    (total all).get c = (all.map (·.get c)).sum := by
  induction all with
  | nil => simp [get_exact, get?_total]
  | cons costs rest ih =>
    have hsplit : total (costs :: rest) = costs.merge (total rest) := by
      rw [← total_singleton costs, ← total_append, total_singleton, List.singleton_append]
    rw [hsplit, List.map_cons, List.sum_cons, ← ih, get_exact, get?_merge]
    cases hrest : (total rest).get? c with
    | none => simp [get_exact, hrest]
    | some v => simp [get_exact, hrest, plus_exact]

end

end Costs

/-! ## Itineraries -/

namespace Itinerary

section
variable {V : Type} [CostValue V]

/-- The costs of an itinerary, added leg by leg to no costs. -/
def accumulated (it : Itinerary V) : Costs V :=
  it.legs.foldl (fun sum leg => sum.merge leg.costs) .empty

theorem accumulated_eq_foldl_merge (it : Itinerary V) :
    it.accumulated = (it.legs.map (·.costs)).foldl Costs.merge .empty := by
  rw [accumulated, List.foldl_map]

/-- The costs of legs add up alike, in whatever order the entries of each are met. -/
theorem foldl_addAll_of_visits {legs : List (Leg V)} {visits : List (List (Criterion × V))}
    (h : Visits legs visits) (sum : Costs V) :
    visits.foldl Costs.addAll sum = legs.foldl (fun sum leg => sum.merge leg.costs) sum := by
  induction h generalizing sum with
  | nil => rfl
  | cons hentries _ ih => rw [List.foldl_cons, List.foldl_cons, Costs.addAll_eq_merge hentries, ih]

theorem accumulated_of_visits {it : Itinerary V} {visits : List (List (Criterion × V))}
    (h : Visits it.legs visits) : visits.foldl Costs.addAll .empty = it.accumulated :=
  foldl_addAll_of_visits h .empty

theorem contains_accumulated (it : Itinerary V) (c : Criterion) :
    it.accumulated.contains c = true ↔ ∃ leg ∈ it.legs, leg.costs.contains c = true := by
  rw [accumulated_eq_foldl_merge, Costs.contains_foldl_merge]
  simp [Costs.contains]

/-- Whatever the values are, a total and the costs added leg by leg have the same criteria. -/
theorem contains_totalCosts_eq (it : Itinerary V) (c : Criterion) :
    it.totalCosts.contains c = it.accumulated.contains c :=
  Bool.eq_iff_iff.mpr ((it.contains_totalCosts c).trans (it.contains_accumulated c).symm)

end

section
variable {V : Type} [AddCommMonoid V] [LinearOrder V]

attribute [local instance] CostValue.exact

theorem totalCosts_exact (it : Itinerary V) : it.totalCosts = it.accumulated := by
  rw [totalCosts, Costs.total_eq_foldl_merge, accumulated_eq_foldl_merge]

theorem get_totalCosts_exact (it : Itinerary V) (c : Criterion) :
    it.totalCosts.get c = (it.legs.map (·.costs.get c)).sum := by
  rw [totalCosts, Costs.get_total, List.map_map]
  rfl

/-- With values that add exactly, the total costs of an itinerary are its costs added leg by leg, in
whatever order the entries of a leg are met. A criterion of the total is the sum of the values of
the legs, zero where a leg does not set it, and the total of the legs of two itineraries in a row is
the total of the first with that of the second added. With doubles, too, a criterion is present in
the total exactly if it is present in the costs added leg by leg, and that is if some leg sets it to
a value, which may be zero. -/
theorem totalCosts_eq_accumulated {it : Itinerary V} {visits : List (List (Criterion × V))}
    (hvisits : Visits it.legs visits) {doubles : Itinerary Float}
    {entries : List (List (Criterion × Float))} (hentries : Visits doubles.legs entries) :
    (it.totalCosts = it.accumulated ∧ it.totalCosts = visits.foldl Costs.addAll .empty) ∧
      (∀ c, it.totalCosts.contains c = it.accumulated.contains c ∧
        it.totalCosts.get c = (it.legs.map (·.costs.get c)).sum) ∧
      (∀ other : Itinerary V,
        ({ it with legs := it.legs ++ other.legs } : Itinerary V).totalCosts =
          it.totalCosts.merge other.totalCosts) ∧
      ∀ c, doubles.totalCosts.contains c = doubles.accumulated.contains c ∧
        doubles.totalCosts.contains c = (entries.foldl Costs.addAll .empty).contains c ∧
        (doubles.totalCosts.contains c = true ↔
          ∃ leg ∈ doubles.legs, ∃ v, leg.costs.get? c = some v) := by
  refine ⟨⟨it.totalCosts_exact, ?_⟩, fun c => ⟨?_, it.get_totalCosts_exact c⟩, fun other => ?_,
    fun c => ⟨doubles.contains_totalCosts_eq c, ?_, ?_⟩⟩
  · rw [it.totalCosts_exact, accumulated_of_visits hvisits]
  · exact it.contains_totalCosts_eq c
  · rw [totalCosts, List.map_append, Costs.total_append]
    rfl
  · rw [accumulated_of_visits hentries, doubles.contains_totalCosts_eq]
  · rw [doubles.contains_totalCosts]
    simp only [Costs.contains, Option.isSome_iff_exists]

private def fareLeg {V : Type} (price duration : V) : Leg V :=
  (Leg.new (.transfer default) 1).setCost .price price |>.setCost .duration duration

private theorem toList_fareLeg {V : Type} (price duration : V) :
    (fareLeg price duration).costs.toList = [(.duration, duration), (.price, price)] := by
  simp [fareLeg, Leg.setCost, Leg.new, Costs.toList, Criterion.all, Costs.get?_set]

private theorem get?_price_fareLeg {V : Type} (price duration : V) :
    (fareLeg price duration).costs.get? .price = some price := by
  simp [fareLeg, Leg.setCost, Costs.get?_set]

/-- Two prices in tenths, the entries of the second leg met backwards, and a leg of doubles whose
price is zero. -/
theorem totalCosts_eq_accumulated_fares :
    let it : Itinerary ℚ := ⟨[fareLeg (1 / 10) 0, fareLeg (1 / 5) 0], .epoch, none⟩
    let visits := [[(.duration, 0), (.price, 1 / 10)], [(.price, 1 / 5), (.duration, 0)]]
    let doubles : Itinerary Float := ⟨[fareLeg 0.0 12.5], .epoch, none⟩
    it.totalCosts = visits.foldl Costs.addAll .empty ∧ it.totalCosts.get .price = 3 / 10 ∧
      it.totalCosts.contains .duration = true ∧ doubles.totalCosts.contains .price = true := by
  intro it visits doubles
  have hvisits : Visits it.legs visits := by
    simp only [Visits, it, visits, List.forall₂_cons, toList_fareLeg, List.forall₂_nil_left_iff]
    exact ⟨.refl _, .swap _ _ _, trivial⟩
  have hentries : Visits doubles.legs [[(.duration, 12.5), (.price, 0.0)]] := by
    simp only [Visits, doubles, List.forall₂_cons, toList_fareLeg, List.forall₂_nil_left_iff]
    exact ⟨.refl _, trivial⟩
  obtain ⟨⟨-, hmet⟩, hcriteria, -, hdoubles⟩ := totalCosts_eq_accumulated hvisits hentries
  refine ⟨hmet, ?_, ?_, ?_⟩
  · rw [(hcriteria .price).2]
    simp only [it, List.map_cons, List.map_nil, Costs.get_exact, get?_price_fareLeg,
      Option.getD_some]
    decide +kernel
  · refine (it.contains_totalCosts .duration).mpr ⟨_, List.mem_cons_self .., ?_⟩
    simp [fareLeg, Leg.setCost, Costs.contains, Costs.get?_set]
  · exact (hdoubles .price).2.2.mpr ⟨_, List.mem_singleton_self _, 0.0, get?_price_fareLeg _ _⟩

end

end Itinerary

end Multimodal
