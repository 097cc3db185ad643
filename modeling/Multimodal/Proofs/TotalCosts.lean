import Mathlib.Data.List.Forall2
import Mathlib.Logic.Basic
import Multimodal.Itinerary.Basic

/-!
# Total costs of legs in any order

Addition of doubles is neither associative nor commutative on bit patterns, yet the total costs of
an itinerary do not depend on the order of its legs. The values of a criterion are added in
ascending order, and an order that tells all values apart (`CostValue.Ordered`) sorts them in one
way only. Nothing is asked of the addition, so the result is stated for doubles and for bit patterns
under any addition, where not-a-number comes with every sign and payload.

* `Costs.total_eq_totalOf`: the costs may be gone through in any order, across legs and criteria.
* `Itinerary.totalCosts_reordered`: the legs may stand in any order, and a criterion is in the total
  exactly if some leg sets it.
-/
namespace Multimodal

/-! ## Orders that tell values apart -/

/-- The order of the costs is total, and values that stand in one place are the same. -/
structure CostValue.Ordered (V : Type) [CostValue V] : Prop where
  total : ∀ x y : V, (CostValue.le x y || CostValue.le y x) = true
  trans : ∀ x y z : V, CostValue.le x y = true → CostValue.le y z = true → CostValue.le x z = true
  antisymm : ∀ x y : V, CostValue.le x y = true → CostValue.le y x = true → x = y

theorem CostValue.Ordered.of_injective {V W : Type} [CostValue V] [CostValue W] {f : V → W}
    (h : CostValue.Ordered W) (hf : ∀ x y, f x = f y → x = y)
    (hle : ∀ x y, CostValue.le x y = CostValue.le (f x) (f y)) : CostValue.Ordered V where
  total x y := by
    rw [hle, hle]
    exact h.total (f x) (f y)
  trans x y z := by
    rw [hle, hle, hle]
    exact h.trans (f x) (f y) (f z)
  antisymm x y := by
    rw [hle, hle]
    exact fun hxy hyx => hf x y (h.antisymm (f x) (f y) hxy hyx)

namespace Number

/-- The place of a bit pattern in the total order of doubles. -/
def bitsKey (b : UInt64) : Int :=
  if 0x8000000000000000 ≤ b.toNat then 0x7FFFFFFFFFFFFFFF - b.toNat else b.toNat

def bitsLe (a b : UInt64) : Bool := decide (bitsKey a ≤ bitsKey b)

/-- Bit patterns as costs under an addition. Like sums of doubles, sums start from minus zero. -/
@[reducible] def bitCosts (add : UInt64 → UInt64 → UInt64) : CostValue UInt64 :=
  ⟨0, 0x8000000000000000, add, bitsLe⟩

/-- Doubles are ordered by their bits alone. -/
theorem totalLe_eq_bitsLe (x y : Float) : totalLe x y = bitsLe x.toBits y.toBits := by
  rw [totalLe, bitsLe, orderKey_eq, orderKey_eq]
  rfl

theorem bitsKey_inj {a b : UInt64} (h : bitsKey a = bitsKey b) : a = b := by
  have ha := a.toNat_lt
  have hb := b.toNat_lt
  refine UInt64.toNat_inj.mp ?_
  simp only [bitsKey] at h
  split at h <;> split at h <;> omega

theorem ordered_bitCosts (add : UInt64 → UInt64 → UInt64) :
    @CostValue.Ordered UInt64 (bitCosts add) :=
  letI := bitCosts add
  { total := by
      intro a b
      simp only [CostValue.le, bitsLe, Bool.or_eq_true, decide_eq_true_eq]
      omega
    trans := by
      intro a b c hab hbc
      simp only [CostValue.le, bitsLe, decide_eq_true_eq] at *
      omega
    antisymm := by
      intro a b hab hba
      simp only [CostValue.le, bitsLe, decide_eq_true_eq] at hab hba
      exact bitsKey_inj (by omega) }

end Number

/-- Doubles are told apart by their place in the total order. -/
theorem CostValue.ordered_float : CostValue.Ordered Float :=
  letI := Number.bitCosts (· + ·)
  (Number.ordered_bitCosts (· + ·)).of_injective (fun _ _ => Number.toBits_inj)
    Number.totalLe_eq_bitsLe

namespace Costs

variable {V : Type} [CostValue V]

/-! ## Sums -/

/-- A sum is taken in the one ascending order of its values, however that order is found. -/
theorem sum_eq_of_ascending (hV : CostValue.Ordered V) {values sorted : List V}
    (hperm : sorted.Perm values) (hsorted : sorted.Pairwise fun x y => CostValue.le x y = true) :
    sum values = sorted.foldl CostValue.add CostValue.start := by
  have hmerged : (values.mergeSort CostValue.le).Pairwise fun x y => CostValue.le x y = true :=
    List.pairwise_mergeSort hV.trans hV.total values
  have hsame : values.mergeSort CostValue.le = sorted :=
    List.Perm.eq_of_pairwise (fun x y _ _ => hV.antisymm x y) hmerged hsorted
      ((List.mergeSort_perm values _).trans hperm.symm)
  rw [sum, hsame]

theorem sum_of_perm (hV : CostValue.Ordered V) {values others : List V}
    (h : values.Perm others) : sum values = sum others :=
  sum_eq_of_ascending hV ((List.mergeSort_perm others _).trans h.symm)
    (List.pairwise_mergeSort hV.trans hV.total others)

/-! ## Totals -/

/-- The values of a criterion among the entries of several costs. -/
def valuesOf (c : Criterion) (entries : List (Criterion × V)) : List V :=
  entries.filterMap fun (d, v) => if d = c then some v else none

omit [CostValue V] in
theorem valuesOf_cons (c : Criterion) (entry : Criterion × V) (rest : List (Criterion × V)) :
    valuesOf c (entry :: rest) =
      if entry.1 = c then entry.2 :: valuesOf c rest else valuesOf c rest := by
  rw [valuesOf, List.filterMap_cons]
  by_cases h : entry.1 = c
  · simp only [if_pos h]
    rfl
  · simp only [if_neg h]
    rfl

omit [CostValue V] in
theorem valuesOf_append (c : Criterion) (entries more : List (Criterion × V)) :
    valuesOf c (entries ++ more) = valuesOf c entries ++ valuesOf c more :=
  List.filterMap_append

/-- The total of entries as they are met one by one. -/
def totalOf (entries : List (Criterion × V)) : Costs V :=
  ofFn fun c =>
    match valuesOf c entries with
    | [] => none
    | values => some (sum values)

theorem get?_total (all : List (Costs V)) (c : Criterion) :
    (total all).get? c =
      if all.filterMap (·.get? c) = [] then none else some (sum (all.filterMap (·.get? c))) := by
  rw [total, get?_ofFn]
  split <;> simp_all

theorem get?_totalOf (entries : List (Criterion × V)) (c : Criterion) :
    (totalOf entries).get? c =
      if valuesOf c entries = [] then none else some (sum (valuesOf c entries)) := by
  rw [totalOf, get?_ofFn]
  split <;> simp_all

theorem totalOf_of_perm (hV : CostValue.Ordered V) {entries others : List (Criterion × V)}
    (h : entries.Perm others) : totalOf entries = totalOf others := by
  ext c : 1
  have hvalues : (valuesOf c entries).Perm (valuesOf c others) := h.filterMap _
  rw [get?_totalOf, get?_totalOf, sum_of_perm hV hvalues]
  simp only [List.eq_nil_iff_length_eq_zero, hvalues.length_eq]

omit [CostValue V] in
/-- Costs list each criterion at most once, with its value. -/
theorem valuesOf_toList (costs : Costs V) (c : Criterion) :
    valuesOf c costs.toList = (costs.get? c).toList := by
  have hcases (d : Criterion) : ((costs.get? d).map (d, ·)).bind (fun (e, v) =>
      if e = c then some v else none) = if d = c then costs.get? d else none := by
    cases costs.get? d <;> by_cases hd : d = c <;> simp [hd]
  rw [valuesOf, toList, List.filterMap_filterMap]
  simp only [hcases]
  cases c <;> simp [Criterion.all, List.filterMap_cons] <;> split <;> simp_all

omit [CostValue V] in
/-- Entries of costs met in any order: each criterion that is set is met once. -/
theorem valuesOf_of_perm {costs : Costs V} {entries : List (Criterion × V)}
    (h : entries.Perm costs.toList) (c : Criterion) :
    valuesOf c entries = (costs.get? c).toList := by
  have hvalues : (valuesOf c entries).Perm (costs.get? c).toList := by
    rw [← valuesOf_toList]
    exact h.filterMap _
  cases hcost : costs.get? c with
  | none =>
    rw [hcost] at hvalues
    exact hvalues.eq_nil
  | some v =>
    rw [hcost] at hvalues
    exact List.perm_singleton.mp hvalues

omit [CostValue V] in
/-- The values of a criterion are collected from all costs, one from each that sets it. -/
theorem valuesOf_flatMap_toList (all : List (Costs V)) (c : Criterion) :
    valuesOf c (all.flatMap toList) = all.filterMap (·.get? c) := by
  induction all with
  | nil => rfl
  | cons costs rest ih =>
    rw [List.flatMap_cons, valuesOf_append, ih, valuesOf_toList, List.filterMap_cons]
    cases costs.get? c <;> rfl

/-- The total of costs is that of their entries, met in any order. -/
theorem total_eq_totalOf (hV : CostValue.Ordered V) {all : List (Costs V)}
    {entries : List (Criterion × V)} (h : entries.Perm (all.flatMap toList)) :
    total all = totalOf entries := by
  ext c : 1
  rw [totalOf_of_perm hV h, get?_totalOf, valuesOf_flatMap_toList, get?_total]

theorem total_of_perm (hV : CostValue.Ordered V) {all others : List (Costs V)}
    (h : all.Perm others) : total all = total others :=
  (total_eq_totalOf hV .rfl).trans (total_eq_totalOf hV (h.flatMap_right toList)).symm

theorem contains_total (all : List (Costs V)) (c : Criterion) :
    (total all).contains c = true ↔ ∃ costs ∈ all, costs.contains c = true := by
  have hpresent : (total all).contains c = true ↔ all.filterMap (·.get? c) ≠ [] := by
    rw [contains, get?_total]
    split <;> simp_all
  rw [hpresent, Ne, List.filterMap_eq_nil_iff]
  simp only [contains, Option.isSome_iff_ne_none]
  simp only [not_forall, exists_prop]

end Costs

/-! ## Itineraries -/

namespace Itinerary

section AnyCosts

variable {V : Type} [CostValue V]

/-- A way to go through the costs of legs: all entries of each, in any order. -/
def Visits (legs : List (Leg V)) (visits : List (List (Criterion × V))) : Prop :=
  List.Forall₂ (fun leg entries => entries.Perm leg.costs.toList) legs visits

theorem totalCosts_of_perm (hV : CostValue.Ordered V) {it other : Itinerary V}
    (h : it.legs.Perm other.legs) : it.totalCosts = other.totalCosts :=
  Costs.total_of_perm hV (h.map _)

theorem contains_totalCosts (it : Itinerary V) (c : Criterion) :
    it.totalCosts.contains c = true ↔ ∃ leg ∈ it.legs, leg.costs.contains c = true := by
  rw [totalCosts, Costs.contains_total]
  simp only [List.mem_map, exists_exists_and_eq_and]

end AnyCosts

/-- The total costs of an itinerary have the same criteria and, bit by bit, the same values when its
legs are put in another order, and they have the criteria that some leg sets. This holds for doubles
and for bit patterns with any function of two patterns as their addition. -/
theorem totalCosts_reordered {it other : Itinerary Float} (h : it.legs.Perm other.legs)
    {bits others : Itinerary UInt64} (hbits : bits.legs.Perm others.legs)
    (add : UInt64 → UInt64 → UInt64) :
    (it.totalCosts = other.totalCosts ∧
      ∀ c, it.totalCosts.contains c = true ↔ ∃ leg ∈ it.legs, leg.costs.contains c = true) ∧
    letI := Number.bitCosts add
    (bits.totalCosts = others.totalCosts ∧
      ∀ c, bits.totalCosts.contains c = true ↔ ∃ leg ∈ bits.legs, leg.costs.contains c = true) :=
  letI := Number.bitCosts add
  ⟨⟨totalCosts_of_perm CostValue.ordered_float h, it.contains_totalCosts⟩,
    totalCosts_of_perm (Number.ordered_bitCosts add) hbits, bits.contains_totalCosts⟩

private def paidLeg {V : Type} (price : V) : Leg V :=
  (Leg.new (.road ⟨7, "Rue de Metz", .untilSectionEnd, .goAhead⟩) 1).setCost .price price

/-- Prices with an inexact sum, and patterns of minus zero, of two kinds of not-a-number and of
infinity whose "sum" is a difference, met forwards and backwards. -/
theorem totalCosts_reordered_backwards :
    let prices : List Float := [0.1, 0.2, 0.3, -0.6]
    let patterns : List UInt64 :=
      [0x8000000000000000, 0x7FF8000000000001, 0xFFF8000000000000, 0x7FF0000000000000]
    let it : Itinerary Float := ⟨prices.map paidLeg, .epoch, none⟩
    let back : Itinerary Float := ⟨prices.reverse.map paidLeg, .epoch, none⟩
    let bits : Itinerary UInt64 := ⟨patterns.map paidLeg, .epoch, none⟩
    let bitsBack : Itinerary UInt64 := ⟨patterns.reverse.map paidLeg, .epoch, none⟩
    it.legs.Perm back.legs ∧ bits.legs.Perm bitsBack.legs ∧
    (it.totalCosts = back.totalCosts ∧ it.totalCosts.contains .price = true) ∧
    letI := Number.bitCosts (· - ·)
    (bits.totalCosts = bitsBack.totalCosts ∧ bits.totalCosts.contains .price = true) := by
  intro prices patterns it back bits bitsBack
  have hlegs : it.legs.Perm back.legs := (List.reverse_perm prices).symm.map paidLeg
  have hbits : bits.legs.Perm bitsBack.legs := (List.reverse_perm patterns).symm.map paidLeg
  obtain ⟨⟨htotal, hcriteria⟩, htotalBits, hcriteriaBits⟩ :=
    totalCosts_reordered hlegs hbits (· - ·)
  have hset {V : Type} (v : V) : (paidLeg v).costs.contains .price = true := by
    simp [paidLeg, Leg.setCost, Costs.contains, Costs.get?_set]
  refine ⟨hlegs, hbits, ⟨htotal, (hcriteria _).mpr ⟨paidLeg 0.1, ?_, hset _⟩⟩, htotalBits,
    (hcriteriaBits _).mpr ⟨paidLeg 0x8000000000000000, ?_, hset _⟩⟩
  · exact List.mem_map_of_mem (List.mem_cons_self ..)
  · exact List.mem_map_of_mem (List.mem_cons_self ..)

end Itinerary

end Multimodal
