import Mathlib.Data.List.Nodup
import Multimodal.Proofs.Json.Decoders

/-!
# Members put into maps

A map has its members in the order of their names, each name once (`IsMap`). Members with new names
are added to it and replace nothing (`perm_extend`), and what is done to the values of members can
as well be done to those of their map (`mapValues_extend`).
-/
namespace Multimodal.Json

/-- Members in the strict order of their names. -/
def IsMap (members : List (String × Json)) : Prop := members.Pairwise (·.1 < ·.1)

theorem isMap_insertMember {map : List (String × Json)} (h : IsMap map) (name : String)
    (value : Json) : IsMap (insertMember name value map) := by
  induction map with
  | nil => exact List.pairwise_singleton _ _
  | cons other rest ih =>
    obtain ⟨hfirst, hrest⟩ := List.pairwise_cons.mp h
    rw [insertMember]
    split
    · rename_i hlt
      refine .cons (fun m hm => ?_) h
      rcases List.mem_cons.mp hm with rfl | hm
      · exact hlt
      · exact String.lt_trans hlt (hfirst m hm)
    · rename_i hge
      split
      · rename_i heq
        subst heq
        exact .cons hfirst hrest
      · rename_i hne
        refine .cons (fun m hm => ?_) (ih hrest)
        rcases mem_of_mem_insertMember hm with rfl | hm
        · by_contra hnot
          exact hne (String.le_antisymm (String.not_lt.mp hnot) (String.not_lt.mp hge))
        · exact hfirst m hm

theorem isMap_extend {map : List (String × Json)} (h : IsMap map)
    (members : List (String × Json)) : IsMap (extend map members) := by
  induction members generalizing map with
  | nil => exact h
  | cons member rest ih => exact ih (isMap_insertMember h _ _)

theorem isMap_toMap (members : List (String × Json)) : IsMap (toMap members) :=
  isMap_extend .nil members

/-! ## Members with new names -/

theorem perm_insertMember {map : List (String × Json)} {name : String}
    (h : name ∉ map.map (·.1)) (value : Json) :
    (insertMember name value map).Perm ((name, value) :: map) := by
  induction map with
  | nil => exact .refl _
  | cons other rest ih =>
    rw [List.map_cons, List.mem_cons, not_or] at h
    rw [insertMember, if_neg h.1]
    split
    · exact .refl _
    · exact ((ih h.2).cons _).trans (.swap _ _ _)

/-- Members with new names are added to a map. -/
theorem perm_extend {map members : List (String × Json)}
    (h : ((map ++ members).map (·.1)).Nodup) : (extend map members).Perm (map ++ members) := by
  induction members generalizing map with
  | nil => simp [extend]
  | cons member rest ih =>
    have hmiddle : (map ++ member :: rest).Perm (member :: map ++ rest) := List.perm_middle
    have hnodup := (hmiddle.map (·.1)).nodup_iff.mp h
    have hnew : member.1 ∉ map.map (·.1) := fun hmem =>
      (List.nodup_cons.mp hnodup).1 (by simp [List.mem_map.mp hmem])
    have hinsert := (perm_insertMember hnew member.2).append_right rest
    have hrest := ih ((hinsert.map (·.1)).nodup_iff.mpr hnodup)
    exact hrest.trans (hinsert.trans hmiddle.symm)

/-- Members with different names are those of their map. -/
theorem perm_toMap {members : List (String × Json)} (h : (members.map (·.1)).Nodup) :
    (toMap members).Perm members :=
  @perm_extend [] members h

/-! ## Values -/

/-- Members with changed values. -/
def mapValues (f : String → Json → Json) (members : List (String × Json)) : List (String × Json) :=
  members.map fun (name, value) => (name, f name value)

theorem mapValues_insertMember (f : String → Json → Json) (name : String) (value : Json)
    (map : List (String × Json)) :
    mapValues f (insertMember name value map) =
      insertMember name (f name value) (mapValues f map) := by
  induction map with
  | nil => rfl
  | cons other rest ih =>
    rw [mapValues] at ih ⊢
    rw [insertMember, mapValues, List.map_cons, insertMember]
    split
    · rfl
    · split
      · rfl
      · rw [List.map_cons, ih]
        rfl

theorem mapValues_extend (f : String → Json → Json) (map members : List (String × Json)) :
    mapValues f (extend map members) = extend (mapValues f map) (mapValues f members) := by
  induction members generalizing map with
  | nil => rfl
  | cons member rest ih =>
    exact (ih _).trans (by rw [mapValues_insertMember]; rfl)

theorem mapValues_toMap (f : String → Json → Json) (members : List (String × Json)) :
    mapValues f (toMap members) = toMap (mapValues f members) :=
  mapValues_extend f [] members

end Multimodal.Json
