import Mathlib.Data.List.Forall2
import Multimodal.RecordField

/-!
# Decoding step by step

What a decoder is made of: steps one after another, a step for each item of a list, and the fields
of a record. Values that are named in the order of the fields are read as the plain list of values
(`RecordField.readNamed_zip`), and what every field keeps holds of the whole record, whichever way
it was written (`RecordField.keeps_readNamed`, `RecordField.keeps_readInOrder`).
-/
namespace Multimodal

/-! ## Steps -/

section Steps

variable {ε α β : Type}

theorem bind_eq_ok {x : Except ε α} {f : α → Except ε β} {b : β} :
    x >>= f = .ok b ↔ ∃ a, x = .ok a ∧ f a = .ok b := by
  cases x with
  | ok a =>
    constructor
    · exact fun h => ⟨a, rfl, h⟩
    · rintro ⟨_, ⟨⟩, h⟩
      exact h
  | error e =>
    constructor
    · exact nofun
    · rintro ⟨_, ⟨⟩, _⟩

theorem map_eq_ok {x : Except ε α} {f : α → β} {b : β} :
    x.map f = .ok b ↔ ∃ a, x = .ok a ∧ f a = b := by
  cases x <;> simp [Except.map]

theorem mapM_eq_ok_iff {f : α → Except ε β} {xs : List α} {ys : List β} :
    xs.mapM f = .ok ys ↔ List.Forall₂ (fun x y => f x = .ok y) xs ys := by
  induction xs generalizing ys with
  | nil =>
    rw [List.forall₂_nil_left_iff]
    constructor
    · rintro ⟨⟩
      rfl
    · rintro rfl
      rfl
  | cons x xs ih =>
    rw [List.mapM_cons, bind_eq_ok]
    constructor
    · rintro ⟨y, hy, h⟩
      obtain ⟨rest, hrest, heq⟩ := bind_eq_ok.mp h
      cases heq
      exact .cons hy (ih.mp hrest)
    · intro h
      cases h with
      | cons hy hrest => exact ⟨_, hy, bind_eq_ok.mpr ⟨_, ih.mpr hrest, rfl⟩⟩

theorem mapM_map_eq_ok {encode : β → α} {decode : α → Except ε β} {items : List β}
    (h : ∀ b ∈ items, decode (encode b) = .ok b) : (items.map encode).mapM decode = .ok items := by
  rw [mapM_eq_ok_iff, List.forall₂_map_left_iff, List.forall₂_same]
  exact h

/-- What decoding ensures of an item holds of every decoded item. -/
theorem forall_of_mapM_eq_ok {f : α → Except ε β} {xs : List α} {ys : List β} {P : β → Prop}
    (h : xs.mapM f = .ok ys) (hP : ∀ x ∈ xs, ∀ y, f x = .ok y → P y) : ∀ y ∈ ys, P y := by
  have hitems := mapM_eq_ok_iff.mp h
  clear h
  induction hitems with
  | nil => nofun
  | cons hy _ ih =>
    rw [List.forall_mem_cons] at hP ⊢
    exact ⟨hP.1 _ hy, ih hP.2⟩

/-- In a list that is decoded, every item is. -/
theorem exists_of_mapM_eq_ok {f : α → Except ε β} {xs : List α} {ys : List β}
    (h : xs.mapM f = .ok ys) : ∀ x ∈ xs, ∃ y, f x = .ok y := by
  have hitems := mapM_eq_ok_iff.mp h
  clear h
  induction hitems with
  | nil => nofun
  | cons hy _ ih => exact List.forall_mem_cons.mpr ⟨⟨_, hy⟩, ih⟩

end Steps

/-! ## Records -/

namespace RecordField

variable {ν ρ σ : Type}

theorem find?_append_cons {done fields : List (RecordField ν ρ)} {f : RecordField ν ρ}
    (hnames : ((done ++ f :: fields).map (·.name)).Nodup) :
    find? (done ++ f :: fields) f.name = some f := by
  rw [List.map_append, List.map_cons, List.nodup_append] at hnames
  have hdone : done.find? (·.name == f.name) = none := by
    rw [List.find?_eq_none]
    intro g hg hname
    exact hnames.2.2 _ (List.mem_map_of_mem hg) _ List.mem_cons_self (beq_iff_eq.mp hname)
  rw [find?, List.find?_append, hdone, Option.none_or, List.find?_cons, beq_self_eq_true]

/-- From the first of the fields that are left, named values in the order of the fields are read as
the values alone. -/
theorem readNamed_zip_append (ignorable : ν → Bool) : ∀ (done fields : List (RecordField ν ρ))
    (values : List ν) (r : ρ), ((done ++ fields).map (·.name)).Nodup →
    values.length = fields.length →
    readNamed (done ++ fields) ignorable ((fields.map (·.name)).zip values)
      (done.map (·.name)).reverse r = readInOrder fields values r
  | done, [], [], r, _, _ => by
    rw [List.map_nil, List.zip_nil_left, readNamed, readInOrder]
    refine if_pos (List.all_eq_true.mpr fun f hf => ?_)
    rw [List.append_nil] at hf
    simp [List.mem_map_of_mem hf]
  | done, f :: fields, v :: values, r, hnames, hlength => by
    have hfresh : (done.map (·.name)).reverse.contains f.name = false := by
      rw [List.map_append, List.map_cons, List.nodup_append] at hnames
      rw [List.contains_eq_mem, decide_eq_false_iff_not, List.mem_reverse]
      exact fun hmem => hnames.2.2 _ hmem _ List.mem_cons_self rfl
    have hrest := fun r => readNamed_zip_append ignorable (done ++ [f]) fields values r
      (by simpa using hnames) (by simpa using hlength)
    simp only [List.append_assoc, List.singleton_append, List.map_append, List.map_cons,
      List.map_nil, List.reverse_append, List.reverse_cons, List.reverse_nil,
      List.nil_append] at hrest
    rw [List.map_cons, List.zip_cons_cons, readNamed, find?_append_cons hnames]
    simp only [hfresh, Bool.false_eq_true, if_false, readInOrder]
    cases f.read v r with
    | ok r => exact hrest r
    | error fault => rfl

theorem readNamed_zip {fields : List (RecordField ν ρ)} (ignorable : ν → Bool) {values : List ν}
    (r : ρ) (hnames : (fields.map (·.name)).Nodup) (hlength : values.length = fields.length) :
    readNamed fields ignorable ((fields.map (·.name)).zip values) [] r =
      readInOrder fields values r :=
  readNamed_zip_append ignorable [] fields values r hnames hlength

theorem exists_read_of_readInOrder : ∀ {fields : List (RecordField ν ρ)} {values : List ν}
    {r r' : ρ}, readInOrder fields values r = .ok r' →
    ∀ read ∈ fields.zip values, ∃ before after, read.1.read read.2 before = .ok after
  | [], _, _, _, _ => nofun
  | _ :: _, [], _, _, _ => nofun
  | f :: fields, v :: values, r, _, h => by
    rw [readInOrder] at h
    rw [List.zip_cons_cons, List.forall_mem_cons]
    split at h
    · rename_i after hread
      exact ⟨⟨r, after, hread⟩, exists_read_of_readInOrder h⟩
    · cases h

/-! ### Members in any order

A member that a field is read from makes its name known of the record; other members are passed
over. What is known in the end does not depend on where the members stand. -/

def fieldNames (fields : List (RecordField ν ρ)) (members : List (String × ν)) : List String :=
  (members.map (·.1)).filter fun name => (find? fields name).isSome

/-- A field is read from the member. What is known of the record by the names read before is then
known by the member's name as well. -/
def Reveals (fields : List (RecordField ν ρ)) (known : List String → ρ) (m : String × ν) : Prop :=
  ∀ names, ∃ field, find? fields m.1 = some field ∧
    field.read m.2 (known names) = .ok (known (m.1 :: names))

section Members

variable {fields : List (RecordField ν ρ)} {ignorable : ν → Bool} {known : List String → ρ}

theorem fieldNames_append (members more : List (String × ν)) :
    fieldNames fields (members ++ more) = fieldNames fields members ++ fieldNames fields more := by
  rw [fieldNames, List.map_append, List.filter_append, fieldNames, fieldNames]

theorem fieldNames_eq_map {members : List (String × ν)}
    (h : ∀ m ∈ members, Reveals fields known m) :
    fieldNames fields members = members.map (·.1) := by
  rw [fieldNames, List.filter_eq_self]
  intro name hname
  obtain ⟨m, hm, rfl⟩ := List.mem_map.mp hname
  obtain ⟨field, hfind, -⟩ := h m hm []
  rw [hfind, Option.isSome_some]

theorem fieldNames_eq_nil {members : List (String × ν)}
    (h : ∀ m ∈ members, find? fields m.1 = none) : fieldNames fields members = [] := by
  rw [fieldNames, List.filter_eq_nil_iff]
  intro name hname
  obtain ⟨m, hm, rfl⟩ := List.mem_map.mp hname
  rw [h m hm, Option.isSome_none]
  exact Bool.false_ne_true

theorem fieldNames_perm {members others : List (String × ν)} (h : members.Perm others) :
    (fieldNames fields members).Perm (fieldNames fields others) :=
  (h.map _).filter _

/-- Members in any order make their names known of a record, whatever stands between them. -/
theorem readNamed_of_reveals : ∀ (members : List (String × ν)) (names : List String),
    (∀ m ∈ members, Reveals fields known m ∨ find? fields m.1 = none ∧ ignorable m.2 = true) →
    (fieldNames fields members).Nodup → (∀ name ∈ fieldNames fields members, name ∉ names) →
    (∀ f ∈ fields, f.omission = .never → f.name ∈ fieldNames fields members ∨ f.name ∈ names) →
    readNamed fields ignorable members names (known names) =
      .ok (known ((fieldNames fields members).reverse ++ names))
  | [], names, _, _, _, hrequired => by
    rw [readNamed]
    refine if_pos (List.all_eq_true.mpr fun f hf => ?_)
    by_cases hnever : f.omission = .never
    · have hname := (hrequired f hf hnever).resolve_left List.not_mem_nil
      simp [hname]
    · simp [hnever]
  | m :: rest, names, hmembers, hnodup, hfresh, hrequired => by
    obtain ⟨hread | ⟨hnone, hignorable⟩, hrest⟩ := List.forall_mem_cons.mp hmembers
    · obtain ⟨field, hfind, hread⟩ := hread names
      have hcons : fieldNames fields (m :: rest) = m.1 :: fieldNames fields rest := by
        rw [fieldNames, List.map_cons, List.filter_cons_of_pos (by rw [hfind]; rfl), fieldNames]
      rw [hcons] at hnodup hfresh hrequired ⊢
      rw [List.nodup_cons] at hnodup
      rw [List.forall_mem_cons] at hfresh
      have hnew : names.contains m.1 = false := by simpa using hfresh.1
      -- the name moves from those to come to those that were read
      have ih := readNamed_of_reveals rest (m.1 :: names) hrest hnodup.2 ?_ ?_
      · rw [readNamed]
        simp only [hfind, hnew, hread, Bool.false_eq_true, if_false, ih, List.reverse_cons,
          List.append_assoc, List.singleton_append]
      · intro name hname hseen
        rcases List.mem_cons.mp hseen with rfl | hseen
        · exact hnodup.1 hname
        · exact hfresh.2 name hname hseen
      · intro f hf hnever
        have hname := hrequired f hf hnever
        rw [List.mem_cons] at hname ⊢
        tauto
    · have hskip : fieldNames fields (m :: rest) = fieldNames fields rest := by
        rw [fieldNames, List.map_cons, List.filter_cons_of_neg (by rw [hnone]; exact nofun),
          fieldNames]
      rw [hskip] at hnodup hfresh hrequired ⊢
      rw [readNamed]
      simp only [hnone, hignorable, if_true]
      exact readNamed_of_reveals rest names hrest hnodup hfresh hrequired

/-- A record is not read without a field that must be there. -/
theorem error_of_missing {f : RecordField ν ρ} (hf : f ∈ fields) (hnever : f.omission = .never) :
    ∀ {members : List (String × ν)} {seen : List String} {r : ρ}, (∀ m ∈ members, m.1 ≠ f.name) →
      f.name ∉ seen → ∃ fault, readNamed fields ignorable members seen r = .error fault
  | [], seen, r, _, hseen => by
    refine ⟨.shape, if_neg fun hall => ?_⟩
    have := List.all_eq_true.mp hall f hf
    simp [hnever, hseen] at this
  | (name, v) :: rest, seen, r, hmembers, hseen => by
    rw [List.forall_mem_cons] at hmembers
    rw [readNamed]
    split
    · split
      · exact error_of_missing hf hnever hmembers.2 hseen
      · exact ⟨_, rfl⟩
    · split
      · exact ⟨_, rfl⟩
      · split
        · have hlater : f.name ∉ name :: seen := by
            rw [List.mem_cons, not_or]
            exact ⟨hmembers.1.symm, hseen⟩
          exact error_of_missing hf hnever hmembers.2 hlater
        · exact ⟨_, rfl⟩

end Members

/-! ### One member among others

What a field puts into the record makes no difference to the other fields, so its member may stand
anywhere among theirs. -/

/-- A field is read alike, whether the record is changed before or after. -/
def PassesBy (f : RecordField ν ρ) (change : ρ → ρ) : Prop :=
  ∀ v r, f.read v (change r) = (f.read v r).map change

section Among

variable {fields : List (RecordField ν ρ)} {ignorable : ν → Bool}

theorem passesBy_defaulted {name : String} {read : ν → Decoded σ} {put : σ → ρ → ρ} {change : ρ → ρ}
    (h : ∀ x r, put x (change r) = change (put x r)) :
    (defaulted name read put).PassesBy change := by
  intro v r
  simp only [defaulted]
  cases read v <;> simp [Except.map, h]

/-- Members of other fields are read into a changed record as into the record itself. -/
theorem readNamed_of_passesBy {name : String} {change : ρ → ρ}
    (hothers : ∀ f ∈ fields, f.name ≠ name → f.PassesBy change) :
    ∀ {members : List (String × ν)} {seen more : List String} {r r' : ρ},
      (∀ m ∈ members, m.1 ≠ name) → (∀ other, other ∈ more ↔ other = name ∨ other ∈ seen) →
      readNamed fields ignorable members seen r = .ok r' →
      readNamed fields ignorable members more (change r) = .ok (change r')
  | [], seen, more, r, r', _, hmore, h => by
    rw [readNamed] at h ⊢
    split at h
    · rename_i hall
      obtain rfl := Except.ok.inj h
      refine if_pos (List.all_eq_true.mpr fun f hf => ?_)
      have hf := List.all_eq_true.mp hall f hf
      simp only [Bool.or_eq_true, List.contains_iff_mem] at hf ⊢
      exact hf.imp_right fun hseen => (hmore _).mpr (.inr hseen)
    · cases h
  | (other, v) :: rest, seen, more, r, r', hmembers, hmore, h => by
    rw [List.forall_mem_cons] at hmembers
    rw [readNamed] at h ⊢
    cases hfind : find? fields other with
    | none =>
      simp only [hfind] at h ⊢
      split at h
      · rw [if_pos ‹_›]
        exact readNamed_of_passesBy hothers hmembers.2 hmore h
      · cases h
    | some f =>
      simp only [hfind] at h ⊢
      have hname : f.name = other := by simpa using List.find?_some hfind
      have hpasses := hothers f (List.mem_of_find?_eq_some hfind) (hname ▸ hmembers.1)
      split at h
      · cases h
      · rename_i hnew
        have hnew' : more.contains other = false := by
          simpa [hmore, hmembers.1] using hnew
        simp only [hnew', Bool.false_eq_true, if_false, hpasses v r]
        cases hread : f.read v r with
        | error fault => simp [hread] at h
        | ok r₁ =>
          simp only [hread] at h
          refine readNamed_of_passesBy hothers hmembers.2 (fun known => ?_) h
          simp only [List.mem_cons, hmore]
          tauto

/-- A member is read wherever it stands among the members of other fields. If its value is no value
of the field, that is what is wrong with the record. -/
theorem readNamed_insert {f : RecordField ν ρ} {decode : ν → Decoded σ} {put : σ → ρ → ρ}
    (hfind : find? fields f.name = some f)
    (hread : ∀ v r, f.read v r = (decode v).map (put · r))
    (hothers : ∀ x, ∀ other ∈ fields, other.name ≠ f.name → other.PassesBy (put x))
    (v : ν) {after : List (String × ν)} :
    ∀ {before : List (String × ν)} {seen : List String} {r r' : ρ},
      (∀ m ∈ before ++ after, m.1 ≠ f.name) → f.name ∉ seen →
      readNamed fields ignorable (before ++ after) seen r = .ok r' →
      readNamed fields ignorable (before ++ (f.name, v) :: after) seen r =
        (decode v).map (put · r')
  | [], seen, r, r', hmembers, hseen, h => by
    have hnew : seen.contains f.name = false := by simpa using hseen
    rw [List.nil_append, readNamed]
    simp only [hfind, hnew, Bool.false_eq_true, if_false, hread]
    cases decode v with
    | error fault => rfl
    | ok x => exact readNamed_of_passesBy (hothers x) hmembers (fun _ => List.mem_cons) h
  | (other, w) :: before, seen, r, r', hmembers, hseen, h => by
    rw [List.cons_append, List.forall_mem_cons] at hmembers
    rw [List.cons_append, readNamed] at h ⊢
    split at h
    · split at h
      · rw [if_pos ‹_›]
        exact readNamed_insert hfind hread hothers v hmembers.2 hseen h
      · cases h
    · split at h
      · cases h
      · rw [if_neg ‹_›]
        split at h
        · refine readNamed_insert hfind hread hothers v hmembers.2 ?_ h
          rw [List.mem_cons, not_or]
          exact ⟨hmembers.1.symm, hseen⟩
        · cases h

end Among

/-! ### What every field keeps -/

/-- A field, read from values of a kind, keeps a property of the record. -/
def Keeps (f : RecordField ν ρ) (Q : ν → Prop) (P : ρ → Prop) : Prop :=
  ∀ v r r', Q v → P r → f.read v r = .ok r' → P r'

section Keeps

variable {fields : List (RecordField ν ρ)} {Q : ν → Prop} {P : ρ → Prop}

theorem keeps_required {name : String} {read : ν → Decoded σ} {put : σ → ρ → ρ}
    (h : ∀ v x r, Q v → read v = .ok x → P r → P (put x r)) :
    (required name read put).Keeps Q P := by
  intro v r r' hv hr hread
  obtain ⟨x, hx, rfl⟩ := map_eq_ok.mp hread
  exact h v x r hv hx hr

theorem keeps_optional {name : String} {read : ν → Decoded σ} {put : σ → ρ → ρ}
    (h : ∀ v x r, Q v → read v = .ok x → P r → P (put x r)) :
    (optional name read put).Keeps Q P :=
  fun v r r' hv hr hread => by
    obtain ⟨x, hx, rfl⟩ := map_eq_ok.mp hread
    exact h v x r hv hx hr

theorem keeps_readNamed {ignorable : ν → Bool} (hfields : ∀ f ∈ fields, f.Keeps Q P) :
    ∀ {members : List (String × ν)} {seen : List String} {r r' : ρ},
      (∀ m ∈ members, Q m.2) → P r → readNamed fields ignorable members seen r = .ok r' → P r'
  | [], _, r, _, _, hr, h => by
    rw [readNamed] at h
    split at h <;> cases h
    exact hr
  | (name, v) :: members, seen, r, r', hmembers, hr, h => by
    rw [List.forall_mem_cons] at hmembers
    rw [readNamed] at h
    split at h
    · split at h
      · exact keeps_readNamed hfields hmembers.2 hr h
      · cases h
    · rename_i f hfind
      split at h
      · cases h
      · split at h
        · rename_i hread
          have hkeeps := hfields f (List.mem_of_find?_eq_some hfind)
          exact keeps_readNamed hfields hmembers.2 (hkeeps _ _ _ hmembers.1 hr hread) h
        · cases h

theorem keeps_readInOrder : ∀ {fields : List (RecordField ν ρ)} {values : List ν} {r r' : ρ},
    (∀ f ∈ fields, f.Keeps Q P) → (∀ v ∈ values, Q v) → P r →
    readInOrder fields values r = .ok r' → P r'
  | [], [], _, _, _, _, hr, h => by
    cases h
    exact hr
  | [], _ :: _, _, _, _, _, _, h => by cases h
  | f :: fields, [], _, _, hfields, hvalues, hr, h => by
    rw [List.forall_mem_cons] at hfields
    rw [readInOrder] at h
    split at h
    · exact keeps_readInOrder hfields.2 hvalues hr h
    · cases h
  | f :: fields, v :: values, r, r', hfields, hvalues, hr, h => by
    rw [List.forall_mem_cons] at hfields hvalues
    rw [readInOrder] at h
    split at h
    · rename_i hread
      exact keeps_readInOrder hfields.2 hvalues.2 (hfields.1 _ _ _ hvalues.1 hr hread) h
    · cases h

end Keeps

end RecordField

end Multimodal
