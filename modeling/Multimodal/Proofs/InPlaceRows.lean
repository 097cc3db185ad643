import Multimodal.Proofs.InPlace
import Multimodal.Proofs.Lookups

/-!
# Rows in place

A row that is dealt with in place does what its acceptance says: it leads to the same state, answers
with the same notes or fails in the same way, and where it fails it leaves nothing behind. On the
way nothing goes wrong inside (`Moment.IsSafe`), since the indexes fit the graphs before it. All
this is `InPlace.Leads`, which is proved along a program, one rule for each step.

* `InPlace.leads_offerNode`, `InPlace.leads_offerSection`: rows of roads.
* `InPlace.leads_offerStop`, `InPlace.leads_settle`: stops and their claims.
* `InPlace.leads_offerConnection`: connections.
-/
namespace Multimodal

/-- A failure that a row can have: its id is taken, it refers to a record that is not there, or it
is malformed. -/
def Failure.IsOfRow : Failure → Prop
  | .duplicateId .. => True
  | .danglingReference .. => True
  | .malformedRecord .. => True
  | _ => False

/-- A moment at which nothing goes wrong inside: the handles are those of vertices, the id is not
registered, a station is refused only to itself, the failure is one that a row can have, and the
indexes fit the graphs. -/
def Moment.IsSafe : Moment → Prop
  | .joins roads source target => source < roads.order ∧ target < roads.order
  | .connects n source target => source < n.stopCount ∧ target < n.stopCount
  | .registers index id => index.get? id = none
  | .links n claim station => ∀ failure, n.setParent claim.handle station = .error failure →
      claim.handle = station ∧ claim.stop = claim.station
  | .fails failure => failure.IsOfRow
  | .pauses n => n.Registered

/-! ## Stops and their claims -/

/-- A claim is that of one of the stops of rows. -/
def StationClaim.IsOf (rows : TransitRows) (claim : StationClaim) : Prop :=
  (rows.stops.map (·.id))[claim.handle]? = some claim.stop

/-- A stop row that is accepted is the last one held. -/
theorem TransitNetwork.Holds.acceptStop_eq_ok {sections : List RecordId} {index : IdIndex}
    {id : RecordId} {name : String} {kept : List StopRow} {row : StopRow} {position : Nat}
    {n next : TransitNetwork} {handle : Handle} (h : n.Holds sections ⟨id, name, kept, []⟩)
    (hindex : index.Lists .roadSection sections)
    (haccept : n.acceptStop index position row = .ok (next, handle)) :
    next.Holds sections ⟨id, name, kept ++ [row], []⟩ ∧ handle = kept.length := by
  cases hcheck : firstFailure (row.checks sections (kept.map (·.id)) position) with
  | some failure =>
    rw [h.acceptStop_eq_error hindex hcheck] at haccept
    cases haccept
  | none =>
    obtain ⟨hvalid, hnew⟩ := (row.firstFailure_checks_eq_none_iff _ _ _).mp hcheck
    obtain ⟨network, hadded, hnext⟩ := h.acceptStop hindex hvalid hnew position
    rw [hadded, Except.ok.injEq, Prod.mk.injEq] at haccept
    obtain ⟨rfl, rfl⟩ := haccept
    exact ⟨hnext, rfl⟩

/-- What becomes of the claim of a row whose stop was added. -/
def StopIntake.heed (linking : StationLinking) (row : StopRow) :
    StopIntake × Handle → StopIntake × List Note
  | (s, handle) =>
    match row.parentId with
    | none => (s, [])
    | some station =>
      match linking with
      | .singlePass => s.link ⟨handle, row.id, station⟩
      | .twoPass => ({ s with pending := ⟨handle, row.id, station⟩ :: s.pending }, [])

theorem StopIntake.accept_eq (linking : StationLinking) (index : IdIndex) (position : Nat)
    (row : StopRow) (s : StopIntake) :
    accept linking index position row s = heed linking row <$>
      (fun (network, handle) => ({ s with network }, handle)) <$>
        s.network.acceptStop index position row := by
  unfold accept heed
  cases s.network.acceptStop index position row with
  | error failure => rfl
  | ok added =>
    cases row.parentId with
    | none => rfl
    | some station => cases linking <;> rfl

/-! ## Programs and calls -/

namespace InPlace

variable {σ α β : Type}

/-- From a state a program leads to a result. If that is a failure, the state is what it was. The
moments on the way are safe. -/
def Leads (program : InPlace σ α) (s : σ) (result : Except Failure (σ × α)) : Prop :=
  ∃ more : List Moment, (∀ moment ∈ more, moment.IsSafe) ∧
    ∀ seen, program.run ⟨s, seen⟩ =
      match result with
      | .ok (next, a) => .ok a ⟨next, seen ++ more⟩
      | .error failure => .error failure ⟨s, seen ++ more⟩

/-! ### Steps -/

section
variable {s : σ} {result : Except Failure (σ × β)}

theorem leads_pure (a : α) (s : σ) : Leads (pure a) s (.ok (s, a)) :=
  ⟨[], List.forall_mem_nil _, by simp⟩

theorem leads_throw (failure : Failure) (s : σ) :
    Leads (throw failure : InPlace σ α) s (.error failure) :=
  ⟨[], List.forall_mem_nil _, fun seen => by rw [List.append_nil]; rfl⟩

theorem leads_change (f : σ → σ) (s : σ) : Leads (change f) s (.ok (f s, ())) :=
  ⟨[], List.forall_mem_nil _, fun seen => by rw [List.append_nil]; rfl⟩

theorem Leads.state {next : σ → InPlace σ β} (h : Leads (next s) s result) :
    Leads (state >>= next) s result := h

theorem Leads.change {f : σ → σ} {next : Unit → InPlace σ β} {r : σ × β}
    (h : Leads (next ()) (f s) (.ok r)) : Leads (change f >>= next) s (.ok r) := h

theorem Leads.observe {moment : Moment} (hsafe : moment.IsSafe) {next : Unit → InPlace σ β}
    (h : Leads (next ()) s result) : Leads (observe moment >>= next) s result := by
  obtain ⟨more, hmore, hrun⟩ := h
  refine ⟨moment :: more, List.forall_mem_cons.mpr ⟨hsafe, hmore⟩, fun seen => ?_⟩
  rw [List.append_cons]
  exact hrun (seen ++ [moment])

theorem Leads.ofExcept {call : Except Failure α} {next : α → InPlace σ β}
    {results : α → Except Failure (σ × β)}
    (h : ∀ a, call = .ok a → Leads (next a) s (results a)) :
    Leads (ofExcept call >>= next) s (call >>= results) := by
  cases call with
  | ok a => exact h a rfl
  | error failure => exact leads_throw failure s

theorem Leads.call {moment : Moment} (hsafe : moment.IsSafe) {outcome : Except Failure α}
    {next : α → InPlace σ β} {results : α → Except Failure (σ × β)}
    (h : ∀ a, outcome = .ok a → Leads (next a) s (results a)) :
    Leads (call moment outcome >>= next) s (outcome >>= results) := by
  simp only [InPlace.call, bind_assoc]
  exact .observe hsafe (.ofExcept h)

/-- An id that can be registered is new. The program goes on with the larger index. -/
theorem Leads.register {index larger : IdIndex} {id : RecordId} {handle : Handle}
    (hregister : index.register id handle = .ok larger) {next : IdIndex → InPlace σ β}
    (h : Leads (next larger) s result) :
    Leads (register index id handle >>= next) s result := by
  have hsafe : (Moment.registers index id).IsSafe := by
    have hnew := hregister
    rw [IdIndex.register_eq] at hnew
    split at hnew
    · cases hnew
    · rename_i hnone
      exact Option.not_isSome_iff_eq_none.mp hnone
  simp only [InPlace.register, InPlace.call, bind_assoc, hregister]
  exact .observe hsafe h

/-- One program after another. The second does not fail: it could not take back what the first
did. -/
theorem Leads.andThen {program : InPlace σ α} {next : α → InPlace σ β} {reached : σ} {a : α}
    {r : σ × β} (h : Leads program s (.ok (reached, a))) (hnext : Leads (next a) reached (.ok r)) :
    Leads (program >>= next) s (.ok r) := by
  obtain ⟨more, hmore, hrun⟩ := h
  obtain ⟨last, hlast, hrunNext⟩ := hnext
  refine ⟨more ++ last, List.forall_mem_append.mpr ⟨hmore, hlast⟩, fun seen => ?_⟩
  simp [hrun, hrunNext]

theorem Leads.stop {program : InPlace σ α} {failure : Failure}
    (h : Leads program s (.error failure)) (next : α → InPlace σ β) :
    Leads (program >>= next) s (.error failure) := by
  obtain ⟨more, hmore, hrun⟩ := h
  exact ⟨more, hmore, fun seen => by simp [hrun]⟩

theorem Leads.bind {program : InPlace σ α} {first : Except Failure (σ × α)}
    {next : α → InPlace σ β} {results : σ × α → σ × β} (h : Leads program s first)
    (hnext : ∀ reached a, first = .ok (reached, a) →
      Leads (next a) reached (.ok (results (reached, a)))) :
    Leads (program >>= next) s (results <$> first) := by
  rcases first with failure | ⟨reached, a⟩
  · exact h.stop next
  · exact h.andThen (hnext reached a rfl)

/-- A program that answers with notes about what it did. -/
theorem Leads.noting {program : InPlace σ Unit} {call : Except Failure σ}
    (h : Leads program s ((·, ()) <$> call)) (notes : List Note) :
    Leads (do program; return notes) s (do return (← call, notes)) := by
  cases call with
  | ok next => exact h.andThen (leads_pure notes next)
  | error failure => exact h.stop _

end

/-! ### Roads -/

theorem leads_addNode (row : NodeRow) (n : Network) :
    Leads (addNode row) n ((·, ()) <$> n.acceptNode row) := by
  unfold addNode Network.acceptNode
  refine .state ?_
  cases hcontains : n.nodeIndex.contains row.id with
  | true => exact leads_throw _ n
  | false =>
    have hnew := IdIndex.get?_of_not_contains hcontains
    obtain ⟨nodeIndex, hregister⟩ := IdIndex.exists_register hnew n.road.order
    simp only [Bool.false_eq_true, if_false, Digraph.addVertex, hregister, bind_pure_comp,
      Except.map_ok]
    exact .state (.change (.state (.register hregister (leads_change _ _))))

theorem leads_addSection {n : Network} {nodes : List NodeRow} {sections : List SectionRow}
    (h : n.HoldsRoads nodes sections) (position : Nat) (row : SectionRow) :
    Leads (addSection position row) n ((·, ()) <$> n.acceptSection position row) := by
  have hthere : ∀ id handle, n.nodeIndex.get? id = some handle → handle < n.road.order :=
    fun id handle hid => h.handle_lt ((h.nodeIndex.get?_eq_some id handle).mp hid)
  unfold addSection Network.acceptSection
  simp only [map_bind]
  refine .state (.ofExcept fun source hsource => .ofExcept fun target htarget => ?_)
  cases hcontains : n.sectionIndex.contains row.id with
  | true => exact leads_throw _ n
  | false =>
    have hnew := IdIndex.get?_of_not_contains hcontains
    simp only [Bool.false_eq_true, if_false, map_bind]
    refine .ofExcept fun label _ => ?_
    have hends : source < n.road.order ∧ target < n.road.order :=
      ⟨hthere _ _ (IdIndex.get?_of_follow hsource), hthere _ _ (IdIndex.get?_of_follow htarget)⟩
    have hsafe : (Moment.joins n.road source target).IsSafe := hends
    refine .call hsafe fun added _ => ?_
    -- the registration is not refused, so the section in the graph is no loose end
    obtain ⟨sectionIndex, hregister⟩ := IdIndex.exists_register hnew added.2
    simp only [hregister, map_pure, bind_pure_comp, Except.map_ok]
    exact .change (.state (.register hregister (leads_change _ _)))

theorem leads_offerNode (position : Nat) (row : NodeRow) (n : Network) :
    Leads (offerNode row) n (Network.offerNode position row n) :=
  (leads_addNode row n).noting []

theorem leads_offerSection {n : Network} {nodes : List NodeRow} {sections : List SectionRow}
    (h : n.HoldsRoads nodes sections) (position : Nat) (row : SectionRow) :
    Leads (offerSection position row) n (Network.offerSection position row n) :=
  (leads_addSection h position row).noting [.sectionAdded row.id row.nodeFrom row.nodeTo]

/-! ### Stops -/

theorem leads_enter (stop : Stop) (s : StopIntake) :
    Leads (enter stop) s
      ((fun (network, handle) => ({ s with network }, handle)) <$> s.network.addStop stop) := by
  unfold enter
  refine .state ?_
  cases hcontains : s.network.stopIndex.contains stop.id with
  | true =>
    simp only [TransitNetwork.addStop, hcontains, if_true, Except.map_error]
    exact leads_throw _ s
  | false =>
    have hnew := IdIndex.get?_of_not_contains hcontains
    obtain ⟨stopIndex, hregister, hadd⟩ := TransitNetwork.addStop_of_new hnew
    simp only [Bool.false_eq_true, if_false, hadd, Except.map_ok]
    exact .state (.change (.state (.register hregister (.change (leads_pure _ _)))))

theorem leads_addStop (sections : IdIndex) (position : Nat) (row : StopRow) (s : StopIntake) :
    Leads (addStop sections position row) s
      ((fun (network, handle) => ({ s with network }, handle)) <$>
        s.network.acceptStop sections position row) := by
  unfold addStop TransitNetwork.acceptStop
  refine .state ?_
  cases (s.network.find? row.id).isSome with
  | true => exact leads_throw _ s
  | false =>
    cases row.isPlaced with
    | false => exact leads_throw _ s
    | true =>
      simp only [Bool.false_eq_true, if_false, Bool.not_true, map_bind]
      exact .ofExcept fun roadSection _ => leads_enter (row.stop roadSection) s

section
variable {sections : List RecordId} {rows : TransitRows} {s : StopIntake}

theorem leads_leave (claim : StationClaim) (s : StopIntake) :
    Leads (leave claim) s (.ok ({ s with unresolved := s.unresolved + 1 },
      [.stationUnresolved claim.stop s.network.name claim.station])) := by
  unfold leave
  exact .change (.state (leads_pure _ _))

theorem leads_link (h : s.network.Holds sections rows) {claim : StationClaim}
    (hclaim : claim.IsOf rows) : Leads (link claim) s (.ok (s.link claim)) := by
  unfold link StopIntake.link
  refine .state ?_
  cases hstation : s.network.find? claim.station with
  | none =>
    simp only [hstation, Option.bind_eq_bind, Option.bind_none]
    exact leads_leave claim s
  | some station =>
    have hid := (h.stopIndex.get?_eq_some _ _).mp hstation
    have hsafe : (Moment.links s.network claim station).IsSafe := by
      intro failure hfailure
      have hself : claim.handle = station := by
        by_contra hother
        simp [TransitNetwork.setParent, hother, TransitNetwork.stopCount, h.handle_lt hid,
          h.handle_lt hclaim] at hfailure
      rw [StationClaim.IsOf, hself, hid] at hclaim
      exact ⟨hself, (Option.some.inj hclaim).symm⟩
    simp only [hstation, Option.bind_eq_bind, Option.bind_some]
    refine .observe hsafe ?_
    cases s.network.setParent claim.handle station with
    | error failure => exact leads_leave claim s
    | ok network => exact .change (leads_pure _ _)

/-- Claims that are followed one after another keep what rows say. -/
theorem leads_linkAll (h : s.network.Holds sections rows) {claims : List StationClaim}
    (hclaims : ∀ claim ∈ claims, claim.IsOf rows) :
    Leads (linkAll claims) s (.ok (s.linkAll claims)) := by
  induction claims generalizing s with
  | nil => exact leads_pure _ _
  | cons claim rest ih =>
    rw [List.forall_mem_cons] at hclaims
    exact (leads_link h hclaims.1).andThen
      ((ih (StopIntake.holds_link h claim) hclaims.2).andThen (leads_pure _ _))

/-- The claims that were kept are followed in the order of their stops. -/
theorem leads_settle (h : s.network.Holds sections rows)
    (hclaims : ∀ claim ∈ s.pending, claim.IsOf rows) : Leads settle s (.ok s.settle) := by
  unfold settle
  refine .state (.change ?_)
  exact @leads_linkAll _ _ { s with pending := [] } h _ fun claim hclaim =>
    hclaims claim (List.mem_reverse.mp hclaim)

end

section
variable {sections : List RecordId} {index : IdIndex} {id : RecordId} {name : String}
  {kept : List StopRow} {s : StopIntake}

theorem leads_offerStop (linking : StationLinking) (hindex : index.Lists .roadSection sections)
    (h : s.network.Holds sections ⟨id, name, kept, []⟩) (position : Nat) (row : StopRow) :
    Leads (offerStop linking index position row) s
      (StopIntake.accept linking index position row s) := by
  rw [StopIntake.accept_eq]
  unfold offerStop
  refine (leads_addStop index position row s).bind fun reached handle hreached => ?_
  cases hadded : s.network.acceptStop index position row with
  | error failure => simp [hadded] at hreached
  | ok added =>
    obtain ⟨hnext, hlast⟩ := h.acceptStop_eq_ok hindex hadded
    simp only [hadded, Except.map_ok, Except.ok.injEq, Prod.mk.injEq] at hreached
    obtain ⟨rfl, rfl⟩ := hreached
    unfold StopIntake.heed
    cases row.parentId with
    | none => exact leads_pure _ _
    | some station =>
      cases linking with
      | twoPass => exact .change (leads_pure _ _)
      | singlePass =>
        have hclaim : StationClaim.IsOf ⟨id, name, kept ++ [row], []⟩
            ⟨added.2, row.id, station⟩ := by
          simp [StationClaim.IsOf, hlast]
        exact leads_link (s := { s with network := added.1 }) hnext hclaim

end

/-! ### Connections -/

theorem leads_addConnection {sections : List RecordId} {rows : TransitRows} {n : TransitNetwork}
    (h : n.Holds sections rows) (position : Nat) (row : ConnectionRow) :
    Leads (addConnection position row) n ((·, ()) <$> n.acceptConnection position row) := by
  have hthere : ∀ id handle, n.stopIndex.get? id = some handle → handle < n.stopCount :=
    h.find?_lt
  unfold addConnection TransitNetwork.acceptConnection
  simp only [map_bind]
  refine .state (.ofExcept fun source hsource => .ofExcept fun target htarget => ?_)
  have hsafe : (Moment.connects n source target).IsSafe :=
    ⟨hthere _ _ (IdIndex.get?_of_follow hsource), hthere _ _ (IdIndex.get?_of_follow htarget)⟩
  exact .call hsafe fun added _ => leads_change _ _

theorem leads_offerConnection {sections : List RecordId} {rows : TransitRows} {n : TransitNetwork}
    (h : n.Holds sections rows) (position : Nat) (row : ConnectionRow) :
    Leads (offerConnection position row) n (TransitNetwork.offerConnection position row n) :=
  (leads_addConnection h position row).noting []

end InPlace

end Multimodal
