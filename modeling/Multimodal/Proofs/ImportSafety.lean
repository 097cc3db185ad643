import Multimodal.Proofs.InPlaceRows

/-!
# Nothing goes wrong inside an import

An import that works on its graphs in place reports what `importNetwork` does, and nothing goes
wrong inside on the way, whatever the source and the policy are and whether or not it fails in the
end. Its rows are followed with the invariants of the phases: before every row the graphs and
indexes hold the rows that were accepted.

* `Watched.Does`: a watched report is a given one and is safe, one rule for each way to go on.
* `does_passInPlace`: a pass whose rows follow a check.
* `importInPlace_safe`: the whole import.
-/
namespace Multimodal

variable {α β ρ σ : Type}

/-! ## Safe reports -/

theorem isSafe_pauses {n : Network} (h : n.Registered) :
    ∀ moment ∈ [Moment.pauses n], moment.IsSafe :=
  List.forall_mem_singleton.mpr h

namespace Watched

/-- A watched report is a given one: its moments are safe, the rows that it rejects have failures
that a row can have, a value satisfies `P`, and a failure is one of those it may end with. -/
structure Does (w : Watched α) (report : Report α) (ends : Failure → Prop) (P : α → Prop) :
    Prop where
  report_eq : w.report = report
  moments : ∀ moment ∈ w.moments, moment.IsSafe
  rejections : ∀ rejected ∈ report.rejections, rejected.2.IsOfRow
  value : ∀ a, report.outcome = .ok a → P a
  failure : ∀ failure, report.outcome = .error failure → ends failure

variable {ends : Failure → Prop} {P : α → Prop} {Q : β → Prop} {report : Report α}

theorem Does.imp {w : Watched α} {P' : α → Prop} (h : Does w report ends P)
    (hP : ∀ a, P a → P' a) : Does w report ends P' :=
  { h with value := fun a ha => hP a (h.value a ha) }

theorem does_pure {a : α} (h : P a) : Does (pure a) (pure a) ends P where
  report_eq := rfl
  moments := List.forall_mem_nil _
  rejections := List.forall_mem_nil _
  value := by
    intro b hb
    exact Except.ok.inj hb ▸ h
  failure := nofun

theorem Does.bind {w : Watched α} {next : α → Watched β} {after : α → Report β}
    (h : Does w report ends P) (hnext : ∀ a, P a → Does (next a) (after a) ends Q) :
    Does (w >>= next) (report >>= after) ends Q := by
  obtain ⟨moments, given⟩ := w
  obtain rfl : given = report := h.report_eq
  rcases given with ⟨events, failure | a⟩
  · refine ⟨rfl, h.moments, h.rejections, nofun, ?_⟩
    intro other hother
    exact h.failure other (congrArg Except.error (Except.error.inj hother))
  · have hafter := hnext a (h.value a rfl)
    refine ⟨?_, List.forall_mem_append.mpr ⟨h.moments, hafter.moments⟩, ?_, hafter.value,
      hafter.failure⟩
    · show (⟨_, .ok a⟩ : Report α).bind (fun a => (next a).report) = Report.bind ⟨_, .ok a⟩ after
      simp only [Report.bind, hafter.report_eq]
    · rw [Report.rejections, Report.heard_bind_of_ok rfl]
      exact List.forall_mem_append.mpr ⟨h.rejections, hafter.rejections⟩

/-- Moments do not show in a report, nor does a value on its own. -/
theorem Does.behind {moments : List Moment} (hmoments : ∀ moment ∈ moments, moment.IsSafe) {b : β}
    {next : β → Watched α} (h : Does (next b) report ends P) :
    Does ((⟨moments, pure b⟩ : Watched β) >>= next) report ends P where
  report_eq := by
    have hnext : ((⟨moments, pure b⟩ : Watched β) >>= next).report =
        pure b >>= fun b => (next b).report := rfl
    rw [hnext, pure_bind, h.report_eq]
  moments := List.forall_mem_append.mpr ⟨hmoments, h.moments⟩
  rejections := h.rejections
  value := h.value
  failure := h.failure

theorem Does.observe {moments : List Moment} (hmoments : ∀ moment ∈ moments, moment.IsSafe)
    {next : Unit → Watched α} (h : Does (next ()) report ends P) :
    Does (observe moments >>= next) report ends P := .behind hmoments h

/-- A program that cannot fail is run to its end. -/
theorem Does.run {program : InPlace σ β} {s : σ} {r : σ × β} (hleads : program.Leads s (.ok r))
    {next : σ × β → Watched α} (h : Does (next r) report ends P) :
    Does (Watched.run program s >>= next) report ends P := by
  obtain ⟨more, hmore, hrun⟩ := hleads
  have hwatched : Watched.run program s = ⟨more, pure r⟩ := by
    simp only [Watched.run, hrun, List.nil_append]
  rw [hwatched]
  exact .behind hmore h

theorem does_ofExcept {call : Except Failure α}
    (h : ∀ failure, call = .error failure → ends failure) :
    Does (ofReport (Report.ofExcept call)) (Report.ofExcept call) ends fun _ => True where
  report_eq := rfl
  moments := List.forall_mem_nil _
  rejections := List.forall_mem_nil _
  value := fun _ _ => trivial
  failure := h

/-- Events, none of which rejects a row unless its failure is one that a row can have. -/
theorem does_announce {events : List Event}
    (h : ∀ rejected ∈ events.filterMap Event.rejection?, rejected.2.IsOfRow) :
    Does (ofReport (Report.announce events)) (Report.announce events) ends fun _ => True where
  report_eq := rfl
  moments := List.forall_mem_nil _
  rejections := h
  value := fun _ _ => trivial
  failure := nofun

theorem does_log {lines : List Note} (h : NoSkips lines) :
    Does (ofReport (Report.log lines)) (Report.log lines) ends fun _ => True :=
  does_announce (h.rejections ▸ List.forall_mem_nil _)

theorem does_line {line : Note} (h : (Event.note line).rejection? = none) :
    Does (ofReport (Report.log [line])) (Report.log [line]) ends fun _ => True :=
  does_announce (by simp [h])

theorem does_fail {failure : Failure} (h : ends failure) :
    Does (ofReport (Report.fail failure) : Watched α) (Report.fail failure) ends P where
  report_eq := rfl
  moments := List.forall_mem_nil _
  rejections := List.forall_mem_nil _
  value := nofun
  failure := by
    intro other hother
    exact Except.error.inj hother ▸ h

end Watched

open Watched

/-! ## Passes -/

/-- Rows are offered in place as they are offered to a state. Whatever the rows before were, a row
in place leads where its acceptance does, its failure is one that a row can have, and the indexes
fit the graphs that `view` shows. -/
structure OffersInPlace (program : Nat → ρ → InPlace σ (List Note)) (accept : Acceptance ρ σ)
    (view : σ → Network) (Inv : σ → Prop) : Prop where
  leads : ∀ {s}, Inv s → ∀ position row, (program position row).Leads s (accept position row s)
  keeps : ∀ {s}, Inv s → ∀ {position row next notes}, accept position row s = .ok (next, notes) →
    Inv next
  refuses : ∀ {s}, Inv s → ∀ {position row failure}, accept position row s = .error failure →
    failure.IsOfRow
  quiet : accept.Quiet
  shows : ∀ {s}, Inv s → (view s).Registered

/-- Rows that follow a check are offered in place. -/
theorem Acceptance.Follows.offersInPlace {accept : Acceptance ρ σ}
    {check : List ρ → Nat → ρ → Option Failure} {Holds : List ρ → σ → Prop}
    (follows : accept.Follows check Holds) {program : Nat → ρ → InPlace σ (List Note)}
    {view : σ → Network}
    (leads : ∀ {kept s}, Holds kept s → ∀ position row,
      (program position row).Leads s (accept position row s))
    (checks : ∀ {kept position row failure}, check kept position row = some failure →
      failure.IsOfRow)
    (quiet : accept.Quiet) (shows : ∀ {kept s}, Holds kept s → (view s).Registered) :
    OffersInPlace program accept view fun s => ∃ kept, Holds kept s where
  leads := by
    rintro s ⟨kept, h⟩
    exact leads h
  keeps := by
    rintro s ⟨kept, h⟩ position row next notes hok
    cases hcheck : check kept position row with
    | some failure => cases hok.symm.trans (follows.refuses h hcheck)
    | none =>
      obtain ⟨_, _, hok', hnext⟩ := follows.accepts h hcheck
      cases hok.symm.trans hok'
      exact ⟨kept ++ [row], hnext⟩
  refuses := by
    rintro s ⟨kept, h⟩ position row failure herror
    cases hcheck : check kept position row with
    | none =>
      obtain ⟨_, _, hok, -⟩ := follows.accepts h hcheck
      cases herror.symm.trans hok
    | some failure' =>
      cases herror.symm.trans (follows.refuses h hcheck)
      exact checks hcheck
  quiet := quiet
  shows := by
    rintro s ⟨kept, h⟩
    exact shows h

section
variable {program : Nat → ρ → InPlace σ (List Note)} {accept : Acceptance ρ σ} {view : σ → Network}
  {Inv : σ → Prop} {ends : Failure → Prop}

theorem does_passInPlace (offers : OffersInPlace program accept view Inv) {policy : RowPolicy}
    {kind : RecordKind} {tick : Nat → Event} (htick : ∀ i, (tick i).rejection? = none)
    (hends : ∀ failure : Failure, failure.IsOfRow → ends failure) (position : Nat)
    (rows : List ρ) {s : σ} (h : Inv s) :
    Does (passInPlace policy kind tick view program position rows s)
      (pass policy kind tick accept position rows s) ends fun r => Inv r.1 := by
  induction rows generalizing position s with
  | nil => exact does_pure h
  | cons row rest ih =>
    obtain ⟨more, hmore, hrun⟩ := offers.leads h position row
    rw [passInPlace, pass, hrun, List.nil_append]
    cases hrow : accept position row s with
    | ok reached =>
      obtain ⟨next, notes⟩ := reached
      have hnext := offers.keeps h hrow
      refine .observe ?_ (.bind (does_announce ?_) fun _ _ => ih (position + 1) hnext)
      · refine List.forall_mem_append.mpr ⟨hmore, ?_⟩
        exact isSafe_pauses (offers.shows hnext)
      · rw [List.filterMap_append, (offers.quiet _ _ _ _ _ hrow).rejections]
        simp [htick]
    | error failure =>
      have hfailure := offers.refuses h hrow
      refine .observe ?_ ?_
      · refine List.forall_mem_append.mpr ⟨hmore, ?_⟩
        simp [Moment.IsSafe, hfailure, offers.shows h]
      · cases policy with
        | fail => exact does_fail (hends failure hfailure)
        | skip =>
          have hrest := ih (position + 1) h
          refine .bind (does_announce ?_) fun _ _ => hrest.bind fun r hr => does_pure hr
          simp [htick, hfailure]

end

/-! ## Failures of rows -/

theorem isOfRow_of_firstFailure {checks : List Check}
    (hchecks : ∀ check ∈ checks, check.failure.IsOfRow) {failure : Failure}
    (h : firstFailure checks = some failure) : failure.IsOfRow := by
  obtain ⟨check, hcheck, -, rfl⟩ := exists_of_firstFailure_eq_some h
  exact hchecks check hcheck

/-! ## The phases -/

/-- A network of rows with public transport networks that find their stops finds all its records. -/
theorem Network.HoldsRoads.registered_withTransit {nodes : List NodeRow}
    {sections : List SectionRow} {roads : Network} (h : roads.HoldsRoads nodes sections)
    {transit : List TransitNetwork} (htransit : ∀ t ∈ transit, t.Registered) :
    (roads.withTransit transit).Registered := by
  have hroads : (roads.withTransit transit).HoldsRoads nodes sections :=
    ⟨h.vertices, h.nodeIndex, h.arcs, h.sectionIndex⟩
  refine hroads.registered fun place t ht => htransit t ?_
  exact List.mem_of_getElem? (by simpa [withTransit] using ht)

theorem offersInPlace_nodes :
    OffersInPlace (fun _ row => InPlace.offerNode row) Network.offerNode (·.withTransit [])
      fun n => ∃ kept, n.HoldsRoads kept [] :=
  Network.follows_offerNode.offersInPlace
    (fun _ position row => InPlace.leads_offerNode position row _)
    (isOfRow_of_firstFailure (by simp [NodeRow.checks, Failure.IsOfRow]))
    (notesAt_offerNode.quiet (by decide))
    fun h => h.registered_withTransit (List.forall_mem_nil _)

theorem offersInPlace_sections (nodes : List NodeRow) :
    OffersInPlace InPlace.offerSection Network.offerSection (·.withTransit [])
      fun n => ∃ kept, n.HoldsRoads nodes kept :=
  (Network.follows_offerSection nodes).offersInPlace
    (fun h position row => InPlace.leads_offerSection h position row)
    (isOfRow_of_firstFailure (by simp [SectionRow.checks, Failure.IsOfRow]))
    (notesAt_offerSection.quiet (by decide))
    fun h => h.registered_withTransit (List.forall_mem_nil _)

/-- The claims that an intake keeps are those of its stops. -/
theorem StopIntake.Linked.isOf {linking : StationLinking} {rows : TransitRows} {s : StopIntake}
    (h : s.Linked linking rows.stops) : ∀ claim ∈ s.pending, claim.IsOf rows := by
  cases linking with
  | singlePass =>
    obtain ⟨-, -, hnone⟩ := h
    rw [hnone]
    exact List.forall_mem_nil _
  | twoPass =>
    obtain ⟨-, -, hclaims⟩ := h
    intro claim hclaim
    rw [← List.mem_reverse, hclaims, claimsOf, List.mem_filterMap] at hclaim
    obtain ⟨⟨row, stop⟩, hrow, hclaim⟩ := hclaim
    obtain ⟨station, -, rfl⟩ := Option.map_eq_some_iff.mp hclaim
    have hrow := List.mk_mem_zipIdx_iff_getElem?.mp hrow
    simp [StationClaim.IsOf, hrow]

section
variable {sections : List RecordId} {index : IdIndex} {view : TransitNetwork → Network}
  (hview : ∀ t : TransitNetwork, t.Registered → (view t).Registered)
include hview

theorem offersInPlace_stops (linking : StationLinking) (hindex : index.Lists .roadSection sections)
    (id : RecordId) (name : String) :
    OffersInPlace (InPlace.offerStop linking index) (StopIntake.offer linking index)
      (fun s => view s.network) fun s =>
        ∃ kept, s.network.Holds sections ⟨id, name, kept, []⟩ ∧ s.Linked linking kept :=
  (StopIntake.follows_offer_linked linking hindex id name).offersInPlace
    (fun h position row => InPlace.leads_offerStop linking hindex h.1 position row)
    (isOfRow_of_firstFailure (by simp [StopRow.checks, Failure.IsOfRow]))
    ((StopIntake.notesAt_offer linking index).quiet (by decide))
    fun h => hview _ h.1.registered

theorem offersInPlace_connections (rows : TransitRows) :
    OffersInPlace InPlace.offerConnection TransitNetwork.offerConnection view fun n =>
      ∃ kept, n.Holds sections { rows with connections := kept } :=
  (TransitNetwork.follows_offerConnection sections rows).offersInPlace
    (fun h position row => InPlace.leads_offerConnection h position row)
    (isOfRow_of_firstFailure (by simp [ConnectionRow.checks, Failure.IsOfRow]))
    (notesAt_offerConnection.quiet (by decide))
    fun h => hview _ h.registered

theorem does_importStops {ends : Failure → Prop}
    (hends : ∀ failure : Failure, failure.IsOfRow → ends failure) (options : ImportOptions)
    (hindex : index.Lists .roadSection sections) (done total : Nat) (rows : TransitRows) :
    Does (importStopsInPlace options index view done total rows)
      (importStops options index done total rows) ends
      fun stops => ∃ kept, stops.network.Holds sections kept := by
  have offers := offersInPlace_stops hview options.stationLinking hindex rows.networkId rows.name
  refine (does_passInPlace offers (fun _ => rfl) hends 0 rows.stops (s := emptyIntake rows)
    ⟨[], TransitNetwork.holds_empty sections _ _, StopIntake.linked_emptyIntake _ rows⟩).bind ?_
  rintro ⟨intake, skipped⟩ ⟨kept, hholds, hlinked⟩
  have hsettled := StopIntake.holds_settle hholds
  refine .run (InPlace.leads_settle hholds hlinked.isOf) (.observe ?_ (.bind (does_log ?_) ?_))
  · exact isSafe_pauses (hview _ hsettled.registered)
  · exact noSkips_of_level (by decide) intake.notesAt_settle
  · exact fun _ _ => does_pure ⟨_, hsettled⟩

theorem does_importConnections {ends : Failure → Prop}
    (hends : ∀ failure : Failure, failure.IsOfRow → ends failure) (policy : RowPolicy)
    (done total : Nat) (stops : StopYield)
    (h : ∃ kept, stops.network.Holds sections kept) :
    Does (importConnectionsInPlace policy view done total stops)
      (importConnections policy done total stops) ends fun result => result.1.Registered := by
  obtain ⟨kept, hkept⟩ := h
  refine (does_passInPlace (offersInPlace_connections hview kept) (fun _ => rfl) hends 0
    stops.connections ⟨kept.connections, hkept⟩).imp ?_
  rintro result ⟨connections, hresult⟩
  exact hresult.registered

end

theorem does_networksInPlace {nodes : List NodeRow} {sections : List SectionRow} {roads : Network}
    (hroads : roads.HoldsRoads nodes sections) {size : β → Nat} {one : Nat → β → Report α}
    {all : Nat → List β → Report (List α)} (inTurn : InTurn size one all)
    {oneInPlace : (TransitNetwork → Network) → Nat → β → Watched α} {before : β → TransitNetwork}
    {after : α → TransitNetwork} {ends : Failure → Prop} {P : β → Prop} {Q : α → Prop}
    (hone : ∀ view : TransitNetwork → Network, (∀ t, t.Registered → (view t).Registered) →
      ∀ done item, P item → Does (oneInPlace view done item) (one done item) ends Q)
    (hbefore : ∀ item, P item → (before item).Registered)
    (hafter : ∀ result, Q result → (after result).Registered)
    (done : Nat) {finished : List TransitNetwork} (hfinished : ∀ t ∈ finished, t.Registered)
    {items : List β} (hitems : ∀ item ∈ items, P item) :
    Does (networksInPlace roads size before after oneInPlace done finished items) (all done items)
      ends fun results => ∀ result ∈ results, Q result := by
  induction items generalizing done finished with
  | nil =>
    rw [networksInPlace, inTurn.nil]
    exact does_pure (List.forall_mem_nil _)
  | cons item rest ih =>
    rw [List.forall_mem_cons] at hitems
    rw [networksInPlace, inTurn.cons]
    have hview : ∀ t : TransitNetwork, t.Registered →
        (roads.withTransit (finished ++ t :: rest.map before)).Registered := by
      intro t ht
      refine hroads.registered_withTransit (List.forall_mem_append.mpr ⟨hfinished, ?_⟩)
      refine List.forall_mem_cons.mpr ⟨ht, List.forall_mem_map.mpr fun other hother => ?_⟩
      exact hbefore other (hitems.2 other hother)
    refine (hone _ hview done item hitems.1).bind fun first hfirst => ?_
    have hgrown : ∀ t ∈ finished ++ [after first], t.Registered :=
      List.forall_mem_append.mpr ⟨hfinished, List.forall_mem_singleton.mpr (hafter first hfirst)⟩
    exact (ih _ hgrown hitems.2).bind fun others hothers =>
      does_pure (List.forall_mem_cons.mpr ⟨hfirst, hothers⟩)

section
variable {nodes : List NodeRow} {sections : List SectionRow} {roads : Network}
  (hroads : roads.HoldsRoads nodes sections) {ends : Failure → Prop}
  (hends : ∀ failure : Failure, failure.IsOfRow → ends failure)
include hroads hends

theorem does_importAllStops (options : ImportOptions) (total : Nat) (networks : List TransitRows) :
    Does (networksInPlace roads (·.stops.length) TransitRows.start (·.network)
        (fun view done => importStopsInPlace options roads.sectionIndex view done total) 0 []
        networks)
      (importAllStops options roads.sectionIndex total 0 networks) ends
      fun yields => ∀ stops ∈ yields, ∃ kept,
        stops.network.Holds (sections.map (·.id)) kept :=
  does_networksInPlace hroads (inTurn_importAllStops options roads.sectionIndex total)
    (P := fun _ => True)
    (fun _ hview done rows _ =>
      does_importStops hview hends options hroads.sectionIndex done total rows)
    (fun rows _ => TransitNetwork.registered_empty rows.networkId rows.name)
    (fun _ ⟨_, hheld⟩ => hheld.registered) 0 (List.forall_mem_nil _) fun _ _ => trivial

theorem does_importAllConnections (policy : RowPolicy) (total : Nat) {yields : List StopYield}
    (hyields : ∀ stops ∈ yields, ∃ kept, stops.network.Holds (sections.map (·.id)) kept) :
    Does (networksInPlace roads (·.connections.length) (·.network) (·.1)
        (fun view done => importConnectionsInPlace policy view done total) 0 [] yields)
      (importAllConnections policy total 0 yields) ends
      fun transit => ∀ result ∈ transit, result.1.Registered :=
  have inTurn : InTurn (·.connections.length) (fun done => importConnections policy done total)
      (importAllConnections policy total) := ⟨fun _ => rfl, fun _ _ _ => rfl⟩
  does_networksInPlace hroads inTurn
    (fun _ hview done stops hheld =>
      does_importConnections hview hends policy done total stops hheld)
    (fun _ ⟨_, hheld⟩ => hheld.registered) (fun _ h => h) 0 (List.forall_mem_nil _) hyields

end

/-! ## The whole import -/

/-- A stream of a source cannot be had, for a reason. -/
def RowSource.Breaks (source : RowSource) (failure : Failure) : Prop :=
  source.nodes = .error failure ∨ source.sections = .error failure ∨
    source.networks = .error failure

theorem does_importInPlace (source : RowSource) (options : ImportOptions) :
    Does (importInPlace source options) (importNetwork source options)
      (fun failure => failure.IsOfRow ∨ source.Breaks failure) fun _ => True := by
  have hends : ∀ failure : Failure, failure.IsOfRow → failure.IsOfRow ∨ source.Breaks failure :=
    fun _ h => .inl h
  unfold importInPlace importNetwork
  refine .observe (isSafe_pauses Network.registered_empty) ?_
  refine .bind (does_ofExcept fun failure h => .inr (.inl h)) fun nodes _ => ?_
  refine .bind (does_line rfl) fun _ _ => ?_
  refine (does_passInPlace offersInPlace_nodes (fun _ => rfl) hends 0 nodes
    ⟨[], Network.holdsRoads_empty⟩).bind ?_
  rintro ⟨network, skippedNodes⟩ ⟨nodesKept, hnodes⟩
  refine .bind (does_ofExcept fun failure h => .inr (.inr (.inl h))) fun sections _ => ?_
  refine .bind (does_line rfl) fun _ _ => ?_
  refine (does_passInPlace (offersInPlace_sections nodesKept) (fun _ => rfl) hends 0 sections
    ⟨[], hnodes⟩).bind ?_
  rintro ⟨roads, skippedSections⟩ ⟨sectionsKept, hroads⟩
  refine .bind (does_ofExcept fun failure h => .inr (.inr (.inr h))) fun networks _ => ?_
  refine .observe (isSafe_pauses (hroads.registered_withTransit ?_)) ?_
  · exact List.forall_mem_map.mpr fun rows _ =>
      TransitNetwork.registered_empty rows.networkId rows.name
  refine .bind (does_line rfl) fun _ _ => ?_
  refine (does_importAllStops hroads hends options _ networks).bind fun yields hyields => ?_
  refine .bind (does_line rfl) fun _ _ => ?_
  refine (does_importAllConnections hroads hends options.onRowError _ hyields).bind ?_
  intro transit htransit
  have hlinked := hroads.registered_withTransit (List.forall_mem_map.mpr htransit)
  refine .observe (isSafe_pauses ?_) ?_
  · exact ⟨hlinked.nodes, hlinked.sections, hlinked.stops⟩
  refine .bind (does_announce (List.forall_mem_nil _)) fun _ _ => ?_
  split
  · exact .bind (does_line rfl) fun _ _ => .bind (does_line rfl) fun _ _ => does_pure trivial
  · exact .bind (does_line rfl) fun _ _ => does_pure trivial

/-- An import in place reports what `importNetwork` does, and nothing goes wrong inside on its way,
also when it fails in the end: sections and connections are added between handles that are there,
only new ids are registered, a station is refused only to itself, a row fails only because its id is
taken, it refers to a record that is not there or it is malformed, and after every row the indexes
lead to exactly the records that the graphs hold. So the log names no other failures of rows, and
if the import fails, it is with one of these or for want of a stream. -/
theorem importInPlace_safe (source : RowSource) (options : ImportOptions) :
    (importInPlace source options).report = importNetwork source options ∧
      (∀ moment ∈ (importInPlace source options).moments, moment.IsSafe) ∧
      (∀ rejected ∈ (importNetwork source options).rejections, rejected.2.IsOfRow) ∧
      ∀ failure, (importNetwork source options).outcome = .error failure →
        failure.IsOfRow ∨ source.Breaks failure :=
  have h := does_importInPlace source options
  ⟨h.report_eq, h.moments, h.rejections, h.failure⟩

/-- Six rows of `detour` fail, and it is looked at twenty times: after each row, after the claims of
each network, before the first stop and at both ends. -/
example :
    let moments := (importInPlace detour.source ⟨.skip, .twoPass⟩).moments
    (moments.filter (· matches .fails _)).length = 6 ∧
      (moments.filter (· matches .pauses _)).length = 20 := by
  decide +kernel

end Multimodal
