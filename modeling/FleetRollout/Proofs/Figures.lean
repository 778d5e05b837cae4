import FleetRollout.Proofs.Counting
import FleetRollout.Proofs.Limits
import FleetRollout.Proofs.Records
import FleetRollout.Proofs.Sorting
import Mathlib.Data.String.Basic

set_option autoImplicit false

/-!
The figures of a group agree with each other. The counters, the census and the shares of versions
are each counted on their own over the same fleet. Most of what relates them holds of any rows;
that all who are under way are either running or timed out rests on what is on record of them.
-/

namespace FleetRollout

open Store FleetRollout.Action

namespace VersionShare

def Precedes (earlier later : VersionShare) : Prop :=
  Version.textRank later.version < Version.textRank earlier.version ∨
    Version.textRank later.version = Version.textRank earlier.version ∧
      earlier.version < later.version

-- Places in the listing, the newest version lowest.
def place (share : VersionShare) : (WithBot Version.Rank)ᵒᵈ ×ₗ String :=
  toLex (OrderDual.toDual (Version.textRank share.version), share.version)

theorem precedes_iff {earlier later : VersionShare} :
    earlier.Precedes later ↔ earlier.place < later.place := by
  rw [place, place, Prod.Lex.toLex_lt_toLex, OrderDual.toDual_lt_toDual, OrderDual.toDual_inj]
  exact or_congr Iff.rfl (and_congr_left' eq_comm)

theorem mayPrecede_iff (left right : VersionShare) :
    mayPrecede left right = true ↔ left.place ≤ right.place := by
  rw [mayPrecede, Version.listingOrder_eq_compare, place, place, Prod.Lex.toLex_le_toLex]
  simp only [OrderDual.toDual_lt_toDual, OrderDual.toDual_inj]
  rcases lt_trichotomy (Version.textRank right.version) (Version.textRank left.version) with
    newer | level | older
  · rw [compare_lt_iff_lt.mpr newer]
    exact iff_of_true rfl (.inl newer)
  · rw [compare_eq_iff_eq.mpr level]
    simp [level]
  · rw [compare_gt_iff_gt.mpr older]
    simp [older.not_gt, older.ne]

end VersionShare

/-- The figures all tell of the fleet, each in its own way. -/
structure FiguresAgree (fleet : List Installation) (counters : UpdateCounters)
    (census : StatusCensus) (shares : List VersionShare) : Prop where
  census_total : census.total = counters.total
  shares_total : (shares.map (·.instances)).sum = counters.total
  statuses : (Status.every.map census.count).sum = census.total
  under_way : counters.inProgress + counters.timedOut =
    census.count .updateGranted + census.count .downloading + census.count .downloaded +
      census.count .installed
  outcomes : counters.succeeded + counters.failed ≤ counters.attempted
  attempted : counters.attempted ≤ counters.granted
  granted : counters.granted ≤ counters.total
  ended : counters.attempted ≤ census.count .complete + census.count .error
  distinct : (shares.map (·.version)).Nodup
  listed : ∀ version, version ∈ shares.map (·.version) ↔ ∃ row ∈ fleet, row.version = version
  ordered : shares.Pairwise VersionShare.Precedes

namespace Store

variable {store : Store} {query : CounterQuery} {groupId : String}

theorem census_eq (store : Store) (groupId : String) :
    store.census groupId 0 = .ofStatuses ((store.fleet groupId).map (·.status)) := by
  simp [census, seenSince]

theorem total_census (store : Store) (groupId : String) :
    (store.census groupId 0).total = (store.fleet groupId).length := by
  rw [census_eq, StatusCensus.total_ofStatuses, List.length_map]

theorem sum_census {kinds : List Status} (distinct : kinds.Nodup) (store : Store)
    (groupId : String) :
    (kinds.map (store.census groupId 0).count).sum =
      (store.fleet groupId).countP fun row => row.status ∈ kinds := by
  rw [census_eq, funext (StatusCensus.count_ofStatuses _), sum_count distinct, List.countP_map]
  rfl

def shareOf (versions : List String) (version : String) : VersionShare :=
  { version
    instances := versions.count version
    percentage := VersionShare.percent (versions.count version) versions.length }

theorem versionShares_eq (store : Store) (groupId : String) :
    store.versionShares groupId 0 =
      Sorting.sortBy VersionShare.mayPrecede
        (((store.fleet groupId).map (·.version)).eraseDups.map
          (shareOf ((store.fleet groupId).map (·.version)))) := by
  have everyone : store.seenSince groupId 0 = store.fleet groupId := by simp [seenSince]
  unfold versionShares
  rw [everyone]
  rfl

theorem versions_perm (store : Store) (groupId : String) :
    ((store.versionShares groupId 0).map (·.version)).Perm
      ((store.fleet groupId).map (·.version)).eraseDups := by
  have perm := (Sorting.sortBy_perm VersionShare.mayPrecede
    (((store.fleet groupId).map (·.version)).eraseDups.map
      (shareOf ((store.fleet groupId).map (·.version))))).map (·.version)
  rw [← versionShares_eq, List.map_map] at perm
  simpa [Function.comp_def, shareOf] using perm

theorem sum_versionShares (store : Store) (groupId : String) :
    ((store.versionShares groupId 0).map (·.instances)).sum = (store.fleet groupId).length := by
  rw [versionShares_eq, ((Sorting.sortBy_perm _ _).map _).sum_eq, List.map_map]
  calc
    _ = (((store.fleet groupId).map (·.version)).eraseDups.map
          ((store.fleet groupId).map (·.version)).count).sum := rfl
    _ = ((store.fleet groupId).map (·.version)).length := sum_count_eraseDups _
    _ = (store.fleet groupId).length := List.length_map _

theorem versionShares_ordered (store : Store) (groupId : String) :
    (store.versionShares groupId 0).Pairwise VersionShare.Precedes := by
  rw [versionShares_eq]
  have distinct : (((store.fleet groupId).map (·.version)).eraseDups.map
      (shareOf ((store.fleet groupId).map (·.version)))).Pairwise
        fun earlier later => earlier.version ≠ later.version :=
    List.pairwise_map.mpr (nodup_eraseDups _)
  refine (Sorting.sortBy_ascends VersionShare.mayPrecede_iff distinct).imp ?_
  rintro earlier later (lower | ⟨level, apart⟩)
  · exact VersionShare.precedes_iff.mpr lower
  · -- No two shares are of one version, so no two have one place.
    exact absurd (congrArg (fun place => (ofLex place).2) level) apart

end Store

namespace CounterQuery

variable (query : CounterQuery) (row : Installation)

-- Who is under way and was granted an update is on time or late.
theorem running_add_timedOut :
    (query.isRunning row).toNat + (query.isTimedOut row).toNat =
      (row.inProgress && row.grantedAt.isSome).toNat := by
  unfold isRunning isTimedOut
  cases row.inProgress
  · rfl
  · cases row.grantedAt with
    | none => rfl
    | some time => cases late : query.isLate time <;> simp [late]

theorem success_add_failure :
    (query.isSuccess row).toNat + (query.isFailure row).toNat =
      (query.isSuccess row || query.isFailure row).toNat := by
  unfold isSuccess isFailure
  cases row.status <;> simp

variable {query row}

theorem isAttempt_of_ended (ended : (query.isSuccess row || query.isFailure row) = true) :
    query.isAttempt row = true := by
  simp only [isSuccess, isFailure, Bool.or_eq_true, Bool.and_eq_true, decide_eq_true_eq] at ended
  rcases ended with ⟨⟨counted, complete⟩, -⟩ | ⟨counted, failed⟩
  · simp [isAttempt, counted, complete, Status.isTerminal]
  · simp [isAttempt, counted, failed, Status.isTerminal]

end CounterQuery

theorem Status.isTerminal_iff {status : Status} :
    status.isTerminal = true ↔ status ∈ [Status.complete, .error] := by
  cases status <;> simp [isTerminal]

theorem Installation.Consistent.underWay_iff {row : Installation} (consistent : row.Consistent) :
    (row.inProgress && row.grantedAt.isSome) = true ↔
      row.status ∈ [Status.updateGranted, .downloading, .downloaded, .installed] := by
  rw [Bool.and_eq_true, consistent.inProgress, and_iff_left_iff_imp]
  intro inFlight
  -- No status is in flight without a grant.
  refine consistent.granted ?_
  simp only [List.mem_cons] at inFlight ⊢
  tauto

/-- All figures of a group agree in every state that is reached. -/
theorem figures_agree {engine : Engine} (reached : Reachable engine) (query : CounterQuery) :
    FiguresAgree (engine.store.fleet query.groupId) (engine.store.updateCounters query)
      (engine.store.census query.groupId 0) (engine.store.versionShares query.groupId 0) where
  census_total := total_census engine.store query.groupId
  shares_total := sum_versionShares engine.store query.groupId
  statuses := by
    rw [sum_census (by decide), total_census, List.countP_eq_length]
    intro row _
    cases row.status <;> decide
  under_way := by
    -- The one figure that asks what the rows are: by their flag and grant, or by their status.
    have distinct : [Status.updateGranted, .downloading, .downloaded, .installed].Nodup := by decide
    have inFlight := sum_census distinct engine.store query.groupId
    simp only [List.map_cons, List.map_nil, List.sum_cons, List.sum_nil] at inFlight
    calc
      _ = (engine.store.fleet query.groupId).countP fun row =>
            row.inProgress && row.grantedAt.isSome := countP_add query.running_add_timedOut _
      _ = (engine.store.fleet query.groupId).countP fun row =>
            row.status ∈ [Status.updateGranted, .downloading, .downloaded, .installed] := by
        refine List.countP_congr fun row member => ?_
        have found := (reached.keyed.mem_fleet.mp member).1
        rw [(reached.onRecord.consistent _ row found).underWay_iff, decide_eq_true_eq]
      _ = _ := by omega
  outcomes := by
    refine (countP_add query.success_add_failure _).le.trans (List.countP_mono_left ?_)
    exact fun row _ => CounterQuery.isAttempt_of_ended
  attempted := List.countP_mono_left fun row _ attempt => (Bool.and_eq_true_iff.mp attempt).1
  granted := List.countP_le_length
  ended := by
    have distinct : [Status.complete, .error].Nodup := by decide
    have terminal := sum_census distinct engine.store query.groupId
    simp only [List.map_cons, List.map_nil, List.sum_cons, List.sum_nil, Nat.add_zero] at terminal
    rw [terminal]
    refine List.countP_mono_left fun row _ attempt => ?_
    exact decide_eq_true (Status.isTerminal_iff.mp (Bool.and_eq_true_iff.mp attempt).2)
  distinct := (versions_perm engine.store query.groupId).nodup_iff.mpr (nodup_eraseDups _)
  listed version := by
    rw [(versions_perm engine.store query.groupId).mem_iff, List.mem_eraseDups, List.mem_map]
  ordered := versionShares_ordered engine.store query.groupId

def Operation.mixedFleet : List Operation :=
  let joins (instanceId version : String) : Operation :=
    .updatePlan { Registration.firstContact with instanceId, version } .single
  let reports (instanceId : String) (kind result : Nat) : Operation :=
    .registerEvent
      { instanceId, applicationId := "agent", groupId := "fleet", event := { kind, result } }
  smallCatalog ++
    [ .updateGroup
        { Group.oneByOne with policy := { safeMode := false, maxUpdatesPerPeriod := 10 } },
      joins "late" "1.0.0", .advance 7200,
      joins "loading" "2.0.0", reports "loading" 13 1,
      joins "midway" "1.0.0", reports "midway" 3 2,
      joins "failed" "2.0.0", reports "failed" 3 0,
      joins "done" "2.0.0", reports "done" 3 2,
      joins "current" "3.0.0",
      joins "\x7b8a0f3d7e-0000-4000-8000-000000000001\x7d" "2.0.0" ]

def CounterQuery.ofFleet (now : Nat) : CounterQuery :=
  { groupId := "fleet", version := "3.0.0", periodSeconds := 3600, timeoutSeconds := 3600, now }

theorem figures_agree_mixedFleet :
    let engine := Operation.runAll {} Operation.mixedFleet
    let query := CounterQuery.ofFleet engine.now
    let shares := engine.store.versionShares "fleet" 0
    Reachable engine ∧
      FiguresAgree (engine.store.fleet "fleet") (engine.store.updateCounters query)
        (engine.store.census "fleet" 0) shares ∧
      engine.store.updateCounters query =
        { total := 6, granted := 5, attempted := 3, succeeded := 1, failed := 1
          grantedInPeriod := 4, inProgress := 1, timedOut := 1 } ∧
      shares.map (fun share => (share.version, share.instances)) =
        [("3.0.0", 2), ("2.0.0", 3), ("1.0.0", 1)] := by
  intro engine query shares
  have reached : Reachable engine := (ReachableBy.start {} rfl).runAll (by decide +kernel)
  exact ⟨reached, figures_agree reached query, by decide +kernel⟩

end FleetRollout
