import Countersign.Proofs.ChainBuild

/-!
What a scan reports. Each loan that waits for a chain either gets one or is passed over for a reason
that its record and the directory give; what was built earlier in the scan has no say in that. So
a scan right after finds only those that were passed over, and nothing to do about them.
-/

namespace Countersign

/-! The loans that wait for a chain. -/

namespace Ledger

variable {ledger : Ledger}

theorem mem_scheduledLoans (inOrder : ledger.InOrder) {loan : LoanId} :
    loan ∈ ledger.scheduledLoans ↔ ∃ record, ledger.loan? loan = some record ∧ record.scheduleActive = true := by
  rw [scheduledLoans, List.mem_map]
  constructor
  · intro listed
    obtain ⟨record, mem, rfl⟩ := listed
    obtain ⟨mem, active⟩ := List.mem_filter.mp mem
    obtain ⟨key, found⟩ := (Table.mem_values_iff ..).mp mem
    rw [inOrder.keyed key record found]
    exact ⟨record, found, active⟩
  · intro scheduled
    obtain ⟨record, found, active⟩ := scheduled
    have listed := (Table.mem_values_iff ledger.loans record).mpr ⟨loan, found⟩
    exact ⟨record, List.mem_filter.mpr ⟨listed, active⟩, inOrder.keyed loan record found⟩

theorem scheduledLoans_ascending (inOrder : ledger.InOrder) : ledger.scheduledLoans.Pairwise (· < ·) := by
  have keys : ledger.loans.values.map (·.id) = ledger.loans.keys := by
    rw [Table.values, Table.keys, List.map_map]
    refine List.map_congr_left fun row mem => ?_
    exact inOrder.keyed row.1 row.2 ((Table.get?_eq_some_iff ..).mpr mem)
  have ascending : (ledger.loans.values.map (·.id)).Pairwise (· < ·) := by
    rw [keys, Table.keys, List.pairwise_map]
    exact ledger.loans.ascending
  exact ascending.sublist ((List.filter_sublist).map _)

end Ledger

namespace Desk

def obstacle? (desk : Desk) (loan : LoanId) : Option SkipReason :=
  (desk.ledger.loan? loan).bind desk.directory.hindrance?

def waiting (desk : Desk) : List LoanId :=
  desk.ledger.scheduledLoans.filter fun loan => (desk.chains.stepsOf loan).isEmpty

theorem mem_waiting {desk : Desk} (inOrder : desk.ledger.InOrder) {loan : LoanId} :
    loan ∈ desk.waiting ↔
      (∃ record, desk.ledger.loan? loan = some record ∧ record.scheduleActive = true) ∧
        desk.chains.stepsOf loan = [] := by
  rw [waiting, List.mem_filter, Ledger.mem_scheduledLoans inOrder, List.isEmpty_iff]

theorem waiting_ascending {desk : Desk} (inOrder : desk.ledger.InOrder) : desk.waiting.Pairwise (· < ·) :=
  (Ledger.scheduledLoans_ascending inOrder).filter _

def ready (desk : Desk) (loans : List LoanId) : List LoanId := loans.filter fun loan => (desk.obstacle? loan).isNone

def hindered (desk : Desk) (loans : List LoanId) : List (LoanId × SkipReason) :=
  loans.filterMap fun loan => (desk.obstacle? loan).map fun reason => (loan, reason)

theorem obstacle?_congr {a b : Desk} (ledger : b.ledger = a.ledger) (directory : b.directory = a.directory) :
    b.obstacle? = a.obstacle? := by
  funext loan
  rw [obstacle?, ledger, directory, obstacle?]

theorem ready_congr {a b : Desk} (same : b.obstacle? = a.obstacle?) (loans : List LoanId) :
    b.ready loans = a.ready loans := by
  rw [ready, same, ready]

theorem hindered_congr {a b : Desk} (same : b.obstacle? = a.obstacle?) (loans : List LoanId) :
    b.hindered loans = a.hindered loans := by
  rw [hindered, same, hindered]

theorem ready_cons_of_some {desk : Desk} {loan : LoanId} {reason : SkipReason}
    (obstacle : desk.obstacle? loan = some reason) (rest : List LoanId) :
    desk.ready (loan :: rest) = desk.ready rest := by
  simp [ready, obstacle]

theorem ready_cons_of_none {desk : Desk} {loan : LoanId} (free : desk.obstacle? loan = none) (rest : List LoanId) :
    desk.ready (loan :: rest) = loan :: desk.ready rest := by
  simp [ready, free]

theorem hindered_cons_of_some {desk : Desk} {loan : LoanId} {reason : SkipReason}
    (obstacle : desk.obstacle? loan = some reason) (rest : List LoanId) :
    desk.hindered (loan :: rest) = (loan, reason) :: desk.hindered rest := by
  simp [hindered, obstacle]

theorem hindered_cons_of_none {desk : Desk} {loan : LoanId} (free : desk.obstacle? loan = none) (rest : List LoanId) :
    desk.hindered (loan :: rest) = desk.hindered rest := by
  simp [hindered, free]

structure BuiltAll (loans : List LoanId) (before after : Desk) : Prop where
  regular : after.chains.Regular
  ledger : after.ledger = before.ledger
  directory : after.directory = before.directory
  chained : ∀ loan ∈ loans, after.chains.stepsOf loan ≠ []
  others : ∀ loan, loan ∉ loans → after.chains.stepsOf loan = before.chains.stepsOf loan
  idle : loans = [] → after = before

theorem Built.stepsOf_eq {loan : LoanId} {before after : Desk} (built : Built loan before after)
    (regular : before.chains.Regular) {other : LoanId} (different : other ≠ loan) :
    after.chains.stepsOf other = before.chains.stepsOf other := by
  rw [built.turned.regular.stepsOf_eq, regular.stepsOf_eq, built.turned.others other different]

theorem BuiltAll.cons {loan : LoanId} {rest : List LoanId} {before next after : Desk} (regular : before.chains.Regular)
    (built : Built loan before next) (fresh : loan ∉ rest) (later : BuiltAll rest next after) :
    BuiltAll (loan :: rest) before after := by
  have begun : next.chains.stepsOf loan ≠ [] := by
    obtain ⟨step, mem, _⟩ := built.front.present
    rw [built.turned.regular.stepsOf_eq]
    exact List.ne_nil_of_mem mem
  refine ⟨later.regular, later.ledger.trans built.ledger, later.directory.trans built.directory, ?_, ?_,
    fun none => absurd none (List.cons_ne_nil _ _)⟩
  · intro other mem
    rcases List.mem_cons.mp mem with rfl | mem
    · rw [later.others other fresh]
      exact begun
    · exact later.chained other mem
  · intro other out
    have different : other ≠ loan := List.ne_of_not_mem_cons out
    rw [later.others other (List.not_mem_of_not_mem_cons out), built.stepsOf_eq regular different]

end Desk

namespace Engine

open Desk (Built BuiltAll)

variable (settings : Settings) (now : Timestamp)

theorem scanLoan_of_obstacle {desk : Desk} {loan : LoanId} {reason : SkipReason}
    (without : desk.chains.stepsOf loan = []) (obstacle : desk.obstacle? loan = some reason) (report : ScanReport) :
    (Desk.engine settings now).scanLoan report loan desk =
      .ok { report with skipped := report.skipped ++ [(loan, reason)] } desk := by
  obtain ⟨record, known, hindered⟩ := Option.bind_eq_some_iff.mp obstacle
  have skipped := (build_eq_skipped_iff settings now loan desk desk reason).mpr
    ⟨without, ⟨record, known, hindered⟩, rfl⟩
  rw [scanLoan, skipped]

theorem scanLoan_of_free {desk : Desk} {loan : LoanId} {record : Loan} (regular : desk.chains.Regular)
    (without : desk.chains.stepsOf loan = []) (known : desk.ledger.loan? loan = some record)
    (free : desk.directory.hindrance? record = none) (report : ScanReport) :
    ∃ after, Built loan desk after ∧ (Desk.engine settings now).scanLoan report loan desk =
      .ok { report with created := report.created ++ [loan] } after := by
  have noChain : desk.chains.chainOf loan = [] := (regular.stepsOf_eq loan).symm.trans without
  obtain ⟨turned, front⟩ := Desk.created_turns regular now noChain (Directory.levels_ne_nil free)
  let after : Desk := { desk with chains := (desk.created now loan (desk.directory.levels record)).2 }
  refine ⟨after, ⟨noChain, ⟨record, known⟩, turned, front, rfl, rfl⟩, ?_⟩
  rw [scanLoan, build_apply, if_neg (not_not.mpr without), known]
  simp only [free]
  rfl

/-- A scan of loans without chains, from a report on. What keeps those further down the list from getting
a chain, if anything does, is the same after each build. -/
theorem scanAll_apply (loans : List LoanId) {desk : Desk} (regular : desk.chains.Regular) (distinct : loans.Nodup)
    (known : ∀ loan ∈ loans, ∃ record, desk.ledger.loan? loan = some record)
    (without : ∀ loan ∈ loans, desk.chains.stepsOf loan = []) (report : ScanReport) :
    ∃ after, BuiltAll (desk.ready loans) desk after ∧
      loans.foldlM (Desk.engine settings now).scanLoan report desk =
        .ok ⟨report.created ++ desk.ready loans, report.skipped ++ desk.hindered loans, report.failed⟩ after := by
  induction loans generalizing desk report with
  | nil =>
    refine ⟨desk, ⟨regular, rfl, rfl, fun _ none => absurd none List.not_mem_nil, fun _ _ => rfl, fun _ => rfl⟩, ?_⟩
    change EStateM.Result.ok report desk = _
    simp [Desk.ready, Desk.hindered]
  | cons loan rest ih =>
    obtain ⟨fresh, distinct⟩ := List.nodup_cons.mp distinct
    obtain ⟨⟨record, found⟩, known⟩ := List.forall_mem_cons.mp known
    obtain ⟨new, without⟩ := List.forall_mem_cons.mp without
    rw [List.foldlM_cons]
    change ∃ after, _ ∧ EStateM.bind ((Desk.engine settings now).scanLoan report loan) _ desk = _
    rw [EStateM.bind]
    cases obstacle : desk.obstacle? loan with
    | some reason =>
      rw [scanLoan_of_obstacle settings now new obstacle report, Desk.ready_cons_of_some obstacle,
        Desk.hindered_cons_of_some obstacle, List.append_cons _ _ (desk.hindered rest)]
      exact ih regular distinct known without { report with skipped := report.skipped ++ [(loan, reason)] }
    | none =>
      have free : desk.directory.hindrance? record = none := by
        rwa [Desk.obstacle?, found] at obstacle
      obtain ⟨next, built, scanned⟩ := scanLoan_of_free settings now regular new found free report
      have same := Desk.obstacle?_congr built.ledger built.directory
      have laterWithout : ∀ other ∈ rest, next.chains.stepsOf other = [] := by
        intro other mem
        rw [built.stepsOf_eq regular fun same => fresh (same ▸ mem)]
        exact without other mem
      have laterKnown : ∀ other ∈ rest, ∃ record, next.ledger.loan? other = some record := by
        rw [built.ledger]
        exact known
      obtain ⟨after, builtLater, rescanned⟩ := ih built.turned.regular distinct laterKnown laterWithout
        { report with created := report.created ++ [loan] }
      rw [Desk.ready_congr same] at builtLater rescanned
      rw [Desk.hindered_congr same] at rescanned
      rw [scanned, Desk.ready_cons_of_none obstacle, Desk.hindered_cons_of_none obstacle,
        List.append_cons _ _ (desk.ready rest)]
      exact ⟨after, .cons regular built (fun mem => fresh (List.mem_of_mem_filter mem)) builtLater, rescanned⟩

theorem scan_apply {desk : Desk} (orderly : desk.Orderly) :
    ∃ after, BuiltAll (desk.ready desk.waiting) desk after ∧
      (Desk.engine settings now).scan desk = .ok ⟨desk.ready desk.waiting, desk.hindered desk.waiting, []⟩ after := by
  have distinct : desk.waiting.Nodup := (Desk.waiting_ascending orderly.ledger).imp Nat.ne_of_lt
  have listed {loan : LoanId} (mem : loan ∈ desk.waiting) := (Desk.mem_waiting orderly.ledger).mp mem
  have known : ∀ loan ∈ desk.waiting, ∃ record, desk.ledger.loan? loan = some record := fun loan mem =>
    (listed mem).1.imp fun _ found => found.1
  obtain ⟨after, built, scanned⟩ := scanAll_apply settings now desk.waiting orderly.chains distinct known
    (fun loan mem => (listed mem).2) ⟨[], [], []⟩
  refine ⟨after, built, ?_⟩
  change EStateM.bind (Desk.engine settings now).awaitingChain _ desk = _
  rw [EStateM.bind, awaitingChain_apply]
  exact scanned

end Engine

namespace Desk

/-- What a scan reports of the loans that waited for a chain, and what it does to the books. -/
structure Scanned (before after : Desk) (report : ScanReport) : Prop where
  created_ascending : report.created.Pairwise (· < ·)
  skipped_ascending : (report.skipped.map (·.1)).Pairwise (· < ·)
  apart : ∀ loan ∈ report.created, loan ∉ report.skipped.map (·.1)
  complete : ∀ loan, loan ∈ report.created ∨ loan ∈ report.skipped.map (·.1) ↔
    (∃ record, before.ledger.loan? loan = some record ∧ record.scheduleActive = true) ∧
      before.chains.stepsOf loan = []
  failed : report.failed = []
  /-- A build from the books before the scan would have given the same reason. -/
  reasons : ∀ settings now, ∀ row ∈ report.skipped,
    (Desk.engine settings now).build row.1 before = .ok (.skipped row.1 row.2) before
  chained : ∀ loan ∈ report.created, after.chains.stepsOf loan ≠ []
  others : ∀ loan, loan ∉ report.created → after.chains.stepsOf loan = before.chains.stepsOf loan
  ledger : after.ledger = before.ledger
  directory : after.directory = before.directory

theorem mem_hindered {desk : Desk} {loans : List LoanId} {row : LoanId × SkipReason} (mem : row ∈ desk.hindered loans) :
    row.1 ∈ loans ∧ desk.obstacle? row.1 = some row.2 := by
  obtain ⟨loan, listed, is⟩ := List.mem_filterMap.mp mem
  obtain ⟨reason, obstacle, rfl⟩ := Option.map_eq_some_iff.mp is
  exact ⟨listed, obstacle⟩

theorem hindered_loans (desk : Desk) (loans : List LoanId) :
    (desk.hindered loans).map (·.1) = loans.filter fun loan => (desk.obstacle? loan).isSome := by
  induction loans with
  | nil => rfl
  | cons loan rest ih =>
    cases obstacle : desk.obstacle? loan with
    | none => simp [hindered_cons_of_none obstacle, ih, obstacle]
    | some reason => simp [hindered_cons_of_some obstacle, ih, obstacle]

theorem BuiltAll.waiting_eq {before after : Desk} (built : BuiltAll (before.ready before.waiting) before after) :
    after.waiting = before.waiting.filter fun loan => (before.obstacle? loan).isSome := by
  rw [waiting, waiting, built.ledger, List.filter_filter]
  refine List.filter_congr fun loan scheduled => ?_
  by_cases mem : loan ∈ before.ready before.waiting
  · have free := Option.isNone_iff_eq_none.mp (List.mem_filter.mp mem).2
    simp [built.chained loan mem, free]
  · rw [built.others loan mem]
    by_cases without : before.chains.stepsOf loan = []
    · have waits : loan ∈ before.waiting := List.mem_filter.mpr ⟨scheduled, List.isEmpty_iff.mpr without⟩
      have unfree : ¬(before.obstacle? loan).isNone = true := fun free => mem (List.mem_filter.mpr ⟨waits, free⟩)
      simp [without, Option.isSome_iff_ne_none, mt Option.isNone_iff_eq_none.mpr unfree]
    · simp [without]

theorem ready_of_obstacles (desk : Desk) (loans : List LoanId) :
    desk.ready (loans.filter fun loan => (desk.obstacle? loan).isSome) = [] := by
  simp [ready, List.filter_filter]

theorem hindered_of_obstacles (desk : Desk) (loans : List LoanId) :
    desk.hindered (loans.filter fun loan => (desk.obstacle? loan).isSome) = desk.hindered loans := by
  induction loans with
  | nil => rfl
  | cons loan rest ih =>
    cases obstacle : desk.obstacle? loan with
    | none => simp [hindered_cons_of_none obstacle, ih, obstacle]
    | some reason => simp [hindered_cons_of_some obstacle, ih, obstacle]

theorem BuiltAll.reports {before after : Desk} (orderly : before.Orderly)
    (built : BuiltAll (before.ready before.waiting) before after) :
    Scanned before after ⟨before.ready before.waiting, before.hindered before.waiting, []⟩ := by
  have ascending := waiting_ascending orderly.ledger
  refine ⟨ascending.filter _, ?_, ?_, ?_, rfl, ?_, built.chained, built.others, built.ledger, built.directory⟩
  · rw [hindered_loans]
    exact ascending.filter _
  · intro loan mem
    have free := Option.isNone_iff_eq_none.mp (List.mem_filter.mp mem).2
    simp [hindered_loans, free]
  · intro loan
    rw [hindered_loans, ← mem_waiting orderly.ledger, ready, List.mem_filter, List.mem_filter]
    cases before.obstacle? loan <;> simp
  · intro settings now row mem
    obtain ⟨waits, obstacle⟩ := mem_hindered mem
    have without := ((mem_waiting orderly.ledger).mp waits).2
    have hindered := Option.bind_eq_some_iff.mp obstacle
    exact (Engine.build_eq_skipped_iff settings now row.1 before before row.2).mpr ⟨without, hindered, rfl⟩

/-- A scan reports each loan that waited once, in order, and a second one right after it finds nothing to do. -/
theorem scan_settles {settings : Settings} {desk : Desk} (reachable : Reachable settings desk) (now later : Timestamp) :
    ∃ report after, (Desk.engine settings now).scan desk = .ok report after ∧ Scanned desk after report ∧
      (Desk.engine settings later).scan after = .ok ⟨[], report.skipped, []⟩ after := by
  have orderly := reachable.orderly
  obtain ⟨after, built, scanned⟩ := Engine.scan_apply settings now orderly
  have orderlyAfter : after.Orderly := ⟨built.regular, built.ledger ▸ orderly.ledger⟩
  obtain ⟨last, rebuilt, rescanned⟩ := Engine.scan_apply settings later orderlyAfter
  have same := obstacle?_congr built.ledger built.directory
  have unready : after.ready after.waiting = [] := by
    rw [ready_congr same, built.waiting_eq, ready_of_obstacles]
  have hindered : after.hindered after.waiting = desk.hindered desk.waiting := by
    rw [hindered_congr same, built.waiting_eq, hindered_of_obstacles]
  refine ⟨_, after, scanned, built.reports orderly, ?_⟩
  rw [unready] at rebuilt rescanned
  rw [rescanned, hindered, rebuilt.idle rfl]

/-- Of the four loans one has no template. -/
theorem staffed_scans :
    ∃ after, (Desk.engine .standard .epoch).scan staffed = .ok ⟨[1, 2, 3], [(4, .noTemplate)], []⟩ after ∧
      Scanned staffed after ⟨[1, 2, 3], [(4, .noTemplate)], []⟩ ∧
      (Desk.engine .standard .epoch).scan after = .ok ⟨[], [(4, .noTemplate)], []⟩ after := by
  obtain ⟨report, after, scanned, settled, again⟩ := scan_settles (staffed_reachable []) .epoch .epoch
  have computed : ∃ after, (Desk.engine .standard .epoch).scan staffed =
    .ok ⟨[1, 2, 3], [(4, .noTemplate)], []⟩ after := ⟨_, rfl⟩
  obtain ⟨_, computed⟩ := computed
  cases computed.symm.trans scanned
  exact ⟨after, scanned, settled, again⟩

end Desk

end Countersign
