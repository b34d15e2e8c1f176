import Countersign.Proofs.ChainBuild

/-!
Work is shared out evenly. A new chain brings one pending step, its first, and that goes to somebody
with the fewest pending steps of all who could take it. So among those who start without any, nobody
ever gets ahead of another by more than one step while no other role is asked for first.
-/

namespace Countersign

/-- None of these has more than one pending step more than another. -/
def ChainStore.Even (store : ChainStore) (holders : List Approver) : Prop :=
  ∀ a ∈ holders, ∀ b ∈ holders, store.pendingCount a.id ≤ store.pendingCount b.id + 1

namespace Desk

theorem create_queues (books : Desk) (now : Timestamp) (loan : LoanId) (rank : Nat) (levels : List TemplateEntry)
    (store : ChainStore) :
    ∀ step ∈ (store.create now (books.drafts loan (ChainLink.number (rank + 1) levels))).1, step.status = .queue := by
  induction levels generalizing rank store with
  | nil => exact fun _ none => absurd none List.not_mem_nil
  | cons level rest ih =>
    intro step mem
    rcases List.mem_cons.mp mem with rfl | later
    · simp [ChainStore.numbered, Draft.initialStatus]
    · exact ih (rank + 1) _ step later

theorem created_pendingCount {books : Desk} (sound : books.chains.Sound) (now : Timestamp) (loan : LoanId)
    (level : TemplateEntry) (rest : List TemplateEntry) (approver : ApproverId) :
    (books.created now loan (level :: rest)).2.pendingCount approver =
      books.chains.pendingCount approver + if books.appointee level.role = some approver then 1 else 0 := by
  have listing := (created_lists sound now loan (level :: rest)).1
  let first := ChainStore.numbered now (books.chains.lastId + 1) ⟨loan, 0, books.appointee level.role⟩
  let others := ((books.chains.add first).create now (books.drafts loan (ChainLink.number 1 rest))).1
  have steps : (books.created now loan (level :: rest)).1 = first :: others := rfl
  have queued : others.countP (fun step => step.status == .pending && step.approver == some approver) = 0 := by
    rw [List.countP_eq_zero]
    intro step mem
    simp [create_queues books now loan 0 rest _ step mem]
  rw [ChainStore.pendingCount, listing, steps, List.countP_append, List.countP_cons, queued, Nat.zero_add]
  simp [ChainStore.pendingCount, first, ChainStore.numbered, Draft.initialStatus]

/-- One step more for somebody who had the fewest keeps the loads even. -/
theorem created_even {books : Desk} {role : RoleId} (even : books.chains.Even (books.directory.activeApprovers role))
    (sound : books.chains.Sound) (now : Timestamp) (loan : LoanId) {level : TemplateEntry} (asked : level.role = role)
    (rest : List TemplateEntry) :
    (books.created now loan (level :: rest)).2.Even (books.directory.activeApprovers role) := by
  intro a memA b memB
  have before := even a memA b memB
  simp only [created_pendingCount sound now loan level rest, asked]
  -- Only whoever is given the step can get ahead of somebody, and nobody had fewer than that one.
  by_cases given : books.appointee role = some a.id
  · obtain ⟨holder, same, foremost⟩ := appointee_foremost given
    have fewest := foremost.least b memB
    rw [same] at fewest
    rw [if_pos given]
    omega
  · rw [if_neg given]
    omega

theorem after_build (settings : Settings) (now : Timestamp) (loan : LoanId) (desk : Desk) :
    desk.after settings (.command now (.build loan)) =
      match (Desk.engine settings now).build loan desk with
      | .ok _ after => after
      | .error _ after => after := by
  change left (EStateM.bind ((Desk.engine settings now).build loan) _ desk) = _
  unfold EStateM.bind
  cases (Desk.engine settings now).build loan desk <;> rfl

theorem after_build_cases (settings : Settings) (now : Timestamp) (loan : LoanId) (desk : Desk) :
    desk.after settings (.command now (.build loan)) = desk ∨
      desk.chains.stepsOf loan = [] ∧ ∃ record level rest, desk.ledger.loan? loan = some record ∧
        desk.directory.levels record = level :: rest ∧ desk.after settings (.command now (.build loan)) =
          { desk with chains := (desk.created now loan (level :: rest)).2 } := by
  rw [after_build]
  rcases Engine.build_cases settings now loan desk with
    ⟨error, ended⟩ | ⟨reason, ended⟩ | ⟨without, record, known, free, outcome, ended⟩
  · exact Or.inl (by rw [ended])
  · exact Or.inl (by rw [ended])
  · obtain ⟨level, rest, levels⟩ := List.exists_cons_of_ne_nil (Directory.levels_ne_nil free)
    rw [levels] at ended
    exact Or.inr ⟨without, record, level, rest, known, levels, by rw [ended]⟩

/-- As long as the holders of a role are asked first, or nobody is, their loads stay even. -/
theorem builds_even {settings : Settings} {role : RoleId} (builds : List (Timestamp × LoanId)) {desk : Desk}
    (regular : desk.chains.Regular) (even : desk.chains.Even (desk.directory.activeApprovers role))
    (first : ∀ build ∈ builds, ∀ record ∈ desk.ledger.loan? build.2,
      ∀ level ∈ (desk.directory.levels record).head?, level.role = role) :
    (desk.run settings (builds.map fun build => .command build.1 (.build build.2))).chains.Even
      (desk.directory.activeApprovers role) := by
  induction builds generalizing desk with
  | nil => exact even
  | cons build rest ih =>
    obtain ⟨now, loan⟩ := build
    have later := fun build (mem : build ∈ rest) => first build (List.mem_cons_of_mem _ mem)
    change ((desk.after settings (.command now (.build loan))).run settings _).chains.Even _
    rcases after_build_cases settings now loan desk with
      same | ⟨without, record, level, levels, known, needed, built⟩
    · rw [same]
      exact ih regular even later
    · have asked : level.role = role := by
        refine first (now, loan) List.mem_cons_self record known level ?_
        rw [needed]
        rfl
      have noChain : desk.chains.chainOf loan = [] := (regular.stepsOf_eq loan).symm.trans without
      have turned := (created_turns regular now noChain (List.cons_ne_nil level levels)).1
      rw [built]
      refine ih (show ({ desk with chains := _ } : Desk).chains.Regular from turned.regular) ?_ later
      exact created_even even regular.sound now loan asked levels

/-- Whatever loans are given chains that start with the role, the pending steps of any two of its active
holders differ by at most one, if none of them had any before. The builds may be as many or as few as one
likes, so this holds after each of them. -/
theorem builds_share_evenly {settings : Settings} {desk : Desk} (reachable : Reachable settings desk)
    (ledger : Ledger) (directory : Directory) (role : RoleId)
    (idle : ∀ holder ∈ directory.activeApprovers role, desk.chains.pendingCount holder.id = 0)
    (builds : List (Timestamp × LoanId))
    (first : ∀ build ∈ builds, ∀ record ∈ ledger.loan? build.2,
      ∀ level ∈ (directory.levels record).head?, level.role = role) :
    let books : Desk := ⟨desk.chains, ledger, directory⟩
    let after := books.run settings (builds.map fun build => .command build.1 (.build build.2))
    ∀ a ∈ directory.activeApprovers role, ∀ b ∈ directory.activeApprovers role,
      after.chains.pendingCount a.id ≤ after.chains.pendingCount b.id + 1 := by
  intro books after
  have regular : books.chains.Regular := reachable.orderly.chains
  have even : books.chains.Even (books.directory.activeApprovers role) := by
    intro a memA b memB
    change desk.chains.pendingCount a.id ≤ _
    rw [idle a memA]
    exact Nat.zero_le _
  exact builds_even builds regular even first

/-- Three loans for two approvers. -/
theorem staffed_shares_evenly :
    let builds : List (Timestamp × LoanId) := [(.epoch, 1), (.epoch, 2), (.epoch, 3)]
    let after := staffed.run .standard (builds.map fun build => .command build.1 (.build build.2))
    (∀ a ∈ staffed.directory.activeApprovers 1, ∀ b ∈ staffed.directory.activeApprovers 1,
      after.chains.pendingCount a.id ≤ after.chains.pendingCount b.id + 1) ∧
      (staffed.directory.activeApprovers 1).map (fun holder => after.chains.pendingCount holder.id) = [1, 2] := by
  intro builds after
  have idle : ∀ holder ∈ staffed.directory.activeApprovers 1, staffed.chains.pendingCount holder.id = 0 := by
    decide
  have first : ∀ build ∈ builds, ∀ record ∈ staffed.ledger.loan? build.2,
      ∀ level ∈ (staffed.directory.levels record).head?, level.role = 1 := by
    decide
  exact ⟨builds_share_evenly (staffed_reachable []) staffed.ledger staffed.directory 1 idle builds first, rfl⟩

end Desk

end Countersign
