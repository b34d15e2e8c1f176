import Countersign.Proofs.ChainKeeping
import Countersign.Proofs.LedgerOrder
import Countersign.Proofs.Renumbering

/-!
One loan in two ledgers. Whatever is kept for the loan is the same in both, its linked account
included, but that transactions may have other numbers. An operation on behalf of the loan does
the same to both: it goes through in both or is refused by both, and what it leaves is the same
again.
-/

namespace Countersign

namespace Ledger

inductive Stop.Like : Stop → Stop → Prop
  | notFound (what what' : Missing) : Like (.refused (.notFound what)) (.refused (.notFound what'))
  | rejected (why why' : Rejection) : Like (.refused (.rejected why)) (.refused (.rejected why'))
  | unavailable (outage : Outage) : Like (.refused (.unavailable outage)) (.refused (.unavailable outage))
  | overflow (what : Decimal.Overflow) : Like (.overflow what) (.overflow what)

theorem Stop.Like.refl (stop : Stop) : stop.Like stop := by
  cases stop with
  | overflow what => exact .overflow what
  | refused error =>
    cases error with
    | notFound what => exact .notFound what what
    | rejected why => exact .rejected why why
    | unavailable outage => exact .unavailable outage

section

variable {α β γ δ : Type} {rel : Ledger → Ledger → Prop} {answers : α → β → Prop}

/-- Operations that come to the same in ledgers that are related, and leave them related. -/
def InPace (rel : Ledger → Ledger → Prop) (answers : α → β → Prop) (op : Op α) (op' : Op β) : Prop :=
  ∀ a b, rel a b →
    Abreast op op' a b (fun x y a b => answers x y ∧ rel a b) fun s t a b => s.Like t ∧ rel a b

namespace InPace

variable {op : Op α} {op' : Op β}

theorem answer {x : α} {y : β} (alike : answers x y) : InPace rel answers (pure x) (pure y) :=
  fun _ _ related => ⟨alike, related⟩

theorem andThen {next : α → Op γ} {next' : β → Op δ} {replies : γ → δ → Prop} (first : InPace rel answers op op')
    (rest : ∀ x y, answers x y → InPace rel replies (next x) (next' y)) :
    InPace rel replies (op >>= next) (op' >>= next') := by
  intro a b related
  refine (first a b related).andThen ?_ fun _ _ _ _ stopped => stopped
  intro x y a b ended
  exact rest x y ended.1 a b ended.2

end InPace

end

/-- What two ledgers keep for a loan: the same, but for the numbers of transactions. -/
structure Counterpart (shift : Renumbering) (loan : LoanId) (linked : Option AccountId)
    (journal journal' : List JournalEntry) (a b : Ledger) : Prop where
  record : b.loans.get? loan = (a.loans.get? loan).map (Loan.renumbered shift)
  keyed : ∀ record, a.loans.get? loan = some record → record.id = loan
  charges : b.charges.get? loan = a.charges.get? loan
  notes : b.notes.get? loan = a.notes.get? loan
  link : a.links.get? loan = linked
  link' : b.links.get? loan = linked
  account : ∀ id, linked = some id → b.accounts.get? id = (a.accounts.get? id).map (Account.renumbered shift)
  failing : b.failing = a.failing
  numbers : ∀ more, shift.number (a.lastTransaction + more + 1) = b.lastTransaction + more + 1
  entered : ∃ entries, a.journal = journal ++ entries ∧ b.journal = journal' ++ entries.map (·.renumbered shift)

section

variable {shift : Renumbering} {loan : LoanId} {linked : Option AccountId} {journal journal' : List JournalEntry}

theorem check_inPace (op : LedgerOp) :
    InPace (Counterpart shift loan linked journal journal') (fun _ _ => True) (check op) (check op) := by
  intro a b alike
  unfold Abreast
  rw [check_apply, check_apply, alike.failing]
  cases a.failing.contains op with
  | true => exact ⟨.unavailable _, alike⟩
  | false => exact ⟨trivial, alike⟩

theorem requireLoan_inPace :
    InPace (Counterpart shift loan linked journal journal')
      (fun record record' => record.id = loan ∧ record' = record.renumbered shift)
      (requireLoan loan) (requireLoan loan) := by
  intro a b alike
  unfold Abreast
  rw [requireLoan_apply, requireLoan_apply, alike.record]
  cases found : a.loans.get? loan with
  | none => exact ⟨.notFound _ _, alike⟩
  | some record => exact ⟨⟨alike.keyed record found, rfl⟩, alike⟩

theorem putLoan_inPace (record : Loan) (same : record.id = loan) :
    InPace (Counterpart shift loan linked journal journal') (fun _ _ => True) (putLoan loan record)
      (putLoan loan (record.renumbered shift)) := by
  intro a b alike
  refine ⟨trivial, { alike with record := ?_, keyed := ?_ }⟩
  · change (b.loans.insert loan _).get? loan = ((a.loans.insert loan record).get? loan).map _
    rw [Table.get?_insert_self, Table.get?_insert_self, Option.map_some]
  · intro known found
    change (a.loans.insert loan record).get? loan = some known at found
    rw [Table.get?_insert_self] at found
    exact Option.some_inj.mp found ▸ same

theorem enter_inPace (entry : JournalEntry) :
    InPace (Counterpart shift loan linked journal journal') (fun _ _ => True) (enter entry)
      (enter (entry.renumbered shift)) := by
  intro a b alike
  obtain ⟨entries, first, second⟩ := alike.entered
  refine ⟨trivial, { alike with entered := ⟨entries ++ [entry], ?_, ?_⟩ }⟩
  · change a.journal ++ [entry] = _
    rw [first, List.append_assoc]
  · change b.journal ++ [entry.renumbered shift] = _
    rw [second, List.append_assoc, List.map_append]
    rfl

theorem nextTransaction_inPace :
    InPace (Counterpart shift loan linked journal journal')
      (fun transaction transaction' => transaction' = shift.number transaction) nextTransaction nextTransaction := by
  intro a b alike
  refine ⟨(alike.numbers 0).symm, { alike with numbers := fun more => ?_ }⟩
  change shift.number (a.lastTransaction + 1 + more + 1) = b.lastTransaction + 1 + more + 1
  rw [Nat.add_assoc a.lastTransaction, Nat.add_assoc b.lastTransaction, Nat.add_comm 1]
  exact alike.numbers (more + 1)

inductive Changed (shift : Renumbering) : Except Stop Account → Except Stop Account → Prop
  | done (changed : Account) : Changed shift (.ok changed) (.ok (changed.renumbered shift))
  | stopped {stop stop' : Stop} (alike : stop.Like stop') : Changed shift (.error stop) (.error stop')

theorem changeAccount_inPace {id : AccountId} (owns : linked = some id) {change change' : Account → Except Stop Account}
    (changes : ∀ account, Changed shift (change account) (change' (account.renumbered shift))) :
    InPace (Counterpart shift loan linked journal journal') (fun _ _ => True) (changeAccount id change)
      (changeAccount id change') := by
  intro a b alike
  have same := alike.account id owns
  unfold Abreast
  rw [changeAccount_apply, changeAccount_apply, same]
  cases a.accounts.get? id with
  | none => exact ⟨.notFound _ _, alike⟩
  | some account =>
    have known := changes account
    dsimp only [Option.map_some]
    generalize change account = result at known ⊢
    generalize change' (account.renumbered shift) = result' at known ⊢
    cases known with
    | stopped stops => exact ⟨stops, alike⟩
    | done changed =>
      refine ⟨trivial, { alike with account := fun other isLinked => ?_ }⟩
      cases owns.symm.trans isLinked
      change (b.accounts.insert id _).get? id = ((a.accounts.insert id changed).get? id).map _
      rw [Table.get?_insert_self, Table.get?_insert_self, Option.map_some]

theorem Changed.of_map {result result' : Except Stop Account} (same : result' = result.map (Account.renumbered shift)) :
    Changed shift result result' := by
  subst same
  cases result with
  | ok changed => exact .done changed
  | error stop => exact .stopped (.refl stop)

theorem Changed.release (account : Account) (transaction : TransactionId) :
    Changed shift (account.release transaction) ((account.renumbered shift).release (shift.number transaction)) := by
  cases held : account.holds.get? transaction with
  | some amount => exact .of_map (Account.release_renumbered shift held)
  | none =>
    have missing : (account.renumbered shift).holds.get? (shift.number transaction) = none :=
      (Table.get?_rekeyed ..).trans held
    rw [Account.release_missing held, Account.release_missing missing]
    exact .stopped (.notFound _ _)

/-! The operations. -/

theorem pass_inPace (op : LedgerOp) (sources : List LoanStatus) (target : LoanStatus) {entry : JournalEntry}
    (fixed : entry.renumbered shift = entry) :
    InPace (Counterpart shift loan linked journal journal') (fun _ _ => True)
      (do check op; transition loan sources target; enter entry)
      (do check op; transition loan sources target; enter entry) := by
  refine (check_inPace op).andThen fun _ _ _ => ?_
  have moved : InPace (Counterpart shift loan linked journal journal') (fun _ _ => True)
      (transition loan sources target) (transition loan sources target) := by
    refine requireLoan_inPace.andThen ?_
    rintro record _ ⟨same, rfl⟩
    change InPace _ _ (if sources.contains record.status then _ else _)
      (if sources.contains record.status then _ else _)
    split
    · exact putLoan_inPace { record with status := target } same
    · exact fun _ _ alike => ⟨.rejected _ _, alike⟩
  refine moved.andThen fun _ _ _ => ?_
  have entered : InPace (Counterpart shift loan linked journal journal') (fun _ _ => True) (enter entry)
      (enter (entry.renumbered shift)) := enter_inPace entry
  rwa [fixed] at entered

theorem appendNote_inPace (text : String) :
    InPace (Counterpart shift loan linked journal journal') (fun _ _ => True) (appendNote loan text)
      (appendNote loan text) := by
  refine (check_inPace _).andThen fun _ _ _ => ?_
  refine requireLoan_inPace.andThen fun _ _ _ => ?_
  have noted : InPace (Counterpart shift loan linked journal journal') (fun _ _ => True)
      (modify fun ledger : Ledger =>
        { ledger with notes := ledger.notes.insert loan ((ledger.notes.get? loan).getD [] ++ [text]) } : Op PUnit)
      (modify fun ledger : Ledger =>
        { ledger with notes := ledger.notes.insert loan ((ledger.notes.get? loan).getD [] ++ [text]) }) := by
    intro a b alike
    refine ⟨trivial, { alike with notes := ?_ }⟩
    change (b.notes.insert loan _).get? loan = (a.notes.insert loan _).get? loan
    rw [Table.get?_insert_self, Table.get?_insert_self, alike.notes]
  exact noted.andThen fun _ _ _ => enter_inPace (.appendNote loan text)

theorem forceStatus_inPace (status : LoanStatus) :
    InPace (Counterpart shift loan linked journal journal') (fun _ _ => True) (forceStatus loan status)
      (forceStatus loan status) := by
  refine (check_inPace _).andThen fun _ _ _ => ?_
  refine requireLoan_inPace.andThen ?_
  rintro record _ ⟨same, rfl⟩
  refine (putLoan_inPace { record with status := status } same).andThen fun _ _ _ => ?_
  exact enter_inPace (.forceStatus loan status)

theorem setLien_inPace {lien lien' : Option TransactionId} (same : lien' = lien.map shift.number) :
    InPace (Counterpart shift loan linked journal journal') (fun _ _ => True) (setLien loan lien)
      (setLien loan lien') := by
  subst same
  refine requireLoan_inPace.andThen ?_
  rintro record _ ⟨same, rfl⟩
  exact putLoan_inPace { record with lien := lien } same

theorem markPaid_apply (loan : LoanId) (ids : List ChargeId) (ledger : Ledger) :
    markPaid loan ids ledger =
      match ledger.charges.get? loan with
      | none => .error (.refused (.notFound (.charges loan))) ledger
      | some charges => .ok () (ledger.withMarked loan ids charges) := by
  change (match ledger.charges.get? loan with
    | none => refuse (.notFound (.charges loan))
    | some charges => modify fun ledger => ledger.withMarked loan ids charges : Op PUnit) ledger = _
  cases ledger.charges.get? loan <;> rfl

theorem markPaid_inPace (ids : List ChargeId) :
    InPace (Counterpart shift loan linked journal journal') (fun _ _ => True) (markPaid loan ids)
      (markPaid loan ids) := by
  intro a b alike
  unfold Abreast
  rw [markPaid_apply, markPaid_apply, alike.charges]
  cases a.charges.get? loan with
  | none => exact ⟨.notFound _ _, alike⟩
  | some charges =>
    refine ⟨trivial, { alike with charges := ?_ }⟩
    change (b.charges.insert loan _).get? loan = (a.charges.insert loan _).get? loan
    rw [Table.get?_insert_self, Table.get?_insert_self]

theorem findAccount_inPace :
    InPace (Counterpart shift loan linked journal journal') (fun account account' => account = account' ∧ linked = some account)
      (findAccount loan) (findAccount loan) := by
  refine (check_inPace _).andThen fun _ _ _ => ?_
  intro a b alike
  unfold Abreast
  rw [requireLink_apply, requireLink_apply, alike.link, alike.link']
  cases linked with
  | none => exact ⟨.notFound _ _, alike⟩
  | some account => exact ⟨⟨rfl, rfl⟩, alike⟩

theorem move_inPace (op : LedgerOp) {id : AccountId} (owns : linked = some id)
    {change : TransactionId → Account → Except Stop Account} {entry : TransactionId → JournalEntry}
    (changes : ∀ transaction account,
      Changed shift (change transaction account) (change (shift.number transaction) (account.renumbered shift)))
    (entries : ∀ transaction, (entry transaction).renumbered shift = entry (shift.number transaction)) :
    InPace (Counterpart shift loan linked journal journal')
      (fun transaction transaction' => transaction' = shift.number transaction)
      (do
        check op
        let transaction ← nextTransaction
        changeAccount id (change transaction)
        enter (entry transaction)
        pure transaction)
      (do
        check op
        let transaction ← nextTransaction
        changeAccount id (change transaction)
        enter (entry transaction)
        pure transaction) := by
  refine (check_inPace op).andThen fun _ _ _ => ?_
  refine nextTransaction_inPace.andThen ?_
  rintro transaction _ rfl
  refine (changeAccount_inPace owns (changes transaction)).andThen fun _ _ _ => ?_
  rw [← entries]
  exact (enter_inPace (entry transaction)).andThen fun _ _ _ => .answer rfl

theorem release_inPace {id : AccountId} (owns : linked = some id) (transaction : TransactionId) :
    InPace (Counterpart shift loan linked journal journal') (fun _ _ => True) (release id transaction)
      (release id (shift.number transaction)) := by
  refine (check_inPace _).andThen fun _ _ _ => ?_
  refine (changeAccount_inPace owns fun account => .release account transaction).andThen fun _ _ _ => ?_
  exact enter_inPace (.release id transaction)

end

end Ledger

end Countersign
