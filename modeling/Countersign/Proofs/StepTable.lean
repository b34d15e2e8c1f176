import Countersign.Proofs.ChainKeeping
import Countersign.Proofs.DigitText
import Countersign.StepSheet

/-!
The printed table and the steps it is printed from. A line tells of one step, and the step can be
read back from it but for its times; the lines stand by loan and by rank, and since a chain has one
step per rank, no two of them are of one place.
-/

namespace Countersign

namespace StepSheet

structure Entry where
  loan : LoanId
  step : StepId
  rank : Nat
  status : StepStatus
  approver : Option ApproverId
deriving DecidableEq

def entry (step : Step) : Entry := ⟨step.loan, step.id, step.rank, step.status, step.approver⟩

def readStatus? (field : List Char) : Option StepStatus := StepStatus.all.find? (·.name.toList == field)

def readApprover? (field : List Char) : Option (Option ApproverId) :=
  if field = [] then some none else (Digits.read? field).map some

def readLine? (line : List Char) : Option Entry :=
  match line.splitOn ',' with
  | [loan, step, rank, status, approver] => do
    let loan ← Digits.read? loan
    let step ← Digits.read? step
    let rank ← Digits.read? rank
    let status ← readStatus? status
    let approver ← readApprover? approver
    some ⟨loan, step, rank, status, approver⟩
  | _ => none

/-- Reads a table back: the header, and after it lines that have an end each. -/
def read? (table : String) : Option (List Entry) :=
  match table.toList.splitOn '\n' with
  | first :: lines =>
    if first ++ ['\n'] = header.toList ∧ lines.getLast? = some [] then lines.dropLast.mapM readLine? else none
  | [] => none

/-! Reading back what was written. -/

end StepSheet

namespace StepSheet

def fields (step : Step) : List (List Char) :=
  [Digits.ofNat step.loan, Digits.ofNat step.id, Digits.ofNat step.rank, step.status.name.toList,
    (step.approver.map Digits.ofNat).getD []]

def content (step : Step) : List Char := [','].intercalate (fields step)

theorem toList_line (step : Step) : (line step).toList = content step ++ ['\n'] := by
  unfold line content fields
  cases step.approver <;>
    simp [String.toList_append, toString, Digits.ofNat, List.intercalate]

theorem plain_of_mem_fields {step : Step} {field : List Char} (listed : field ∈ fields step) {c : Char} (mem : c ∈ field) :
    c ≠ ',' ∧ c ≠ '\n' := by
  have plain {n : Nat} (mem : c ∈ Digits.ofNat n) : c ≠ ',' ∧ c ≠ '\n' := by
    have digit := Digits.isDigit_of_mem mem
    constructor <;> rintro rfl <;> cases digit
  have named (status : StepStatus) : ',' ∉ status.name.toList ∧ '\n' ∉ status.name.toList := by
    cases status <;> decide
  unfold fields at listed
  simp only [List.mem_cons, List.not_mem_nil, or_false] at listed
  rcases listed with rfl | rfl | rfl | rfl | rfl
  · exact plain mem
  · exact plain mem
  · exact plain mem
  · constructor <;> rintro rfl
    · exact (named step.status).1 mem
    · exact (named step.status).2 mem
  · cases is : step.approver with
    | none =>
      rw [is] at mem
      cases mem
    | some approver =>
      rw [is] at mem
      exact plain mem

theorem splitOn_content (step : Step) : (content step).splitOn ',' = fields step := by
  refine List.splitOn_intercalate ',' (fun field listed mem => ?_) (List.cons_ne_nil _ _)
  exact (plain_of_mem_fields listed mem).1 rfl

theorem newline_not_mem_content (step : Step) : '\n' ∉ content step := by
  intro mem
  have plain (field : List Char) (listed : field ∈ fields step) : '\n' ∉ field :=
    fun there => (plain_of_mem_fields listed there).2 rfl
  unfold fields at plain
  simp only [List.forall_mem_cons] at plain
  obtain ⟨loan, id, rank, status, approver, _⟩ := plain
  simp [content, fields, List.intercalate, loan, id, rank, status, approver] at mem

theorem readLine?_content (step : Step) : readLine? (content step) = some (entry step) := by
  have status_eq (status : StepStatus) : readStatus? status.name.toList = some status := by cases status <;> rfl
  have approver_eq (approver : Option ApproverId) :
      readApprover? ((approver.map Digits.ofNat).getD []) = some approver := by
    cases approver with
    | none => rfl
    | some id =>
      rw [Option.map_some, Option.getD_some, readApprover?, if_neg (Digits.ofNat_ne_nil id), Digits.read?_ofNat]
      rfl
  unfold readLine?
  rw [splitOn_content]
  unfold fields
  dsimp only
  simp only [Digits.read?_ofNat, status_eq, approver_eq]
  rfl

theorem splitOn_ended {lines : List (List Char)} (plain : ∀ line ∈ lines, '\n' ∉ line) :
    (lines.flatMap (· ++ ['\n'])).splitOn '\n' = lines ++ [[]] := by
  induction lines with
  | nil => rfl
  | cons line rest ih =>
    obtain ⟨first, later⟩ := List.forall_mem_cons.mp plain
    rw [List.flatMap_cons, List.append_assoc, List.singleton_append,
      List.splitOn_append_cons_self_of_not_mem first, ih later, List.cons_append]

theorem splitOn_lines (steps : List Step) :
    (steps.flatMap fun step => content step ++ ['\n']).splitOn '\n' = steps.map content ++ [[]] := by
  rw [← splitOn_ended (List.forall_mem_map.mpr fun step _ => newline_not_mem_content step), List.flatMap_map]

theorem read?_table (steps : List Step) : read? (header ++ String.join (steps.map line)) = some (steps.map entry) := by
  have lines_eq : (String.join (steps.map line)).toList = steps.flatMap fun step => content step ++ ['\n'] := by
    rw [String.toList_join, List.flatMap_map]
    exact congrArg steps.flatMap (funext toList_line)
  have header_eq : header.toList = header.toList.dropLast ++ ['\n'] := by decide
  have headed : '\n' ∉ header.toList.dropLast := by decide
  unfold read?
  rw [String.toList_append, lines_eq, header_eq, List.append_assoc, List.singleton_append,
    List.splitOn_append_cons_self_of_not_mem headed, splitOn_lines]
  dsimp only
  rw [if_pos ⟨rfl, List.getLast?_concat⟩, List.dropLast_concat, List.mapM_map]
  have reads : readLine? ∘ content = fun step => pure (entry step) := funext readLine?_content
  rw [reads]
  exact List.mapM_pure

theorem batchText_eq (steps : List Step) : batchText false steps = header ++ String.join ((sorted steps).map line) := by
  cases steps with
  | nil =>
    rw [sorted, List.mergeSort_nil]
    exact String.append_empty.symm
  | cons step rest => rfl

/-! The order of the lines. -/

/-- The place of a step among all steps: by loan, and of one loan by rank. -/
def Before (a b : Step) : Prop := a.loan < b.loan ∨ a.loan = b.loan ∧ a.rank < b.rank

theorem inOrder_iff (a b : Step) : inOrder a b = true ↔ a.loan < b.loan ∨ a.loan = b.loan ∧ a.rank ≤ b.rank := by
  unfold inOrder
  rw [Bool.or_eq_true, Bool.and_eq_true, decide_eq_true_iff, beq_iff_eq, decide_eq_true_iff]

theorem sorted_pairwise (steps : List Step) : (sorted steps).Pairwise fun a b => inOrder a b = true := by
  apply List.pairwise_mergeSort
  · intro a b c first second
    rw [inOrder_iff] at first second ⊢
    rcases first with lower | ⟨same, ranks⟩ <;> rcases second with lower' | ⟨same', ranks'⟩
    · exact Or.inl (Nat.lt_trans lower lower')
    · exact Or.inl (same' ▸ lower)
    · exact Or.inl (same ▸ lower')
    · exact Or.inr ⟨same.trans same', Nat.le_trans ranks ranks'⟩
  · intro a b
    rw [Bool.or_eq_true, inOrder_iff, inOrder_iff]
    rcases Nat.lt_trichotomy a.loan b.loan with lower | same | higher
    · exact Or.inl (Or.inl lower)
    · exact (Nat.le_total a.rank b.rank).imp (fun ranks => Or.inr ⟨same, ranks⟩) fun ranks => Or.inr ⟨same.symm, ranks⟩
    · exact Or.inr (Or.inl higher)

end StepSheet

namespace ChainStore

theorem Sound.nodup {store : ChainStore} (sound : store.Sound) : store.allSteps.Nodup := by
  refine List.pairwise_map.mpr (store.steps.ascending.imp_of_mem ?_)
  intro a b memA memB less same
  exact Nat.ne_of_lt less ((sound.named a memA).symm.trans ((congrArg Step.id same).trans (sound.named b memB)))

theorem Regular.eq_of_place {store : ChainStore} (regular : store.Regular) {a b : Step} (memA : a ∈ store.allSteps)
    (memB : b ∈ store.allSteps) (loan : a.loan = b.loan) (rank : a.rank = b.rank) : a = b := by
  have listedA : a ∈ store.chainOf b.loan := mem_chainOf.mpr ⟨memA, loan⟩
  have listedB : b ∈ store.chainOf b.loan := mem_chainOf.mpr ⟨memB, rfl⟩
  rcases regular.formed b.loan with none | ⟨⟨first, numbered⟩, _⟩
  · rw [none] at listedA
    cases listedA
  · exact numbered.eq_of_rank listedA listedB rank

theorem Regular.sorted_before {store : ChainStore} (regular : store.Regular) :
    (StepSheet.sorted store.allSteps).Pairwise StepSheet.Before := by
  have perm : (StepSheet.sorted store.allSteps).Perm store.allSteps := List.mergeSort_perm _ _
  have distinct : (StepSheet.sorted store.allSteps).Pairwise (· ≠ ·) := perm.nodup_iff.mpr regular.sound.nodup
  refine ((StepSheet.sorted_pairwise store.allSteps).and distinct).imp_of_mem ?_
  rintro a b memA memB ⟨ordered, different⟩
  rcases (StepSheet.inOrder_iff a b).mp ordered with lower | ⟨same, ranks⟩
  · exact Or.inl lower
  · refine Or.inr ⟨same, Nat.lt_of_le_of_ne ranks fun equal => different ?_⟩
    exact regular.eq_of_place (perm.mem_iff.mp memA) (perm.mem_iff.mp memB) same equal

end ChainStore

end Countersign
