import Countersign.Proofs.StepTable

/-!
Where the header stands in what a sheet has received. Every batch without steps writes it, and so
does the first batch with steps, whatever was written before; so a sheet that is written in one
batch, or in batches that all have steps, is one table, and any other sheet is headed again.
-/

namespace Countersign.StepSheet

def heading : List Char := header.toList.dropLast

def linesOf (text : String) : List (List Char) := (text.toList.splitOn '\n').dropLast

/-- Whether a batch is written with a header, after what was written before. -/
def heads (begun : Bool) (steps : List Step) : Bool := steps.isEmpty || !begun

def batchLines (begun : Bool) (steps : List Step) : List (List Char) :=
  (if heads begun steps then [heading] else []) ++ (sorted steps).map content

def sheetLines (begun : Bool) : List (List Step) → List (List Char)
  | [] => []
  | steps :: rest => batchLines begun steps ++ sheetLines (begun || !steps.isEmpty) rest

/-! What is written comes to these lines. -/

theorem toList_lines (steps : List Step) :
    (lines steps).toList = ((sorted steps).map content).flatMap (· ++ ['\n']) := by
  rw [lines, String.toList_join, List.flatMap_map, List.flatMap_map]
  exact congrArg (sorted steps).flatMap (funext toList_line)

theorem toList_header : header.toList = heading ++ ['\n'] := by decide

theorem toList_batchText (begun : Bool) (steps : List Step) :
    (batchText begun steps).toList = (batchLines begun steps).flatMap (· ++ ['\n']) := by
  cases steps with
  | nil => simp [batchText, batchLines, heads, sorted, toList_header]
  | cons step rest => cases begun <;> simp [batchText, batchLines, heads, toList_lines, toList_header]

theorem write_endless (received : String) (begun : Bool) (steps : List Step) :
    write ⟨⟨received, none⟩, begun⟩ steps =
      .ok ⟨⟨received ++ batchText begun steps, none⟩, begun || !steps.isEmpty⟩ := rfl

theorem writeAll_endless (received : String) (begun : Bool) (batches : List (List Step)) :
    ∃ sheet, writeAll ⟨⟨received, none⟩, begun⟩ batches = .ok sheet ∧
      sheet.sink.received.toList = received.toList ++ (sheetLines begun batches).flatMap (· ++ ['\n']) := by
  induction batches generalizing received begun with
  | nil => exact ⟨_, rfl, by simp [sheetLines]⟩
  | cons steps rest ih =>
    obtain ⟨sheet, written, text⟩ := ih (received ++ batchText begun steps) (begun || !steps.isEmpty)
    have all : writeAll ⟨⟨received, none⟩, begun⟩ (steps :: rest) = .ok sheet := by
      rw [writeAll, List.foldlM_cons, write_endless]
      exact written
    refine ⟨sheet, all, ?_⟩
    calc
      sheet.sink.received.toList = (received ++ batchText begun steps).toList ++
          (sheetLines (begun || !steps.isEmpty) rest).flatMap (· ++ ['\n']) := text
      _ = received.toList ++ (sheetLines begun (steps :: rest)).flatMap (· ++ ['\n']) := by
        simp [sheetLines, toList_batchText]

theorem newline_not_mem_heading : '\n' ∉ heading := by decide

theorem newline_not_mem_sheetLines (begun : Bool) (batches : List (List Step)) :
    ∀ line ∈ sheetLines begun batches, '\n' ∉ line := by
  induction batches generalizing begun with
  | nil => simp [sheetLines]
  | cons steps rest ih =>
    intro line mem
    simp only [sheetLines, batchLines, List.mem_append, List.mem_map] at mem
    rcases mem with (head | ⟨step, _, rfl⟩) | later
    · have same : line = heading := by
        split at head <;> simp_all
      exact same ▸ newline_not_mem_heading
    · exact newline_not_mem_content step
    · exact ih _ line later

theorem linesOf_received {text : String} {begun : Bool} {batches : List (List Step)}
    (is : text.toList = (sheetLines begun batches).flatMap (· ++ ['\n'])) : linesOf text = sheetLines begun batches := by
  rw [linesOf, is, splitOn_ended (newline_not_mem_sheetLines begun batches), List.dropLast_concat]

/-! Counting the header. -/

theorem content_ne_heading (step : Step) : content step ≠ heading := by
  intro same
  have fields_eq := (splitOn_content step).symm.trans (congrArg (List.splitOn ',') same)
  have first : Digits.ofNat step.loan = ['l', 'o', 'a', 'n'] := by
    have firsts := congrArg List.head? fields_eq
    simpa [fields] using firsts.trans (by decide : (heading.splitOn ',').head? = some ['l', 'o', 'a', 'n'])
  have digit : 'l'.isDigit = true := Digits.isDigit_of_mem (n := step.loan) (by simp [first])
  exact absurd digit (by decide)

theorem count_batchLines (begun : Bool) (steps : List Step) :
    (batchLines begun steps).count heading = if heads begun steps then 1 else 0 := by
  have none : ((sorted steps).map content).count heading = 0 := by
    simp [List.count_eq_zero, content_ne_heading]
  rw [batchLines, List.count_append, none]
  split <;> simp

/-- One for each batch without steps, and one for the first batch with steps. -/
theorem count_sheetLines (begun : Bool) (batches : List (List Step)) :
    (sheetLines begun batches).count heading =
      batches.countP List.isEmpty + if !begun && batches.any (!·.isEmpty) then 1 else 0 := by
  induction batches generalizing begun with
  | nil => simp [sheetLines]
  | cons steps rest ih =>
    rw [sheetLines, List.count_append, count_batchLines, ih, List.countP_cons]
    cases begun <;> cases steps <;> simp [heads] <;> omega

theorem filter_sheetLines (begun : Bool) (batches : List (List Step)) :
    (sheetLines begun batches).filter (· ≠ heading) = (batches.flatMap sorted).map content := by
  induction batches generalizing begun with
  | nil => rfl
  | cons steps rest ih =>
    have kept : ((sorted steps).map content).filter (· ≠ heading) = (sorted steps).map content := by
      simp [List.filter_eq_self, content_ne_heading]
    rw [sheetLines, batchLines, List.filter_append, List.filter_append, kept, ih, List.flatMap_cons, List.map_append]
    split <;> simp

theorem head?_sheetLines {batches : List (List Step)} (some_batch : batches ≠ []) :
    (sheetLines false batches).head? = some heading := by
  cases batches with
  | nil => exact absurd rfl some_batch
  | cons steps rest => simp [sheetLines, batchLines, heads]

/-- One header in all: a single batch without steps, or batches that all have steps. -/
theorem count_eq_one_iff (batches : List (List Step)) :
    (batches.countP List.isEmpty + if batches.any (!·.isEmpty) then 1 else 0) = 1 ↔
      batches = [[]] ∨ batches ≠ [] ∧ ∀ steps ∈ batches, steps ≠ [] := by
  by_cases empty : ∀ steps ∈ batches, steps = []
  · have all : batches.countP List.isEmpty = batches.length := by
      simpa [List.countP_eq_length] using empty
    have none : batches.any (!·.isEmpty) = false := by simpa using empty
    rw [all, none]
    cases batches with
    | nil => simp
    | cons steps rest => simp_all
  · have one : batches.any (!·.isEmpty) = true := by simpa using empty
    have two : batches ≠ [[]] := by
      rintro rfl
      simp at empty
    have some_batch : batches ≠ [] := by
      rintro rfl
      simp at empty
    simp [one, two, some_batch, List.countP_eq_zero]

/-- On a sink that has room for everything each sequence of batches is written, the first line is the
header, and below the headers stand the lines of the steps. A batch without steps has a header of its
own and the first batch with steps has another one, so there is one header in all exactly when the
batches are a single one without steps, or all have steps. -/
theorem header_once_iff (batches : List (List Step)) :
    ∃ sheet, (start none).writeAll batches = .ok sheet ∧
      (batches ≠ [] → (linesOf sheet.sink.received).head? = some heading) ∧
      (linesOf sheet.sink.received).filter (· ≠ heading) = (batches.flatMap sorted).map content ∧
      (linesOf sheet.sink.received).count heading =
        batches.countP List.isEmpty + (if batches.any (!·.isEmpty) then 1 else 0) ∧
      ((linesOf sheet.sink.received).count heading = 1 ↔
        batches = [[]] ∨ batches ≠ [] ∧ ∀ steps ∈ batches, steps ≠ []) := by
  obtain ⟨sheet, written, text⟩ := writeAll_endless "" false batches
  have lines_eq : linesOf sheet.sink.received = sheetLines false batches := linesOf_received text
  have count_eq := count_sheetLines false batches
  rw [Bool.not_false, Bool.true_and] at count_eq
  refine ⟨sheet, written, ?_⟩
  rw [lines_eq, count_eq]
  exact ⟨head?_sheetLines, filter_sheetLines false batches, rfl, count_eq_one_iff batches⟩

/-- A batch without steps that is followed by one with steps is headed by itself. -/
theorem empty_batch_heads_again :
    let step : Step := ⟨1, 1, 0, .pending, some 1, .epoch, .epoch⟩
    ∃ sheet, (start none).writeAll [[], [step]] = .ok sheet ∧
      sheet.sink.received = header ++ header ++ "1,1,0,PENDING,1\n" ∧
      (linesOf sheet.sink.received).count heading ≠ 1 := by
  intro step
  exact ⟨_, rfl, by decide +kernel, by decide +kernel⟩

end Countersign.StepSheet
