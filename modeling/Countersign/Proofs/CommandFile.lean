import Countersign.Proofs.Atomicity
import Countersign.Proofs.Processing
import Countersign.Proofs.RecordPieces
import Countersign.Proofs.StepTable

/-!
What the program makes of a file of commands. The table that it prints shows the steps as the
commands that can be read have left them, each of them once and in order. A record that is no
request has no part in it: without it the file makes the same table, and the same commands fail.
-/

namespace Countersign

namespace Request

open Csv (Item Piece)

def command? (header : Option (List String)) (piece : Piece) : Option Command :=
  (ofItem header (.record ⟨0, 0, 0⟩ piece.fields)).toOption

variable {header : Option (List String)}

theorem toOption_ofItem {item : Item} {piece : Piece} (reads : item.Reads piece) :
    (ofItem header item).toOption = command? header piece := by
  obtain ⟨position, rfl⟩ := reads
  unfold command? ofItem
  dsimp only
  cases Csv.texts piece.fields with
  | error fault =>
    cases fault
    rfl
  | ok texts =>
    dsimp only
    cases readRow header texts with
    | error fault => rfl
    | ok row =>
      dsimp only
      cases row.action <;> rfl

theorem ofItem_of_command {item : Item} {piece : Piece} (reads : item.Reads piece) {command : Command}
    (made : command? header piece = some command) : ofItem header item = .ok command := by
  rw [← toOption_ofItem reads] at made
  cases ran : ofItem header item with
  | error fault =>
    rw [ran] at made
    cases made
  | ok other =>
    rw [ran] at made
    cases made
    rfl

end Request

namespace Program

open Csv (Item Piece pieces content mark joined leftover)
open Request (command? ofItem)

/-- The file without the data records that are no requests, each from where the reader goes for it
up to the byte that closes it. -/
def withoutUnreadable (bytes : List UInt8) : List UInt8 :=
  let records := pieces (content bytes)
  let kept := ((records.drop 1).zip (Request.all ⟨bytes, false⟩)).filter (·.2.isOk)
  mark bytes ++ (joined (records.take 1 ++ kept.map Prod.fst) ++ leftover (content bytes))

section

variable {header : Option (List String)} {items : List Item} {records : List Piece}

theorem readable_items (aligned : List.Forall₂ Item.Reads items records) :
    readable (items.map (ofItem header)) = records.filterMap (command? header) := by
  unfold readable
  induction aligned with
  | nil => rfl
  | cons reads _ ih => rw [List.map_cons, List.filterMap_cons, List.filterMap_cons, Request.toOption_ofItem reads, ih]

theorem kept_items (aligned : List.Forall₂ Item.Reads items records) :
    ((records.zip (items.map (ofItem header))).filter (·.2.isOk)).map Prod.fst =
      records.filter fun piece => (command? header piece).isSome := by
  induction aligned with
  | nil => rfl
  | @cons item piece _ _ reads _ ih =>
    have same : (ofItem header item).isOk = (command? header piece).isSome := by
      rw [← Request.toOption_ofItem reads]
      cases ofItem header item <;> rfl
    rw [List.map_cons, List.zip_cons_cons]
    by_cases makes : (command? header piece).isSome = true
    · have taken : (piece, ofItem header item).2.isOk = true := same.trans makes
      rw [List.filter_cons, if_pos taken, List.filter_cons, if_pos makes, List.map_cons, ih]
    · have refused : ¬(piece, ofItem header item).2.isOk = true := same ▸ makes
      rw [List.filter_cons, if_neg refused, List.filter_cons, if_neg makes, ih]

theorem commands_of_items (aligned : List.Forall₂ Item.Reads items records)
    (make : ∀ piece ∈ records, (command? header piece).isSome) :
    items.map (ofItem header) = (records.filterMap (command? header)).map .ok := by
  induction aligned with
  | nil => rfl
  | cons reads _ ih =>
    obtain ⟨first, later⟩ := List.forall_mem_cons.mp make
    obtain ⟨command, made⟩ := Option.isSome_iff_exists.mp first
    rw [List.map_cons, Request.ofItem_of_command reads made, List.filterMap_cons, made, List.map_cons, ih later]

end

theorem all_of_pieces {bytes : List UInt8} {first : Piece} {body : List Piece}
    (found : pieces (content bytes) = first :: body) :
    ∃ items, List.Forall₂ Item.Reads items body ∧
      Request.all ⟨bytes, false⟩ = items.map (ofItem (Csv.texts first.fields).toOption) := by
  have reads := Csv.source_read bytes
  rw [found] at reads
  unfold Request.all Csv.Source.sheet
  cases is : Csv.Source.items ⟨bytes, false⟩ with
  | nil =>
    rw [is] at reads
    cases reads
  | cons item items =>
    rw [is] at reads
    cases reads with
    | cons head tail =>
      obtain ⟨position, rfl⟩ := head
      exact ⟨items, tail, rfl⟩

theorem all_of_no_pieces {bytes : List UInt8} (none : pieces (content bytes) = []) : Request.all ⟨bytes, false⟩ = [] := by
  have reads := Csv.source_read bytes
  rw [none] at reads
  unfold Request.all Csv.Source.sheet
  cases is : Csv.Source.items ⟨bytes, false⟩ with
  | nil => rfl
  | cons item items =>
    rw [is] at reads
    cases reads

theorem pieces_without {bytes : List UInt8} {kept : List Piece}
    (are : (pieces (content bytes)).take 1 ++
      ((((pieces (content bytes)).drop 1).zip (Request.all ⟨bytes, false⟩)).filter
        (·.2.isOk)).map Prod.fst = kept)
    (sub : kept.Sublist (pieces (content bytes))) (first : kept.head? = (pieces (content bytes)).head?) :
    pieces (content (withoutUnreadable bytes)) = kept := by
  unfold withoutUnreadable
  dsimp only
  rw [are, Csv.content_kept sub first]
  exact Csv.pieces_sublist sub

/-- What is left makes the commands that it made before, and nothing else. -/
theorem requests_without (bytes : List UInt8) :
    Request.all ⟨withoutUnreadable bytes, false⟩ = (readable (Request.all ⟨bytes, false⟩)).map .ok := by
  cases found : pieces (content bytes) with
  | nil =>
    have same : pieces (content (withoutUnreadable bytes)) = [] :=
      pieces_without (by rw [found]; rfl) (List.nil_sublist _) (by rw [found])
    rw [all_of_no_pieces same, all_of_no_pieces found]
    rfl
  | cons first body =>
    obtain ⟨items, aligned, all⟩ := all_of_pieces found
    let header := (Csv.texts first.fields).toOption
    have are : (first :: body).take 1 ++ ((((first :: body).drop 1).zip (Request.all ⟨bytes, false⟩)).filter
        (·.2.isOk)).map Prod.fst =
        first :: body.filter fun piece => (command? header piece).isSome := by
      rw [all, List.drop_one, List.tail_cons, kept_items aligned]
      rfl
    rw [← found] at are
    have sub : (first :: body.filter fun piece => (command? header piece).isSome).Sublist (pieces (content bytes)) := by
      rw [found]
      exact List.filter_sublist.cons_cons first
    have same := pieces_without are sub (by rw [found]; rfl)
    obtain ⟨items', aligned', all'⟩ := all_of_pieces same
    rw [all', all, readable_items aligned, commands_of_items aligned' fun _ mem => (List.mem_filter.mp mem).2]
    have made : (fun piece => if (command? header piece).isSome then command? header piece else none) = command? header :=
      funext fun piece => by cases command? header piece <;> rfl
    rw [List.filterMap_filter, made]

example : withoutUnreadable (Utf8.encode "action,loan\nbuild,1\nfly,1\n\nbuild,2") =
    Utf8.encode "action,loan\nbuild,1\n\nbuild,2" := by decide +kernel

/-- Where every record is a request, nothing is taken out. -/
theorem withoutUnreadable_of_readable {bytes : List UInt8}
    (read : ∀ request ∈ Request.all ⟨bytes, false⟩, request.isOk = true) : withoutUnreadable bytes = bytes := by
  have whole : (pieces (content bytes)).take 1 ++
      ((((pieces (content bytes)).drop 1).zip (Request.all ⟨bytes, false⟩)).filter (·.2.isOk)).map Prod.fst =
      pieces (content bytes) := by
    have all : (((pieces (content bytes)).drop 1).zip (Request.all ⟨bytes, false⟩)).filter (·.2.isOk) =
        ((pieces (content bytes)).drop 1).zip (Request.all ⟨bytes, false⟩) :=
      List.filter_eq_self.mpr fun _ mem => read _ (List.of_mem_zip mem).2
    rw [all]
    cases found : pieces (content bytes) with
    | nil => rfl
    | cons first body =>
      obtain ⟨items, aligned, all⟩ := all_of_pieces found
      have same : body.length = (Request.all ⟨bytes, false⟩).length := by
        rw [all, List.length_map, aligned.length_eq]
      rw [List.drop_one, List.tail_cons, List.map_fst_zip (Nat.le_of_eq same)]
      rfl
  unfold withoutUnreadable
  dsimp only
  rw [whole, Csv.joined_pieces, Csv.mark_content]

/-! The whole program. -/

/-- What the program has printed when it comes to its end: below the header a line for each step of
a desk, in the order of loans and ranks, from which the step can be read back. -/
structure Shows (exit : Exit) (desk : Desk) : Prop where
  code : exit.code = 0
  table : ∃ steps : List Step, steps.Perm desk.chains.allSteps ∧ steps.Pairwise StepSheet.Before ∧
    exit.output = StepSheet.header ++ String.join (steps.map StepSheet.line) ∧
    StepSheet.read? exit.output = some (steps.map StepSheet.entry)

theorem printed_shows (errors : List String) {desk : Desk} (orderly : desk.Orderly) :
    Shows ⟨0, printed desk, errors⟩ desk := by
  have text : printed desk =
      StepSheet.header ++ String.join ((StepSheet.sorted desk.chains.allSteps).map StepSheet.line) :=
    StepSheet.batchText_eq _
  refine ⟨rfl, StepSheet.sorted desk.chains.allSteps, List.mergeSort_perm .., orderly.chains.sorted_before, text, ?_⟩
  rw [text]
  exact StepSheet.read?_table _

def warnings (arguments : Arguments) : List String :=
  if arguments.database.isSome then [Usage.databaseWarning] else []

variable {args : List String} {arguments : Arguments} {files : String → FileView} {setup : Setup} {start : Desk}
  {bytes : List UInt8}

theorem run_eq (asked : Usage.ofArguments args = .run arguments)
    (described : readSetup (files arguments.setup) = some setup) (installed : setup.install .empty = .ok () start)
    (given : files arguments.input = .content bytes) :
    run args files = runCommands setup start ⟨bytes, false⟩ (warnings arguments) := by
  unfold run
  rw [asked]
  dsimp only
  unfold runArguments
  rw [described]
  dsimp only
  rw [installed]
  dsimp only
  rw [given]
  rfl

/-- The program comes to the end of every file of commands in which every sum fits, and shows the
steps as the readable commands of the file have left them, of which one that fails changes none.
Without the records that are no requests the file makes the same table, and the lines on commands
that failed are the same. -/
theorem run_prints_steps (asked : Usage.ofArguments args = .run arguments)
    (described : readSetup (files arguments.setup) = some setup) (installed : setup.install .empty = .ok () start)
    (given : files arguments.input = .content bytes)
    (calm : start.calm setup.settings (events (readable (Request.all ⟨bytes, false⟩))) = true) :
    let commands := readable (Request.all ⟨bytes, false⟩)
    Shows (run args files) (start.run setup.settings (events commands)) ∧
      (∀ done command rest error after, commands = done ++ command :: rest →
        (engine setup.settings).perform command (start.run setup.settings (events done)) = .error (.failed error) after →
        after.chains = (start.run setup.settings (events done)).chains) ∧
      ∀ files', files' arguments.setup = files arguments.setup →
        files' arguments.input = .content (withoutUnreadable bytes) →
        (run args files').output = (run args files).output ∧
          (run args files').errors.filter isProcessing = (run args files).errors.filter isProcessing := by
  intro commands
  have reachable (commands : List Command) : Desk.Reachable setup.settings (start.run setup.settings (events commands)) :=
    ⟨setup, start, _, rfl, installed, rfl⟩
  have ran := (run_eq asked described installed given).trans (runCommands_of_calm calm (warnings arguments))
  refine ⟨?_, ?_, ?_⟩
  · rw [ran]
    exact printed_shows _ (reachable commands).orderly
  · intro done command rest error after _ failed
    have orderly := (reachable done).orderly
    obtain ⟨loan, declined | ⟨_, halted⟩⟩ := (Desk.perform_ends setup.settings .epoch orderly command).of_error failed
    · rw [declined.same]
    · exact halted.course.chains
  · intro files' same shorter
    have kept : readable (Request.all ⟨withoutUnreadable bytes, false⟩) = commands := by
      rw [requests_without, readable, List.filterMap_map]
      exact List.filterMap_some
    have calm' : start.calm setup.settings (events (readable (Request.all ⟨withoutUnreadable bytes, false⟩))) = true :=
      kept ▸ calm
    have ran' := (run_eq asked (same ▸ described) installed shorter).trans
      (runCommands_of_calm calm' (warnings arguments))
    rw [ran, ran']
    refine ⟨?_, ?_⟩
    · dsimp only
      rw [kept]
    · dsimp only
      rw [List.filter_append, List.filter_append, report_processing, report_processing, kept]

end Program

/-! A file for the sample. -/

def Utf8.encodeLines (lines : List String) : List UInt8 := lines.flatMap fun line => encode line ++ [Csv.lineFeed]

def Setup.sampleBytes : List UInt8 := Utf8.encodeLines [
  "\x7b\"settings\": \x7b\x7d,",
  "\"products\": [\x7b\"id\": 1, \"template\": [",
  "\x7b\"rank\": 0, \"authorityRoleId\": 1\x7d,",
  "\x7b\"rank\": 1, \"authorityRoleId\": 2\x7d]\x7d],",
  "\"approvers\": [",
  "\x7b\"id\": 1, \"roleIds\": [1], \"active\": true\x7d,",
  "\x7b\"id\": 2, \"roleIds\": [2], \"active\": true\x7d],",
  "\"loans\": [\x7b\"id\": 1, \"productId\": 1,",
  "\"principal\": \"100\",",
  "\"status\": \"submitted_and_pending_approval\",",
  "\"approvalScheduleActive\": true,",
  "\"charges\": [\x7b\"id\": 1, \"kind\": \"upfront_fee\",",
  "\"amountOutstanding\": \"10\"\x7d,",
  "\x7b\"id\": 2, \"kind\": \"upfront_hold\",",
  "\"amountOutstanding\": \"20\"\x7d],",
  "\"savingsAccount\": \x7b\"id\": 7,",
  "\"available\": \"500\", \"lien\": \"5\"\x7d\x7d]\x7d"]

namespace Program

theorem sample_read : readSetup (.content Setup.sampleBytes) = some .sample := by decide +kernel

/-- Two records that cannot be read are passed over, and the second approval of a step fails. -/
theorem sample_file_printed :
    let args := ["commands.csv", "--setup", "setup.json"]
    let bytes := Utf8.encodeLines
      ["action,loan,step", "build,1", "fly,1", "approve,1,1", "approve,1,1", "build,x", "build,9"]
    let files (input : List UInt8) (path : String) : FileView :=
      .content (if path = "setup.json" then Setup.sampleBytes else input)
    let approve : Command := .approve 1 1 "" none none
    let between := Desk.sample.run .standard (events [.build 1, approve])
    let shorter := run args (files (withoutUnreadable bytes))
    Shows (run args (files bytes)) (Desk.sample.run .standard (events [.build 1, approve, approve, .build 9])) ∧
      (∃ error after, (engine .standard).perform approve between = .error (.failed error) after ∧
        after.chains = between.chains) ∧
      shorter.output = (run args (files bytes)).output ∧
      shorter.errors.filter isProcessing = (run args (files bytes)).errors.filter isProcessing := by
  intro args bytes files approve between shorter
  have asked : Usage.ofArguments args = .run ⟨"commands.csv", "setup.json", none⟩ := by decide +kernel
  have given (input : List UInt8) : files input "commands.csv" = .content input :=
    congrArg FileView.content (if_neg (by decide))
  have described (input : List UInt8) : files input "setup.json" = .content Setup.sampleBytes :=
    congrArg FileView.content (if_pos rfl)
  have read : readable (Request.all ⟨bytes, false⟩) = [.build 1, approve, approve, .build 9] := by decide +kernel
  have calm : Desk.sample.calm .standard (events (readable (Request.all ⟨bytes, false⟩))) = true := by
    rw [read]
    decide +kernel
  have failed : ∃ error after, (engine .standard).perform approve between = .error (.failed error) after := ⟨_, _, rfl⟩
  obtain ⟨error, after, failed⟩ := failed
  obtain ⟨shows, keeps, same⟩ := run_prints_steps asked ((congrArg readSetup (described bytes)).trans sample_read)
    Desk.sample_installed (given bytes) calm
  obtain ⟨output, errors⟩ := same (files (withoutUnreadable bytes)) ((described _).trans (described bytes).symm) (given _)
  rw [read] at shows keeps
  exact ⟨shows, ⟨error, after, failed, keeps [.build 1, approve] approve [.build 9] error after rfl failed⟩, output, errors⟩

end Program

end Countersign
