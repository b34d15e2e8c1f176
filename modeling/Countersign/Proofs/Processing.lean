import Countersign.CommandLine
import Countersign.Proofs.Run

/-!
A file of commands as a run. What cannot be read is told and passed over; the rest is carried out
as any other run, and told of where it fails. The program comes to its end unless a sum does not
fit.
-/

namespace Countersign

namespace Program

def readable (requests : List (Except RequestError Command)) : List Command := requests.filterMap Except.toOption

def events (commands : List Command) : List Event := commands.map (.command .epoch)

def told : EStateM.Result Stop Desk Answer → List String
  | .ok (.scanned report) _ =>
    report.failed.map fun loan => s!"Error processing command: chain construction failed for loan {loan}"
  | .ok _ _ => []
  | .error (.failed error) _ => [s!"Error processing command: {error.message}"]
  | .error (.overflow _) _ => []

def toldOf (settings : Settings) (desk : Desk) : List Command → List String
  | [] => []
  | command :: rest =>
    told ((engine settings).perform command desk) ++
      toldOf settings (desk.after settings (.command .epoch command)) rest

def report (settings : Settings) (desk : Desk) : List (Except RequestError Command) → List String
  | [] => []
  | .error error :: rest => s!"Error reading command: {error.message}" :: report settings desk rest
  | .ok command :: rest =>
    told ((engine settings).perform command desk) ++
      report settings (desk.after settings (.command .epoch command)) rest

variable {settings : Settings}

theorem process_command (desk : Desk) (command : Command) (rest : List (Except RequestError Command)) :
    process (engine settings) desk (.ok command :: rest) =
      if desk.overflows settings (.command .epoch command) then none
      else (process (engine settings) (desk.after settings (.command .epoch command)) rest).map
        fun (later, lines) => (later, told ((engine settings).perform command desk) ++ lines) := by
  have after_eq : desk.after settings (.command .epoch command) =
      Desk.left ((engine settings).perform command desk) := rfl
  have overflows_eq : desk.overflows settings (.command .epoch command) =
      Desk.spills ((engine settings).perform command desk) := rfl
  rw [after_eq, overflows_eq, process]
  cases (engine settings).perform command desk with
  | ok answer after =>
    cases answer with
    | scanned outcome =>
      change (process (engine settings) after rest >>= _) = (process (engine settings) after rest).map _
      cases process (engine settings) after rest <;> rfl
    | done | built =>
      change process (engine settings) after rest = (process (engine settings) after rest).map _
      cases process (engine settings) after rest <;> rfl
  | error stop after =>
    cases stop with
    | failed error =>
      change (process (engine settings) after rest >>= _) = (process (engine settings) after rest).map _
      cases process (engine settings) after rest <;> rfl
    | overflow what => rfl

/-- A file is a run of its readable commands, and is done unless a sum does not fit there. -/
theorem process_eq (requests : List (Except RequestError Command)) (desk : Desk) :
    process (engine settings) desk requests =
      if desk.calm settings (events (readable requests)) then
        some (desk.run settings (events (readable requests)), report settings desk requests)
      else none := by
  induction requests generalizing desk with
  | nil => rfl
  | cons request rest ih =>
    cases request with
    | error error =>
      change (process (engine settings) desk rest >>= fun (later, lines) => some (later, _)) =
        if desk.calm settings (events (readable rest)) then _ else _
      rw [ih desk]
      split <;> rfl
    | ok command =>
      have calm_eq : desk.calm settings (events (readable (.ok command :: rest))) =
          (!desk.overflows settings (.command .epoch command) &&
            (desk.after settings (.command .epoch command)).calm settings (events (readable rest))) := rfl
      rw [process_command, calm_eq, ih]
      cases desk.overflows settings (.command .epoch command) with
      | true => rfl
      | false =>
        cases (desk.after settings (.command .epoch command)).calm settings (events (readable rest)) <;> rfl

theorem runCommands_of_calm {setup : Setup} {desk : Desk} {source : Csv.Source}
    (calm : desk.calm setup.settings (events (readable (Request.all source))) = true) (warnings : List String) :
    runCommands setup desk source warnings =
      ⟨0, printed (desk.run setup.settings (events (readable (Request.all source)))),
        warnings ++ report setup.settings desk (Request.all source)⟩ := by
  unfold runCommands
  rw [process_eq, if_pos calm]

/-! Lines on the error output. -/

def isProcessing (line : String) : Bool := "Error processing command: ".toList.isPrefixOf line.toList

theorem isProcessing_append (text : String) : isProcessing ("Error processing command: " ++ text) = true := by
  rw [isProcessing, String.toList_append]
  exact List.isPrefixOf_iff_prefix.mpr (List.prefix_append ..)

theorem isProcessing_of_reading (text : String) : isProcessing ("Error reading command: " ++ text) = false := by
  rw [isProcessing, String.toList_append]
  rfl

theorem isProcessing_of_told {result : EStateM.Result Stop Desk Answer} {line : String} (listed : line ∈ told result) :
    isProcessing line = true := by
  cases result with
  | ok answer after =>
    cases answer with
    | done | built => cases listed
    | scanned outcome =>
      obtain ⟨loan, _, rfl⟩ := List.mem_map.mp listed
      have split : s!"Error processing command: chain construction failed for loan {loan}" =
          "Error processing command: " ++ ("chain construction failed for loan " ++ toString loan) := by
        rw [← String.append_assoc]
        rfl
      rw [split]
      exact isProcessing_append _
  | error stop after =>
    cases stop with
    | failed error =>
      cases List.mem_singleton.mp listed
      exact isProcessing_append _
    | overflow what => cases listed

theorem report_processing (settings : Settings) (desk : Desk) (requests : List (Except RequestError Command)) :
    (report settings desk requests).filter isProcessing = toldOf settings desk (readable requests) := by
  induction requests generalizing desk with
  | nil => rfl
  | cons request rest ih =>
    cases request with
    | error error =>
      have other : ¬isProcessing s!"Error reading command: {error.message}" = true :=
        Bool.eq_false_iff.mp (isProcessing_of_reading error.message)
      rw [report, List.filter_cons_of_neg other]
      exact ih desk
    | ok command =>
      have all : (told ((engine settings).perform command desk)).filter isProcessing =
          told ((engine settings).perform command desk) := List.filter_eq_self.mpr fun _ => isProcessing_of_told
      rw [report, List.filter_append, all, ih]
      rfl

end Program

end Countersign
