import Countersign.Desk
import Countersign.Setup.Basic

/-!
Filling the books from a setup: templates, approvers, and then the loans one by
one. The first thing that cannot be entered ends the installation; what was
entered before it stays.
-/

namespace Countersign

namespace Desk

def addTemplate (product : ProductId) (entries : List TemplateEntry) : Work Desk Unit := do
  match Template.ofEntries product entries with
  | .error fault => Work.fail (.invalid (.template fault))
  | .ok template => fun desk =>
    match desk.directory.addTemplate template with
    | .ok directory => .ok () { desk with directory := directory }
    | .error error => .error (.failed error) desk

def addApprover (approver : Approver) : Work Desk Unit :=
  modify fun desk => { desk with directory := desk.directory.addApprover approver }

def keepLedger (change : Ledger → Ledger) : Work Desk Unit :=
  modify fun desk => { desk with ledger := change desk.ledger }

end Desk

namespace LoanSetup

def placeLien (loan : LoanId) (lien : Option Decimal) : Work Desk Unit := do
  match lien with
  | none => pure ()
  | some amount => do
    match ← Desk.onLedger (Ledger.placeLien loan amount) with
    | .ok _ => pure ()
    | .error cause => Work.fail (.invalid (.lienRefused loan cause))

def install (entry : LoanSetup) : Work Desk Unit := do
  let id := entry.loan.id
  Desk.keepLedger fun ledger => (ledger.addLoan entry.loan).addCharges id entry.charges
  match entry.savings with
  | none => pure ()
  | some savings => do
    Desk.keepLedger (·.link id savings.id savings.available)
    placeLien id savings.lien

end LoanSetup

def Setup.install (setup : Setup) : Work Desk Unit := do
  setup.products.forM fun product => Desk.addTemplate product.id product.template
  setup.approvers.forM Desk.addApprover
  setup.loans.forM LoanSetup.install

end Countersign
