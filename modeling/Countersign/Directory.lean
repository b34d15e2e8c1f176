import Countersign.Approver
import Countersign.Error
import Countersign.Template

/-!
The directory knows the template of each product and the approvers, who are
listed in the order in which they were first registered.
-/

namespace Countersign

structure Directory where
  templates : Table Template
  approvers : List Approver
deriving DecidableEq

namespace Directory

def empty : Directory := ⟨.empty, []⟩

/-- A product has at most one template. -/
def addTemplate (directory : Directory) (template : Template) : Except CommandError Directory :=
  if directory.templates.contains template.product then
    .error (.invalid (.templateExists template.product))
  else .ok { directory with templates := directory.templates.insert template.product template }

/-- Puts an approver in the place of an earlier record, or at the end. -/
def register (approver : Approver) : List Approver → List Approver
  | [] => [approver]
  | known :: rest =>
    if known.id = approver.id then approver :: rest else known :: register approver rest

def addApprover (directory : Directory) (approver : Approver) : Directory :=
  { directory with approvers := register approver directory.approvers }

def template? (directory : Directory) (product : ProductId) : Option Template :=
  directory.templates.get? product

def activeApprovers (directory : Directory) (role : RoleId) : List Approver :=
  directory.approvers.filter fun approver => approver.active && approver.holdsRole role

def approver? (directory : Directory) (id : ApproverId) : Option Approver :=
  directory.approvers.find? (·.id == id)

end Directory

end Countersign
