import Mathlib

/-! # The rows of a database transfer

A transfer inserts the rows of a table in batches.  Rows of a table that refers to
itself are put in order first, in sweeps over those that are left.
-/

namespace ZeroNvr

structure DatabaseTransferError where
  code : String
  message : String
  deriving DecidableEq

structure ForeignKeyElement where
  parentTable : String
  parentName : String
  columnTable : String
  columnName : String

structure TableSchema where
  name : String
  foreignKeyElements : List ForeignKeyElement

/-- `row.get`: a column that is NULL has no value. -/
abbrev TransferRow (κ : Type) := String → Option κ

namespace DatabaseTransferService

variable {κ : Type} [DecidableEq κ]

def selfReference (table : TableSchema) : Except DatabaseTransferError (Option (String × String)) :=
  match table.foreignKeyElements.filter fun element =>
    element.columnTable = table.name ∧ element.parentTable = table.name with
  | [] => .ok none
  | [element] => .ok (some (element.parentName, element.columnName))
  | _ => .error {
      code := "database_transfer_self_reference_unsupported"
      message := "Database transfer encountered a table with an unsupported composite or multiple self-reference." }

structure Sweep (κ : Type) where
  ordered : List (TransferRow κ)
  known : List (Option κ)
  nextRemaining : List (TransferRow κ)

variable (localName remoteName : String)

/-- One sweep: the rows whose parents are known, and those that have to wait. -/
def sweep (known : List (Option κ)) : List (TransferRow κ) → Sweep κ
  | [] => { ordered := [], known, nextRemaining := [] }
  | row :: rows =>
    if row localName = none ∨ row localName ∈ known then
      let rest := sweep (row remoteName :: known) rows
      { rest with ordered := row :: rest.ordered }
    else
      let rest := sweep known rows
      { rest with nextRemaining := row :: rest.nextRemaining }

def cycleError (table : TableSchema) : DatabaseTransferError :=
  { code := "database_transfer_self_reference_cycle"
    message := s!"Database transfer found a cyclic or invalid self-reference in table {table.name}." }

/-- The sweeps; each one that goes on leaves fewer rows, so their number bounds the sweeps. -/
def sweeps (table : TableSchema) : Nat → List (Option κ) → List (TransferRow κ) → List (TransferRow κ) →
    Except DatabaseTransferError (List (TransferRow κ))
  | _, _, [], ordered => .ok ordered
  | 0, _, _ :: _, _ => .error (cycleError table)
  | fuel + 1, known, row :: rows, ordered =>
    let swept := sweep localName remoteName known (row :: rows)
    if swept.ordered.isEmpty then .error (cycleError table)
    else sweeps table fuel swept.known swept.nextRemaining (ordered ++ swept.ordered)

/-- The keys of the rows without a parent, before any row is ordered. -/
def rootKeys (rows : List (TransferRow κ)) : List (Option κ) :=
  (rows.filter fun row => row localName = none).map fun row => row remoteName

def orderedSelfReferencingRows (table : TableSchema) (rows : List (TransferRow κ)) :
    Except DatabaseTransferError (List (TransferRow κ)) :=
  match selfReference table with
  | .error error => .error error
  | .ok none => .ok rows
  | .ok (some (localName, remoteName)) =>
    sweeps localName remoteName table rows.length (rootKeys localName remoteName rows) rows []

/-- `ordered[start : start + batch_size]` for every start. -/
def batches {ρ : Type} (batchSize : Nat) (ordered : List ρ) : List (List ρ) :=
  (List.range ((ordered.length + batchSize - 1) / batchSize)).map fun k =>
    (ordered.drop (k * batchSize)).take batchSize

end DatabaseTransferService

end ZeroNvr
