import Chip8.Failure
import Chip8.Instruction.Basic

/-!
The table of operations that a machine performs. Once it is frozen nothing can be added to it.
-/

namespace Chip8

structure OperationTable where
  operations : List Operation
  frozen : Bool
  deriving DecidableEq

namespace OperationTable

def standard : OperationTable :=
  { operations := Operation.all, frozen := true }

def freeze (table : OperationTable) : OperationTable :=
  { table with frozen := true }

def register (table : OperationTable) (operation : Operation) : Except Failure OperationTable :=
  if table.frozen then .error .registryFrozen
  else .ok { table with operations := table.operations ++ [operation] }

def keys (table : OperationTable) : List String :=
  (table.operations.map Operation.key).mergeSort fun left right => decide (left ≤ right)

end OperationTable

end Chip8
