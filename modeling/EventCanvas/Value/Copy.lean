import EventCanvas.Fault

/-!
# Copying values

To copy a value down to its last part is to rebuild it, so a copy equals what it
is a copy of, and all that there is to know is whether it can be made.  Most values
have no say in how they are copied.  A record has: what it holds under the name of one
of the operations of copying is called in the place of that operation, and no value
can be called.  `Value.copyFault?` finds the first such record.
-/

namespace EventCanvas

namespace Value

/-- The fault of calling a value as if it were an operation. -/
def callFault (v : Value) : Fault := .wrongKind ("'" ++ v.kindName ++ "' object is not callable")

/-- What keeps a record from being taken apart: something of its own under the name of one of the two
operations for that.  In the place of the first one a null sends for the second, and if the record has
one of its own that counts as false, there is no way left. -/
def reduceFault? (fs : Fields) : Option Fault :=
  let last := Entries.lookup "__reduce__" fs
  match Entries.lookup "__reduce_ex__" fs with
  | none => last.map callFault
  | some null => last.map fun own => if own.truthy then callFault own else .uncopyable
  | some own => some (callFault own)

/-- What keeps a record from being copied, other than what it holds.  An operation of its own for
copying is asked for first, and null counts as none. -/
def recordCopyFault? (fs : Fields) : Option Fault :=
  match Entries.lookup "__deepcopy__" fs with
  | none | some null => reduceFault? fs
  | some own => some (callFault own)

mutual
/-- What keeps a value from being copied. -/
def copyFault? : Value → Option Fault
  | list xs => copyFaults? xs
  | tuple xs => copyFaults? xs
  | object fs => fieldCopyFaults? fs
  | record fs => (recordCopyFault? fs).or (fieldCopyFaults? fs)
  | typed _ fs => fieldCopyFaults? fs
  | _ => none

/-- What keeps a row of values from being copied. -/
def copyFaults? : List Value → Option Fault
  | [] => none
  | x :: xs => (copyFault? x).or (copyFaults? xs)

/-- What keeps the fields of a value from being copied. -/
def fieldCopyFaults? : List (String × Value) → Option Fault
  | [] => none
  | (_, v) :: fs => (copyFault? v).or (fieldCopyFaults? fs)
end

end Value

/-- A copy of something, given what keeps it from being copied. -/
def copied {α : Type} (a : α) : Option Fault → Except Fault α
  | none => .ok a
  | some f => .error f

end EventCanvas
