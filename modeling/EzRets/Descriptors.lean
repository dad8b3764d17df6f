import EzRets.AbstractHandle

/-!
# EzRets.Descriptors — the descriptors of a statement

A statement owns four descriptors.  Only the row descriptor of the application is read again: its
bind offset and its data pointers move the addresses that values are stored at.
-/

namespace EzRets

/-- `BaseDesc::DescriptorType`. -/
inductive DescriptorType
  | apd
  | ipd
  | ard
  | ird
  deriving DecidableEq, Repr

/-- `BaseDesc`.  A record that `mDescDataPtrs` lacks reads as a null pointer. -/
structure BaseDesc where
  mErrors : List Error
  mDescDataPtrs : Int → Ptr

structure AppParamDesc extends BaseDesc where
  mBindOffsetPtr : Ptr
  mBindType : Nat

structure ImpParamDesc extends BaseDesc where
  mRowProcessedPtr : Ptr

structure AppRowDesc extends BaseDesc where
  mArraySize : Nat
  mBindOffsetPtr : Ptr
  mBindType : Nat

structure ImpRowDesc extends BaseDesc where
  mArrayStatusPtr : Ptr
  mRowsProcessedPtr : Ptr

/-! ## Identifiers of `SQLSetDescField` -/

def sqlDescBindType : Int := 25
def sqlDescOctetLengthPtr : Int := 1004
def sqlDescPrecision : Int := 1005
def sqlDescScale : Int := 1006
def sqlDescDataPtr : Int := 1010

namespace BaseDesc

/-- The constructor. -/
def new : BaseDesc := ⟨[], fun _ => 0⟩

def addError (desc : BaseDesc) (e : Error) : BaseDesc := { desc with mErrors := desc.mErrors ++ [e] }

/-- `getDataPtr`; the record number is an `SQLSMALLINT`. -/
def getDataPtr (desc : BaseDesc) (recNumber : Int) : Ptr :=
  desc.mDescDataPtrs (toSqlSmallint recNumber)

/-- `SQLSetDescField`.  It keeps the records of earlier calls. -/
def sqlSetDescField (desc : BaseDesc) (recNumber fieldIdentifier : Int) (value : Ptr) :
    BaseDesc × SqlReturn :=
  if fieldIdentifier = sqlDescBindType ∨ fieldIdentifier = sqlDescOctetLengthPtr then
    if value ≠ 0 then (desc.addError (.of "01S02" "Option Value Changed"), .successWithInfo)
    else (desc, .success)
  else if fieldIdentifier = sqlDescPrecision ∨ fieldIdentifier = sqlDescScale then (desc, .success)
  else if fieldIdentifier = sqlDescDataPtr then
    ({ desc with mDescDataPtrs := Function.update desc.mDescDataPtrs (recNumber - 1) value },
      .success)
  else
    (desc.addError (.of "HY000" "SQLSetDescField not implemented for this field yet."), .error)

/-- `SQLGetDescField`, which knows no field. -/
def sqlGetDescField (desc : BaseDesc) : BaseDesc × SqlReturn :=
  (desc.addError (.of "HY000" "SQLGetDescField not implemented for this field yet."), .error)

end BaseDesc

namespace AppParamDesc

/-- The constructor; it leaves `mBindType` open, and nothing reads it. -/
def new : AppParamDesc := { BaseDesc.new with mBindOffsetPtr := 0, mBindType := 0 }

end AppParamDesc

namespace ImpParamDesc

def new : ImpParamDesc := { BaseDesc.new with mRowProcessedPtr := 0 }

end ImpParamDesc

namespace AppRowDesc

/-- The constructor; it leaves `mBindType` open, and nothing reads it. -/
def new : AppRowDesc :=
  { BaseDesc.new with mArraySize := 1, mBindOffsetPtr := 0, mBindType := 0 }

end AppRowDesc

namespace ImpRowDesc

def new : ImpRowDesc := { BaseDesc.new with mArrayStatusPtr := 0, mRowsProcessedPtr := 0 }

end ImpRowDesc

/-- `adjustDescPointer`: moves `ptr` by the number that the application keeps behind `offset`.  A
null `ptr` is moved as well.  The sum stays in the address space; a pointer that leaves it is
undefined in the source and not modelled. -/
def adjustDescPointer (deref : Deref) (offset ptr : Ptr) : Ptr :=
  if offset ≠ 0 then ptr + deref offset else ptr

@[simp] theorem adjustDescPointer_zero (deref : Deref) (ptr : Ptr) :
    adjustDescPointer deref 0 ptr = ptr := rfl

end EzRets
