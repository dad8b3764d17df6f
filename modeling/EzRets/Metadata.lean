import EzRets.Odbc

/-!
# EzRets.Metadata — the server metadata that librets hands out

The metadata objects, reduced to the fields that the driver reads, and `RetsMetadata`, the
lists and lookups of librets that the driver calls.  The driver passes these objects around by
pointer: two objects with equal fields are told apart by `oid`.
-/

namespace EzRets

/-- `MetadataTable::DataType`. -/
inductive RetsType
  | boolean
  | character
  | date
  | dateTime
  | time
  | tiny
  | small
  | int
  | long
  | decimal
  deriving DecidableEq, Repr

/-- `MetadataTable::Interpretation`; the driver only tells the two lookup values apart. -/
inductive Interpretation
  | lookup
  | lookupMulti
  | other
  deriving DecidableEq, Repr

structure MetadataResource where
  oid : Nat
  resourceID : Str
  standardName : Str
  keyField : Str
  deriving DecidableEq, Repr

structure MetadataClass where
  oid : Nat
  className : Str
  standardName : Str
  description : Str
  deriving DecidableEq, Repr

/-- A column of a class.  `level` is `Resource:Class`. -/
structure MetadataTable where
  oid : Nat
  systemName : Str
  standardName : Str
  longName : Str
  dataType : RetsType
  interpretation : Interpretation
  maximumLength : Int
  precision : Int
  lookupName : Str
  level : Str
  useSeparator : Bool
  isSearchable : Bool
  deriving DecidableEq, Repr

structure MetadataLookup where
  oid : Nat
  lookupName : Str
  deriving DecidableEq, Repr

structure MetadataLookupType where
  value : Str
  shortValue : Str
  longValue : Str
  deriving DecidableEq, Repr

/-- `RetsMetadata`.  The lists hold pointers to distinct objects.  It is taken as it is on the server:
the requests with which librets fetches its parts incrementally, and the exceptions of these requests,
are not modelled. -/
structure RetsMetadata where
  getAllResources : List MetadataResource
  getAllClasses : Str → List MetadataClass
  getAllTables : MetadataClass → List MetadataTable
  getAllLookupTypes : Str → Str → List MetadataLookupType
  getLookup : Str → Str → Option MetadataLookup
  getLookupType : Str → Str → Str → Option MetadataLookupType
  nodup_resources : getAllResources.Nodup
  nodup_classes : ∀ resourceID, (getAllClasses resourceID).Nodup

/-- The only resource of the metadata in the examples. -/
theorem nodup_property : [(⟨1, "Property".toList, "Property".toList, "ListingID".toList⟩ :
    MetadataResource)].Nodup := by decide

end EzRets
