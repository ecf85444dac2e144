import Mathlib.Data.Finmap
import Mathlib.Data.Finset.Insert
import StreamsMongo.Shared.BsonData

set_option autoImplicit false

namespace StreamsMongo

inductive IntType where
  | int8 | int16 | int32 | int64 | uint8 | uint16 | uint32 | uint64
  deriving DecidableEq

def IntType.bits : IntType → Nat
  | .int8 | .uint8 => 8
  | .int16 | .uint16 => 16
  | .int32 | .uint32 => 32
  | .int64 | .uint64 => 64

inductive DecimalType where
  | decimal32 | decimal64 | decimal128
  deriving DecidableEq

def DecimalType.bits : DecimalType → Nat
  | .decimal32 => 32
  | .decimal64 => 64
  | .decimal128 => 128

inductive PrimType where
  | blob
  | boolean
  | complex32
  | complex64
  | decimal (d : DecimalType)
  | enum (first : String) (rest : List String)
  | float32
  | float64
  | int (i : IntType)
  | rstring
  | timestamp
  | ustring
  | xml
  deriving DecidableEq

structure Timestamp where
  seconds : BitVec 64
  nanoseconds : BitVec 32
  deriving DecidableEq

-- Floating and decimal numbers are bit patterns; all three string types hold characters.
def PrimType.Value : PrimType → Type
  | .blob => List UInt8
  | .boolean => Bool
  | .complex32 => BitVec 32 × BitVec 32
  | .complex64 => BitVec 64 × BitVec 64
  | .decimal d => BitVec d.bits
  | .enum first rest => { member : String // member ∈ first :: rest }
  | .float32 => BitVec 32
  | .float64 => BitVec 64
  | .int i => BitVec i.bits
  | .rstring | .ustring | .xml => String
  | .timestamp => Timestamp

def PrimType.cleared : (p : PrimType) → p.Value
  | .blob => ([] : List UInt8)
  | .boolean => false
  | .complex32 => (0#32, 0#32)
  | .complex64 => (0#64, 0#64)
  | .decimal d => BitVec.zero d.bits
  | .enum first _ => ⟨first, List.mem_cons_self ..⟩
  | .float32 => 0#32
  | .float64 => 0#64
  | .int i => BitVec.zero i.bits
  | .rstring | .ustring | .xml => ""
  | .timestamp => (⟨0#64, 0#32⟩ : Timestamp)

instance PrimType.instDecidableEqValue : (p : PrimType) → DecidableEq p.Value
  | .blob => inferInstanceAs (DecidableEq (List UInt8))
  | .boolean => inferInstanceAs (DecidableEq Bool)
  | .complex32 => inferInstanceAs (DecidableEq (BitVec 32 × BitVec 32))
  | .complex64 => inferInstanceAs (DecidableEq (BitVec 64 × BitVec 64))
  | .decimal d => inferInstanceAs (DecidableEq (BitVec d.bits))
  | .enum first rest => inferInstanceAs (DecidableEq { member : String // member ∈ first :: rest })
  | .float32 => inferInstanceAs (DecidableEq (BitVec 32))
  | .float64 => inferInstanceAs (DecidableEq (BitVec 64))
  | .int i => inferInstanceAs (DecidableEq (BitVec i.bits))
  | .rstring | .ustring | .xml => inferInstanceAs (DecidableEq String)
  | .timestamp => inferInstanceAs (DecidableEq Timestamp)

mutual

inductive SplType where
  | prim (p : PrimType)
  | list (t : SplType)
  | set (t : SplType)
  | map (t : SplType)
  | tuple (attrs : Attributes)

inductive Attributes where
  | nil
  | cons (name : FieldName) (t : SplType) (rest : Attributes)

end

deriving instance DecidableEq for SplType, Attributes

mutual

-- Sets and maps are compared by content, so their values are finite sets and finite maps.
def SplType.Value : SplType → Type
  | .prim p => p.Value
  | .list t => List t.Value
  | .set t => Finset t.Value
  | .map t => Finmap fun _ : String => t.Value
  | .tuple attrs => attrs.Value

def Attributes.Value : Attributes → Type
  | .nil => Unit
  | .cons _ t rest => t.Value × rest.Value

end

mutual

def SplType.decEq : (t : SplType) → DecidableEq t.Value
  | .prim p => p.instDecidableEqValue
  | .list t => have := t.decEq; inferInstanceAs (DecidableEq (List t.Value))
  | .set t => have := t.decEq; inferInstanceAs (DecidableEq (Finset t.Value))
  | .map t => have := t.decEq; inferInstanceAs (DecidableEq (Finmap fun _ : String => t.Value))
  | .tuple attrs => attrs.decEq

def Attributes.decEq : (attrs : Attributes) → DecidableEq attrs.Value
  | .nil => inferInstanceAs (DecidableEq Unit)
  | .cons _ t rest =>
      have := t.decEq
      have := rest.decEq
      inferInstanceAs (DecidableEq (t.Value × rest.Value))

end

instance (t : SplType) : DecidableEq t.Value := t.decEq

instance (attrs : Attributes) : DecidableEq attrs.Value := attrs.decEq

mutual

def SplType.cleared : (t : SplType) → t.Value
  | .prim p => p.cleared
  | .list t => ([] : List t.Value)
  | .set t => (∅ : Finset t.Value)
  | .map t => (∅ : Finmap fun _ : String => t.Value)
  | .tuple attrs => attrs.cleared

def Attributes.cleared : (attrs : Attributes) → attrs.Value
  | .nil => ()
  | .cons _ t rest => (t.cleared, rest.cleared)

end

structure SplData where
  type : SplType
  value : type.Value

def Attributes.names : Attributes → List FieldName
  | .nil => []
  | .cons name _ rest => name :: rest.names

inductive Attributes.Has : Attributes → FieldName → SplType → Type where
  | head {name : FieldName} {t : SplType} {rest : Attributes} : Has (.cons name t rest) name t
  | tail {name other : FieldName} {t u : SplType} {rest : Attributes} :
      Has rest name t → Has (.cons other u rest) name t

def Attributes.Has.get : {attrs : Attributes} → {name : FieldName} → {t : SplType} →
    attrs.Has name t → attrs.Value → t.Value
  | _, _, _, .head, values => values.1
  | _, _, _, .tail position, values => position.get values.2

theorem Attributes.Has.mem_names {attrs : Attributes} {name : FieldName} {t : SplType}
    (position : attrs.Has name t) : name ∈ attrs.names := by
  induction position with
  | head => exact List.mem_cons_self ..
  | tail _ ih => exact List.mem_cons_of_mem _ ih

mutual

def SplType.WellFormed : SplType → Prop
  | .prim _ => True
  | .list t | .set t | .map t => t.WellFormed
  | .tuple attrs => attrs.names.Nodup ∧ attrs.WellFormed

def Attributes.WellFormed : Attributes → Prop
  | .nil => True
  | .cons _ t rest => t.WellFormed ∧ rest.WellFormed

end

/-- What the SPL runtime and the C++ platform decide and the sources of the toolkit do not. -/
structure SplRuntime where
  rstringOfUString : String → String
  ustringOfString : String → String
  rstringOfXml : String → String
  xmlOfString : String → String
  doubleOfFloat : BitVec 32 → BitVec 64
  floatOfDouble : BitVec 64 → BitVec 32
  doubleOfInt : BitVec 32 → BitVec 64
  doubleOfLong : BitVec 64 → BitVec 64
  intOfDouble : (i : IntType) → BitVec 64 → BitVec i.bits
  doubleOfDecimal : (d : DecimalType) → BitVec d.bits → BitVec 64
  decimalOfDouble : (d : DecimalType) → BitVec 64 → BitVec d.bits
  setOrder : (t : SplType) → Finset t.Value → List t.Value
  setOrder_val : ∀ (t : SplType) (s : Finset t.Value), (setOrder t s : Multiset t.Value) = s.val
  mapOrder : (t : SplType) → (Finmap fun _ : String => t.Value) → List (Σ _ : String, t.Value)
  mapOrder_entries : ∀ (t : SplType) (m : Finmap fun _ : String => t.Value),
    (mapOrder t m : Multiset (Σ _ : String, t.Value)) = m.entries
  mapAddReplaces : Bool

def SplRuntime.mapAdd {α : Type} (rt : SplRuntime) (m : Finmap fun _ : String => α)
    (key : String) (value : α) : Finmap fun _ : String => α :=
  if key ∈ m then if rt.mapAddReplaces then m.insert key value else m else m.insert key value

theorem SplRuntime.mapAdd_fresh {α : Type} (rt : SplRuntime) (m : Finmap fun _ : String => α)
    (key : String) (value : α) (fresh : key ∉ m) : rt.mapAdd m key value = m.insert key value := by
  simp [mapAdd, fresh]

noncomputable def SplRuntime.plain : SplRuntime where
  rstringOfUString := id
  ustringOfString := id
  rstringOfXml := id
  xmlOfString := id
  doubleOfFloat bits := bits.zeroExtend 64
  floatOfDouble bits := bits.truncate 32
  doubleOfInt bits := bits.zeroExtend 64
  doubleOfLong := id
  intOfDouble i bits := bits.truncate i.bits
  doubleOfDecimal _ bits := bits.truncate 64
  decimalOfDouble d bits := bits.zeroExtend d.bits
  setOrder _ s := s.val.toList
  setOrder_val _ s := s.val.coe_toList
  mapOrder _ m := m.entries.toList
  mapOrder_entries _ m := m.entries.coe_toList
  mapAddReplaces := true

end StreamsMongo
