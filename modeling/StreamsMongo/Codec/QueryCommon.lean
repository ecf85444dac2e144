import StreamsMongo.Shared.SplData

set_option autoImplicit false

namespace StreamsMongo.QueryCommon

structure Target (A : Type) where
  attr : A
  valueApplied : Bool

variable {A C : Type}

def Target.applied (attr : A) : Target A := ⟨attr, true⟩

def handleBlob (be : BSONValue) (target : Target (List UInt8)) : Target (List UInt8) :=
  if be.type = .binData then .applied be.binDataClean else target

def handleBoolean (be : BSONValue) (target : Target Bool) : Target Bool :=
  match be with
  | .bool boolean => .applied boolean
  | _ => target

-- `isValidValue` guards the assignment, so the surrounding `catch` is never entered.
def handleEnum (first : String) (rest : List String) (be : BSONValue)
    (target : Target { member : String // member ∈ first :: rest }) :
    Target { member : String // member ∈ first :: rest } :=
  if be.type = .string then
    if valid : be.str ∈ first :: rest then .applied ⟨be.str, valid⟩ else target
  else target

def number (rt : SplRuntime) : BSONValue → BitVec 64
  | .numberDouble bits => bits
  | .numberInt int => rt.doubleOfInt int
  | .numberLong long => rt.doubleOfLong long
  | _ => 0#64

def handleDecimal (rt : SplRuntime) (d : DecimalType) (be : BSONValue)
    (target : Target (BitVec d.bits)) : Target (BitVec d.bits) :=
  if be.isNumber then .applied (rt.decimalOfDouble d (number rt be)) else target

def handleFloat (rt : SplRuntime) (convert : BitVec 64 → A) (be : BSONValue)
    (target : Target A) : Target A :=
  if be.isNumber then .applied (convert (number rt be)) else target

-- Assigning an `int` or `long long` keeps the low bits or extends the sign.
def handleInt (rt : SplRuntime) (i : IntType) (be : BSONValue) (target : Target (BitVec i.bits)) :
    Target (BitVec i.bits) :=
  match be with
  | .numberDouble bits => .applied (rt.intOfDouble i bits)
  | .numberInt int => .applied (int.signExtend i.bits)
  | .numberLong long => .applied (long.signExtend i.bits)
  | _ => target

def handleString (convert : String → String) (be : BSONValue) (target : Target String) :
    Target String :=
  if be.type = .string then .applied (convert be.str) else target

def handleRString (be : BSONValue) (target : Target String) : Target String :=
  handleString id be target

def handleUString (rt : SplRuntime) (be : BSONValue) (target : Target String) : Target String :=
  handleString rt.ustringOfString be target

def handleXml (rt : SplRuntime) (be : BSONValue) (target : Target String) : Target String :=
  handleString rt.xmlOfString be target

-- Division and remainder of `int64_t` truncate; the nanoseconds are converted to `uint32_t`.
def timestampOfDate (tsInMillis : BitVec 64) : StreamsMongo.Timestamp where
  seconds := tsInMillis.sdiv 1000#64
  nanoseconds := ((tsInMillis.srem 1000#64) * 1000000#64).truncate 32

def handleTimestamp (be : BSONValue) (target : Target StreamsMongo.Timestamp) :
    Target StreamsMongo.Timestamp :=
  match be with
  | .date millis => .applied (timestampOfDate millis)
  | .timestamp seconds increment => .applied ⟨seconds.zeroExtend 64, increment⟩
  | _ => target

def handlePrimitive (rt : SplRuntime) (p : PrimType) (be : BSONValue) (target : Target p.Value) :
    Target p.Value :=
  if be.isSimpleType then
    match p, target with
    -- The generator reports "The complex type is not supported." and emits nothing here.
    | .complex32, target | .complex64, target => target
    | .blob, target => handleBlob be target
    | .boolean, target => handleBoolean be target
    | .enum first rest, target => handleEnum first rest be target
    | .decimal d, target => handleDecimal rt d be target
    | .float32, target => handleFloat rt rt.floatOfDouble be target
    | .float64, target => handleFloat rt id be target
    | .int i, target => handleInt rt i be target
    | .rstring, target => handleRString be target
    | .ustring, target => handleUString rt be target
    | .timestamp, target => handleTimestamp be target
    | .xml, target => handleXml rt be target
  else target

-- The loop over a `BSONObjIterator`; the inner attribute and flag are fresh in every round.
def readElements (read : BSONValue → Target A) (add : C → BSONElement → A → C) (it : BSONObj)
    (attr : C) : C :=
  it.foldl (fun attr be =>
    let inner := read be.2
    if inner.valueApplied then add attr be inner.attr else attr) attr

def handleBSONArray (read : BSONValue → Target A) (add : C → A → C) (getSize : C → Nat)
    (be : BSONValue) (target : Target C) : Target C :=
  if be.type = .array then
    let attr := readElements read (fun attr _ inner => add attr inner) be.embeddedObject target.attr
    { attr, valueApplied := if getSize attr > 0 then true else target.valueApplied }
  else target

def handleBSONObjectAsMap (rt : SplRuntime) (read : BSONValue → Target A) (be : BSONValue)
    (target : Target (Finmap fun _ : String => A)) : Target (Finmap fun _ : String => A) :=
  if be.type = .object then
    let attr := readElements read (fun attr be inner => rt.mapAdd attr be.1.chars inner)
      be.embeddedObject target.attr
    { attr, valueApplied := if attr.entries.card > 0 then true else target.valueApplied }
  else target

mutual

def handleBSONObject (rt : SplRuntime) :
    (t : SplType) → BSONValue → Target t.Value → Target t.Value
  | .prim p, be, target => handlePrimitive rt p be target
  | .list t, be, target =>
      handleBSONArray (C := List t.Value) (fun be => handleBSONObject rt t be ⟨t.cleared, false⟩)
        (fun attr inner => attr ++ [inner]) List.length be target
  | .set t, be, target =>
      handleBSONArray (C := Finset t.Value) (fun be => handleBSONObject rt t be ⟨t.cleared, false⟩)
        (fun attr inner => insert inner attr) Finset.card be target
  | .map t, be, target =>
      handleBSONObjectAsMap rt (fun be => handleBSONObject rt t be ⟨t.cleared, false⟩) be target
  | .tuple attrs, be, target =>
      if be.type = .object then
        .applied (handleBSONObjectAsTuple rt attrs be.embeddedObject target).attr
      else target

def handleBSONObjectAsTuple (rt : SplRuntime) :
    (attrs : Attributes) → BSONObj → Target attrs.Value → Target attrs.Value
  | .nil, _, target => target
  | .cons name t rest, bo, target =>
      let head : Target t.Value :=
        match BSONObj.getField bo name with
        | some be => handleBSONObject rt t be ⟨target.attr.1, target.valueApplied⟩
        | none => ⟨target.attr.1, target.valueApplied⟩
      let tail := handleBSONObjectAsTuple rt rest bo ⟨target.attr.2, head.valueApplied⟩
      ⟨(head.attr, tail.attr), tail.valueApplied⟩

end

def initBSONObject (lib : DriverLibrary) (attrName : FieldName) (attrNameNotInBO : Bool)
    (findPath : Option String) (queryResultBO : BSONObj) : Option BSONObj :=
  match findPath with
  | some path =>
      match lib.getFieldDotted queryResultBO path with
      | none => none
      | some be =>
          if attrNameNotInBO then some [(attrName, be)]
          else some (if be.type = .object then be.embeddedObject else [])
  | none =>
      if attrNameNotInBO then some [(attrName, .object queryResultBO)] else some queryResultBO

def readAttribute (rt : SplRuntime) (lib : DriverLibrary) (attrName : FieldName)
    (attrNameNotInBO : Bool) (findPath : Option String) (t : SplType) (queryResultBO : BSONObj)
    (attr0 : t.Value) : Target t.Value :=
  match initBSONObject lib attrName attrNameNotInBO findPath queryResultBO with
  | none => ⟨attr0, false⟩
  | some bo0 =>
      match BSONObj.getField bo0 attrName with
      | some be => handleBSONObject rt t be ⟨attr0, false⟩
      | none => ⟨attr0, false⟩

def queryDocumentField (rt : SplRuntime) (lib : DriverLibrary) (attrName : FieldName)
    (findPath : Option String) (t : SplType) (queryResultBO : BSONObj) (attr0 : t.Value) :
    Target t.Value :=
  readAttribute rt lib attrName false findPath t queryResultBO attr0

def queryDocumentMultipleFields (rt : SplRuntime) (lib : DriverLibrary) (attrName : FieldName)
    (findPath : Option String) (t : SplType) (queryResultBO : BSONObj) (attr0 : t.Value) :
    Target t.Value :=
  readAttribute rt lib attrName true findPath t queryResultBO attr0

end StreamsMongo.QueryCommon
