import StreamsMongo.Shared.SplData

set_option autoImplicit false

namespace StreamsMongo.BSONCommon

-- Integral promotion, then the `append` overload for the promoted type.
def plainInteger : (i : IntType) → BitVec i.bits → CppValue
  | .int8, n => .int (BitVec.signExtend 32 n)
  | .int16, n => .int (BitVec.signExtend 32 n)
  | .int32, n => .int n
  | .uint8, n => .int (BitVec.zeroExtend 32 n)
  | .uint16, n => .int (BitVec.zeroExtend 32 n)
  | .uint32, n => .unsigned n
  -- `static_cast<long long>`
  | .int64, n => .longLong n
  | .uint64, n => .longLong n

def dateOfTimestamp (ts : Timestamp) : BitVec 64 :=
  ts.seconds * 1000#64 + BitVec.zeroExtend 64 (ts.nanoseconds / 1000000#32)

def handlePrimitive (rt : SplRuntime) : (p : PrimType) → p.Value → Except Raised CppValue
  | .complex32, _ | .complex64, _ => .error (.notGenerated "The complex type is not supported.")
  | .blob, value => .ok (.binData 0 value)
  | .decimal d, value => .ok (.double (rt.doubleOfDecimal d value))
  | .enum _ _, value => .ok (.stdString value.val)
  | .timestamp, value => .ok (.date (dateOfTimestamp value))
  | .ustring, value => .ok (.stdString (rt.rstringOfUString value))
  | .xml, value => .ok (.stdString (rt.rstringOfXml value))
  | .int i, value => .ok (plainInteger i value)
  | .boolean, value => .ok (.bool value)
  | .float32, value => .ok (.double (rt.doubleOfFloat value))
  | .float64, value => .ok (.double value)
  | .rstring, value => .ok (.stdString value)

-- The array builder ignores the append function and lets the overloads decide.
def buildBSONObjectFromListOrSet {A : Type}
    (build : A → Except Raised (AppendFunction × CppValue)) (values : List A) :
    Except Raised BSONArrayBuilder :=
  values.foldlM (fun b value => do
    let (_, inner) ← build value
    b.append inner) {}

def buildBSONObjectFromMap {A : Type}
    (build : A → Except Raised (AppendFunction × CppValue)) (values : List (Σ _ : String, A)) :
    Except Raised BSONObj :=
  values.foldlM (fun b value => do
    let (appendFunction, inner) ← build value.2
    BSONObjBuilder.append b appendFunction value.1 inner) []

mutual

def buildBSONObject (rt : SplRuntime) :
    (t : SplType) → t.Value → Except Raised (AppendFunction × CppValue)
  | .prim p, value => do
      let inner ← handlePrimitive rt p value
      return (.append, inner)
  | .list t, value => do
      let b ← buildBSONObjectFromListOrSet (buildBSONObject rt t) value
      return (.appendArray, .bsonArray b.b)
  | .set t, value => do
      let b ← buildBSONObjectFromListOrSet (buildBSONObject rt t) (rt.setOrder t value)
      return (.appendArray, .bsonArray b.b)
  | .map t, value => do
      let b ← buildBSONObjectFromMap (buildBSONObject rt t) (rt.mapOrder t value)
      return (.append, .bsonObj b)
  | .tuple attrs, value => do
      let b ← buildBSONObjectFromTuple rt attrs value []
      return (.append, .bsonObj b)

def buildBSONObjectFromTuple (rt : SplRuntime) :
    (attrs : Attributes) → attrs.Value → BSONObj → Except Raised BSONObj
  | .nil, _, b => .ok b
  | .cons name t rest, (value, values), b => do
      let (appendFunction, inner) ← buildBSONObject rt t value
      let b ← BSONObjBuilder.append b appendFunction name.chars inner
      buildBSONObjectFromTuple rt rest values b

end

def buildBSONObjectFromJson (lib : DriverLibrary) (text : String) :
    Except Raised (AppendFunction × CppValue) := do
  let obj ← lib.fromjson text
  return (.append, .bsonObj obj)

-- The data argument of a write call: an SPL value, or a JSON text (`$isJson`).
inductive Data where
  | value (t : SplType) (value : t.Value)
  | json (text : String)

def Data.build (rt : SplRuntime) (lib : DriverLibrary) :
    Data → Except Raised (AppendFunction × CppValue)
  | .value t data => buildBSONObject rt t data
  | .json text => buildBSONObjectFromJson lib text

def buildBSONObjectWithKey (rt : SplRuntime) (lib : DriverLibrary) (attrName : Option String)
    (data : Data) : Except Raised BSONObj := do
  let (appendFunction, value) ← data.build rt lib
  match attrName with
  | some name => BSONObjBuilder.append [] appendFunction name value
  | none => return value.asBSONObj

def keyLess : SplType → Bool
  | .map _ | .tuple _ => false
  | .prim _ | .list _ | .set _ => true

end StreamsMongo.BSONCommon
