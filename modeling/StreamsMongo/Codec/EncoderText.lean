import StreamsMongo.Library.Scopes
import StreamsMongo.Shared.SplData

set_option autoImplicit false

namespace StreamsMongo.EncoderText

open Scopes

-- The names in generated text; the source's own expressions hold names of `S` alone.
inductive Name (S : Type) where
  | b (seq : Nat)
  | cppExpr (seq : Nat)
  | values (seq : Nat)
  | value (seq : Nat)
  | tupleData (seq : Nat)
  | bsonObj
  | given (name : S)
  deriving DecidableEq

def Name.seq? {S : Type} : Name S → Option Nat
  | .b seq | .cppExpr seq | .values seq | .value seq | .tupleData seq => some seq
  | .bsonObj | .given _ => none

variable {S O : Type}

abbrev Uses (S O : Type) := List (Name S × O)

abbrev Text (S O : Type) := List (Token (Name S) O)

def handlePrimitive (value : Uses S O) : PrimType → Uses S O
  -- `errorln`
  | .complex32 | .complex64 => []
  | .blob | .timestamp => value ++ value
  | .decimal _ | .enum _ _ | .ustring | .xml => value
  | .boolean | .float32 | .float64 | .int _ | .rstring => value

/-- The constant is in scope in its own initializer. -/
def header (origin : O) (cppExpr : Uses S O) (seq : Nat) (constant : Name S) : Text S O :=
  [.declare (.b seq) origin] ++ (mention cppExpr ++ ([.declare (.cppExpr seq) origin] ++
    (mention [(.cppExpr seq, origin)] ++ ([.declare constant origin] ++ mention cppExpr))))

def foreach (origin : O) (seq : Nat) (body : Text S O) : Text S O :=
  mention [(.cppExpr seq, origin), (.values seq, origin)] ++
    block ([.declare (.value seq) origin] ++ body)

def buildBSONObjectFromListOrSet (build : Uses S O → Text S O × Uses S O) (origin : O)
    (cppExpr : Uses S O) (seq : Nat) : Text S O :=
  let inner := build [(.value seq, origin)]
  header origin cppExpr seq (.values seq) ++
    foreach origin seq (inner.1 ++ mention ([(.b seq, origin)] ++ inner.2))

def buildBSONObjectFromMap (build : Uses S O → Text S O × Uses S O) (origin : O)
    (cppExpr : Uses S O) (seq : Nat) : Text S O :=
  let inner := build [(.value seq, origin)]
  header origin cppExpr seq (.values seq) ++
    foreach origin seq (inner.1 ++ mention ([(.b seq, origin), (.value seq, origin)] ++ inner.2))

mutual

def buildBSONObject (node : List Nat → O) :
    SplType → Uses S O → Nat → List Nat → Text S O × Uses S O
  | .prim p, cppExpr, _, _ => ([], handlePrimitive cppExpr p)
  | .list t, cppExpr, seq, path | .set t, cppExpr, seq, path =>
      (buildBSONObjectFromListOrSet
        (fun value => buildBSONObject node t value (seq + 1) (path ++ [0])) (node path) cppExpr seq,
        [(.b seq, node path)])
  | .map t, cppExpr, seq, path =>
      (buildBSONObjectFromMap
        (fun value => buildBSONObject node t value (seq + 1) (path ++ [0])) (node path) cppExpr seq,
        [(.b seq, node path)])
  | .tuple attrs, cppExpr, seq, path =>
      (header (node path) cppExpr seq (.tupleData seq) ++
        buildBSONObjectFromTuple node attrs seq path 0,
        [(.b seq, node path)])

def buildBSONObjectFromTuple (node : List Nat → O) : Attributes → Nat → List Nat → Nat → Text S O
  | .nil, _, _, _ => []
  | .cons _ t rest, seq, path, i =>
      let inner := buildBSONObject node t [(.tupleData seq, node path)] (seq + 1) (path ++ [i])
      block (inner.1 ++ mention ([(.b seq, node path)] ++ inner.2)) ++
        buildBSONObjectFromTuple node rest seq path (i + 1)

end

def buildBSONObjectFromJson (cppExpr : Uses S O) : Text S O × Uses S O := ([], cppExpr)

def buildData (node : List Nat → O) (splType : Option SplType) (cppExpr : Uses S O) (seq : Nat) :
    Text S O × Uses S O :=
  match splType with
  | some t => buildBSONObject node t cppExpr seq []
  | none => buildBSONObjectFromJson cppExpr

def buildBSONObjectWithKey (node : List Nat → O) (attrName : Option (Uses S O))
    (splType : Option SplType) (cppExpr : Uses S O) : Text S O :=
  match attrName with
  | some attrName =>
      let inner := buildData node splType cppExpr 1
      [.declare (.b 0) (node [])] ++
        (inner.1 ++ mention ((.b 0, node []) :: attrName ++ inner.2) ++
          ([.declare .bsonObj (node [])] ++ mention [(.b 0, node [])]))
  | none =>
      let inner := buildData node splType cppExpr 0
      inner.1 ++ ([.declare .bsonObj (node [])] ++ mention inner.2)

end StreamsMongo.EncoderText
