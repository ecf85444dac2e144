import StreamsMongo.Codec.BSONCommon

set_option autoImplicit false

namespace StreamsMongo

structure Arrival (Ext Tup : Type) where
  external : Ext
  tuple : Tup
  port : Nat

inductive Fragment where
  | text (cpp : String)
  | stream (port : Nat) (access : String)

def Fragment.print (getCppTupleName : Nat → String) : Fragment → String
  | .text cpp => cpp
  | .stream port access => getCppTupleName port ++ access

def Fragment.port? : Fragment → Option Nat
  | .text _ => none
  | .stream port _ => some port

structure Expression (In A : Type) where
  fragments : List Fragment
  eval : In → A

variable {Ext Tup A : Type}

def readPorts (fragments : List Fragment) : List Nat := fragments.filterMap Fragment.port?

def hasStreamAttributes (fragments : List Fragment) : Bool := !(readPorts fragments).isEmpty

def getCppExpression (getCppTupleName : Nat → String) (fragments : List Fragment) : String :=
  String.join (fragments.map (Fragment.print getCppTupleName))

structure FindParameter (Ext Tup : Type) where
  type : SplType
  fragments : List Fragment
  atStart : Ext → type.Value
  eval : Arrival Ext Tup → type.Value
  attributeFree : hasStreamAttributes fragments = false →
    ∀ arrival, eval arrival = atStart arrival.external

inductive CodeGenError where
  -- "The type '%s' of findQuery parameter is not a string, map or tuple."
  | findQueryType (t : SplType)
  -- "The type '%s' of the expression '%s' requires additional key parameter."
  | keyRequired (t : SplType)
  -- "Multiple input ports attributes in expression '%s' are used."
  | multiplePorts (cppExpr : String)

namespace QueryCommon

def cString (text : String) : String := String.ofList (text.toList.takeWhile (· ≠ nul))

def buildFindFieldsBO (rt : SplRuntime) (t : SplType) (value : t.Value) :
    Except Raised BSONObj := do
  let (_, inner) ← BSONCommon.buildBSONObject rt t value
  return inner.asBSONObj

-- The `try` block of `buildFindQueryBO`, which catches `MsgAssertionException` alone.
def findQueryFromJson (lib : DriverLibrary) (text : String) : Except Raised BSONObj :=
  match lib.fromjson (cString text) with
  | .ok obj => .ok obj
  | .error (.msgassert what) =>
      .error (.splRuntime ("FindQuery JSON string is not valid\n" ++ what))
  | .error e => .error e

def buildFindQueryBO (rt : SplRuntime) (lib : DriverLibrary) :
    (t : SplType) → t.Value → Except Raised BSONObj
  | .prim .rstring, text => findQueryFromJson lib text
  | t, value => do
      let (_, inner) ← BSONCommon.buildBSONObject rt t value
      return inner.asBSONObj

def initialBO (build : (t : SplType) → t.Value → Except Raised BSONObj)
    (param : Option (FindParameter Ext Tup)) (external : Ext) : Except Raised BSONObj :=
  match param with
  | some expr =>
      if hasStreamAttributes expr.fragments then .ok []
      else build expr.type (expr.atStart external)
  | none => .ok []

def currentBO (build : (t : SplType) → t.Value → Except Raised BSONObj)
    (param : Option (FindParameter Ext Tup)) (member : BSONObj) (arrival : Arrival Ext Tup) :
    Except Raised BSONObj :=
  match param with
  | some expr =>
      if hasStreamAttributes expr.fragments then build expr.type (expr.eval arrival)
      else .ok member
  | none => .ok member

def checkFindQuery (param : Option (FindParameter Ext Tup)) : List CodeGenError :=
  match param with
  | some expr =>
      match expr.type with
      | .prim .rstring => []
      | t => if BSONCommon.keyLess t then [.findQueryType t] else []
  | none => []

end QueryCommon

end StreamsMongo
