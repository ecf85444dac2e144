import Mathlib.Data.List.Infix
import Mathlib.Logic.Function.Basic
import StreamsMongo.Operators.Expression

set_option autoImplicit false

namespace StreamsMongo.Write

inductive Operator where
  | insert | update | delete
  deriving DecidableEq

inductive UpdateFunction where
  | updateDocument | updateDocuments | upsertDocument | upsertDocuments
  deriving DecidableEq

def UpdateFunction.upsert : UpdateFunction → Bool
  | .updateDocument | .updateDocuments => false
  | .upsertDocument | .upsertDocuments => true

def UpdateFunction.multi : UpdateFunction → Bool
  | .updateDocument | .upsertDocument => false
  | .updateDocuments | .upsertDocuments => true

inductive DeleteFunction where
  | removeDocument | removeDocuments
  deriving DecidableEq

def DeleteFunction.justOne : DeleteFunction → Bool
  | .removeDocument => true
  | .removeDocuments => false

inductive DataArgument (In : Type) where
  | value (t : SplType) (expr : Expression In t.Value)
  | asJson (expr : Expression In String)

namespace DataArgument

variable {In : Type}

def fragments : DataArgument In → List Fragment
  | .value _ expr => expr.fragments
  | .asJson expr => expr.fragments

def eval : DataArgument In → In → BSONCommon.Data
  | .value t expr, tuple => .value t (expr.eval tuple)
  | .asJson expr, tuple => .json (expr.eval tuple)

end DataArgument

structure WriteArguments (In : Type) where
  db : Expression In String
  collection : Expression In String
  key : Option (Expression In String)
  data : DataArgument In

def WriteArguments.fragments {In : Type} (args : WriteArguments In) : List Fragment :=
  args.db.fragments ++ args.collection.fragments ++ args.key.toList.flatMap Expression.fragments ++
    args.data.fragments

inductive Operation (In : Type) : Operator → Type where
  | insertDocument (args : WriteArguments In) : Operation In .insert
  | updateDocument (function : UpdateFunction) (args : WriteArguments In) : Operation In .update
  | removeDocument (function : DeleteFunction) (db collection : Expression In String) :
      Operation In .delete

def Operation.fragments {In : Type} {op : Operator} : Operation In op → List Fragment
  | .insertDocument args | .updateDocument _ args => args.fragments
  | .removeDocument _ db collection => db.fragments ++ collection.fragments

inductive DriverCall where
  | insert (dbCollection : String) (bsonObj : BSONObj)
  | update (dbCollection : String) (findQueryBO bsonObj : BSONObj) (upsert multi : Bool)
  | remove (dbCollection : String) (findQueryBO : BSONObj) (justOne : Bool)

inductive Assignment (In : Type) (op : Operator) : SplType → Type where
  -- The operators do not demand a complete assignment.
  | unassigned {t : SplType} : Assignment In op t
  | asIs {t : SplType} (init : In → Except Raised t.Value) : Assignment In op t
  | operation (call : Operation In op) : Assignment In op (.prim .rstring)

def Assignment.operation? {In : Type} {op : Operator} :
    {t : SplType} → Assignment In op t → Option (Operation In op)
  | _, .operation call => some call
  | _, _ => none

structure Specification (Ext Tup : Type) (op : Operator) (n : Nat) where
  numberOfInputPorts : Nat
  attributes : Fin n → SplType
  assignment : (i : Fin n) → Assignment (Arrival Ext Tup) op (attributes i)
  findQuery : Option (FindParameter Ext Tup)
  noFindQuery : op = .insert → findQuery = none
  portsExist : ∀ i call, (assignment i).operation? = some call →
    ∀ port ∈ readPorts call.fragments, port < numberOfInputPorts
  queryPortsExist : ∀ expr ∈ findQuery, ∀ port ∈ readPorts expr.fragments, port < numberOfInputPorts

section Generation

variable (getCppTupleName : Nat → String)

def contains (cppExpr name : String) : Bool := name.toList <:+: cppExpr.toList

-- One round of the port number loop; `-1` stands for no port seen yet.
def searchPort (cppExpr : String) (found : Int × List CodeGenError) (i : Nat) :
    Int × List CodeGenError :=
  if contains cppExpr (getCppTupleName i) then
    if found.1 ≠ -1 then (found.1, found.2 ++ [.multiplePorts cppExpr]) else (i, found.2)
  else found

def portNumber (numberOfInputPorts : Nat) (cppExpr : String) : Int × List CodeGenError :=
  (List.range numberOfInputPorts).foldl (searchPort getCppTupleName cppExpr) (-1, [])

def portGuard (numberOfInputPorts : Nat) (fragments : List Fragment) :
    Option Int × List CodeGenError :=
  if numberOfInputPorts > 1 && hasStreamAttributes fragments then
    let found := portNumber getCppTupleName numberOfInputPorts
      (getCppExpression getCppTupleName fragments)
    (some found.1, found.2)
  else (none, [])

variable {In : Type}

def checkKey (args : WriteArguments In) : List CodeGenError :=
  match args.key, args.data with
  | none, .value t _ => if BSONCommon.keyLess t then [.keyRequired t] else []
  | _, _ => []

def Operation.guard (numberOfInputPorts : Nat) {op : Operator} : Operation In op → Option Int
  | .insertDocument args | .updateDocument _ args =>
      (portGuard getCppTupleName numberOfInputPorts args.data.fragments).1
  | .removeDocument .. => none

def Operation.errors (numberOfInputPorts : Nat) {op : Operator} :
    Operation In op → List CodeGenError
  | .insertDocument args | .updateDocument _ args =>
      checkKey args ++ (portGuard getCppTupleName numberOfInputPorts args.data.fragments).2
  | .removeDocument .. => []

def Specification.errors {Ext Tup : Type} {op : Operator} {n : Nat}
    (spec : Specification Ext Tup op n) : List CodeGenError :=
  QueryCommon.checkFindQuery spec.findQuery ++ (List.finRange n).flatMap fun i =>
    match (spec.assignment i).operation? with
    | some call => call.errors getCppTupleName spec.numberOfInputPorts
    | none => []

end Generation

-- `port == -1` holds for no port of an operator.
def admits (guard : Option Int) (port : Nat) : Bool :=
  match guard with
  | none => true
  | some portNumber => (port : Int) = portNumber

section Execution

variable (rt : SplRuntime) (lib : DriverLibrary)

def WriteArguments.bsonObj {In : Type} (args : WriteArguments In) (tuple : In) :
    Except Raised BSONObj :=
  BSONCommon.buildBSONObjectWithKey rt lib (args.key.map fun key => key.eval tuple)
    (args.data.eval tuple)

def buildDbCollection {In : Type} (db collection : Expression In String) (tuple : In) : String :=
  db.eval tuple ++ "." ++ collection.eval tuple

def Operation.driverCall {In : Type} (findQueryBO : In → Except Raised BSONObj) {op : Operator} :
    Operation In op → In → Except Raised DriverCall
  | .insertDocument args, tuple => do
      let bsonObj ← args.bsonObj rt lib tuple
      return .insert (buildDbCollection args.db args.collection tuple) bsonObj
  | .updateDocument function args, tuple => do
      let bsonObj ← args.bsonObj rt lib tuple
      let query ← findQueryBO tuple
      return .update (buildDbCollection args.db args.collection tuple) query bsonObj
        function.upsert function.multi
  | .removeDocument function db collection, tuple => do
      let query ← findQueryBO tuple
      return .remove (buildDbCollection db collection tuple) query function.justOne

structure Driver where
  connection : Except Raised Unit
  getLastError : DriverCall → Except Raised String

inductive Stop where
  | raised (e : Raised)
  | nullDereference
  deriving DecidableEq

inductive Effect (t : SplType) where
  | skipped
  | assigned (value : t.Value)
  | succeeded (call : DriverCall)
  | failed (call : DriverCall) (errorMsg : t.Value)
  -- The block ends the whole of `process`; `issued` is the driver call that raised.
  | stopped (entered : Bool) (issued : Option DriverCall) (stop : Stop)

variable (getCppTupleName : Nat → String) {Ext Tup : Type} {op : Operator} {n : Nat}
  (spec : Specification Ext Tup op n)

def Operation.execute (findQueryBO : Arrival Ext Tup → Except Raised BSONObj)
    (arrival : Arrival Ext Tup) (driver : Driver) (call : Operation (Arrival Ext Tup) op) :
    Effect (.prim .rstring) :=
  if admits (call.guard getCppTupleName spec.numberOfInputPorts) arrival.port then
    match call.driverCall rt lib findQueryBO arrival with
    | .error e => .stopped true none (.raised e)
    | .ok issued =>
        match driver.connection with
        | .error e => .stopped true none (.raised e)
        | .ok _ =>
            match driver.getLastError issued with
            | .error e => .stopped true (some issued) (.raised e)
            | .ok errorMsg => if errorMsg = "" then .succeeded issued else .failed issued errorMsg
  else .skipped

-- `otuplePtr` is null until an operation has failed.
def Assignment.execute (findQueryBO : Arrival Ext Tup → Except Raised BSONObj)
    (arrival : Arrival Ext Tup) (driver : Driver) (hasTuple : Bool) :
    {t : SplType} → Assignment (Arrival Ext Tup) op t → Effect t
  | _, .unassigned => .skipped
  | _, .asIs init =>
      if hasTuple then
        match init arrival with
        | .error e => .stopped false none (.raised e)
        | .ok value => .assigned value
      else .stopped false none .nullDereference
  | _, .operation call => call.execute rt lib getCppTupleName spec findQueryBO arrival driver

structure Progress where
  otuplePtr : Option ((i : Fin n) → (spec.attributes i).Value)
  errorFound : Bool
  counter : Nat
  entered : List (Fin n)
  calls : List (Fin n × DriverCall)
  stop : Option Stop

def clearedTuple : (i : Fin n) → (spec.attributes i).Value := fun i => (spec.attributes i).cleared

variable {spec} in
def Progress.apply (progress : Progress spec) (i : Fin n) :
    Effect (spec.attributes i) → Progress spec
  | .skipped => progress
  | .assigned value =>
      { progress with
        otuplePtr := progress.otuplePtr.map fun otuple => Function.update otuple i value }
  | .succeeded call =>
      { progress with
        counter := progress.counter + 1
        entered := progress.entered ++ [i]
        calls := progress.calls ++ [(i, call)] }
  | .failed call errorMsg =>
      { progress with
        otuplePtr := some
          (Function.update (progress.otuplePtr.getD (clearedTuple spec)) i errorMsg)
        errorFound := true
        entered := progress.entered ++ [i]
        calls := progress.calls ++ [(i, call)] }
  | .stopped entered issued stop =>
      { progress with
        entered := progress.entered ++ if entered then [i] else []
        calls := progress.calls ++ issued.toList.map fun call => (i, call)
        stop := some stop }

def assign (findQueryBO : Arrival Ext Tup → Except Raised BSONObj) (arrival : Arrival Ext Tup)
    (drivers : Fin n → Driver) (progress : Progress spec) (i : Fin n) : Progress spec :=
  if progress.stop.isSome then progress
  else
    progress.apply i ((spec.assignment i).execute rt lib getCppTupleName spec findQueryBO arrival
      (drivers i) progress.otuplePtr.isSome)

structure State where
  findQueryBO : BSONObj
  counter : Nat

structure Outcome where
  entered : List (Fin n)
  calls : List (Fin n × DriverCall)
  submitted : Option ((i : Fin n) → (spec.attributes i).Value)
  stop : Option Stop

def construct (external : Ext) : Except Raised State := do
  let findQueryBO ←
    QueryCommon.initialBO (QueryCommon.buildFindQueryBO rt lib) spec.findQuery external
  return { findQueryBO, counter := 0 }

def started (state : State) : Progress spec :=
  { otuplePtr := none, errorFound := false, counter := state.counter, entered := [], calls := [],
    stop := none }

def Progress.finish (progress : Progress spec) : Outcome spec :=
  { entered := progress.entered
    calls := progress.calls
    submitted :=
      if progress.stop.isNone && progress.errorFound then progress.otuplePtr else none
    stop := progress.stop }

def findQueryBO (state : State) : Arrival Ext Tup → Except Raised BSONObj :=
  QueryCommon.currentBO (QueryCommon.buildFindQueryBO rt lib) spec.findQuery state.findQueryBO

def process (state : State) (input : Arrival Ext Tup × (Fin n → Driver)) :
    State × Outcome spec :=
  let progress := (List.finRange n).foldl
    (assign rt lib getCppTupleName spec (findQueryBO rt lib spec state) input.1 input.2)
    (started spec state)
  ({ state with counter := progress.counter }, progress.finish spec)

end Execution

end StreamsMongo.Write
