import StreamsMongo.Codec.EncoderText
import StreamsMongo.Operators.Write

set_option autoImplicit false

namespace StreamsMongo.Write

open Scopes

inductive Profiling where
  | off | slow | all
  deriving DecidableEq

structure Template (Ext Tup : Type) (op : Operator) (n : Nat) extends
    Specification Ext Tup op n where
  profiling : Profiling
  init : Fin n → List Fragment
  initPortsExist : ∀ i, ∀ port ∈ readPorts (init i), port < numberOfInputPorts

inductive Variable where
  | tuple
  | port
  | iport (i : Nat)
  | otuplePtr
  | errorFound
  | findQueryBO
  | connPtr
  | errorMsg
  | findQueryBOMember
  | metric
  | profileSlow
  | profileAll
  deriving DecidableEq

-- `driver` is the enumeration in the class `DBClientWithCommands`.
inductive Origin (n : Nat) where
  | driver
  | member
  | process
  | assignment (i : Fin n) (path : List Nat)
  deriving DecidableEq

abbrev Name := EncoderText.Name Variable

variable {n : Nat}

abbrev Uses (n : Nat) := EncoderText.Uses Variable (Origin n)

abbrev Text (n : Nat) := EncoderText.Text Variable (Origin n)

def printed (fragments : List Fragment) : Uses n :=
  (readPorts fragments).map fun port => (.given (.iport port), .process)

def declareFor (i : Fin n) (name : Variable) : Text n :=
  [.declare (.given name) (.assignment i [])]

def ofAssignment (i : Fin n) (name : Variable) : Name × Origin n :=
  (.given name, .assignment i [])

def ofProcess (name : Variable) : Name × Origin n := (.given name, .process)

def ofMember (name : Variable) : Name × Origin n := (.given name, .member)

def ofDriver (name : Variable) : Name × Origin n := (.given name, .driver)

def connectText (i : Fin n) (db : List Fragment) : Text n :=
  declareFor i .connPtr ++ (mention (printed db) ++
    -- `if(connPtr->isFailed())`, and in it the two branches of `if (autoReconnect)`
    (mention [ofAssignment i .connPtr] ++
      block (block (mention [ofAssignment i .connPtr]) ++ block [])))

-- Query writes `DBClientWithCommands::ProfileSlow`, the other operators the bare name.
def Profiling.level : Profiling → Option Variable
  | .off => none
  | .slow => some .profileSlow
  | .all => some .profileAll

def profilingText (profiling : Profiling) (i : Fin n) (db : List Fragment) : Text n :=
  match profiling.level with
  | none => []
  | some level => mention (ofAssignment i .connPtr :: (printed db ++ [ofDriver level]))

def resultText (i : Fin n) : Text n :=
  declareFor i .errorMsg ++ (mention [ofAssignment i .connPtr, ofAssignment i .errorMsg] ++
    (block (mention [ofMember .metric]) ++
      block (mention [ofProcess .errorFound, ofAssignment i .errorMsg, ofProcess .otuplePtr] ++
        (block (mention [ofProcess .otuplePtr]) ++
          mention [ofProcess .otuplePtr, ofAssignment i .errorMsg]))))

def requestText (profiling : Profiling) (i : Fin n) (db collection : List Fragment)
    (documents : Uses n) : Text n :=
  connectText i db ++ (profilingText profiling i db ++
    (mention (ofAssignment i .connPtr :: (printed db ++ printed collection ++ documents)) ++
      resultText i))

variable {Ext Tup : Type} {op : Operator}

def findQueryText (findQuery : Option (FindParameter Ext Tup)) (i : Fin n) : Text n :=
  declareFor i .findQueryBO ++
    match findQuery with
    | some expr =>
        if hasStreamAttributes expr.fragments then mention [ofProcess .tuple]
        else mention [ofMember .findQueryBOMember]
    | none => mention [ofMember .findQueryBOMember]

section Encoder

variable {In : Type}

def DataArgument.splType : DataArgument In → Option SplType
  | .value t _ => some t
  | .asJson _ => none

def WriteArguments.text (args : WriteArguments In) (i : Fin n) : Text n :=
  EncoderText.buildBSONObjectWithKey (.assignment i)
    (args.key.map fun key => printed key.fragments) args.data.splType (printed args.data.fragments)

end Encoder

def guardText (guard : Option Int) : Text n :=
  match guard with
  | none => []
  | some _ => mention [ofProcess .port]

variable (getCppTupleName : Nat → String) (template : Template Ext Tup op n)

-- Insert and Update put braces around an operation, Delete does not.
def Operation.text (i : Fin n) (call : Operation (Arrival Ext Tup) op) : Text n :=
  match call with
  | .insertDocument args =>
      guardText (call.guard getCppTupleName template.numberOfInputPorts) ++
        block (args.text i ++
          requestText template.profiling i args.db.fragments args.collection.fragments
            [(.bsonObj, .assignment i [])])
  | .updateDocument _ args =>
      guardText (call.guard getCppTupleName template.numberOfInputPorts) ++
        block (args.text i ++ (findQueryText template.findQuery i ++
          requestText template.profiling i args.db.fragments args.collection.fragments
            [ofAssignment i .findQueryBO, (.bsonObj, .assignment i [])]))
  | .removeDocument _ db collection =>
      findQueryText template.findQuery i ++
        requestText template.profiling i db.fragments collection.fragments
          [ofAssignment i .findQueryBO]

def Assignment.emitted {t : SplType} (i : Fin n) :
    Assignment (Arrival Ext Tup) op t → Text n
  | .unassigned => []
  | .asIs _ => mention (ofProcess .otuplePtr :: printed (template.init i))
  | .operation call => call.text getCppTupleName template i

def inputPortText (i : Nat) : Text n :=
  .declare (.given (.iport i)) .process :: mention [ofProcess .tuple]

def processText : Text n :=
  (List.range template.numberOfInputPorts).flatMap inputPortText ++
    ([.declare (.given .otuplePtr) .process, .declare (.given .errorFound) .process] ++
      ((List.finRange n).flatMap (fun i =>
        (template.assignment i).emitted getCppTupleName template i) ++
        mention [ofProcess .errorFound, ofProcess .otuplePtr]))

end StreamsMongo.Write
