import StreamsMongo.Codec.Encoder
import StreamsMongo.Codec.EncoderProgram

set_option autoImplicit false

namespace StreamsMongo

def Attributes.get? : (attrs : Attributes) → attrs.Value → Nat → Option SplData
  | .nil, _, _ => none
  | .cons _ t _, (value, _), 0 => some ⟨t, value⟩
  | .cons _ _ rest, (_, values), i + 1 => rest.get? values i

namespace EncoderText

inductive Fault where
  -- A name does not stand for what the text takes it for.
  | stuck
  | raised (e : Raised)

def lift {A : Type} : Except Raised A → Except Fault A := Except.mapError .raised

inductive Binding where
  | given
  | arrayBuilder (b : BSONArrayBuilder)
  | objBuilder (b : BSONObj)
  | type (t : SplType)
  | data (data : SplData)
  | entry (key : String) (data : SplData)
  | bsonObj (obj : BSONObj)

abbrev Env (S : Type) := Name S → Option Binding

structure Source where
  data : SplData
  attrName : String := ""

variable {S O : Type}

namespace Env

def set [DecidableEq S] (env : Env S) (name : Name S) (binding : Binding) : Env S :=
  fun other => if other = name then some binding else env other

def without [DecidableEq S] (env : Env S) (names : List (Name S)) : Env S :=
  fun other => if other ∈ names then none else env other

-- The names get back what they stood for in `before`.
def restore [DecidableEq S] (env before : Env S) (names : List (Name S)) : Env S :=
  fun other => if other ∈ names then before other else env other

def Intact (env : Env S) (uses : Uses S O) : Bool :=
  uses.all fun u => match env u.1 with
    | some .given => true
    | _ => false

end Env

def Expr.eval (source : Source) (env : Env S) : Expr S O → Except Fault SplData
  | .source uses => if env.Intact uses then .ok source.data else .error .stuck
  | .element value =>
      match env value.1 with
      | some (.data data) => .ok data
      | _ => .error .stuck
  | .second value =>
      match env value.1 with
      | some (.entry _ data) => .ok data
      | _ => .error .stuck
  | .attribute tupleData i =>
      match env tupleData.1 with
      | some (.data ⟨.tuple attrs, values⟩) =>
          match attrs.get? values i with
          | some data => .ok data
          | none => .error .stuck
      | _ => .error .stuck

def Argument.eval (rt : SplRuntime) (lib : DriverLibrary) (source : Source) (env : Env S) :
    Argument S O → Except Fault CppValue
  | .primitive p expr => do
      match ← expr.eval source env with
      | ⟨.prim q, value⟩ =>
          if p = q then lift (BSONCommon.handlePrimitive rt q value) else .error .stuck
      | _ => .error .stuck
  | .arr b =>
      match env b.1 with
      | some (.arrayBuilder b) => .ok (.bsonArray b.b)
      | _ => .error .stuck
  | .obj b =>
      match env b.1 with
      | some (.objBuilder b) => .ok (.bsonObj b)
      | _ => .error .stuck
  | .fromjson expr => do
      match ← expr.eval source env with
      | ⟨.prim .rstring, text⟩ => return .bsonObj (← lift (lib.fromjson text))
      | _ => .error .stuck

-- `arr()` and `obj()` hand the builder's buffer over.
def Argument.spends : Argument S O → List (Name S)
  | .arr b | .obj b => [b.1]
  | .primitive _ _ | .fromjson _ => []

def Field.eval (source : Source) (env : Env S) : Field S O → Except Fault String
  | .literal attrName => .ok attrName.chars
  | .first value =>
      match env value.1 with
      | some (.entry chars _) => .ok chars
      | _ => .error .stuck
  | .key uses => if env.Intact uses then .ok source.attrName else .error .stuck

def items (rt : SplRuntime) : SplData → Option (List Binding)
  | ⟨.list t, value⟩ =>
      let values : List t.Value := value
      some (values.map fun x => .data ⟨t, x⟩)
  | ⟨.set t, value⟩ => some ((rt.setOrder t value).map fun x => .data ⟨t, x⟩)
  | ⟨.map t, value⟩ => some ((rt.mapOrder t value).map fun e => .entry e.1 ⟨t, e.2⟩)
  | _ => none

section Execution

variable [DecidableEq S] (rt : SplRuntime) (lib : DriverLibrary) (source : Source)

-- In `hidden` the declared name is in scope and has no value yet.
def Initializer.eval (env hidden : Env S) : Initializer S O → Except Fault Binding
  | .arrayBuilder => .ok (.arrayBuilder {})
  | .objBuilder => .ok (.objBuilder [])
  | .typeOf expr => do return .type (← expr.eval source env).type
  | .constant cppExpr expr =>
      match env cppExpr.1 with
      | some (.type t) => do
          let data ← expr.eval source hidden
          if data.type = t then .ok (.data data) else .error .stuck
      | _ => .error .stuck
  | .reference value => do
      match ← value.eval rt lib source hidden with
      | .bsonObj obj | .bsonArray obj => .ok (.bsonObj obj)
      | _ => .error .stuck

def Initializer.spends : Initializer S O → List (Name S)
  | .reference value => value.spends
  | .arrayBuilder | .objBuilder | .typeOf _ | .constant _ _ => []

structure Left (S : Type) where
  inside : Env S
  outside : Env S

mutual

def Statement.exec : Statement S O → Env S → Except Fault (Env S)
  | .block body, env => do return (← body.exec env).outside
  | .each cppExpr values value body, env =>
      match env cppExpr.1, env values.1 with
      | some (.type t), some (.data data) =>
          if data.type = t then
            match items rt data with
            | some rounds => rounds.foldlM (fun env item => do
                let left ← body.exec (env.set value.1 item)
                return left.outside.restore env [value.1]) env
            | none => .error .stuck
          else .error .stuck
      | _, _ => .error .stuck
  | .appendElement b value, env => do
      let inner ← value.eval rt lib source env
      let env := env.without value.spends
      match env b.1 with
      | some (.arrayBuilder builder) =>
          let builder ← lift (builder.append inner)
          return env.set b.1 (.arrayBuilder builder)
      | _ => .error .stuck
  | .appendField b function field value, env => do
      let field ← field.eval source env
      let inner ← value.eval rt lib source env
      let env := env.without value.spends
      match env b.1 with
      | some (.objBuilder builder) =>
          let builder ← lift (BSONObjBuilder.append builder function field inner)
          return env.set b.1 (.objBuilder builder)
      | _ => .error .stuck

def Body.exec : Body S O → Env S → Except Fault (Left S)
  | .done, env => .ok ⟨env, env⟩
  | .statement first rest, env => do rest.exec (← first.exec env)
  | .declare name initializer rest, env => do
      let binding ← initializer.eval rt lib source env (env.without [name.1])
      let left ← rest.exec ((env.without initializer.spends).set name.1 binding)
      return { left with outside := left.outside.restore env [name.1] }

end

end Execution

end EncoderText

end StreamsMongo
