import StreamsMongo.Codec.DecoderText
import StreamsMongo.Codec.PartialDecoder
import StreamsMongo.Library.Lenses

set_option autoImplicit false

namespace StreamsMongo

open Lenses

namespace QueryCommon

def handleLeaf (rt : SplRuntime) (p : PrimType) (be : BSONValue) (target : Target p.Value) :
    Target p.Value :=
  match p, target with
  | .complex32, target | .complex64, target => target
  | .blob, target => handleBlob be target
  | .boolean, target => handleBoolean be target
  | .enum first rest, target => handleEnum first rest be target
  | .decimal d, target => handleDecimal rt d be target
  | .float32, target => handleFloat rt rt.floatOfDouble be target
  | .float64, target => handleFloat rt id be target
  | .int i, target => handleInt rt i be target
  | .rstring, target => handleRString be target
  | .ustring, target => handleUString rt be target
  | .timestamp, target => handleTimestamp be target
  | .xml, target => handleXml rt be target

theorem handlePrimitive_leaf (rt : SplRuntime) (p : PrimType) (be : BSONValue)
    (target : Target p.Value) :
    handlePrimitive rt p be target =
      if be.isSimpleType then handleLeaf rt p be target else target :=
  rfl

end QueryCommon

/-- Collections start empty and tuples cleared; a number is undetermined before it is assigned. -/
def SplType.constructed (fresh : (p : PrimType) → p.Value) : (t : SplType) → t.Value
  | .prim p => fresh p
  | .list t => (SplType.list t).cleared
  | .set t => (SplType.set t).cleared
  | .map t => (SplType.map t).cleared
  | .tuple attrs => (SplType.tuple attrs).cleared

section Parts

variable (name : FieldName) (t : SplType) (rest : Attributes)

def Attributes.headPart : Lens (Attributes.cons name t rest).Value t.Value :=
  Lens.first (A := t.Value) (B := rest.Value)

def Attributes.tailPart : Lens (Attributes.cons name t rest).Value rest.Value :=
  Lens.second (A := t.Value) (B := rest.Value)

end Parts

def Attributes.attribute? : (attrs : Attributes) → Nat →
    Option (Σ t : SplType, Lens attrs.Value t.Value)
  | .nil, _ => none
  | .cons name t rest, 0 => some ⟨t, headPart name t rest⟩
  | .cons name t rest, i + 1 =>
      (rest.attribute? i).map fun part => ⟨part.1, (tailPart name t rest).comp part.2⟩

def SplType.attribute? : (t : SplType) → Nat → Option (Σ u : SplType, Lens t.Value u.Value)
  | .tuple attrs, i => attrs.attribute? i
  | _, _ => none

def SplType.valueType? : SplType → Option SplType
  | .list t | .set t => some t
  | _ => none

def SplType.mappedType? : SplType → Option SplType
  | .map t => some t
  | _ => none

def SplType.getSize? : (t : SplType) → t.Value → Option Nat
  | .list _, attr => some (List.length attr)
  | .set _, attr => some (Finset.card attr)
  | .map _, attr => some (Finmap.entries attr).card
  | _, _ => none

namespace DecoderText

inductive Binding (M : Type) where
  | variable (t : SplType) (place : Lens M t.Value)
  | flag (place : Lens M Bool)
  | element (be : BSONElement)
  | object (bo : BSONObj)
  -- A round of the loop calls `next()` once, and this is what it returns.
  | iterator (next : BSONElement)
  | type (t : SplType)

variable {S O M N : Type}

def Binding.within (outer : Lens N M) : Binding M → Binding N
  | .variable t place => .variable t (outer.comp place)
  | .flag place => .flag (outer.comp place)
  | .element be => .element be
  | .object bo => .object bo
  | .iterator next => .iterator next
  | .type t => .type t

abbrev Env (S M : Type) := Name S → Option (Binding M)

namespace Env

def declare [DecidableEq S] (env : Env S M) (name : Name S) (binding : Binding M) : Env S M :=
  fun other => if other = name then some binding else env other

def within (env : Env S M) (outer : Lens N M) : Env S N :=
  fun name => (env name).map (Binding.within outer)

variable (env : Env S M) (name : Name S)

def attr? : Option (Σ t : SplType, Lens M t.Value) :=
  match env name with
  | some (.variable t place) => some ⟨t, place⟩
  | _ => none

def attrOf? (t : SplType) : Option (Lens M t.Value) := do
  let found ← env.attr? name
  if same : found.1 = t then some (same ▸ found.2) else none

def flag? : Option (Lens M Bool) :=
  match env name with
  | some (.flag place) => some place
  | _ => none

def element? : Option BSONElement :=
  match env name with
  | some (.element be) => some be
  | _ => none

def object? : Option BSONObj :=
  match env name with
  | some (.object bo) => some bo
  | _ => none

def iterator? : Option BSONElement :=
  match env name with
  | some (.iterator next) => some next
  | _ => none

def type? : Option SplType :=
  match env name with
  | some (.type t) => some t
  | _ => none

end Env

def Test.eval (env : Env S M) (m : M) : Test S O → Option Bool
  | .hasElement bo name => do return (← env.object? bo.1).hasElement name
  | .typeIs be type => do return (← env.element? be.1).2.type = type
  | .isSimpleType be => do return (← env.element? be.1).2.isSimpleType
  | .applied valueApplied => do return (← env.flag? valueApplied.1).get m
  | .notEmpty attr => do
      let ⟨t, place⟩ ← env.attr? attr.1
      return (← t.getSize? (place.get m)) > 0

inductive Declared (M : Type) where
  | bound (binding : Binding M)
  | variable (t : SplType)
  | flag

def Initializer.eval (env : Env S M) : Initializer S O → Option (Declared M)
  | .typeOf attr => do return .bound (.type (← env.attr? attr.1).1)
  | .typeOfAttribute attr i => do
      let ⟨t, _⟩ ← env.attr? attr.1
      return .bound (.type (← t.attribute? i).1)
  | .attribute cppExpr attr i => do
      let u ← env.type? cppExpr.1
      let ⟨t, place⟩ ← env.attr? attr.1
      let ⟨v, part⟩ ← t.attribute? i
      if v = u then some (.bound (.variable v (place.comp part))) else none
  | .embeddedObject be => do return .bound (.object (← env.element? be.1).2.embeddedObject)
  | .getField bo field => do
      let be ← (← env.object? bo.1).getField field
      return .bound (.element (field, be))
  | .valueType cppExpr => do return .variable (← (← env.type? cppExpr.1).valueType?)
  | .mappedType cppExpr => do return .variable (← (← env.type? cppExpr.1).mappedType?)
  | .next it => do return .bound (.element (← env.iterator? it.1))
  | .notApplied => some .flag

def store (attr : Lens M N) (valueApplied : Lens M Bool) (m : M) (target : QueryCommon.Target N) :
    M :=
  valueApplied.put (attr.put m target.attr) target.valueApplied

section Execution

variable [DecidableEq S] (rt : SplRuntime) (fresh : (p : PrimType) → p.Value)

def addTo (env : Env S M) (m : M) (key : Option String) (inner : Use S O) :
    (t : SplType) → Lens M t.Value → Option M
  | .list t, (attr : Lens M (List t.Value)) => do
      let place ← env.attrOf? inner.1 t
      if key.isNone then some (attr.put m (attr.get m ++ [place.get m])) else none
  | .set t, (attr : Lens M (Finset t.Value)) => do
      let place ← env.attrOf? inner.1 t
      if key.isNone then some (attr.put m (insert (place.get m) (attr.get m))) else none
  | .map t, (attr : Lens M (Finmap fun _ : String => t.Value)) => do
      let place ← env.attrOf? inner.1 t
      return attr.put m (rt.mapAdd (attr.get m) (← key) (place.get m))
  | _, _ => none

mutual

/-- `none` where a name does not stand for what the text takes it for. -/
def Statement.exec : Statement S O → {M : Type} → Env S M → M → Option M
  | .ifThen test body, _, env, m => do
      if ← test.eval env m then body.exec env m else some m
  | .block body, _, env, m => body.exec env m
  | .each it be body, _, env, m => do
      let be ← env.element? be.1
      be.2.embeddedObject.foldlM (fun m next => body.exec (env.declare it.1 (.iterator next)) m) m
  | .leaf p attr be valueApplied _, _, env, m => do
      let place ← env.attrOf? attr.1 (.prim p)
      let be ← env.element? be.1
      let flag ← env.flag? valueApplied.1
      return store place flag m (QueryCommon.handleLeaf rt p be.2 ⟨place.get m, flag.get m⟩)
  | .add attr none inner, _, env, m => do
      let ⟨t, place⟩ ← env.attr? attr.1
      addTo rt env m none inner t place
  | .add attr (some key) inner, _, env, m => do
      let ⟨t, place⟩ ← env.attr? attr.1
      let be ← env.element? key.1
      addTo rt env m (some be.1.chars) inner t place
  | .apply valueApplied, _, env, m => do return (← env.flag? valueApplied.1).put m true

def Body.exec : Body S O → {M : Type} → Env S M → M → Option M
  | .done, _, _, m => some m
  | .statement first rest, _, env, m => do rest.exec env (← first.exec env m)
  | .declare name initializer rest, _, env, m => do
      match ← initializer.eval env with
      | .bound binding => rest.exec (env.declare name.1 binding) m
      | .variable t =>
          let inner ← rest.exec ((env.within Lens.first).declare name.1 (.variable t Lens.second))
            (m, t.constructed fresh)
          return inner.1
      | .flag =>
          let inner ← rest.exec ((env.within Lens.first).declare name.1 (.flag Lens.second))
            (m, false)
          return inner.1

end

end Execution

section Lookups

variable (env : Env S M) (name : Name S) (t : SplType) (place : Lens M t.Value)
  (valueApplied : Lens M Bool) (be : BSONElement) (bo : BSONObj)

@[simp] theorem Env.within_apply (outer : Lens N M) (other : Name S) :
    env.within outer other = (env other).map (Binding.within outer) := rfl

@[simp] theorem Env.declare_apply [DecidableEq S] (declared other : Name S) (binding : Binding M) :
    env.declare declared binding other = if other = declared then some binding else env other :=
  rfl

theorem Env.attr?_eq (known : env name = some (.variable t place)) :
    env.attr? name = some ⟨t, place⟩ := by
  simp [attr?, known]

theorem Env.attrOf?_eq (known : env name = some (.variable t place)) :
    env.attrOf? name t = some place := by
  simp [attrOf?, env.attr?_eq name t place known]

theorem Env.flag?_eq (known : env name = some (.flag valueApplied)) :
    env.flag? name = some valueApplied := by
  simp [flag?, known]

theorem Env.element?_eq (known : env name = some (.element be)) :
    env.element? name = some be := by
  simp [element?, known]

theorem Env.object?_eq (known : env name = some (.object bo)) :
    env.object? name = some bo := by
  simp [object?, known]

theorem Env.iterator?_eq (known : env name = some (.iterator be)) :
    env.iterator? name = some be := by
  simp [iterator?, known]

theorem Env.type?_eq (known : env name = some (.type t)) : env.type? name = some t := by
  simp [type?, known]

end Lookups

section Rules

variable [DecidableEq S] {rt : SplRuntime} {fresh : (p : PrimType) → p.Value} {env : Env S M}
  {m m' : M} {declared : Use S O} {initializer : Initializer S O} {first : Statement S O}
  {body rest : Body S O}

attribute [local simp] Statement.exec Body.exec

theorem exec_block : (Statement.block body).exec rt fresh env m = body.exec rt fresh env m := by
  simp

theorem exec_statement (runs : first.exec rt fresh env m = some m') :
    (Body.statement first rest).exec rt fresh env m = rest.exec rt fresh env m' := by
  simp [runs]

theorem exec_last (runs : first.exec rt fresh env m = some m') :
    (Body.statement first .done).exec rt fresh env m = some m' := by
  simp [runs]

theorem exec_variable {t : SplType} (inner : M × t.Value)
    (known : initializer.eval env = some (.variable t))
    (runs : rest.exec rt fresh
      ((env.within Lens.first).declare declared.1 (.variable t Lens.second))
      (m, t.constructed fresh) = some inner) :
    (Body.declare declared initializer rest).exec rt fresh env m = some inner.1 := by
  simp [known, runs]

theorem exec_notApplied (inner : M × Bool)
    (runs : rest.exec rt fresh ((env.within Lens.first).declare declared.1 (.flag Lens.second))
      (m, false) = some inner) :
    (Body.declare declared .notApplied rest).exec rt fresh env m = some inner.1 := by
  simp [Initializer.eval, runs]

section Names

variable {name : Name S} {origin : O} {t : SplType} {place : Lens M t.Value} {be : BSONElement}
  {bo : BSONObj} {valueApplied : Lens M Bool}

theorem exec_typeOf (known : env name = some (.variable t place)) :
    (Body.declare declared (.typeOf (name, origin)) rest).exec rt fresh env m =
      rest.exec rt fresh (env.declare declared.1 (.type t)) m := by
  simp [Initializer.eval, env.attr?_eq _ t place known]

theorem exec_typeOfAttribute {u : SplType} {i : Nat} {part : Lens t.Value u.Value}
    (known : env name = some (.variable t place)) (accessor : t.attribute? i = some ⟨u, part⟩) :
    (Body.declare declared (.typeOfAttribute (name, origin) i) rest).exec rt fresh env m =
      rest.exec rt fresh (env.declare declared.1 (.type u)) m := by
  simp [Initializer.eval, env.attr?_eq _ t place known, accessor]

theorem exec_attribute {u : SplType} {i : Nat} {part : Lens t.Value u.Value} {cppExpr : Use S O}
    (typed : env cppExpr.1 = some (.type u)) (known : env name = some (.variable t place))
    (accessor : t.attribute? i = some ⟨u, part⟩) :
    (Body.declare declared (.attribute cppExpr (name, origin) i) rest).exec rt fresh env m =
      rest.exec rt fresh (env.declare declared.1 (.variable u (place.comp part))) m := by
  simp [Initializer.eval, env.attr?_eq _ t place known, env.type?_eq _ u typed, accessor]

theorem exec_embeddedObject (known : env name = some (.element be)) :
    (Body.declare declared (.embeddedObject (name, origin)) rest).exec rt fresh env m =
      rest.exec rt fresh (env.declare declared.1 (.object be.2.embeddedObject)) m := by
  simp [Initializer.eval, env.element?_eq _ be known]

theorem exec_getField {field : FieldName} {value : BSONValue}
    (known : env name = some (.object bo)) (found : bo.getField field = some value) :
    (Body.declare declared (.getField (name, origin) field) rest).exec rt fresh env m =
      rest.exec rt fresh (env.declare declared.1 (.element (field, value))) m := by
  simp [Initializer.eval, env.object?_eq _ bo known, found]

theorem exec_next (known : env name = some (.iterator be)) :
    (Body.declare declared (.next (name, origin)) rest).exec rt fresh env m =
      rest.exec rt fresh (env.declare declared.1 (.element be)) m := by
  simp [Initializer.eval, env.iterator?_eq _ be known]

theorem exec_typeIs {type : BSONType} (known : env name = some (.element be)) :
    (Statement.ifThen (.typeIs (name, origin) type) body).exec rt fresh env m =
      if be.2.type = type then body.exec rt fresh env m else some m := by
  simp [Test.eval, env.element?_eq _ be known]

theorem exec_isSimpleType (known : env name = some (.element be)) :
    (Statement.ifThen (.isSimpleType (name, origin)) body).exec rt fresh env m =
      if be.2.isSimpleType then body.exec rt fresh env m else some m := by
  simp [Test.eval, env.element?_eq _ be known]

theorem exec_hasElement {field : FieldName} (known : env name = some (.object bo)) :
    (Statement.ifThen (.hasElement (name, origin) field) body).exec rt fresh env m =
      if (bo.getField field).isSome then body.exec rt fresh env m else some m := by
  simp [Test.eval, env.object?_eq _ bo known, BSONObj.hasElement]

theorem exec_applied (known : env name = some (.flag valueApplied)) :
    (Statement.ifThen (.applied (name, origin)) body).exec rt fresh env m =
      if valueApplied.get m then body.exec rt fresh env m else some m := by
  simp [Test.eval, env.flag?_eq _ valueApplied known]

theorem exec_notEmpty {size : Nat} (known : env name = some (.variable t place))
    (sized : t.getSize? (place.get m) = some size) :
    (Statement.ifThen (.notEmpty (name, origin)) body).exec rt fresh env m =
      if size > 0 then body.exec rt fresh env m else some m := by
  simp [Test.eval, env.attr?_eq _ t place known, sized]

theorem exec_apply (known : env name = some (.flag valueApplied)) :
    (Statement.apply (name, origin)).exec rt fresh env m = some (valueApplied.put m true) := by
  simp [env.flag?_eq _ valueApplied known]

theorem exec_each {it : Use S O} (known : env name = some (.element be)) :
    (Statement.each it (name, origin) body).exec rt fresh env m =
      be.2.embeddedObject.foldlM
        (fun m next => body.exec rt fresh (env.declare it.1 (.iterator next)) m) m := by
  simp [env.element?_eq _ be known]

end Names

theorem exec_leaf {p : PrimType} {attr be flag : Use S O} {origin : O} {place : Lens M p.Value}
    {valueApplied : Lens M Bool} {element : BSONElement}
    (attrKnown : env attr.1 = some (.variable (.prim p) place))
    (elementKnown : env be.1 = some (.element element))
    (flagKnown : env flag.1 = some (.flag valueApplied)) :
    (Statement.leaf p attr be flag origin).exec rt fresh env m = some (store place valueApplied m
      (QueryCommon.handleLeaf rt p element.2 ⟨place.get m, valueApplied.get m⟩)) := by
  simp only [Statement.exec, env.attrOf?_eq _ (.prim p) place attrKnown,
    env.element?_eq _ element elementKnown, env.flag?_eq _ valueApplied flagKnown]
  rfl

end Rules

end DecoderText

end StreamsMongo
