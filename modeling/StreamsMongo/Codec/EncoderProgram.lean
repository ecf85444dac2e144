import StreamsMongo.Codec.BSONCommon
import StreamsMongo.Codec.EncoderText

set_option autoImplicit false

namespace StreamsMongo.EncoderText

open Scopes

abbrev Use (S O : Type) := Name S × O

-- The SPL expressions in the text, from the source's own down to a part of its value.
inductive Expr (S O : Type) where
  | source (uses : Uses S O)
  | element (value : Use S O)
  | second (value : Use S O)
  | attribute (tupleData : Use S O) (i : Nat)

inductive Argument (S O : Type) where
  | primitive (p : PrimType) (expr : Expr S O)
  | arr (b : Use S O)
  | obj (b : Use S O)
  | fromjson (expr : Expr S O)

inductive Field (S O : Type) where
  | literal (attrName : FieldName)
  -- `value.first`
  | first (value : Use S O)
  | key (uses : Uses S O)

inductive Initializer (S O : Type) where
  | arrayBuilder
  | objBuilder
  | typeOf (expr : Expr S O)
  | constant (cppExpr : Use S O) (expr : Expr S O)
  | reference (value : Argument S O)

mutual

inductive Statement (S O : Type) where
  | block (body : Body S O)
  -- `foreach (const cppExpr::value_type & value, values)`
  | each (cppExpr values value : Use S O) (body : Body S O)
  | appendElement (b : Use S O) (value : Argument S O)
  | appendField (b : Use S O) (function : AppendFunction) (field : Field S O)
      (value : Argument S O)

inductive Body (S O : Type) where
  | done
  | statement (first : Statement S O) (rest : Body S O)
  | declare (name : Use S O) (initializer : Initializer S O) (rest : Body S O)

end

variable {S O : Type}

def Expr.uses : Expr S O → Uses S O
  | .source uses => uses
  | .element value => [value]
  | .second value => [value]
  | .attribute tupleData _ => [tupleData]

def Argument.uses : Argument S O → Uses S O
  | .primitive p expr => EncoderText.handlePrimitive expr.uses p
  | .arr b => [b]
  | .obj b => [b]
  | .fromjson expr => expr.uses

def Field.uses : Field S O → Uses S O
  | .literal _ => []
  | .first value => [value]
  | .key uses => uses

def Initializer.uses : Initializer S O → Uses S O × Uses S O
  | .arrayBuilder | .objBuilder => ([], [])
  | .typeOf expr => (expr.uses, [])
  | .constant cppExpr expr => ([cppExpr], expr.uses)
  | .reference value => ([], value.uses)

section Uses

variable (b cppExpr : Use S O) (expr : Expr S O) (value : Argument S O)

@[simp] theorem Argument.uses_obj : (Argument.obj b).uses = [b] := rfl

@[simp] theorem Initializer.uses_objBuilder :
    (.objBuilder : Initializer S O).uses = ([], []) := rfl

@[simp] theorem Initializer.uses_typeOf : (Initializer.typeOf expr).uses = (expr.uses, []) := rfl

@[simp] theorem Initializer.uses_constant :
    (Initializer.constant cppExpr expr).uses = ([cppExpr], expr.uses) := rfl

@[simp] theorem Initializer.uses_reference :
    (Initializer.reference value).uses = ([], value.uses) := rfl

end Uses

mutual

def Statement.text : Statement S O → Text S O
  | .block body => Scopes.block body.text
  | .each cppExpr values value body =>
      mention [cppExpr, values] ++ Scopes.block ([.declare value.1 value.2] ++ body.text)
  | .appendElement b value => mention ([b] ++ value.uses)
  | .appendField b _ field value => mention ([b] ++ field.uses ++ value.uses)

def Body.text : Body S O → Text S O
  | .done => []
  | .statement first rest => first.text ++ rest.text
  | .declare name initializer rest =>
      mention initializer.uses.1 ++ ([.declare name.1 name.2] ++
        (mention initializer.uses.2 ++ rest.text))

end

section Builders

/-- What a generator prints, in front of the rest of the block, and the pair it hands back. -/
structure Fragment (S O : Type) where
  before : Body S O → Body S O
  appendFunction : AppendFunction
  value : Argument S O

def headerProgram (origin : O) (builder : Initializer S O) (cppExpr : Expr S O) (seq : Nat)
    (constant : Name S) (rest : Body S O) : Body S O :=
  .declare (.b seq, origin) builder <|
  .declare (.cppExpr seq, origin) (.typeOf cppExpr) <|
  .declare (constant, origin) (.constant (.cppExpr seq, origin) cppExpr) <|
  rest

def loopProgram (origin : O) (builder : Initializer S O) (cppExpr : Expr S O) (seq : Nat)
    (append : Argument S O → Statement S O) (inner : Fragment S O) (rest : Body S O) : Body S O :=
  headerProgram origin builder cppExpr seq (.values seq) <|
  .statement (.each (.cppExpr seq, origin) (.values seq, origin) (.value seq, origin)
    (inner.before (.statement (append inner.value) .done))) <|
  rest

variable (node : List Nat → O)

mutual

def program : SplType → Expr S O → Nat → List Nat → Fragment S O
  | .prim p, cppExpr, _, _ => ⟨id, .append, .primitive p cppExpr⟩
  | .list t, cppExpr, seq, path | .set t, cppExpr, seq, path =>
      let b := (.b seq, node path)
      let inner := program t (.element (.value seq, node path)) (seq + 1) (path ++ [0])
      ⟨loopProgram (node path) .arrayBuilder cppExpr seq (.appendElement b) inner, .appendArray,
        .arr b⟩
  | .map t, cppExpr, seq, path =>
      let b := (.b seq, node path)
      let inner := program t (.second (.value seq, node path)) (seq + 1) (path ++ [0])
      ⟨loopProgram (node path) .objBuilder cppExpr seq
        (.appendField b inner.appendFunction (.first (.value seq, node path))) inner, .append,
        .obj b⟩
  | .tuple attrs, cppExpr, seq, path =>
      ⟨fun rest => headerProgram (node path) .objBuilder cppExpr seq (.tupleData seq)
        (tupleProgram attrs seq path 0 rest), .append, .obj (.b seq, node path)⟩

def tupleProgram : Attributes → Nat → List Nat → Nat → Body S O → Body S O
  | .nil, _, _, _, rest => rest
  | .cons name t attrs, seq, path, i, rest =>
      let inner := program t (.attribute (.tupleData seq, node path) i) (seq + 1) (path ++ [i])
      .statement (.block (inner.before (.statement
        (.appendField (.b seq, node path) inner.appendFunction (.literal name) inner.value)
        .done))) <|
      tupleProgram attrs seq path (i + 1) rest

end

def dataProgram (splType : Option SplType) (cppExpr : Expr S O) (seq : Nat) : Fragment S O :=
  match splType with
  | some t => program node t cppExpr seq []
  | none => ⟨id, .append, .fromjson cppExpr⟩

def keyProgram (attrName : Option (Uses S O)) (splType : Option SplType) (cppExpr : Expr S O) :
    Body S O :=
  match attrName with
  | some attrName =>
      let inner := dataProgram node splType cppExpr 1
      .declare (.b 0, node []) .objBuilder <|
      inner.before <|
      .statement (.appendField (.b 0, node []) inner.appendFunction (.key attrName) inner.value) <|
      .declare (.bsonObj, node []) (.reference (.obj (.b 0, node []))) <|
      .done
  | none =>
      let inner := dataProgram node splType cppExpr 0
      inner.before <|
      .declare (.bsonObj, node []) (.reference inner.value) <|
      .done

end Builders

section Printing

theorem headerProgram_text (origin : O) (builder : Initializer S O)
    (plain : builder.uses = ([], []))
    (cppExpr : Expr S O) (seq : Nat) (constant : Name S) (rest : Body S O) :
    (headerProgram origin builder cppExpr seq constant rest).text =
      header origin cppExpr.uses seq constant ++ rest.text := by
  simp [headerProgram, Body.text, plain, header, mention]

def Fragment.Prints (fragment : Fragment S O) (made : Text S O × Uses S O) : Prop :=
  (∀ rest : Body S O, (fragment.before rest).text = made.1 ++ rest.text) ∧
    fragment.value.uses = made.2

theorem loopProgram_text (origin : O) (builder : Initializer S O) (plain : builder.uses = ([], []))
    (cppExpr : Expr S O) (seq : Nat) (append : Argument S O → Statement S O)
    (inner : Fragment S O) (made : Text S O × Uses S O) (receiver : Uses S O)
    (appends : ∀ value, (append value).text = mention (receiver ++ value.uses))
    (prints : inner.Prints made) (rest : Body S O) :
    (loopProgram origin builder cppExpr seq append inner rest).text =
      header origin cppExpr.uses seq (.values seq) ++
        foreach origin seq (made.1 ++ mention (receiver ++ made.2)) ++ rest.text := by
  rw [loopProgram, headerProgram_text origin builder plain, List.append_assoc]
  simp only [Body.text, Statement.text, prints.1, prints.2, appends, foreach, List.append_nil]

variable (node : List Nat → O)

mutual

theorem program_prints : (t : SplType) → (cppExpr : Expr S O) → (seq : Nat) → (path : List Nat) →
    (program node t cppExpr seq path).Prints (buildBSONObject node t cppExpr.uses seq path)
  | .prim p, cppExpr, seq, path => ⟨fun _ => rfl, rfl⟩
  | .list t, cppExpr, seq, path => by
      have inner := program_prints t (.element (.value seq, node path)) (seq + 1) (path ++ [0])
      exact ⟨fun rest => loopProgram_text _ _ rfl cppExpr seq _ _ _ [(.b seq, node path)]
        (fun _ => rfl) inner rest, rfl⟩
  | .set t, cppExpr, seq, path => by
      have inner := program_prints t (.element (.value seq, node path)) (seq + 1) (path ++ [0])
      exact ⟨fun rest => loopProgram_text _ _ rfl cppExpr seq _ _ _ [(.b seq, node path)]
        (fun _ => rfl) inner rest, rfl⟩
  | .map t, cppExpr, seq, path => by
      have inner := program_prints t (.second (.value seq, node path)) (seq + 1) (path ++ [0])
      exact ⟨fun rest => loopProgram_text _ _ rfl cppExpr seq _ _ _
        [(.b seq, node path), (.value seq, node path)] (fun _ => rfl) inner rest, rfl⟩
  | .tuple attrs, cppExpr, seq, path => by
      refine ⟨fun rest => ?_, rfl⟩
      have attributes := tupleProgram_text attrs seq path 0 rest
      simp only [program, buildBSONObject]
      rw [headerProgram_text _ _ rfl, attributes, List.append_assoc]

theorem tupleProgram_text : (attrs : Attributes) → (seq : Nat) → (path : List Nat) → (i : Nat) →
    (rest : Body S O) → (tupleProgram node attrs seq path i rest).text =
      buildBSONObjectFromTuple node attrs seq path i ++ rest.text
  | .nil, _, _, _, _ => rfl
  | .cons name t attrs, seq, path, i, rest => by
      have inner := program_prints t (.attribute (.tupleData seq, node path) i) (seq + 1)
        (path ++ [i])
      have later := tupleProgram_text attrs seq path (i + 1) rest
      simp only [tupleProgram, buildBSONObjectFromTuple, Body.text, Statement.text, inner.1,
        inner.2, later, Field.uses, List.append_nil, List.append_assoc]
      rfl

end

theorem dataProgram_prints (splType : Option SplType) (cppExpr : Expr S O) (seq : Nat) :
    (dataProgram node splType cppExpr seq).Prints
      (buildData node splType cppExpr.uses seq) := by
  cases splType with
  | some t => exact program_prints node t cppExpr seq []
  | none => exact ⟨fun _ => rfl, rfl⟩

theorem keyProgram_text (attrName : Option (Uses S O)) (splType : Option SplType)
    (cppExpr : Expr S O) :
    (keyProgram node attrName splType cppExpr).text =
      buildBSONObjectWithKey node attrName splType cppExpr.uses := by
  cases attrName with
  | some attrName =>
    have inner := dataProgram_prints node splType cppExpr 1
    simp [keyProgram, buildBSONObjectWithKey, Body.text, Statement.text, inner.1, inner.2,
      Field.uses, mention]
  | none =>
    have inner := dataProgram_prints node splType cppExpr 0
    simp [keyProgram, buildBSONObjectWithKey, Body.text, inner.1, inner.2, mention]

end Printing

end StreamsMongo.EncoderText
