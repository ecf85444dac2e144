import StreamsMongo.Library.Scopes
import StreamsMongo.Shared.SplData

set_option autoImplicit false

namespace StreamsMongo.DecoderText

open Scopes

-- The names in the text for an output attribute; the source's `findPath` has names of `S` alone.
inductive Name (S : Type) where
  | attr (seq : Nat)
  | be (seq : Nat)
  | bo (seq : Nat)
  | it (seq : Nat)
  | cppExpr (seq : Nat)
  | valueApplied
  | b (seq : Nat)
  | beOf (attrName : FieldName)
  | queryResultBO
  | otuple
  | length
  | blobData
  | value
  | tsInMillis
  | given (name : S)
  deriving DecidableEq

variable {S O : Type}

abbrev Use (S O : Type) := Name S × O

abbrev Text (S O : Type) := List (Token (Name S) O)

inductive Test (S O : Type) where
  | hasElement (bo : Use S O) (name : FieldName)
  | typeIs (be : Use S O) (type : BSONType)
  | isSimpleType (be : Use S O)
  | applied (valueApplied : Use S O)
  | notEmpty (attr : Use S O)

inductive Initializer (S O : Type) where
  | typeOf (attr : Use S O)
  | typeOfAttribute (attr : Use S O) (i : Nat)
  -- `cppExpr & name = attr.get_<attrName>()`
  | attribute (cppExpr attr : Use S O) (i : Nat)
  | embeddedObject (be : Use S O)
  | getField (bo : Use S O) (field : FieldName)
  | valueType (cppExpr : Use S O)
  | mappedType (cppExpr : Use S O)
  | next (it : Use S O)
  | notApplied

mutual

inductive Statement (S O : Type) where
  | ifThen (test : Test S O) (body : Body S O)
  | block (body : Body S O)
  | each (it be : Use S O) (body : Body S O)
  -- The leaf handler of a primitive type, whose own variables have the origin given last.
  | leaf (p : PrimType) (attr be valueApplied : Use S O) (origin : O)
  | add (attr : Use S O) (key : Option (Use S O)) (inner : Use S O)
  | apply (valueApplied : Use S O)

inductive Body (S O : Type) where
  | done
  | statement (first : Statement S O) (rest : Body S O)
  | declare (name : Use S O) (initializer : Initializer S O) (rest : Body S O)

end

section Leaves

variable (attr be valueApplied : Use S O) (origin : O)

def assignText : Text S O := mention [be] ++ block (mention [attr, be, valueApplied])

def handleBlob : Text S O :=
  mention [be] ++ block ([.declare .length origin, .declare .blobData origin] ++
    mention [be, (.length, origin), attr, (.blobData, origin), (.length, origin), valueApplied])

def handleEnum : Text S O :=
  mention [be, attr, be] ++ block (block (mention [attr, be, valueApplied]) ++ block [])

def handleDecimal : Text S O :=
  mention [be] ++ block ([.declare .value origin] ++
    mention [be, attr, (.value, origin), valueApplied])

def handleInt : Text S O :=
  assignText attr be valueApplied ++ (assignText attr be valueApplied ++
    assignText attr be valueApplied)

def handleTimestamp : Text S O :=
  mention [be] ++ block ([.declare .tsInMillis origin] ++
      mention [be, attr, (.tsInMillis, origin), (.tsInMillis, origin), valueApplied]) ++
    (mention [be] ++ block (mention [attr, be, be, valueApplied]))

def leafText : PrimType → Text S O
  -- `errorln`
  | .complex32 | .complex64 => []
  | .blob => handleBlob attr be valueApplied origin
  | .boolean | .float32 | .float64 | .rstring | .ustring | .xml => assignText attr be valueApplied
  | .enum _ _ => handleEnum attr be valueApplied
  | .decimal _ => handleDecimal attr be valueApplied origin
  | .int _ => handleInt attr be valueApplied
  | .timestamp => handleTimestamp attr be valueApplied origin

end Leaves

def Test.uses : Test S O → List (Use S O)
  | .hasElement bo _ => [bo]
  | .typeIs be _ => [be]
  | .isSimpleType be => [be]
  | .applied valueApplied => [valueApplied]
  | .notEmpty attr => [attr]

def Initializer.uses : Initializer S O → List (Use S O) × List (Use S O)
  | .typeOf attr | .typeOfAttribute attr _ => ([attr], [])
  | .attribute cppExpr attr _ => ([cppExpr], [attr])
  | .embeddedObject be => ([], [be])
  | .getField bo _ => ([], [bo])
  | .valueType cppExpr | .mappedType cppExpr => ([cppExpr], [])
  | .next it => ([], [it])
  | .notApplied => ([], [])

mutual

def Statement.text : Statement S O → Text S O
  | .ifThen test body => mention test.uses ++ Scopes.block body.text
  | .block body => Scopes.block body.text
  | .each it be body =>
      Scopes.block ([.declare it.1 it.2] ++ (mention [be, it] ++ body.text))
  | .leaf p attr be valueApplied origin => leafText attr be valueApplied origin p
  | .add attr key inner => mention (attr :: (key.toList ++ [inner]))
  | .apply valueApplied => mention [valueApplied]

def Body.text : Body S O → Text S O
  | .done => []
  | .statement first rest => first.text ++ rest.text
  | .declare name initializer rest =>
      mention initializer.uses.1 ++ ([.declare name.1 name.2] ++
        (mention initializer.uses.2 ++ rest.text))

end

section Handlers

-- `node` gives the origin of what is declared for the part of the type at a path; `flag` is the
-- origin of the `valueApplied` that the part has to set.
variable (node : List Nat → O)

def handlePrimitive (p : PrimType) (seq : Nat) (path : List Nat) (flag : O) : Statement S O :=
  .ifThen (.isSimpleType (.be seq, node path)) <|
    .declare (.cppExpr seq, node path) (.typeOf (.attr seq, node path)) <|
    .statement (.leaf p (.attr seq, node path) (.be seq, node path) (.valueApplied, flag)
      (node path)) <|
    .done

def handleElement (member : Use S O → Initializer S O) (key : Option (Use S O))
    (inner : Statement S O) (seq : Nat) (path element : List Nat) : Body S O :=
  .declare (.attr (seq + 1), node element) (member (.cppExpr seq, node path)) <|
  .declare (.be (seq + 1), node element) (.next (.it seq, node path)) <|
  .declare (.valueApplied, node element) .notApplied <|
  .statement inner <|
  .statement (.ifThen (.applied (.valueApplied, node element)) <|
    .statement (.add (.attr seq, node path) key (.attr (seq + 1), node element)) .done) <|
  .done

def handleElements (type : BSONType) (member : Use S O → Initializer S O)
    (key : Option (Use S O)) (inner : Statement S O) (seq : Nat) (path element : List Nat)
    (flag : O) : Statement S O :=
  .ifThen (.typeIs (.be seq, node path) type) <|
    .declare (.cppExpr seq, node path) (.typeOf (.attr seq, node path)) <|
    .statement (.each (.it seq, node path) (.be seq, node path)
      (handleElement node member key inner seq path element)) <|
    .statement (.ifThen (.notEmpty (.attr seq, node path)) <|
      .statement (.apply (.valueApplied, flag)) .done) <|
    .done

def handleBSONArray (inner : Statement S O) (seq : Nat) (path element : List Nat) (flag : O) :
    Statement S O :=
  handleElements node .array .valueType none inner seq path element flag

def handleBSONObjectAsMap (inner : Statement S O) (seq : Nat) (path element : List Nat)
    (flag : O) : Statement S O :=
  handleElements node .object .mappedType (some (.be (seq + 1), node element)) inner seq path
    element flag

def withElement (attrName : Option FieldName) (seq : Nat) (path : List Nat)
    (handled : Statement S O) : Statement S O :=
  match attrName with
  | some attrName =>
      .ifThen (.hasElement (.bo seq, node path) attrName) <|
        .declare (.be seq, node path) (.getField (.bo seq, node path) attrName) <|
        .statement handled <|
        .done
  | none => handled

mutual

def handleBSONObject : SplType → Option FieldName → Nat → List Nat → O → Statement S O
  | .prim p, attrName, seq, path, flag =>
      withElement node attrName seq path (handlePrimitive node p seq path flag)
  | .list t, attrName, seq, path, flag | .set t, attrName, seq, path, flag =>
      let element := path ++ [0]
      withElement node attrName seq path
        (handleBSONArray node (handleBSONObject t none (seq + 1) element (node element)) seq path
          element flag)
  | .map t, attrName, seq, path, flag =>
      let element := path ++ [0]
      withElement node attrName seq path
        (handleBSONObjectAsMap node (handleBSONObject t none (seq + 1) element (node element)) seq
          path element flag)
  | .tuple attrs, attrName, seq, path, flag =>
      withElement node attrName seq path
        (.ifThen (.typeIs (.be seq, node path) .object)
          (handleBSONObjectAsTuple attrs seq path flag 0))

def handleBSONObjectAsTuple : Attributes → Nat → List Nat → O → Nat → Body S O
  | .nil, _, _, flag, _ => .statement (.apply (.valueApplied, flag)) .done
  | .cons name t rest, seq, path, flag, i =>
      let part := path ++ [i]
      .statement (.block <|
        .declare (.cppExpr seq, node part) (.typeOfAttribute (.attr seq, node path) i) <|
        .declare (.attr (seq + 1), node part)
          (.attribute (.cppExpr seq, node part) (.attr seq, node path) i) <|
        .declare (.bo (seq + 1), node part) (.embeddedObject (.be seq, node path)) <|
        .statement (handleBSONObject t (some name) (seq + 1) part flag) <|
        .done) <|
      handleBSONObjectAsTuple rest seq path flag (i + 1)

end

theorem handleBSONObject_named (t : SplType) (attrName : FieldName) (seq : Nat) (path : List Nat)
    (flag : O) : (handleBSONObject node t (some attrName) seq path flag : Statement S O) =
      withElement node (some attrName) seq path (handleBSONObject node t none seq path flag) := by
  cases t <;> rfl

end Handlers

section Attribute

variable (node : List Nat → O) (query : O) (attrName : FieldName) (attrNameNotInBO : Bool)
  (findPath : Option (List (Use S O)))

def findText : Text S O :=
  match findPath with
  | some path =>
      [.declare (.beOf attrName) (node [])] ++ (mention ((.queryResultBO, query) :: path) ++
        (mention [(.beOf attrName, node [])] ++ ([.declare .queryResultBO (node [])] ++
          mention [(.beOf attrName, node []), (.beOf attrName, node [])])))
  | none => []

def objectText : Text S O :=
  match attrNameNotInBO, findPath with
  | true, some _ => [.declare (.bo 0) (node [])] ++ mention [(.beOf attrName, node [])]
  | true, none =>
      [.declare (.b 0) (node [])] ++ (mention [(.b 0, node []), (.queryResultBO, query)] ++
        ([.declare (.bo 0) (node [])] ++ mention [(.b 0, node [])]))
  | false, some _ => [.declare (.bo 0) (node [])] ++ mention [(.queryResultBO, node [])]
  | false, none => [.declare (.bo 0) (node [])] ++ mention [(.queryResultBO, query)]

-- Opens the block of `for(;;)`, which `endBSONObject` closes.
def initBSONObject : Text S O :=
  [.openBlock] ++ ([.declare (.attr 0) (node [])] ++ (mention [(.otuple, query)] ++
    ([.declare .valueApplied (node [])] ++ (findText node query attrName findPath ++
      objectText node query attrName attrNameNotInBO findPath))))

def endBSONObject : Text S O := [.closeBlock]

def attributeText (t : SplType) : Text S O :=
  initBSONObject node query attrName attrNameNotInBO findPath ++
    ((handleBSONObject node t (some attrName) 0 [] (node [])).text ++ endBSONObject)

end Attribute

end StreamsMongo.DecoderText
