import StreamsMongo.Codec.DecoderRefinement
import StreamsMongo.Codec.DecoderScopes
import StreamsMongo.Operators.Query

set_option autoImplicit false

namespace StreamsMongo.DecoderText

open Lenses Scopes

variable {S O In M : Type}

structure Argument (S O In : Type) where
  uses : List (Use S O)
  eval : In → String

/-- A block that is left early leaves the loop with it, so the loop has one round at most. -/
inductive Once (S O In : Type) where
  | attribute (name otuple : Use S O) (t : SplType) (i : Nat) (rest : Once S O In)
  | notApplied (name : Use S O) (rest : Once S O In)
  -- `const BSONElement & name = bo.getFieldDotted($findPath); if (name.eoo()) break`
  | getFieldDotted (name bo : Use S O) (attrName : FieldName) (findPath : Argument S O In)
      (rest : Once S O In)
  | objectOf (name be : Use S O) (rest : Once S O In)
  | wrap (name be : Use S O) (attrName : FieldName) (rest : Once S O In)
  | append (name bo : Use S O) (attrName : FieldName) (rest : Once S O In)
  | same (name bo : Use S O) (rest : Once S O In)
  | handled (statement : Statement S O)

inductive Reading (S O In : Type) where
  | once (body : Once S O In)
  | jsonString (otuple bo : Use S O) (i : Nat)

def Once.text : Once S O In → Text S O
  | .attribute name otuple _ _ rest =>
      [.declare name.1 name.2] ++ (mention [otuple] ++ rest.text)
  | .notApplied name rest => [.declare name.1 name.2] ++ rest.text
  | .getFieldDotted name bo _ findPath rest =>
      [.declare name.1 name.2] ++ (mention (bo :: findPath.uses) ++ (mention [name] ++ rest.text))
  | .objectOf name be rest => [.declare name.1 name.2] ++ (mention [be, be] ++ rest.text)
  | .wrap name be _ rest => [.declare name.1 name.2] ++ (mention [be] ++ rest.text)
  | .append name bo _ rest => [.declare name.1 name.2] ++ (mention [name, bo] ++ rest.text)
  | .same name bo rest => [.declare name.1 name.2] ++ (mention [bo] ++ rest.text)
  | .handled statement => statement.text

def Reading.text : Reading S O In → Text S O
  | .once body => Scopes.block body.text
  | .jsonString otuple bo _ => mention [otuple, bo]

section Programs

variable (node : List Nat → O) (query : O) (attrName : FieldName)

def findProgram (findPath : Option (Argument S O In)) (rest : Once S O In) : Once S O In :=
  match findPath with
  | some findPath =>
      .getFieldDotted (.beOf attrName, node []) (.queryResultBO, query) attrName findPath <|
      .objectOf (.queryResultBO, node []) (.beOf attrName, node []) <|
      rest
  | none => rest

def objectProgram (attrNameNotInBO found : Bool) (rest : Once S O In) : Once S O In :=
  match attrNameNotInBO, found with
  | true, true => .wrap (.bo 0, node []) (.beOf attrName, node []) attrName rest
  | true, false =>
      .append (.b 0, node []) (.queryResultBO, query) attrName <|
      .same (.bo 0, node []) (.b 0, node []) <|
      rest
  | false, true => .same (.bo 0, node []) (.queryResultBO, node []) rest
  | false, false => .same (.bo 0, node []) (.queryResultBO, query) rest

def attributeProgram (attrNameNotInBO : Bool) (findPath : Option (Argument S O In)) (t : SplType)
    (i : Nat) : Reading S O In :=
  .once <|
    .attribute (.attr 0, node []) (.otuple, query) t i <|
    .notApplied (.valueApplied, node []) <|
    findProgram node query attrName findPath <|
    objectProgram node query attrName attrNameNotInBO findPath.isSome <|
    .handled (handleBSONObject node t (some attrName) 0 [] (node []))

theorem attributeProgram_text (attrNameNotInBO : Bool) (findPath : Option (Argument S O In))
    (t : SplType) (i : Nat) :
    (attributeProgram node query attrName attrNameNotInBO findPath t i).text =
      attributeText node query attrName attrNameNotInBO (findPath.map Argument.uses) t := by
  cases findPath <;> cases attrNameNotInBO <;>
    simp [attributeProgram, findProgram, objectProgram, Reading.text, Once.text, attributeText,
      initBSONObject, endBSONObject, findText, objectText, Scopes.block, mention]

end Programs

section Execution

variable [DecidableEq S] (rt : SplRuntime) (lib : DriverLibrary) (fresh : (p : PrimType) → p.Value)
  (tuple : In)

/-- What `getFieldDotted` finds is only asked for its value, so it is given the attribute's name. -/
def Once.exec : Once S O In → {M : Type} → Env S M → M → Option M
  | .attribute name otuple t i rest, _, env, m => do
      let ⟨c, place⟩ ← env.attr? otuple.1
      let ⟨u, part⟩ ← c.attribute? i
      if u = t then rest.exec (env.declare name.1 (.variable u (place.comp part))) m else none
  | .notApplied name rest, _, env, m => do
      let inner ← rest.exec ((env.within Lens.first).declare name.1 (.flag Lens.second)) (m, false)
      return inner.1
  | .getFieldDotted name bo attrName findPath rest, _, env, m => do
      match lib.getFieldDotted (← env.object? bo.1) (findPath.eval tuple) with
      | some be => rest.exec (env.declare name.1 (.element (attrName, be))) m
      | none => some m
  | .objectOf name be rest, _, env, m => do
      let be ← env.element? be.1
      let bo := if be.2.type = .object then be.2.embeddedObject else []
      rest.exec (env.declare name.1 (.object bo)) m
  | .wrap name be attrName rest, _, env, m => do
      rest.exec (env.declare name.1 (.object [(attrName, (← env.element? be.1).2)])) m
  | .append name bo attrName rest, _, env, m => do
      rest.exec (env.declare name.1 (.object [(attrName, .object (← env.object? bo.1))])) m
  | .same name bo rest, _, env, m => do
      rest.exec (env.declare name.1 (.object (← env.object? bo.1))) m
  | .handled statement, _, env, m => statement.exec rt fresh env m

def setString (text : String) (m : M) : (t : SplType) → Lens M t.Value → Option M
  | .prim .rstring, place => some (place.put m text)
  | .prim .ustring, place => some (place.put m (rt.ustringOfString text))
  | _, _ => none

def Reading.exec : Reading S O In → {M : Type} → Env S M → M → Option M
  | .once body, _, env, m => body.exec rt lib fresh tuple env m
  | .jsonString otuple bo i, _, env, m => do
      let ⟨c, place⟩ ← env.attr? otuple.1
      let ⟨u, part⟩ ← c.attribute? i
      setString rt (lib.jsonString (← env.object? bo.1)) m u (place.comp part)

end Execution

section Attribute

variable [DecidableEq S] (rt : SplRuntime) (lib : DriverLibrary) (fresh : (p : PrimType) → p.Value)
  (tuple : In) (node : List Nat → O) (query : O) (attrName : FieldName) (attrNameNotInBO : Bool)
  (findPath : Option (Argument S O In)) (t : SplType) (queryResultBO : BSONObj)
  {env : Env S M} {attr : Lens M t.Value} {valueApplied : Lens M Bool} {m : M}

variable {t} in
theorem InScope.declare (scope : InScope env 0 t attr valueApplied) (name : Name S)
    (binding : Binding M) (otherAttr : name ≠ .attr 0) (otherFlag : name ≠ .valueApplied) :
    InScope (env.declare name binding) 0 t attr valueApplied where
  attrKnown := by simpa [otherAttr.symm] using scope.attrKnown
  flagKnown := by simpa [otherFlag.symm] using scope.flagKnown
  apart := scope.apart

attribute [local simp] Once.exec

theorem opened_exec (result : env .queryResultBO = some (.object queryResultBO))
    (scope : InScope env 0 t attr valueApplied) (notApplied : valueApplied.get m = false) :
    (findProgram node query attrName findPath <|
      objectProgram node query attrName attrNameNotInBO findPath.isSome <|
      .handled (handleBSONObject node t (some attrName) 0 [] (node []))).exec rt lib fresh tuple env
        m = some (store attr valueApplied m (QueryCommon.readAttribute rt lib attrName
          attrNameNotInBO (findPath.map (Argument.eval · tuple)) t queryResultBO (attr.get m))) := by
  have handled := fun (env : Env S M) (scope : InScope env 0 t attr valueApplied) bo0 found
      object =>
    exec_readAttribute rt fresh node t 0 [] (node []) env m attr valueApplied scope lib attrName
      attrNameNotInBO (findPath.map (Argument.eval · tuple)) queryResultBO bo0 found object
      notApplied
  cases findPath with
  | none =>
    cases attrNameNotInBO with
    | false =>
      have runs := handled (env.declare (.bo 0) (.object queryResultBO))
        (scope.declare _ _ (by simp) (by simp)) queryResultBO rfl (by simp)
      simpa [findProgram, objectProgram, env.object?_eq _ _ result] using runs
    | true =>
      let wrapped : BSONObj := [(attrName, .object queryResultBO)]
      have builder : (env.declare (.b 0) (.object wrapped)).object? (.b 0) = some wrapped :=
        Env.object?_eq _ _ _ (by simp)
      have runs := handled
        ((env.declare (.b 0) (.object wrapped)).declare (.bo 0) (.object wrapped))
        ((scope.declare _ _ (by simp) (by simp)).declare _ _ (by simp) (by simp)) wrapped rfl
        (by simp)
      simpa [findProgram, objectProgram, env.object?_eq _ _ result, builder, wrapped] using runs
  | some findPath =>
    cases sought : lib.getFieldDotted queryResultBO (findPath.eval tuple) with
    | none =>
      have left : QueryCommon.readAttribute rt lib attrName attrNameNotInBO
          (some (findPath.eval tuple)) t queryResultBO (attr.get m) = ⟨attr.get m, false⟩ := by
        simp [QueryCommon.readAttribute, QueryCommon.initBSONObject, sought]
      have kept := store_unchanged attr valueApplied m
      rw [notApplied] at kept
      simp [findProgram, env.object?_eq _ _ result, sought, left, kept]
    | some be =>
      let inner : BSONObj := if be.type = .object then be.embeddedObject else []
      let atPath := env.declare (.beOf attrName) (.element (attrName, be))
      let shadowed := atPath.declare .queryResultBO (.object inner)
      have inScope : InScope shadowed 0 t attr valueApplied :=
        (scope.declare _ _ (by simp) (by simp)).declare _ _ (by simp) (by simp)
      have path : atPath.element? (.beOf attrName) = some (attrName, be) :=
        Env.element?_eq _ _ _ (by simp [atPath])
      have element : shadowed.element? (.beOf attrName) = some (attrName, be) :=
        Env.element?_eq _ _ _ (by simp [shadowed, atPath])
      have object : shadowed.object? .queryResultBO = some inner :=
        Env.object?_eq _ _ _ (by simp [shadowed])
      cases attrNameNotInBO with
      | false =>
        have runs := handled (shadowed.declare (.bo 0) (.object inner))
          (inScope.declare _ _ (by simp) (by simp)) inner
          (by simp [QueryCommon.initBSONObject, sought, inner]) (by simp)
        simpa [findProgram, objectProgram, env.object?_eq _ _ result, sought, path, object, atPath,
          shadowed, inner] using runs
      | true =>
        have runs := handled (shadowed.declare (.bo 0) (.object [(attrName, be)]))
          (inScope.declare _ _ (by simp) (by simp)) [(attrName, be)]
          (by simp [QueryCommon.initBSONObject, sought]) (by simp)
        simpa [findProgram, objectProgram, env.object?_eq _ _ result, sought, path, element, atPath,
          shadowed, inner] using runs

theorem attributeProgram_exec (all : Attributes) (otuple : Lens M all.Value) (i : Nat)
    (part : Lens all.Value t.Value) (accessor : all.attribute? i = some ⟨t, part⟩)
    (tupleKnown : env .otuple = some (.variable (.tuple all) otuple))
    (result : env .queryResultBO = some (.object queryResultBO)) :
    (attributeProgram node query attrName attrNameNotInBO findPath t i).exec rt lib fresh tuple env
      m = some ((otuple.comp part).put m (QueryCommon.readAttribute rt lib attrName attrNameNotInBO
        (findPath.map (Argument.eval · tuple)) t queryResultBO
        ((otuple.comp part).get m)).attr) := by
  let reference := env.declare (.attr 0) (.variable t (otuple.comp part))
  let start := (reference.within (N := M × Bool) Lens.first).declare .valueApplied
    (.flag Lens.second)
  have scope : InScope start 0 t (Lens.first.comp (otuple.comp part)) Lens.second :=
    ⟨by simp [start, reference, Binding.within], by simp [start],
      Lens.first_apart_second.comp (otuple.comp part)⟩
  have runs := opened_exec rt lib fresh tuple node query attrName attrNameNotInBO findPath t
    queryResultBO (m := (m, false)) (by simp [start, reference, result, Binding.within]) scope rfl
  have known := env.attr?_eq _ (.tuple all) otuple tupleKnown
  have found : (SplType.tuple all).attribute? i = some ⟨t, part⟩ := accessor
  simp only [attributeProgram, Reading.exec, Once.exec, known, found, Option.bind_eq_bind,
    Option.bind_some, if_true]
  exact (congrArg (· >>= fun inner => some inner.1) runs).trans rfl

end Attribute

end StreamsMongo.DecoderText

namespace StreamsMongo.Query

open DecoderText Lenses Scopes

variable {S O In M : Type}

section Text

variable (node : Nat → List Nat → O) (query : O) (uses : Nat → List (Use S O))

def OutputFunction.reading (attrName : FieldName) (i : Nat) :
    {t : SplType} → OutputFunction In t → Reading S O In
  | t, .queryDocumentField findPath =>
      attributeProgram (node i) query attrName false (findPath.map (Argument.mk (uses i))) t i
  | t, .queryDocumentMultipleFields findPath =>
      attributeProgram (node i) query attrName true (findPath.map (Argument.mk (uses i))) t i
  | _, .queryDocumentFieldAsJson | _, .queryDocumentFieldAsJsonUString =>
      .jsonString (.otuple, query) (.queryResultBO, query) i

def documentProgram : {attrs : Attributes} → Schema In attrs → Nat → List (Reading S O In)
  | _, .nil, _ => []
  | _, .cons (.asIs _) schema, i => documentProgram schema (i + 1)
  | .cons name _ _, .cons (.outputFunction function) schema, i =>
      function.reading node query uses name i :: documentProgram schema (i + 1)

end Text

section Refinement

variable [DecidableEq S] (rt : SplRuntime) (lib : DriverLibrary) (fresh : (p : PrimType) → p.Value)
  (tuple : In) (node : Nat → List Nat → O) (query : O) (uses : Nat → List (Use S O))
  (queryResultBO : BSONObj) {env : Env S M} {all : Attributes} {otuple : Lens M all.Value}
  (tupleKnown : env .otuple = some (.variable (.tuple all) otuple))
  (result : env .queryResultBO = some (.object queryResultBO))

include tupleKnown result

theorem reading_exec (attrName : FieldName) (i : Nat) {t : SplType}
    (function : OutputFunction In t) (part : Lens all.Value t.Value)
    (accessor : all.attribute? i = some ⟨t, part⟩) (m : M) :
    (function.reading node query uses attrName i).exec rt lib fresh tuple env m =
      some ((otuple.comp part).put m
        (function.read rt lib attrName tuple queryResultBO ((otuple.comp part).get m)).attr) := by
  have once := fun (attrNameNotInBO : Bool) (findPath : Option (In → String)) =>
    attributeProgram_exec rt lib fresh tuple (node i) query attrName attrNameNotInBO
      (findPath.map (Argument.mk (uses i))) t queryResultBO (m := m) all otuple i part accessor
      tupleKnown result
  have known := env.attr?_eq _ (.tuple all) otuple tupleKnown
  have found : (SplType.tuple all).attribute? i = some ⟨t, part⟩ := accessor
  have object := env.object?_eq _ _ result
  cases function with
  | queryDocumentField findPath => cases findPath <;> exact once false _
  | queryDocumentMultipleFields findPath => cases findPath <;> exact once true _
  | queryDocumentFieldAsJson | queryDocumentFieldAsJsonUString =>
    simp only [OutputFunction.reading, Reading.exec, known, found, object, Option.bind_eq_bind,
      Option.bind_some]
    rfl

theorem documentProgram_exec : {attrs : Attributes} → (schema : Schema In attrs) → (i : Nat) →
    (part : Lens all.Value attrs.Value) → Attributes.From all attrs i part → (m : M) →
    (documentProgram node query uses schema i).foldlM
        (fun m reading => reading.exec rt lib fresh tuple env m) m =
      some ((otuple.comp part).put m
        (decodeDocument rt lib schema tuple queryResultBO ((otuple.comp part).get m)))
  | _, .nil, i, part, rests, m => congrArg some ((otuple.comp part).put_get m).symm
  | .cons name t rest, .cons (.asIs _) schema, i, part, rests, m => by
      have later := documentProgram_exec schema (i + 1) _ rests.tail m
      exact later.trans rfl
  | .cons name t rest, .cons (.outputFunction function) schema, i, part, rests, m => by
      have first := reading_exec rt lib fresh tuple node query uses queryResultBO tupleKnown result
        name i function _ rests.head m
      rw [documentProgram, List.foldlM_cons, first, Option.bind_eq_bind, Option.bind_some,
        documentProgram_exec schema (i + 1) _ rests.tail]
      exact congrArg some (Lens.put_first_second (A := t.Value) (B := rest.Value)
        (otuple.comp part) m _ (decodeDocument rt lib schema tuple queryResultBO))

end Refinement

section Scoped

variable [DecidableEq S] [DecidableEq O] (node : Nat → List Nat → O) (query : O)
  (uses : Nat → List (Use S O)) (blocks : List (Block (Name S) O))
  (sources : ∀ i, ∀ u ∈ uses i, ∃ name, u.1 = .given name)
  (resolved : ∀ i, Resolved blocks ((.otuple, query) :: (.queryResultBO, query) :: uses i))

include sources resolved

theorem reading_scoped (attrName : FieldName) (i : Nat) {t : SplType}
    (function : OutputFunction In t) :
    check blocks (function.reading node query uses attrName i).text = some blocks := by
  have once : ∀ (attrNameNotInBO : Bool) (findPath : Option (In → String)),
      check blocks (attributeProgram (node i) query attrName attrNameNotInBO
        (findPath.map (Argument.mk (uses i))) t i).text = some blocks := by
    intro attrNameNotInBO findPath
    rw [attributeProgram_text]
    cases findPath with
    | none =>
      have plain := (resolved i).of_subset blocks [(.otuple, query), (.queryResultBO, query)] _
        (by simp)
      exact attributeText_scoped (node i) query attrName attrNameNotInBO none blocks (by simp)
        plain t
    | some findPath =>
      exact attributeText_scoped (node i) query attrName attrNameNotInBO (some (uses i)) blocks
        (sources i) (resolved i) t
  cases function with
  | queryDocumentField findPath => exact once false findPath
  | queryDocumentMultipleFields findPath => exact once true findPath
  | queryDocumentFieldAsJson | queryDocumentFieldAsJsonUString =>
    exact check_mention blocks _ ((resolved i).of_subset blocks _ _ (by simp))

theorem documentProgram_scoped : {attrs : Attributes} → (schema : Schema In attrs) → (i : Nat) →
    check blocks ((documentProgram node query uses schema i).flatMap Reading.text) = some blocks
  | _, .nil, _ => rfl
  | _, .cons (.asIs _) schema, i => documentProgram_scoped schema (i + 1)
  | .cons name _ _, .cons (.outputFunction function) schema, i => by
      rw [documentProgram, List.flatMap_cons, check_append_eq blocks _ _ blocks
        (reading_scoped node query uses blocks sources resolved name i function)]
      exact documentProgram_scoped schema (i + 1)

end Scoped

theorem document_text_decodes [DecidableEq S] [DecidableEq O] (rt : SplRuntime)
    (lib : DriverLibrary) (fresh : (p : PrimType) → p.Value) (node : Nat → List Nat → O) (query : O)
    (uses : Nat → List (Use S O)) {attrs : Attributes} (schema : Schema In attrs) (tuple : In) :
    (∀ blocks : List (Block (Name S) O), (∀ i, ∀ u ∈ uses i, ∃ name, u.1 = .given name) →
      (∀ i, Resolved blocks ((.otuple, query) :: (.queryResultBO, query) :: uses i)) →
      check blocks ((documentProgram node query uses schema 0).flatMap Reading.text) =
        some blocks) ∧
    (∀ (env : Env S M) (otuple : Lens M attrs.Value) (queryResultBO : BSONObj) (m : M),
      env .otuple = some (.variable (.tuple attrs) otuple) →
      env .queryResultBO = some (.object queryResultBO) →
      (documentProgram node query uses schema 0).foldlM
          (fun m reading => reading.exec rt lib fresh tuple env m) m =
        some (otuple.put m (decodeDocument rt lib schema tuple queryResultBO (otuple.get m)))) := by
  constructor
  · intro blocks sources resolved
    exact documentProgram_scoped node query uses blocks sources resolved schema 0
  · intro env otuple queryResultBO m tupleKnown result
    exact documentProgram_exec rt lib fresh tuple node query uses queryResultBO tupleKnown result
      schema 0 Lens.whole attrs.from_start m

def sensorAttributes : Attributes :=
  .cons sampleName readingType (.cons ⟨"json", by decide⟩ (.prim .rstring)
    (.cons ⟨"sensor", by decide⟩ (.prim .rstring) .nil))

def sensorSchema : Schema String sensorAttributes :=
  .cons (.outputFunction (.queryDocumentField (some id))) <|
  .cons (.outputFunction .queryDocumentFieldAsJson) <|
  .cons (.asIs .ok) <|
  .nil

def sensorDocument : BSONObj := [(⟨"inner", by decide⟩, .object [readingElement sampleName])]

def sensorEnv : Env Unit (Nat × sensorAttributes.Value)
  | .otuple => some (.variable (.tuple sensorAttributes) Lens.second)
  | .queryResultBO => some (.object sensorDocument)
  | _ => none

theorem document_text_decodes_sensor :
    check [[(.otuple, none), (.queryResultBO, none), (.given (), none)]]
        ((documentProgram (fun i path => some (i, path)) none (fun _ => [(.given (), none)])
          sensorSchema 0).flatMap Reading.text) =
      some [[(.otuple, none), (.queryResultBO, none), (.given (), none)]] ∧
    (documentProgram (fun i path => some (i, path)) none (fun _ => [(.given (), none)])
        sensorSchema 0).foldlM
        (fun m reading => reading.exec .plain .plain PrimType.cleared "inner" sensorEnv m)
        (7, ([], "", "attic", ())) =
      some (7, ([([1#32, 2#32], false, ()), ([], true, ())], "{}", "attic", ())) :=
  have decodes := document_text_decodes (S := Unit) .plain .plain PrimType.cleared
    (fun i path => some (i, path)) none (fun _ => [(.given (), none)]) sensorSchema "inner"
  ⟨decodes.1 _ (by simp) (by simp),
    decodes.2 sensorEnv Lens.second sensorDocument (7, ([], "", "attic", ())) rfl rfl⟩

end StreamsMongo.Query
