import StreamsMongo.Codec.DecoderExecution
import StreamsMongo.Codec.Encoder

set_option autoImplicit false

namespace StreamsMongo

open Lenses

section Attributes

-- `part` is what the attributes `rest` hold, which are those of `all` from the attribute `i` on.
def Attributes.From (all rest : Attributes) (i : Nat) (part : Lens all.Value rest.Value) : Prop :=
  ∀ j, all.attribute? (i + j) =
    (rest.attribute? j).map fun found => ⟨found.1, part.comp found.2⟩

theorem Attributes.from_start (all : Attributes) : Attributes.From all all 0 Lens.whole := by
  intro j
  rw [Nat.zero_add]
  cases all.attribute? j <;> rfl

variable {all rest : Attributes} {name : FieldName} {t : SplType} {i : Nat}
  {part : Lens all.Value (Attributes.cons name t rest).Value}

theorem Attributes.From.head (rests : Attributes.From all (.cons name t rest) i part) :
    all.attribute? i =
      some ⟨t, part.comp (Attributes.headPart name t rest)⟩ :=
  rests 0

theorem Attributes.From.tail (rests : Attributes.From all (.cons name t rest) i part) :
    Attributes.From all rest (i + 1) (part.comp (Attributes.tailPart name t rest)) := by
  intro j
  rw [Nat.add_right_comm, Nat.add_assoc, rests (j + 1), Attributes.attribute?]
  cases rest.attribute? j <;> rfl

end Attributes

namespace DecoderText

variable {S O M N : Type}

theorem store_unchanged {A : Type} (attr : Lens M A) (valueApplied : Lens M Bool) (m : M) :
    store attr valueApplied m ⟨attr.get m, valueApplied.get m⟩ = m := by
  simp [store]

@[simp] theorem store_flag {A : Type} (attr : Lens M A) (valueApplied : Lens M Bool) (m : M)
    (target : QueryCommon.Target A) :
    valueApplied.get (store attr valueApplied m target) = target.valueApplied := by
  simp [store]

section Pair

variable {A B : Type} (pair : Lens M (A × B)) (valueApplied : Lens M Bool) (m : M)
  (head : QueryCommon.Target A) (tail : QueryCommon.Target B) (apart : pair.Apart valueApplied)

include apart

theorem store_first_get : (pair.comp Lens.second).get
    (store (pair.comp Lens.first) valueApplied m head) = (pair.get m).2 := by
  simp [store, apart.get_put_other]

theorem store_pair : store (pair.comp Lens.second) valueApplied
    (store (pair.comp Lens.first) valueApplied m head) tail =
      store pair valueApplied m ⟨(head.attr, tail.attr), tail.valueApplied⟩ := by
  simp only [store, Lens.comp_put, Lens.second_put, Lens.first_put, apart.get_put_other,
    Lens.get_put]
  rw [apart, Lens.put_put, Lens.put_put]

end Pair

section Handlers

variable [DecidableEq S] (rt : SplRuntime) (fresh : (p : PrimType) → p.Value)

structure InScope (env : Env S M) (seq : Nat) (t : SplType) (attr : Lens M t.Value)
    (valueApplied : Lens M Bool) : Prop where
  attrKnown : env (.attr seq) = some (.variable t attr)
  flagKnown : env .valueApplied = some (.flag valueApplied)
  apart : attr.Apart valueApplied

def Decodes (handled : Statement S O) (seq : Nat) (t : SplType) : Prop :=
  ∀ (N : Type) (env : Env S N) (m : N) (attr : Lens N t.Value) (valueApplied : Lens N Bool)
    (be : BSONElement), InScope env seq t attr valueApplied →
    env (.be seq) = some (.element be) →
    handled.exec rt fresh env m = some (store attr valueApplied m
      (QueryCommon.handleBSONObject rt t be.2 ⟨attr.get m, valueApplied.get m⟩))

variable (node : List Nat → O) (seq : Nat) (path : List Nat) (flag : O)

theorem handlePrimitive_decodes (p : PrimType) :
    Decodes (S := S) rt fresh (handlePrimitive node p seq path flag) seq (.prim p) := by
  intro N env m attr valueApplied be scope element
  have handled : QueryCommon.handleBSONObject rt (.prim p) be.2 ⟨attr.get m, valueApplied.get m⟩ =
      if be.2.isSimpleType then QueryCommon.handleLeaf rt p be.2 ⟨attr.get m, valueApplied.get m⟩
      else ⟨attr.get m, valueApplied.get m⟩ := QueryCommon.handlePrimitive_leaf rt p be.2 _
  rw [handled, handlePrimitive, exec_isSimpleType element]
  by_cases simple : be.2.isSimpleType
  · rw [if_pos simple, if_pos simple, exec_typeOf scope.attrKnown]
    exact exec_last (exec_leaf (by simp [scope.attrKnown]) (by simp [element])
      (by simp [scope.flagKnown]))
  · rw [if_neg simple, if_neg simple]
    exact congrArg some (store_unchanged attr valueApplied m).symm

-- A value of a collection's element is only added when it has been assigned as a whole.
theorem readElements_constructed {C : Type} (t : SplType) (add : C → BSONElement → t.Value → C)
    (it : BSONObj) (attr : C) :
    QueryCommon.readElements
        (fun be => QueryCommon.handleBSONObject rt t be ⟨t.constructed fresh, false⟩) add it attr =
      QueryCommon.readElements
        (fun be => QueryCommon.handleBSONObject rt t be ⟨t.cleared, false⟩) add it attr := by
  cases t with
  | prim p =>
    have reads := fun init be => QueryCommon.handlePrimitive_eq rt p be ⟨init, false⟩
    exact (QueryCommon.readElements_eq _ _ (fresh p) (reads (fresh p)) add it attr).trans
      (QueryCommon.readElements_eq _ _ p.cleared (reads p.cleared) add it attr).symm
  | list t | set t | map t | tuple attrs => rfl

section Elements

structure Collects (c t : SplType) (member : Use S O → Initializer S O) (key : Option (Use S O))
    (element : List Nat) (addValue : c.Value → BSONElement → t.Value → c.Value)
    (getSize : c.Value → Nat) : Prop where
  members : ∀ {N : Type} (env : Env S N) (cppExpr : Use S O),
    env cppExpr.1 = some (.type c) → (member cppExpr).eval env = some (.variable t)
  sizes : ∀ value, c.getSize? value = some (getSize value)
  adds : ∀ {N : Type} (env : Env S N) (m : N) (attr : Lens N c.Value) (inner : Lens N t.Value)
    (be : BSONElement), env (.attr seq) = some (.variable c attr) →
    env (.attr (seq + 1)) = some (.variable t inner) →
    env (.be (seq + 1)) = some (.element be) →
    (Statement.add (.attr seq, node path) key (.attr (seq + 1), node element)).exec rt fresh env m =
      some (attr.put m (addValue (attr.get m) be (inner.get m)))

variable (c t : SplType) (type : BSONType) (member : Use S O → Initializer S O)
  (key : Option (Use S O)) (inner : Statement S O) (element : List Nat)
  (addValue : c.Value → BSONElement → t.Value → c.Value) (getSize : c.Value → Nat)
  (collects : Collects rt fresh node seq path c t member key element addValue getSize)
  (decodes : Decodes rt fresh inner (seq + 1) t)

include collects decodes

omit decodes in
theorem addApplied_exec (env : Env S M) (m : M) (attr : Lens M c.Value) (place : Lens M t.Value)
    (valueApplied : Lens M Bool) (be : BSONElement)
    (attrKnown : env (.attr seq) = some (.variable c attr))
    (innerKnown : env (.attr (seq + 1)) = some (.variable t place))
    (found : env (.be (seq + 1)) = some (.element be))
    (flagKnown : env .valueApplied = some (.flag valueApplied)) :
    (Statement.ifThen (.applied (.valueApplied, node element)) <|
      .statement (.add (.attr seq, node path) key (.attr (seq + 1), node element)) .done).exec
        rt fresh env m = some (attr.put m
          (if valueApplied.get m then addValue (attr.get m) be (place.get m) else attr.get m)) := by
  rw [exec_applied flagKnown]
  by_cases applied : valueApplied.get m
  · rw [if_pos applied, if_pos applied]
    exact exec_last (collects.adds env m attr place be attrKnown innerKnown found)
  · rw [if_neg applied, if_neg applied, Lens.put_get]

-- The attribute and the flag of a round are declared by the round, and gone after it.
theorem handleElement_exec (env : Env S M) (m : M) (attr : Lens M c.Value) (next : BSONElement)
    (container : env (.attr seq) = some (.variable c attr))
    (cppExpr : env (.cppExpr seq) = some (.type c))
    (iterator : env (.it seq) = some (.iterator next)) :
    (handleElement node member key inner seq path element).exec rt fresh env m =
      some (attr.put m
        (let read := QueryCommon.handleBSONObject rt t next.2 ⟨t.constructed fresh, false⟩
        if read.valueApplied then addValue (attr.get m) next read.attr else attr.get m)) := by
  let declared := (env.within (N := M × t.Value) Lens.first).declare (.attr (seq + 1))
    (.variable t Lens.second)
  let scope := ((declared.declare (.be (seq + 1)) (.element next)).within
    (N := (M × t.Value) × Bool) Lens.first).declare .valueApplied (.flag Lens.second)
  let read := QueryCommon.handleBSONObject rt t next.2 ⟨t.constructed fresh, false⟩
  have attrKnown : scope (.attr (seq + 1)) =
      some (.variable t (Lens.first.comp Lens.second)) := by
    simp [scope, declared, Binding.within]
  have flagKnown : scope .valueApplied = some (.flag Lens.second) := by
    simp [scope]
  have found : scope (.be (seq + 1)) = some (.element next) := by
    simp [scope, Binding.within]
  have runs : inner.exec rt fresh scope ((m, t.constructed fresh), false) =
      some ((m, read.attr), read.valueApplied) :=
    decodes _ scope _ _ _ next ⟨attrKnown, flagKnown, fun _ _ _ => rfl⟩ found
  have added := addApplied_exec rt fresh node seq path c t member key element addValue getSize
    collects scope ((m, read.attr), read.valueApplied) (Lens.first.comp (Lens.first.comp attr)) _ _
    next (by simp [scope, declared, container, Binding.within]) attrKnown found flagKnown
  refine exec_variable (_, read.attr) (collects.members env _ cppExpr) ?_
  have nextKnown : declared (.it seq) = some (.iterator next) := by
    simp [declared, iterator, Binding.within]
  rw [exec_next nextKnown]
  refine exec_notApplied (_, read.valueApplied) ?_
  rw [exec_statement runs]
  exact exec_last added

theorem loop_exec (env : Env S M) (m : M) (attr : Lens M c.Value) (be : BSONElement)
    (container : env (.attr seq) = some (.variable c attr))
    (cppExpr : env (.cppExpr seq) = some (.type c))
    (found : env (.be seq) = some (.element be)) :
    (Statement.each (.it seq, node path) (.be seq, node path)
        (handleElement node member key inner seq path element)).exec rt fresh env m =
      some (attr.put m (QueryCommon.readElements
        (fun be => QueryCommon.handleBSONObject rt t be ⟨t.constructed fresh, false⟩) addValue
        be.2.embeddedObject (attr.get m))) := by
  have round := fun m next => handleElement_exec rt fresh node seq path c t member key inner
    element addValue getSize collects decodes (env.declare (.it seq) (.iterator next)) m attr next
    (by simp [container]) (by simp [cppExpr]) (by simp)
  rw [exec_each found]
  exact attr.foldlM_put (fun value next =>
      let read := QueryCommon.handleBSONObject rt t next.2 ⟨t.constructed fresh, false⟩
      if read.valueApplied then addValue value next read.attr else value)
    _ round be.2.embeddedObject m

omit decodes in
-- The flag of the level is set where the collection has elements, and kept where it has none.
theorem sizeTest_exec (env : Env S M) (m : M) (attr : Lens M c.Value) (valueApplied : Lens M Bool)
    (value : c.Value) (scope : InScope env seq c attr valueApplied) :
    (Statement.ifThen (.notEmpty (.attr seq, node path)) <|
      .statement (.apply (.valueApplied, flag)) .done).exec rt fresh env (attr.put m value) =
        some (store attr valueApplied m
          ⟨value, if getSize value > 0 then true else valueApplied.get m⟩) := by
  have size : c.getSize? (attr.get (attr.put m value)) = some (getSize value) := by
    rw [Lens.get_put, collects.sizes]
  rw [exec_notEmpty scope.attrKnown size]
  by_cases filled : getSize value > 0
  · rw [if_pos filled, if_pos filled]
    exact exec_last (exec_apply scope.flagKnown)
  · have kept := scope.apart.symm.get_put_other m value
    rw [if_neg filled, if_neg filled, store, ← kept, Lens.put_get]

theorem handleElements_exec (env : Env S M) (m : M) (attr : Lens M c.Value)
    (valueApplied : Lens M Bool) (be : BSONElement)
    (scope : InScope env seq c attr valueApplied) (found : env (.be seq) = some (.element be)) :
    (handleElements node type member key inner seq path element flag).exec rt fresh env m =
      some (store attr valueApplied m
        (if be.2.type = type then
          let value := QueryCommon.readElements
            (fun be => QueryCommon.handleBSONObject rt t be ⟨t.constructed fresh, false⟩) addValue
            be.2.embeddedObject (attr.get m)
          ⟨value, if getSize value > 0 then true else valueApplied.get m⟩
        else ⟨attr.get m, valueApplied.get m⟩)) := by
  rw [handleElements, exec_typeIs found]
  by_cases same : be.2.type = type
  · let typed := env.declare (.cppExpr seq) (.type c)
    have typedScope : InScope typed seq c attr valueApplied :=
      ⟨by simp [typed, scope.attrKnown], by simp [typed, scope.flagKnown], scope.apart⟩
    have loops := loop_exec rt fresh node seq path c t member key inner element addValue getSize
      collects decodes typed m attr be typedScope.attrKnown (by simp [typed])
      (by simp [typed, found])
    rw [if_pos same, if_pos same, exec_typeOf scope.attrKnown, exec_statement loops]
    exact exec_last (sizeTest_exec rt fresh node seq path flag c t member key element addValue
      getSize collects typed m attr valueApplied _ typedScope)
  · rw [if_neg same, if_neg same, store_unchanged]

theorem handleElements_decodes (handled : ∀ be target, QueryCommon.handleBSONObject rt c be target =
      if be.type = type then
        let value := QueryCommon.readElements
          (fun be => QueryCommon.handleBSONObject rt t be ⟨t.cleared, false⟩) addValue
          be.embeddedObject target.attr
        ⟨value, if getSize value > 0 then true else target.valueApplied⟩
      else target) :
    Decodes rt fresh (handleElements node type member key inner seq path element flag) seq c := by
  intro N env m attr valueApplied be scope found
  rw [handled, ← readElements_constructed rt fresh]
  exact handleElements_exec rt fresh node seq path flag c t type member key inner element addValue
    getSize collects decodes env m attr valueApplied be scope found

end Elements

section Collections

variable (element : List Nat) (t : SplType)

theorem list_collects : Collects (S := S) rt fresh node seq path (.list t) t .valueType none element
    (fun (attr : List t.Value) _ inner => attr ++ [inner]) List.length where
  members env cppExpr known := by
    simp [Initializer.eval, env.type?_eq _ _ known, SplType.valueType?]
  sizes _ := rfl
  adds env m attr inner be attrKnown innerKnown _ := by
    simp [Statement.exec, env.attr?_eq _ _ attr attrKnown, addTo,
      env.attrOf?_eq _ t inner innerKnown]

theorem set_collects : Collects (S := S) rt fresh node seq path (.set t) t .valueType none element
    (fun (attr : Finset t.Value) _ inner => (insert inner attr : Finset t.Value)) Finset.card where
  members env cppExpr known := by
    simp [Initializer.eval, env.type?_eq _ _ known, SplType.valueType?]
  sizes _ := rfl
  adds env m attr inner be attrKnown innerKnown _ := by
    simp [Statement.exec, env.attr?_eq _ _ attr attrKnown, addTo,
      env.attrOf?_eq _ t inner innerKnown]

theorem map_collects : Collects (S := S) rt fresh node seq path (.map t) t .mappedType
    (some (.be (seq + 1), node element)) element
    (fun (attr : Finmap fun _ : String => t.Value) be inner => rt.mapAdd attr be.1.chars inner)
    (fun attr => attr.entries.card) where
  members env cppExpr known := by
    simp [Initializer.eval, env.type?_eq _ _ known, SplType.mappedType?]
  sizes _ := rfl
  adds env m attr inner be attrKnown innerKnown element := by
    simp [Statement.exec, env.attr?_eq _ _ attr attrKnown, addTo,
      env.attrOf?_eq _ t inner innerKnown, env.element?_eq _ be element]

end Collections

theorem withElement_exec (t : SplType) (handled : Statement S O)
    (decodes : Decodes rt fresh handled seq t) (attrName : FieldName) (env : Env S M) (m : M)
    (attr : Lens M t.Value) (valueApplied : Lens M Bool) (bo : BSONObj)
    (scope : InScope env seq t attr valueApplied) (object : env (.bo seq) = some (.object bo)) :
    (withElement node (some attrName) seq path handled).exec rt fresh env m =
      some (store attr valueApplied m
        (match bo.getField attrName with
          | some be => QueryCommon.handleBSONObject rt t be ⟨attr.get m, valueApplied.get m⟩
          | none => ⟨attr.get m, valueApplied.get m⟩)) := by
  rw [withElement, exec_hasElement object]
  cases found : bo.getField attrName with
  | some be =>
    rw [Option.isSome_some, if_pos rfl, exec_getField object found]
    exact exec_last (decodes _ _ m attr valueApplied (attrName, be)
      ⟨by simp [scope.attrKnown], by simp [scope.flagKnown], scope.apart⟩ (by simp))
  | none => rw [Option.isSome_none, if_neg Bool.false_ne_true, store_unchanged]

end Handlers

section Attribute

variable [DecidableEq S] (rt : SplRuntime) (fresh : (p : PrimType) → p.Value) (node : List Nat → O)
  (seq : Nat) (path : List Nat) (flag : O)

theorem attribute_exec (c t : SplType) (i : Nat) (name : FieldName) (part : Lens c.Value t.Value)
    (accessor : c.attribute? i = some ⟨t, part⟩)
    (decodes : Decodes (S := S) rt fresh
      (handleBSONObject node t none (seq + 1) (path ++ [i]) flag) (seq + 1) t)
    (env : Env S M) (m : M) (attr : Lens M c.Value) (valueApplied : Lens M Bool)
    (be : BSONElement) (scope : InScope env seq c attr valueApplied)
    (element : env (.be seq) = some (.element be)) :
    (Statement.block <|
      .declare (.cppExpr seq, node (path ++ [i])) (.typeOfAttribute (.attr seq, node path) i) <|
      .declare (.attr (seq + 1), node (path ++ [i]))
        (.attribute (.cppExpr seq, node (path ++ [i])) (.attr seq, node path) i) <|
      .declare (.bo (seq + 1), node (path ++ [i])) (.embeddedObject (.be seq, node path)) <|
      .statement (handleBSONObject node t (some name) (seq + 1) (path ++ [i]) flag) <|
      .done).exec rt fresh env m =
        some (store (attr.comp part) valueApplied m
          (match BSONObj.getField be.2.embeddedObject name with
            | some be =>
                QueryCommon.handleBSONObject rt t be ⟨part.get (attr.get m), valueApplied.get m⟩
            | none => ⟨part.get (attr.get m), valueApplied.get m⟩)) := by
  let typed := env.declare (.cppExpr seq) (.type t)
  let reference := typed.declare (.attr (seq + 1)) (.variable t (attr.comp part))
  have attrKnown : typed (.attr seq) = some (.variable c attr) := by
    simp [typed, scope.attrKnown]
  have found : reference (.be seq) = some (.element be) := by
    simp [reference, typed, element]
  have runs := withElement_exec rt fresh node (seq + 1) (path ++ [i]) t _ decodes name
    (reference.declare (.bo (seq + 1)) (.object be.2.embeddedObject)) m (attr.comp part)
    valueApplied be.2.embeddedObject
    ⟨by simp [reference], by simp [reference, typed, scope.flagKnown], scope.apart.comp part⟩
    (by simp)
  rw [exec_block, exec_typeOfAttribute scope.attrKnown accessor,
    exec_attribute (by simp [typed]) attrKnown accessor, exec_embeddedObject found,
    handleBSONObject_named]
  exact exec_last runs

end Attribute

section Decoder

variable [DecidableEq S] (rt : SplRuntime) (fresh : (p : PrimType) → p.Value) (node : List Nat → O)

mutual

theorem handleBSONObject_decodes : (t : SplType) → (seq : Nat) → (path : List Nat) → (flag : O) →
    Decodes (S := S) rt fresh (handleBSONObject node t none seq path flag) seq t
  | .prim p, seq, path, flag => handlePrimitive_decodes rt fresh node seq path flag p
  | .list t, seq, path, flag =>
      handleElements_decodes rt fresh node seq path flag (.list t) t .array .valueType none _
        (path ++ [0]) _ _ (list_collects rt fresh node seq path (path ++ [0]) t)
        (handleBSONObject_decodes t (seq + 1) (path ++ [0]) (node (path ++ [0])))
        fun _ _ => rfl
  | .set t, seq, path, flag =>
      handleElements_decodes rt fresh node seq path flag (.set t) t .array .valueType none _
        (path ++ [0]) _ _ (set_collects rt fresh node seq path (path ++ [0]) t)
        (handleBSONObject_decodes t (seq + 1) (path ++ [0]) (node (path ++ [0])))
        fun _ _ => rfl
  | .map t, seq, path, flag =>
      handleElements_decodes rt fresh node seq path flag (.map t) t .object .mappedType _ _
        (path ++ [0]) _ _ (map_collects rt fresh node seq path (path ++ [0]) t)
        (handleBSONObject_decodes t (seq + 1) (path ++ [0]) (node (path ++ [0])))
        fun _ _ => rfl
  | .tuple attrs, seq, path, flag => by
      intro N env m attr valueApplied be scope element
      have attributes := handleBSONObjectAsTuple_exec attrs seq path flag 0 attrs Lens.whole
        (Attributes.from_start attrs) env m attr valueApplied be scope element
      rw [handleBSONObject, withElement, QueryCommon.handleBSONObject, exec_typeIs element]
      by_cases object : be.2.type = .object
      · rw [if_pos object, if_pos object]
        exact attributes
      · rw [if_neg object, if_neg object, store_unchanged]

theorem handleBSONObjectAsTuple_exec : (rest : Attributes) → (seq : Nat) → (path : List Nat) →
    (flag : O) → (i : Nat) → (all : Attributes) → (part : Lens all.Value rest.Value) →
    Attributes.From all rest i part → {M : Type} → (env : Env S M) → (m : M) →
    (attr : Lens M all.Value) → (valueApplied : Lens M Bool) → (be : BSONElement) →
    InScope env seq (.tuple all) attr valueApplied → env (.be seq) = some (.element be) →
    (handleBSONObjectAsTuple node rest seq path flag i).exec rt fresh env m =
      some (store (attr.comp part) valueApplied m (.applied
        (QueryCommon.handleBSONObjectAsTuple rt rest be.2.embeddedObject
          ⟨(attr.comp part).get m, valueApplied.get m⟩).attr))
  | .nil, seq, path, flag, i, all, part, rests, M, env, m, attr, valueApplied, be, scope,
    element => by
      rw [handleBSONObjectAsTuple, exec_last (exec_apply scope.flagKnown)]
      simp [store, QueryCommon.handleBSONObjectAsTuple, QueryCommon.Target.applied]
  | .cons name t rest, seq, path, flag, i, all, part, rests, M, env, m, attr, valueApplied, be,
    scope, element => by
      let head : QueryCommon.Target t.Value :=
        match BSONObj.getField be.2.embeddedObject name with
        | some be =>
            QueryCommon.handleBSONObject rt t be ⟨(part.get (attr.get m)).1, valueApplied.get m⟩
        | none => ⟨(part.get (attr.get m)).1, valueApplied.get m⟩
      have apart := scope.apart.comp part
      have runs := attribute_exec rt fresh node seq path flag (.tuple all) t i name _ rests.head
        (handleBSONObject_decodes t (seq + 1) (path ++ [i]) flag) env m attr valueApplied be scope
        element
      let first := Attributes.headPart name t rest
      let after := store (attr.comp (part.comp first)) valueApplied m head
      have others := handleBSONObjectAsTuple_exec rest seq path flag (i + 1) all _ rests.tail env
        after attr valueApplied be scope element
      have kept : (attr.comp (part.comp (Attributes.tailPart name t rest))).get after =
          (part.get (attr.get m)).2 :=
        store_first_get (attr.comp part) valueApplied m head apart
      have flagged : valueApplied.get after = head.valueApplied := store_flag ..
      rw [kept, flagged] at others
      rw [handleBSONObjectAsTuple, exec_statement runs]
      exact others.trans (congrArg some (store_pair (attr.comp part) valueApplied m head _ apart))

end

variable (t : SplType) (seq : Nat) (path : List Nat) (flag : O) (env : Env S M) (m : M)
  (attr : Lens M t.Value) (valueApplied : Lens M Bool) (scope : InScope env seq t attr valueApplied)

include scope

theorem exec_readAttribute (lib : DriverLibrary) (attrName : FieldName) (attrNameNotInBO : Bool)
    (findPath : Option String) (queryResultBO bo0 : BSONObj)
    (found : QueryCommon.initBSONObject lib attrName attrNameNotInBO findPath queryResultBO =
      some bo0) (object : env (.bo seq) = some (.object bo0))
    (notApplied : valueApplied.get m = false) :
    (handleBSONObject node t (some attrName) seq path flag).exec rt fresh env m =
      some (store attr valueApplied m (QueryCommon.readAttribute rt lib attrName attrNameNotInBO
        findPath t queryResultBO (attr.get m))) := by
  have runs := withElement_exec rt fresh node seq path t _
    (handleBSONObject_decodes rt fresh node t seq path flag) attrName env m attr valueApplied bo0
    scope object
  rw [notApplied] at runs
  rw [handleBSONObject_named]
  refine runs.trans ?_
  cases sought : bo0.getField attrName with
  | some be => simp only [QueryCommon.readAttribute, found, sought]
  | none => simp only [QueryCommon.readAttribute, found, sought]

/-- In whatever memory the text runs, it computes the partial decoder. -/
theorem exec_refDecode (be : BSONElement) (element : env (.be seq) = some (.element be))
    (cleared : attr.get m = t.cleared) :
    (handleBSONObject node t none seq path flag).exec rt fresh env m =
      some (match QueryCommon.refDecode rt t be.2 with
        | some value => valueApplied.put (attr.put m value) true
        | none => m) := by
  rw [handleBSONObject_decodes rt fresh node t seq path flag M env m attr valueApplied be scope
    element, cleared, QueryCommon.handleBSONObject_cleared]
  cases QueryCommon.refDecode rt t be.2 with
  | some value => rfl
  | none =>
    rw [QueryCommon.Target.ofOption_none, ← cleared, store_unchanged]

end Decoder

def attributeScope (t : SplType) (be : BSONElement) : Env Unit (t.Value × Bool)
  | .attr 0 => some (.variable t Lens.first)
  | .valueApplied => some (.flag Lens.second)
  | .be 0 => some (.element be)
  | _ => none

def sampleName : FieldName := ⟨"readings", by decide⟩

def readingType : SplType :=
  .list (.tuple (.cons ⟨"xs", by decide⟩ (.list (.prim (.int .int32)))
    (.cons ⟨"ok", by decide⟩ (.prim .boolean) .nil)))

def readingElement (name : FieldName) : BSONElement :=
  (name, .array [
    (indexName 0, .object [
      (⟨"ok", by decide⟩, .string "yes"),
      (⟨"xs", by decide⟩, .array [
        (indexName 0, .numberInt 1#32), (indexName 1, .string ""),
        (indexName 2, .numberInt 2#32)])]),
    (indexName 1, .numberInt 5#32),
    (indexName 2, .object [(⟨"ok", by decide⟩, .bool true)])])

theorem exec_refDecode_readings :
    (handleBSONObject id readingType none 0 [] []).exec .plain PrimType.cleared
        (attributeScope readingType (readingElement sampleName)) (readingType.cleared, false) =
      some ([([1#32, 2#32], false, ()), ([], true, ())], true) :=
  exec_refDecode .plain PrimType.cleared id readingType 0 [] [] _ (readingType.cleared, false)
    Lens.first Lens.second ⟨rfl, rfl, Lens.first_apart_second⟩ (readingElement sampleName) rfl rfl

end DecoderText

end StreamsMongo
