import StreamsMongo.Codec.EncoderExecution
import StreamsMongo.Codec.EncoderScopes

set_option autoImplicit false

namespace StreamsMongo.EncoderText

variable {S O : Type}

section Computations

variable {A B C : Type}

@[simp] theorem ok_bind (value : A) (next : A → Except Fault B) :
    Except.ok value >>= next = next value := rfl

@[simp] theorem error_bind (fault : Fault) (next : A → Except Fault B) :
    (Except.error fault : Except Fault A) >>= next = .error fault := rfl

@[simp] theorem lift_ok (value : A) : lift (.ok value) = .ok value := rfl

theorem lift_bind (computation : Except Raised A) (next : A → Except Raised B) :
    lift (computation >>= next) = lift computation >>= fun value => lift (next value) := by
  cases computation <;> rfl

theorem lift_map_bind (computation : Except Raised A) (f : A → B) (next : B → Except Fault C) :
    lift (computation.map f) >>= next = lift computation >>= fun value => next (f value) := by
  cases computation <;> rfl

theorem lift_bind_map {D : Type} (made : Except Raised A) (next : A → Except Raised B)
    (wrap : B → C) (later : C → Except Fault D) :
    lift (made >>= fun value => (next value).map wrap) >>= later =
      lift (made >>= next) >>= fun value => later (wrap value) := by
  cases made with
  | error e => rfl
  | ok value => exact lift_map_bind (next value) wrap later

end Computations

section Environments

variable [DecidableEq S] (env before : Env S) (name other : Name S) (binding : Binding)
  (names : List (Name S))

@[simp] theorem Env.set_same : env.set name binding name = some binding := by
  simp [Env.set]

@[simp] theorem Env.set_other (differs : other ≠ name) :
    env.set name binding other = env other := by
  simp [Env.set, differs]

theorem Env.set_self (held : env name = some binding) : env.set name binding = env := by
  funext asked
  by_cases same : asked = name <;> simp [same, held]

theorem Env.set_set (later : Binding) :
    (env.set name binding).set name later = env.set name later := by
  funext asked
  by_cases same : asked = name <;> simp [same]

@[simp] theorem Env.without_nil : env.without [] = env := by
  funext asked
  simp [Env.without]

theorem Env.without_absent (absent : other ∉ names) : env.without names other = env other := by
  simp [Env.without, absent]

@[simp] theorem Env.restore_nil : env.restore before [] = env := by
  funext asked
  simp [Env.restore]

theorem Env.restore_absent (absent : other ∉ names) :
    env.restore before names other = env other := by
  simp [Env.restore, absent]

theorem Env.restore_member (member : other ∈ names) :
    env.restore before names other = before other := by
  simp [Env.restore, member]

-- The blocks' ends undo the declarations one after another.
theorem Env.restore_set : (env.restore (before.set name binding) names).restore before [name] =
    env.restore before (name :: names) := by
  funext asked
  by_cases same : asked = name
  · simp [Env.restore, same]
  · by_cases member : asked ∈ names <;> simp [Env.restore, same, member]

theorem Env.unwound (after : Env S) (spent : List (Name S)) (declared : ∀ u ∈ spent, u ∈ names)
    (frame : ∀ u, u ∉ names → after u = env u) :
    (((after.without spent).set name binding).restore after [name]).restore env names = env := by
  funext asked
  by_cases member : asked ∈ names
  · rw [Env.restore_member _ _ _ _ member]
  · have unspent : asked ∉ spent := fun other => member (declared asked other)
    rw [Env.restore_absent _ _ _ _ member]
    by_cases same : asked = name
    · rw [Env.restore_member _ _ _ _ (by simp [same]), frame asked member]
    · rw [Env.restore_absent _ _ _ _ (by simp [same]), Env.set_other _ _ _ _ same,
        Env.without_absent _ _ _ unspent, frame asked member]

end Environments

section Reads

variable (source : Source) (env later : Env S) (expr : Expr S O)

theorem Env.Intact.congr (uses : Uses S O) (agree : ∀ u ∈ uses, later u.1 = env u.1) :
    later.Intact uses = env.Intact uses := by
  rw [Bool.eq_iff_iff]
  simp only [Env.Intact, List.all_eq_true]
  exact forall₂_congr fun u member => by rw [agree u member]

theorem Expr.eval_congr (agree : ∀ u ∈ expr.uses, later u.1 = env u.1) :
    expr.eval source later = expr.eval source env := by
  match expr with
  | .source uses => simp only [Expr.eval, Env.Intact.congr env later uses agree]
  | .element value | .second value | .attribute tupleData i =>
    simp only [Expr.eval, agree _ (List.mem_singleton_self _)]

variable (rt : SplRuntime) (lib : DriverLibrary) (b : Use S O)

theorem eval_arr (builder : BSONArrayBuilder) (held : env b.1 = some (.arrayBuilder builder)) :
    (Argument.arr b).eval rt lib source env = .ok (.bsonArray builder.b) := by
  simp [Argument.eval, held]

theorem eval_obj (builder : BSONObj) (held : env b.1 = some (.objBuilder builder)) :
    (Argument.obj b).eval rt lib source env = .ok (.bsonObj builder) := by
  simp [Argument.eval, held]

end Reads

section Statements

variable [DecidableEq S] (rt : SplRuntime) (lib : DriverLibrary) (source : Source) (env : Env S)

attribute [local simp] Statement.exec Body.exec Initializer.eval Initializer.spends

def Body.leaves (body : Body S O) (env : Env S) : Except Fault (Env S) := do
  return (← body.exec rt lib source env).outside

inductive Initializer.Starts : Initializer S O → Binding → Prop where
  | array : Starts .arrayBuilder (.arrayBuilder {})
  | obj : Starts .objBuilder (.objBuilder [])

theorem exec_block (body : Body S O) :
    (Statement.block body).exec rt lib source env = body.leaves rt lib source env := by
  simp [Body.leaves]

theorem exec_builder (name : Use S O) (initializer : Initializer S O) (binding : Binding)
    (starts : initializer.Starts binding) (rest : Body S O) :
    (Body.declare name initializer rest).exec rt lib source env = do
      let left ← rest.exec rt lib source (env.set name.1 binding)
      return { left with outside := left.outside.restore env [name.1] } := by
  cases starts <;> simp

theorem exec_typeOf (name : Use S O) (expr : Expr S O) (data : SplData) (rest : Body S O)
    (known : expr.eval source env = .ok data) :
    (Body.declare name (.typeOf expr) rest).exec rt lib source env = do
      let left ← rest.exec rt lib source (env.set name.1 (.type data.type))
      return { left with outside := left.outside.restore env [name.1] } := by
  simp [known]

theorem exec_constant (name cppExpr : Use S O) (expr : Expr S O) (data : SplData) (rest : Body S O)
    (typed : env cppExpr.1 = some (.type data.type))
    (known : expr.eval source env = .ok data) (unread : ∀ u ∈ expr.uses, u.1 ≠ name.1) :
    (Body.declare name (.constant cppExpr expr) rest).exec rt lib source env = do
      let left ← rest.exec rt lib source (env.set name.1 (.data data))
      return { left with outside := left.outside.restore env [name.1] } := by
  have hidden : expr.eval source (env.without [name.1]) = .ok data :=
    (expr.eval_congr source env _ fun u member =>
      env.without_absent u.1 [name.1] (by simpa using unread u member)).trans known
  simp [typed, hidden]

theorem exec_each (cppExpr values value : Use S O) (body : Body S O) (data : SplData)
    (rounds : List Binding) (typed : env cppExpr.1 = some (.type data.type))
    (known : env values.1 = some (.data data)) (listed : items rt data = some rounds) :
    (Statement.each cppExpr values value body).exec rt lib source env =
      rounds.foldlM (fun env item => do
        let left ← body.exec rt lib source (env.set value.1 item)
        return left.outside.restore env [value.1]) env := by
  simp [typed, known, listed]

end Statements

section Header

variable [DecidableEq S] (rt : SplRuntime) (lib : DriverLibrary) (source : Source) (env : Env S)

structure Expr.Reads (expr : Expr S O) (seq : Nat) (data : SplData) : Prop where
  eval : expr.eval source env = .ok data
  older : ∀ u ∈ expr.uses, u.1.Below seq

variable {source env} in
theorem Expr.Reads.set {expr : Expr S O} {seq : Nat} {data : SplData}
    (reads : expr.Reads source env seq data) (name : Name S) (binding : Binding)
    (numbered : name.seq? = some seq) : expr.Reads source (env.set name binding) seq data where
  eval := (expr.eval_congr source env _ fun u member => env.set_other name u.1 binding
    fun same => (reads.older u member).seq_ne (same ▸ numbered)).trans reads.eval
  older := reads.older

omit [DecidableEq S] in
variable {source env} in
theorem Expr.Reads.kept {expr : Expr S O} {seq : Nat} {data : SplData}
    (reads : expr.Reads source env seq data) (later : Env S)
    (same : ∀ name, name ≠ .bsonObj → later name = env name) :
    expr.eval source later = .ok data := by
  refine (expr.eval_congr source env later fun u member => same u.1 fun bsonObj => ?_).trans
    reads.eval
  have below := reads.older u member
  rw [bsonObj] at below
  exact below

variable (seq : Nat) (constant : Name S) (start : Binding) (data : SplData)

def headed : Env S :=
  ((env.set (.b seq) start).set (.cppExpr seq) (.type data.type)).set constant (.data data)

section Headed

variable (named : constant = .values seq ∨ constant = .tupleData seq)

include named

theorem headed_builder : headed env seq constant start data (.b seq) = some start := by
  rcases named with rfl | rfl <;> simp [headed]

theorem headed_type :
    headed env seq constant start data (.cppExpr seq) = some (.type data.type) := by
  rcases named with rfl | rfl <;> simp [headed]

omit named in
theorem headed_constant : headed env seq constant start data constant = some (.data data) := by
  simp [headed]

omit named in
theorem headed_other (name : Name S) (absent : name ∉ [.b seq, .cppExpr seq, constant]) :
    headed env seq constant start data name = env name := by
  simp only [List.mem_cons, List.not_mem_nil, or_false, not_or] at absent
  simp [headed, absent]

end Headed

variable (origin : O) (builder : Initializer S O) (cppExpr : Expr S O)

theorem headerProgram_exec (numbered : constant.seq? = some seq)
    (starts : builder.Starts start)
    (reads : cppExpr.Reads source env seq data) (rest : Body S O) :
    (headerProgram origin builder cppExpr seq constant rest).exec rt lib source env = do
      let left ← rest.exec rt lib source (headed env seq constant start data)
      return { left with
        outside := left.outside.restore env [.b seq, .cppExpr seq, constant] } := by
  have typed := reads.set (.b seq) start rfl
  have valued := typed.set (.cppExpr seq) (.type data.type) rfl
  have unread : ∀ u ∈ cppExpr.uses, u.1 ≠ constant := fun u member same =>
    (reads.older u member).seq_ne (same ▸ numbered)
  rw [headerProgram, exec_builder rt lib source env _ builder start starts,
    exec_typeOf rt lib source _ _ cppExpr data _ typed.eval,
    exec_constant rt lib source _ _ _ cppExpr data _ (by simp) valued.eval unread, headed]
  simp only [bind_assoc, pure_bind, Env.restore_set]

end Header

section Fragments

variable [DecidableEq S] (rt : SplRuntime) (lib : DriverLibrary) (source : Source)

/--
The text raises itself, or it leaves its own names and an expression that has the value
or raises.
-/
inductive Fragment.Builds (fragment : Fragment S O) (seq : Nat) (env : Env S)
    (made : Except Raised (AppendFunction × CppValue)) : Prop where
  | raised (e : Raised) (failed : made = .error e)
      (exec : ∀ rest, (fragment.before rest).exec rt lib source env = .error (.raised e))
  | completed (names : List (Name S)) (after : Env S)
      (level : ∀ name ∈ names, name.seq? = some seq)
      (frame : ∀ name, name ∉ names → after name = env name)
      (exec : ∀ rest, (fragment.before rest).exec rt lib source env = do
        let left ← rest.exec rt lib source after
        return { left with outside := left.outside.restore env names })
      (value : ∀ later : Env S, (∀ name, name ≠ .bsonObj → later name = after name) →
        fragment.value.eval rt lib source later = lift (made.map Prod.snd))
      (function : ∀ appended, made = .ok appended → appended.1 = fragment.appendFunction)
      (spent : ∀ name ∈ fragment.value.spends, name ∈ names)

section Appending

variable (fragment : Fragment S O) (seq : Nat) (env : Env S)
  (made : Except Raised (AppendFunction × CppValue)) (b : Name S) (statement : Statement S O)
  (finish : AppendFunction → CppValue → Except Raised Binding)

structure Appends : Prop where
  earlier : b.seq? ≠ some seq
  exec : ∀ after : Env S, (∀ name : Name S, name.seq? ≠ some seq → after name = env name) →
    (∀ name ∈ fragment.value.spends, name.seq? = some seq) →
    statement.exec rt lib source after = do
      let inner ← fragment.value.eval rt lib source after
      let binding ← lift (finish fragment.appendFunction inner)
      return (after.without fragment.value.spends).set b binding

variable {rt lib source fragment seq env made b statement finish}

theorem Fragment.Builds.appended (builds : fragment.Builds rt lib source seq env made)
    (appends : Appends rt lib source fragment seq env b statement finish) :
    ∃ (names : List (Name S)) (later : Binding → Env S),
      (∀ name ∈ names, name.seq? = some seq) ∧
      (∀ binding name, name ∉ names → later binding name = env.set b binding name) ∧
      ∀ rest, (fragment.before (.statement statement rest)).exec rt lib source env = do
        let binding ← lift (made >>= fun appended => finish appended.1 appended.2)
        let left ← rest.exec rt lib source (later binding)
        return { left with outside := left.outside.restore env names } := by
  cases builds with
  | raised e failed exec =>
    refine ⟨[], env.set b, by simp, fun _ _ _ => rfl, fun rest => ?_⟩
    rw [exec, failed]
    rfl
  | completed names after level frame exec value function spent =>
    refine ⟨names, (after.without fragment.value.spends).set b, level, ?_, fun rest => ?_⟩
    · intro binding name absent
      have unspent : name ∉ fragment.value.spends := fun member => absent (spent name member)
      by_cases same : name = b <;> simp [same, Env.without_absent, unspent, frame name absent]
    · have appended := appends.exec after
        (fun name differs => frame name fun member => differs (level name member))
        (fun name member => level name (spent name member))
      rw [exec, Body.exec, appended, value after fun _ _ => rfl]
      cases made with
      | error e => rfl
      | ok pair =>
        obtain ⟨appendFunction, inner⟩ := pair
        cases function (appendFunction, inner) rfl
        change (lift (finish fragment.appendFunction inner) >>= _) >>= _ >>= _ =
          lift (finish fragment.appendFunction inner) >>= _
        cases finish fragment.appendFunction inner <;> rfl

-- Where the block ends with the statement, nothing but the builder is different behind it.
theorem Fragment.Builds.leaves (builds : fragment.Builds rt lib source seq env made)
    (appends : Appends rt lib source fragment seq env b statement finish) :
    (fragment.before (.statement statement .done)).leaves rt lib source env = do
      let binding ← lift (made >>= fun appended => finish appended.1 appended.2)
      return env.set b binding := by
  obtain ⟨names, later, level, frame, exec⟩ := builds.appended appends
  have restored : ∀ binding, (later binding).restore env names = env.set b binding := by
    intro binding
    funext name
    by_cases member : name ∈ names
    · have differs : name ≠ b := fun same => appends.earlier (same ▸ level name member)
      rw [Env.restore_member _ _ _ _ member, Env.set_other _ _ _ _ differs]
    · rw [Env.restore_absent _ _ _ _ member, frame binding name member]
  rw [Body.leaves, exec]
  simp only [Body.exec, bind_assoc, ok_bind, pure_bind, restored]

end Appending

section Appends

variable (fragment : Fragment S O) (seq : Nat) (env : Env S) (b : Use S O)
  (earlier : b.1.seq? ≠ some seq)

include earlier

theorem appendElement_appends (builder : BSONArrayBuilder)
    (held : env b.1 = some (.arrayBuilder builder)) :
    Appends rt lib source fragment seq env b.1 (.appendElement b fragment.value)
      (fun _ inner => (builder.append inner).map .arrayBuilder) where
  earlier := earlier
  exec after off spends := by
    have kept : (after.without fragment.value.spends) b.1 = some (.arrayBuilder builder) := by
      rw [Env.without_absent _ _ _ fun member => earlier (spends _ member), off b.1 earlier, held]
    simp only [Statement.exec, kept, lift_map_bind]

theorem appendField_appends (builder : BSONObj) (held : env b.1 = some (.objBuilder builder))
    (field : Field S O) (name : String)
    (named : ∀ after : Env S, (∀ name : Name S, name.seq? ≠ some seq → after name = env name) →
      field.eval source after = .ok name) :
    Appends rt lib source fragment seq env b.1
      (.appendField b fragment.appendFunction field fragment.value)
      (fun function inner =>
        (BSONObjBuilder.append builder function name inner).map .objBuilder) where
  earlier := earlier
  exec after off spends := by
    have kept : (after.without fragment.value.spends) b.1 = some (.objBuilder builder) := by
      rw [Env.without_absent _ _ _ fun member => earlier (spends _ member), off b.1 earlier, held]
    simp only [Statement.exec, kept, named after off, ok_bind, lift_map_bind]

end Appends

theorem builder_builds {B : Type} (fragment : Fragment S O) (seq : Nat) (env : Env S)
    (constant : Name S) (start : Binding) (data : SplData)
    (named : constant = .values seq ∨ constant = .tupleData seq) (wrap : B → Binding)
    (outcome : Except Raised B)
    (runs : ∀ rest, (fragment.before rest).exec rt lib source env = do
      let b ← lift outcome
      let left ← rest.exec rt lib source
        ((headed env seq constant start data).set (.b seq) (wrap b))
      return { left with outside := left.outside.restore env [.b seq, .cppExpr seq, constant] })
    (result : B → CppValue)
    (valued : ∀ (env : Env S) (b : B), env (.b seq) = some (wrap b) →
      fragment.value.eval rt lib source env = .ok (result b))
    (spent : ∀ name ∈ fragment.value.spends, name = .b seq) :
    fragment.Builds rt lib source seq env
      (do return (fragment.appendFunction, result (← outcome))) := by
  cases outcome with
  | error e => exact .raised e rfl runs
  | ok b =>
    refine .completed _ _ ?_ ?_ runs (fun later same => valued later b ?_) ?_ ?_
    · intro name member
      rcases named with rfl | rfl <;>
        · simp only [List.mem_cons, List.not_mem_nil, or_false] at member
          rcases member with rfl | rfl | rfl <;> rfl
    · intro name absent
      have differs : name ≠ .b seq := fun same => absent (by simp [same])
      rw [Env.set_other _ _ _ _ differs, headed_other _ _ _ _ _ _ absent]
    · rw [same (.b seq) (by simp), Env.set_same]
    · intro appended same
      cases same
      rfl
    · intro name member
      simp [spent name member]

section Rounds

variable {A B : Type} (seq : Nat) (wrap : B → Binding)
  (step : B → A → Except Raised B) (item : A → Binding)

def Round (body : Body S O) : Prop :=
  ∀ (env : Env S) (builder : B) (x : A), env (.b seq) = some (wrap builder) →
    body.leaves rt lib source (env.set (.value seq) (item x)) = do
      let builder ← lift (step builder x)
      return (env.set (.value seq) (item x)).set (.b seq) (wrap builder)

variable {rt lib source seq wrap step item}

theorem rounds_exec {body : Body S O} (round : Round rt lib source seq wrap step item body)
    (xs : List A) (env : Env S) (builder : B)
    (held : env (.b seq) = some (wrap builder)) :
    (xs.map item).foldlM (fun env item => do
      let left ← body.exec rt lib source (env.set (.value seq) item)
      return left.outside.restore env [.value seq]) env = do
    let builder ← lift (xs.foldlM step builder)
    return env.set (.b seq) (wrap builder) := by
  induction xs generalizing env builder with
  | nil => exact congrArg Except.ok (env.set_self _ _ held).symm
  | cons x xs ih =>
    rw [List.map_cons, List.foldlM_cons, List.foldlM_cons, lift_bind]
    have restored (builder : B) :
        ((env.set (.value seq) (item x)).set (.b seq) (wrap builder)).restore env [.value seq] =
          env.set (.b seq) (wrap builder) := by
      funext name
      by_cases same : name = .value seq <;> by_cases own : name = .b seq <;>
        simp [Env.restore, Env.set, same, own]
    have ended : (do
        let left ← body.exec rt lib source (env.set (.value seq) (item x))
        return left.outside.restore env [.value seq] : Except Fault (Env S)) = do
          let builder ← lift (step builder x)
          return env.set (.b seq) (wrap builder) := by
      have round := congrArg (· >>= fun outside => pure (outside.restore env [.value seq]))
        (round env builder x held)
      simpa only [Body.leaves, bind_assoc, pure_bind, restored] using round
    rw [ended]
    cases step builder x with
    | error e => rfl
    | ok builder =>
      have later := ih (env.set (.b seq) (wrap builder)) builder (env.set_same _ _)
      simp only [lift_ok, ok_bind, pure_bind, later, Env.set_set]

theorem loop_builds (env : Env S) (origin : O) (builder : Initializer S O) (initial : B)
    (starts : builder.Starts (wrap initial))
    (cppExpr : Expr S O) (data : SplData) (reads : cppExpr.Reads source env seq data)
    (xs : List A) (listed : items rt data = some (xs.map item))
    (append : Argument S O → Statement S O) (inner : Fragment S O)
    (round : Round rt lib source seq wrap step item
      (inner.before (.statement (append inner.value) .done)))
    (function : AppendFunction) (value : Argument S O) (result : B → CppValue)
    (valued : ∀ (env : Env S) (b : B), env (.b seq) = some (wrap b) →
      value.eval rt lib source env = .ok (result b))
    (spent : ∀ name ∈ value.spends, name = .b seq) :
    Fragment.Builds rt lib source
      ⟨loopProgram origin builder cppExpr seq append inner, function, value⟩ seq env
      (do return (function, result (← xs.foldlM step initial))) := by
  let start := headed env seq (.values seq) (wrap initial) data
  have held : start (.b seq) = some (wrap initial) := headed_builder _ _ _ _ _ (.inl rfl)
  have loop := rounds_exec round xs start initial held
  have runs : ∀ rest, (loopProgram origin builder cppExpr seq append inner rest).exec
      rt lib source env = do
        let b ← lift (xs.foldlM step initial)
        let left ← rest.exec rt lib source (start.set (.b seq) (wrap b))
        return { left with
          outside := left.outside.restore env [.b seq, .cppExpr seq, .values seq] } := by
    intro rest
    have typed : start (.cppExpr seq) = some (.type data.type) :=
      headed_type _ _ _ _ _ (.inl rfl)
    have known : start (.values seq) = some (.data data) := headed_constant _ _ _ _ _
    have each := exec_each rt lib source start (.cppExpr seq, origin) (.values seq, origin)
      (.value seq, origin) (inner.before (.statement (append inner.value) .done)) data _ typed known
      listed
    rw [loopProgram, headerProgram_exec rt lib source env seq (.values seq) (wrap initial) data
      origin builder cppExpr rfl starts reads, Body.exec, each, loop]
    simp only [bind_assoc, pure_bind]
  exact builder_builds rt lib source _ seq env (.values seq) (wrap initial) data (.inl rfl) wrap
    (xs.foldlM step initial) runs result valued spent

end Rounds

section Elements

variable (node : List Nat → O) (t : SplType) (seq : Nat) (path : List Nat) (origin : O)

def Implements (cppExpr : Expr S O) (fragment : Fragment S O) : Prop :=
  ∀ (env : Env S) (value : t.Value), cppExpr.Reads source env seq ⟨t, value⟩ →
    fragment.Builds rt lib source seq env (BSONCommon.buildBSONObject rt t value)

variable {rt lib source t seq}

theorem elementRound (inner : Fragment S O)
    (implements : Implements rt lib source t (seq + 1) (.element (.value seq, origin)) inner) :
    Round rt lib source seq .arrayBuilder
      (fun b value => do
        let (_, inner) ← BSONCommon.buildBSONObject rt t value
        b.append inner)
      (fun x => .data ⟨t, x⟩)
      (inner.before (.statement (.appendElement (.b seq, origin) inner.value) .done)) := by
  intro env builder x held
  have reads : (Expr.element (.value seq, origin)).Reads source
      (env.set (.value seq) (.data ⟨t, x⟩)) (seq + 1) ⟨t, x⟩ := by
    constructor
    · simp [Expr.eval]
    · simp [Expr.uses, Name.Below]
  have earlier : (Name.b seq : Name S).seq? ≠ some (seq + 1) := by
    simp [Name.seq?]
  have appends := appendElement_appends rt lib source inner (seq + 1)
    (env.set (.value seq) (.data ⟨t, x⟩)) (.b seq, origin) earlier builder (by simpa using held)
  rw [(implements _ x reads).leaves appends, lift_bind_map]

theorem entryRound (inner : Fragment S O)
    (implements : Implements rt lib source t (seq + 1) (.second (.value seq, origin)) inner) :
    Round rt lib source seq .objBuilder
      (fun b (value : Σ _ : String, t.Value) => do
        let (appendFunction, inner) ← BSONCommon.buildBSONObject rt t value.2
        BSONObjBuilder.append b appendFunction value.1 inner)
      (fun e => .entry e.1 ⟨t, e.2⟩)
      (inner.before (.statement (.appendField (.b seq, origin) inner.appendFunction
        (.first (.value seq, origin)) inner.value) .done)) := by
  intro env builder e held
  have reads : (Expr.second (.value seq, origin)).Reads source
      (env.set (.value seq) (.entry e.1 ⟨t, e.2⟩)) (seq + 1) ⟨t, e.2⟩ := by
    constructor
    · simp [Expr.eval]
    · simp [Expr.uses, Name.Below]
  have earlier : (Name.b seq : Name S).seq? ≠ some (seq + 1) := by
    simp [Name.seq?]
  have appends := appendField_appends rt lib source inner (seq + 1)
    (env.set (.value seq) (.entry e.1 ⟨t, e.2⟩)) (.b seq, origin) earlier builder
    (by simpa using held) (.first (.value seq, origin)) e.1 fun after off => by
      simp [Field.eval, off (.value seq) (by simp [Name.seq?])]
  rw [(implements _ e.2 reads).leaves appends, lift_bind_map]

theorem attributeBlock_exec (inner : Fragment S O) (i : Nat)
    (implements :
      Implements rt lib source t (seq + 1) (.attribute (.tupleData seq, origin) i) inner)
    (name : FieldName) (env : Env S) (all : Attributes) (whole : all.Value) (value : t.Value)
    (b : BSONObj) (known : env (.tupleData seq) = some (.data ⟨.tuple all, whole⟩))
    (found : all.get? whole i = some ⟨t, value⟩) (held : env (.b seq) = some (.objBuilder b)) :
    (Statement.block (inner.before (.statement (.appendField (.b seq, origin) inner.appendFunction
        (.literal name) inner.value) .done))).exec rt lib source env = do
      let b ← lift (do
        let (appendFunction, inner) ← BSONCommon.buildBSONObject rt t value
        BSONObjBuilder.append b appendFunction name.chars inner)
      return env.set (.b seq) (.objBuilder b) := by
  have reads : (Expr.attribute (.tupleData seq, origin) i).Reads source env (seq + 1)
      ⟨t, value⟩ := by
    constructor
    · simp [Expr.eval, known, found]
    · simp [Expr.uses, Name.Below]
  have appends := appendField_appends rt lib source inner (seq + 1) env (.b seq, origin)
    (by simp [Name.seq?]) b held (.literal name) name.chars fun _ _ => rfl
  rw [exec_block, (implements env value reads).leaves appends, lift_bind_map]

end Elements

section Values

variable (node : List Nat → O)

theorem primitive_implements (p : PrimType) (cppExpr : Expr S O) (seq : Nat) :
    Implements rt lib source (.prim p) seq cppExpr ⟨id, .append, .primitive p cppExpr⟩ := by
  intro env value reads
  refine .completed [] env (by simp) (fun _ _ => rfl) (fun rest => ?_) ?_ ?_
    (by simp [Argument.spends])
  · simp only [id, Env.restore_nil]
    exact (bind_pure _).symm
  · intro later same
    simp only [Argument.eval, reads.kept later same, ok_bind, if_true, BSONCommon.buildBSONObject]
    cases BSONCommon.handlePrimitive rt p value <;> rfl
  · intro appended built
    simp only [BSONCommon.buildBSONObject, Loops.bind_eq_ok, Loops.pure_eq_ok] at built
    obtain ⟨inner, _, rfl⟩ := built
    rfl

mutual

theorem program_implements : (t : SplType) → (cppExpr : Expr S O) → (seq : Nat) →
    (path : List Nat) →
    Implements rt lib source t seq cppExpr (program node t cppExpr seq path)
  | .prim p, cppExpr, seq, path => primitive_implements rt lib source p cppExpr seq
  | .list t, cppExpr, seq, path => by
      intro env value reads
      have inner := program_implements t (.element (.value seq, node path)) (seq + 1) (path ++ [0])
      exact loop_builds env (node path) .arrayBuilder {} .array cppExpr _ reads value rfl _ _
        (elementRound (node path) _ inner) .appendArray (.arr (.b seq, node path))
        (fun b => .bsonArray b.b) (fun env b held => eval_arr source env rt lib _ b held)
        (fun name => List.mem_singleton.mp)
  | .set t, cppExpr, seq, path => by
      intro env value reads
      have inner := program_implements t (.element (.value seq, node path)) (seq + 1) (path ++ [0])
      exact loop_builds env (node path) .arrayBuilder {} .array cppExpr _ reads
        (rt.setOrder t value) rfl _ _
        (elementRound (node path) _ inner) .appendArray (.arr (.b seq, node path))
        (fun b => .bsonArray b.b) (fun env b held => eval_arr source env rt lib _ b held)
        (fun name => List.mem_singleton.mp)
  | .map t, cppExpr, seq, path => by
      intro env value reads
      have inner := program_implements t (.second (.value seq, node path)) (seq + 1) (path ++ [0])
      exact loop_builds env (node path) .objBuilder [] .obj cppExpr _ reads
        (rt.mapOrder t value) rfl _ _
        (entryRound (node path) _ inner) .append (.obj (.b seq, node path))
        (fun b => .bsonObj b) (fun env b held => eval_obj source env rt lib _ b held)
        (fun name => List.mem_singleton.mp)
  | .tuple attrs, cppExpr, seq, path => by
      intro env value reads
      let start := headed env seq (.tupleData seq) (.objBuilder []) ⟨.tuple attrs, value⟩
      have known : start (.tupleData seq) = some (.data ⟨.tuple attrs, value⟩) :=
        headed_constant _ _ _ _ _
      have held : start (.b seq) = some (.objBuilder []) := headed_builder _ _ _ _ _ (.inr rfl)
      refine builder_builds rt lib source _ seq env (.tupleData seq) (.objBuilder [])
        ⟨.tuple attrs, value⟩
        (.inr rfl) .objBuilder (BSONCommon.buildBSONObjectFromTuple rt attrs value []) ?_
        (fun b => .bsonObj b) (fun env b held => eval_obj source env rt lib _ b held)
        (fun name => List.mem_singleton.mp)
      intro rest
      have attributes := tupleProgram_exec attrs seq path 0 attrs value value
        (fun j => by rw [Nat.zero_add]) start [] known held rest
      rw [program, headerProgram_exec rt lib source env seq (.tupleData seq) (.objBuilder []) _
        (node path) .objBuilder cppExpr rfl .obj reads, attributes]
      simp only [bind_assoc]
      rfl

theorem tupleProgram_exec : (attrs : Attributes) → (seq : Nat) → (path : List Nat) → (i : Nat) →
    (all : Attributes) → (whole : all.Value) → (values : attrs.Value) →
    (∀ j, all.get? whole (i + j) = attrs.get? values j) →
    (env : Env S) → (b : BSONObj) → env (.tupleData seq) = some (.data ⟨.tuple all, whole⟩) →
    env (.b seq) = some (.objBuilder b) → (rest : Body S O) →
    (tupleProgram node attrs seq path i rest).exec rt lib source env = do
      let b ← lift (BSONCommon.buildBSONObjectFromTuple rt attrs values b)
      rest.exec rt lib source (env.set (.b seq) (.objBuilder b))
  | .nil, seq, path, i, all, whole, values, tail, env, b, known, held, rest => by
      simp only [tupleProgram, BSONCommon.buildBSONObjectFromTuple, lift_ok, ok_bind,
        env.set_self _ _ held]
  | .cons name t attrs, seq, path, i, all, whole, (value, values), tail, env, b, known, held,
      rest => by
      have inner := program_implements t (.attribute (.tupleData seq, node path) i) (seq + 1)
        (path ++ [i])
      have block := attributeBlock_exec (node path) _ i inner name env all whole value b known
        (tail 0) held
      have later : ∀ j, all.get? whole (i + 1 + j) = attrs.get? values j := fun j => by
        rw [Nat.add_right_comm, Nat.add_assoc, tail (j + 1), Attributes.get?]
      have attributes := fun b : BSONObj => tupleProgram_exec attrs seq path (i + 1) all whole
        values later (env.set (.b seq) (.objBuilder b)) b (by simpa using known)
        (env.set_same _ _) rest
      rw [tupleProgram, Body.exec, block]
      simp only [BSONCommon.buildBSONObjectFromTuple, lift_bind, bind_assoc, pure_bind, attributes,
        Env.set_set]

end

end Values

section Documents

variable (node : List Nat → O)

def argument : BSONCommon.Data → SplData × Option SplType
  | .value t value => (⟨t, value⟩, some t)
  | .json text => (⟨.prim .rstring, text⟩, none)

theorem fromjson_builds (cppExpr : Expr S O) (seq : Nat) (env : Env S) (text : String)
    (reads : cppExpr.Reads source env seq ⟨.prim .rstring, text⟩) :
    Fragment.Builds rt lib source ⟨id, .append, .fromjson cppExpr⟩ seq env
      (BSONCommon.buildBSONObjectFromJson lib text) := by
  refine .completed [] env (by simp) (fun _ _ => rfl) (fun rest => ?_) ?_ ?_
    (by simp [Argument.spends])
  · simp only [id, Env.restore_nil]
    exact (bind_pure _).symm
  · intro later same
    simp only [Argument.eval, reads.kept later same, ok_bind, BSONCommon.buildBSONObjectFromJson]
    cases lib.fromjson text <;> rfl
  · intro appended built
    simp only [BSONCommon.buildBSONObjectFromJson, Loops.bind_eq_ok, Loops.pure_eq_ok] at built
    obtain ⟨obj, _, rfl⟩ := built
    rfl

theorem dataProgram_builds (data : BSONCommon.Data) (cppExpr : Expr S O) (seq : Nat) (env : Env S)
    (reads : cppExpr.Reads source env seq (argument data).1) :
    (dataProgram node (argument data).2 cppExpr seq).Builds rt lib source seq env
      (data.build rt lib) := by
  cases data with
  | value t value => exact program_implements rt lib source node t cppExpr seq [] env value reads
  | json text => exact fromjson_builds rt lib source cppExpr seq env text reads

attribute [local simp] Body.exec Initializer.eval Initializer.spends

theorem exec_reference (value : Argument S O) (origin : O) (env : Env S) (obj : BSONObj)
    (inner : CppValue) (document : inner = .bsonObj obj ∨ inner = .bsonArray obj)
    (known : value.eval rt lib source (env.without [.bsonObj]) = .ok inner) :
    (Body.declare (.bsonObj, origin) (.reference value) .done).exec rt lib source env =
      .ok ⟨(env.without value.spends).set .bsonObj (.bsonObj obj),
        ((env.without value.spends).set .bsonObj (.bsonObj obj)).restore env [.bsonObj]⟩ := by
  rcases document with rfl | rfl <;> simp [known]

theorem exec_reference_raised (value : Argument S O) (origin : O) (env : Env S) (e : Raised)
    (known : value.eval rt lib source (env.without [.bsonObj]) = .error (.raised e)) :
    (Body.declare (.bsonObj, origin) (.reference value) .done).exec rt lib source env =
      .error (.raised e) := by
  simp [known]

def Bound (env : Env S) (obj : BSONObj) (run : Except Fault (Left S)) : Prop :=
  ∃ inside : Env S, run = .ok ⟨inside, env⟩ ∧ inside .bsonObj = some (.bsonObj obj) ∧
    ∀ name : S, inside (.given name) = env (.given name)

def Yields (env : Env S) (built : Except Raised BSONObj) (run : Except Fault (Left S)) : Prop :=
  match built with
  | .error e => run = .error (.raised e)
  | .ok obj => Bound env obj run

theorem bind_bsonObj (env after : Env S) (names : List (Name S)) (value : Argument S O) (origin : O)
    (obj : BSONObj) (inner : CppValue) (document : inner = .bsonObj obj ∨ inner = .bsonArray obj)
    (numbered : ∀ name ∈ names, name.seq?.isSome)
    (frame : ∀ name, name ∉ names → after name = env name)
    (spent : ∀ name ∈ value.spends, name ∈ names)
    (known : value.eval rt lib source (after.without [.bsonObj]) = .ok inner) :
    Bound env obj (do
      let left ← (Body.declare (.bsonObj, origin) (.reference value) .done).exec rt lib source after
      return { left with outside := left.outside.restore env names }) := by
  have run := exec_reference rt lib source value origin after obj inner document known
  have restored := env.unwound .bsonObj (.bsonObj obj) names after value.spends spent frame
  refine ⟨(after.without value.spends).set .bsonObj (.bsonObj obj), ?_, Env.set_same _ _ _,
    fun name => ?_⟩
  · rw [run]
    exact congrArg (fun outside => Except.ok (Left.mk _ outside)) restored
  · have plain : Name.given name ∉ names := fun member => by
      simpa [Name.seq?] using numbered _ member
    have differs : Name.given name ≠ .bsonObj := by simp
    rw [Env.set_other _ _ _ _ differs,
      Env.without_absent _ _ _ fun other => plain (spent _ other), frame _ plain]

theorem build_document (data : BSONCommon.Data)
    (keyed : ∀ t value, data = .value t value → BSONCommon.keyLess t = false)
    (function : AppendFunction) (inner : CppValue)
    (built : data.build rt lib = .ok (function, inner)) : inner = .bsonObj inner.asBSONObj := by
  have document : inner.appended = .object inner.asBSONObj := by
    cases data with
    | value t value =>
      exact BSONCommon.buildBSONObject_document rt t (keyed t value rfl) value function inner built
    | json text =>
      simp only [BSONCommon.Data.build, BSONCommon.buildBSONObjectFromJson, Loops.bind_eq_ok,
        Loops.pure_eq_ok] at built
      obtain ⟨obj, _, same⟩ := built
      cases same
      rfl
  cases inner with
  | bsonObj obj => rfl
  | _ => cases document

end Documents

end Fragments

structure Call (S O : Type) where
  data : BSONCommon.Data
  cppExpr : List (S × O)
  key : Option (String × List (S × O))
  -- The generator stops at a complex type.
  supported : ∀ t value, data = .value t value → t.Supported
  keyed : key = none → ∀ t value, data = .value t value → BSONCommon.keyLess t = false

namespace Call

variable [DecidableEq S] (rt : SplRuntime) (lib : DriverLibrary) (node : List Nat → O)
  (call : Call S O) (env : Env S)

def own (uses : List (S × O)) : Uses S O := uses.map fun u => (.given u.1, u.2)

def attrName : Option (Uses S O) := call.key.map fun key => own key.2

def source : Source := ⟨(argument call.data).1, (call.key.map Prod.fst).getD ""⟩

def text : Body S O :=
  keyProgram node call.attrName (argument call.data).2 (.source (own call.cppExpr))

structure InScope : Prop where
  cppExpr : env.Intact (own call.cppExpr)
  key : ∀ key, call.key = some key → env.Intact (own key.2)

omit [DecidableEq S] in
theorem own_older (uses : List (S × O)) (seq : Nat) : ∀ u ∈ own uses, u.1.Below seq := by
  intro u member
  obtain ⟨name, _, rfl⟩ := List.mem_map.mp member
  trivial

omit [DecidableEq S] in
theorem reads (intact : env.Intact (own call.cppExpr)) (seq : Nat) :
    (Expr.source (own call.cppExpr)).Reads call.source env seq (argument call.data).1 where
  eval := by simp [Expr.eval, intact, source]
  older := own_older call.cppExpr seq

theorem keyless_yields (inScope : call.InScope env) (noKey : call.key = none) :
    Yields env (BSONCommon.buildBSONObjectWithKey rt lib none call.data)
      ((call.text node).exec rt lib call.source env) := by
  have builds := dataProgram_builds rt lib call.source node call.data _ 0 env
    (call.reads env inScope.cppExpr 0)
  have printed : call.text node =
      let inner := dataProgram node (argument call.data).2 (.source (own call.cppExpr)) 0
      inner.before (.declare (.bsonObj, node []) (.reference inner.value) .done) := by
    simp [text, attrName, noKey, keyProgram]
  rw [printed]
  cases builds with
  | raised e failed exec =>
    simp only [BSONCommon.buildBSONObjectWithKey, failed, exec]
    rfl
  | completed names after level frame exec value function spent =>
    have known := value (after.without [.bsonObj]) fun name differs =>
      after.without_absent name _ (by simpa using differs)
    rw [exec, BSONCommon.buildBSONObjectWithKey]
    cases built : call.data.build rt lib with
    | error e =>
      rw [built] at known
      rw [exec_reference_raised rt lib call.source _ (node []) after e known]
      rfl
    | ok appended =>
      obtain ⟨appendFunction, inner⟩ := appended
      have document := build_document rt lib call.data (call.keyed noKey) appendFunction inner built
      rw [built] at known
      exact bind_bsonObj rt lib call.source env after names _ (node []) inner.asBSONObj inner
        (.inl document) (fun name member => by simp [level name member]) frame spent known

theorem keyed_yields (inScope : call.InScope env) (key : String × List (S × O))
    (hasKey : call.key = some key) :
    Yields env (BSONCommon.buildBSONObjectWithKey rt lib (some key.1) call.data)
      ((call.text node).exec rt lib call.source env) := by
  let start := env.set (.b 0) (.objBuilder [])
  have plain : ∀ uses : List (S × O), ∀ u ∈ own uses, start u.1 = env u.1 := by
    intro uses u member
    obtain ⟨name, _, rfl⟩ := List.mem_map.mp member
    exact env.set_other _ _ _ (by simp)
  have builds := dataProgram_builds rt lib call.source node call.data _ 1 start
    (call.reads start ((Env.Intact.congr env start _ (plain _)).trans inScope.cppExpr) 1)
  let inner := dataProgram node (argument call.data).2 (.source (own call.cppExpr)) 1
  have printed : call.text node = .declare (.b 0, node []) .objBuilder (inner.before
      (.statement (.appendField (.b 0, node []) inner.appendFunction (.key (own key.2)) inner.value)
      (.declare (.bsonObj, node []) (.reference (.obj (.b 0, node []))) .done))) := by
    simp [text, attrName, hasKey, keyProgram, inner]
  have named : ∀ after : Env S, (∀ name : Name S, name.seq? ≠ some 1 → after name = start name) →
      (Field.key (own key.2)).eval call.source after = .ok key.1 := by
    intro after off
    have intact : after.Intact (own key.2) := by
      refine (Env.Intact.congr env after _ fun u member => ?_).trans (inScope.key key hasKey)
      have older := own_older key.2 1 u member
      exact (off u.1 older.seq_ne).trans (plain key.2 u member)
    simp [Field.eval, intact, source, hasKey]
  have appends := appendField_appends rt lib call.source inner 1 start (.b 0, node [])
    (by simp [Name.seq?]) [] (env.set_same _ _) (.key (own key.2)) key.1 named
  obtain ⟨names, later, level, frame, exec⟩ := builds.appended appends
  have outcome := lift_bind_map (call.data.build rt lib)
    (fun appended => BSONObjBuilder.append [] appended.1 key.1 appended.2) Binding.objBuilder
    (fun binding => do
      let left ← (Body.declare (.bsonObj, node []) (.reference (.obj (.b 0, node []))) .done).exec
        rt lib call.source (later binding)
      return { left with outside := left.outside.restore start names })
  rw [printed, exec_builder rt lib call.source env _ .objBuilder (.objBuilder []) .obj, exec,
    outcome]
  change Yields env _
    (lift (BSONCommon.buildBSONObjectWithKey rt lib (some key.1) call.data) >>= _ >>= _)
  cases BSONCommon.buildBSONObjectWithKey rt lib (some key.1) call.data with
  | error e => rfl
  | ok obj =>
    have absent : (Name.b 0 : Name S) ∉ names := fun member => by
      simpa [Name.seq?] using level _ member
    have held : (later (.objBuilder obj)).without [.bsonObj] (.b 0) = some (.objBuilder obj) := by
      rw [Env.without_absent _ _ _ (by simp), frame _ _ absent, Env.set_same]
    have bound := bind_bsonObj rt lib call.source env (later (.objBuilder obj)) (.b 0 :: names)
      (.obj (.b 0, node [])) (node []) obj (.bsonObj obj) (.inl rfl) ?_ ?_ ?_
      (eval_obj call.source _ rt lib _ obj held)
    · simp only [lift_ok, ok_bind, bind_assoc, pure_bind, start, Env.restore_set]
      exact bound
    · intro name member
      rcases List.mem_cons.mp member with rfl | later
      · rfl
      · simp [level name later]
    · intro name differs
      obtain ⟨own, others⟩ := not_or.mp (mt List.mem_cons.mpr differs)
      rw [frame _ name others, Env.set_other _ _ _ _ own]
      exact env.set_other _ _ _ own
    · intro name member
      rw [List.mem_singleton.mp member]
      exact List.mem_cons_self

/-- The names around the text stand behind it for what they stood for. -/
theorem text_yields (inScope : call.InScope env) :
    (call.text node).text = buildBSONObjectWithKey node call.attrName (argument call.data).2
        (own call.cppExpr) ∧
      Yields env (BSONCommon.buildBSONObjectWithKey rt lib (call.key.map Prod.fst) call.data)
        ((call.text node).exec rt lib call.source env) := by
  refine
    ⟨keyProgram_text node call.attrName (argument call.data).2 (.source (own call.cppExpr)), ?_⟩
  cases found : call.key with
  | none => exact keyless_yields rt lib node call env inScope found
  | some key => exact keyed_yields rt lib node call env inScope key found

end Call

def wordsCall : Call Unit Unit where
  data := .value (.list (.prim .rstring)) ["x", "y"]
  cppExpr := [((), ())]
  key := some ("words", [])
  supported t value same := by
    cases same
    simp [SplType.Supported]
  keyed := nofun

-- The call stands inside the text of another one.
def nestedEnv : Env Unit := fun name =>
  match name with
  | .given () => some .given
  | .b 0 => some (.objBuilder [(indexName 7, .bool true)])
  | .bsonObj => some (.bsonObj [])
  | _ => none

theorem text_yields_words :
    ∃ inside, (wordsCall.text (fun _ => ())).exec SplRuntime.plain DriverLibrary.plain
        wordsCall.source nestedEnv = .ok ⟨inside, nestedEnv⟩ ∧
      inside .bsonObj = some (.bsonObj [(⟨"words", by decide⟩,
        .array [(indexName 0, .string "x"), (indexName 1, .string "y")])]) ∧
      ∀ name, inside (.given name) = some .given :=
  (wordsCall.text_yields SplRuntime.plain DriverLibrary.plain (fun _ => ()) nestedEnv
    ⟨rfl, by rintro key ⟨⟩; rfl⟩).2

end StreamsMongo.EncoderText
