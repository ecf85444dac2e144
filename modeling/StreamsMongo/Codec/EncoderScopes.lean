import StreamsMongo.Codec.EncoderText

set_option autoImplicit false

namespace StreamsMongo.EncoderText

open Scopes

variable {S O : Type}

-- A name of the source, or one of a level before `seq`.
def Name.Below (seq : Nat) : Name S → Prop
  | .b level | .cppExpr level | .values level | .value level | .tupleData level => level < seq
  | .bsonObj => False
  | .given _ => True

def AtLevel (seq : Nat) (added : Block (Name S) O) : Prop := ∀ d ∈ added, d.1.seq? = some seq

theorem Name.Below.mono {seq later : Nat} {name : Name S} (below : name.Below seq)
    (order : seq ≤ later) : name.Below later := by
  cases name with
  | b level | cppExpr level | values level | value level | tupleData level =>
    exact Nat.lt_of_lt_of_le below order
  | bsonObj => exact below
  | given name => trivial

theorem Name.Below.seq_ne {seq : Nat} {name : Name S} (below : name.Below seq) :
    name.seq? ≠ some seq := by
  cases name with
  | b level | cppExpr level | values level | value level | tupleData level =>
    intro same
    cases same
    exact Nat.lt_irrefl _ below
  | bsonObj => exact below.elim
  | given name =>
    intro same
    cases same

theorem not_declared (block : Block (Name S) O) (name : Name S) (seq : Nat)
    (below : ∀ d ∈ block, d.1.Below seq) (numbered : name.seq? = some seq) :
    name ∉ block.map Prod.fst := by
  intro member
  obtain ⟨d, declared, rfl⟩ := List.mem_map.mp member
  exact (below d declared).seq_ne numbered

theorem AtLevel.absent {seq : Nat} {added : Block (Name S) O} (level : AtLevel seq added)
    (name : Name S) (differs : name.seq? ≠ some seq) : name ∉ added.map Prod.fst := by
  intro member
  obtain ⟨d, declared, rfl⟩ := List.mem_map.mp member
  exact differs (level d declared)

section Undeclared

variable (name : S) (node : List Nat → O)

theorem header_undeclared (origin : O) (cppExpr : Uses S O) (seq : Nat) (constant : Name S)
    (generated : Name.given name ≠ constant) :
    ¬ Declares (.given name) (header origin cppExpr seq constant) := by
  simp [header, generated]

theorem foreach_undeclared (origin : O) (seq : Nat) (made : Text S O) (uses : Uses S O)
    (undeclared : ¬ Declares (.given name) made) :
    ¬ Declares (.given name) (foreach origin seq (made ++ mention uses)) := by
  simp [foreach, undeclared]

mutual

theorem buildBSONObject_undeclared : (t : SplType) → (cppExpr : Uses S O) → (seq : Nat) →
    (path : List Nat) →
    ¬ Declares (.given name) (buildBSONObject node t cppExpr seq path).1
  | .prim _, _, _, _ => declares_nil _
  | .list t, cppExpr, seq, path | .set t, cppExpr, seq, path
  | .map t, cppExpr, seq, path => by
      have first := header_undeclared name (node path) cppExpr seq (.values seq) (by simp)
      have element := buildBSONObject_undeclared t [(.value seq, node path)] (seq + 1)
        (path ++ [0])
      rw [buildBSONObject]
      refine fun declared => ((declares_append _ _ _).mp declared).elim first ?_
      exact foreach_undeclared name (node path) seq _ _ element
  | .tuple attrs, cppExpr, seq, path => by
      have first := header_undeclared name (node path) cppExpr seq (.tupleData seq) (by simp)
      rw [buildBSONObject]
      refine fun declared => ((declares_append _ _ _).mp declared).elim first ?_
      exact buildBSONObjectFromTuple_undeclared attrs seq path 0

theorem buildBSONObjectFromTuple_undeclared : (attrs : Attributes) → (seq : Nat) →
    (path : List Nat) → (i : Nat) →
    ¬ Declares (.given name) (buildBSONObjectFromTuple node attrs seq path i)
  | .nil, _, _, _ => declares_nil _
  | .cons _ t rest, seq, path, i => by
      have inner := buildBSONObject_undeclared t [(.tupleData seq, node path)] (seq + 1)
        (path ++ [i])
      have others := buildBSONObjectFromTuple_undeclared rest seq path (i + 1)
      rw [buildBSONObjectFromTuple]
      simp [inner, others]

end

theorem buildBSONObjectWithKey_undeclared (attrName : Option (Uses S O))
    (splType : Option SplType) (cppExpr : Uses S O) :
    ¬ Declares (.given name) (buildBSONObjectWithKey node attrName splType cppExpr) := by
  have data (seq : Nat) : ¬ Declares (.given name) (buildData node splType cppExpr seq).1 := by
    cases splType with
    | some t => exact buildBSONObject_undeclared name node t cppExpr seq []
    | none => exact declares_nil _
  cases attrName with
  | none => simp [buildBSONObjectWithKey, data]
  | some attrName => simp [buildBSONObjectWithKey, data]

end Undeclared

section Names

variable (seq : Nat) (origin : O)

def headerNames (constant : Name S) : Block (Name S) O :=
  [(constant, origin), (.cppExpr seq, origin), (.b seq, origin)]

theorem headerNames_level (constant : Name S) (numbered : constant.seq? = some seq) :
    AtLevel seq (headerNames seq origin constant) := by
  intro d member
  rcases List.mem_cons.mp member with rfl | member
  · exact numbered
  · rcases List.mem_pair.mp member with rfl | rfl <;> rfl

theorem builder_level : AtLevel seq [((.b seq : Name S), origin)] := by
  intro d member
  rw [List.mem_singleton.mp member]
  rfl

end Names

theorem mem_handlePrimitive (value : Uses S O) (p : PrimType) (u : Name S × O)
    (member : u ∈ handlePrimitive value p) : u ∈ value := by
  cases p with
  | complex32 | complex64 => cases member
  | blob | timestamp => exact (List.mem_append.mp member).elim id id
  | decimal d => exact member
  | enum first rest => exact member
  | int i => exact member
  | ustring | xml | boolean | float32 | float64 | rstring => exact member

variable [DecidableEq S] [DecidableEq O]

/-- The text adds names of its own level only, and the expression handed back resolves behind it. -/
def Builds (block : Block (Name S) O) (enclosing : List (Block (Name S) O)) (seq : Nat)
    (made : Text S O × Uses S O) : Prop :=
  ∃ added, check (block :: enclosing) made.1 = some ((added ++ block) :: enclosing) ∧
    AtLevel seq added ∧ (∀ u ∈ made.2, u.1.Below (seq + 1)) ∧
    Resolved ((added ++ block) :: enclosing) made.2

section Fragments

variable (block : Block (Name S) O) (enclosing : List (Block (Name S) O)) (seq : Nat) (origin : O)

theorem header_scoped (cppExpr : Uses S O) (constant : Name S)
    (numbered : constant.seq? = some seq) (notBuilder : constant ≠ .b seq)
    (notType : constant ≠ .cppExpr seq) (below : ∀ d ∈ block, d.1.Below seq)
    (older : ∀ u ∈ cppExpr, u.1.Below seq) (resolved : Resolved (block :: enclosing) cppExpr) :
    check (block :: enclosing) (header origin cppExpr seq constant) =
      some ((headerNames seq origin constant ++ block) :: enclosing) := by
  have fresh : ∀ name : Name S, name.seq? = some seq → name ∉ block.map Prod.fst :=
    fun name => not_declared block name seq below
  have past : ∀ added : Block (Name S) O, AtLevel seq added →
      Resolved ((added ++ block) :: enclosing) cppExpr := fun added level =>
    resolved.past enclosing added block cppExpr fun u member =>
      level.absent u.1 (older u member).seq_ne
  have typed : Resolved (((.cppExpr seq, origin) :: (.b seq, origin) :: block) :: enclosing)
      [((.cppExpr seq : Name S), origin)] := by
    simp
  have afterBuilder : Resolved (((.b seq, origin) :: block) :: enclosing) cppExpr :=
    past _ (builder_level seq origin)
  rw [header, List.singleton_append, check_declare enclosing block (.b seq) origin _ (fresh _ rfl),
    check_mention_append _ _ _ afterBuilder, List.singleton_append,
    check_declare enclosing _ (.cppExpr seq) origin _ (by simpa using fresh (.cppExpr seq) rfl),
    check_mention_append _ _ _ typed, List.singleton_append,
    check_declare enclosing _ constant origin _
      (by simpa [notBuilder, notType] using fresh constant numbered)]
  exact check_mention _ _ (past _ (headerNames_level seq origin constant numbered))

theorem append_scoped (made : Text S O × Uses S O) (outer : Uses S O)
    (builds : Builds block enclosing seq made) (older : ∀ u ∈ outer, u.1.Below seq)
    (resolved : Resolved (block :: enclosing) outer) :
    ∃ added, check (block :: enclosing) (made.1 ++ mention (outer ++ made.2)) =
      some ((added ++ block) :: enclosing) ∧ AtLevel seq added := by
  obtain ⟨added, runs, level, _, handed⟩ := builds
  refine ⟨added, ?_, level⟩
  have past := resolved.past enclosing added block outer fun u member =>
    level.absent u.1 (older u member).seq_ne
  rw [check_append_eq _ _ _ _ runs]
  exact check_mention _ _ ((resolved_append _ _ _).mpr ⟨past, handed⟩)

theorem foreach_scoped (blocks : List (Block (Name S) O)) (body : Text S O)
    (loops : Resolved blocks [(.cppExpr seq, origin), (.values seq, origin)])
    (final : Block (Name S) O)
    (runs : check ([(.value seq, origin)] :: blocks) body = some (final :: blocks)) :
    check blocks (foreach origin seq body) = some blocks := by
  have declares : check ([] :: blocks) ([.declare (.value seq) origin] ++ body) =
      some (final :: blocks) := by
    rw [List.singleton_append, check_declare blocks [] (.value seq) origin body (by simp)]
    exact runs
  rw [foreach, check_mention_append _ _ _ loops]
  exact check_block blocks final _ declares

end Fragments

section Loop

variable (block : Block (Name S) O) (enclosing : List (Block (Name S) O)) (seq : Nat) (origin : O)
  (cppExpr : Uses S O) (below : ∀ d ∈ block, d.1.Below seq)
  (older : ∀ u ∈ cppExpr, u.1.Below seq) (resolved : Resolved (block :: enclosing) cppExpr)

include below older resolved

theorem loop_scoped (made : Text S O × Uses S O) (outer : Uses S O)
    (names : ∀ u ∈ outer, u = (.b seq, origin) ∨ u = (.value seq, origin))
    (builds : ∀ blocks : List (Block (Name S) O),
      Builds [(.value seq, origin)] blocks (seq + 1) made) :
    Builds block enclosing seq (header origin cppExpr seq (.values seq) ++
      foreach origin seq (made.1 ++ mention (outer ++ made.2)), [(.b seq, origin)]) := by
  have start := header_scoped block enclosing seq origin cppExpr (.values seq) rfl (by simp)
    (by simp) below older resolved
  refine ⟨headerNames seq origin (.values seq), ?_, headerNames_level seq origin _ rfl, ?_, ?_⟩
  · obtain ⟨added, body, _⟩ := append_scoped [(.value seq, origin)]
      ((headerNames seq origin (.values seq) ++ block) :: enclosing) (seq + 1) made outer
      (builds _) (by
        intro u member
        rcases names u member with rfl | rfl
        · exact Nat.lt_succ_self seq
        · exact Nat.lt_succ_self seq) (by
        intro u member
        rcases names u member with rfl | rfl <;> simp [headerNames])
    rw [check_append_eq _ _ _ _ start]
    exact foreach_scoped seq origin _ _ (by simp [headerNames]) _ body
  · intro u member
    rw [List.mem_singleton.mp member]
    exact Nat.lt_succ_self seq
  · simp [headerNames]

end Loop

mutual

theorem buildBSONObject_scoped (node : List Nat → O) : (t : SplType) → (cppExpr : Uses S O) →
    (seq : Nat) → (path : List Nat) → (block : Block (Name S) O) →
    (enclosing : List (Block (Name S) O)) → (∀ d ∈ block, d.1.Below seq) →
    (∀ u ∈ cppExpr, u.1.Below seq) → Resolved (block :: enclosing) cppExpr →
    Builds block enclosing seq (buildBSONObject node t cppExpr seq path)
  | .prim p, cppExpr, seq, path, block, enclosing, _, older, resolved => by
      refine ⟨[], rfl, ?_, ?_, ?_⟩
      · intro d member
        cases member
      · intro u member
        exact (older u (mem_handlePrimitive cppExpr p u member)).mono (Nat.le_succ seq)
      · intro u member
        exact resolved u (mem_handlePrimitive cppExpr p u member)
  | .list t, cppExpr, seq, path, block, enclosing, below, older, resolved
  | .set t, cppExpr, seq, path, block, enclosing, below, older, resolved => by
      have element := fun blocks => buildBSONObject_scoped node t [(.value seq, node path)]
        (seq + 1) (path ++ [0]) [(.value seq, node path)] blocks (by simp [Name.Below])
        (by simp [Name.Below]) (by simp)
      exact loop_scoped block enclosing seq (node path) cppExpr below older resolved _
        [(.b seq, node path)] (by simp) element
  | .map t, cppExpr, seq, path, block, enclosing, below, older, resolved => by
      have element := fun blocks => buildBSONObject_scoped node t [(.value seq, node path)]
        (seq + 1) (path ++ [0]) [(.value seq, node path)] blocks (by simp [Name.Below])
        (by simp [Name.Below]) (by simp)
      exact loop_scoped block enclosing seq (node path) cppExpr below older resolved _
        [(.b seq, node path), (.value seq, node path)] (by simp) element
  | .tuple attrs, cppExpr, seq, path, block, enclosing, below, older, resolved => by
      have start := header_scoped block enclosing seq (node path) cppExpr (.tupleData seq) rfl
        (by simp) (by simp) below older resolved
      have attributes := buildBSONObjectFromTuple_scoped node attrs seq path 0
        ((headerNames seq (node path) (.tupleData seq) ++ block) :: enclosing)
        (by simp [headerNames])
      refine ⟨_, ?_, headerNames_level seq (node path) (.tupleData seq) rfl, ?_, ?_⟩
      · exact (check_append_eq _ _ _ _ start).trans attributes
      · simp [buildBSONObject, Name.Below]
      · simp [buildBSONObject, headerNames]

theorem buildBSONObjectFromTuple_scoped (node : List Nat → O) : (attrs : Attributes) →
    (seq : Nat) → (path : List Nat) → (i : Nat) → (blocks : List (Block (Name S) O)) →
    Resolved blocks [(.tupleData seq, node path), (.b seq, node path)] →
    check blocks (buildBSONObjectFromTuple node attrs seq path i) = some blocks
  | .nil, _, _, _, _, _ => rfl
  | .cons name t rest, seq, path, i, blocks, resolved => by
      have data : Resolved ([] :: blocks) [((.tupleData seq : Name S), node path)] :=
        fun u member => resolved u (by simp_all)
      have builder : Resolved ([] :: blocks) [((.b seq : Name S), node path)] :=
        fun u member => resolved u (by simp_all)
      have builds := buildBSONObject_scoped node t [(.tupleData seq, node path)] (seq + 1)
        (path ++ [i]) [] blocks (by simp) (by simp [Name.Below]) data
      obtain ⟨added, runs, _⟩ := append_scoped [] blocks (seq + 1) _ [(.b seq, node path)] builds
        (by simp [Name.Below]) builder
      exact (check_block_append blocks (added ++ []) _ _ runs).trans
        (buildBSONObjectFromTuple_scoped node rest seq path (i + 1) blocks resolved)

end

section WithKey

variable (node : List Nat → O) (splType : Option SplType) (cppExpr : Uses S O)
  (block : Block (Name S) O) (enclosing : List (Block (Name S) O))

theorem buildData_scoped (seq : Nat) (below : ∀ d ∈ block, d.1.Below seq)
    (older : ∀ u ∈ cppExpr, u.1.Below seq) (resolved : Resolved (block :: enclosing) cppExpr) :
    Builds block enclosing seq (buildData node splType cppExpr seq) := by
  cases splType with
  | some t =>
    exact buildBSONObject_scoped node t cppExpr seq [] block enclosing below older resolved
  | none =>
    refine ⟨[], rfl, ?_, ?_, resolved⟩
    · intro d member
      cases member
    · intro u member
      exact (older u member).mono (Nat.le_succ seq)

omit [DecidableEq S] [DecidableEq O] in
theorem bsonObj_absent (seq later : Nat) (added : Block (Name S) O) (level : AtLevel seq added)
    (below : ∀ d ∈ block, d.1.Below later) : .bsonObj ∉ (added ++ block).map Prod.fst := by
  rw [List.map_append, List.mem_append]
  intro named
  rcases named with member | member
  · exact level.absent .bsonObj (by simp [Name.seq?]) member
  · obtain ⟨d, declared, same⟩ := List.mem_map.mp member
    have here := below d declared
    rw [same] at here
    exact here

theorem unkeyed_scoped (empty : ∀ d ∈ block, d.1.Below 0) (older : ∀ u ∈ cppExpr, u.1.Below 0)
    (resolved : Resolved (block :: enclosing) cppExpr) :
    ∃ added, check (block :: enclosing) (buildBSONObjectWithKey node none splType cppExpr) =
        some (((.bsonObj, node []) :: (added ++ block)) :: enclosing) ∧
      ∀ d ∈ added, d.1.seq?.isSome = true := by
  obtain ⟨added, runs, level, handedOlder, handed⟩ := buildData_scoped node splType cppExpr block
    enclosing 0 empty older resolved
  refine ⟨added, ?_, fun d member => by rw [level d member]; rfl⟩
  have after : Resolved (((.bsonObj, node []) :: (added ++ block)) :: enclosing)
      (buildData node splType cppExpr 0).2 := by
    refine handed.past enclosing [(.bsonObj, node [])] (added ++ block) _ ?_
    intro u member same
    have below := handedOlder u member
    rw [List.mem_singleton.mp same] at below
    exact below
  rw [buildBSONObjectWithKey, check_append_eq _ _ _ _ runs, List.singleton_append,
    check_declare enclosing _ .bsonObj (node []) _ (bsonObj_absent block 0 0 added level empty)]
  exact check_mention _ _ after

omit [DecidableEq S] [DecidableEq O] in
theorem below_root (origin : O) (names : List (Name S × O)) (below : ∀ u ∈ names, u.1.Below 0) :
    ∀ u ∈ (.b 0, origin) :: names, u.1.Below 1 := by
  intro u member
  rcases List.mem_cons.mp member with rfl | member
  · exact Nat.zero_lt_one
  · exact (below u member).mono (Nat.zero_le 1)

theorem keyed_builds (attrName : Uses S O) (empty : ∀ d ∈ block, d.1.Below 0)
    (sources : ∀ u ∈ attrName ++ cppExpr, u.1.Below 0)
    (resolved : Resolved (block :: enclosing) (attrName ++ cppExpr)) :
    ∃ added, check (((.b 0, node []) :: block) :: enclosing)
        ((buildData node splType cppExpr 1).1 ++
          mention ((.b 0, node []) :: attrName ++ (buildData node splType cppExpr 1).2)) =
      some ((added ++ (.b 0, node []) :: block) :: enclosing) ∧ AtLevel 1 added := by
  have root : Resolved (((.b 0, node []) :: block) :: enclosing) (attrName ++ cppExpr) :=
    resolved.past enclosing [(.b 0, node [])] block _ fun u member =>
      (builder_level 0 (node [])).absent u.1 (sources u member).seq_ne
  have split := (resolved_append _ _ _).mp root
  have builds := buildData_scoped node splType cppExpr ((.b 0, node []) :: block) enclosing 1
    (below_root (node []) block empty)
    (fun u member => (sources u (by simp [member])).mono (Nat.zero_le 1)) split.2
  exact append_scoped _ enclosing 1 _ ((.b 0, node []) :: attrName) builds
    (below_root (node []) attrName fun u member => sources u (by simp [member]))
    ((resolved_cons _ _ _ _).mpr ⟨by simp, split.1⟩)

theorem keyed_scoped (attrName : Uses S O) (empty : ∀ d ∈ block, d.1.Below 0)
    (sources : ∀ u ∈ attrName ++ cppExpr, u.1.Below 0)
    (resolved : Resolved (block :: enclosing) (attrName ++ cppExpr)) :
    ∃ added,
      check (block :: enclosing) (buildBSONObjectWithKey node (some attrName) splType cppExpr) =
        some (((.bsonObj, node []) :: (added ++ block)) :: enclosing) ∧
      ∀ d ∈ added, d.1.seq?.isSome = true := by
  obtain ⟨added, runs, level⟩ := keyed_builds node splType cppExpr block enclosing attrName empty
    sources resolved
  have below := below_root (node []) block empty
  have builder : Resolved (((.bsonObj, node []) :: (added ++ (.b 0, node []) :: block)) ::
      enclosing) [((.b 0 : Name S), node [])] := by
    have outside := level.absent (.b 0) (by simp [Name.seq?])
    simp [resolve_added enclosing added _ (.b 0) outside]
  refine ⟨added ++ [(.b 0, node [])], ?_, ?_⟩
  · rw [buildBSONObjectWithKey, List.singleton_append,
      check_declare enclosing block (.b 0) (node []) _ (not_declared block _ 0 empty rfl),
      check_append_eq _ _ _ _ runs, List.singleton_append,
      check_declare enclosing _ .bsonObj (node []) _ (bsonObj_absent _ 1 1 added level below),
      List.append_assoc]
    exact check_mention _ _ builder
  · intro d member
    rcases List.mem_append.mp member with inner | root
    · rw [level d inner]
      rfl
    · rw [List.mem_singleton.mp root]
      rfl

theorem buildBSONObjectWithKey_scoped (attrName : Option (Uses S O))
    (empty : ∀ d ∈ block, d.1.Below 0)
    (sources : ∀ u ∈ attrName.getD [] ++ cppExpr, u.1.Below 0)
    (resolved : Resolved (block :: enclosing) (attrName.getD [] ++ cppExpr)) :
    ∃ added, check (block :: enclosing) (buildBSONObjectWithKey node attrName splType cppExpr) =
        some (((.bsonObj, node []) :: (added ++ block)) :: enclosing) ∧
      ∀ d ∈ added, d.1.seq?.isSome = true := by
  cases attrName with
  | none => exact unkeyed_scoped node splType cppExpr block enclosing empty sources resolved
  | some attrName =>
    exact keyed_scoped node splType cppExpr block enclosing attrName empty sources resolved

end WithKey

end StreamsMongo.EncoderText
