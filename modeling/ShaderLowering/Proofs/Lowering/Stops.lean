import ShaderLowering.Lowering.Rules

/-!
# Stops of a lowering

Lowering a method by a resolver that answers every question can fail in two ways:
a construct is refused, or a type has no shader counterpart.  The stops of a part
of a method are the places where that can happen, and the positions that are
passed meanwhile, in the order in which they are reached.

A construct that is refused comes before everything inside it.  A type comes after
everything inside the cast, the construction or the declaration that it belongs to,
and the return type after everything else in a method.

## Main definitions

* `Stop`, `Stop.offends`, `Stop.error?` — a place, and what goes wrong there.
* `Expr.stops`, `Stmt.stops`, `Method.stops` — the stops of a part, in order.
* `FirstError` — the error at the first stop of a list that offends.
* `Method.isLowerable` — no refused construct and no type without a counterpart.

## Main statements

* `scan_eq_error_iff` — going through stops fails with the first error.
* `Method.harmless_stops` — nothing offends exactly when the method is lowerable.
-/

namespace ShaderLowering

/-- Whether a type has a shader counterpart. -/
def TypeMap.knows (types : TypeMap) (type : TypeName) : Bool :=
  (types.lookup type.name).isSome

/-- A place that is reached on the way through a method. -/
inductive Stop where
  /-- A member access, whose position is passed. -/
  | position (span : Span)
  /-- A type that has to be mapped. -/
  | type (type : TypeName)
  /-- A construct that is refused. -/
  | construct (construct : Construct) (source : String) (span : Span)

namespace Stop

/-- Whether something goes wrong at a stop. -/
def offends (types : TypeMap) : Stop → Bool
  | position _ => false
  | type t => !types.knows t
  | construct .. => true

/-- The error at a stop, in a method and behind a position.  An error about a
construct without a position of its own carries the one that was passed last. -/
def error? (types : TypeMap) (method : String) (passed : Span) : Stop → Option LoweringError
  | position _ => none
  | type t => if types.knows t then none else some (.unmappedType t.name t.span)
  | construct c source span =>
    some (.unsupported method c source (if span.isKnown then span else passed))

/-- The last known position behind a stop. -/
def past (passed : Span) : Stop → Span
  | position span => if span.isKnown then span else passed
  | type t => if t.span.isKnown then t.span else passed
  | construct .. => passed

end Stop

/-! ## The stops of an expression -/

mutual

/-- The stops of an expression. -/
def Expr.stops : Expr → List Stop
  | .literal (.string text) =>
    [.construct .stringLiteral (Expr.literal (.string text)).source .unknown]
  | .literal .null => [.construct .nullLiteral (Expr.literal .null).source .unknown]
  | .literal _ | .ident _ => []
  | .member target _ span => .position span :: target.stops
  | .call callee args => callee.stops ++ Expr.allStops args
  | .index target position => target.stops ++ position.stops
  | .cast type operand => operand.stops ++ [.type type]
  | .creation type args => Expr.allStops args ++ [.type type]
  | .creationWith type args fields =>
    .construct .objectInitializer (Expr.creationWith type args fields).source type.span
      :: (Expr.fieldStops fields ++ (Expr.allStops args ++ [.type type]))
  | .defaultOf type => [.type type]
  | .unary _ operand => operand.stops
  | .binary _ lhs rhs => lhs.stops ++ rhs.stops
  | .assign _ target value => target.stops ++ value.stops
  | .conditional cond onTrue onFalse => cond.stops ++ (onTrue.stops ++ onFalse.stops)
  | .paren inner => inner.stops
  | .lambda params body =>
    .construct .lambda (Expr.lambda params body).source .unknown :: body.stops
termination_by structural e => e

/-- The stops of several expressions. -/
def Expr.allStops : List Expr → List Stop
  | [] => []
  | e :: es => e.stops ++ Expr.allStops es
termination_by structural es => es

/-- The stops of the fields of an object initialiser. -/
def Expr.fieldStops : List (String × Expr) → List Stop
  | [] => []
  | (_, value) :: fields => value.stops ++ Expr.fieldStops fields
termination_by structural fields => fields

end

/-- The stops of an expression that may be missing. -/
def Expr.optionStops : Option Expr → List Stop
  | none => []
  | some e => e.stops

/-! ## The stops of a statement -/

/-- The stops of a local declaration.  Without a type it is refused as a whole. -/
def Declaration.stops (d : Declaration) : List Stop :=
  let inits := d.declarators.flatMap fun d => Expr.optionStops d.init
  match d.type with
  | none => .construct .implicitLocal (Stmt.declare d).source .unknown :: inits
  | some type => inits ++ [.type type]

mutual

/-- The stops of a statement. -/
def Stmt.stops : Stmt → List Stop
  | .declare declaration => declaration.stops
  | .expr value => value.stops
  | .ret value => Expr.optionStops value
  | .branch cond onTrue onFalse => cond.stops ++ (Stmt.allStops onTrue ++ Stmt.elseStops onFalse)
  | .forLoop init cond step body =>
    Stmt.initStops init
      ++ (Expr.optionStops cond ++ (Expr.allStops step ++ Stmt.allStops body))
  | .whileLoop cond body => cond.stops ++ Stmt.allStops body
  | .foreachLoop type name collection body =>
    .construct .foreachLoop (Stmt.foreachLoop type name collection body).source type.span
      :: (collection.stops ++ Stmt.allStops body)
  | .block body => Stmt.allStops body
  | .breakLoop | .continueLoop => []
termination_by structural s => s

/-- The stops of several statements. -/
def Stmt.allStops : List Stmt → List Stop
  | [] => []
  | s :: rest => s.stops ++ Stmt.allStops rest
termination_by structural b => b

/-- The stops of the block behind `else`, if there is one. -/
def Stmt.elseStops : Option (List Stmt) → List Stop
  | none => []
  | some body => Stmt.allStops body
termination_by structural b => b

/-- The stops of the first part of a `for` header, if there is one. -/
def Stmt.initStops : Option Stmt → List Stop
  | none => []
  | some init => init.stops
termination_by structural init => init

end

/-- The stops of a method: its parameters, its body, its return type.  Attributes
have none. -/
def Method.stops (m : Method) : List Stop :=
  m.parameters.map (fun p => .type p.type) ++ (Stmt.allStops m.body ++ [.type m.returnType])

/-! ## The first error -/

/-- Whether none of several stops offends. -/
def harmless (types : TypeMap) (stops : List Stop) : Bool :=
  stops.all fun s => !s.offends types

/-- An error is the one at the first stop that offends, with the position that was
passed last before it. -/
def FirstError (types : TypeMap) (method : String) (passed : Span) (stops : List Stop)
    (e : LoweringError) : Prop :=
  ∃ before stop after, stops = before ++ stop :: after ∧
    harmless types before = true ∧
    stop.error? types method (before.foldl Stop.past passed) = some e

/-- Going through stops: the position behind the last one, or the error at the first
one that offends. -/
def scan (types : TypeMap) (method : String) (passed : Span) :
    List Stop → Except LoweringError Span
  | [] => .ok passed
  | stop :: rest =>
    match stop.error? types method passed with
    | some e => .error e
    | none => scan types method (stop.past passed) rest

section Scan

variable (types : TypeMap) (method : String)

theorem Stop.error?_eq_none_iff (passed : Span) (stop : Stop) :
    stop.error? types method passed = none ↔ stop.offends types = false := by
  cases stop with
  | position span => simp [error?, offends]
  | type t => simp [error?, offends]
  | construct c source span => simp [error?, offends]

theorem scan_cons_of_error {passed : Span} {stop : Stop} {e : LoweringError}
    (h : stop.error? types method passed = some e) (rest : List Stop) :
    scan types method passed (stop :: rest) = .error e := by
  simp only [scan, h]

theorem scan_cons_of_not_offends {passed : Span} {stop : Stop}
    (h : stop.offends types = false) (rest : List Stop) :
    scan types method passed (stop :: rest) = scan types method (stop.past passed) rest := by
  simp only [scan, (Stop.error?_eq_none_iff types method passed stop).2 h]

/-- Going through two lists of stops is going through the one and then the other. -/
theorem scan_append (passed : Span) (stops more : List Stop) :
    scan types method passed (stops ++ more)
      = (scan types method passed stops).bind fun passed => scan types method passed more := by
  induction stops generalizing passed with
  | nil => rfl
  | cons stop stops ih =>
    rw [List.cons_append]
    cases h : stop.error? types method passed with
    | some e =>
      rw [scan_cons_of_error types method h, scan_cons_of_error types method h]
      rfl
    | none =>
      have harmless := (Stop.error?_eq_none_iff types method passed stop).1 h
      rw [scan_cons_of_not_offends types method harmless,
        scan_cons_of_not_offends types method harmless, ih]

@[simp] theorem harmless_cons (stop : Stop) (stops : List Stop) :
    harmless types (stop :: stops) = (!stop.offends types && harmless types stops) :=
  List.all_cons

/-- Going through stops fails with the first error, and with no other. -/
theorem scan_eq_error_iff {passed : Span} {stops : List Stop} {e : LoweringError} :
    scan types method passed stops = .error e ↔ FirstError types method passed stops e := by
  induction stops generalizing passed with
  | nil => simp [scan, FirstError]
  | cons stop stops ih =>
    constructor
    · intro failed
      cases h : stop.error? types method passed with
      | some e' =>
        rw [scan_cons_of_error types method h] at failed
        cases failed
        exact ⟨[], stop, stops, rfl, rfl, h⟩
      | none =>
        have passes := (Stop.error?_eq_none_iff types method passed stop).1 h
        rw [scan_cons_of_not_offends types method passes, ih] at failed
        obtain ⟨before, first, after, rfl, others, error⟩ := failed
        exact ⟨stop :: before, first, after, rfl, by simp [passes, others], error⟩
    · rintro ⟨before, first, after, split, none_offends, error⟩
      cases before with
      | nil =>
        obtain ⟨rfl, rfl⟩ := List.cons.inj split
        exact scan_cons_of_error types method error _
      | cons s before =>
        obtain ⟨rfl, rfl⟩ := List.cons.inj split
        rw [harmless_cons, Bool.and_eq_true, Bool.not_eq_true'] at none_offends
        rw [scan_cons_of_not_offends types method none_offends.1, ih]
        exact ⟨before, first, after, rfl, none_offends.2, error⟩

/-- Going through stops succeeds exactly when none of them offends. -/
theorem scan_eq_ok_iff (passed : Span) {stops : List Stop} :
    (∃ last, scan types method passed stops = .ok last) ↔ harmless types stops = true := by
  induction stops generalizing passed with
  | nil => simp [scan, harmless]
  | cons stop stops ih =>
    cases h : stop.error? types method passed with
    | some e =>
      have offends : stop.offends types = true := by
        rw [← Bool.not_eq_false, ← Stop.error?_eq_none_iff types method passed, h]
        simp
      simp [scan_cons_of_error types method h, offends]
    | none =>
      have passes := (Stop.error?_eq_none_iff types method passed stop).1 h
      rw [scan_cons_of_not_offends types method passes, ih]
      simp [passes]

end Scan

/-! ## Methods that can be lowered -/

section Lowerable

variable (types : TypeMap)

mutual

/-- Whether an expression has shader counterparts for its types, and no string, no
null, no lambda and no object initialiser. -/
def Expr.isLowerable : Expr → Bool
  | .literal (.string _) | .literal .null => false
  | .literal _ | .ident _ => true
  | .member target _ _ => target.isLowerable
  | .call callee args => callee.isLowerable && Expr.allLowerable args
  | .index target position => target.isLowerable && position.isLowerable
  | .cast type operand => types.knows type && operand.isLowerable
  | .creation type args => types.knows type && Expr.allLowerable args
  | .creationWith .. => false
  | .defaultOf type => types.knows type
  | .unary _ operand => operand.isLowerable
  | .binary _ lhs rhs => lhs.isLowerable && rhs.isLowerable
  | .assign _ target value => target.isLowerable && value.isLowerable
  | .conditional cond onTrue onFalse =>
    cond.isLowerable && (onTrue.isLowerable && onFalse.isLowerable)
  | .paren inner => inner.isLowerable
  | .lambda .. => false
termination_by structural e => e

/-- Whether this holds of several expressions. -/
def Expr.allLowerable : List Expr → Bool
  | [] => true
  | e :: es => e.isLowerable && Expr.allLowerable es
termination_by structural es => es

end

/-- Whether a local declaration has a type with a shader counterpart, and lowerable
initialisers. -/
def Declaration.isLowerable (d : Declaration) : Bool :=
  d.type.any types.knows && d.declarators.all fun d => d.init.all (Expr.isLowerable types)

mutual

/-- Whether a statement has lowerable parts and is no `foreach` loop. -/
def Stmt.isLowerable : Stmt → Bool
  | .declare declaration => declaration.isLowerable types
  | .expr value => value.isLowerable types
  | .ret value => value.all (Expr.isLowerable types)
  | .branch cond onTrue onFalse =>
    cond.isLowerable types && (Stmt.allLowerable onTrue && Stmt.elseIsLowerable onFalse)
  | .forLoop init cond step body =>
    Stmt.initIsLowerable init
      && (cond.all (Expr.isLowerable types)
        && (Expr.allLowerable types step && Stmt.allLowerable body))
  | .whileLoop cond body => cond.isLowerable types && Stmt.allLowerable body
  | .foreachLoop .. => false
  | .block body => Stmt.allLowerable body
  | .breakLoop | .continueLoop => true
termination_by structural s => s

/-- Whether this holds of several statements. -/
def Stmt.allLowerable : List Stmt → Bool
  | [] => true
  | s :: rest => s.isLowerable && Stmt.allLowerable rest
termination_by structural b => b

/-- Whether this holds of the block behind `else`. -/
def Stmt.elseIsLowerable : Option (List Stmt) → Bool
  | none => true
  | some body => Stmt.allLowerable body
termination_by structural b => b

/-- Whether this holds of the first part of a `for` header. -/
def Stmt.initIsLowerable : Option Stmt → Bool
  | none => true
  | some init => init.isLowerable
termination_by structural init => init

end

/-- Whether the types of a method have shader counterparts, those of its parameters
and its return type among them, and nothing in its body is refused. -/
def Method.isLowerable (m : Method) : Bool :=
  m.parameters.all (fun p => types.knows p.type)
    && (Stmt.allLowerable types m.body && types.knows m.returnType)

/-! ### Nothing offends in them -/

theorem harmless_append (stops more : List Stop) :
    harmless types (stops ++ more) = (harmless types stops && harmless types more) :=
  List.all_append

theorem harmless_position (span : Span) (stops : List Stop) :
    harmless types (.position span :: stops) = harmless types stops := rfl

theorem harmless_type (type : TypeName) : harmless types [.type type] = types.knows type := by
  simp [harmless, Stop.offends]

mutual

theorem Expr.harmless_stops : ∀ e : Expr, harmless types e.stops = e.isLowerable types
  | .literal (.string _) | .literal .null => rfl
  | .literal (.bool _) | .literal (.int _) | .literal (.uint _) | .literal (.float _)
  | .literal (.double _) | .ident _ => rfl
  | .member target _ _ => by
    rw [stops, harmless_position, isLowerable, harmless_stops target]
  | .call callee args => by
    rw [stops, harmless_append, isLowerable, harmless_stops callee, harmless_allStops args]
  | .index target position => by
    rw [stops, harmless_append, isLowerable, harmless_stops target, harmless_stops position]
  | .cast type operand => by
    rw [stops, harmless_append, isLowerable, harmless_stops operand, harmless_type, Bool.and_comm]
  | .creation type args => by
    rw [stops, harmless_append, isLowerable, harmless_allStops args, harmless_type, Bool.and_comm]
  | .creationWith .. => rfl
  | .defaultOf type => by rw [stops, harmless_type, isLowerable]
  | .unary _ operand => by rw [stops, isLowerable, harmless_stops operand]
  | .binary _ lhs rhs => by
    rw [stops, harmless_append, isLowerable, harmless_stops lhs, harmless_stops rhs]
  | .assign _ target value => by
    rw [stops, harmless_append, isLowerable, harmless_stops target, harmless_stops value]
  | .conditional cond onTrue onFalse => by
    rw [stops, harmless_append, harmless_append, isLowerable, harmless_stops cond,
      harmless_stops onTrue, harmless_stops onFalse]
  | .paren inner => by rw [stops, isLowerable, harmless_stops inner]
  | .lambda .. => rfl
termination_by structural e => e

theorem Expr.harmless_allStops : ∀ es : List Expr,
    harmless types (Expr.allStops es) = Expr.allLowerable types es
  | [] => rfl
  | e :: es => by
    rw [allStops, harmless_append, allLowerable, harmless_stops e, harmless_allStops es]
termination_by structural es => es

end

theorem Expr.harmless_optionStops (e : Option Expr) :
    harmless types (Expr.optionStops e) = e.all (Expr.isLowerable types) := by
  cases e with
  | none => rfl
  | some e => exact e.harmless_stops types

theorem Declaration.harmless_stops (d : Declaration) :
    harmless types d.stops = d.isLowerable types := by
  have inits (ds : List Declarator) :
      harmless types (ds.flatMap fun d => Expr.optionStops d.init)
        = ds.all fun d => d.init.all (Expr.isLowerable types) := by
    induction ds with
    | nil => rfl
    | cons d ds ih =>
      rw [List.flatMap_cons, harmless_append, Expr.harmless_optionStops, ih, List.all_cons]
  obtain ⟨type, ds⟩ := d
  cases type with
  | none => rfl
  | some type =>
    rw [stops, harmless_append, inits, harmless_type, isLowerable, Option.any_some, Bool.and_comm]

mutual

theorem Stmt.harmless_stops : ∀ s : Stmt, harmless types s.stops = s.isLowerable types
  | .declare d => d.harmless_stops types
  | .expr value => value.harmless_stops types
  | .ret value => Expr.harmless_optionStops types value
  | .branch cond onTrue onFalse => by
    rw [stops, harmless_append, harmless_append, isLowerable, Expr.harmless_stops types cond,
      harmless_allStops onTrue, harmless_elseStops onFalse]
  | .forLoop init cond step body => by
    rw [stops, harmless_append, harmless_append, harmless_append, isLowerable,
      harmless_initStops init, Expr.harmless_optionStops types cond,
      Expr.harmless_allStops types step, harmless_allStops body]
  | .whileLoop cond body => by
    rw [stops, harmless_append, isLowerable, Expr.harmless_stops types cond, harmless_allStops body]
  | .foreachLoop .. => rfl
  | .block body => by rw [stops, isLowerable, harmless_allStops body]
  | .breakLoop | .continueLoop => rfl
termination_by structural s => s

theorem Stmt.harmless_allStops : ∀ b : List Stmt,
    harmless types (Stmt.allStops b) = Stmt.allLowerable types b
  | [] => rfl
  | s :: rest => by
    rw [allStops, harmless_append, allLowerable, harmless_stops s, harmless_allStops rest]
termination_by structural b => b

theorem Stmt.harmless_elseStops : ∀ b : Option (List Stmt),
    harmless types (Stmt.elseStops b) = Stmt.elseIsLowerable types b
  | none => rfl
  | some body => harmless_allStops body
termination_by structural b => b

theorem Stmt.harmless_initStops : ∀ init : Option Stmt,
    harmless types (Stmt.initStops init) = Stmt.initIsLowerable types init
  | none => rfl
  | some init => harmless_stops init
termination_by structural init => init

end

/-- No stop of a method offends exactly when the method is lowerable. -/
theorem Method.harmless_stops (m : Method) : harmless types m.stops = m.isLowerable types := by
  have parameters : harmless types (m.parameters.map fun p => .type p.type)
      = m.parameters.all fun p => types.knows p.type := by
    simp [harmless, Stop.offends, Function.comp_def]
  rw [stops, harmless_append, harmless_append, parameters, Stmt.harmless_allStops, harmless_type,
    isLowerable]

end Lowerable

end ShaderLowering
