import TemplateCompiler.Render.Member

/-!
Running generated code. Expressions are evaluated from left to right, given a way to call functions.
Reading an attribute of the component is noted, whether it succeeds or not, and so are all calls of
functions and primitives, and all evaluations of handlers.
-/

namespace TemplateCompiler.Render

open TemplateCompiler.Code TemplateCompiler.Generate TemplateCompiler.Load TemplateCompiler.Text
open TemplateCompiler.Scope (builtinNames)

inductive Fault where
  | attribute
  | type
  | index
  | key
  | name
  | imports (fault : ImportFault)
  /-- The code is outside what can be run, or calls nest too deep. -/
  | unsupported
  deriving DecidableEq, Repr

/-- A call of a function of the program or of a primitive of the engine. -/
inductive Call where
  | function (name : String) (args : List Value)
  | primitive (p : Primitive) (args : List Value)

/-- An evaluation of a handler: the calls that were made for it, and how it ended. -/
structure Visit where
  code : Expr
  calls : List Call
  result : Except Fault Value

structure World where
  library : Library
  registry : Registry
  /-- The noted attribute reads. -/
  reads : List String
  /-- The noted calls. -/
  calls : List Call
  /-- The noted evaluations of handlers. -/
  visits : List Visit
  context : Table Value

abbrev RunM := ExceptT Fault (StateM World)

abbrev CallFn := Value → List Value → List (String × Value) → RunM Value

/-- Whether an expression binds a handler, or keeps one in the context. -/
def isSite : Expr → Bool
  | .call (.own id) [_] [] => id == Primitive.bind.localName
  | .logical .or [.own _, .call (.member (.own mapping) _) [_, .call (.own id) [_] []] []] =>
    mapping == contextName && id == Primitive.bind.localName
  | _ => false

/-- Runs the evaluation of an expression, and notes it if it is about a handler. What is noted inside comes
first. -/
def visit (e : Expr) (run : RunM Value) : RunM Value :=
  if isSite e then do
    let before ← get
    let result ← ExceptT.lift run.run
    modify fun w => { w with visits := w.visits ++ [⟨e, w.calls.drop before.calls.length, result⟩] }
    liftM result
  else run

def constantValue : Constant → Except Fault Value
  | .none => return .none
  | .bool b => return .bool b
  | .int n => return .int n .constant
  | .float magnitude => return .float false magnitude .constant
  | .text codes _ => return .text codes.toString .constant
  | _ => throw .unsupported

mutual

/-- Whether an expression is built from constants alone, so that its value is a constant too. -/
def isFixed : Expr → Bool
  | .constant _ => true
  | .tuple items => areFixed items
  | .unary _ operand => isFixed operand
  | .binary _ left right => isFixed left && isFixed right
  | _ => false

def areFixed : List Expr → Bool
  | [] => true
  | e :: es => isFixed e && areFixed es

end

def madeBy (e : Expr) : Identity := if isFixed e then .constant else .fresh

/-- What the module of a template defines itself: its name, and what else a module has, here missing. -/
def moduleValues : List (String × Value) :=
  [("__name__", .text "rendergen_template" .constant), ("__doc__", .none), ("__package__", .none),
    ("__loader__", .none), ("__spec__", .none)]

/-- Names that are defined without being bound. -/
def globalValue? (id : String) : Option Value :=
  moduleValues.lookup id <|>
    if id = "len" then some .length
    else if id = "__debug__" then some (.bool true)
    else if builtinNames.contains id then some (.builtin id)
    else none

def nameValue (frames : List Frame) (id : String) : Except Fault Value :=
  match lookup id frames <|> globalValue? id with
  | some v => return v
  | none => throw .name

/-- What a value carries, whatever its contents. -/
def carried (v : Value) (attr : String) : Except Fault Value :=
  match v.member? attr with
  | some found => return found
  | none => throw .attribute

def numberPart (v : Value) (attr : String) : Except Fault Value :=
  match v, attr with
  | .float .., "real" => return v
  | .float .., "imag" => return .float false (.finite 0 0) .fresh
  | .int .., "real" | .int .., "numerator" => return v
  | _, _ =>
    match v.number?.bind (wholePart? · attr) with
    | some part => return .int part .fresh
    | none => carried v attr

def attributeOf (base : Value) (attr : String) : Except Fault Value :=
  match base with
  | .object names values _ =>
    match (List.zip names values).lookup attr with
    | some v => return v
    | none => if attr = "__dict__" then return .dict names values else carried base attr
  | .builtin name =>
    if attr = "__name__" then return .text name .constant else carried base attr
  | .engine =>
    match Primitive.all.find? (·.member = attr) with
    | some p => return .primitive p
    | none => throw .attribute
  | .context =>
    match attr with
    | "get" => return .contextGet
    | "setdefault" => return .contextSetDefault
    | _ => throw .attribute
  | .dict keys values => if attr = "get" then return .getter keys values else carried base attr
  | v => numberPart v attr

def fieldOf (names : List String) (values : List Value) (attr : String) : Except Fault Value :=
  match (List.zip names values).lookup attr with
  | some v => return v
  | none => throw .attribute

def noteRead (attr : String) : RunM Unit := modify fun w => { w with reads := w.reads ++ [attr] }

def memberValue (base : Value) (attr : String) : RunM Value := do
  match base with
  | .component names values =>
    noteRead attr
    fieldOf names values attr
  | base => attributeOf base attr

def itemAt (items : List Value) (place : Int) : Except Fault Value :=
  let place := if place < 0 then place + items.length else place
  if place < 0 then throw .index
  else match items[place.toNat]? with
    | some v => return v
    | none => throw .index

/-- An item of a value that is not the table of modules. -/
def entryOf (base index : Value) : Except Fault Value :=
  match base, index with
  | .list items _, index | .tuple items _, index =>
    match index.number? with
    | some n => itemAt items n
    | none => throw .type
  | .text s _, index =>
    match index.number? with
    | some n => itemAt (Value.charsOf s) n
    | none => throw .type
  | .dict keys values, .text key _ =>
    match (List.zip keys values).lookup key with
    | some v => return v
    | none => throw .key
  | .dict .., index => throw (if index.isHashed then .key else .type)
  | _, _ => throw .type

def moduleValue (reference : String) : RunM Value := do
  let w ← get
  let (found, registry) := w.registry.lookup w.library reference
  set { w with registry := registry }
  match found with
  | .ok e => return .ofEntity reference e
  | .error fault => throw (.imports fault)

def indexValue (base index : Value) : RunM Value :=
  match base, index with
  | .modules, .text reference _ => moduleValue reference
  | base, index => liftM (entryOf base index)

def repeated {α : Type} (n : Int) (items : List α) : List α :=
  (List.replicate n.toNat items).flatten

/-- The value of a unary operation; a new value gets the identity `made`. -/
def unaryValue (made : Identity) (op : UnaryOp) (v : Value) : Except Fault Value :=
  match op, v, v.number? with
  | .not, _, _ => return .bool !v.truthy
  | .plus, .bool _, some n => return .int n made
  | .plus, .int .., _ | .plus, .float .., _ => return v
  | .minus, .float negative magnitude _, _ => return .float (!negative) magnitude made
  | .minus, _, some n => return .int (-n) made
  | .invert, _, some n => return .int (-n - 1) made
  | _, _, _ => throw .type

/-- A sum that is no number. An empty text or tuple adds nothing and leaves the other operand as it
is. -/
def joined (made : Identity) (a b : Value) : Except Fault Value :=
  match a, b with
  | .text s _, .text t _ =>
    return if s = "" then b else if t = "" then a else .text (s ++ t) made
  | .list xs _, .list ys _ => return .list (xs ++ ys) made
  | .tuple xs _, .tuple ys _ =>
    return if xs.isEmpty then b else if ys.isEmpty then a else .tuple (xs ++ ys) made
  | _, _ => throw .type

/-- A value repeated. Once is the value itself, except for lists. -/
def multiplied (made : Identity) (n : Int) (v : Value) : Except Fault Value :=
  match v with
  | .text s _ => return if n = 1 then v else .text (String.ofList (repeated n s.toList)) made
  | .list xs _ => return .list (repeated n xs) made
  | .tuple xs _ => return if n = 1 then v else .tuple (repeated n xs) made
  | _ => throw .type

/-- The value of a binary operation on values that are not both numbers. -/
def combined (made : Identity) (op : BinaryOp) (a b : Value) : Except Fault Value :=
  match op, a.number?, b.number? with
  | .add, _, _ => joined made a b
  | .mul, some n, _ => multiplied made n b
  | .mul, _, some n => multiplied made n a
  | .sub, _, _ | .mul, none, none => throw .type
  | _, _, _ => throw .unsupported

/-- The value of a binary operation; a new value gets the identity `made`. -/
def binaryValue (made : Identity) (op : BinaryOp) (a b : Value) : Except Fault Value :=
  match op, a.number?, b.number? with
  | .add, some m, some n => return .int (m + n) made
  | .sub, some m, some n => return .int (m - n) made
  | .mul, some m, some n => return .int (m * n) made
  | _, _, _ =>
    if a.extended?.isSome && b.extended?.isSome then throw .unsupported else combined made op a b

def contains (item whole : Value) : Except Fault Bool :=
  match item, whole with
  | .text s _, .text t _ => return occursIn s.toList t.toList
  | _, .text .. => throw .type
  | item, whole =>
    match whole.items? with
    | some items => return items.any (item.equals ·)
    | none => throw .type

def ordered (holds : Ordering → Bool) (a b : Value) : Except Fault Bool :=
  match a.order? b with
  | some o => return holds o
  | none => throw .type

def compareValue : CompareOp → Value → Value → Except Fault Bool
  | .eq, a, b => return a.equals b
  | .notEq, a, b => return !a.equals b
  | .lt, a, b => ordered Ordering.isLT a b
  | .ltEq, a, b => ordered Ordering.isLE a b
  | .gt, a, b => ordered Ordering.isGT a b
  | .gtEq, a, b => ordered Ordering.isGE a b
  | .same, a, b => return a.isSame b
  | .notSame, a, b => return !a.isSame b
  | .within, a, b => contains a b
  | .notWithin, a, b => return !(← contains a b)

def textsOf : List Value → Except Fault (List String)
  | [] => return []
  | .text s _ :: rest => return s :: (← textsOf rest)
  | _ :: _ => throw .unsupported

section Expressions

variable (callFn : CallFn) (frames : List Frame)

mutual

def eval (e : Expr) : RunM Value :=
  visit e <| match e with
  | .name id | .own id => liftM (nameValue frames id)
  | .constant value => liftM (constantValue value)
  | .member base attr => do
    memberValue (← eval base) attr
  | .subscript base index => do
    let base ← eval base
    indexValue base (← eval index)
  | .call callee args keywords => do
    let callee ← eval callee
    let args ← evalItems args
    callFn callee args (← evalKeywords keywords)
  | .unary op operand => do
    let v ← eval operand
    liftM (unaryValue (madeBy operand) op v)
  | .binary op left right => do
    let made := madeBy (.binary op left right)
    let left ← eval left
    let right ← eval right
    liftM (binaryValue made op left right)
  | .logical op operands => evalLogical op .none operands
  | .compare first ops rest => do
    evalCompare (← eval first) ops rest
  | .conditional test body orelse => do
    if (← eval test).truthy then eval body else eval orelse
  | .tuple items => do
    return .tuple (← evalItems items) (madeBy (.tuple items))
  | .list items => do
    return .list (← evalItems items) .fresh
  | .dict keys values => do
    let keys ← evalEach keys
    let values ← evalEach values
    return .dict (← textsOf keys) values
  | _ => throw .unsupported

def evalItems : List Expr → RunM (List Value)
  | [] => return []
  | .starred e :: es => do
    let v ← eval e
    match v.items? with
    | some items => return items ++ (← evalItems es)
    | none => throw .type
  | e :: es => do
    let v ← eval e
    return v :: (← evalItems es)

def evalEach : List Expr → RunM (List Value)
  | [] => return []
  | e :: es => do
    let v ← eval e
    return v :: (← evalEach es)

def evalKeywords : List Expr → RunM (List (String × Value))
  | [] => return []
  | .keyword (some name) e :: es => do
    let v ← eval e
    return (name, v) :: (← evalKeywords es)
  | .keyword none e :: es => do
    match ← eval e with
    | .dict keys values => return List.zip keys values ++ (← evalKeywords es)
    | _ => throw .type
  | _ :: _ => throw .unsupported

/-- The first operand that decides, or the last one. -/
def evalLogical (op : LogicalOp) (last : Value) : List Expr → RunM Value
  | [] => return last
  | e :: es => do
    let v ← eval e
    match op, v.truthy with
    | .or, true | .and, false => return v
    | _, _ => evalLogical op v es

def evalCompare (left : Value) : List CompareOp → List Expr → RunM Value
  | op :: ops, e :: es => do
    let right ← eval e
    if ← compareValue op left right then evalCompare right ops es else return .bool false
  | _, _ => return .bool true

end

end Expressions

def bindNames : List Expr → List Value → Frame → Except Fault Frame
  | [], [], frame => return frame
  | .name id :: targets, v :: vs, frame | .own id :: targets, v :: vs, frame =>
    bindNames targets vs (frame.bindValue id v)
  | _, _, _ => throw .unsupported

def assign (target : Expr) (v : Value) (frame : Frame) : Except Fault Frame :=
  match target, v with
  | .name id, v | .own id, v => return frame.bindValue id v
  | .tuple targets, .tuple vs _ => bindNames targets vs frame
  | .member .., _ => return frame
  | _, _ => throw .unsupported

def exec (callFn : CallFn) (frame : Frame) (outer : List Frame) : List Stmt → RunM Value
  | [] => return .none
  | .ret e :: _ => eval callFn (frame :: outer) e
  | .expr e :: rest => do
    let _ ← eval callFn (frame :: outer) e
    exec callFn frame outer rest
  | .assign target e :: rest => do
    let v ← eval callFn (frame :: outer) e
    exec callFn (← assign target v frame) outer rest
  | .function name signature body :: rest =>
    exec callFn (frame.bind name (.helper signature body)) outer rest
  | .importFrom _ names :: rest =>
    let bound := names.foldl (fun f n => f.bindValue (n.2.getD n.1) .namespaceType) frame
    exec callFn bound outer rest

/-- The frame of a call: parameters take arguments in order, and the rest takes what is left over. -/
def bindArguments (signature : Signature) (args : List Value) : Except Fault Frame := do
  let n := signature.params.length
  if args.length < n then throw .type
  else
    let named := (List.zip signature.params args).foldl
      (fun f p => f.bindValue p.1 p.2) Frame.empty
    match signature.rest with
    | some rest => return named.bindValue rest (.tuple (args.drop n) .fresh)
    | none => if args.length = n then return named else throw .type

/-- The results of a callback for every item. -/
def iterate (callback : Value → Nat → RunM Value) : Nat → List Value → RunM (List Value)
  | _, [] => return []
  | i, item :: rest => do
    let v ← callback item i
    return v :: (← iterate callback (i + 1) rest)

/-- What a rendering engine makes of the calls of its primitives. -/
structure Engine where
  /-- The list of what a callback gave for all items. -/
  gather : List Value → Value
  /-- The value of any other primitive. -/
  make : Primitive → List Value → Except Fault Value

/-- The iterator calls its callback for every item, which tells the item, its place and whether it is the
first or the last. -/
def iteratorValue (engine : Engine) (callFn : CallFn) (items callback : Value) : RunM Value := do
  let items := if items.truthy then items else .list [] .fresh
  match items.items? with
  | none => throw .type
  | some items =>
    let last := items.length - 1
    let step (item : Value) (i : Nat) : RunM Value :=
      callFn callback [item, .int i .fresh, .bool (i == 0), .bool (i == last)] []
    return engine.gather (← iterate step 0 items)

def primitiveValue (engine : Engine) (callFn : CallFn) (p : Primitive) (args : List Value) :
    RunM Value :=
  match p, args with
  | .iterator, [items, callback] => iteratorValue engine callFn items callback
  | .iterator, _ => throw .type
  | _, _ => liftM (engine.make p args)

def nodeValue (fields : List String) (args : List Value) : Except Fault Value :=
  if fields.length = args.length then .ok (.dict fields args) else .error .type

/-- The engine that shows every call as a value, with the lists that callbacks give spliced in. -/
def Engine.standard : Engine where
  gather results := .list (results.flatMap fun
    | .list items _ => items
    | v => [v]) .fresh
  make p args :=
    match p, args with
    | .flatten, [v] => .ok (.list v.flatten .fresh)
    | .slot, [name, data, children, slotted] =>
      if slotted.truthy then
        match slotted.items? with
        | some items => .ok (.list items .fresh)
        | none => .error .type
      else .ok (.list [.record [("s", name), ("data", data), ("children", children)]] .fresh)
    | .element, _ => nodeValue [p.member, "data", "children"] args
    | .customElement, _ | .dynamicComponent, _ => nodeValue [p.member, "ctor", "data", "children"] args
    | .key, _ => nodeValue [p.member, "value"] args
    | .iterator, _ | .flatten, _ | .slot, _ => .error .type
    | _, _ => nodeValue [p.member] args

/-- How many code points, items or entries a value has. -/
def lengthValue : Value → Except Fault Value
  | .text s _ => return .int s.length .fresh
  | .list items _ | .tuple items _ => return .int items.length .fresh
  | .dict keys _ => return .int keys.length .fresh
  | _ => throw .type

/-- The objects that are always defined and cannot be called. -/
def constantNames : List String := ["Ellipsis", "NotImplemented"]

/-- What the context has under a key; a value is entered if it has nothing. -/
def setDefault (key : String) (v : Value) : RunM Value := do
  match (← get).context.get? key with
  | some old => return old
  | none =>
    modify fun w => { w with context := w.context.insert key v }
    return v

def contextValue (key : String) : RunM Value := do
  return ((← get).context.get? key).getD .none

/-- Calls what is not part of the program, the engine or the context. -/
def builtinCall : Value → List Value → List (String × Value) → Except Fault Value
  | .namespaceType, [], fields => return .object (fields.map Prod.fst) (fields.map Prod.snd) .fresh
  | .length, [v], [] => lengthValue v
  | .getter keys values, [.text key _], [] => return ((List.zip keys values).lookup key).getD .none
  | .builtin name, _, _ => throw (if constantNames.contains name then .type else .unsupported)
  | .method _, _, _ => throw .unsupported
  | .entity .sanitizer, args, [] => return .record [("sanitized", .list args .fresh)]
  | _, _, _ => throw .type

/-- Calls what is neither a function of the program nor a primitive. -/
def callPlain : CallFn
  | .contextGet, [.text key _], [] => contextValue key
  | .contextSetDefault, [.text key _, v], [] => setDefault key v
  | f, args, keywords => liftM (builtinCall f args keywords)

def noteCall (c : Call) : RunM Unit := modify fun w => { w with calls := w.calls ++ [c] }

/-- Calls a function, given a way to call functions in its body. -/
def callOnce (engine : Engine) (callFn : CallFn) : CallFn
  | .closure name signature body frames, args, [] => do
    noteCall (.function name args)
    exec callFn (← bindArguments signature args) frames body
  | .primitive p, args, [] => do
    noteCall (.primitive p args)
    primitiveValue engine callFn p args
  | f, args, keywords => callPlain f args keywords

/-- Calls a function; calls nest at most `depth` deep. -/
def callWithin (engine : Engine) : Nat → CallFn
  | 0 => fun _ _ _ => throw .unsupported
  | depth + 1 => callOnce engine (callWithin engine depth)

end TemplateCompiler.Render
