/-!
# Kinds of syntax nodes

The classes of the Python syntax tree and the fields of each, in the order in which the tree is
traversed.  A field is marked optional when a node can do without it.
-/

namespace ArchLint.Syntax

inductive Field where
  | body | typeIgnores | name | args | decoratorList | returns | bases | keywords | value
  | targets | target | op | typeHint | simple | iter | orelse | test | items | subject | cases
  | exc | cause | handlers | finalbody | msg | names | moduleName | level | values | left | right
  | operand | keys | elts | elt | generators | key | ops | comparators | func | conversion
  | formatSpec | kind | attr | slice | id | lower | upper | step | ifs | isAsync | exceptType
  | posonlyargs | vararg | kwonlyargs | kwDefaults | kwarg | defaults | arg | asname | contextExpr
  | optionalVars | pattern | guard | patterns | rest | cls | kwdAttrs | kwdPatterns
  deriving DecidableEq, Repr, Inhabited

namespace Field

/-- The name of a field, as messages show it. -/
def label : Field → String
  | .body => "body"
  | .typeIgnores => "type_ignores"
  | .name => "name"
  | .args => "args"
  | .decoratorList => "decorator_list"
  | .returns => "returns"
  | .bases => "bases"
  | .keywords => "keywords"
  | .value => "value"
  | .targets => "targets"
  | .target => "target"
  | .op => "op"
  | .typeHint => "annotation"
  | .simple => "simple"
  | .iter => "iter"
  | .orelse => "orelse"
  | .test => "test"
  | .items => "items"
  | .subject => "subject"
  | .cases => "cases"
  | .exc => "exc"
  | .cause => "cause"
  | .handlers => "handlers"
  | .finalbody => "finalbody"
  | .msg => "msg"
  | .names => "names"
  | .moduleName => "module"
  | .level => "level"
  | .values => "values"
  | .left => "left"
  | .right => "right"
  | .operand => "operand"
  | .keys => "keys"
  | .elts => "elts"
  | .elt => "elt"
  | .generators => "generators"
  | .key => "key"
  | .ops => "ops"
  | .comparators => "comparators"
  | .func => "func"
  | .conversion => "conversion"
  | .formatSpec => "format_spec"
  | .kind => "kind"
  | .attr => "attr"
  | .slice => "slice"
  | .id => "id"
  | .lower => "lower"
  | .upper => "upper"
  | .step => "step"
  | .ifs => "ifs"
  | .isAsync => "is_async"
  | .exceptType => "type"
  | .posonlyargs => "posonlyargs"
  | .vararg => "vararg"
  | .kwonlyargs => "kwonlyargs"
  | .kwDefaults => "kw_defaults"
  | .kwarg => "kwarg"
  | .defaults => "defaults"
  | .arg => "arg"
  | .asname => "asname"
  | .contextExpr => "context_expr"
  | .optionalVars => "optional_vars"
  | .pattern => "pattern"
  | .guard => "guard"
  | .patterns => "patterns"
  | .rest => "rest"
  | .cls => "cls"
  | .kwdAttrs => "kwd_attrs"
  | .kwdPatterns => "kwd_patterns"

def all : List Field :=
  [.body, .typeIgnores, .name, .args, .decoratorList, .returns, .bases, .keywords, .value,
   .targets, .target, .op, .typeHint, .simple, .iter, .orelse, .test, .items, .subject, .cases,
   .exc, .cause, .handlers, .finalbody, .msg, .names, .moduleName, .level, .values, .left, .right,
   .operand, .keys, .elts, .elt, .generators, .key, .ops, .comparators, .func, .conversion,
   .formatSpec, .kind, .attr, .slice, .id, .lower, .upper, .step, .ifs, .isAsync, .exceptType,
   .posonlyargs, .vararg, .kwonlyargs, .kwDefaults, .kwarg, .defaults, .arg, .asname,
   .contextExpr, .optionalVars, .pattern, .guard, .patterns, .rest, .cls, .kwdAttrs, .kwdPatterns]

def ofLabel? (label : String) : Option Field :=
  all.find? fun f => f.label == label

end Field

/-- The classes of nodes.  Marker nodes that carry nothing, and classes beyond the table, are
`other`. -/
inductive Kind where
  | moduleBody | interactive | expression | functionDef | asyncFunctionDef | classDef | returnStmt
  | deleteStmt | assign | augAssign | annAssign | forStmt | asyncFor | whileStmt | ifStmt
  | withStmt | asyncWith | matchStmt | raiseStmt | tryStmt | tryStar | assertStmt | importStmt
  | importFrom | globalStmt | nonlocalStmt | exprStmt | pass | breakStmt | continueStmt | boolOp
  | namedExpr | binOp | unaryOp | lambdaExpr | ifExpr | dict | set | listComp | setComp | dictComp
  | generatorExp | await | yield | yieldFrom | compare | call | formattedValue | joinedStr
  | constant | attribute | subscript | starred | name | list | tuple | slice | comprehension
  | exceptHandler | arguments | arg | keyword | importAlias | withItem | matchCase | matchValue
  | matchSingleton | matchSequence | matchMapping | matchClass | matchStar | matchAs | matchOr
  | andOp | orOp | add | sub | mult | matMult | div | mod | pow | lShift | rShift | bitOr | bitXor
  | bitAnd | floorDiv | invert | notOp | uAdd | uSub | eq | notEq | lt | lte | gt | gte | isOp
  | isNot | inOp | notIn | other (name : String)
  deriving DecidableEq, Repr, Inhabited

namespace Kind

/-- The name of a class, as messages show it. -/
def label : Kind → String
  | .moduleBody => "Module"
  | .interactive => "Interactive"
  | .expression => "Expression"
  | .functionDef => "FunctionDef"
  | .asyncFunctionDef => "AsyncFunctionDef"
  | .classDef => "ClassDef"
  | .returnStmt => "Return"
  | .deleteStmt => "Delete"
  | .assign => "Assign"
  | .augAssign => "AugAssign"
  | .annAssign => "AnnAssign"
  | .forStmt => "For"
  | .asyncFor => "AsyncFor"
  | .whileStmt => "While"
  | .ifStmt => "If"
  | .withStmt => "With"
  | .asyncWith => "AsyncWith"
  | .matchStmt => "Match"
  | .raiseStmt => "Raise"
  | .tryStmt => "Try"
  | .tryStar => "TryStar"
  | .assertStmt => "Assert"
  | .importStmt => "Import"
  | .importFrom => "ImportFrom"
  | .globalStmt => "Global"
  | .nonlocalStmt => "Nonlocal"
  | .exprStmt => "Expr"
  | .pass => "Pass"
  | .breakStmt => "Break"
  | .continueStmt => "Continue"
  | .boolOp => "BoolOp"
  | .namedExpr => "NamedExpr"
  | .binOp => "BinOp"
  | .unaryOp => "UnaryOp"
  | .lambdaExpr => "Lambda"
  | .ifExpr => "IfExp"
  | .dict => "Dict"
  | .set => "Set"
  | .listComp => "ListComp"
  | .setComp => "SetComp"
  | .dictComp => "DictComp"
  | .generatorExp => "GeneratorExp"
  | .await => "Await"
  | .yield => "Yield"
  | .yieldFrom => "YieldFrom"
  | .compare => "Compare"
  | .call => "Call"
  | .formattedValue => "FormattedValue"
  | .joinedStr => "JoinedStr"
  | .constant => "Constant"
  | .attribute => "Attribute"
  | .subscript => "Subscript"
  | .starred => "Starred"
  | .name => "Name"
  | .list => "List"
  | .tuple => "Tuple"
  | .slice => "Slice"
  | .comprehension => "comprehension"
  | .exceptHandler => "ExceptHandler"
  | .arguments => "arguments"
  | .arg => "arg"
  | .keyword => "keyword"
  | .importAlias => "alias"
  | .withItem => "withitem"
  | .matchCase => "match_case"
  | .matchValue => "MatchValue"
  | .matchSingleton => "MatchSingleton"
  | .matchSequence => "MatchSequence"
  | .matchMapping => "MatchMapping"
  | .matchClass => "MatchClass"
  | .matchStar => "MatchStar"
  | .matchAs => "MatchAs"
  | .matchOr => "MatchOr"
  | .andOp => "And"
  | .orOp => "Or"
  | .add => "Add"
  | .sub => "Sub"
  | .mult => "Mult"
  | .matMult => "MatMult"
  | .div => "Div"
  | .mod => "Mod"
  | .pow => "Pow"
  | .lShift => "LShift"
  | .rShift => "RShift"
  | .bitOr => "BitOr"
  | .bitXor => "BitXor"
  | .bitAnd => "BitAnd"
  | .floorDiv => "FloorDiv"
  | .invert => "Invert"
  | .notOp => "Not"
  | .uAdd => "UAdd"
  | .uSub => "USub"
  | .eq => "Eq"
  | .notEq => "NotEq"
  | .lt => "Lt"
  | .lte => "LtE"
  | .gt => "Gt"
  | .gte => "GtE"
  | .isOp => "Is"
  | .isNot => "IsNot"
  | .inOp => "In"
  | .notIn => "NotIn"
  | .other given => given

def all : List Kind :=
  [.moduleBody, .interactive, .expression, .functionDef, .asyncFunctionDef, .classDef,
   .returnStmt, .deleteStmt, .assign, .augAssign, .annAssign, .forStmt, .asyncFor, .whileStmt,
   .ifStmt, .withStmt, .asyncWith, .matchStmt, .raiseStmt, .tryStmt, .tryStar, .assertStmt,
   .importStmt, .importFrom, .globalStmt, .nonlocalStmt, .exprStmt, .pass, .breakStmt,
   .continueStmt, .boolOp, .namedExpr, .binOp, .unaryOp, .lambdaExpr, .ifExpr, .dict, .set,
   .listComp, .setComp, .dictComp, .generatorExp, .await, .yield, .yieldFrom, .compare, .call,
   .formattedValue, .joinedStr, .constant, .attribute, .subscript, .starred, .name, .list, .tuple,
   .slice, .comprehension, .exceptHandler, .arguments, .arg, .keyword, .importAlias, .withItem,
   .matchCase, .matchValue, .matchSingleton, .matchSequence, .matchMapping, .matchClass,
   .matchStar, .matchAs, .matchOr, .andOp, .orOp, .add, .sub, .mult, .matMult, .div, .mod, .pow,
   .lShift, .rShift, .bitOr, .bitXor, .bitAnd, .floorDiv, .invert, .notOp, .uAdd, .uSub, .eq,
   .notEq, .lt, .lte, .gt, .gte, .isOp, .isNot, .inOp, .notIn]

def ofLabel (label : String) : Kind :=
  (all.find? fun k => k.label == label).getD (.other label)

/-- The fields of a class in the order of traversal, optional ones with `true`. -/
def fields : Kind → List (Field × Bool)
  | .moduleBody => [(.body, false), (.typeIgnores, false)]
  | .interactive => [(.body, false)]
  | .expression => [(.body, false)]
  | .functionDef | .asyncFunctionDef =>
    [(.name, false), (.args, false), (.body, false), (.decoratorList, false), (.returns, true)]
  | .classDef =>
    [(.name, false), (.bases, false), (.keywords, false), (.body, false),
     (.decoratorList, false)]
  | .returnStmt | .yield => [(.value, true)]
  | .deleteStmt => [(.targets, false)]
  | .assign => [(.targets, false), (.value, false)]
  | .augAssign => [(.target, false), (.op, false), (.value, false)]
  | .annAssign => [(.target, false), (.typeHint, false), (.value, true), (.simple, false)]
  | .forStmt | .asyncFor => [(.target, false), (.iter, false), (.body, false), (.orelse, false)]
  | .whileStmt | .ifStmt => [(.test, false), (.body, false), (.orelse, false)]
  | .withStmt | .asyncWith => [(.items, false), (.body, false)]
  | .matchStmt => [(.subject, false), (.cases, false)]
  | .raiseStmt => [(.exc, true), (.cause, true)]
  | .tryStmt | .tryStar =>
    [(.body, false), (.handlers, false), (.orelse, false), (.finalbody, false)]
  | .assertStmt => [(.test, false), (.msg, true)]
  | .importStmt | .globalStmt | .nonlocalStmt => [(.names, false)]
  | .importFrom => [(.moduleName, true), (.names, false), (.level, true)]
  | .exprStmt | .await | .yieldFrom | .starred | .matchValue | .matchSingleton =>
    [(.value, false)]
  | .boolOp => [(.op, false), (.values, false)]
  | .namedExpr => [(.target, false), (.value, false)]
  | .binOp => [(.left, false), (.op, false), (.right, false)]
  | .unaryOp => [(.op, false), (.operand, false)]
  | .lambdaExpr => [(.args, false), (.body, false)]
  | .ifExpr => [(.test, false), (.body, false), (.orelse, false)]
  | .dict => [(.keys, false), (.values, false)]
  | .set | .list | .tuple => [(.elts, false)]
  | .listComp | .setComp | .generatorExp => [(.elt, false), (.generators, false)]
  | .dictComp => [(.key, false), (.value, false), (.generators, false)]
  | .compare => [(.left, false), (.ops, false), (.comparators, false)]
  | .call => [(.func, false), (.args, false), (.keywords, false)]
  | .formattedValue => [(.value, false), (.conversion, false), (.formatSpec, true)]
  | .joinedStr => [(.values, false)]
  | .constant => [(.value, false), (.kind, true)]
  | .attribute => [(.value, false), (.attr, false)]
  | .subscript => [(.value, false), (.slice, false)]
  | .name => [(.id, false)]
  | .slice => [(.lower, true), (.upper, true), (.step, true)]
  | .comprehension => [(.target, false), (.iter, false), (.ifs, false), (.isAsync, false)]
  | .exceptHandler => [(.exceptType, true), (.name, true), (.body, false)]
  | .arguments =>
    [(.posonlyargs, false), (.args, false), (.vararg, true), (.kwonlyargs, false),
     (.kwDefaults, false), (.kwarg, true), (.defaults, false)]
  | .arg => [(.arg, false), (.typeHint, true)]
  | .keyword => [(.arg, true), (.value, false)]
  | .importAlias => [(.name, false), (.asname, true)]
  | .withItem => [(.contextExpr, false), (.optionalVars, true)]
  | .matchCase => [(.pattern, false), (.guard, true), (.body, false)]
  | .matchSequence | .matchOr => [(.patterns, false)]
  | .matchMapping => [(.keys, false), (.patterns, false), (.rest, true)]
  | .matchClass => [(.cls, false), (.patterns, false), (.kwdAttrs, false), (.kwdPatterns, false)]
  | .matchStar => [(.name, true)]
  | .matchAs => [(.pattern, true), (.name, true)]
  | _ => []

/-- Whether nodes of the class can do without the field. -/
def isOptional (kind : Kind) (field : Field) : Bool :=
  kind.fields.contains (field, true)

end Kind
end ArchLint.Syntax
