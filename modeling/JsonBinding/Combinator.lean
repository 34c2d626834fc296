import JsonBinding.Import
/-!
The support functions of a module. Every converter is put together from these few functions. Each
one asserts the shape of JSON that it expects, and the only value it changes is an integer where a
floating point number is expected. A module holds those that it uses, in a fixed order.
-/
namespace JsonBinding

/-- A type variable over which support functions are declared. -/
inductive TypeVariable
  | value
  | enumeration
  deriving DecidableEq, Repr

namespace TypeVariable

/-- All type variables in the order in which a module declares them. -/
def all : List TypeVariable :=
  [value, enumeration]

def declaration : TypeVariable → String
  | value => "T = TypeVar(\"T\")"
  | enumeration => "EnumT = TypeVar(\"EnumT\", bound=Enum)"

def imports : TypeVariable → List Import
  | value => [.typeVariable]
  | enumeration => [.typeVariable, .enum]

end TypeVariable

inductive Combinator
  | fromNone | fromBool | fromInt | fromFloat | fromStr
  | fromList | fromDict | fromOptional | fromUnion
  | fromDatetime | toDatetime | toEnum | toClass
  deriving DecidableEq, Repr

namespace Combinator

/-- All support functions in the order in which a module holds them. -/
def all : List Combinator :=
  [fromNone, fromBool, fromInt, fromFloat, fromStr, fromList, fromDict, fromOptional, fromUnion,
    fromDatetime, toDatetime, toEnum, toClass]

theorem mem_all (c : Combinator) : c ∈ all := by
  cases c <;> decide

def name : Combinator → String
  | fromNone => "from_none"
  | fromBool => "from_bool"
  | fromInt => "from_int"
  | fromFloat => "from_float"
  | fromStr => "from_str"
  | fromList => "from_list"
  | fromDict => "from_dict"
  | fromOptional => "from_optional"
  | fromUnion => "from_union"
  | fromDatetime => "from_datetime"
  | toDatetime => "to_datetime"
  | toEnum => "to_enum"
  | toClass => "to_class"

/-- The imports that the body refers to; those of its type variable are not among them. -/
def imports : Combinator → List Import
  | fromNone | fromBool | fromInt | fromFloat | fromStr => [.any]
  | fromList => [.any, .callable, .list]
  | fromDict => [.any, .callable, .dict]
  | fromOptional => [.any, .callable, .optional]
  | fromUnion => [.any, .callable, .list]
  | fromDatetime | toDatetime => [.any, .datetime]
  | toEnum => [.any, .type]
  | toClass => [.any, .type, .cast]

/-- The type variable over which a support function is declared. -/
def typeVariable? : Combinator → Option TypeVariable
  | fromList | fromDict | fromOptional | toClass => some .value
  | toEnum => some .enumeration
  | _ => none

def datetimePattern : String :=
  "%Y-%m-%dT%H:%M:%S.%fZ"

def lines : Combinator → List String
  | fromNone => [
    "def from_none(x: Any) -> Any:",
    "    assert x is None",
    "    return x"]
  | fromBool => [
    "def from_bool(x: Any) -> bool:",
    "    assert isinstance(x, bool)",
    "    return x"]
  | fromInt => [
    "def from_int(x: Any) -> int:",
    "    assert isinstance(x, int) and not isinstance(x, bool)",
    "    return x"]
  | fromFloat => [
    "def from_float(x: Any) -> float:",
    "    assert isinstance(x, (float, int)) and not isinstance(x, bool)",
    "    return float(x)"]
  | fromStr => [
    "def from_str(x: Any) -> str:",
    "    assert isinstance(x, str)",
    "    return x"]
  | fromList => [
    "def from_list(f: Callable[[Any], T], x: Any) -> List[T]:",
    "    assert isinstance(x, list)",
    "    return [f(y) for y in x]"]
  | fromDict => [
    "def from_dict(f: Callable[[Any], T], x: Any) -> Dict[str, T]:",
    "    assert isinstance(x, dict)",
    "    return \x7bk: f(v) for (k, v) in x.items()\x7d"]
  | fromOptional => [
    "def from_optional(f: Callable[[Any], T], x: Any) -> Optional[T]:",
    "    if x is None:",
    "        return None",
    "    return f(x)"]
  | fromUnion => [
    "def from_union(fs: List[Callable[[Any], Any]], x: Any) -> Any:",
    "    for f in fs:",
    "        try:",
    "            return f(x)",
    "        except Exception:",
    "            pass",
    "    raise AssertionError(\"no union member accepts the value\")"]
  | fromDatetime => [
    "def from_datetime(x: Any) -> datetime:",
    "    assert isinstance(x, str)",
    "    try:",
    "        return datetime.strptime(x, \"" ++ datetimePattern ++ "\")",
    "    except ValueError as e:",
    "        raise AssertionError(str(e)) from e"]
  | toDatetime => [
    "def to_datetime(x: Any) -> str:",
    "    assert isinstance(x, datetime)",
    "    return x.strftime(\"" ++ datetimePattern ++ "\")"]
  | toEnum => [
    "def to_enum(c: Type[EnumT], x: Any) -> Any:",
    "    assert isinstance(x, c)",
    "    return x.value"]
  | toClass => [
    "def to_class(c: Type[T], x: Any) -> dict:",
    "    assert isinstance(x, c)",
    "    return cast(Any, x).to_dict()"]

def body (c : Combinator) : String :=
  "\n".intercalate c.lines

def index (c : Combinator) : Nat :=
  all.idxOf c

end Combinator

structure CombinatorSet where
  contains : Combinator → Bool

namespace CombinatorSet

def empty : CombinatorSet :=
  ⟨fun _ => false⟩

instance : Inhabited CombinatorSet := ⟨empty⟩

def insert (used : CombinatorSet) (c : Combinator) : CombinatorSet :=
  ⟨fun other => other = c || used.contains other⟩

/-- Puts a support function into the set and tells whether it is new. -/
def mark (used : CombinatorSet) (c : Combinator) : CombinatorSet × Bool :=
  (used.insert c, !used.contains c)

def insertAll (used : CombinatorSet) (more : List Combinator) : CombinatorSet :=
  more.foldl insert used

/-- The elements in the order in which a module holds them. -/
def toList (used : CombinatorSet) : List Combinator :=
  Combinator.all.filter used.contains

def size (used : CombinatorSet) : Nat :=
  used.toList.length

def isEmpty (used : CombinatorSet) : Bool :=
  used.toList.isEmpty

def typeVariables (used : CombinatorSet) : List TypeVariable :=
  TypeVariable.all.filter fun v => used.toList.any (·.typeVariable? = some v)

@[simp] theorem contains_insert (used : CombinatorSet) (c other : Combinator) :
    (used.insert c).contains other = (decide (other = c) || used.contains other) := rfl

theorem contains_insertAll (used : CombinatorSet) (more : List Combinator) (c : Combinator) :
    (used.insertAll more).contains c = (decide (c ∈ more) || used.contains c) := by
  induction more generalizing used with
  | nil => simp [insertAll]
  | cons d rest ih =>
    have step := ih (used.insert d)
    simp only [insertAll, List.foldl_cons] at step ⊢
    rw [step, contains_insert]
    by_cases h : c = d <;> by_cases hr : c ∈ rest <;> simp [h, hr]

@[simp] theorem mem_toList (used : CombinatorSet) (c : Combinator) :
    c ∈ used.toList ↔ used.contains c = true := by
  simp [toList, Combinator.mem_all]

@[ext] theorem ext {a b : CombinatorSet} (h : ∀ c, a.contains c = b.contains c) : a = b := by
  cases a
  cases b
  exact congrArg _ (funext h)

end CombinatorSet

end JsonBinding
