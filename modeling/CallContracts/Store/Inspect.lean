import CallContracts.Store

/-!
# Full text of values

The text of a value with all its visible parts. Functions are shown by a label that the caller
chooses and by their name, promises by their state at the moment.
-/

namespace CallContracts

mutual

/-- The full text of a value, given the texts of functions and promises. -/
def Value.fullText (ofCallable : CallableId → String) (ofPromise : PromiseId → String) :
    Value → String
  | .undefined => "Undefined"
  | .null => "Null"
  | .bool value => if value then "Bool(true)" else "Bool(false)"
  | .number value => "Number(" ++ Value.numberFormat.write value ++ ")"
  | .string value => "String(" ++ Quoted.quote value ++ ")"
  | .array items => "Array([" ++ commaSeparated (Value.fullTexts ofCallable ofPromise items) ++ "])"
  | .object object =>
    "\x7b" ++
      commaSeparated ((Object.fullTexts ofCallable ofPromise object).map fun (key, text) =>
        Quoted.quote key ++ ": " ++ text) ++
      "\x7d"
  | .function callable => ofCallable callable
  | .promise promise => ofPromise promise
termination_by structural value => value

def Value.fullTexts (ofCallable : CallableId → String) (ofPromise : PromiseId → String) :
    List Value → List String
  | [] => []
  | item :: items =>
    item.fullText ofCallable ofPromise :: Value.fullTexts ofCallable ofPromise items
termination_by structural items => items

/-- The full texts of the visible members in key order. -/
def Object.fullTexts (ofCallable : CallableId → String) (ofPromise : PromiseId → String) :
    Object → Members String
  | .root own =>
    (Value.memberFullTexts ofCallable ofPromise own).foldr
      (fun (key, text) => Members.insert key text) []
  | .layer own delegate =>
    (Value.memberFullTexts ofCallable ofPromise own).foldr
      (fun (key, text) => Members.insert key text)
      (delegate.fullTexts ofCallable ofPromise)
termination_by structural object => object

def Value.memberFullTexts (ofCallable : CallableId → String) (ofPromise : PromiseId → String) :
    List (String × Value) → List (String × String)
  | [] => []
  | (key, value) :: members =>
    (key, value.fullText ofCallable ofPromise) :: Value.memberFullTexts ofCallable ofPromise members
termination_by structural members => members

end

namespace Store

def callableText (store : Store) (label : CallableId → String) (id : CallableId) : String :=
  match (store.callable id).name with
  | some name => "Callable(" ++ label id ++ " " ++ name ++ ")"
  | none => "Callable(" ++ label id ++ ")"

/-- The text of a promise, in whose resolution promises nest fewer than `depth` levels deep. -/
def promiseText (store : Store) (label : CallableId → String) : (depth : Nat) → PromiseId → String
  | 0, _ => "Promise(pending)"
  | depth + 1, id =>
    match store.settlement? id with
    | none => "Promise(pending)"
    | some (.ok value) =>
      "Promise(resolved " ++
        value.fullText (store.callableText label) (store.promiseText label depth) ++ ")"
    | some (.error fault) => "Promise(rejected " ++ fault.message ++ ")"

/-- The full text of a value. A chain of settled promises is no longer than there are promises. -/
def inspect (store : Store) (label : CallableId → String) (value : Value) : String :=
  value.fullText (store.callableText label) (store.promiseText label (store.promises.size + 1))

end Store

end CallContracts
