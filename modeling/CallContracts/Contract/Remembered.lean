import CallContracts.Contract
import CallContracts.Signature.Cache

/-!
# Contracts from remembered signatures

Annotators and contracts are made from texts, often from the same few. Their signatures come from a
cache, which may remember more of them afterwards.
-/

namespace CallContracts.SignatureCache

/-- The annotator for the signature that a text spells. -/
def annotator (cache : SignatureCache) (text : String) : Except Fault Annotator × SignatureCache :=
  match cache.parse text with
  | (.ok signature, cache) => (.ok ⟨signature⟩, cache)
  | (.error fault, cache) => (.error (.malformedSignature fault), cache)

/-- The contract that asks for the signature a text spells. -/
def contract (cache : SignatureCache) (text : String) (strict : Bool) :
    Except Fault Contract × SignatureCache :=
  match cache.parse text with
  | (.ok expected, cache) => (Contract.ofSignature expected strict, cache)
  | (.error fault, cache) => (.error (.malformedSignature fault), cache)

/-- Adds declarations behind those of `declared`, up to the first one at fault. Texts behind it are
not looked at. -/
def declareAll (strict : Bool) (declared : List (String × Contract)) :
    List (String × String) → SignatureCache →
      Except Fault (List (String × Contract)) × SignatureCache
  | [], cache => (.ok declared, cache)
  | (name, text) :: declarations, cache =>
    if declared.any fun (other, _) => other = name then
      (.error (.invalidUsage (.methodDeclaredTwice name)), cache)
    else
      match cache.contract text strict with
      | (.error fault, cache) => (.error fault, cache)
      | (.ok contract, cache) =>
        declareAll strict (declared ++ [(name, contract)]) declarations cache

/-- The contract that asks for methods with these names and signatures. -/
def duckContract (cache : SignatureCache) (declarations : List (String × String)) (strict : Bool) :
    Except Fault DuckContract × SignatureCache :=
  let (declared, cache) := declareAll strict [] declarations cache
  (declared.map DuckContract.mk, cache)

end CallContracts.SignatureCache
