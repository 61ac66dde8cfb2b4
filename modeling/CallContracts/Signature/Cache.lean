import CallContracts.Signature.Parser

/-!
# Remembered signatures

The same few texts are parsed again and again. A cache remembers what texts parsed to, up to a
limit; texts that are no signature, and texts met while the cache is full, are parsed each time.
-/

namespace CallContracts

/-- Texts and what they parsed to, the newest in front. -/
structure SignatureCache where
  entries : List (String × Signature)

namespace SignatureCache

def capacity : Nat :=
  1024

/-- The cache that remembers nothing. -/
def empty : SignatureCache :=
  ⟨[]⟩

/-- What a text parsed to, if the cache remembers it. -/
def find? (cache : SignatureCache) (text : String) : Option Signature :=
  cache.entries.lookup text

/-- Remembers what a text parsed to if there is room left. -/
def remember (cache : SignatureCache) (text : String) (signature : Signature) : SignatureCache :=
  if cache.entries.length < capacity then ⟨(text, signature) :: cache.entries⟩ else cache

/-- The signature that a text spells, remembered or parsed, with the cache as it is then. -/
def parse (cache : SignatureCache) (text : String) :
    Except SyntaxFault Signature × SignatureCache :=
  match cache.find? text with
  | some signature => (.ok signature, cache)
  | none =>
    match Signature.parse text with
    | .ok signature => (.ok signature, cache.remember text signature)
    | .error fault => (.error fault, cache)

def parseAll (cache : SignatureCache) :
    List String → List (Except SyntaxFault Signature) × SignatureCache
  | [] => ([], cache)
  | text :: texts =>
    let (result, cache) := cache.parse text
    let (results, cache) := cache.parseAll texts
    (result :: results, cache)

end SignatureCache

end CallContracts
