import CallContracts.Contract.Remembered
import Mathlib

/-!
# Remembered signatures

A cache never changes what is returned. What it holds depends on the texts alone that have been
parsed through it: it holds the different texts among them that are signatures, each with what it
parses to, in the order in which they first came and as many of them as there is room for. One use
keeps this, whether the text is found, is new, finds the cache full or is no signature, and so does
any sequence of uses.

Annotators and contracts use the cache only to parse, so they too are what they would be without it.
-/

namespace CallContracts.SignatureCache

/-! ## What the cache holds -/

/-- The different texts among these that are signatures, with what they parse to. -/
def spelled (texts : List String) : List (String × Signature) :=
  (texts.filterMap fun text =>
    (Signature.parse text).toOption.map fun signature => (text, signature)).eraseDups

/-- What a cache holds after some texts: as many of the signatures among them as there is room for,
the newest in front. -/
def Holds (cache : SignatureCache) (met : List String) : Prop :=
  cache.entries = ((spelled met).take capacity).reverse

theorem holds_empty : empty.Holds [] :=
  rfl

section Texts

variable {met : List String} {text : String} {signature : Signature} {fault : SyntaxFault}

theorem mem_spelled_iff :
    (text, signature) ∈ spelled met ↔ text ∈ met ∧ Signature.parse text = .ok signature := by
  rw [spelled, List.mem_eraseDups, List.mem_filterMap]
  constructor
  · rintro ⟨other, member, found⟩
    cases parses : Signature.parse other with
    | error fault => simp [parses, Except.toOption] at found
    | ok parsed =>
        simp only [parses, Except.toOption, Option.map_some, Option.some.injEq,
          Prod.mk.injEq] at found
        rcases found with ⟨rfl, rfl⟩
        exact ⟨member, parses⟩
  · rintro ⟨member, parses⟩
    exact ⟨text, member, by simp [parses, Except.toOption]⟩

theorem spelled_snoc_of_error (parses : Signature.parse text = .error fault) :
    spelled (met ++ [text]) = spelled met := by
  simp [spelled, List.filterMap_append, parses, Except.toOption]

/-- A text that is a signature is added behind those before it, unless it is among them. -/
theorem spelled_snoc_of_ok (parses : Signature.parse text = .ok signature) :
    spelled (met ++ [text]) =
      if (text, signature) ∈ spelled met then spelled met
      else spelled met ++ [(text, signature)] := by
  have one : ([text].filterMap fun text =>
      (Signature.parse text).toOption.map fun signature => (text, signature)) =
        [(text, signature)] := by
    simp [parses, Except.toOption]
  rw [spelled, List.filterMap_append, one, List.eraseDups_append]
  by_cases member : (text, signature) ∈ spelled met
  · rw [if_pos member]
    rw [spelled, List.mem_eraseDups] at member
    simp only [List.removeAll, List.filter_singleton, List.elem_eq_true_of_mem member]
    simp [spelled]
  · rw [if_neg member]
    rw [spelled, List.mem_eraseDups, ← List.elem_iff, Bool.not_eq_true] at member
    simp only [List.removeAll, List.filter_singleton, member]
    rfl

end Texts

/-! ## One use -/

section Use

variable {cache : SignatureCache} {met : List String} {text : String} {signature : Signature}

theorem Holds.mem_spelled {entry : String × Signature} (holds : cache.Holds met)
    (member : entry ∈ cache.entries) : entry ∈ spelled met := by
  rw [holds, List.mem_reverse] at member
  exact List.mem_of_mem_take member

theorem Holds.parse_eq_ok (holds : cache.Holds met) (found : cache.find? text = some signature) :
    (text, signature) ∈ spelled met := by
  rcases List.lookup_eq_some_iff.mp found with ⟨before, behind, split, -⟩
  exact holds.mem_spelled (by simp [split])

theorem Holds.not_mem_of_find?_eq_none (found : cache.find? text = none) :
    (text, signature) ∉ cache.entries := by
  intro member
  simpa using List.lookup_eq_none_iff.mp found _ member

/-- A new signature is remembered if there is room, and changes nothing otherwise. -/
theorem Holds.remember (holds : cache.Holds met) (parses : Signature.parse text = .ok signature)
    (new : (text, signature) ∉ cache.entries) :
    (cache.remember text signature).Holds (met ++ [text]) := by
  have length : cache.entries.length = min capacity (spelled met).length := by
    rw [holds, List.length_reverse, List.length_take]
  rw [Holds, SignatureCache.remember]
  split
  · rename_i room
    have all : (spelled met).take capacity = spelled met := List.take_of_length_le (by omega)
    have unmet : (text, signature) ∉ spelled met := by
      rw [holds, List.mem_reverse, all] at new
      exact new
    rw [spelled_snoc_of_ok parses, if_neg unmet, List.take_of_length_le, List.reverse_append,
      holds, all]
    · rfl
    · rw [List.length_append, List.length_singleton]
      omega
  · rename_i full
    have enough : capacity ≤ (spelled met).length := by omega
    rw [holds]
    rw [spelled_snoc_of_ok parses]
    split
    · rfl
    · rw [List.take_append_of_le_length enough]

theorem Holds.parse (holds : cache.Holds met) (text : String) :
    (cache.parse text).1 = Signature.parse text ∧ (cache.parse text).2.Holds (met ++ [text]) := by
  rw [SignatureCache.parse]
  cases found : cache.find? text with
  | some signature =>
      have member := holds.parse_eq_ok found
      refine ⟨(mem_spelled_iff.mp member).2.symm, ?_⟩
      rw [Holds, spelled_snoc_of_ok (mem_spelled_iff.mp member).2, if_pos member]
      exact holds
  | none =>
      cases parses : Signature.parse text with
      | ok signature =>
          exact ⟨rfl, holds.remember parses (Holds.not_mem_of_find?_eq_none found)⟩
      | error fault =>
          refine ⟨rfl, ?_⟩
          rw [Holds, spelled_snoc_of_error parses]
          exact holds

/-! ## Many uses -/

theorem Holds.parseAll (holds : cache.Holds met) (texts : List String) :
    (cache.parseAll texts).1 = texts.map Signature.parse ∧
      (cache.parseAll texts).2.Holds (met ++ texts) := by
  induction texts generalizing cache met with
  | nil => simpa [SignatureCache.parseAll] using holds
  | cons text texts ih =>
      rcases holds.parse text with ⟨answer, holdsThen⟩
      rcases ih holdsThen with ⟨answers, holdsLast⟩
      rw [List.append_assoc, List.singleton_append] at holdsLast
      exact ⟨congrArg₂ List.cons answer answers, holdsLast⟩

/-! ## What is made of remembered signatures -/

theorem Holds.annotator (holds : cache.Holds met) (text : String) :
    cache.annotator text = (Annotator.ofText text, (cache.parse text).2) := by
  rw [SignatureCache.annotator, Annotator.ofText, ← (holds.parse text).1]
  rcases cache.parse text with ⟨fault | signature, later⟩ <;> rfl

theorem Holds.contract (holds : cache.Holds met) (text : String) (strict : Bool) :
    cache.contract text strict = (Contract.ofText text strict, (cache.parse text).2) := by
  rw [SignatureCache.contract, Contract.ofText, ← (holds.parse text).1]
  rcases cache.parse text with ⟨fault | expected, later⟩ <;> rfl

/-- The loop over declarations parses the texts in front, up to the first declaration at fault. -/
theorem Holds.declareAll (holds : cache.Holds met) (strict : Bool)
    (declared : List (String × Contract)) (declarations : List (String × String)) :
    ∃ read, read <+: declarations.map Prod.snd ∧
      SignatureCache.declareAll strict declared declarations cache =
        (DuckContract.declareAll strict declared declarations, (cache.parseAll read).2) := by
  induction declarations generalizing cache met declared with
  | nil => exact ⟨[], List.nil_prefix, rfl⟩
  | cons declaration declarations ih =>
      rcases declaration with ⟨name, text⟩
      simp only [SignatureCache.declareAll, DuckContract.declareAll, holds.contract]
      split
      · exact ⟨[], List.nil_prefix, rfl⟩
      · cases Contract.ofText text strict with
        | error fault => exact ⟨[text], by simp, rfl⟩
        | ok contract =>
            rcases ih (holds.parse text).2 (declared ++ [(name, contract)]) with
              ⟨read, front, continues⟩
            exact ⟨text :: read, by simpa using front, continues⟩

theorem Holds.duckContract (holds : cache.Holds met) (declarations : List (String × String))
    (strict : Bool) :
    ∃ read, read <+: declarations.map Prod.snd ∧
      cache.duckContract declarations strict =
        (DuckContract.ofTexts declarations strict, (cache.parseAll read).2) := by
  rcases holds.declareAll strict [] declarations with ⟨read, front, declares⟩
  refine ⟨read, front, ?_⟩
  rw [SignatureCache.duckContract, declares]
  rfl

end Use

/-- However many texts have gone through the cache, and whatever they were, each was answered as the
parser answers it. The cache then holds texts of these with what they parse to, never one that is no
signature, and no more than there is room for: as many of the different signatures as fit, in the
order in which they came. An annotator or a contract made with this cache is the one made without
it, and to the cache making it is no more than parsing some further texts. -/
theorem remembered_signatures_are_parsed_ones (texts : List String) :
    (empty.parseAll texts).1 = texts.map Signature.parse ∧
    let cache := (empty.parseAll texts).2
    (∀ text signature, (text, signature) ∈ cache.entries →
      text ∈ texts ∧ Signature.parse text = .ok signature) ∧
    (∀ text fault, Signature.parse text = .error fault → cache.find? text = none) ∧
    cache.entries.length ≤ capacity ∧ cache.Holds texts ∧
    (∀ text, cache.annotator text = (Annotator.ofText text, (cache.parse text).2)) ∧
    (∀ text strict,
      cache.contract text strict = (Contract.ofText text strict, (cache.parse text).2)) ∧
    ∀ declarations strict, ∃ read, read <+: declarations.map Prod.snd ∧
      cache.duckContract declarations strict =
        (DuckContract.ofTexts declarations strict, (cache.parseAll read).2) := by
  rcases holds_empty.parseAll texts with ⟨answers, holds⟩
  rw [List.nil_append] at holds
  refine ⟨answers, ?_, ?_, ?_, holds, holds.annotator, holds.contract, holds.duckContract⟩
  · intro text signature member
    exact mem_spelled_iff.mp (holds.mem_spelled member)
  · intro text fault parses
    refine Option.eq_none_iff_forall_ne_some.mpr fun signature found => ?_
    simp [(mem_spelled_iff.mp (holds.parse_eq_ok found)).2] at parses
  · rw [holds, List.length_reverse, List.length_take]
    exact Nat.min_le_left _ _

/-- A text that is no signature between two that are the same one. -/
theorem remembered_signatures_are_parsed_ones_of_repeated :
    let texts := ["() => void", "() =>", "() => void"]
    let signature : Signature := ⟨false, [], .primitive .void⟩
    let fault : SyntaxFault := ⟨"() =>", 5, "unexpected end of signature"⟩
    let cache := (empty.parseAll texts).2
    (empty.parseAll texts).1 = [.ok signature, .error fault, .ok signature] ∧
      (∀ entry ∈ cache.entries, entry = ("() => void", signature)) ∧ cache.find? "() =>" = none ∧
      (cache.duckContract [("a", "() => void"), ("a", "")] false).1 =
        .error (.invalidUsage (.methodDeclaredTwice "a")) := by
  intro texts signature fault cache
  have accepted : Signature.parse "() => void" = .ok signature := by cbv
  have refused : Signature.parse "() =>" = .error fault := by cbv
  rcases remembered_signatures_are_parsed_ones texts with
    ⟨answers, own, unremembered, -, -, -, -, ducks⟩
  rcases ducks [("a", "() => void"), ("a", "")] false with ⟨read, -, made⟩
  refine ⟨?_, ?_, unremembered _ _ refused, ?_⟩
  · rw [answers]
    simp [texts, accepted, refused]
  · rintro ⟨text, remembered⟩ member
    rcases own text remembered member with ⟨met, parses⟩
    simp only [texts, List.mem_cons, List.not_mem_nil, or_false] at met
    rcases met with rfl | rfl | rfl
    · simp_all
    · simp [refused] at parses
    · simp_all
  · rw [made]
    simp only [DuckContract.ofTexts, DuckContract.declareAll, Contract.ofText, accepted]
    rfl

end CallContracts.SignatureCache
