import CallContracts.Json.Printer
import CallContracts.Json.Reader
import Mathlib.Data.List.Forall2

/-!
# Written JSON is read back

Indented JSON without numbers is read back as the data it was written from, within any limit on
nesting that the data keeps. Texts are read back letter by letter: a letter is written as itself or
as an escape of its own, and the closing quote is the first one that is not escaped. Arrays and
objects are read back item by item; nothing but blanks stands between the items and their marks.
-/

namespace CallContracts

namespace JsonText

/-- The reader finds the value where a text starts with its written form. -/
def Finds {α : Type} (reader : CharReader α) (value : α) (written : String) : Prop :=
  ∀ rest, reader (written.toList ++ rest) = some (value, rest)

/-! ## Texts -/

theorem hexadecimalNumeral_unitEscape {unit : Nat} (small : unit < 0x20) (rest : List Char) :
    Digit.hexadecimalNumeral 4 ((Json.unitEscape unit).toList.drop 2 ++ rest) =
      some (unit, rest) := by
  have digits : ∀ unit < 0x20, ((Json.unitEscape unit).toList.drop 2).length = 4 ∧
      (((Json.unitEscape unit).toList.drop 2).mapM Digit.hexadecimal?).map (Digit.numeral 16) =
        some unit := by decide +kernel
  rcases digits unit small with ⟨four, spelled⟩
  rcases Option.map_eq_some_iff.mp spelled with ⟨values, read, value⟩
  have enough : ¬((Json.unitEscape unit).toList.drop 2 ++ rest).length < 4 := by
    rw [List.length_append, four]
    omega
  rw [Digit.hexadecimalNumeral, if_neg enough, ← four, List.take_left, List.drop_left, read,
    ← value]
  rfl

theorem textChar_escape (character : Char) (rest : List Char) :
    textChar ((Json.escape character).toList ++ rest) = some (character, rest) := by
  unfold Json.escape
  iterate 7
    split
    · subst_vars
      rfl
  split
  · rename_i small
    have front : ∀ unit < 0x20, (Json.unitEscape unit).toList.take 2 = ['\\', 'u'] := by
      decide +kernel
    have split : (Json.unitEscape character.toNat).toList =
        '\\' :: 'u' :: (Json.unitEscape character.toNat).toList.drop 2 := by
      conv_lhs => rw [← List.take_append_drop 2 (Json.unitEscape character.toNat).toList,
        front _ small]
      rfl
    rw [split, List.cons_append, List.cons_append, textChar, unicodeEscape,
      hexadecimalNumeral_unitEscape small]
    have noSurrogate : ¬0xDC00 ≤ character.toNat ∧ ¬0xD800 ≤ character.toNat := by omega
    simp [noSurrogate]
  · rename_i noBackslash _ _ _ _ _ visible
    have single : character.toString.toList = [character] := String.toList_singleton character
    rw [single, List.singleton_append]
    unfold textChar
    split <;> simp_all

/-- An escape starts with a letter that is no quote. -/
theorem exists_escape_eq_cons (character : Char) :
    ∃ first others, (Json.escape character).toList = first :: others ∧ first ≠ '"' := by
  unfold Json.escape
  split
  · exact ⟨'\\', _, rfl, by decide⟩
  rename_i noQuote
  iterate 6
    split
    · exact ⟨'\\', _, rfl, by decide⟩
  split
  · rw [Json.unitEscape, String.toList_append]
    exact ⟨'\\', _, rfl, by decide⟩
  · exact ⟨character, [], String.toList_singleton character, noQuote⟩

/-- The letters of a text as they are written between quotes. -/
def escaped (letters : List Char) : List Char :=
  letters.flatMap fun character => (Json.escape character).toList

theorem length_le_length_escaped (letters : List Char) :
    letters.length ≤ (escaped letters).length := by
  induction letters with
  | nil => exact Nat.le_refl 0
  | cons character letters ih =>
      rcases exists_escape_eq_cons character with ⟨first, others, split, -⟩
      rw [escaped, List.flatMap_cons, split, List.length_append, List.length_cons,
        List.length_cons, ← escaped]
      omega

theorem textRest_escaped (letters rest : List Char) {bound : Nat}
    (enough : letters.length < bound) :
    textRest bound (escaped letters ++ '"' :: rest) = some (letters, rest) := by
  induction letters generalizing bound with
  | nil =>
      cases bound with
      | zero => exact absurd enough (Nat.not_lt_zero _)
      | succ bound => rfl
  | cons character letters ih =>
      cases bound with
      | zero => exact absurd enough (Nat.not_lt_zero _)
      | succ bound =>
          have read := textChar_escape character (escaped letters ++ '"' :: rest)
          rcases exists_escape_eq_cons character with ⟨first, others, split, noQuote⟩
          rw [escaped, List.flatMap_cons, ← escaped, List.append_assoc]
          rw [split, List.cons_append] at read ⊢
          rw [textRest, read]
          · simp only [Option.bind_eq_bind, Option.bind_some, ih (Nat.lt_of_succ_lt_succ enough)]
            rfl
          · intro behind same
            exact noQuote (List.cons.inj same).1

theorem toList_quote (content : String) :
    (Json.quote content).toList = '"' :: (escaped content.toList ++ ['"']) := by
  rw [Json.quote, String.toList_append, String.toList_append, String.toList_join, List.flatMap_map]
  rfl

theorem text_finds_quote (content : String) : Finds text content (Json.quote content) := by
  intro rest
  have enough : content.toList.length < (escaped content.toList ++ '"' :: rest).length := by
    have escapes := length_le_length_escaped content.toList
    rw [List.length_append, List.length_cons]
    omega
  rw [toList_quote, List.cons_append, List.append_assoc, List.singleton_append, text,
    textRest_escaped _ _ enough]
  simp

/-! ## Blanks and items -/

/-- Blanks, tabs and line ends. -/
def AreBlanks (characters : List Char) : Prop :=
  ∀ character ∈ characters,
    character = ' ' ∨ character = '\t' ∨ character = '\n' ∨ character = '\r'

theorem AreBlanks.append {front behind : String} (frontBlank : AreBlanks front.toList)
    (behindBlank : AreBlanks behind.toList) : AreBlanks (front ++ behind).toList := by
  rw [AreBlanks, String.toList_append, List.forall_mem_append]
  exact ⟨frontBlank, behindBlank⟩

theorem areBlanks_lineEnd : AreBlanks "\n".toList := by
  have letters : "\n".toList = ['\n'] := by decide
  simp [AreBlanks, letters]

theorem areBlanks_indent : AreBlanks "  ".toList := by
  have letters : "  ".toList = [' ', ' '] := by decide
  simp [AreBlanks, letters]

theorem skipBlanks_append {blanks : List Char} (areBlanks : AreBlanks blanks) (rest : List Char) :
    skipBlanks (blanks ++ rest) = skipBlanks rest := by
  refine List.dropWhile_append_of_pos fun character member => ?_
  simpa [or_assoc] using areBlanks character member

/-- The text starts with a character that is no blank and closes nothing. -/
def Opens (written : String) : Prop :=
  ∃ first others, written.toList = first :: others ∧ first ≠ ' ' ∧ first ≠ '\t' ∧ first ≠ '\n' ∧
    first ≠ '\r' ∧ first ≠ ']' ∧ first ≠ '\x7d'

theorem Opens.skipBlanks {written : String} (opens : Opens written) (rest : List Char) :
    JsonText.skipBlanks (written.toList ++ rest) = written.toList ++ rest := by
  rcases opens with ⟨first, others, split, visible⟩
  rw [split, List.cons_append, JsonText.skipBlanks, List.dropWhile_cons_of_neg]
  simp [visible]

theorem Opens.head?_ne {written : String} {closing : Char} (opens : Opens written)
    (closes : closing = ']' ∨ closing = '\x7d') (rest : List Char) :
    (written.toList ++ rest).head? ≠ some closing := by
  rcases opens with ⟨first, others, split, -, -, -, -, noBracket, noBrace⟩
  rw [split, List.cons_append, List.head?_cons, Ne, Option.some.injEq]
  rcases closes with rfl | rfl
  · exact noBracket
  · exact noBrace

theorem skipBlanks_closing {closing : Char} (closes : closing = ']' ∨ closing = '\x7d')
    (rest : List Char) : skipBlanks (closing :: rest) = closing :: rest := by
  rcases closes with rfl | rfl <;> rfl

section Items

variable {α : Type} {item : CharReader α} {closing : Char} {gap blanks : List Char}
  {values : List α} {lines : List String}

/-- Lines as they stand behind a first one: a comma and some blanks in front of each. -/
def further (gap : List Char) (lines : List String) : List Char :=
  lines.flatMap fun line => ',' :: (gap ++ line.toList)

/-- A line is the written form of a value. -/
def Writes (item : CharReader α) (value : α) (line : String) : Prop :=
  Opens line ∧ Finds item value line

theorem moreItems_further (closes : closing = ']' ∨ closing = '\x7d') (areGap : AreBlanks gap)
    (areBlanks : AreBlanks blanks) (written : List.Forall₂ (Writes item) values lines)
    (rest : List Char) {bound : Nat} (enough : lines.length < bound) :
    moreItems item closing bound (further gap lines ++ (blanks ++ closing :: rest)) =
      some (values, rest) := by
  have noComma : ',' ≠ closing := by
    rcases closes with rfl | rfl <;> decide
  induction written generalizing bound with
  | nil =>
      cases bound with
      | zero => exact absurd enough (Nat.not_lt_zero _)
      | succ bound =>
          rw [further, List.flatMap_nil, List.nil_append, moreItems, skipBlanks_append areBlanks,
            skipBlanks_closing closes]
          simp
  | @cons value line values lines first others ih =>
      cases bound with
      | zero => exact absurd enough (Nat.not_lt_zero _)
      | succ bound =>
          have ends := ih (Nat.lt_of_succ_lt_succ enough)
          rw [further, List.flatMap_cons, ← further, List.cons_append, List.cons_append,
            List.append_assoc, List.append_assoc, moreItems]
          have comma (behind : List Char) :
              JsonText.skipBlanks (',' :: behind) = ',' :: behind := rfl
          simp only [comma, if_neg noComma, if_true, skipBlanks_append areGap,
            first.1.skipBlanks, first.2 _, Option.bind_eq_bind, Option.bind_some, ends]
          rfl

theorem length_le_length_further (gap : List Char) (lines : List String) :
    lines.length ≤ (further gap lines).length := by
  induction lines with
  | nil => exact Nat.le_refl 0
  | cons line lines ih =>
      rw [further, List.flatMap_cons, ← further, List.length_append, List.length_cons,
        List.length_cons]
      omega

theorem toList_intercalate_cons (separator line : String) (lines : List String) :
    (separator.intercalate (line :: lines)).toList =
      line.toList ++ lines.flatMap fun line => separator.toList ++ line.toList := by
  induction lines generalizing line with
  | nil => rw [String.intercalate_singleton, List.flatMap_nil, List.append_nil]
  | cons next lines ih =>
      rw [String.intercalate_cons_cons, String.toList_append, String.toList_append, ih,
        List.flatMap_cons, List.append_assoc, List.append_assoc]

/-- Items are read back up to the closing bracket. -/
theorem itemsUntil_bracketed (closes : closing = ']' ∨ closing = '\x7d')
    (opening : String) {last margin : String} (isLast : last.toList = [closing])
    (areBlanks : AreBlanks margin.toList) (written : List.Forall₂ (Writes item) values lines) :
    ∃ body, (Json.bracketed opening last margin lines).toList = opening.toList ++ body ∧
      ∀ rest, itemsUntil item closing (body ++ rest) = some (values, rest) := by
  have areMarginBlanks : AreBlanks ("\n" ++ margin).toList := areBlanks_lineEnd.append areBlanks
  have areGap : AreBlanks ("\n" ++ margin ++ "  ").toList := areMarginBlanks.append areBlanks_indent
  cases written with
  | nil =>
      refine ⟨[closing], by rw [Json.bracketed, String.toList_append, isLast], fun rest => ?_⟩
      rw [List.singleton_append, itemsUntil, skipBlanks_closing closes]
      simp
  | @cons value line values lines first others =>
      refine ⟨("\n" ++ margin ++ "  ").toList ++ (line.toList ++
        (further ("\n" ++ margin ++ "  ").toList lines ++
          (("\n" ++ margin).toList ++ [closing]))), ?_, fun rest => ?_⟩
      · simp only [Json.bracketed, String.toList_append, toList_intercalate_cons, isLast, further,
          List.append_assoc]
        rfl
      · rcases first with ⟨opens, finds⟩
        have enough : lines.length < (further ("\n" ++ margin ++ "  ").toList lines ++
            (("\n" ++ margin).toList ++ closing :: rest)).length + 1 := by
          have shorter := length_le_length_further ("\n" ++ margin ++ "  ").toList lines
          rw [List.length_append]
          omega
        have ends := moreItems_further closes areGap areMarginBlanks others rest enough
        simp only [List.append_assoc, List.singleton_append, itemsUntil, skipBlanks_append areGap,
          opens.skipBlanks, if_neg (opens.head?_ne closes _), finds _, Option.bind_eq_bind,
          Option.bind_some]
        rw [ends]
        rfl

end Items

end JsonText

namespace Json

/-! ## Data -/

/-- Data without numbers, in which arrays and objects nest at most `depth` levels deep. -/
inductive Fits : Nat → Json → Prop where
  | null {depth : Nat} : Fits depth .null
  | bool {depth : Nat} (value : Bool) : Fits depth (.bool value)
  | string {depth : Nat} (value : String) : Fits depth (.string value)
  | array {depth : Nat} {items : List Json} (fit : ∀ item ∈ items, Fits depth item) :
      Fits (depth + 1) (.array items)
  | object {depth : Nat} {members : List (String × Json)}
      (fit : ∀ member ∈ members, Fits depth member.2) : Fits (depth + 1) (.object members)

theorem Fits.mono {depth deeper : Nat} {json : Json} (fits : json.Fits depth)
    (below : depth ≤ deeper) : json.Fits deeper := by
  induction fits generalizing deeper with
  | null => exact .null
  | bool value => exact .bool value
  | string value => exact .string value
  | array fit ih =>
      cases deeper with
      | zero => exact absurd below (Nat.not_succ_le_zero _)
      | succ deeper =>
          exact .array fun item member => ih item member (Nat.le_of_succ_le_succ below)
  | object fit ih =>
      cases deeper with
      | zero => exact absurd below (Nat.not_succ_le_zero _)
      | succ deeper =>
          exact .object fun member among => ih member among (Nat.le_of_succ_le_succ below)

theorem sortedItems_eq_map (items : List Json) : sortedItems items = items.map sorted := by
  induction items with
  | nil => rfl
  | cons item items ih => rw [sortedItems, ih, List.map_cons]

theorem sortedMembers_eq_map (members : List (String × Json)) :
    sortedMembers members = members.map fun (key, value) => (key, value.sorted) := by
  induction members with
  | nil => rfl
  | cons member members ih => rw [sortedMembers, ih, List.map_cons]

/-- Key order nests as deep as any other order. -/
theorem Fits.sorted {depth : Nat} {json : Json} (fits : json.Fits depth) :
    json.sorted.Fits depth := by
  induction fits with
  | null => exact .null
  | bool value => exact .bool value
  | string value => exact .string value
  | @array depth items fit ih =>
      rw [Json.sorted, sortedItems_eq_map]
      exact .array (List.forall_mem_map.mpr ih)
  | @object depth members fit ih =>
      have each : ∀ member ∈ sortedMembers members, member.2.Fits depth := by
        rw [sortedMembers_eq_map]
        exact List.forall_mem_map.mpr ih
      exact .object fun member among => each member (Members.mem_of_mem_ofList among)

theorem indentedItems_eq_map (margin : String) (items : List Json) :
    indentedItems margin items = items.map fun item => item.indented margin := by
  induction items with
  | nil => rfl
  | cons item items ih => rw [indentedItems, ih, List.map_cons]

theorem indentedMembers_eq_map (margin : String) (members : List (String × Json)) :
    indentedMembers margin members =
      members.map fun (key, value) => quote key ++ ": " ++ value.indented margin := by
  induction members with
  | nil => rfl
  | cons member members ih => rw [indentedMembers, ih, List.map_cons]

theorem opens_quote_append (content behind : String) :
    JsonText.Opens (quote content ++ behind) := by
  rw [JsonText.Opens, String.toList_append, JsonText.toList_quote]
  exact ⟨'"', _, rfl, by decide⟩

theorem writes_member {depth : Nat} {value : Json} {written : String}
    (writes : JsonText.Writes (JsonText.value depth) value written) (key : String) :
    JsonText.Writes (JsonText.member (JsonText.value depth)) (key, value)
      (quote key ++ ": " ++ written) := by
  rcases writes with ⟨opens, finds⟩
  refine ⟨String.append_assoc ▸ opens_quote_append key _, fun rest => ?_⟩
  have colon (behind : List Char) :
      JsonText.skipBlanks (':' :: behind) = ':' :: behind := rfl
  have blank : JsonText.skipBlanks (' ' :: (written.toList ++ rest)) = written.toList ++ rest :=
    opens.skipBlanks rest
  have marks : ": ".toList = [':', ' '] := by decide
  simp only [String.toList_append, marks, List.append_assoc, List.cons_append, List.nil_append,
    JsonText.member, JsonText.text_finds_quote key _, Option.bind_eq_bind, Option.bind_some, colon,
    blank, finds rest]
  rfl

theorem writes_indented {depth : Nat} {json : Json} (fits : json.Fits depth) (margin : String)
    (areBlanks : JsonText.AreBlanks margin.toList) :
    JsonText.Writes (JsonText.value depth) json (json.indented margin) := by
  induction fits generalizing margin with
  | @null depth =>
      have written : (Json.null.indented margin).toList = ['n', 'u', 'l', 'l'] := by
        rw [indented]
        decide
      refine ⟨⟨'n', _, written, by decide⟩, fun rest => ?_⟩
      rw [written]
      cases depth <;> rfl
  | @bool depth value =>
      cases value with
      | true =>
          have written : ((Json.bool true).indented margin).toList = ['t', 'r', 'u', 'e'] := by
            rw [indented]
            decide
          refine ⟨⟨'t', _, written, by decide⟩, fun rest => ?_⟩
          rw [written]
          cases depth <;> rfl
      | false =>
          have written :
              ((Json.bool false).indented margin).toList = ['f', 'a', 'l', 's', 'e'] := by
            rw [indented]
            decide
          refine ⟨⟨'f', _, written, by decide⟩, fun rest => ?_⟩
          rw [written]
          cases depth <;> rfl
  | @string depth content =>
      refine ⟨by rw [indented]; simpa using opens_quote_append content "", fun rest => ?_⟩
      have finds := JsonText.text_finds_quote content rest
      rw [indented]
      rw [JsonText.toList_quote, List.cons_append] at finds ⊢
      rw [JsonText.value, finds]
      rfl
  | @array depth items fit ih =>
      have written : List.Forall₂ (JsonText.Writes (JsonText.value depth)) items
          (indentedItems (margin ++ "  ") items) := by
        rw [indentedItems_eq_map, List.forall₂_map_right_iff, List.forall₂_same]
        exact fun item member => ih item member _ (areBlanks.append JsonText.areBlanks_indent)
      have isLast : "]".toList = [']'] := by decide
      rcases JsonText.itemsUntil_bracketed (.inl rfl) "[" isLast areBlanks written with
        ⟨body, split, ends⟩
      rw [indented]
      refine ⟨⟨'[', body, split, by decide⟩, fun rest => ?_⟩
      rw [split]
      change (JsonText.itemsUntil (JsonText.value depth) ']' (body ++ rest)).map _ = _
      rw [ends]
      rfl
  | @object depth members fit ih =>
      have written : List.Forall₂ (JsonText.Writes (JsonText.member (JsonText.value depth))) members
          (indentedMembers (margin ++ "  ") members) := by
        rw [indentedMembers_eq_map, List.forall₂_map_right_iff, List.forall₂_same]
        exact fun member among =>
          writes_member (ih member among _ (areBlanks.append JsonText.areBlanks_indent)) member.1
      have isLast : "\x7d".toList = ['\x7d'] := by decide
      rcases JsonText.itemsUntil_bracketed (.inr rfl) "\x7b" isLast areBlanks written with
        ⟨body, split, ends⟩
      rw [indented]
      refine ⟨⟨'\x7b', body, split, by decide⟩, fun rest => ?_⟩
      rw [split]
      change (JsonText.itemsUntil (JsonText.member (JsonText.value depth)) '\x7d'
        (body ++ rest)).map _ = _
      rw [ends]
      rfl

/-- Indented data is read back within any limit that it keeps. -/
theorem readWithin_pretty {depth : Nat} {json : Json} (fits : json.Fits depth) :
    readWithin depth json.pretty = some json := by
  rcases writes_indented fits "" (by simp [JsonText.AreBlanks]) with ⟨opens, finds⟩
  have found := finds []
  have begins := opens.skipBlanks []
  rw [List.append_nil] at found begins
  rw [readWithin, pretty, begins, found]
  rfl

end Json

end CallContracts
