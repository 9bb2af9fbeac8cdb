import Mathlib.Data.List.Sort
import Mathlib.Algebra.BigOperators.Group.List.Basic
import Mathlib.Algebra.GroupWithZero.Nat
import Mathlib.Tactic.Common

/-!
# JSON values and their compact encoding

The JSON values of `serde_json` with insertion-ordered objects, the text their compact encoding
writes, its length in bytes, and the equality of values. Two values are the same value when they
agree up to the order of object keys and up to the sign of a floating-point zero; `canon` picks one
representative of each class, so `SameValue` is an equivalence by construction. The `size_*` lemmas
let a sum over the fields of a record be read off without unfolding the encoder.
-/

/-- A finite double, by the decimal text the encoder prints for it. -/
structure FloatLiteral where
  text : String
  nonempty : text ≠ ""
deriving DecidableEq

/-- A JSON number: an unsigned integer, a negative integer `-(n + 1)`, or a finite double. -/
inductive JsonNumber where
  | posInt (n : ℕ)
  | negInt (n : ℕ)
  | float (literal : FloatLiteral)
deriving DecidableEq

/-- A JSON value. An object lists its fields in insertion order. -/
inductive Json where
  | null
  | bool (value : Bool)
  | number (value : JsonNumber)
  | string (value : String)
  | array (items : List Json)
  | object (fields : List (String × Json))

namespace Json

/-- The field of an object under a key. -/
def get (value : Json) (key : String) : Option Json :=
  match value with
  | .object fields => (fields.find? fun field => decide (field.1 = key)).map (·.2)
  | _ => none

/-- The quotation mark, which opens and closes every encoded string. -/
def quote : Char := Char.ofNat 0x22

/-- The backslash, which starts every escape. -/
def backslash : Char := Char.ofNat 0x5c

/-- The text of one character inside an encoded string. -/
def escapeChar (c : Char) : List Char :=
  match c.toNat with
  | 0x22 => [backslash, quote]
  | 0x5c => [backslash, backslash]
  | 0x08 => [backslash, 'b']
  | 0x09 => [backslash, 't']
  | 0x0a => [backslash, 'n']
  | 0x0c => [backslash, 'f']
  | 0x0d => [backslash, 'r']
  | code =>
    if code < 0x20 then
      [backslash, 'u', '0', '0', Nat.digitChar (code / 16), Nat.digitChar (code % 16)]
    else [c]

/-- The text of a string with every character escaped, without the quotation marks. -/
def escape (s : String) : List Char :=
  s.toList.flatMap escapeChar

/-- The text of an encoded string. -/
def compactString (s : String) : List Char :=
  quote :: (escape s ++ [quote])

/-- The text of an encoded number. -/
def compactNumber : JsonNumber → List Char
  | .posInt n => Nat.toDigits 10 n
  | .negInt n => '-' :: Nat.toDigits 10 (n + 1)
  | .float literal => literal.text.toList

mutual
/-- The compact encoding of a value: no white space, fields in insertion order. -/
def compact : Json → List Char
  | .null => ['n', 'u', 'l', 'l']
  | .bool true => ['t', 'r', 'u', 'e']
  | .bool false => ['f', 'a', 'l', 's', 'e']
  | .number n => compactNumber n
  | .string s => compactString s
  | .array [] => ['[', ']']
  | .array (item :: items) => '[' :: (compact item ++ compactItems items ++ [']'])
  | .object [] => ['{', '}']
  | .object ((key, value) :: fields) =>
    '{' :: (compactString key ++ ':' :: compact value ++ compactFields fields ++ ['}'])

/-- The items of an array after the first, each with the comma before it. -/
def compactItems : List Json → List Char
  | [] => []
  | item :: items => ',' :: (compact item ++ compactItems items)

/-- The fields of an object after the first, each with the comma before it. -/
def compactFields : List (String × Json) → List Char
  | [] => []
  | (key, value) :: fields =>
    ',' :: (compactString key ++ ':' :: compact value ++ compactFields fields)
end

/-! ## Length in bytes -/

/-- The length of a text in UTF-8 bytes. -/
def utf8Length (text : List Char) : ℕ :=
  (text.map Char.utf8Size).sum

@[simp] theorem utf8_length_nil : utf8Length [] = 0 := rfl

@[simp] theorem utf8_length_cons (c : Char) (text : List Char) :
    utf8Length (c :: text) = c.utf8Size + utf8Length text := by
  simp [utf8Length]

@[simp] theorem utf8_length_append (first second : List Char) :
    utf8Length (first ++ second) = utf8Length first + utf8Length second := by
  simp [utf8Length]

/-- The length in bytes of the compact encoding of a value. -/
def size (value : Json) : ℕ :=
  utf8Length value.compact

/-- The length in bytes of an escaped string, without the quotation marks. -/
def escapedLength (s : String) : ℕ :=
  utf8Length (escape s)

theorem escaped_length_append (s t : String) :
    escapedLength (s ++ t) = escapedLength s + escapedLength t := by
  simp [escapedLength, escape, String.toList_append]

@[simp] theorem utf8_length_compact_string (s : String) :
    utf8Length (compactString s) = escapedLength s + 2 := by
  simp only [compactString, utf8_length_cons, utf8_length_append, utf8_length_nil]
  have hquote : quote.utf8Size = 1 := rfl
  rw [hquote, escapedLength]
  omega

@[simp] theorem size_null : size .null = 4 := rfl

@[simp] theorem size_string (s : String) : size (.string s) = escapedLength s + 2 := by
  simp [size, compact]

@[simp] theorem size_array_nil : size (.array []) = 2 := rfl

@[simp] theorem size_object_nil : size (.object []) = 2 := rfl

/-- The length of the fields of an object after the first. -/
def fieldsSize (fields : List (String × Json)) : ℕ :=
  utf8Length (compactFields fields)

@[simp] theorem fields_size_nil : fieldsSize [] = 0 := rfl

@[simp] theorem fields_size_cons (key : String) (value : Json) (fields : List (String × Json)) :
    fieldsSize ((key, value) :: fields) = escapedLength key + 4 + size value + fieldsSize fields := by
  have hcomma : ','.utf8Size = 1 := rfl
  have hcolon : ':'.utf8Size = 1 := rfl
  simp only [fieldsSize, compactFields, size, utf8_length_cons, utf8_length_append,
    utf8_length_compact_string, hcomma, hcolon]
  omega

@[simp] theorem size_object_cons (key : String) (value : Json) (fields : List (String × Json)) :
    size (.object ((key, value) :: fields)) =
      escapedLength key + 5 + size value + fieldsSize fields := by
  have hopen : '{'.utf8Size = 1 := rfl
  have hclose : '}'.utf8Size = 1 := rfl
  have hcolon : ':'.utf8Size = 1 := rfl
  simp only [fieldsSize, compact, size, utf8_length_cons, utf8_length_append,
    utf8_length_compact_string, utf8_length_nil, hopen, hclose, hcolon]
  omega

theorem compact_number_ne_nil (n : JsonNumber) : compactNumber n ≠ [] := by
  cases n with
  | posInt n => exact Nat.toDigits_ne_nil
  | negInt n => simp [compactNumber]
  | float literal => simpa [compactNumber] using literal.nonempty

theorem utf8_length_pos {text : List Char} (h : text ≠ []) : 0 < utf8Length text := by
  cases text with
  | nil => exact absurd rfl h
  | cons c rest =>
    have hc := Char.utf8Size_pos c
    rw [utf8_length_cons]
    omega

theorem size_pos (value : Json) : 0 < size value := by
  apply utf8_length_pos
  match value with
  | .null | .bool true | .bool false => simp [compact]
  | .number n => simpa [compact] using compact_number_ne_nil n
  | .string s => simp [compact, compactString]
  | .array [] | .array (_ :: _) => simp [compact]
  | .object [] | .object ((_, _) :: _) => simp [compact]

theorem two_le_size_object (fields : List (String × Json)) : 2 ≤ size (.object fields) := by
  cases fields with
  | nil => exact le_refl 2
  | cons field rest =>
    obtain ⟨key, value⟩ := field
    rw [size_object_cons]
    omega

theorem two_le_size_array (items : List Json) : 2 ≤ size (.array items) := by
  cases items with
  | nil => exact le_refl 2
  | cons item rest =>
    have hopen : '['.utf8Size = 1 := rfl
    have hclose : ']'.utf8Size = 1 := rfl
    simp only [size, compact, utf8_length_cons, utf8_length_append, utf8_length_nil, hopen,
      hclose]
    omega

/-! ## Equality of values -/

mutual
/-- Structural equality of values. -/
def beq : Json → Json → Bool
  | .null, .null => true
  | .bool a, .bool b => a == b
  | .number a, .number b => a == b
  | .string a, .string b => a == b
  | .array a, .array b => beqItems a b
  | .object a, .object b => beqFields a b
  | _, _ => false

/-- Structural equality of the items of two arrays. -/
def beqItems : List Json → List Json → Bool
  | [], [] => true
  | a :: as, b :: bs => beq a b && beqItems as bs
  | _, _ => false

/-- Structural equality of the fields of two objects. -/
def beqFields : List (String × Json) → List (String × Json) → Bool
  | [], [] => true
  | (k, a) :: as, (l, b) :: bs => k == l && beq a b && beqFields as bs
  | _, _ => false
end

mutual
theorem beq_iff_eq : ∀ a b : Json, beq a b = true ↔ a = b
  | .null, b => by cases b <;> simp [beq]
  | .bool _, b => by cases b <;> simp [beq]
  | .number _, b => by cases b <;> simp [beq]
  | .string _, b => by cases b <;> simp [beq]
  | .array as, b => by
    cases b with
    | array bs => simpa [beq] using beq_items_iff_eq as bs
    | _ => simp [beq]
  | .object as, b => by
    cases b with
    | object bs => simpa [beq] using beq_fields_iff_eq as bs
    | _ => simp [beq]

theorem beq_items_iff_eq : ∀ as bs : List Json, beqItems as bs = true ↔ as = bs
  | [], [] => by simp [beqItems]
  | [], _ :: _ => by simp [beqItems]
  | _ :: _, [] => by simp [beqItems]
  | a :: as, b :: bs => by
    simp [beqItems, beq_iff_eq a b, beq_items_iff_eq as bs]

theorem beq_fields_iff_eq :
    ∀ as bs : List (String × Json), beqFields as bs = true ↔ as = bs
  | [], [] => by simp [beqFields]
  | [], _ :: _ => by simp [beqFields]
  | _ :: _, [] => by simp [beqFields]
  | (k, a) :: as, (l, b) :: bs => by
    simp [beqFields, beq_iff_eq a b, beq_fields_iff_eq as bs]
end

instance : DecidableEq Json := fun a b => decidable_of_iff _ (beq_iff_eq a b)

/-- The representative of a number: the two floating-point zeros are one number. -/
def canonNumber : JsonNumber → JsonNumber
  | .posInt n => .posInt n
  | .negInt n => .negInt n
  | .float literal => .float (if literal.text = "-0.0" then ⟨"0.0", by decide⟩ else literal)

mutual
/-- The representative of a value: the fields of every object sorted by key. -/
def canon : Json → Json
  | .null => .null
  | .bool b => .bool b
  | .number n => .number (canonNumber n)
  | .string s => .string s
  | .array items => .array (canonItems items)
  | .object fields =>
    .object ((canonFields fields).insertionSort fun a b => a.1 ≤ b.1)

/-- The representatives of the items of an array. -/
def canonItems : List Json → List Json
  | [] => []
  | item :: items => canon item :: canonItems items

/-- The fields of an object with the representatives of their values. -/
def canonFields : List (String × Json) → List (String × Json)
  | [] => []
  | (key, value) :: fields => (key, canon value) :: canonFields fields
end

/-- Two values are the same value: equal up to the order of object keys and the sign of zero. -/
def SameValue (a b : Json) : Prop :=
  a.canon = b.canon

instance (a b : Json) : Decidable (SameValue a b) :=
  inferInstanceAs (Decidable (a.canon = b.canon))

theorem same_value_equivalence : Equivalence SameValue :=
  ⟨fun _ => rfl, Eq.symm, Eq.trans⟩

example : SameValue (.object [("a", .null), ("b", .bool true)])
    (.object [("b", .bool true), ("a", .null)]) := by decide

end Json
