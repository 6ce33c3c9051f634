import FragglePacket.Text.Str

/-! JSON texts: the grammar of a value, and the whitespace around it. -/

namespace FragglePacket.Text

def isJsonWhitespace (c : Char) : Bool := c == ' ' || c == '\t' || c == '\n' || c == '\r'

def JsonGap (text : Str) : Prop := ∀ c ∈ text, isJsonWhitespace c = true

/-- What stands between the quotes of a string. -/
inductive StringBody : Str → Prop
  | nil : StringBody []
  | plain {c : Char} {rest : Str} : c ≠ '"' → c ≠ '\\' → 0x20 ≤ c.toNat → StringBody rest →
      StringBody (c :: rest)
  | escape {c : Char} {rest : Str} :
      c ∈ ['"', '\\', '/', 'b', 'f', 'n', 'r', 't'] → StringBody rest →
        StringBody ('\\' :: c :: rest)
  | unicode {code rest : Str} :
      code.length = 4 → (∀ c ∈ code, isAsciiHexdigit c = true) → StringBody rest →
        StringBody ('\\' :: 'u' :: (code ++ rest))

inductive JsonString : Str → Prop
  | quoted {body : Str} : StringBody body → JsonString ('"' :: body ++ ['"'])

def Digits (text : Str) : Prop := text ≠ [] ∧ ∀ c ∈ text, isAsciiDigit c = true

inductive Fraction : Str → Prop
  | none : Fraction []
  | some {digits : Str} : Digits digits → Fraction ('.' :: digits)

inductive Exponent : Str → Prop
  | none : Exponent []
  | some {mark : Char} {sign digits : Str} :
      mark ∈ ['e', 'E'] → sign ∈ [[], ['+'], ['-']] → Digits digits →
        Exponent (mark :: (sign ++ digits))

/-- A number has no zero in front of other digits. -/
inductive JsonNumber : Str → Prop
  | mk {sign whole fraction exponent : Str} :
      sign ∈ [[], ['-']] → Digits whole → (whole.head? = Option.some '0' → whole = ['0']) →
        Fraction fraction →
      Exponent exponent → JsonNumber (sign ++ whole ++ fraction ++ exponent)

inductive JsonPart where
  | value
  | object
  | array
  | members
  | elements

inductive JsonGrammar : JsonPart → Str → Prop
  | literal {text : Str} : text ∈ ["null".toList, "true".toList, "false".toList] →
      JsonGrammar .value text
  | number {text : Str} : JsonNumber text → JsonGrammar .value text
  | string {text : Str} : JsonString text → JsonGrammar .value text
  | ofObject {text : Str} : JsonGrammar .object text → JsonGrammar .value text
  | ofArray {text : Str} : JsonGrammar .array text → JsonGrammar .value text
  | emptyObject {gap : Str} : JsonGap gap → JsonGrammar .object ('{' :: (gap ++ ['}']))
  | object {text : Str} : JsonGrammar .members text → JsonGrammar .object ('{' :: (text ++ ['}']))
  | emptyArray {gap : Str} : JsonGap gap → JsonGrammar .array ('[' :: (gap ++ [']']))
  | array {text : Str} : JsonGrammar .elements text → JsonGrammar .array ('[' :: (text ++ [']']))
  | member {before name between lead value after : Str} :
      JsonGap before → JsonString name → JsonGap between → JsonGap lead → JsonGrammar .value value →
        JsonGap after →
      JsonGrammar .members (before ++ name ++ between ++ ':' :: (lead ++ value ++ after))
  | members {first rest : Str} :
      JsonGrammar .members first → JsonGrammar .members rest →
        JsonGrammar .members (first ++ ',' :: rest)
  | element {before value after : Str} :
      JsonGap before → JsonGrammar .value value → JsonGap after →
        JsonGrammar .elements (before ++ value ++ after)
  | elements {first rest : Str} :
      JsonGrammar .elements first → JsonGrammar .elements rest →
        JsonGrammar .elements (first ++ ',' :: rest)

/-- A value with whitespace around it. -/
inductive JsonText : Str → Prop
  | mk {before value after : Str} :
      JsonGap before → JsonGrammar .value value → JsonGap after →
        JsonText (before ++ value ++ after)

theorem JsonGap.nil : JsonGap [] := fun _ member => absurd member List.not_mem_nil

theorem JsonText.of_value {text : Str} (grammar : JsonGrammar .value text) : JsonText text := by
  have bare := JsonText.mk .nil grammar .nil
  rwa [List.nil_append, List.append_nil] at bare

theorem JsonText.append_gap {text gap : Str} (json : JsonText text)
    (blank : JsonGap gap) : JsonText (text ++ gap) := by
  cases json with
  | @mk before value after front grammar behind =>
    rw [List.append_assoc]
    exact .mk front grammar (List.forall_mem_append.mpr ⟨behind, blank⟩)

/-- The texts of objects and arrays begin with their bracket. -/
theorem JsonGrammar.bracket {text : Str}
    (composite : JsonGrammar .object text ∨ JsonGrammar .array text) :
    ∃ bracket rest, text = bracket :: rest ∧ (bracket = '{' ∨ bracket = '[') := by
  rcases composite with object | array
  · cases object with
    | emptyObject _ => exact ⟨_, _, rfl, .inl rfl⟩
    | object _ => exact ⟨_, _, rfl, .inl rfl⟩
  · cases array with
    | emptyArray _ => exact ⟨_, _, rfl, .inr rfl⟩
    | array _ => exact ⟨_, _, rfl, .inr rfl⟩

theorem JsonGrammar.value_of_composite {text : Str}
    (composite : JsonGrammar .object text ∨ JsonGrammar .array text) :
    JsonGrammar .value text := composite.elim .ofObject .ofArray

/-- What a reader of JSON is relied on for: it accepts the JSON texts and no others, whatever
whitespace is behind them. -/
structure ReadsJson {Value : Type} (fromStr : Str → Except String Value) : Prop where
  accepts : ∀ text, (∃ value, fromStr text = .ok value) ↔ JsonText text
  trailing : ∀ text gap, JsonText text → JsonGap gap → fromStr (text ++ gap) = fromStr text

end FragglePacket.Text
