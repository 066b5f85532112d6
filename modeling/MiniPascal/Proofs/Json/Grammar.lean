/-
This file states the grammar of RFC 8259, with the value for which a text stands, and shows that
strings and numbers are read in one way.
-/

import MiniPascal.Json
import MiniPascal.Proofs.Scanning.Numerals

namespace MiniPascal.Json

open Lexeme (Numeral)

section Strings

/-- The code units of sixteen bits that encode a character. -/
def utf16 (character : Char) : List Nat :=
  if character.toNat < 0x10000 then [character.toNat]
  else
    [0xd800 + (character.toNat - 0x10000) / 0x400, 0xdc00 + (character.toNat - 0x10000) % 0x400]

def isHighHalf (unit : Nat) : Bool := 0xd800 ≤ unit && unit < 0xdc00

def isLowHalf (unit : Nat) : Bool := 0xdc00 ≤ unit && unit < 0xe000

/-- The characters that code units encode. A half of a pair that stands alone encodes none, and is
read as the replacement character. -/
def ofUtf16 : List Nat → List Char
  | [] => []
  | [unit] => [alone unit]
  | high :: low :: units =>
      if isHighHalf high && isLowHalf low then
        Char.ofNat (0x10000 + (high - 0xd800) * 0x400 + (low - 0xdc00)) :: ofUtf16 units
      else alone high :: ofUtf16 (low :: units)
where
  alone (unit : Nat) : Char :=
    if isHighHalf unit || isLowHalf unit then '\ufffd' else Char.ofNat unit

/-- A letter behind a backslash stands for a character. -/
def shortEscape? : Char → Option Char
  | '"' => some '"'
  | '\\' => some '\\'
  | '/' => some '/'
  | 'b' => some '\x08'
  | 'f' => some '\x0c'
  | 'n' => some '\n'
  | 'r' => some '\r'
  | 't' => some '\t'
  | _ => none

/-- The value of a hexadecimal digit of either case. -/
def hexDigit? (digit : Char) : Option Nat :=
  if digit.isDigit then some (digit.toNat - '0'.toNat)
  else if 'a' ≤ digit ∧ digit ≤ 'f' then some (digit.toNat - 'a'.toNat + 10)
  else if 'A' ≤ digit ∧ digit ≤ 'F' then some (digit.toNat - 'A'.toNat + 10)
  else none

/-- The number that hexadecimal digits write behind the digits of another one. -/
inductive Hexadecimal : Nat → List Char → Nat → Prop where
  | done {value : Nat} : Hexadecimal value [] value
  | digit {value next whole : Nat} {first : Char} {others : List Char}
      (known : hexDigit? first = some next) (behind : Hexadecimal (16 * value + next) others whole) :
      Hexadecimal value (first :: others) whole

/-- The characters between the quotes of a string, and the code units that they write. -/
inductive Body : List Char → List Nat → Prop where
  | done : Body [] []
  | plain {character : Char} {rest : List Char} {units : List Nat} (printed : 0x20 ≤ character.toNat)
      (noQuote : character ≠ '"') (noBackslash : character ≠ '\\') (behind : Body rest units) :
      Body (character :: rest) (utf16 character ++ units)
  | short {letter meant : Char} {rest : List Char} {units : List Nat}
      (known : shortEscape? letter = some meant) (behind : Body rest units) :
      Body ('\\' :: letter :: rest) (utf16 meant ++ units)
  | unit {digits rest : List Char} {unit : Nat} {units : List Nat} (four : digits.length = 4)
      (value : Hexadecimal 0 digits unit) (behind : Body rest units) :
      Body ('\\' :: 'u' :: (digits ++ rest)) (unit :: units)

/-- A string stands between quotes. -/
def IsString (spelling : List Char) (content : String) : Prop :=
  ∃ body units, Body body units ∧ spelling = '"' :: (body ++ ['"']) ∧
    content = String.ofList (ofUtf16 units)

theorem Hexadecimal.unique {value whole other : Nat} {digits : List Char}
    (first : Hexadecimal value digits whole) (second : Hexadecimal value digits other) :
    whole = other := by
  induction first with
  | done =>
      cases second
      rfl
  | digit known _ inductionHypothesis =>
      cases second with
      | digit again behind =>
          cases Option.some.inj (known.symm.trans again)
          exact inductionHypothesis behind

theorem Hexadecimal.append {value middle whole : Nat} {front back : List Char}
    (first : Hexadecimal value front middle) (second : Hexadecimal middle back whole) :
    Hexadecimal value (front ++ back) whole := by
  induction first with
  | done => exact second
  | digit known _ inductionHypothesis => exact .digit known (inductionHypothesis second)

/-- The last hexadecimal digits of a number are read behind those of another one. -/
theorem hexadecimal_reads (count number value : Nat) :
    Hexadecimal value (Text.hexadecimal count number) (16 ^ count * value + number % 16 ^ count) := by
  induction count generalizing number with
  | zero =>
      rw [Nat.pow_zero, Nat.one_mul, Nat.mod_one]
      exact .done
  | succ count inductionHypothesis =>
      have known : hexDigit? (Nat.digitChar (number % 16)) = some (number % 16) := by
        have all : ∀ digit < 16, hexDigit? (Nat.digitChar digit) = some digit := by decide
        exact all _ (Nat.mod_lt _ (by decide))
      have value : 16 ^ (count + 1) * value + number % 16 ^ (count + 1) =
          16 * (16 ^ count * value + number / 16 % 16 ^ count) + number % 16 := by
        rw [Nat.pow_succ', Nat.mod_mul, Nat.mul_add, Nat.mul_assoc]
        omega
      rw [value]
      exact (inductionHypothesis (number / 16)).append (.digit known .done)

section Halves

variable {units : List Nat}

theorem ofUtf16_single {unit : Nat} (noHalf : isHighHalf unit = false ∧ isLowHalf unit = false) :
    ofUtf16 (unit :: units) = Char.ofNat unit :: ofUtf16 units := by
  have alone : ofUtf16.alone unit = Char.ofNat unit := by
    rw [ofUtf16.alone, noHalf.1, noHalf.2]
    rfl
  cases units with
  | nil => exact congrArg (· :: []) alone
  | cons low units => rw [ofUtf16, noHalf.1, Bool.false_and, if_neg Bool.false_ne_true, alone]

/-- The code of a character is below the limit, and is no half of a pair. -/
theorem toNat_valid (character : Char) : character.toNat < 0xd800 ∨
    0xdfff < character.toNat ∧ character.toNat < 0x110000 := character.valid

/-- The units of a character are read as the character. -/
theorem ofUtf16_utf16 (character : Char) (units : List Nat) :
    ofUtf16 (utf16 character ++ units) = character :: ofUtf16 units := by
  have valid := toNat_valid character
  rw [utf16]
  split
  next small =>
    rw [List.singleton_append, ofUtf16_single, Char.ofNat_toNat]
    simp only [isHighHalf, isLowHalf, Bool.and_eq_false_iff, decide_eq_false_iff_not]
    omega
  next large =>
    have halves : isHighHalf (0xd800 + (character.toNat - 0x10000) / 0x400) = true ∧
        isLowHalf (0xdc00 + (character.toNat - 0x10000) % 0x400) = true := by
      simp only [isHighHalf, isLowHalf, Bool.and_eq_true, decide_eq_true_eq]
      omega
    have code : 0x10000 + (0xd800 + (character.toNat - 0x10000) / 0x400 - 0xd800) * 0x400 +
        (0xdc00 + (character.toNat - 0x10000) % 0x400 - 0xdc00) = character.toNat := by
      omega
    rw [List.cons_append, List.singleton_append, ofUtf16, halves.1, halves.2, Bool.and_self,
      if_pos rfl, code, Char.ofNat_toNat]

end Halves

/-- What stands between quotes is read in one way. -/
theorem Body.unique {first second rest behind : List Char} {units others : List Nat}
    (body : Body first units) (other : Body second others)
    (same : first ++ '"' :: rest = second ++ '"' :: behind) :
    first = second ∧ units = others ∧ rest = behind := by
  induction body generalizing second others with
  | done =>
      cases other with
      | done => exact ⟨rfl, rfl, (List.cons.inj same).2⟩
      | plain _ noQuote => exact absurd (List.cons.inj same).1.symm noQuote
      | short | unit => exact absurd (List.cons.inj same).1 (by decide)
  | plain printed noQuote noBackslash _ inductionHypothesis =>
      cases other with
      | done => exact absurd (List.cons.inj same).1 noQuote
      | plain _ _ _ behind =>
          obtain ⟨rfl, others⟩ := List.cons.inj same
          obtain ⟨rfl, rfl, equal⟩ := inductionHypothesis behind others
          exact ⟨rfl, rfl, equal⟩
      | short | unit => exact absurd (List.cons.inj same).1 noBackslash
  | short known _ inductionHypothesis =>
      cases other with
      | done => exact absurd (List.cons.inj same).1 (by decide)
      | plain _ _ noBackslash => exact absurd (List.cons.inj same).1.symm noBackslash
      | short again behind =>
          obtain ⟨rfl, others⟩ := List.cons.inj (List.cons.inj same).2
          cases Option.some.inj (known.symm.trans again)
          obtain ⟨rfl, rfl, equal⟩ := inductionHypothesis behind others
          exact ⟨rfl, rfl, equal⟩
      | unit =>
          obtain ⟨rfl, _⟩ := List.cons.inj (List.cons.inj same).2
          cases known
  | unit four value _ inductionHypothesis =>
      cases other with
      | done => exact absurd (List.cons.inj same).1 (by decide)
      | plain _ _ noBackslash => exact absurd (List.cons.inj same).1.symm noBackslash
      | short again =>
          obtain ⟨rfl, _⟩ := List.cons.inj (List.cons.inj same).2
          cases again
      | unit alsoFour again behind =>
          simp only [List.cons_append, List.append_assoc, List.cons.injEq, true_and] at same
          obtain ⟨rfl, others⟩ := List.append_inj same (four.trans alsoFour.symm)
          obtain rfl := value.unique again
          obtain ⟨rfl, rfl, equal⟩ := inductionHypothesis behind others
          exact ⟨rfl, rfl, equal⟩

/-- A string is read in one way, whatever is behind it. -/
theorem IsString.unique {spelling other rest behind : List Char} {content meaning : String}
    (written : IsString spelling content) (again : IsString other meaning)
    (same : spelling ++ rest = other ++ behind) :
    spelling = other ∧ content = meaning ∧ rest = behind := by
  obtain ⟨body, units, reads, rfl, rfl⟩ := written
  obtain ⟨second, others, readsAgain, rfl, rfl⟩ := again
  simp only [List.cons_append, List.append_assoc, List.nil_append, List.cons.injEq, true_and] at same
  obtain ⟨rfl, rfl, equal⟩ := reads.unique readsAgain same
  exact ⟨rfl, rfl, equal⟩

section Literals

/-- The escape of a code unit is read as the unit. -/
theorem Body.unitEscape {unit : Nat} {rest : List Char} {units : List Nat} (small : unit < 0x10000)
    (behind : Body rest units) : Body (unitEscape unit ++ rest) (unit :: units) := by
  have value := hexadecimal_reads 4 unit 0
  rw [Nat.mul_zero, Nat.zero_add, Nat.mod_eq_of_lt small] at value
  exact .unit (Text.length_hexadecimal 4 unit) value behind

/-- The escape of a character is read as the character. -/
theorem Body.escape {rest : List Char} {units : List Nat} (character : Char)
    (behind : Body rest units) : Body (escape character ++ rest) (utf16 character ++ units) := by
  unfold Json.escape
  split
  case h_8 noQuote noBackslash _ _ _ _ _ =>
    split
    next printed =>
      simp only [Bool.and_eq_true, decide_eq_true_eq] at printed
      exact .plain printed.1 noQuote noBackslash behind
    next =>
      have valid := toNat_valid character
      rw [codeEscape, utf16]
      split
      next small => exact behind.unitEscape small
      next large =>
        rw [List.append_assoc]
        exact .unitEscape (by omega) (.unitEscape (by omega) behind)
  all_goals exact .short rfl behind

theorem body_escapes (content : List Char) :
    Body (content.flatMap Json.escape) (content.flatMap utf16) := by
  induction content with
  | nil => exact .done
  | cons character content inductionHypothesis => exact inductionHypothesis.escape character

theorem ofUtf16_flatMap (content : List Char) : ofUtf16 (content.flatMap utf16) = content := by
  induction content with
  | nil => rfl
  | cons character content inductionHypothesis =>
      rw [List.flatMap_cons, ofUtf16_utf16, inductionHypothesis]

/-- The literal of a text is a string with the text as its content. -/
theorem isString_textLiteral (content : String) : IsString (textLiteral content) content := by
  refine ⟨_, _, body_escapes content.toList, rfl, ?_⟩
  rw [ofUtf16_flatMap, String.ofList_toList]

end Literals

end Strings

section Numbers

/-- A number with a fraction or an exponent is real, and is rounded to the nearest double. -/
def ofNumeral (negative : Bool) (numeral : Numeral) : Json :=
  if numeral.isReal then
    real (Binary64.ofDecimal negative numeral.whole numeral.fraction numeral.power)
  else
    let magnitude := Int.ofNat (Text.digitsValue numeral.whole)
    integer (if negative then -magnitude else magnitude)

/-- A number may have a minus sign, and has no superfluous zero in front. -/
inductive IsNumber : List Char → Json → Prop where
  | number (negative : Bool) {numeral : Numeral} (formed : numeral.Formed)
      (written : numeral.whole ≠ []) (plain : numeral.whole.head? = some '0' → numeral.whole = ['0']) :
      IsNumber ((if negative then ['-'] else []) ++ numeral.spelling) (ofNumeral negative numeral)

/-- A number starts with a minus sign or a digit. -/
theorem IsNumber.head {spelling : List Char} {json : Json} (written : IsNumber spelling json) :
    ∃ first others, spelling = first :: others ∧ (first = '-' ∨ Text.isDigit first = true) := by
  obtain ⟨negative, formed, some, _⟩ := written
  cases negative with
  | true => exact ⟨_, _, rfl, .inl rfl⟩
  | false =>
      obtain ⟨first, behind, spelling, digit⟩ := formed.head some
      exact ⟨first, behind, spelling, .inr digit⟩

end Numbers

/-- A blank is a space, a tab or a line end. -/
def blanks : List Char := [' ', '\t', '\n', '\r']

def IsBlank (text : List Char) : Prop := ∀ character ∈ text, character ∈ blanks

theorem isBlank_nil : IsBlank [] := List.forall_mem_nil _

theorem isBlank_space : IsBlank [' '] := List.forall_mem_singleton.mpr (by decide)

/-- The characters that end an item. -/
def closers : List Char := [',', ']', '\x7d']

/-- The characters that may stand behind a value. -/
def followers : List Char := closers ++ blanks

def Follows (rest : List Char) : Prop := ∀ first, rest.head? = some first → first ∈ followers

section Follows

variable {rest : List Char}

theorem follows_cons {first : Char} (known : first ∈ followers) (rest : List Char) :
    Follows (first :: rest) := by
  intro head same
  cases same
  exact known

theorem IsBlank.follows {gap : List Char} (blank : IsBlank gap) (follows : Follows rest) :
    Follows (gap ++ rest) := by
  cases gap with
  | nil => exact follows
  | cons first gap =>
      have known := blank first List.mem_cons_self
      exact follows_cons (List.mem_append_right closers known) _

/-- What follows a value does not continue a number. -/
theorem Follows.numberEnds (follows : Follows rest) : Lexeme.NumberEnds rest := by
  cases rest with
  | nil => exact ⟨⟨nofun, nofun⟩, rfl⟩
  | cons first rest =>
      have stops : ∀ first ∈ followers, Text.isDigit first = false ∧ first ≠ '.' ∧ first ≠ 'e' ∧
          first ≠ 'E' := by
        simp [followers, closers, blanks, Text.isDigit]
      obtain ⟨noDigit, noPoint, noLetter, noCapital⟩ := stops first (follows first rfl)
      refine ⟨⟨?_, ?_⟩, ?_⟩
      · rintro _ ⟨⟩
        exact noDigit
      · rintro _ ⟨⟩
        exact noPoint
      · have none : Lexeme.exponentMark (first :: rest) = [] := by
          rw [Lexeme.exponentMark_cons, if_neg]
          simp [noLetter, noCapital]
        rw [Lexeme.exponentDigits, none]
        rfl

/-- A number is read in one way before what may follow it. -/
theorem IsNumber.unique {spelling other behind : List Char} {json found : Json}
    (written : IsNumber spelling json) (again : IsNumber other found) (follows : Follows rest)
    (alsoFollows : Follows behind) (same : spelling ++ rest = other ++ behind) :
    json = found ∧ rest = behind := by
  obtain ⟨negative, formed, some, _⟩ := written
  obtain ⟨sign, otherFormed, otherSome, _⟩ := again
  have noMinus {first : Char} (digit : Text.isDigit first = true) : first ≠ '-' := by
    rintro rfl
    cases digit
  -- The sign tells which of the two starts with a digit, and the scanner takes the same numeral.
  have numerals {numeral second : Numeral} (formed : numeral.Formed) (otherFormed : second.Formed)
      (same : numeral.spelling ++ rest = second.spelling ++ behind) :
      numeral = second ∧ rest = behind := by
    have scanned := Numeral.scan_before formed follows.numberEnds
    rw [same, Numeral.scan_before otherFormed alsoFollows.numberEnds] at scanned
    obtain rfl := scanned
    exact ⟨rfl, List.append_cancel_left same⟩
  cases negative with
  | true =>
      cases sign with
      | true =>
          obtain ⟨rfl, equal⟩ := numerals formed otherFormed (List.cons.inj same).2
          exact ⟨rfl, equal⟩
      | false =>
          obtain ⟨first, others, spelling, digit⟩ := otherFormed.head otherSome
          rw [if_neg Bool.false_ne_true, List.nil_append, spelling] at same
          exact absurd (List.cons.inj same).1.symm (noMinus digit)
  | false =>
      cases sign with
      | true =>
          obtain ⟨first, others, spelling, digit⟩ := formed.head some
          rw [if_neg Bool.false_ne_true, List.nil_append, spelling] at same
          exact absurd (List.cons.inj same).1 (noMinus digit)
      | false =>
          obtain ⟨rfl, equal⟩ := numerals formed otherFormed same
          exact ⟨rfl, equal⟩

end Follows

/-- The name of a member stands between blanks before its colon. -/
def IsName (front : List Char) (name : String) : Prop :=
  ∃ before spelling after, IsBlank before ∧ IsString spelling name ∧ IsBlank after ∧
    front = before ++ (spelling ++ (after ++ [':']))

/-- The parts of the grammar, with what they stand for. An item is an element of an array, or a member
of an object with its name. -/
inductive Form where
  | value (json : Json)
  /-- A value between blanks. -/
  | padded (json : Json)
  | item (item : Option String × Json)
  | items (items : List (Option String × Json))

def elementItems (elements : List Json) : List (Option String × Json) :=
  elements.map fun element => (none, element)

def memberItems (members : List (String × Json)) : List (Option String × Json) :=
  members.map fun member => (some member.1, member.2)

/-- The grammar: a form is read at the front of a text up to the rest. -/
inductive Reads : Form → List Char → List Char → Prop where
  | null {rest : List Char} : Reads (.value null) ("null".toList ++ rest) rest
  | yes {rest : List Char} : Reads (.value (truth true)) ("true".toList ++ rest) rest
  | no {rest : List Char} : Reads (.value (truth false)) ("false".toList ++ rest) rest
  | number {spelling rest : List Char} {json : Json} (written : IsNumber spelling json) :
      Reads (.value json) (spelling ++ rest) rest
  | text {spelling rest : List Char} {content : String} (written : IsString spelling content) :
      Reads (.value (text content)) (spelling ++ rest) rest
  | emptyArray {gap rest : List Char} (blank : IsBlank gap) :
      Reads (.value (array [])) ('[' :: (gap ++ ']' :: rest)) rest
  | array {text rest : List Char} {elements : List Json}
      (inside : Reads (.items (elementItems elements)) text (']' :: rest)) :
      Reads (.value (array elements)) ('[' :: text) rest
  | emptyObject {gap rest : List Char} (blank : IsBlank gap) :
      Reads (.value (object [])) ('\x7b' :: (gap ++ '\x7d' :: rest)) rest
  | object {text rest : List Char} {members : List (String × Json)}
      (inside : Reads (.items (memberItems members)) text ('\x7d' :: rest)) :
      Reads (.value (object members)) ('\x7b' :: text) rest
  | padded {before after text rest : List Char} {json : Json} (front : IsBlank before)
      (back : IsBlank after) (value : Reads (.value json) text (after ++ rest)) :
      Reads (.padded json) (before ++ text) rest
  | element {text rest : List Char} {json : Json} (value : Reads (.padded json) text rest) :
      Reads (.item (none, json)) text rest
  | member {front text rest : List Char} {name : String} {json : Json} (named : IsName front name)
      (value : Reads (.padded json) text rest) : Reads (.item (some name, json)) (front ++ text) rest
  | last {text rest : List Char} {item : Option String × Json} (only : Reads (.item item) text rest) :
      Reads (.items [item]) text rest
  | more {text others rest : List Char} {item : Option String × Json}
      {items : List (Option String × Json)} (first : Reads (.item item) text (',' :: others))
      (behind : Reads (.items items) others rest) : Reads (.items (item :: items)) text rest

/-- A text is one value with nothing but blanks around it. -/
def IsText (text : String) (json : Json) : Prop := Reads (.padded json) text.toList []

end MiniPascal.Json
