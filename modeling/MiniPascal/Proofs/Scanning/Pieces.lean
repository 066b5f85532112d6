/-
This file shows that a piece of a text that ends before the end of a front part does not depend on
what comes behind the front.
-/

import Mathlib.Data.List.TakeWhile
import MiniPascal.Lexeme

namespace MiniPascal

/-- An integer or a real number. -/
def Kind.isNumber : Kind → Bool
  | .integer _ | .real _ => true
  | _ => false

namespace Lexeme

open MiniPascal.Text

variable {front rest other : List Char}

/-- A run of characters that ends within the front. -/
theorem takeWhile_front {taken : Char → Bool}
    (inside : ((front ++ rest).takeWhile taken).length < front.length) :
    (front ++ other).takeWhile taken = front.takeWhile taken := by
  rw [List.takeWhile_append] at inside ⊢
  split at inside
  case isTrue whole =>
    rw [List.length_append] at inside
    omega
  case isFalse ends => rw [if_neg ends]

theorem blankLength_front (inside : blankLength (front ++ rest) < front.length) :
    blankLength (front ++ other) = blankLength front := by
  rw [blankLength, takeWhile_front inside, blankLength]

theorem nameLength_front (inside : nameLength (front ++ rest) < front.length) :
    nameLength (front ++ other) = nameLength front := by
  rw [nameLength, takeWhile_front inside, nameLength]

theorem starCommentLength_pos {first : Char} : 0 < starCommentLength (first :: rest) := by
  unfold starCommentLength
  split <;> simp_all

theorem starCommentLength_cons_cons {first second : Char} :
    starCommentLength (first :: second :: rest) =
      if first = '*' ∧ second = ')' then 2 else starCommentLength (second :: rest) + 1 := by
  by_cases closes : first = '*' ∧ second = ')'
  · obtain ⟨rfl, rfl⟩ := closes
    rfl
  · rw [if_neg closes, starCommentLength]
    rintro _ rfl same
    exact closes ⟨rfl, (List.cons.inj same).1⟩

theorem starCommentLength_front (inside : starCommentLength (front ++ rest) < front.length) :
    starCommentLength (front ++ other) = starCommentLength front := by
  induction front with
  | nil => simp at inside
  | cons first front inductionHypothesis =>
      cases front with
      | nil =>
          have pos : 0 < starCommentLength (first :: rest) := starCommentLength_pos
          simp only [List.cons_append, List.nil_append, List.length_cons, List.length_nil] at inside
          omega
      | cons second front =>
          simp only [List.cons_append, starCommentLength_cons_cons] at inside inductionHypothesis ⊢
          split
          case isTrue => rfl
          case isFalse goesOn =>
            rw [if_neg goesOn] at inside
            rw [inductionHypothesis (Nat.lt_of_succ_lt_succ inside)]

theorem startsComment_front (long : 2 ≤ front.length) :
    startsComment (front ++ other) = startsComment front := by
  match front, long with
  | first :: second :: front, _ =>
      simp only [List.cons_append]
      unfold startsComment
      split <;> split <;> simp_all

/-- The first character decides on the kind of the comment. -/
theorem commentLength_cons {first : Char} :
    commentLength (first :: rest) =
      if first = '\x7b' then ((first :: rest).takeWhile (· ≠ '\x7d')).length + 1
      else 2 + starCommentLength (rest.drop 1) := by
  unfold commentLength
  split <;> simp_all

theorem commentLength_front (inside : commentLength (front ++ rest) < front.length) :
    commentLength (front ++ other) = commentLength front := by
  cases front with
  | nil => simp at inside
  | cons first front =>
      rw [List.cons_append, commentLength_cons, List.length_cons] at inside
      rw [List.cons_append, commentLength_cons, commentLength_cons]
      split
      case isTrue brace =>
        rw [if_pos brace] at inside
        rw [← List.cons_append] at inside ⊢
        have whole : ((first :: front ++ rest).takeWhile (· ≠ '\x7d')).length <
            (first :: front).length := by
          rw [List.length_cons]
          omega
        rw [takeWhile_front whole]
      case isFalse star =>
        rw [if_neg star] at inside
        have long : 1 ≤ front.length := by omega
        rw [List.drop_append_of_le_length long] at inside ⊢
        have behind : starCommentLength (front.drop 1 ++ rest) < (front.drop 1).length := by
          rw [List.length_drop]
          omega
        rw [starCommentLength_front behind]

theorem symbol?_front (long : 2 ≤ front.length) :
    symbol? (front ++ other) = symbol? front := by
  match front, long with
  | first :: second :: front, _ =>
      simp only [List.cons_append]
      by_cases colon : first = ':'
      · by_cases equals : second = '=' <;> simp [symbol?, colon, equals]
      · by_cases less : first = '<'
        · by_cases greater : second = '>' <;> by_cases equals : second = '=' <;>
            simp [symbol?, less, greater, equals]
        · by_cases greater : first = '>'
          · by_cases equals : second = '=' <;> simp [symbol?, greater, equals]
          · have single (more : List Char) : symbol? (first :: more) = symbol? [first] := by
              unfold symbol?
              split <;> simp_all
            rw [single, single (second :: front)]

/-- A quote that no other quote follows closes a literal. -/
theorem StringBody.scan_quote {second : Char} (lone : second ≠ '\'') :
    StringBody.scan ('\'' :: second :: rest) = ⟨1, [], true⟩ := by
  rw [StringBody.scan]
  rintro _ same
  exact lone (List.cons.inj same).1

theorem StringBody.scan_other {first : Char} (noQuote : first ≠ '\'') (noLine : first ≠ '\n') :
    StringBody.scan (first :: rest) =
      ⟨(StringBody.scan rest).length + 1, first :: (StringBody.scan rest).content,
        (StringBody.scan rest).closed⟩ := by
  rw [StringBody.scan]
  · exact fun _ quote _ => noQuote quote
  · exact noQuote
  · exact noLine

/-- A string literal that ends within the front. -/
theorem StringBody.scan_front (inside : (StringBody.scan (front ++ rest)).length < front.length) :
    StringBody.scan (front ++ other) = StringBody.scan front := by
  fun_induction StringBody.scan front with
  | case1 => simp at inside
  | case2 front body inductionHypothesis =>
      simp only [List.cons_append, StringBody.scan, List.length_cons] at inside ⊢
      rw [inductionHypothesis (by omega)]
  | case3 front lone =>
      cases front with
      | nil =>
          have quote : 1 ≤ (StringBody.scan ('\'' :: rest)).length := by
            unfold StringBody.scan
            split <;> simp_all
          simp only [List.cons_append, List.nil_append, List.length_cons, List.length_nil] at inside
          omega
      | cons second front =>
          have other : second ≠ '\'' := fun same => lone front (by rw [same])
          exact scan_quote other
  | case4 => rfl
  | case5 character front _ noQuote noLine body inductionHypothesis =>
      rw [List.cons_append, scan_other noQuote noLine] at inside ⊢
      rw [inductionHypothesis (Nat.lt_of_succ_lt_succ inside)]

/-- A point closes the text. -/
def Pointed (text : List Char) : Prop := text.getLast? = some '.'

/-- A nonempty end of a text that a point closes is closed by it. -/
theorem Pointed.of_suffix {text back : List Char} (pointed : Pointed text) (suffix : back <:+ text)
    (nonempty : back ≠ []) : Pointed back := by
  obtain ⟨before, rfl⟩ := suffix
  rw [Pointed, List.getLast?_append] at pointed
  cases last : back.getLast? with
  | none => exact absurd (List.getLast?_eq_none_iff.mp last) nonempty
  | some character =>
      obtain rfl : character = '.' := by simpa [last] using pointed
      exact last

theorem Pointed.of_longer {text back : List Char} (pointed : Pointed back) (suffix : back <:+ text) :
    Pointed text := by
  obtain ⟨before, rfl⟩ := suffix
  rw [Pointed, List.getLast?_append, pointed]
  rfl

theorem Pointed.ne_nil {text : List Char} (pointed : Pointed text) : text ≠ [] := by
  rintro rfl
  cases pointed

/-- Digits end before the point that closes a text. -/
theorem Pointed.dropWhile_isDigit (pointed : Pointed front) :
    Pointed (front.dropWhile isDigit) := by
  refine pointed.of_suffix (List.dropWhile_suffix _) fun all => ?_
  have digits := List.dropWhile_eq_nil_iff.mp all '.' (List.mem_of_getLast? pointed)
  cases digits

theorem Pointed.takeWhile_append (pointed : Pointed front) (other : List Char) :
    (front ++ other).takeWhile isDigit = front.takeWhile isDigit := by
  have nonempty := List.length_pos_iff.mpr pointed.dropWhile_isDigit.ne_nil
  have parts := congrArg List.length (List.takeWhile_append_dropWhile (p := isDigit) (l := front))
  rw [List.length_append] at parts
  rw [List.takeWhile_append, if_neg (by omega)]

theorem Pointed.dropWhile_append (pointed : Pointed front) (other : List Char) :
    (front ++ other).dropWhile isDigit = front.dropWhile isDigit ++ other := by
  have nonempty := pointed.dropWhile_isDigit.ne_nil
  rw [List.dropWhile_append, if_neg (by simpa using nonempty)]

/-- The fraction of a number ends before the point that closes the text. -/
theorem fractionDigits_front (pointed : Pointed front) (long : 2 ≤ front.length) :
    fractionDigits (front ++ other) = fractionDigits front := by
  cases front with
  | nil => cases pointed
  | cons first behind =>
      have nonempty : behind ≠ [] := by
        rintro rfl
        simp at long
      have inner := pointed.of_suffix (List.suffix_cons _ _) nonempty
      by_cases point : first = '.'
      · subst point
        exact inner.takeWhile_append other
      · simp [fractionDigits, point]

theorem exponentMark_front (pointed : Pointed front) :
    exponentMark (front ++ other) = exponentMark front := by
  cases front with
  | nil => cases pointed
  | cons first behind =>
      cases behind with
      | nil =>
          cases pointed
          rfl
      | cons second behind =>
          by_cases plus : second = '+' <;> by_cases minus : second = '-' <;>
            simp [exponentMark, plus, minus]

/-- The mark of an exponent ends before the point that closes the text. -/
theorem length_exponentMark (pointed : Pointed front) :
    (exponentMark front).length < front.length := by
  cases front with
  | nil => cases pointed
  | cons first behind =>
      cases behind with
      | nil =>
          cases pointed
          decide
      | cons second behind =>
          cases behind with
          | nil =>
              obtain rfl : second = '.' := by simpa [Pointed] using pointed
              by_cases letter : first = 'e' || first = 'E' <;> simp [exponentMark, letter]
          | cons third behind =>
              by_cases letter : first = 'e' || first = 'E' <;> by_cases plus : second = '+' <;>
                by_cases minus : second = '-' <;> simp [exponentMark, letter, plus, minus]

/-- What comes behind the fraction of a number, if it has one. -/
def behindFraction (text : List Char) : List Char :=
  if (fractionDigits text).isEmpty then text else text.drop ((fractionDigits text).length + 1)

/-- The digits of the exponent at the start, if there is one. -/
def exponentDigits (text : List Char) : List Char :=
  if (exponentMark text).isEmpty then []
  else (text.drop (exponentMark text).length).takeWhile isDigit

theorem Numeral.scan_eq (text : List Char) :
    Numeral.scan text =
      if (exponentDigits (behindFraction (text.dropWhile isDigit))).isEmpty then
        ⟨text.takeWhile isDigit, fractionDigits (text.dropWhile isDigit), [], []⟩
      else ⟨text.takeWhile isDigit, fractionDigits (text.dropWhile isDigit),
        exponentMark (behindFraction (text.dropWhile isDigit)),
        exponentDigits (behindFraction (text.dropWhile isDigit))⟩ := rfl

/-- A number is at least as long as its whole part. -/
theorem Numeral.length_takeWhile_le (text : List Char) :
    (text.takeWhile isDigit).length ≤ (Numeral.scan text).length := by
  have whole : (Numeral.scan text).whole = text.takeWhile isDigit := by
    rw [Numeral.scan_eq]
    split <;> rfl
  rw [← whole, Numeral.length, Numeral.spelling]
  simp only [List.length_append]
  omega

/-- A fraction ends before the point that closes the text. -/
theorem length_fractionDigits (pointed : Pointed front) (fraction : ¬(fractionDigits front).isEmpty) :
    (fractionDigits front).length + 1 < front.length := by
  cases front with
  | nil => cases pointed
  | cons first behind =>
      by_cases point : first = '.'
      · subst point
        have nonempty : behind ≠ [] := by
          rintro rfl
          exact fraction rfl
        have inner := pointed.of_suffix (List.suffix_cons _ _) nonempty
        have left := List.length_pos_iff.mpr inner.dropWhile_isDigit.ne_nil
        have parts := congrArg List.length
          (List.takeWhile_append_dropWhile (p := isDigit) (l := behind))
        rw [List.length_append] at parts
        simp only [fractionDigits, List.length_cons]
        omega
      · simp [fractionDigits, point] at fraction

/-- Behind the fraction there is still the point that closes the text. -/
theorem behindFraction_front (pointed : Pointed front) (long : 2 ≤ front.length) :
    behindFraction (front ++ other) = behindFraction front ++ other ∧
      Pointed (behindFraction front) := by
  unfold behindFraction
  rw [fractionDigits_front pointed long]
  split
  case isTrue => exact ⟨rfl, pointed⟩
  case isFalse fraction =>
    have inside := length_fractionDigits pointed fraction
    refine ⟨List.drop_append_of_le_length (by omega), ?_⟩
    refine pointed.of_suffix (List.drop_suffix _ _) fun empty => ?_
    have none := List.drop_eq_nil_iff.mp empty
    omega

theorem exponentDigits_front (pointed : Pointed front) :
    exponentDigits (front ++ other) = exponentDigits front := by
  have inside := length_exponentMark pointed
  unfold exponentDigits
  rw [exponentMark_front pointed]
  split
  case isTrue => rfl
  case isFalse =>
    have inner : Pointed (front.drop (exponentMark front).length) := by
      refine pointed.of_suffix (List.drop_suffix _ _) fun empty => ?_
      have none := List.drop_eq_nil_iff.mp empty
      omega
    rw [List.drop_append_of_le_length (by omega), inner.takeWhile_append]

/-- A number that leaves two characters of the front ends there before any rest. -/
theorem Numeral.scan_front (pointed : Pointed front)
    (inside : (Numeral.scan (front ++ rest)).length + 1 < front.length) :
    Numeral.scan (front ++ other) = Numeral.scan front := by
  have behindWhole := pointed.dropWhile_isDigit
  have long : 2 ≤ (front.dropWhile isDigit).length := by
    have parts := congrArg List.length (List.takeWhile_append_dropWhile (p := isDigit) (l := front))
    have whole := Numeral.length_takeWhile_le (front ++ rest)
    rw [pointed.takeWhile_append] at whole
    rw [List.length_append] at parts
    omega
  obtain ⟨kept, behindPointed⟩ :
      behindFraction (front.dropWhile isDigit ++ other) =
          behindFraction (front.dropWhile isDigit) ++ other ∧
        Pointed (behindFraction (front.dropWhile isDigit)) := behindFraction_front behindWhole long
  rw [Numeral.scan_eq, Numeral.scan_eq, pointed.takeWhile_append, pointed.dropWhile_append,
    fractionDigits_front behindWhole long, kept, exponentDigits_front behindPointed,
    exponentMark_front behindPointed]

/-- The length and the kind of the token at the start of a text; at its end there is none. -/
def piece : List Char → Nat × Except Fault Kind
  | [] => (0, .ok .endOfText)
  | first :: behind =>
      match symbol? (first :: behind) with
      | some mark => (mark.spelling.length, .ok (.symbol mark))
      | none =>
          if first = '\'' then
            ((StringBody.scan behind).length + 1, .ok (StringBody.scan behind).kind)
          else if isDigit first then
            ((Numeral.scan (first :: behind)).length, (Numeral.scan (first :: behind)).kind)
          else if isLetter first then
            (nameLength (first :: behind),
              .ok (nameKind (String.ofList ((first :: behind).take (nameLength (first :: behind))))))
          else (1, .ok .error)

/-- Every token has a character. -/
theorem piece_pos (nonempty : front ≠ []) : 0 < (piece front).1 := by
  obtain ⟨first, behind, rfl⟩ := List.exists_cons_of_ne_nil nonempty
  rw [piece]
  split
  case h_1 mark _ => cases mark <;> decide
  case h_2 =>
    split
    · exact Nat.succ_pos _
    · split
      case isTrue digit =>
        have whole := Numeral.length_takeWhile_le (first :: behind)
        rw [List.takeWhile_cons_of_pos digit, List.length_cons] at whole
        exact Nat.lt_of_lt_of_le (Nat.succ_pos _) whole
      case isFalse =>
        split
        case isTrue letter =>
          have continues : continuesName first = true := by
            simp [continuesName, isAlphanumeric_of_isLetter letter]
          simp [nameLength, continues]
        case isFalse => exact Nat.one_pos

theorem Numeral.isNumber_of_kind {numeral : Numeral} {kind : Kind}
    (read : numeral.kind = .ok kind) : kind.isNumber = true := by
  unfold Numeral.kind at read
  split at read
  · split at read <;> cases read
    rfl
  · split at read
    · cases read
    · split at read <;> cases read
      rfl

/-- A reserved word is no number. -/
theorem Numeral.kind_ne_keyword {numeral : Numeral} {kind : Kind} (read : numeral.kind = .ok kind)
    (word : Keyword) : kind ≠ .keyword word := by
  rintro rfl
  cases isNumber_of_kind read

theorem Numeral.kind_ne_symbol {numeral : Numeral} {kind : Kind} (read : numeral.kind = .ok kind)
    (mark : Symbol) : kind ≠ .symbol mark := by
  rintro rfl
  cases isNumber_of_kind read

theorem symbol?_period {text : List Char} (found : symbol? text = some .period) :
    ∃ behind, text = '.' :: behind := by
  unfold symbol? at found
  split at found <;> first | exact ⟨_, rfl⟩ | cases found

/-- Only a point is read as one. -/
theorem piece_period {text : List Char} {length : Nat}
    (found : piece text = (length, .ok (.symbol .period))) :
    length = 1 ∧ ∃ behind, text = '.' :: behind := by
  cases text with
  | nil => cases found
  | cons first behind =>
      rw [piece] at found
      split at found
      case h_1 mark symbol =>
        cases found
        exact ⟨rfl, symbol?_period symbol⟩
      case h_2 =>
        split at found
        case isTrue =>
          have kind := Except.ok.inj (congrArg Prod.snd found)
          unfold StringBody.kind at kind
          split at kind
          · split at kind <;> cases kind
          · cases kind
        case isFalse =>
          split at found
          case isTrue => exact absurd rfl (Numeral.kind_ne_symbol (congrArg Prod.snd found) _)
          case isFalse =>
            split at found
            case isTrue =>
              have kind := Except.ok.inj (congrArg Prod.snd found)
              unfold nameKind at kind
              split at kind <;> cases kind
            case isFalse => cases found

/-- A token that ends within the front is the same one before any rest. A number must not end right
before the point that closes the front. -/
theorem piece_front {length : Nat} {kind : Kind} (pointed : Pointed front)
    (found : piece (front ++ rest) = (length, .ok kind)) (inside : length < front.length)
    (apart : length + 1 < front.length ∨ ∃ word, kind = .keyword word) :
    piece (front ++ other) = (length, .ok kind) := by
  have pos : 0 < length := by
    have nonempty : front ++ rest ≠ [] := by simp [pointed.ne_nil]
    have some := piece_pos nonempty
    rwa [found] at some
  have long : 2 ≤ front.length := by omega
  obtain ⟨first, behind, rfl⟩ := List.exists_cons_of_ne_nil pointed.ne_nil
  have symbols (more : List Char) :
      symbol? (first :: (behind ++ more)) = symbol? (first :: behind) := symbol?_front long
  simp only [List.cons_append, piece, symbols] at found ⊢
  cases symbol : symbol? (first :: behind) with
  | some mark => simpa [symbol] using found
  | none =>
      simp only [symbol] at found ⊢
      by_cases quote : first = '\''
      · rw [if_pos quote] at found ⊢
        have size : (StringBody.scan (behind ++ rest)).length + 1 = length := congrArg Prod.fst found
        have within : (StringBody.scan (behind ++ rest)).length < behind.length := by
          simp only [List.length_cons] at inside
          omega
        rwa [StringBody.scan_front within, ← StringBody.scan_front within]
      · rw [if_neg quote] at found ⊢
        by_cases digit : isDigit first = true
        · rw [if_pos digit] at found ⊢
          have size : (Numeral.scan (first :: behind ++ rest)).length = length :=
            congrArg Prod.fst found
          have early := apart.resolve_right fun ⟨word, isWord⟩ =>
            Numeral.kind_ne_keyword (congrArg Prod.snd found) word isWord
          have within : (Numeral.scan (first :: behind ++ rest)).length + 1 <
              (first :: behind).length := by omega
          have same : Numeral.scan (first :: (behind ++ other)) =
              Numeral.scan (first :: (behind ++ rest)) :=
            (Numeral.scan_front pointed within).trans (Numeral.scan_front pointed within).symm
          rwa [same]
        · rw [if_neg digit] at found ⊢
          by_cases letter : isLetter first = true
          · rw [if_pos letter] at found ⊢
            have size : nameLength (first :: behind ++ rest) = length := congrArg Prod.fst found
            have within : nameLength (first :: behind ++ rest) < (first :: behind).length := by omega
            have same : nameLength (first :: (behind ++ other)) = length :=
              (nameLength_front within).trans ((nameLength_front within).symm.trans size)
            have taken (more : List Char) : (first :: (behind ++ more)).take length =
                (first :: behind).take length :=
              List.take_append_of_le_length (Nat.le_of_lt inside)
            rw [show nameLength (first :: (behind ++ rest)) = length from size, taken] at found
            rwa [same, taken]
          · rwa [if_neg letter] at found ⊢

end Lexeme

end MiniPascal
