/-
This file states the lexical grammar, in which the longest word counts, and shows that a scanner takes
behind every gap the word and the token of this grammar.
-/

import Mathlib.Data.List.Induction
import Mathlib.Data.Nat.Digits.Defs
import MiniPascal.Proofs.Scanning.Literals
import MiniPascal.Proofs.Scanning.Lossless

namespace MiniPascal

namespace Lexeme

open MiniPascal.Text

section Longest

/-- A front of the text has the form, and no longer one has it. -/
structure Longest (form : List Char → Prop) (text word : List Char) : Prop where
  front : word <+: text
  formed : form word
  longest : ∀ other, other <+: text → form other → other.length ≤ word.length

variable {form : List Char → Prop} {text word other : List Char}

theorem Longest.unique (found : Longest form text word) (again : Longest form text other) :
    word = other := by
  have atMost := again.longest word found.front found.formed
  have atLeast := found.longest other again.front again.formed
  have inside := List.prefix_of_prefix_length_le found.front again.front atMost
  exact inside.eq_of_length (Nat.le_antisymm atMost atLeast)

/-- A run of characters. -/
def Run (taken : Char → Bool) (word : List Char) : Prop :=
  ∀ character ∈ word, taken character = true

theorem longest_takeWhile (taken : Char → Bool) (text : List Char) :
    Longest (Run taken) text (text.takeWhile taken) where
  front := List.takeWhile_prefix taken
  formed _ := List.mem_takeWhile_imp
  longest := by
    rintro other ⟨rest, rfl⟩ all
    rw [List.takeWhile_append_of_pos all, List.length_append]
    exact Nat.le_add_right _ _

end Longest

section Numbers

variable {text word : List Char} {numeral other : Numeral}

/-- The number that decimal digits write. -/
def decimalValue (digits : List Char) : Nat :=
  Nat.ofDigits 10 (digits.reverse.map fun digit => digit.toNat - '0'.toNat)

theorem digitsValue_eq (digits : List Char) : digitsValue digits = decimalValue digits := by
  induction digits using List.reverseRecOn with
  | nil => rfl
  | append_singleton digits digit inductionHypothesis =>
      rw [digitsValue_append, inductionHypothesis, decimalValue, decimalValue, List.reverse_concat,
        List.map_cons, Nat.ofDigits_cons, Nat.add_comm]

/-- The grammar of numbers: digits, then perhaps a point and digits, then perhaps the letter of an
exponent, its sign if it has one, and digits. -/
def IsNumeral (word : List Char) : Prop :=
  ∃ numeral : Numeral, numeral.Formed ∧ numeral.whole ≠ [] ∧ numeral.spelling = word

theorem Numeral.scan_spelling (formed : numeral.Formed) :
    Numeral.scan numeral.spelling = numeral := by
  have again := scan_before formed (@numberEnds_of_apart [] nofun)
  rwa [List.append_nil] at again

/-- A spelling belongs to one number. -/
theorem Numeral.Formed.unique (formed : numeral.Formed) (otherFormed : other.Formed)
    (same : numeral.spelling = other.spelling) : numeral = other := by
  rw [← scan_spelling formed, same, scan_spelling otherFormed]

theorem Numeral.length_eq (numeral : Numeral) :
    numeral.length = numeral.whole.length + (fractionText numeral.fraction).length +
      (numeral.mark.length + numeral.exponent.length) := by
  rw [length, spelling_eq]
  simp only [List.length_append]
  omega

/-- The number at the start of a text is as long as its whole part and its fraction. -/
theorem Numeral.length_fraction_le (text : List Char) :
    (text.takeWhile isDigit).length +
      (fractionText (fractionDigits (text.dropWhile isDigit))).length ≤ (scan text).length := by
  have parts : (scan text).whole = text.takeWhile isDigit ∧
      (scan text).fraction = fractionDigits (text.dropWhile isDigit) := by
    rw [scan_eq]
    split <;> exact ⟨rfl, rfl⟩
  rw [length_eq, parts.1, parts.2]
  omega

/-- The fraction of a number may go on behind it. -/
theorem Numeral.length_fraction_le_scan (formed : numeral.Formed) (rest : List Char) :
    numeral.whole.length + (fractionText numeral.fraction).length ≤
      (scan (numeral.whole ++ (fractionText numeral.fraction ++ rest))).length := by
  refine Nat.le_trans ?_ (length_fraction_le _)
  cases present : numeral.fraction with
  | nil =>
      rw [List.takeWhile_append_of_pos formed.whole, List.length_append]
      simp only [fractionText, List.isEmpty_nil, if_true, List.length_nil]
      omega
  | cons digit fraction =>
      have point : fractionText (digit :: fraction) ++ rest = '.' :: (digit :: fraction ++ rest) :=
        rfl
      have stops : ∀ first, ('.' :: (digit :: fraction ++ rest)).head? = some first →
          isDigit first = false := by
        intro first head
        cases head
        rfl
      obtain ⟨sameWhole, afterWhole⟩ := takeWhile_stops formed.whole stops
      have taken : fractionDigits ('.' :: (digit :: fraction ++ rest)) =
          digit :: fraction ++ rest.takeWhile isDigit :=
        List.takeWhile_append_of_pos (present ▸ formed.fraction)
      rw [point, sameWhole, afterWhole, taken]
      simp only [fractionText, List.cons_append, List.isEmpty_cons, Bool.false_eq_true, if_false,
        List.length_cons, List.length_append]
      omega

/-- The exponent of a number may go on behind it. -/
theorem Numeral.length_exponent_le_scan (formed : numeral.Formed) (present : numeral.exponent ≠ [])
    (rest : List Char) : numeral.length ≤ (scan (numeral.spelling ++ rest)).length := by
  have split : rest.takeWhile isDigit ++ rest.dropWhile isDigit = rest :=
    List.takeWhile_append_dropWhile
  obtain ⟨more, stops⟩ := parts_of_takeWhile (congrArg (List.takeWhile isDigit) split)
  have longer : Numeral.Formed { numeral with
      exponent := numeral.exponent ++ rest.takeWhile isDigit } := by
    refine ⟨formed.whole, formed.fraction, ?_, .inr ⟨?_, ?_⟩⟩
    · exact List.forall_mem_append.mpr ⟨formed.exponent, more⟩
    · exact List.append_ne_nil_of_left_ne_nil present _
    · exact (formed.mark.resolve_left fun none => present none.2).2
  have same := scan_exponent longer (List.append_ne_nil_of_left_ne_nil present _) stops
  have whole : numeral.spelling ++ rest =
      Numeral.spelling { numeral with exponent := numeral.exponent ++ rest.takeWhile isDigit } ++
        rest.dropWhile isDigit := by
    simp only [spelling, List.append_assoc, split]
  rw [whole, same, length_eq, length_eq, List.length_append]
  dsimp only
  omega

/-- No number at the start of a text is longer than the one that is scanned. -/
theorem Numeral.length_le_scan (formed : numeral.Formed) (rest : List Char) :
    numeral.length ≤ (scan (numeral.spelling ++ rest)).length := by
  by_cases absent : numeral.exponent = []
  · have least := length_fraction_le_scan formed rest
    rw [length_eq, spelling_append, formed.mark_eq_nil absent, absent]
    exact least
  · exact length_exponent_le_scan formed absent rest

/-- The number that is scanned is the longest one. -/
theorem Numeral.longest_scan (digit : text.head?.any isDigit = true) :
    Longest IsNumeral text (Numeral.scan text).spelling where
  front := spelling_starts text
  formed := by
    refine ⟨scan text, formed_scan text, ?_, rfl⟩
    cases text with
    | nil => cases digit
    | cons first behind =>
        have starts : isDigit first = true := digit
        rw [whole_scan, List.takeWhile_cons_of_pos starts]
        exact List.cons_ne_nil _ _
  longest := by
    rintro _ ⟨rest, rfl⟩ ⟨numeral, formed, _, rfl⟩
    exact length_le_scan formed rest

/-- A number starts with a digit. -/
theorem IsNumeral.head (formed : IsNumeral word) : word.head?.any isDigit = true := by
  obtain ⟨numeral, formed, nonempty, rfl⟩ := formed
  obtain ⟨first, behind, whole⟩ := List.exists_cons_of_ne_nil nonempty
  rw [Numeral.spelling_eq, whole]
  exact formed.whole first (whole ▸ List.mem_cons_self)

/-- A number ends with a digit, and so with neither a point nor the letter of an exponent. -/
theorem IsNumeral.last (formed : IsNumeral word) : word.getLast?.any isDigit = true := by
  obtain ⟨numeral, formed, nonempty, rfl⟩ := formed
  have ends {front digits : List Char} (some : digits ≠ [])
      (all : ∀ digit ∈ digits, isDigit digit = true) :
      (front ++ digits).getLast?.any isDigit = true := by
    rw [List.getLast?_append, List.getLast?_eq_some_getLast some, Option.some_or]
    exact all _ (List.getLast_mem some)
  by_cases exponent : numeral.exponent = []
  · rw [Numeral.spelling, formed.mark_eq_nil exponent, exponent, List.append_nil, List.append_nil]
    split
    case isTrue =>
      rw [List.append_nil]
      exact @ends [] _ nonempty formed.whole
    case isFalse present =>
      have some : numeral.fraction ≠ [] := by simpa using present
      rw [← List.singleton_append, ← List.append_assoc]
      exact ends some formed.fraction
  · rw [Numeral.spelling]
    exact ends exponent formed.exponent

theorem Longest.head_of_numeral (longest : Longest IsNumeral text word) :
    text.head?.any isDigit = true := by
  have starts := longest.formed.head
  obtain ⟨rest, rfl⟩ := longest.front
  cases word with
  | nil => cases starts
  | cons => exact starts

end Numbers

section Strings

variable {content rest : List Char}

/-- Every quote is written twice. -/
def doubled (content : List Char) : List Char :=
  content.flatMap fun character => if character = '\'' then ['\'', '\''] else [character]

theorem doubled_quote (content : List Char) :
    doubled ('\'' :: content) = '\'' :: '\'' :: doubled content := rfl

theorem doubled_other {first : Char} (noQuote : first ≠ '\'') (content : List Char) :
    doubled (first :: content) = first :: doubled content := by
  rw [doubled, List.flatMap_cons, if_neg noQuote]
  rfl

/-- Doubled quotes are read as quotes, whatever comes behind them. -/
theorem StringBody.scan_doubled (oneLine : '\n' ∉ content) (rest : List Char) :
    StringBody.scan (doubled content ++ rest) =
      ⟨(doubled content).length + (StringBody.scan rest).length,
        content ++ (StringBody.scan rest).content, (StringBody.scan rest).closed⟩ := by
  induction content with
  | nil => simp [doubled]
  | cons first content inductionHypothesis =>
      obtain ⟨noLine, others⟩ := List.ne_and_not_mem_of_not_mem_cons oneLine
      have behind := inductionHypothesis others
      by_cases quote : first = '\''
      · subst quote
        rw [doubled_quote, List.cons_append, List.cons_append, StringBody.scan, behind]
        simp only [List.length_cons, List.cons_append]
        congr 1
        omega
      · rw [doubled_other quote, List.cons_append, scan_other quote noLine.symm, behind]
        simp only [List.length_cons, List.cons_append]
        congr 1
        omega

theorem StringBody.scan_closed (oneLine : '\n' ∉ content) (lone : rest.head? ≠ some '\'') :
    StringBody.scan (doubled content ++ '\'' :: rest) =
      ⟨(doubled content).length + 1, content, true⟩ := by
  have closes : StringBody.scan ('\'' :: rest) = ⟨1, [], true⟩ := by
    cases rest with
    | nil => rfl
    | cons second rest => exact scan_quote fun same => lone (congrArg some same)
  rw [scan_doubled oneLine, closes, List.append_nil]

theorem StringBody.scan_unclosed (oneLine : '\n' ∉ content)
    (ends : ∀ first, rest.head? = some first → first = '\n') :
    StringBody.scan (doubled content ++ rest) = ⟨(doubled content).length, content, false⟩ := by
  rw [scan_doubled oneLine, scan_open ends, List.append_nil]
  rfl

/-- A text goes up to its first lone quote, or up to the end of its line. -/
theorem exists_doubled (text : List Char) :
    ∃ content rest, '\n' ∉ content ∧
      (text = doubled content ++ '\'' :: rest ∧ rest.head? ≠ some '\'' ∨
        text = doubled content ++ rest ∧ ∀ first, rest.head? = some first → first = '\n') := by
  fun_induction StringBody.scan text with
  | case1 =>
      refine ⟨[], [], List.not_mem_nil, .inr ⟨rfl, fun first head => ?_⟩⟩
      cases head
  | case2 behind _ inductionHypothesis =>
      obtain ⟨content, rest, oneLine, found⟩ := inductionHypothesis
      refine ⟨'\'' :: content, rest, List.not_mem_cons_of_ne_of_not_mem (by decide) oneLine, ?_⟩
      rw [doubled_quote]
      exact found.imp (fun closed => ⟨by rw [closed.1]; rfl, closed.2⟩)
        fun opened => ⟨by rw [opened.1]; rfl, opened.2⟩
  | case3 behind lone =>
      refine ⟨[], behind, List.not_mem_nil, .inl ⟨rfl, fun quote => ?_⟩⟩
      obtain ⟨more, rfl⟩ := List.head?_eq_some_iff.mp quote
      exact lone more rfl
  | case4 behind =>
      refine ⟨[], '\n' :: behind, List.not_mem_nil, .inr ⟨rfl, fun first head => ?_⟩⟩
      exact (Option.some.inj head).symm
  | case5 character behind _ noQuote noLine _ inductionHypothesis =>
      obtain ⟨content, rest, oneLine, found⟩ := inductionHypothesis
      refine ⟨character :: content, rest,
        List.not_mem_cons_of_ne_of_not_mem (Ne.symm noLine) oneLine, ?_⟩
      rw [doubled_other noQuote]
      exact found.imp (fun closed => ⟨by rw [closed.1]; rfl, closed.2⟩)
        fun opened => ⟨by rw [opened.1]; rfl, opened.2⟩

/-- A closed literal with one character of content is a character, any other one a string. -/
def literalKind : List Char → Kind
  | [character] => .character character
  | content => .string (String.ofList content)

end Strings

section Marks

variable {text : List Char} {mark : Symbol}

/-- The spelling of an operator or of a punctuation mark. -/
def IsMark (word : List Char) : Prop := ∃ mark : Symbol, mark.spelling.toList = word

/-- Where a mark stands, none that is shorter is read. -/
theorem symbol?_of_front (mark : Symbol) (rest : List Char) :
    ∃ found, symbol? (mark.spelling.toList ++ rest) = some found ∧
      mark.spelling.toList.length ≤ found.spelling.toList.length := by
  have pos (found : Symbol) : 1 ≤ found.spelling.toList.length := by cases found <;> decide
  cases present : symbol? (mark.spelling.toList ++ rest) with
  | none => cases mark <;> exact absurd present (symbol?_eq_none_iff.not.mpr (by decide))
  | some found =>
      refine ⟨found, rfl, ?_⟩
      cases mark with
      | colonEquals | notEquals | lessEquals | greaterEquals =>
          cases present
          exact Nat.le_refl _
      | _ => exact pos found

theorem longest_symbol? (found : symbol? text = some mark) :
    Longest IsMark text mark.spelling.toList where
  front := by
    obtain ⟨rest, rfl⟩ := symbol?_spelling found
    exact List.prefix_append _ _
  formed := ⟨mark, rfl⟩
  longest := by
    rintro _ ⟨rest, rfl⟩ ⟨other, rfl⟩
    obtain ⟨again, same, long⟩ := symbol?_of_front other rest
    obtain rfl := Option.some.inj (found.symm.trans same)
    exact long

theorem symbol_eq_of_spelling {first second : Symbol}
    (same : first.spelling.toList = second.spelling.toList) : first = second := by
  revert same
  cases first <;> cases second <;> decide

theorem symbol?_of_longest (longest : Longest IsMark text mark.spelling.toList) :
    symbol? text = some mark := by
  obtain ⟨rest, whole⟩ := longest.front
  obtain ⟨found, read, _⟩ := symbol?_of_front mark rest
  rw [whole] at read
  rw [read, symbol_eq_of_spelling (longest.unique (longest_symbol? read))]

end Marks

/-- The lexical grammar: the word at the start of a text, and the kind of token that it is or the fault
that it raises. -/
inductive Lexes (text : List Char) : List Char → Except Fault Kind → Prop where
  | integer {word : List Char} (longest : Longest IsNumeral text word) (digits : Run isDigit word)
      (fits : word.length ≤ integerDigitLimit) :
      Lexes text word (.ok (.integer (decimalValue word)))
  | tooLong {word : List Char} (longest : Longest IsNumeral text word) (digits : Run isDigit word)
      (long : integerDigitLimit < word.length) :
      Lexes text word (.error (.integerTooLong word.length))
  | real {numeral : Numeral} (longest : Longest IsNumeral text numeral.spelling)
      (formed : numeral.Formed) (options : numeral.fraction ≠ [] ∨ numeral.exponent ≠ []) :
      Lexes text numeral.spelling
        (.ok (.real (Binary64.ofDecimal false numeral.whole numeral.fraction numeral.power)))
  | keyword {word : List Char} {reserved : Keyword} (letter : text.head?.any isLetter = true)
      (longest : Longest (Run continuesName) text word)
      (same : lower (String.ofList word) = reserved.spelling) :
      Lexes text word (.ok (.keyword reserved))
  | identifier {word : List Char} (letter : text.head?.any isLetter = true)
      (longest : Longest (Run continuesName) text word)
      (free : ∀ reserved : Keyword, lower (String.ofList word) ≠ reserved.spelling) :
      Lexes text word (.ok .identifier)
  /-- A string literal goes up to the first quote that no other quote follows. -/
  | string {content rest : List Char} (oneLine : '\n' ∉ content)
      (whole : text = '\'' :: (doubled content ++ '\'' :: rest)) (lone : rest.head? ≠ some '\'') :
      Lexes text ('\'' :: (doubled content ++ ['\''])) (.ok (literalKind content))
  | openString {content rest : List Char} (oneLine : '\n' ∉ content)
      (whole : text = '\'' :: (doubled content ++ rest))
      (ends : ∀ first, rest.head? = some first → first = '\n') :
      Lexes text ('\'' :: doubled content) (.ok .error)
  | symbol {mark : Symbol} (longest : Longest IsMark text mark.spelling.toList) :
      Lexes text mark.spelling.toList (.ok (.symbol mark))
  | other {first : Char} (head : text.head? = some first) (noMark : ¬IsMark [first])
      (noQuote : first ≠ '\'') (noDigit : isDigit first = false) (noLetter : isLetter first = false) :
      Lexes text [first] (.ok .error)

variable {text word other : List Char} {outcome : Except Fault Kind}

theorem Numeral.kind_of_digits {digits : List Char} (nonempty : digits ≠ []) :
    (⟨digits, [], [], []⟩ : Numeral).kind =
      if integerDigitLimit < digits.length then .error (.integerTooLong digits.length)
      else .ok (.integer (decimalValue digits)) := by
  have present : digits.isEmpty = false := by simpa using nonempty
  rw [kind, ← digitsValue_eq]
  dsimp only
  rw [present]
  rfl

/-- A number with an option is real. -/
theorem Numeral.kind_of_options {numeral : Numeral} (nonempty : numeral.whole ≠ [])
    (options : numeral.fraction ≠ [] ∨ numeral.exponent ≠ []) :
    numeral.kind =
      .ok (.real (Binary64.ofDecimal false numeral.whole numeral.fraction numeral.power)) := by
  have real : numeral.isReal = true := by simpa [isReal] using options
  have present : numeral.whole.isEmpty = false := by simpa using nonempty
  rw [kind, real, if_pos rfl, present]
  rfl

theorem piece_of_numeral (longest : Longest IsNumeral text word) :
    word = (Numeral.scan text).spelling ∧ (Numeral.scan text).whole ≠ [] ∧
      piece text = (word.length, (Numeral.scan text).kind) := by
  have digit := longest.head_of_numeral
  cases text with
  | nil => cases digit
  | cons first behind =>
      have starts : isDigit first = true := digit
      have same := longest.unique (Numeral.longest_scan digit)
      have continues : continuesName first = true := by
        rw [continuesName, isAlphanumeric_of_isDigit starts, Bool.true_or]
      obtain ⟨_, unmarked, _⟩ := starts_of_continuesName continues behind
      refine ⟨same, ?_, ?_⟩
      · rw [Numeral.whole_scan, List.takeWhile_cons_of_pos starts]
        exact List.cons_ne_nil _ _
      · rw [piece_of_digit unmarked starts, same, Numeral.length]

/-- A number of digits alone has neither of the options. -/
theorem piece_of_digits (longest : Longest IsNumeral text word) (digits : Run isDigit word) :
    piece text = (word.length,
      if integerDigitLimit < word.length then .error (.integerTooLong word.length)
      else .ok (.integer (decimalValue word))) := by
  obtain ⟨same, nonempty, found⟩ := piece_of_numeral longest
  have plain : Numeral.Formed ⟨word, [], [], []⟩ := ⟨digits, nofun, nofun, .inl ⟨rfl, rfl⟩⟩
  have whole : Numeral.scan text = ⟨word, [], [], []⟩ :=
    (Numeral.formed_scan text).unique plain (by rw [← same]; simp [Numeral.spelling])
  rw [whole] at nonempty found
  rw [found, Numeral.kind_of_digits nonempty]

theorem piece_of_name (letter : text.head?.any isLetter = true)
    (longest : Longest (Run continuesName) text word) :
    piece text = (word.length, .ok (nameKind (String.ofList word))) := by
  cases text with
  | nil => cases letter
  | cons first behind =>
      have starts : isLetter first = true := letter
      obtain ⟨_, unmarked, noQuote⟩ :=
        starts_of_continuesName (continuesName_of_isLetter starts) behind
      rw [piece_of_letter unmarked noQuote (isDigit_of_isLetter starts) starts,
        longest.unique (longest_takeWhile continuesName _)]
      rfl

theorem nameKind_eq_keyword {spelling : String} {reserved : Keyword}
    (same : lower spelling = reserved.spelling) : nameKind spelling = .keyword reserved := by
  rw [nameKind, Keyword.ofSpelling?_eq_some_iff.mpr same]

theorem nameKind_eq_identifier {spelling : String}
    (free : ∀ reserved : Keyword, lower spelling ≠ reserved.spelling) :
    nameKind spelling = .identifier := by
  rw [nameKind]
  split
  case h_1 reserved found => exact absurd (Keyword.ofSpelling?_eq_some_iff.mp found) (free reserved)
  case h_2 => rfl

theorem symbol?_of_noMark {first : Char} (noMark : ¬IsMark [first]) (behind : List Char) :
    symbol? (first :: behind) = none := by
  have alone : symbol? [first] = none := by
    cases found : symbol? [first] with
    | none => rfl
    | some mark =>
        obtain ⟨rest, whole⟩ := symbol?_spelling found
        refine absurd ⟨mark, ?_⟩ noMark
        cases mark <;> cases whole <;> rfl
  exact symbol?_none_of_head alone behind

/-- The word of the grammar is the piece of text that a scanner takes. -/
theorem Lexes.piece (lexes : Lexes text word outcome) :
    word <+: text ∧ Lexeme.piece text = (word.length, outcome) := by
  cases lexes with
  | integer longest digits fits =>
      refine ⟨longest.front, ?_⟩
      rw [piece_of_digits longest digits, if_neg (Nat.not_lt_of_le fits)]
  | tooLong longest digits long =>
      refine ⟨longest.front, ?_⟩
      rw [piece_of_digits longest digits, if_pos long]
  | real longest formed options =>
      obtain ⟨same, nonempty, found⟩ := piece_of_numeral longest
      obtain rfl := formed.unique (Numeral.formed_scan text) same
      exact ⟨longest.front, found.trans (congrArg _ (Numeral.kind_of_options nonempty options))⟩
  | keyword letter longest same =>
      exact ⟨longest.front, by rw [piece_of_name letter longest, nameKind_eq_keyword same]⟩
  | identifier letter longest free =>
      exact ⟨longest.front, by rw [piece_of_name letter longest, nameKind_eq_identifier free]⟩
  | string oneLine whole lone =>
      subst whole
      refine ⟨⟨_, by rw [List.cons_append, List.append_assoc]; rfl⟩, ?_⟩
      rw [piece_of_quote, StringBody.scan_closed oneLine lone, List.length_cons, List.length_append]
      rfl
  | openString oneLine whole ends =>
      subst whole
      refine ⟨⟨_, rfl⟩, ?_⟩
      rw [piece_of_quote, StringBody.scan_unclosed oneLine ends]
      rfl
  | symbol longest =>
      refine ⟨longest.front, ?_⟩
      rw [piece_of_symbol (symbol?_of_longest longest), String.length_toList]
  | other head noMark noQuote noDigit noLetter =>
      obtain ⟨behind, rfl⟩ := List.head?_eq_some_iff.mp head
      refine ⟨⟨behind, rfl⟩, ?_⟩
      exact piece_of_other (symbol?_of_noMark noMark behind) noQuote noDigit noLetter

theorem Lexes.unique {otherOutcome : Except Fault Kind} (lexes : Lexes text word outcome)
    (again : Lexes text other otherOutcome) : word = other ∧ outcome = otherOutcome := by
  obtain ⟨front, found⟩ := lexes.piece
  obtain ⟨otherFront, otherFound⟩ := again.piece
  obtain ⟨length, same⟩ := Prod.mk.inj (found.symm.trans otherFound)
  refine ⟨?_, same⟩
  rw [List.prefix_iff_eq_take.mp front, length, ← List.prefix_iff_eq_take.mp otherFront]

/-- At a digit the longest number is an integer or a real number. -/
theorem exists_lexes_of_digit (digit : text.head?.any isDigit = true) :
    ∃ outcome, Lexes text (Numeral.scan text).spelling outcome := by
  have longest := Numeral.longest_scan digit
  have formed := Numeral.formed_scan text
  by_cases options : (Numeral.scan text).fraction ≠ [] ∨ (Numeral.scan text).exponent ≠ []
  · exact ⟨_, .real longest formed options⟩
  · have none : (Numeral.scan text).fraction = [] ∧ (Numeral.scan text).exponent = [] := by
      simpa using options
    have mark := formed.mark_eq_nil none.2
    have digits : Run isDigit (Numeral.scan text).spelling := by
      simpa [Run, Numeral.spelling, none, mark] using formed.whole
    by_cases long : integerDigitLimit < (Numeral.scan text).spelling.length
    · exact ⟨_, .tooLong longest digits long⟩
    · exact ⟨_, .integer longest digits (Nat.le_of_not_lt long)⟩

theorem exists_lexes_of_letter (letter : text.head?.any isLetter = true) :
    ∃ outcome, Lexes text (text.takeWhile continuesName) outcome := by
  have longest := longest_takeWhile continuesName text
  by_cases reserved : ∃ reserved : Keyword,
      lower (String.ofList (text.takeWhile continuesName)) = reserved.spelling
  · obtain ⟨reserved, same⟩ := reserved
    exact ⟨_, .keyword letter longest same⟩
  · exact ⟨_, .identifier letter longest fun other same => reserved ⟨other, same⟩⟩

theorem exists_lexes_of_quote (behind : List Char) :
    ∃ word outcome, Lexes ('\'' :: behind) word outcome := by
  obtain ⟨content, rest, oneLine, ⟨rfl, lone⟩ | ⟨rfl, ends⟩⟩ := exists_doubled behind
  · exact ⟨_, _, .string oneLine rfl lone⟩
  · exact ⟨_, _, .openString oneLine rfl ends⟩

/-- Every text that is not empty starts with a word of the grammar. -/
theorem exists_lexes (nonempty : text ≠ []) : ∃ word outcome, Lexes text word outcome := by
  obtain ⟨first, behind, rfl⟩ := List.exists_cons_of_ne_nil nonempty
  cases marked : symbol? (first :: behind) with
  | some mark => exact ⟨_, _, .symbol (longest_symbol? marked)⟩
  | none =>
      by_cases quote : first = '\''
      · subst quote
        exact exists_lexes_of_quote behind
      · cases digit : isDigit first with
        | true => exact ⟨_, exists_lexes_of_digit digit⟩
        | false =>
            cases letter : isLetter first with
            | true => exact ⟨_, exists_lexes_of_letter letter⟩
            | false =>
                refine ⟨_, _, .other rfl ?_ quote digit letter⟩
                rintro ⟨mark, same⟩
                obtain ⟨found, read, _⟩ := symbol?_of_front mark behind
                rw [same, List.singleton_append, marked] at read
                cases read

/-- A word that starts with a digit ends with one: neither a point nor the letter of an exponent is
swallowed without digits behind it. -/
theorem Lexes.last (lexes : Lexes text word outcome) (digit : text.head?.any isDigit = true) :
    word.getLast?.any isDigit = true := by
  obtain ⟨_, longest⟩ := exists_lexes_of_digit digit
  rw [(lexes.unique longest).1]
  exact (Numeral.longest_scan digit).formed.last

/-- A word that starts with a letter has no point. -/
theorem Lexes.noPoint (lexes : Lexes text word outcome) (letter : text.head?.any isLetter = true) :
    '.' ∉ word := by
  obtain ⟨_, longest⟩ := exists_lexes_of_letter letter
  rw [(lexes.unique longest).1]
  exact fun inside => absurd (List.mem_takeWhile_imp inside) (by decide)

end Lexeme

open Lexeme

/-- A scanner comes to the end of its text, or it passes a closed gap and takes the one word that the
lexical grammar has for the text behind it. A number is taken up to its last digit, and a name up to a
point. -/
theorem scanner_takes_longest_match (scanner : Scanner) :
    (FinalGap scanner.rest ∧
        scanner.next.1 = .ok (.endOfText (scanner.line + scanner.rest.count '\n'))) ∨
      ∃ gap text word outcome, ClosedGap gap ∧ Starts text ∧ scanner.rest = gap ++ text ∧
        Lexes text word outcome ∧
        (∀ other otherOutcome, Lexes text other otherOutcome →
          other = word ∧ otherOutcome = outcome) ∧
        (text.head?.any Text.isDigit = true → word.getLast?.any Text.isDigit = true) ∧
        (text.head?.any Text.isLetter = true → '.' ∉ word) ∧
        scanner.next = (outcome.map fun kind =>
            ⟨kind, String.ofList word, scanner.line + gap.count '\n'⟩,
          scanner.skip (gap.length + word.length)) := by
  obtain ⟨gap, passes⟩ := scanner.exists_passesGap
  by_cases empty : scanner.skipGap.rest = []
  · have whole : scanner.rest = gap := by rw [passes.whole, empty, List.append_nil]
    refine .inl ⟨whole ▸ passes.final, ?_⟩
    rw [Scanner.next, Scanner.token]
    simp only [empty, passes.line, whole]
  · have starts := scanner.skipGap_settled.starts
    obtain ⟨word, outcome, lexes⟩ := exists_lexes empty
    obtain ⟨front, found⟩ := lexes.piece
    refine .inr ⟨gap, _, word, outcome, passes.closed empty, starts, passes.whole, lexes,
      fun _ _ again => again.unique lexes, lexes.last, lexes.noPoint, ?_⟩
    have settled : ∀ place : Scanner, place.rest = scanner.skipGap.rest → place.Settled := by
      intro place same
      rw [← same] at starts
      exact ⟨starts.noBlank, starts.noComment⟩
    have passed := Scanner.skipGap_before_settled (passes.closed empty) passes.whole settled
    rw [Scanner.next, Scanner.token_eq_take empty, found, Scanner.take,
      ← List.prefix_iff_eq_take.mp front, passes.line, ← Scanner.skip_skip, ← passed]

end MiniPascal
