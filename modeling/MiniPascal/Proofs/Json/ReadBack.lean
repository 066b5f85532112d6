/-
This file shows that the indented text of a structured value is a text of the grammar for this value
and for no other, and for none when a number in the value is not finite.
-/

import MiniPascal.Proofs.Json.Rendered
import MiniPascal.Proofs.Scanning.Gaps

namespace MiniPascal.Json

variable {indent : Nat} {gap back text rest behind : List Char} {json found : Json}

section Inversion

/-- Items between brackets are read up to the closing bracket. -/
def Inside (closing : Char) (items : List (Option String × Json)) (text rest : List Char) : Prop :=
  (items = [] ∧ ∃ gap, IsBlank gap ∧ text = gap ++ closing :: rest) ∨
    Reads (.items items) text (closing :: rest)

/-- How a value is written in front of a rest. -/
def Written (text rest : List Char) : Json → Prop
  | null => text = "null".toList ++ rest
  | integer number => ∃ spelling, IsNumber spelling (integer number) ∧ text = spelling ++ rest
  | real number => ∃ spelling, IsNumber spelling (real number) ∧ text = spelling ++ rest
  | Json.text content => ∃ spelling, IsString spelling content ∧ text = spelling ++ rest
  | truth flag => text = (if flag then "true" else "false").toList ++ rest
  | array elements => ∃ inside, text = '[' :: inside ∧ Inside ']' (elementItems elements) inside rest
  | object members =>
      ∃ inside, text = '\x7b' :: inside ∧ Inside '\x7d' (memberItems members) inside rest

theorem IsNumber.integer_or_real (written : IsNumber text json) :
    (∃ number, json = integer number) ∨ ∃ number, json = real number := by
  obtain ⟨negative, _⟩ := written
  rw [ofNumeral]
  split
  · exact .inr ⟨_, rfl⟩
  · exact .inl ⟨_, rfl⟩

theorem Reads.written (reads : Reads (.value json) text rest) : Written text rest json := by
  cases reads with
  | null | yes | no => rfl
  | number written =>
      obtain ⟨number, rfl⟩ | ⟨number, rfl⟩ := written.integer_or_real
      · exact ⟨_, written, rfl⟩
      · exact ⟨_, written, rfl⟩
  | text written => exact ⟨_, written, rfl⟩
  | emptyArray blank => exact ⟨_, rfl, .inl ⟨rfl, _, blank, rfl⟩⟩
  | array inside => exact ⟨_, rfl, .inr inside⟩
  | emptyObject blank => exact ⟨_, rfl, .inl ⟨rfl, _, blank, rfl⟩⟩
  | object inside => exact ⟨_, rfl, .inr inside⟩

theorem Reads.padded_cases (reads : Reads (.padded json) text rest) :
    ∃ before after value, IsBlank before ∧ IsBlank after ∧ text = before ++ value ∧
      Reads (.value json) value (after ++ rest) := by
  cases reads with
  | padded front back value => exact ⟨_, _, _, front, back, rfl, value⟩

theorem Reads.item_cases {item : Option String × Json} (reads : Reads (.item item) text rest) :
    (item.1 = none ∧ Reads (.padded item.2) text rest) ∨
      ∃ name front value, item.1 = some name ∧ IsName front name ∧ text = front ++ value ∧
        Reads (.padded item.2) value rest := by
  cases reads with
  | element value => exact .inl ⟨rfl, value⟩
  | member named value => exact .inr ⟨_, _, _, rfl, named, rfl, value⟩

theorem Reads.items_cases {item : Option String × Json} {items : List (Option String × Json)}
    (reads : Reads (.items (item :: items)) text rest) :
    (items = [] ∧ Reads (.item item) text rest) ∨
      ∃ others, Reads (.item item) text (',' :: others) ∧ Reads (.items items) others rest := by
  cases reads with
  | last only => exact .inl ⟨rfl, only⟩
  | more first behind => exact .inr ⟨_, first, behind⟩

end Inversion

section Starts

/-- What the first character of a value tells of it. -/
inductive Shape where
  | null
  | number
  | text
  | truth (flag : Bool)
  | array
  | object

def shape : Json → Shape
  | null => .null
  | integer _ | real _ => .number
  | Json.text _ => .text
  | truth flag => .truth flag
  | array _ => .array
  | object _ => .object

/-- The shape of the values that start with a character. -/
def shapeAt? : Char → Option Shape
  | 'n' => some .null
  | '-' => some .number
  | '"' => some .text
  | 't' => some (.truth true)
  | 'f' => some (.truth false)
  | '[' => some .array
  | '\x7b' => some .object
  | other => if Text.isDigit other then some .number else none

theorem shapeAt?_digit {first : Char} (digit : Text.isDigit first = true) :
    shapeAt? first = some .number := by
  unfold shapeAt?
  split
  case h_8 => rw [if_pos digit]
  all_goals first | rfl | cases digit

theorem Written.starts (written : Written text rest json) :
    ∃ first others, text = first :: others ∧ shapeAt? first = some json.shape := by
  cases json with
  | null => exact ⟨_, _, written, rfl⟩
  | integer | real =>
      obtain ⟨spelling, number, rfl⟩ := written
      obtain ⟨first, others, rfl, rfl | digit⟩ := number.head
      · exact ⟨_, _, rfl, rfl⟩
      · exact ⟨_, _, rfl, shapeAt?_digit digit⟩
  | text =>
      obtain ⟨spelling, ⟨body, units, _, rfl, _⟩, rfl⟩ := written
      exact ⟨_, _, rfl, rfl⟩
  | truth flag => cases flag <;> exact ⟨_, _, written, rfl⟩
  | array | object =>
      obtain ⟨inside, rfl, _⟩ := written
      exact ⟨_, _, rfl, rfl⟩

theorem shapeAt?_head {first : Char} {others : List Char}
    (reads : Reads (.value json) (first :: others) rest) : shapeAt? first = some json.shape := by
  obtain ⟨_, _, same, starts⟩ := reads.written.starts
  obtain ⟨rfl, _⟩ := List.cons.inj same
  exact starts

/-- Two values that are read at the start of one text have the same shape. -/
theorem shape_unique (reads : Reads (.value json) text rest)
    (again : Reads (.value found) text behind) : json.shape = found.shape := by
  obtain ⟨first, others, rfl, starts⟩ := reads.written.starts
  exact Option.some.inj (starts.symm.trans (shapeAt?_head again))

end Starts

section Gaps

/-- A text that does not start with a blank. -/
def Solid (text : List Char) : Prop := ∀ first, text.head? = some first → first ∉ blanks

theorem solid_cons {first : Char} (apart : first ∉ blanks) (others : List Char) :
    Solid (first :: others) := by
  rintro _ ⟨⟩
  exact apart

/-- Blanks end before what is none. -/
theorem IsBlank.unique {other tail : List Char} (blank : IsBlank gap) (again : IsBlank other)
    (solid : Solid text) (alsoSolid : Solid tail) (same : gap ++ text = other ++ tail) :
    gap = other ∧ text = tail := by
  let taken (character : Char) : Bool := character ∈ blanks
  have ends {gap text : List Char} (blank : IsBlank gap) (solid : Solid text) :
      (gap ++ text).takeWhile taken = gap ∧ (gap ++ text).dropWhile taken = text :=
    Lexeme.takeWhile_stops (fun character inside => decide_eq_true (blank character inside))
      (fun first head => decide_eq_false (solid first head))
  obtain ⟨front, behind⟩ := ends blank solid
  obtain ⟨otherFront, otherBehind⟩ := ends again alsoSolid
  rw [same] at front behind
  exact ⟨front.symm.trans otherFront, behind.symm.trans otherBehind⟩

/-- What may stand behind an item: a comma, a closing bracket or nothing. -/
def Closed (rest : List Char) : Prop := ∀ first, rest.head? = some first → first ∈ closers

theorem closed_cons {first : Char} (known : first ∈ closers) (others : List Char) :
    Closed (first :: others) := by
  rintro _ ⟨⟩
  exact known

theorem closed_nil : Closed [] := nofun

theorem Closed.follows (closed : Closed rest) : Follows rest :=
  fun first head => List.mem_append_left blanks (closed first head)

theorem Closed.solid (closed : Closed rest) : Solid rest := by
  have apart : ∀ first ∈ closers, first ∉ blanks := by simp [closers, blanks]
  exact fun first head => apart first (closed first head)

/-- A text that starts with what cannot follow a value. -/
def Opens (text : List Char) : Prop := ∃ first others, text = first :: others ∧ first ∉ followers

theorem Opens.append (opens : Opens text) (rest : List Char) : Opens (text ++ rest) := by
  obtain ⟨first, others, rfl, apart⟩ := opens
  exact ⟨first, others ++ rest, rfl, apart⟩

theorem Opens.solid (opens : Opens text) : Solid text := by
  obtain ⟨first, others, rfl, apart⟩ := opens
  exact solid_cons (fun inside => apart (List.mem_append_right closers inside)) others

theorem Opens.not_closed (opens : Opens text) : ¬Closed text := by
  obtain ⟨first, others, rfl, apart⟩ := opens
  exact fun closed => apart (closed.follows first rfl)

end Gaps

section Heads

theorem IsString.opens {spelling : List Char} {content : String}
    (written : IsString spelling content) : Opens spelling := by
  obtain ⟨body, units, _, rfl, _⟩ := written
  exact ⟨_, _, rfl, by simp [followers, closers, blanks]⟩

theorem Reads.opens (reads : Reads (.value json) text rest) : Opens text := by
  have none : ∀ first ∈ followers, shapeAt? first = none := by
    simp [followers, closers, blanks, shapeAt?, Text.isDigit]
  obtain ⟨first, others, rfl, starts⟩ := reads.written.starts
  refine ⟨first, others, rfl, fun inside => ?_⟩
  rw [none first inside] at starts
  cases starts

/-- The text of a number that is not finite is a name, which may have a minus sign. -/
theorem render_of_not_finite (indent : Nat) {number : Float}
    (infinite : Binary64.isFinite number = false) :
    ∃ first others, (first = 'N' ∨ first = 'I') ∧ (render indent (real number) = first :: others ∨
      render indent (real number) = '-' :: first :: others) := by
  rw [render, Binary64.shortestText]
  split
  · exact ⟨'N', _, .inl rfl, .inl rfl⟩
  next named =>
    have infinite : Binary64.isInfinite number = true := by
      have large := of_decide_eq_false infinite
      have small := of_decide_eq_false (Bool.eq_false_of_not_eq_true named)
      exact beq_iff_eq.mpr (by omega)
    rw [if_pos infinite, String.toList_ofList]
    cases Binary64.isNegative number with
    | true => exact ⟨'I', _, .inr rfl, .inr rfl⟩
    | false => exact ⟨'I', _, .inr rfl, .inl rfl⟩

theorem block_head (opening closing : Char) (indent : Nat) (items : List (List Char)) :
    ∃ others, block opening closing indent items = opening :: others := by
  rw [block]
  split
  · exact ⟨_, rfl⟩
  · exact ⟨_, rfl⟩

theorem shape_block {opening closing : Char} {items : List (List Char)}
    (reads : Reads (.value found) (block opening closing indent items ++ rest) behind) :
    shapeAt? opening = some found.shape := by
  obtain ⟨tail, block⟩ := block_head opening closing indent items
  rw [block] at reads
  exact shapeAt?_head reads

/-- Whether its numbers are finite or not, a value starts with what cannot follow one. -/
theorem opens_render (indent : Nat) (json : Json) : Opens (render indent json) := by
  have known (finite : json.Finite) : Opens (render indent json) := by
    have reads := finite.reads indent []
    rw [List.append_nil] at reads
    exact reads.opens
  cases json with
  | null => exact known .null
  | integer => exact known .integer
  | text => exact known .text
  | truth => exact known .truth
  | real number =>
      cases finite : Binary64.isFinite number with
      | true => exact known (.real finite)
      | false =>
          obtain ⟨first, others, name, same | same⟩ := render_of_not_finite indent finite
          · refine ⟨first, others, same, ?_⟩
            obtain rfl | rfl := name <;> simp [followers, closers, blanks]
          · exact ⟨_, _, same, by simp [followers, closers, blanks]⟩
  | array | object =>
      rw [render]
      obtain ⟨others, same⟩ := block_head _ _ indent _
      exact ⟨_, _, same, by simp [followers, closers, blanks]⟩

theorem opens_renderItem (indent : Nat) (item : Option String × Json) :
    Opens (renderItem indent item) := by
  obtain ⟨none | name, json⟩ := item
  · exact opens_render indent json
  · exact (isString_textLiteral name).opens.append _

theorem spread_head (gap item : List Char) (items : List (List Char)) :
    ∃ behind, spread gap (item :: items) = gap ++ (item ++ behind) := by
  cases items with
  | nil => exact ⟨[], by rw [spread, List.append_nil]⟩
  | cons => exact ⟨_, rfl⟩

/-- An item starts behind blanks. -/
theorem Reads.item_opens {item : Option String × Json} (reads : Reads (.item item) text rest) :
    ∃ gap behind, IsBlank gap ∧ Opens behind ∧ text = gap ++ behind := by
  obtain ⟨_, padded⟩ | ⟨_, _, value, _, named, rfl, _⟩ := reads.item_cases
  · obtain ⟨before, _, value, start, _, rfl, inner⟩ := padded.padded_cases
    exact ⟨before, value, start, inner.opens, rfl⟩
  · obtain ⟨before, spelling, after, start, written, _, rfl⟩ := named
    refine ⟨before, spelling ++ ((after ++ [':']) ++ value), start, written.opens.append _, ?_⟩
    simp only [List.append_assoc]

theorem Reads.items_open {items : List (Option String × Json)}
    (reads : Reads (.items items) text rest) :
    ∃ gap behind, IsBlank gap ∧ Opens behind ∧ text = gap ++ behind := by
  cases reads with
  | last only => exact only.item_opens
  | more first => exact first.item_opens

end Heads

/-- The text of a value is read as the value alone, and only when its numbers are finite. -/
def ReadsBack (json : Json) : Prop :=
  ∀ ⦃indent : Nat⦄ ⦃found : Json⦄ ⦃rest behind : List Char⦄, Follows rest → Follows behind →
    Reads (.value found) (render indent json ++ rest) behind →
      found = json ∧ behind = rest ∧ json.Finite

section Items

theorem ReadsBack.padded (readsBack : ReadsBack json) (front : IsBlank gap) (blank : IsBlank back)
    (closed : Closed rest) (alsoClosed : Closed behind)
    (reads : Reads (.padded found) (gap ++ (render indent json ++ (back ++ rest))) behind) :
    found = json ∧ behind = rest ∧ json.Finite := by
  obtain ⟨before, after, value, start, finish, same, reads⟩ := reads.padded_cases
  obtain ⟨rfl, equal⟩ :=
    front.unique start ((opens_render _ _).append _).solid reads.opens.solid same
  rw [← equal] at reads
  obtain ⟨rfl, tails, finite⟩ :=
    readsBack (blank.follows closed.follows) (finish.follows alsoClosed.follows) reads
  exact ⟨rfl, (finish.unique blank alsoClosed.solid closed.solid tails).2, finite⟩

/-- A named item is read as a named one, and one without a name as one without. -/
theorem ReadsBack.item {item other : Option String × Json} (readsBack : ReadsBack item.2)
    (alike : other.1.isSome = item.1.isSome) (front : IsBlank gap) (blank : IsBlank back)
    (closed : Closed rest) (alsoClosed : Closed behind)
    (reads : Reads (.item other) (gap ++ (renderItem indent item ++ (back ++ rest))) behind) :
    other = item ∧ behind = rest ∧ item.2.Finite := by
  obtain ⟨name, json⟩ := item
  obtain ⟨otherName, found⟩ := other
  obtain ⟨rfl, value⟩ | ⟨other, _, value, rfl, named, same, reads⟩ := reads.item_cases
  · cases name with
    | some => cases alike
    | none =>
        obtain ⟨rfl, equal, finite⟩ := readsBack.padded front blank closed alsoClosed value
        exact ⟨rfl, equal, finite⟩
  · cases name with
    | none => cases alike
    | some name =>
        obtain ⟨before, spelling, after, start, written, finish, rfl⟩ := named
        have literal := isString_textLiteral name
        have colon (rest : List Char) : Solid (':' :: rest) := solid_cons (by simp [blanks]) rest
        simp only [renderItem, List.append_assoc, List.cons_append, List.nil_append] at same
        obtain ⟨rfl, equal⟩ :=
          front.unique start (literal.opens.append _).solid (written.opens.append _).solid same
        obtain ⟨rfl, rfl, behindName⟩ := literal.unique written equal
        obtain ⟨rfl, behindColon⟩ :=
          isBlank_nil.unique finish (colon _) (colon _) behindName
        obtain ⟨_, rfl⟩ := List.cons.inj behindColon
        obtain ⟨rfl, tails, finite⟩ := readsBack.padded isBlank_space blank closed alsoClosed reads
        exact ⟨rfl, tails, finite⟩

variable {items found : List (Option String × Json)} {named : Bool} {closing : Char}

theorem readsBack_spread (each : ∀ item ∈ items, ReadsBack item.2 ∧ item.1.isSome = named)
    (alike : ∀ item ∈ found, item.1.isSome = named) (some : items ≠ []) (front : IsBlank gap)
    (blank : IsBlank back) (bracket : closing ∈ [']', '\x7d'])
    (reads : Reads (.items found)
      (spread gap (items.map (renderItem indent)) ++ (back ++ closing :: rest)) (closing :: behind)) :
    found = items ∧ behind = rest ∧ ∀ item ∈ items, item.2.Finite := by
  have closes (rest : List Char) : Closed (closing :: rest) :=
    closed_cons (List.mem_cons_of_mem _ bracket) rest
  have comma (rest : List Char) : Closed (',' :: rest) := closed_cons List.mem_cons_self rest
  have noComma : closing ≠ ',' := by
    rintro rfl
    exact absurd bracket (by decide)
  induction items generalizing found with
  | nil => exact absurd rfl some
  | cons item items inductionHypothesis =>
      obtain ⟨⟨readsBack, isNamed⟩, others⟩ := List.forall_mem_cons.mp each
      cases found with
      | nil => cases reads
      | cons other found =>
          obtain ⟨otherNamed, alikes⟩ := List.forall_mem_cons.mp alike
          have same := otherNamed.trans isNamed.symm
          cases items with
          | nil =>
              rw [List.map_singleton, spread, List.append_assoc] at reads
              obtain ⟨rfl, only⟩ | ⟨_, first, _⟩ := reads.items_cases
              · obtain ⟨rfl, equal, finite⟩ :=
                  readsBack.item same front blank (closes _) (closes _) only
                exact ⟨rfl, (List.cons.inj equal).2, List.forall_mem_singleton.mpr finite⟩
              · obtain ⟨_, equal, _⟩ := readsBack.item same front blank (closes _) (comma _) first
                exact absurd (List.cons.inj equal).1.symm noComma
          | cons next items =>
              simp only [List.map_cons, spread, List.append_assoc, List.cons_append] at reads
              obtain ⟨rfl, only⟩ | ⟨tail, first, behind⟩ := reads.items_cases
              · obtain ⟨_, equal, _⟩ :=
                  readsBack.item same front isBlank_nil (comma _) (closes _) only
                exact absurd (List.cons.inj equal).1 noComma
              · obtain ⟨rfl, equal, finite⟩ :=
                  readsBack.item same front isBlank_nil (comma _) (comma _) first
                obtain ⟨_, rfl⟩ := List.cons.inj equal
                obtain ⟨rfl, tails, finites⟩ :=
                  inductionHypothesis others alikes (List.cons_ne_nil _ _) behind
                exact ⟨rfl, tails, List.forall_mem_cons.mpr ⟨finite, finites⟩⟩

theorem readsBack_block {opening : Char} (named : Bool)
    (each : ∀ item ∈ items, ReadsBack item.2 ∧ item.1.isSome = named)
    (alike : ∀ item ∈ found, item.1.isSome = named) (bracket : closing ∈ [']', '\x7d'])
    (inside : Inside closing found text behind)
    (written : block opening closing indent (items.map (renderItem (indent + 2))) ++ rest =
      opening :: text) :
    found = items ∧ behind = rest ∧ ∀ item ∈ items, item.2.Finite := by
  have closes (rest : List Char) : Closed (closing :: rest) :=
    closed_cons (List.mem_cons_of_mem _ bracket) rest
  cases items with
  | nil =>
      obtain ⟨_, rfl⟩ := List.cons.inj written
      obtain ⟨rfl, between, blank, same⟩ | reads := inside
      · obtain ⟨_, equal⟩ :=
          isBlank_nil.unique blank (closes _).solid (closes _).solid same
        exact ⟨rfl, (List.cons.inj equal).2.symm, nofun⟩
      · obtain ⟨between, value, blank, opens, same⟩ := reads.items_open
        obtain ⟨_, rfl⟩ := isBlank_nil.unique blank (closes _).solid opens.solid same
        exact absurd (closes _) opens.not_closed
  | cons item items =>
      rw [block_append _ _ _ (List.cons_ne_nil _ _)] at written
      obtain ⟨_, rfl⟩ := List.cons.inj written
      obtain ⟨rfl, between, blank, same⟩ | reads := inside
      · obtain ⟨after, spread⟩ := spread_head (newLine (indent + 2)) (renderItem (indent + 2) item)
          (items.map (renderItem (indent + 2)))
        have opens := ((opens_renderItem (indent + 2) item).append after).append
          (newLine indent ++ closing :: rest)
        rw [List.map_cons, spread, List.append_assoc] at same
        obtain ⟨_, equal⟩ := (isBlank_newLine _).unique blank opens.solid (closes _).solid same
        exact absurd (equal ▸ closes _) opens.not_closed
      · exact readsBack_spread each alike (List.cons_ne_nil _ _) (isBlank_newLine _)
          (isBlank_newLine _) bracket reads

end Items

theorem elementItems_injective : Function.Injective elementItems :=
  List.map_injective_iff.mpr fun _ _ same => (Prod.mk.inj same).2

theorem memberItems_injective : Function.Injective memberItems := by
  refine List.map_injective_iff.mpr fun first second same => ?_
  obtain ⟨name, value⟩ := Prod.mk.inj same
  exact Prod.ext (Option.some.inj name) value

section Scalars

theorem Written.number (written : Written text rest json) (number : json.shape = .number) :
    ∃ spelling, IsNumber spelling json ∧ text = spelling ++ rest := by
  cases json with
  | integer | real => exact written
  | _ => cases number

theorem IsNumber.readsBack (written : IsNumber (render indent json) json) (finite : json.Finite)
    (number : json.shape = .number) (follows : Follows rest) (alsoFollows : Follows behind)
    (reads : Reads (.value found) (render indent json ++ rest) behind) :
    found = json ∧ behind = rest ∧ json.Finite := by
  have same := shape_unique (finite.reads indent rest) reads
  obtain ⟨spelling, again, equal⟩ := reads.written.number (same.symm.trans number)
  obtain ⟨rfl, tails⟩ := written.unique again follows alsoFollows equal
  exact ⟨rfl, tails.symm, finite⟩

/-- Behind a minus sign a number has a digit. -/
theorem IsNumber.digit {spelling others : List Char} {first : Char}
    (written : IsNumber spelling json) (same : spelling ++ rest = '-' :: first :: others) :
    Text.isDigit first = true := by
  obtain ⟨negative, formed, some, _⟩ := written
  obtain ⟨digit, others, spelling, known⟩ := formed.head some
  rw [spelling] at same
  cases negative with
  | true =>
      obtain ⟨_, same⟩ := List.cons.inj same
      exact (List.cons.inj same).1 ▸ known
  | false =>
      obtain ⟨rfl, _⟩ := List.cons.inj same
      cases known

/-- The name of a number that is not finite is not read. -/
theorem not_reads_of_not_finite {number : Float} (infinite : Binary64.isFinite number = false) :
    ¬Reads (.value found) (render indent (real number) ++ rest) behind := by
  intro reads
  obtain ⟨first, others, name, same | same⟩ := render_of_not_finite indent infinite
  · rw [same] at reads
    have starts := shapeAt?_head reads
    obtain rfl | rfl := name <;> cases starts
  · rw [same] at reads
    have minus := Option.some.inj (shapeAt?_head reads)
    obtain ⟨spelling, number, equal⟩ := reads.written.number minus.symm
    have digit := number.digit equal.symm
    obtain rfl | rfl := name <;> cases digit

end Scalars

/-- A property holds of every value when it passes from the parts of a value to the value. -/
@[elab_as_elim] theorem inductionOn {motive : Json → Prop} (json : Json) (null : motive null)
    (integer : ∀ number, motive (integer number)) (real : ∀ number, motive (real number))
    (text : ∀ characters, motive (Json.text characters)) (truth : ∀ flag, motive (truth flag))
    (array : ∀ elements, (∀ element ∈ elements, motive element) → motive (array elements))
    (object : ∀ members, (∀ member ∈ members, motive member.2) → motive (object members)) :
    motive json :=
  Json.rec (motive_1 := motive) (motive_2 := fun elements => ∀ element ∈ elements, motive element)
    (motive_3 := fun members => ∀ member ∈ members, motive member.2)
    (motive_4 := fun member => motive member.2)
    null integer real text truth array object (by simp)
    (fun _ _ first others => by simpa using ⟨first, others⟩) (by simp)
    (fun _ _ first others => List.forall_mem_cons.mpr ⟨first, others⟩) (fun _ _ value => value) json

/-- Every value is read back from its text, and its text is read as nothing else. -/
theorem readsBack (json : Json) : ReadsBack json := by
  induction json using inductionOn with
  | null =>
      intro indent found rest behind _ _ reads
      have same := shape_unique (Finite.null.reads indent rest) reads
      have written := reads.written
      cases found with
      | null => exact ⟨rfl, (List.append_cancel_left written).symm, .null⟩
      | _ => cases same
  | integer number =>
      intro indent found rest behind follows alsoFollows reads
      exact (isNumber_integer indent number).readsBack .integer rfl follows alsoFollows reads
  | real number =>
      intro indent found rest behind follows alsoFollows reads
      cases finite : Binary64.isFinite number with
      | true =>
          exact (isNumber_real indent finite).readsBack (.real finite) rfl follows alsoFollows reads
      | false => exact absurd reads (not_reads_of_not_finite finite)
  | text content =>
      intro indent found rest behind _ _ reads
      have same := shape_unique (Finite.text.reads indent rest) reads
      have written := reads.written
      cases found with
      | text =>
          obtain ⟨spelling, again, equal⟩ := written
          obtain ⟨_, rfl, tails⟩ := (isString_textLiteral content).unique again equal
          exact ⟨rfl, tails.symm, .text⟩
      | _ => cases same
  | truth flag =>
      intro indent found rest behind _ _ reads
      have same := shape_unique (Finite.truth.reads indent rest) reads
      have written := reads.written
      cases found with
      | truth other =>
          cases same
          exact ⟨rfl, (List.append_cancel_left written).symm, .truth⟩
      | _ => cases same
  | array elements each =>
      intro indent found rest behind _ _ reads
      rw [render, renderElements_eq] at reads
      have same := Option.some.inj (shape_block reads)
      have written := reads.written
      cases found with
      | array others =>
          obtain ⟨inside, block, items⟩ := written
          obtain ⟨equal, tails, finite⟩ := readsBack_block false
            (List.forall_mem_map.mpr fun element inside => ⟨each element inside, rfl⟩)
            (List.forall_mem_map.mpr fun _ _ => rfl) List.mem_cons_self items block
          obtain rfl := elementItems_injective equal
          exact ⟨rfl, tails, .array fun _ inside => finite _ (List.mem_map_of_mem inside)⟩
      | _ => cases same
  | object members each =>
      intro indent found rest behind _ _ reads
      rw [render, renderMembers_eq] at reads
      have same := Option.some.inj (shape_block reads)
      have written := reads.written
      cases found with
      | object others =>
          obtain ⟨inside, block, items⟩ := written
          obtain ⟨equal, tails, finite⟩ := readsBack_block true
            (List.forall_mem_map.mpr fun member inside => ⟨each member inside, rfl⟩)
            (List.forall_mem_map.mpr fun _ _ => rfl) (by simp) items block
          obtain rfl := memberItems_injective equal
          exact ⟨rfl, tails, .object fun _ inside => finite _ (List.mem_map_of_mem inside)⟩
      | _ => cases same

/-- The dumped text of a value is a text of the grammar for this value alone if its numbers are finite,
and for none otherwise. -/
theorem isText_dump_iff : IsText json.dump found ↔ found = json ∧ json.Finite := by
  have text : json.dump.toList = [] ++ (render 0 json ++ ([] ++ [])) := by
    rw [dump, String.toList_ofList, List.nil_append, List.nil_append, List.append_nil]
  rw [IsText, text]
  constructor
  · intro reads
    obtain ⟨rfl, _, finite⟩ :=
      (readsBack json).padded isBlank_nil isBlank_nil closed_nil closed_nil reads
    exact ⟨rfl, finite⟩
  · rintro ⟨rfl, finite⟩
    exact .padded isBlank_nil isBlank_nil (finite.reads _ _)

end MiniPascal.Json
