/-
This file says which identifiers the tokens of a program declare, and when those that are read are
declared.
-/

import MiniPascal.Proofs.Parsing.Reading

namespace MiniPascal

/-- The names that the tokens assign to. -/
def assignedNames : List Token → List String
  | [] => []
  | token :: rest =>
      if token.kind.isIdentifier && (nextKind rest).isSymbol .colonEquals then
        token.text :: assignedNames rest
      else assignedNames rest

/-- The name of a program is its second token; all others are declared by assignments. -/
def declaredNames (tokens : List Token) : List String :=
  (tokens[1]?.map Token.text).toList ++ assignedNames (tokens.drop 2)

/-- Every identifier that is read behind the name of the program is, in lower case, the name of
the program or the target of an assignment before it. -/
def ReadsDeclared (tokens : List Token) : Prop :=
  ∀ front token rest, tokens = front ++ token :: rest → 2 ≤ front.length →
    token.kind = .identifier → (nextKind rest).isSymbol .colonEquals = false →
      ∃ name ∈ declaredNames front, SymbolTable.key name = SymbolTable.key token.text

/-- Every identifier that is read is known when it is reached. -/
def ReadsKnown : SymbolTable → List Token → Prop
  | _, [] => True
  | table, token :: rest =>
      if token.kind.isIdentifier then
        if (nextKind rest).isSymbol .colonEquals then ReadsKnown (table.enter token.text) rest
        else table.contains token.text = true ∧ ReadsKnown table rest
      else ReadsKnown table rest

variable {table : SymbolTable} {token : Token} {rest : List Token}

theorem readsKnown_other (other : token.kind.isIdentifier = false) :
    ReadsKnown table (token :: rest) ↔ ReadsKnown table rest := by
  simp [ReadsKnown, other]

theorem readsKnown_target (kind : token.kind = .identifier)
    (assigned : (nextKind rest).isSymbol .colonEquals = true) :
    ReadsKnown table (token :: rest) ↔ ReadsKnown (table.enter token.text) rest := by
  simp [ReadsKnown, kind, Kind.isIdentifier, assigned]

theorem readsKnown_read (kind : token.kind = .identifier)
    (read : (nextKind rest).isSymbol .colonEquals = false) :
    ReadsKnown table (token :: rest) ↔
      table.contains token.text = true ∧ ReadsKnown table rest := by
  simp [ReadsKnown, kind, Kind.isIdentifier, read]

/-- The table knows exactly the names of the list, in any mixture of cases. -/
def SymbolTable.Knows (table : SymbolTable) (names : List String) : Prop :=
  ∀ name, table.contains name = true ↔ ∃ known ∈ names, SymbolTable.key known = SymbolTable.key name

theorem SymbolTable.knows_empty : SymbolTable.empty.Knows [] := by
  intro name
  simp [SymbolTable.contains, SymbolTable.lookup?, SymbolTable.find?, SymbolTable.empty]

theorem SymbolTable.contains_enter {table : SymbolTable} {entered name : String} :
    (table.enter entered).contains name = true ↔
      table.contains name = true ∨ SymbolTable.key entered = SymbolTable.key name := by
  by_cases known : table.contains entered = true
  · rw [SymbolTable.enter_of_contains known]
    constructor
    · exact .inl
    · rintro (held | same)
      · exact held
      · rw [SymbolTable.contains, SymbolTable.lookup?, ← same]
        exact known
  · rw [SymbolTable.enter, if_neg known]
    simp [SymbolTable.contains, SymbolTable.lookup?, SymbolTable.find?, SymbolTable.freshCell,
      List.find?_append]

/-- A name that is entered is known from then on. -/
theorem SymbolTable.Knows.enter {names : List String} (knows : table.Knows names)
    (entered : String) : (table.enter entered).Knows (names ++ [entered]) := by
  intro name
  rw [SymbolTable.contains_enter, knows name]
  simp [or_and_right, exists_or]

/-- An identifier is no assignment sign, so it decides on no target before it. -/
theorem assignedNames_cons_of_read {first : Token} {front : List Token}
    (kind : token.kind = .identifier) :
    assignedNames (first :: front) =
      if first.kind.isIdentifier &&
        (nextKind (front ++ token :: rest)).isSymbol .colonEquals then
          first.text :: assignedNames front
      else assignedNames front := by
  cases front with
  | nil => simp [assignedNames, nextKind, kind, Kind.isSymbol]
  | cons _ _ => rfl

/-- A place in a list is its head or a place in its tail. -/
theorem forall_places_cons {α : Type} {first : α} {others : List α}
    {property : List α → α → List α → Prop} :
    (∀ front item rest, first :: others = front ++ item :: rest → property front item rest) ↔
      property [] first others ∧ ∀ front item rest, others = front ++ item :: rest →
        property (first :: front) item rest := by
  constructor
  · intro all
    refine ⟨all [] first others rfl, fun front item rest same => ?_⟩
    exact all (first :: front) item rest (by rw [same, List.cons_append])
  · rintro ⟨head, tail⟩ front item rest same
    cases front with
    | nil =>
        cases same
        exact head
    | cons before front =>
        cases same
        exact tail front item rest rfl

/-- The reads are known exactly when every name that is read is known from the start or assigned
before. -/
theorem readsKnown_iff {names : List String} {tokens : List Token} (knows : table.Knows names) :
    ReadsKnown table tokens ↔ ∀ front token rest, tokens = front ++ token :: rest →
      token.kind = .identifier → (nextKind rest).isSymbol .colonEquals = false →
        ∃ name ∈ names ++ assignedNames front,
          SymbolTable.key name = SymbolTable.key token.text := by
  induction tokens generalizing table names with
  | nil => simp [ReadsKnown]
  | cons first others inductionHypothesis =>
      rw [forall_places_cons]
      by_cases kind : first.kind = .identifier
      · by_cases assigned : (nextKind others).isSymbol .colonEquals = true
        · rw [readsKnown_target kind assigned, inductionHypothesis (knows.enter first.text)]
          simp only [assigned, Bool.true_eq_false, false_implies, implies_true, true_and]
          refine forall₄_congr fun front token rest same => forall₂_congr fun read _ => ?_
          rw [assignedNames_cons_of_read read, ← same, kind, assigned]
          simp [Kind.isIdentifier]
        · have read : (nextKind others).isSymbol .colonEquals = false := by simpa using assigned
          rw [readsKnown_read kind read, inductionHypothesis knows, knows]
          refine and_congr (by simp [kind, read, assignedNames]) ?_
          refine forall₄_congr fun front token rest same => forall₂_congr fun later _ => ?_
          rw [assignedNames_cons_of_read later, ← same, read]
          simp
      · have other : first.kind.isIdentifier = false :=
          Bool.eq_false_iff.mpr (mt Kind.isIdentifier_iff.mp kind)
        rw [readsKnown_other other, inductionHypothesis knows]
        simp only [kind, false_implies, true_and]
        refine forall₄_congr fun front token rest same => forall₂_congr fun later _ => ?_
        rw [assignedNames_cons_of_read later, ← same, other]
        simp

/-- Behind its head a program reads only names that the table knows, which holds the name of the
program at first. -/
theorem readsDeclared_iff {opening name : Token} {tokens : List Token} :
    ReadsDeclared (opening :: name :: tokens) ↔
      ReadsKnown (SymbolTable.empty.enter name.text) tokens := by
  rw [readsKnown_iff (SymbolTable.knows_empty.enter name.text), ReadsDeclared,
    forall_places_cons, forall_places_cons]
  simp [declaredNames]

end MiniPascal
