/-
  TRACE — what the reading of a filter reports on its way.

  Each tokenization reports how many tokens it found: first that of the filter text, then that of
  each lambda body.  Each call of a known relation is reported with its name and field.  A reading
  that succeeds ends with the numbers of tokens and clauses; one that fails ends with the notes of
  the clause at which it failed.
-/
import QueryFilter.Filter.OfText

namespace QueryFilter

/-- A report of a step of the reading. -/
inductive Note
  /-- A text was cut into that many tokens. -/
  | tokenized (tokens : Nat)
  /-- A call was taken apart. -/
  | call (name field : Text)
  /-- All tokens were read. -/
  | parsed (tokens clauses : Nat)
deriving DecidableEq, Repr, Inhabited

namespace Note

/-- A number in a note. -/
def number (n : Nat) : Text := Nat.toDigits 10 n

/-- The wording of a note. -/
def message : Note → Text
  | .tokenized tokens => "Tokenized filter into ".toList ++ number tokens ++ " tokens".toList
  | .call name field => "Function call ".toList ++ name ++ '(' :: field ++ ", ...)".toList
  | .parsed tokens clauses =>
    "Parsed ".toList ++ number tokens ++ " tokens into ".toList ++ number clauses ++ " clauses".toList

/-- The notes of reading a clause that starts with the given token. -/
def ofToken (policy : QuotePolicy) (index : Int) (t : Token) : List Note :=
  match t.kind with
  | .call =>
    match Call.ofToken index t with
    | .ok c => if (Argument.ofText c.name).relation?.isSome then [.call c.name c.field] else []
    | .error _ => []
  | .lambda =>
    match Lambda.Head.ofText? t.text with
    | some head => [.tokenized (Token.tokenize policy head.body).length]
    | none => []
  | _ => []

/-- The notes of the clause at the front of a row. -/
def ofFront (policy : QuotePolicy) : Token.Row → List Note
  | ⟨_, []⟩ => []
  | ⟨index, t :: _⟩ => ofToken policy index t

/-- The notes of reading a row, up to the clause that fails. -/
def ofRow (policy : QuotePolicy) (row : Token.Row) : List Note :=
  ofFront policy row ++
    match _h : Filter.next policy row with
    | .ok (some (_, row')) => ofRow policy row'
    | _ => []
termination_by row.tokens.length
decreasing_by exact Filter.next_length _h

/-- The notes of reading a filter text. -/
def ofText (policy : QuotePolicy) (text : Text) : List Note :=
  let tokens := Token.tokenize policy text
  .tokenized tokens.length :: ofRow policy ⟨0, tokens⟩ ++
    match Filter.ofTokens policy tokens with
    | .ok f => [.parsed tokens.length f.size]
    | .error _ => []

end Note

end QueryFilter
