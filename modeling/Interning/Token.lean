import Interning.SymbolId
/-!
The operator tokens: names that are registered before any other, each under a reserved
identifier of its own. `Token.all` lists them in the order of registration, `Token.find?` finds
one by its exact text, and `comparisons` are the spellings that end in an equals sign without
being setters.
-/

set_option autoImplicit false
set_option relaxedAutoImplicit false

namespace Interning

/-- An operator with its reserved identifier. -/
structure Token where
  id : SymbolId
  text : Text
deriving DecidableEq

namespace Token

/-- The operator tokens in the order of registration. -/
def all : List Token := [
  ⟨⟨43⟩, ['+']⟩, ⟨⟨45⟩, ['-']⟩, ⟨⟨42⟩, ['*']⟩, ⟨⟨47⟩, ['/']⟩, ⟨⟨37⟩, ['%']⟩, ⟨⟨124⟩, ['|']⟩,
  ⟨⟨94⟩, ['^']⟩, ⟨⟨38⟩, ['&']⟩, ⟨⟨33⟩, ['!']⟩, ⟨⟨62⟩, ['>']⟩, ⟨⟨60⟩, ['<']⟩, ⟨⟨126⟩, ['~']⟩,
  ⟨⟨96⟩, ['\x60']⟩, ⟨⟨321⟩, ['+', '@']⟩, ⟨⟨322⟩, ['-', '@']⟩, ⟨⟨323⟩, ['*', '*']⟩,
  ⟨⟨324⟩, ['<', '=', '>']⟩, ⟨⟨325⟩, ['=', '=']⟩, ⟨⟨326⟩, ['=', '=', '=']⟩, ⟨⟨327⟩, ['!', '=']⟩,
  ⟨⟨328⟩, ['>', '=']⟩, ⟨⟨329⟩, ['<', '=']⟩, ⟨⟨330⟩, ['=', '~']⟩, ⟨⟨331⟩, ['!', '~']⟩,
  ⟨⟨332⟩, ['.', '.']⟩, ⟨⟨333⟩, ['.', '.', '.']⟩, ⟨⟨334⟩, ['[', ']']⟩, ⟨⟨335⟩, ['[', ']', '=']⟩,
  ⟨⟨336⟩, ['<', '<']⟩, ⟨⟨337⟩, ['>', '>']⟩, ⟨⟨338⟩, [':', ':']⟩]

/-- The operator with a text. -/
def find? (text : Text) : Option Token :=
  all.find? (·.text == text)

/-- The operator with an identifier. -/
def ofId? (id : SymbolId) : Option Token :=
  all.find? (·.id == id)

/-- The largest identifier that an operator has. -/
def maxReserved : UInt64 :=
  all.foldl (fun largest token ↦ max largest token.id.raw) 0

/-- The comparisons that end in an equals sign. -/
def comparisons : List Text :=
  [['=', '='], ['=', '=', '='], ['!', '='], ['<', '='], ['>', '=']]

theorem mem_all_of_find? {text : Text} {token : Token} (h : find? text = some token) :
    token ∈ all :=
  List.mem_of_find?_eq_some h

theorem text_of_find? {text : Text} {token : Token} (h : find? text = some token) :
    token.text = text := by
  simpa using List.find?_some h

/-- Every operator is found by its text. -/
theorem find?_text_of_mem {token : Token} (h : token ∈ all) : find? token.text = some token := by
  have hall : ∀ token ∈ all, find? token.text = some token := by decide
  exact hall token h

/-- Every operator has a reserved identifier. -/
theorem isOperator_of_mem {token : Token} (h : token ∈ all) : token.id.isOperator = true := by
  have hall : ∀ token ∈ all, token.id.isOperator = true := by decide
  exact hall token h

end Token

/-- The full label of an identifier: its operator, or its sequence number and scope. -/
def SymbolId.describe (id : SymbolId) : Text :=
  let body :=
    if id.isOperator then
      "op ".toList ++ Numeral.decimal id.raw.toNat ++
        match Token.ofId? id with
        | some token => " \"".toList ++ token.text ++ ['"']
        | none => []
    else
      Numeral.decimal id.sequence.toNat ++ ':' :: id.scope.name.toList
  "SymbolId(".toList ++ body ++ [')']

end Interning
