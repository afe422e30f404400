import MallocLayer.Text.Quoted

/-!
# Names of the primitive

The primitive allocator is linked by name. Its five symbols share a prefix,
which is fixed when the layer is built and has to be the start of a C
identifier.
-/

namespace MallocLayer

/-- The five operations that are linked by name. -/
inductive PrimitiveRole where
  | allocate
  | deallocate
  | usableSize
  | lock
  | unlock
deriving DecidableEq, Repr

namespace PrimitiveRole

/-- The roles in the order of the contract. -/
def all : List PrimitiveRole := [.allocate, .deallocate, .usableSize, .lock, .unlock]

/-- The name of the role in reports. -/
def label : PrimitiveRole → String
  | .allocate => "allocate"
  | .deallocate => "deallocate"
  | .usableSize => "usable_size"
  | .lock => "lock"
  | .unlock => "unlock"

/-- What follows the prefix in the name of the symbol. -/
def suffix : PrimitiveRole → String
  | .allocate => "malloc"
  | .deallocate => "free"
  | .usableSize => "malloc_usable_size"
  | .lock => "malloc_lock"
  | .unlock => "malloc_unlock"

end PrimitiveRole

/-- Whether the character may stand in a C identifier: an ASCII letter or digit,
or an underscore. -/
def isIdentifierChar (c : Char) : Bool := c.isAlphanum || c == '_'

/-- C identifiers: identifier characters, the first of them no digit. -/
structure IsIdentifier (cs : List Char) : Prop where
  nonempty : cs ≠ []
  no_leading_digit : ∀ c ∈ cs.head?, c.isDigit = false
  all_valid : ∀ c ∈ cs, isIdentifierChar c = true

/-- Why a text is no prefix. -/
inductive PrefixError where
  | empty
  | leadingDigit (text : String)
  /-- The first character that may not stand in an identifier. -/
  | invalidCharacter (found : Char)
deriving DecidableEq, Repr

namespace PrefixError

def message : PrefixError → String
  | .empty => "export prefix must not be empty"
  | .leadingDigit text => "export prefix must not start with a digit: " ++ Text.quoted text
  | .invalidCharacter found =>
    "export prefix contains " ++ Text.quotedChar found ++ ", which is not valid in a C identifier"

end PrefixError

/-- A prefix of the five names. -/
structure ExportPrefix where
  text : String
  isIdentifier : IsIdentifier text.toList

namespace ExportPrefix

/-- The prefix with the given text. A leading digit is reported before any
character that may not stand in an identifier at all. -/
def ofString (s : String) : Except PrefixError ExportPrefix :=
  match hs : s.toList with
  | [] => .error .empty
  | first :: rest =>
    if hd : first.isDigit then .error (.leadingDigit s)
    else match hf : (first :: rest).find? fun c => !isIdentifierChar c with
      | some found => .error (.invalidCharacter found)
      | none => .ok {
          text := s
          isIdentifier := by
            rw [hs]
            refine ⟨by simp, ?_, ?_⟩
            · intro c hc
              simp only [List.head?_cons, Option.mem_def, Option.some.injEq] at hc
              subst hc
              simpa using hd
            · intro c hc
              simpa using List.find?_eq_none.1 hf c hc }

/-- The prefix of a build that chooses none. -/
def default : ExportPrefix where
  text := "xx"
  isIdentifier := by
    refine ⟨by decide, ?_, List.all_eq_true.1 (by decide)⟩
    rintro c ⟨⟩
    decide

/-- The name of the symbol in a role. -/
def name (p : ExportPrefix) (role : PrimitiveRole) : String := p.text ++ role.suffix

/-- The five names, in the order of the contract. -/
def names (p : ExportPrefix) : List String := PrimitiveRole.all.map p.name

end ExportPrefix

end MallocLayer
