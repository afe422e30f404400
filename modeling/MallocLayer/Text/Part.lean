/-!
# Parts of a text
-/

namespace MallocLayer.Text

/-- Whether a text occurs in another one, as consecutive characters. -/
def occursIn (part : List Char) : List Char → Bool
  | [] => part.isEmpty
  | c :: rest => part.isPrefixOf (c :: rest) || occursIn part rest

end MallocLayer.Text
