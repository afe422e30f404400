import MallocLayer.Bindings
import MallocLayer.Proofs.SourceTokens
import MallocLayer.Proofs.SymbolNames
import Mathlib.Data.List.Nodup

/-!
# Prefixes and generated bindings

A text is a prefix if it has the form `[A-Za-z_][A-Za-z0-9_]*`, and a text that is not is
refused for the first thing that is wrong with it (`ExportPrefix.Judged`). The form is what
the generated files need: the file of declarations has the names between quotes as they
are, so that a name with a quote or a backslash in it would be read for another. Names that
begin with a prefix have the form as well, and are read back from both files
(`Bindings.ReadBack`).
-/

namespace MallocLayer

/-! ## 1. The grammar of prefixes -/

namespace PrefixGrammar

/-- `[A-Za-z_]` -/
def Starts (c : Char) : Prop := ('A' ≤ c ∧ c ≤ 'Z') ∨ ('a' ≤ c ∧ c ≤ 'z') ∨ c = '_'

/-- `[0-9]` -/
def Numeral (c : Char) : Prop := '0' ≤ c ∧ c ≤ '9'

/-- `[A-Za-z0-9_]` -/
def Continues (c : Char) : Prop := Starts c ∨ Numeral c

/-- `[A-Za-z_][A-Za-z0-9_]*` -/
def Matches : List Char → Prop
  | [] => False
  | first :: rest => Starts first ∧ ∀ c ∈ rest, Continues c

theorem isDigit_iff (c : Char) : c.isDigit = true ↔ Numeral c := Char.isDigit_iff_toNat

theorem isUpper_iff (c : Char) : c.isUpper = true ↔ 'A' ≤ c ∧ c ≤ 'Z' := decide_eq_true_iff

theorem isLower_iff (c : Char) : c.isLower = true ↔ 'a' ≤ c ∧ c ≤ 'z' :=
  Bool.and_eq_true_iff.trans (and_congr decide_eq_true_iff decide_eq_true_iff)

theorem isIdentifierChar_iff (c : Char) : isIdentifierChar c = true ↔ Continues c := by
  have alpha : c.isAlpha = true ↔ c.isUpper = true ∨ c.isLower = true := Bool.or_eq_true_iff
  have alphanum : c.isAlphanum = true ↔ c.isAlpha = true ∨ c.isDigit = true :=
    Bool.or_eq_true_iff
  rw [isIdentifierChar, Bool.or_eq_true, beq_iff_eq, alphanum, alpha, isUpper_iff, isLower_iff,
    isDigit_iff, Continues, Starts]
  tauto

/-- The numerals stand apart from the letters and the underscore. -/
theorem not_numeral_of_starts {c : Char} (starts : Starts c) : ¬ Numeral c := by
  rintro ⟨-, high⟩
  have below : c.toNat ≤ 57 := high
  rcases starts with ⟨low, -⟩ | ⟨low, -⟩ | rfl
  · exact absurd (Nat.le_trans (show 65 ≤ c.toNat from low) below) (by decide)
  · exact absurd (Nat.le_trans (show 97 ≤ c.toNat from low) below) (by decide)
  · exact absurd below (by decide)

theorem matches_iff (cs : List Char) : Matches cs ↔ IsIdentifier cs := by
  cases cs with
  | nil => exact ⟨False.elim, fun identifier => identifier.nonempty rfl⟩
  | cons first rest =>
    constructor
    · rintro ⟨starts, continues⟩
      refine ⟨List.cons_ne_nil _ _, ?_, ?_⟩
      · rintro _ ⟨⟩
        rw [← Bool.not_eq_true, isDigit_iff]
        exact not_numeral_of_starts starts
      · rintro c (_ | ⟨_, member⟩)
        · exact (isIdentifierChar_iff first).2 (.inl starts)
        · exact (isIdentifierChar_iff c).2 (continues c member)
    · intro identifier
      have letter : ¬ Numeral first := by
        rw [← isDigit_iff, identifier.no_leading_digit first rfl]
        exact Bool.false_ne_true
      have valid (c : Char) (member : c ∈ first :: rest) : Continues c :=
        (isIdentifierChar_iff c).1 (identifier.all_valid c member)
      exact ⟨(valid first List.mem_cons_self).resolve_right letter,
        fun c member => valid c (List.mem_cons_of_mem _ member)⟩

/-- What follows a name may be anything that continues it. -/
theorem Matches.append {cs more : List Char} (name : Matches cs)
    (continues : ∀ c ∈ more, Continues c) : Matches (cs ++ more) := by
  cases cs with
  | nil => exact name.elim
  | cons first rest =>
    refine ⟨name.1, fun c member => ?_⟩
    rcases List.mem_append.1 member with old | new
    · exact name.2 c old
    · exact continues c new

end PrefixGrammar

namespace ExportPrefix

open PrefixGrammar

/-! ## 2. Accepted and refused texts -/

/-- How a text is judged as a prefix, for each of the outcomes. -/
structure Judged (text : String) : Prop where
  accepted : (∃ p, ofString text = .ok p) ↔ Matches text.toList
  empty : ofString text = .error .empty ↔ text = ""
  /-- A leading digit is found whatever comes behind it. -/
  leadingDigit : ∀ whole, ofString text = .error (.leadingDigit whole) ↔
    whole = text ∧ ∃ first ∈ text.toList.head?, Numeral first
  /-- The character is the first one that may not stand in a name. -/
  invalidCharacter : ∀ found, ofString text = .error (.invalidCharacter found) ↔
    (∀ first ∈ text.toList.head?, ¬ Numeral first) ∧
      ∃ before after, text.toList = before ++ found :: after ∧
        (∀ c ∈ before, Continues c) ∧ ¬ Continues found

/-- What is wrong with a text, if anything is. -/
def complaint? (text : String) : Option PrefixError :=
  match text.toList with
  | [] => some .empty
  | first :: rest =>
    if first.isDigit then some (.leadingDigit text)
    else ((first :: rest).find? fun c => !isIdentifierChar c).map .invalidCharacter

theorem ofString_eq_error_iff (text : String) (error : PrefixError) :
    ofString text = .error error ↔ complaint? text = some error := by
  unfold ofString
  split
  · next none => simp [complaint?, none]
  · next first rest shape =>
    split
    · next digit => simp [complaint?, shape, digit]
    · next letter =>
      split
      · next found invalid => simp [complaint?, shape, letter, invalid]
      · next valid => simp [complaint?, shape, letter, valid]

theorem accepted_iff (text : String) : (∃ p, ofString text = .ok p) ↔ Matches text.toList := by
  rw [matches_iff]
  constructor
  · rintro ⟨p, accepted⟩
    rw [← text_of_ofString accepted]
    exact p.isIdentifier
  · exact fun identifier => ⟨⟨text, identifier⟩, ofString_text ⟨text, identifier⟩⟩

theorem find?_invalid_iff (cs : List Char) (found : Char) :
    (cs.find? fun c => !isIdentifierChar c) = some found ↔
      ∃ before after, cs = before ++ found :: after ∧ (∀ c ∈ before, Continues c) ∧
        ¬ Continues found := by
  rw [List.find?_eq_some_iff_append]
  simp only [Bool.not_not, isIdentifierChar_iff, Bool.not_eq_true', ← Bool.not_eq_true]
  constructor
  · rintro ⟨invalid, before, after, shape, valid⟩
    exact ⟨before, after, shape, valid, invalid⟩
  · rintro ⟨before, after, shape, valid, invalid⟩
    exact ⟨invalid, before, after, shape, valid⟩

theorem judged (text : String) : Judged text where
  accepted := accepted_iff text
  empty := by
    rw [ofString_eq_error_iff, complaint?, ← String.toList_eq_nil_iff]
    cases text.toList with
    | nil => simp
    | cons first rest =>
      by_cases digit : first.isDigit <;> simp [digit]
  leadingDigit whole := by
    rw [ofString_eq_error_iff, complaint?]
    cases text.toList with
    | nil => simp
    | cons first rest =>
      by_cases digit : first.isDigit
      · simp [digit, (isDigit_iff first).1 digit, eq_comm (a := text)]
      · simp [digit, mt (isDigit_iff first).2 digit]
  invalidCharacter found := by
    rw [ofString_eq_error_iff, complaint?, ← find?_invalid_iff]
    cases text.toList with
    | nil => simp
    | cons first rest =>
      by_cases digit : first.isDigit
      · simp [digit, (isDigit_iff first).1 digit]
      · simp [digit, mt (isDigit_iff first).2 digit]

-- The second character is no better than the first.
example : ofString "9-" = .error (.leadingDigit "9-") := rfl

/-! ## 3. Names -/

variable (p : ExportPrefix)

theorem suffix_valid (role : PrimitiveRole) :
    ∀ c ∈ role.suffix.toList, isIdentifierChar c = true := by
  cases role <;> exact List.all_eq_true.1 (by decide)

theorem matches_name (role : PrimitiveRole) : Matches (p.name role).toList := by
  rw [name, String.toList_append]
  refine Matches.append ((matches_iff _).2 p.isIdentifier) fun c member => ?_
  exact (isIdentifierChar_iff c).1 (suffix_valid role c member)

theorem nodup_names : p.names.Nodup := by
  have suffixes : (PrimitiveRole.all.map PrimitiveRole.suffix).Nodup := by decide
  have behind : p.names = (PrimitiveRole.all.map PrimitiveRole.suffix).map (p.text ++ ·) :=
    List.map_map.symm
  rw [behind]
  exact suffixes.map fun s t same => (String.append_right_inj p.text).1 same

end ExportPrefix

namespace Source

/-! ## 4. Linked functions -/

/-- What is read from the places of a text, in order. -/
def occurrences {α : Type} (read? : List Token → Option α) : List Token → List α
  | [] => []
  | token :: rest => (read? (token :: rest)).toList ++ occurrences read? rest

def linkName? : List Token → Option String
  | .word "link_name" :: .mark '=' :: .literal symbol :: _ => some symbol
  | _ => none

/-- A function with the symbol that it is linked to: the attribute stands in front of it. -/
def link? : List Token → Option (String × String)
  | .mark '#' :: .mark '[' :: .word "link_name" :: .mark '=' :: .literal symbol :: .mark ']' ::
      .word "fn" :: .word function :: _ => some (symbol, function)
  | _ => none

/-- The symbols that a text links to. -/
def linkNames : List Token → List String := occurrences linkName?

/-- The functions of a text that are linked to a symbol. -/
def links : List Token → List (String × String) := occurrences link?

theorem occurrences_append {α : Type} {read? : List Token → Option α} {front : List Token}
    (none_read : ∀ token ∈ front, ∀ rest, read? (token :: rest) = none) (back : List Token) :
    occurrences read? (front ++ back) = occurrences read? back := by
  induction front with
  | nil => rfl
  | cons token rest ih =>
    rw [List.cons_append, occurrences, none_read token List.mem_cons_self]
    exact ih fun t member => none_read t (List.mem_cons_of_mem _ member)

theorem occurrences_flatMap {α β : Type} {read? : List Token → Option α} {xs : List β}
    {block : β → List Token} {value : β → α}
    (each : ∀ x back, occurrences read? (block x ++ back) = value x :: occurrences read? back)
    (back : List Token) :
    occurrences read? (xs.flatMap block ++ back) = xs.map value ++ occurrences read? back := by
  induction xs with
  | nil => rfl
  | cons x rest ih =>
    rw [List.flatMap_cons, List.append_assoc, each, ih]
    rfl

theorem link?_eq_none {token : Token} (other : token ≠ .mark '#') (rest : List Token) :
    link? (token :: rest) = none := by
  unfold link?
  split
  · next same => cases same; exact absurd rfl other
  · rfl

theorem linkName?_eq_none {token : Token} (other : token ≠ .word "link_name")
    (rest : List Token) : linkName? (token :: rest) = none := by
  unfold linkName?
  split
  · next same => cases same; exact absurd rfl other
  · rfl

/-- The tokens of an attribute that links a function. -/
def linkAttribute (symbol : String) : List Token :=
  [.mark '#', .mark '[', .word "link_name", .mark '=', .literal symbol, .mark ']']

theorem linkNames_append {item : List Token} (plain : .word "link_name" ∉ item) (symbol : String)
    (back : List Token) :
    linkNames (linkAttribute symbol ++ item ++ back) = symbol :: linkNames back := by
  have behind : linkNames (item ++ back) = linkNames back :=
    occurrences_append
      (fun token member => linkName?_eq_none fun same => plain (same ▸ member)) back
  rw [← behind, List.append_assoc]
  rfl

theorem links_append {signature : List Token} (plain : .mark '#' ∉ signature)
    (symbol function : String) (back : List Token) :
    links (linkAttribute symbol ++ .word "fn" :: .word function :: signature ++ back) =
      (symbol, function) :: links back := by
  have behind : links (signature ++ back) = links back :=
    occurrences_append
      (fun token member => link?_eq_none fun same => plain (same ▸ member)) back
  rw [← behind, List.append_assoc]
  rfl

end Source

namespace Bindings

/-! ## 5. The generated files -/

open Source PrefixGrammar

/-- What the names under a prefix are, and what is read from the generated files. -/
structure ReadsBack (text : String) (p : ExportPrefix) : Prop where
  five : p.names.length = 5
  distinct : p.names.Nodup
  formed : ∀ name ∈ p.names, Matches name.toList ∧ text.toList <+: name.toList
  linkedNames : (tokens (declarations p)).map linkNames = some p.names
  /-- The functions are named after the roles. -/
  linkedRoles : (tokens (declarations p)).map links =
    some (PrimitiveRole.all.map fun role => (p.name role, "primitive_" ++ role.label))
  quotedNames : ∀ interiorFree,
    (tokens (constants p interiorFree)).map literals = some (text :: p.names)

theorem toList_unlines (lines : List String) :
    (unlines lines).toList = lines.flatMap fun line => line.toList ++ ['\n'] := by
  rw [unlines, String.toList_join, List.flatMap_map]
  exact congrArg (lines.flatMap ·) (funext fun line => String.toList_append)

variable (p : ExportPrefix)

/-- No character of a name ends a literal or begins an escape, so that names need not be
quoted. -/
theorem run_name (role : PrimitiveRole) (read : List Char) :
    run (.literal read) (p.name role).toList =
      some (.literal ((p.name role).toList.reverse ++ read), []) := by
  refine run_plain (fun c member => ?_) read
  have valid := ((matches_iff _).1 (p.matches_name role)).all_valid c member
  refine ⟨?_, ?_, ?_⟩ <;>
  · rintro rfl
    exact absurd valid (by decide)

theorem run_linkAttribute (role : PrimitiveRole) :
    run .code (("    #[link_name = \"" ++ p.name role ++ "\"]").toList ++ ['\n']) =
      some (.code, linkAttribute (p.name role)) := by
  have opened : run .code "    #[link_name = \"".toList =
      some (.literal [], [.mark '#', .mark '[', .word "link_name", .mark '=']) := rfl
  have closed (read : List Char) : run (.literal read) ("\"]".toList ++ ['\n']) =
      some (.code, [.literal (String.ofList read.reverse), .mark ']']) := rfl
  have all := run_append opened (run_append (run_name p role []) (closed _))
  rw [List.append_nil, List.reverse_reverse, String.ofList_toList] at all
  rw [String.toList_append, String.toList_append, List.append_assoc, List.append_assoc]
  exact all

theorem exists_signature (role : PrimitiveRole) : ∃ signature,
    run .code ((declaration role).toList ++ ['\n']) =
      some (.code, .word "fn" :: .word ("primitive_" ++ role.label) :: signature) ∧
    .mark '#' ∉ signature ∧
    .word "link_name" ∉ .word "fn" :: .word ("primitive_" ++ role.label) :: signature := by
  cases role <;> exact ⟨_, run_ofList rfl, by decide, by decide⟩

/-- The declarations hold an attribute and a function for each role, in a block of their
own. -/
theorem exists_tokens_declarations : ∃ signature : PrimitiveRole → List Token,
    (tokens (declarations p) = some (
      [.word "unsafe", .word "extern", .literal "C", .mark '\x7b'] ++
      (PrimitiveRole.all.flatMap (fun role => linkAttribute (p.name role) ++
        .word "fn" :: .word ("primitive_" ++ role.label) :: signature role) ++ [.mark '\x7d']))) ∧
    ∀ role, .mark '#' ∉ signature role ∧
      .word "link_name" ∉ .word "fn" :: .word ("primitive_" ++ role.label) :: signature role := by
  choose signature read plain using exists_signature
  refine ⟨signature, tokens_eq ?_, plain⟩
  have indented (role : PrimitiveRole) : run .code (("    " ++ declaration role).toList ++ ['\n']) =
      some (.code, .word "fn" :: .word ("primitive_" ++ role.label) :: signature role) := by
    have indent : run .code "    ".toList = some (.code, []) := rfl
    rw [String.toList_append, List.append_assoc]
    exact run_append indent (read role)
  have first : run .code (List.flatMap (fun line : String => line.toList ++ ['\n'])
      [banner, "unsafe extern \"C\" \x7b"]) =
      some (.code, [.word "unsafe", .word "extern", .literal "C", .mark '\x7b']) := rfl
  have last : run .code (List.flatMap (fun line : String => line.toList ++ ['\n']) ["\x7d"]) =
      some (.code, [.mark '\x7d']) := rfl
  rw [declarations, toList_unlines, declarationLines, List.append_assoc, List.flatMap_append,
    List.flatMap_append, List.flatMap_assoc]
  refine run_append first (run_append (run_flatMap fun role _ => ?_) last)
  rw [List.flatMap_cons, List.flatMap_cons, List.flatMap_nil, List.append_nil]
  exact run_append (run_linkAttribute p role) (indented role)

theorem linkNames_declarations : (tokens (declarations p)).map linkNames = some p.names := by
  obtain ⟨signature, shape, plain⟩ := exists_tokens_declarations p
  rw [shape]
  exact congrArg some (occurrences_flatMap
    (fun role back => linkNames_append (plain role).2 (p.name role) back) _)

theorem links_declarations : (tokens (declarations p)).map links =
    some (PrimitiveRole.all.map fun role => (p.name role, "primitive_" ++ role.label)) := by
  obtain ⟨signature, shape, plain⟩ := exists_tokens_declarations p
  rw [shape]
  exact congrArg some (occurrences_flatMap
    (fun role back => links_append (plain role).1 (p.name role) _ back) _)

/-- A line holds what stands between its fixed ends. -/
theorem holds_line {front back : List Char} {middle : String} {found : List String}
    (front_holds : Holds front []) (middle_holds : Holds middle.toList found)
    (back_holds : Holds (back ++ ['\n']) []) :
    Holds ((String.ofList front ++ middle ++ String.ofList back).toList ++ ['\n']) found := by
  rw [String.toList_append, String.toList_append, String.toList_ofList, String.toList_ofList,
    List.append_assoc, List.append_assoc]
  have all := front_holds.append (middle_holds.append back_holds)
  rwa [List.append_nil] at all

/-- The file of constants holds the prefix and the names, in quotes. -/
theorem holds_constants (interiorFree : Bool) :
    Holds (constants p interiorFree).toList (p.text :: p.names) := by
  have first : Holds (banner.toList ++ ['\n']) [] := .ofList ⟨_, rfl, rfl⟩
  have prefixComment : Holds ("/// Prefix of the primitive symbols.".toList ++ ['\n']) [] :=
    .ofList ⟨_, rfl, rfl⟩
  have prefixLine : Holds (("pub const EXPORT_PREFIX: &str = " ++ Text.quoted p.text ++
      ";").toList ++ ['\n']) [p.text] :=
    holds_line ⟨_, rfl, rfl⟩ (holds_quoted p.text) ⟨_, rfl, rfl⟩
  have namesComment : Holds
      ("/// Primitive symbol names: allocate, deallocate, usable-size, lock, unlock.".toList ++
        ['\n']) [] := .ofList ⟨_, rfl, rfl⟩
  have namesLine : Holds (("pub const PRIMITIVE_NAMES: [&str; 5] = [" ++
      ", ".intercalate (p.names.map Text.quoted) ++ "];").toList ++ ['\n']) p.names :=
    holds_line ⟨_, rfl, rfl⟩ (holds_intercalate p.names) ⟨_, rfl, rfl⟩
  have flagComment : Holds ("/// Whether the primitive releases interior pointers.".toList ++
      ['\n']) [] := .ofList ⟨_, rfl, rfl⟩
  -- The flag is no literal but a word, which ends only with the mark behind it.
  have flagLine : Holds (("pub const INTERIOR_FREE: bool = " ++
      (if interiorFree then "true" else "false") ++ ";").toList ++ ['\n']) [] := by
    cases interiorFree <;> exact ⟨_, rfl, rfl⟩
  have all := first.append (prefixComment.append (prefixLine.append (namesComment.append
    (namesLine.append (flagComment.append flagLine)))))
  rw [List.append_nil, List.append_nil, List.nil_append, List.nil_append, List.nil_append,
    List.singleton_append] at all
  simp only [constants, toList_unlines, constantLines, List.flatMap_cons, List.flatMap_nil,
    List.append_nil]
  exact all

/-! ## 6. Prefixes and files agree -/

theorem readsBack (p : ExportPrefix) : ReadsBack p.text p where
  five := rfl
  distinct := p.nodup_names
  formed := by
    intro name member
    obtain ⟨role, -, rfl⟩ := List.mem_map.1 member
    refine ⟨p.matches_name role, ?_⟩
    rw [ExportPrefix.name, String.toList_append]
    exact List.prefix_append _ _
  linkedNames := linkNames_declarations p
  linkedRoles := links_declarations p
  quotedNames interiorFree := (holds_constants p interiorFree).literals_eq

/-- Exactly the texts of the grammar are accepted, and what is generated for one of them
reads back as the prefix and its names. -/
theorem judged_and_readsBack (text : String) : ExportPrefix.Judged text ∧
    ∀ p, ExportPrefix.ofString text = .ok p → ReadsBack text p := by
  refine ⟨ExportPrefix.judged text, fun p accepted => ?_⟩
  have own := readsBack p
  rwa [ExportPrefix.text_of_ofString accepted] at own

/-- The prefix of a build that chooses none is accepted. -/
theorem judged_and_readsBack_default :
    ExportPrefix.ofString ExportPrefix.default.text = .ok ExportPrefix.default ∧
      ReadsBack ExportPrefix.default.text ExportPrefix.default := by
  have accepted := ExportPrefix.ofString_text ExportPrefix.default
  exact ⟨accepted, (judged_and_readsBack ExportPrefix.default.text).2 _ accepted⟩

end Bindings

end MallocLayer
